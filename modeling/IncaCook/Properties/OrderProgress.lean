import IncaCook.Steps.Moves
import IncaCook.Steps.Outlines

/-!
# The progress of an order

A payment confirms an order, its seller prepares it and marks it ready, and on the
way it may be cancelled. Each writer reads the order first and writes later, some
after a call to Stripe. `paymentFailed` and `cancelAsSeller` look at the order
again in the transaction that writes it; the others write whatever it has become
in the meantime.

Main results:

* `order_progress_monotone`: in every interleaving in which the others find the
  order where they saw it, or where they are about to put it, it never goes back;
* `cancelled_order_prepared`: a cancelled order that is prepared.
-/

namespace IncaCook

open Prog Orders Deliveries Webhooks

/-- How far an order has come; nothing leaves `cancelled`. -/
def OrderStatus.rank : OrderStatus → Nat
  | .pending => 0
  | .confirmed => 1
  | .preparing => 2
  | .cancelled => 4
  | _ => 3

def Db.rank (s : Db) (o : OrderId) : Nat := ((s.orderStatus o).map OrderStatus.rank).getD 0

/-- The payment, the preparation and the cancellation of an order. -/
def Call.progresses : Call → Bool
  | .confirmPaymentForBuyer .. | .paymentIntentSucceeded _ | .paymentIntentFailed _
  | .startPreparing .. | .markReady .. | .cancelAsSeller .. => true
  | _ => false

/-- Only these calls arrive. -/
def progressing {cfg : Config} : Pool.Action (service cfg) → Bool
  | .arrive c => Call.progresses c
  | _ => true

/-- Their statements. -/
def Site.progresses : Site → Bool
  | .query | .stripeQuery | .confirmPayment _ | .paymentSucceeded _ | .paymentFailed _
  | .transitionAsSeller _ .preparing | .markReady _ _ | .cancelAsSeller _ | .createRefund _
  | .saveRefund _ | .reversePending _ => true
  | _ => false

/-- The statements that do not look at the order again find it where the call saw
it, or where they put it. -/
def FindsOrder : Site → Db → Prop
  | .confirmPayment o, s | .paymentSucceeded o, s =>
    s.orderStatus o = some .pending ∨ s.orderStatus o = some .confirmed
  | .transitionAsSeller o _, s =>
    s.orderStatus o = some .confirmed ∨ s.orderStatus o = some .preparing
  | .markReady o _, s => s.orderStatus o = some .preparing ∨ s.orderStatus o = some .ready
  | _, _ => True

instance (site : Site) (s : Db) : Decidable (FindsOrder site s) := by
  unfold FindsOrder
  split
  · infer_instance
  · infer_instance
  · infer_instance
  · infer_instance
  · infer_instance

section

variable {cfg : Config} {R : Db → Db → Prop} {me : Nat} {call : Call}
  {h : List (StepRecord machine)} {site : Site} {s s' : Db} {o : OrderId}

/-! ## One step -/

/-- An update of one order that does not put it back. -/
theorem rank_update {f : Order → Order} (hf : ∀ r : Order, (f r).id = r.id) {o' : OrderId}
    (hle : ∀ row, s.orders.find? o' = some row → row.status.rank ≤ (f row).status.rank) :
    s.rank o ≤ ({ s with orders := s.orders.update o' f hf } : Db).rank o := by
  unfold Db.rank Db.orderStatus
  dsimp only
  rw [Table.find?_update]
  by_cases ho : o = o'
  · rw [if_pos ho, ho]
    cases hrow : s.orders.find? o' with
    | none => exact Nat.le_refl 0
    | some row => exact hle row hrow
  · rw [if_neg ho]

theorem rank_of_orders (horders : s'.orders = s.orders) : s'.rank o = s.rank o := by
  rw [Db.rank, Db.orderStatus, horders, ← Db.orderStatus, ← Db.rank]

/-- The row of an order in one of two statuses. -/
theorem status_of_orderStatus {row : Order} {a b : OrderStatus}
    (hc : s.orderStatus o = some a ∨ s.orderStatus o = some b) (hrow : s.orders.find? o = some row) :
    row.status = a ∨ row.status = b := by
  rw [Db.orderStatus, hrow] at hc
  exact hc.imp Option.some.inj Option.some.inj

theorem rank_le_cancelled (status : OrderStatus) : status.rank ≤ OrderStatus.cancelled.rank := by
  cases status with
  | _ => decide

/-- **No step puts an order back.** -/
theorem Step.rank_le (hstep : Step cfg R me call h site s s') (hsite : site.progresses = true)
    (hc : FindsOrder site s) : s.rank o ≤ s'.rank o := by
  cases hstep with
  | noop => exact Nat.le_refl _
  | aside haside => exact Nat.le_of_eq (rank_of_orders haside.orders).symm
  | confirmPayment o' hsaw =>
    -- the write has no guard of its own: `hc` says that it finds the order where the
    -- read left it, or already where it puts it
    refine rank_update _ fun row hrow => ?_
    rcases status_of_orderStatus hc hrow with hstatus | hstatus
    · simp [hstatus, OrderStatus.rank]
    · simp [hstatus, OrderStatus.rank]
  | paymentSucceeded ev order hsaw =>
    refine rank_update _ fun row hrow => ?_
    rw [backfill_status]
    rcases status_of_orderStatus hc hrow with hstatus | hstatus
    · simp [hstatus, OrderStatus.rank]
    · simp [hstatus, OrderStatus.rank]
  | paymentFailed ev order fresh reason hsaw hfresh hpending =>
    refine rank_update _ fun row hrow => ?_
    rw [backfill_status]
    exact rank_le_cancelled row.status
  | startPreparing o' hsaw =>
    refine rank_update _ fun row hrow => ?_
    rcases status_of_orderStatus hc hrow with hstatus | hstatus
    · simp [hstatus, OrderStatus.rank]
    · simp [hstatus, OrderStatus.rank]
  | markReady o' choice token hsaw hnew =>
    refine rank_update _ fun row hrow => ?_
    rcases status_of_orderStatus hc hrow with hstatus | hstatus
    · simp [hstatus, OrderStatus.rank]
    · simp [hstatus, OrderStatus.rank]
  | cancelAsSeller o' reason hfresh hstatus =>
    exact rank_update _ fun row hrow => rank_le_cancelled row.status
  | createRefund o' pi hsaw hpaid hnew => exact Nat.le_refl _
  | saveRefund o' refund hrefund hcause => exact rank_update _ fun row hrow => Nat.le_refl _
  | reversePending o' => exact Nat.le_refl _
  | _ => cases hsite

/-! ## The statements of the six calls -/

/-- The contract of a call that runs these statements only. -/
def progressContract : Contract machine := sitesContract fun site => site.progresses = true

theorem progress_query (h : List (StepRecord machine)) (s : Db) : progressContract.guar h .query s s := rfl

theorem refundOrderIfNeeded_progress : Free progressContract (refundOrderIfNeeded o) :=
  refundOrderIfNeeded_of progress_query (fun _ => free_await_site rfl) (fun _ => free_await_site rfl)
    (free_await_site rfl)

theorem handle_progress (hcall : call.progresses = true) :
    Free progressContract (handle cfg me call) := by
  cases call with
  | confirmPaymentForBuyer sub o =>
    exact free_bind (confirmPaymentForBuyer_of progress_query (fun _ _ => rfl) (free_await_site rfl))
      fun _ => free_pure
  | paymentIntentSucceeded ev =>
    exact free_bind (handlePaymentIntentSucceeded_of progress_query fun _ => free_await_site rfl)
      fun _ => free_pure
  | paymentIntentFailed ev =>
    exact free_bind (handlePaymentIntentFailed_of progress_query fun _ => free_await_site rfl)
      fun _ => free_pure
  | startPreparing sub o =>
    exact free_bind (startPreparing_of progress_query (free_await_site rfl)) fun _ => free_pure
  | markReady sub o =>
    exact free_bind (markReady_of progress_query fun _ => free_await_site rfl) fun _ => free_pure
  | cancelAsSeller sub o reason =>
    exact free_bind (cancelAsSeller_of progress_query (free_await_site rfl) refundOrderIfNeeded_progress)
      fun _ => free_pure
  | _ => cases hcall

/-! ## Runs -/

/-- What is known of the steps of the six calls, whatever the others do. -/
def progressStep (cfg : Config) (me : Nat) : Contract machine where
  rely _ _ := True
  guar h site s s' := site.progresses = true ∧
    ∃ call, Step cfg (fun _ _ => True) me call h site s s'

theorem handle_progressStep (hcall : call.progresses = true) (hadm : admits call s = true) :
    Sat (progressStep cfg me) anyPost (handle cfg me call) [] s := by
  have hstep : Sat (stepContract cfg (fun _ _ => True) me call) anyPost (handle cfg me call) [] s :=
    handle_sat (fun _ _ _ _ _ => trivial) call hadm
  exact ((handle_progress hcall).sat.and hstep).mono (fun _ _ _ => ⟨trivial, trivial⟩)
    (fun _ _ _ _ hg => ⟨hg.1, call, hg.2⟩) fun _ _ _ _ => trivial

end

/-- **Orders never go back** in any interleaving of payments, preparations and
cancellations whose unguarded statements find the order where they expect it: its
rank never decreases, and once cancelled it stays cancelled. -/
theorem order_progress_monotone (cfg : Config) (s₀ : Db)
    (before after : List (Pool.Action (service cfg)))
    (hcalls : ∀ a ∈ before ++ after, progressing a = true)
    (hc : (poolRun s₀ (before ++ after)).Steps FindsOrder) (o : OrderId) :
    Db.rank (poolRun s₀ before).state o ≤ Db.rank (poolRun s₀ (before ++ after)).state o ∧
      (Db.orderStatus (poolRun s₀ before).state o = some .cancelled →
        Db.orderStatus (poolRun s₀ (before ++ after)).state o = some .cancelled) := by
  have hsound : Pool.Sound (progressStep cfg) (fun _ _ => anyPost) (fun _ => True) s₀
      (poolRun s₀ (before ++ after)) := by
    refine Pool.sound_of trivial (fun _ _ _ => trivial) (fun _ _ _ _ _ _ => trivial)
      (fun _ _ _ _ _ _ _ _ => trivial) (fun _ _ _ _ _ _ _ _ => trivial)
      (fun _ _ _ _ _ _ _ _ _ _ => trivial) (fun _ _ _ => ⟨trivial, fun _ => trivial⟩) _ ?_ hc
    intro j c s hmem _ _ _ hadm
    exact handle_progressStep (hcalls _ hmem) hadm
  have hle : Db.rank (poolRun s₀ before).state o ≤ Db.rank (poolRun s₀ (before ++ after)).state o := by
    refine Pool.leads (R := fun s s' => Db.rank s o ≤ Db.rank s' o) (fun _ => Nat.le_refl _)
      (fun _ _ _ => Nat.le_trans) ?_ before after ?_
    · intro e s
      cases e with
      | tick ms => exact Nat.le_refl _
      | paymentSucceeds pi => exact Nat.le_refl _
    · intro e he
      obtain ⟨h, -, -, hsite, call, hstep⟩ := hsound.step e he
      exact hstep.rank_le hsite (hc e he)
  refine ⟨hle, fun hcancelled => ?_⟩
  -- nothing is above `cancelled`
  generalize (poolRun s₀ (before ++ after)).state = s at hle
  rw [Db.rank, hcancelled] at hle
  unfold Db.rank at hle
  cases hstatus : Db.orderStatus s o with
  | none => simp [hstatus, OrderStatus.rank] at hle
  | some status =>
    rw [hstatus] at hle
    cases status with
    | cancelled => rfl
    | _ => simp [OrderStatus.rank] at hle

/-- One step of call `j` in the small town. -/
def smallTownStep (j : Nat) : Pool.Action (service smallTownConfig) := .run j ⟨true, "token", ""⟩

/-- The buyer's confirmation and the webhook confirm the order at the same time. -/
theorem confirmed_twice_keeps_rank :
    let paid := (serialRun smallTown [smallTownCall (.createOrder "buyer" smallTownOrder),
      .event (.paymentSucceeds (.stripe 1))]).state
    let before : List (Pool.Action (service smallTownConfig)) :=
      [.arrive (.confirmPaymentForBuyer "buyer" ⟨0, 0⟩),
        .arrive (.paymentIntentSucceeded ⟨.stripe 1, some ⟨0, 0⟩, none⟩),
        smallTownStep 0, smallTownStep 0, smallTownStep 0, smallTownStep 1, smallTownStep 1]
    Db.rank (poolRun paid before).state ⟨0, 0⟩ = 1 ∧
      Db.rank (poolRun paid before).state ⟨0, 0⟩ ≤
        Db.rank (poolRun paid (before ++ [smallTownStep 0])).state ⟨0, 0⟩ := by
  exact ⟨by decide +kernel, (order_progress_monotone smallTownConfig _ _ [smallTownStep 0]
    (by decide) (by decide +kernel) ⟨0, 0⟩).1⟩

/-- **A cancelled order is prepared.** The seller starts to prepare an order and
cancels it; the first call has read the order before, and writes it after, the
second one has cancelled it. -/
theorem cancelled_order_prepared :
    ¬∀ (cfg : Config) (s₀ : Db) (before after : List (Pool.Action (service cfg))) (o : OrderId),
      (∀ a ∈ before ++ after, progressing a = true) →
        Db.rank (poolRun s₀ before).state o ≤ Db.rank (poolRun s₀ (before ++ after)).state o ∧
          (Db.orderStatus (poolRun s₀ before).state o = some .cancelled →
            Db.orderStatus (poolRun s₀ (before ++ after)).state o = some .cancelled) := by
  intro hclaim
  have hstays := (hclaim smallTownConfig (serialRun smallTown orderPaid).state
    [.arrive (.startPreparing "seller" ⟨0, 0⟩), .arrive (.cancelAsSeller "seller" ⟨0, 0⟩ "closed"),
      smallTownStep 0, smallTownStep 0, smallTownStep 1, smallTownStep 1, smallTownStep 1]
    [smallTownStep 0] ⟨0, 0⟩ (by decide)).2 (by decide +kernel)
  exact absurd hstays (by decide +kernel)

end IncaCook
