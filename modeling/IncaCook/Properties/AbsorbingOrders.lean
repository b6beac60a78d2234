import IncaCook.Steps.Serial

/-!
# Terminal order states

`cancelled` and `refunded` are meant to be final. All statements that write an
order's status check the status they read first, except two on the driver's
side: `confirmPickup` puts the order in delivery and `confirmDeliveredByDriver`
marks it delivered, whatever it was. A run in which these two spare dead orders
never brings one back, and never credits anyone for one.

Main results:

* `dead_order_stays_dead`: dead orders stay dead, and their ledger closed;
* `dead_order_revived`: a refunded order that a driver brings back and is paid for.
-/

namespace IncaCook

open Prog Orders Deliveries Wallets Webhooks

/-- Cancelled, or refunded. -/
def OrderStatus.dead (status : OrderStatus) : Bool := status = .cancelled || status = .refunded

/-- The order exists and is dead. -/
def Db.deadOrder (s : Db) (o : OrderId) : Bool :=
  (s.orders.find? o).any fun row => row.status.dead

/-- The driver's two unguarded statements act on no dead order. -/
def SparesDead : Site → Db → Prop
  | .confirmPickup d _, s => (s.deliveries.find? d).all fun r => !s.deadOrder r.orderId
  | .deliveredByDriver o, s => s.deadOrder o = false
  | _, _ => True

instance (site : Site) (s : Db) : Decidable (SparesDead site s) := by
  unfold SparesDead
  split
  · infer_instance
  · infer_instance
  · infer_instance

section

variable {cfg : Config} {me : Nat} {call : Call} {h : List (StepRecord machine)} {site : Site}
  {s s' : Db} {o : OrderId}

theorem deadOrder_iff : s.deadOrder o = true ↔
    ∃ row, s.orders.find? o = some row ∧ row.status.dead = true := by
  simp [Db.deadOrder, Option.any_eq_true]

/-- No guarded move starts from a dead status, and the other two are excluded. -/
theorem OrderMove.dead {row row' : Order} (hmove : OrderMove cfg call s o site row row')
    (hrow : s.orders.find? o = some row) (hdead : row.status.dead = true)
    (hc : SparesDead site s) : row'.status.dead = true := by
  have hdeadIn : s.deadOrder o = true := deadOrder_iff.mpr ⟨row, hrow, hdead⟩
  cases hmove with
  | deliveredByDriver hfrom hchoice hdelivery =>
    have hspared : s.deadOrder o = false := hc
    rw [hdeadIn] at hspared
    cases hspared
  | confirmPickup hdelivery hof hdriver hfrom =>
    simp only [SparesDead, hdelivery, Option.all_some, hof, hdeadIn] at hc
    cases hc
  | cancelSellerUnavailable hfrom => rfl
  | paymentFailed ev reason hfrom => simp [OrderStatus.dead]
  | refundDispute => rfl
  | _ => simp_all [OrderStatus.dead, cancellableFrom]

theorem Step.dead_order (hstep : Step cfg Eq me call h site s s') (hc : SparesDead site s)
    (hdead : s.deadOrder o = true) : s'.deadOrder o = true := by
  obtain ⟨row, hrow, hst⟩ := deadOrder_iff.mp hdead
  obtain ⟨row', hrow', hmove⟩ := hstep.order_moved hrow
  exact deadOrder_iff.mpr ⟨row', hrow', hmove.dead hrow hst hc⟩

/-- Nobody is credited for a dead order. -/
theorem Step.credits_no_dead_order
    (hstep : Step cfg Eq me call h (.creditCompleted o) s s') (hdead : s.deadOrder o = true) :
    s'.walletEntries = s.walletEntries := by
  obtain ⟨row, hrow, hst⟩ := deadOrder_iff.mp hdead
  cases hstep with
  | noop => rfl
  | aside haside => exact haside.walletEntries
  | creditCompleted _ hR hsaw hstatus =>
    subst hR
    obtain rfl := Option.some.inj (hrow.symm.trans hsaw)
    -- credits are booked for delivered, completed and disputed orders
    rcases hstatus with hstatus | hstatus | hstatus
    · simp [OrderStatus.dead, hstatus] at hst
    · simp [OrderStatus.dead, hstatus] at hst
    · simp [OrderStatus.dead, hstatus] at hst

/-- The order is dead, and the steps have credited nobody for it. -/
def Closed (o : OrderId) (steps : List (StepRecord machine)) (s : Db) : Prop :=
  s.deadOrder o = true ∧ ∀ t ∈ steps, t.site = .creditCompleted o →
    t.post.walletEntries = t.pre.walletEntries

theorem Step.keeps_closed {before : List (StepRecord machine)}
    (hstep : Step cfg Eq me call h site s s') (hc : SparesDead site s)
    (hI : Closed o before s) : Closed o (⟨site, s, s'⟩ :: before) s' := by
  refine ⟨hstep.dead_order hc hI.1, fun t ht hsite => ?_⟩
  rcases List.mem_cons.mp ht with rfl | ht
  · subst hsite
    exact hstep.credits_no_dead_order hI.1
  · exact hI.2 t ht hsite

end

/-- **Terminal states absorb** when the driver's two unguarded statements spare
dead orders: from the moment an order is dead it stays dead, and no later call
credits anyone for it. -/
theorem dead_order_stays_dead (cfg : Config) (s₀ : Db) (before after : List (Input (service cfg)))
    (o : OrderId) (hdead : (serialRun s₀ before).state.deadOrder o = true)
    (hc : (serialRun s₀ (before ++ after)).Steps SparesDead) :
    (serialRun s₀ (before ++ after)).state.deadOrder o = true ∧
      ∃ later, (serialRun s₀ (before ++ after)).calls = later ++ (serialRun s₀ before).calls ∧
        ∀ c ∈ later, ∀ t ∈ c.outcome.steps, t.site = .creditCompleted o →
          t.post.walletEntries = t.pre.walletEntries := by
  rw [serialRun_append] at hc ⊢
  generalize serialRun s₀ before = r at *
  have hstart : r.state.deadOrder o = true ∧ ∃ later, r.calls = later ++ r.calls ∧
      ∀ c ∈ later, ∀ t ∈ c.outcome.steps, t.site = .creditCompleted o →
        t.post.walletEntries = t.pre.walletEntries := ⟨hdead, [], rfl, by simp⟩
  -- the calls of the second half come on top of those of the first
  refine serial_invariant (I := fun (s : Db) calls => s.deadOrder o = true ∧ ∃ later,
    calls = later ++ r.calls ∧ ∀ c ∈ later, ∀ t ∈ c.outcome.steps, t.site = .creditCompleted o →
      t.post.walletEntries = t.pre.walletEntries) hstart ?_ ?_ after hc
  · intro e s calls hI
    cases e with
    | tick ms => exact hI
    | paymentSucceeds pi => exact hI
  · intro c w s calls hI hadm out hout
    obtain ⟨hs, later, hcalls, hlater⟩ := hI
    have hclosed : Closed o out.steps.reverse out.state :=
      call_invariant w hadm ⟨hs, fun t ht => by cases ht⟩ (fun h site s s' hI hc hstep => hstep.keeps_closed hc hI) hout
    refine ⟨hclosed.1, ⟨c, s, out⟩ :: later, by rw [hcalls]; rfl, fun c' hc' => ?_⟩
    rcases List.mem_cons.mp hc' with rfl | hc'
    · exact fun t ht => hclosed.2 t (List.mem_reverse.mpr ht)
    · exact hlater c' hc'

/-- A paid order that the seller cancels stays cancelled, whatever the seller and
the webhook try. -/
theorem cancelled_order_stays_dead :
    (serialRun smallTown ((orderPaid ++ [smallTownCall (.cancelAsSeller "seller" ⟨0, 0⟩ "closed")]) ++
      [smallTownCall (.startPreparing "seller" ⟨0, 0⟩),
        smallTownCall (.paymentIntentSucceeded ⟨.stripe 1, some ⟨0, 0⟩, none⟩)])).state.deadOrder
      ⟨0, 0⟩ = true :=
  (dead_order_stays_dead smallTownConfig smallTown _ _ ⟨0, 0⟩ (by decide +kernel)
    (by decide +kernel)).1

/-- **A dead order comes back.** The buyer of a claimed order reports it as never
received and is refunded; the driver then confirms pickup and delivery. -/
theorem dead_order_revived :
    ¬∀ (cfg : Config) (s₀ : Db) (before after : List (Input (service cfg))) (o : OrderId),
      Fresh s₀ → (serialRun s₀ before).state.deadOrder o = true →
        (serialRun s₀ (before ++ after)).state.deadOrder o = true := by
  intro hclaim
  have hrevived := hclaim smallTownConfig smallTown
    (orderClaimed ++
      [smallTownCall (.createDispute "buyer" ⟨0, 0⟩ ⟨.neverReceived, none, none, none⟩)])
    [smallTownCall (.confirmPickup "driver" ⟨3, 2⟩ ⟨"token", none, none⟩),
      smallTownCall (.confirmDelivery "driver" ⟨3, 2⟩ ⟨"token", none, none⟩)]
    ⟨0, 0⟩ smallTown_fresh (by decide +kernel)
  exact absurd hrevived (by decide +kernel)

end IncaCook
