import IncaCook.Library.Runs
import IncaCook.Steps.Ledger

/-!
# Cancellations that come too late

`cancelAsSeller` looks at the order twice, the second time inside its transaction. When
the order has moved on in between, the transaction writes nothing; but what follows it,
the refund, runs all the same.

Main results:

* `cancelAsSeller_sat`: the steps of one cancellation, each after those before it;
* `lost_cancellation_iff`: a lost cancellation leaves no trace in exactly the runs where
  it then finds nothing to refund.
-/

namespace IncaCook

open Prog Orders

/-! ## Lost cancellations -/

/-- The order can still be cancelled by its seller. -/
def Db.cancellable (s : Db) (o : OrderId) : Bool :=
  (s.orders.find? o).any fun row => row.status ∈ cancellableFrom

/-- The order has a PaymentIntent and no refund. -/
def Db.unrefunded (s : Db) (o : OrderId) : Bool :=
  (s.orders.find? o).any fun row =>
    row.stripeRefundId.isNone && row.stripePaymentIntentId.isSome

/-- The transaction of the call found the order in a status in which it cannot be cancelled. -/
def LostRace (o : OrderId) (steps : List (StepRecord machine)) : Prop :=
  ∃ t ∈ steps, t.site = .cancelAsSeller o ∧ Db.cancellable t.pre o = false

instance (o : OrderId) (steps : List (StepRecord machine)) : Decidable (LostRace o steps) :=
  inferInstanceAs (Decidable (∃ t ∈ steps, (t.site : Site) = .cancelAsSeller o ∧
    Db.cancellable t.pre o = false))

/-- No step changes anything, and no refund is asked for. -/
def Traceless (steps : List (StepRecord machine)) : Prop :=
  ∀ t ∈ steps, t.post = t.pre ∧ ∀ o, t.site ≠ .createRefund o

/-- With its first read after the transaction the call found the order still to be
refunded. The steps are listed newest first. -/
def refundDue (o : OrderId) : List (StepRecord machine) → Bool
  | r :: t :: earlier =>
    (decide (t.site = .cancelAsSeller o) && Db.unrefunded r.pre o) || refundDue o (t :: earlier)
  | _ => false

theorem refundDue_append {o : OrderId} (later : List (StepRecord machine))
    {earlier : List (StepRecord machine)} (h : refundDue o earlier = true) :
    refundDue o (later ++ earlier) = true := by
  induction later with
  | nil => exact h
  | cons t later ih =>
    rw [List.cons_append]
    cases hrest : later ++ earlier with
    | nil =>
      rw [hrest] at ih
      exact ih
    | cons r rest =>
      rw [hrest] at ih
      rw [refundDue, ih, Bool.or_true]

/-! ## The steps of a cancellation -/

/-- What a step of a cancellation does, after the steps `h`. -/
inductive CancelStep (o : OrderId) (h : List (StepRecord machine)) : Site → Db → Db → Prop where
  | read {s : Db} : CancelStep o h .query s s
  | cancel {s s' : Db} (hfirst : ∀ t ∈ h, t.site = .query)
      (hlost : s.cancellable o = false → s' = s) : CancelStep o h (.cancelAsSeller o) s s'
  /-- the refund, for an order that was found without one -/
  | refund {site : Site} {s s' : Db} (hdue : refundDue o h = true) : CancelStep o h site s s'

def cancelContract (o : OrderId) : Contract machine where
  rely _ _ := True
  guar := CancelStep o

variable {s s' : Db} {o : OrderId} {sub reason : String} {h : List (StepRecord machine)}

theorem cancelAsSellerTx_lost {u : Unit} (hrun : cancelAsSellerTx o reason s = .ok (u, s'))
    (hlost : s.cancellable o = false) : s' = s := by
  simp only [cancelAsSellerTx, Stmt.bind_ok, Stmt.get_ok, Tx.orThrow_ok] at hrun
  obtain ⟨_, _, ⟨rfl, rfl⟩, fresh, _, ⟨hfresh, rfl⟩, hrun⟩ := hrun
  have hnot : fresh.status ∉ cancellableFrom := by simpa [Db.cancellable, hfresh] using hlost
  rw [if_neg hnot] at hrun
  exact (Stmt.pure_ok.mp hrun).2

/-- Once the refund is asked for, anything may follow. -/
theorem refund_asked {α : Type} {p : Handler α} (hdue : refundDue o h = true)
    (hasked : ∃ t ∈ h, t.site = .createRefund o) :
    Sat (cancelContract o) (fun h' _ _ => ∃ t ∈ h', t.site = .createRefund o) p h s := by
  induction p generalizing h s with
  | done r => exact hasked
  | atomic site effect next ih =>
    intro s₁ _ i
    obtain ⟨t, ht, hsite⟩ := hasked
    exact ⟨.refund hdue, ih i s₁ (refundDue_append [_] hdue) ⟨t, List.mem_cons_of_mem _ ht, hsite⟩⟩

/-- **The steps of a cancellation**: reads, the transaction, and a refund only of an
order that is still to be refunded. -/
theorem cancelAsSeller_sat :
    Sat (cancelContract o) (fun h _ _ => refundDue o h = true → ∃ t ∈ h, t.site = .createRefund o)
      (cancelAsSeller sub o reason) [] s := by
  unfold cancelAsSeller assertSellerUser loadOrderForSellerAction
  simp only [bind_assoc]
  refine sat_read_bind fun s₀ _ => ⟨.read, sat_orThrow_bind (fun _ => ?_) fun user _ => ?_⟩
  · exact fun hdue => absurd hdue (by simp [refundDue])
  refine sat_pure_bind (sat_read_bind fun s₁ _ => ⟨.read, ?_⟩)
  have hreads : refundDue o [⟨.query, s₁, s₁⟩, ⟨.query, s₀, s₀⟩] = false := by simp [refundDue]
  refine sat_orThrow_bind (fun _ hdue => absurd hdue (by simp [hreads])) fun row _ => ?_
  refine sat_throwIf_bind (fun _ hdue => absurd hdue (by simp [hreads])) fun _ => ?_
  refine sat_pure_bind (sat_throwIf_bind (fun _ hdue => absurd hdue (by simp [hreads])) fun _ => ?_)
  have htx : ∀ s₂ s₃, refundDue o [⟨.cancelAsSeller o, s₂, s₃⟩, ⟨.query, s₁, s₁⟩, ⟨.query, s₀, s₀⟩] =
      false := fun s₂ s₃ => by simp [refundDue]
  refine sat_await_bind fun s₂ _ _ => ⟨fun e _ => ⟨?_, ?_⟩, fun _ s₃ hrun => ⟨?_, ?_⟩⟩
  · exact .cancel (by simp) fun _ => rfl
  · intro hdue
    rw [htx s₂ s₂] at hdue
    cases hdue
  · exact .cancel (by simp) (cancelAsSellerTx_lost hrun)
  unfold refundOrderIfNeeded
  simp only [bind_assoc]
  refine sat_read_bind fun s₄ _ => ⟨.read, ?_⟩
  -- the call ends with a last look at the order, when there is nothing to refund
  have hend : s₄.unrefunded o = false → Sat (cancelContract o)
      (fun h _ _ => refundDue o h = true → ∃ t ∈ h, t.site = .createRefund o)
      (findOrderWithRelations o) [⟨.query, s₄, s₄⟩, ⟨.cancelAsSeller o, s₂, s₃⟩, ⟨.query, s₁, s₁⟩,
        ⟨.query, s₀, s₀⟩] s₄ := by
    intro hnone
    refine sat_read_bind fun s₅ _ => ⟨.read, ?_⟩
    have hlook : refundDue o [⟨.query, s₅, s₅⟩, ⟨.query, s₄, s₄⟩, ⟨.cancelAsSeller o, s₂, s₃⟩,
        ⟨.query, s₁, s₁⟩, ⟨.query, s₀, s₀⟩] = false := by simp [refundDue, hnone]
    have hnever : refundDue o [⟨.query, s₅, s₅⟩, ⟨.query, s₄, s₄⟩, ⟨.cancelAsSeller o, s₂, s₃⟩,
        ⟨.query, s₁, s₁⟩, ⟨.query, s₀, s₀⟩] ≠ true := by simp [hlook]
    cases s₅.orders.find? o with
    | none => exact fun hdue => absurd hdue hnever
    | some row => exact fun hdue => absurd hdue hnever
  cases ho : s₄.orders.find? o with
  | none => exact sat_pure_bind (hend (by simp [Db.unrefunded, ho]))
  | some row' =>
    cases hrefund : row'.stripeRefundId with
    | some _ =>
      simp only [hrefund]
      exact sat_pure_bind (hend (by simp [Db.unrefunded, ho, hrefund]))
    | none =>
      cases hpi : row'.stripePaymentIntentId with
      | none =>
        simp only [hrefund, hpi]
        exact sat_pure_bind (hend (by simp [Db.unrefunded, ho, hpi]))
      | some pi =>
        simp only [hrefund, hpi]
        have hdue : refundDue o [⟨.query, s₄, s₄⟩, ⟨.cancelAsSeller o, s₂, s₃⟩, ⟨.query, s₁, s₁⟩,
            ⟨.query, s₀, s₀⟩] = true := by simp [refundDue, Db.unrefunded, ho, hrefund, hpi]
        -- the first step of what is left is the request
        exact fun s₅ _ i => ⟨.refund hdue,
          (refund_asked (refundDue_append [_] hdue) ⟨_, List.mem_cons_self .., rfl⟩).post
            fun _ _ _ hasked _ => hasked⟩

/-- A cancellation that lost the race, and found nothing to refund, has changed nothing. -/
theorem traceless_of_lost {steps : List (StepRecord machine)}
    (hsteps : ∀ later t earlier, steps = later ++ t :: earlier →
      CancelStep o earlier t.site t.pre t.post)
    (hlost : LostRace o steps) (hnot : refundDue o steps = false) : Traceless steps := by
  have hnodue : ∀ later t earlier, steps = later ++ t :: earlier → refundDue o earlier ≠ true := by
    intro later t earlier hsplit hdue
    have hall := refundDue_append (later ++ [t]) hdue
    rw [List.append_assoc, List.singleton_append, ← hsplit, hnot] at hall
    cases hall
  -- before the transaction there are only reads, so there is only one transaction
  have hfirst : ∀ later t earlier, steps = later ++ t :: earlier → t.site = .cancelAsSeller o →
      ∀ t' ∈ earlier, t'.site = .query := by
    intro later t earlier hsplit hsite
    obtain ⟨site, pre, post⟩ := t
    obtain rfl : site = .cancelAsSeller o := hsite
    cases hsteps later _ earlier hsplit with
    | cancel hreads hnoop => exact hreads
    | refund hdue => exact absurd hdue (hnodue _ _ _ hsplit)
  obtain ⟨tx, htx, hsite, hnotcancellable⟩ := hlost
  intro t ht
  obtain ⟨later, earlier, hsplit⟩ := List.append_of_mem ht
  have hstep := hsteps later t earlier hsplit
  obtain ⟨site, pre, post⟩ := t
  cases hstep with
  | read => exact ⟨rfl, fun _ => nofun⟩
  | refund hdue => exact absurd hdue (hnodue _ _ _ hsplit)
  | cancel hreads hnoop =>
    refine ⟨?_, fun _ => nofun⟩
    rw [hsplit] at htx
    rcases List.mem_append.mp htx with hlater | htx
    · obtain ⟨l₁, l₂, rfl⟩ := List.append_of_mem hlater
      have hread := hfirst l₁ tx (l₂ ++ ⟨.cancelAsSeller o, pre, post⟩ :: earlier)
        (by rw [hsplit, List.append_assoc, List.cons_append]) hsite ⟨.cancelAsSeller o, pre, post⟩
        (by simp)
      cases hread
    · rcases List.mem_cons.mp htx with rfl | hearlier
      · exact hnoop hnotcancellable
      · rw [hreads tx hearlier] at hsite
        cases hsite

/-! ## The result -/

/-- **Which lost cancellations leave no trace.** In every interleaving with any other
calls: if the transaction of a cancellation finds the order in a status in which it
cannot be cancelled, then the call changes nothing and asks for no refund, provided
that it next finds the order refunded or without a PaymentIntent; a call that is over
did so only then. -/
theorem lost_cancellation_iff (cfg : Config) (s₀ : Db) (actions : List (Pool.Action (service cfg)))
    (j : Nat) (sub : String) (o : OrderId) (reason : String)
    (hj : (poolRun s₀ actions).call? j = some (.cancelAsSeller sub o reason))
    (hlost : LostRace o (Pool.ownSteps j (poolRun s₀ actions).trace)) :
    (refundDue o (Pool.ownSteps j (poolRun s₀ actions).trace) = false →
      Traceless (Pool.ownSteps j (poolRun s₀ actions).trace)) ∧
    ((poolRun s₀ actions).result? j ≠ none →
      Traceless (Pool.ownSteps j (poolRun s₀ actions).trace) →
        refundDue o (Pool.ownSteps j (poolRun s₀ actions).trace) = false) := by
  -- a cancellation that finds a refund due asks for it before it ends
  have hcall : ∀ s, Sat (cancelContract o)
      (fun h _ _ => refundDue o h = true → ∃ t ∈ h, t.site = .createRefund o)
      ((service cfg).handle j (.cancelAsSeller sub o reason)) [] s := by
    intro s
    refine sat_bind (cancelAsSeller_sat.post fun h r s hr => ?_)
    cases r with
    | error e => exact hr
    | ok row => exact hr
  obtain ⟨hsteps, hover⟩ := Pool.own_sat (fun _ _ => trivial) hcall hj
  generalize Pool.ownSteps j (poolRun s₀ actions).trace = steps at *
  refine ⟨fun hnot => traceless_of_lost hsteps hlost hnot, fun hdone htraceless => ?_⟩
  obtain ⟨r, hr⟩ := Option.ne_none_iff_exists'.mp hdone
  rw [← Bool.not_eq_true]
  intro hdue
  obtain ⟨t, ht, hsite⟩ := hover r hr hdue
  exact (htraceless t ht).2 o hsite

/-- Two taps on "cancel" (calls 0 and 1): the second overtakes the first and cancels. -/
def cancelledTwice : List (Pool.Action (service smallTownConfig)) :=
  .arrive (.cancelAsSeller "seller" ⟨0, 0⟩ "no gas") ::
    List.replicate 2 (.run 0 ⟨true, "token", ""⟩) ++
    .arrive (.cancelAsSeller "seller" ⟨0, 0⟩ "no gas") ::
    List.replicate 12 (.run 1 ⟨true, "token", ""⟩) ++
    List.replicate 4 (.run 0 ⟨true, "token", ""⟩)

/-- The driver picks the order up (call 1) while the seller cancels it (call 0). -/
def cancelledAtPickup : List (Pool.Action (service smallTownConfig)) :=
  .arrive (.cancelAsSeller "seller" ⟨0, 0⟩ "no gas") ::
    List.replicate 2 (.run 0 ⟨true, "token", ""⟩) ++
    .arrive (.confirmPickup "driver" ⟨3, 2⟩ ⟨"token", none, none⟩) ::
    List.replicate 12 (.run 1 ⟨true, "token", ""⟩) ++
    List.replicate 12 (.run 0 ⟨true, "token", ""⟩)

theorem cancelledTwice_traceless :
    Traceless (Pool.ownSteps 0
      (poolRun (serialRun smallTown orderClaimed).state cancelledTwice).trace) := by
  have hiff := lost_cancellation_iff smallTownConfig (serialRun smallTown orderClaimed).state
    cancelledTwice 0 "seller" ⟨0, 0⟩ "no gas" (Pool.call?_first rfl _) (by decide +kernel)
  exact hiff.1 (by decide +kernel)

/-- **A lost cancellation that refunds.** The order is in delivery, and its buyer has
the money back. -/
theorem cancelledAtPickup_refunds :
    LostRace ⟨0, 0⟩ (Pool.ownSteps 0
      (poolRun (serialRun smallTown orderClaimed).state cancelledAtPickup).trace) ∧
    ¬Traceless (Pool.ownSteps 0
      (poolRun (serialRun smallTown orderClaimed).state cancelledAtPickup).trace) := by
  refine ⟨by decide +kernel, fun htraceless => ?_⟩
  have hasked : ∃ t ∈ Pool.ownSteps 0
      (poolRun (serialRun smallTown orderClaimed).state cancelledAtPickup).trace,
      (t.site : Site) = .createRefund ⟨0, 0⟩ := by decide +kernel
  obtain ⟨t, ht, hsite⟩ := hasked
  exact (htraceless t ht).2 ⟨0, 0⟩ hsite

end IncaCook
