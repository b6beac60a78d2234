import IncaCook.Steps.Steady

/-!
# Refunded orders

`refundForDispute` marks the order REFUNDED once `refundOrderIfNeeded` has
returned, which it also does when there was nothing to refund, when Stripe threw,
or when the refund's id could not be written.

Main results:

* `refunded_has_refund`: in every serial run in which no refund of a dispute
  fails, a REFUNDED order and an order with a granted dispute have a recorded
  refund;
* `refunded_without_refund`: an order that is REFUNDED although Stripe threw.
-/

namespace IncaCook

open Prog Orders

/-- The order carries a PaymentIntent. -/
def Db.hasPaymentIntent (s : Db) (o : OrderId) : Bool :=
  (s.orders.find? o).any fun row => row.stripePaymentIntentId.isSome

/-- A REFUNDED order, and one with a granted dispute, has a recorded refund. -/
structure MoneyReturned (s : Db) : Prop where
  order : ∀ o row, s.orders.find? o = some row → row.status = .refunded →
    s.refundRecorded o = true
  dispute : ∀ d ∈ s.disputes.rows, d.granted = true → s.refundRecorded d.orderId = true

/-- The order that a statement marks REFUNDED. -/
def Site.marksRefunded : Site → Option OrderId
  | .refundDispute o => some o
  | _ => none

/-- The refund of an order fails in a call: there is nothing to refund, Stripe
refuses, or the id of the refund is not written. -/
def RefundFails (o : OrderId) (pre : Db) (steps : List (StepRecord machine)) : Prop :=
  (pre.refundRecorded o = false ∧ pre.hasPaymentIntent o = false) ∨
  (∃ t ∈ steps, t.site = .createRefund o ∧
    t.post.refunds.rows.length = t.pre.refunds.rows.length) ∨
  ∃ t ∈ steps, t.site = .saveRefund o ∧ t.post.refundRecorded o = false

instance (o : OrderId) (pre : Db) (steps : List (StepRecord machine)) :
    Decidable (RefundFails o pre steps) :=
  inferInstanceAs (Decidable (_ ∨ _ ∨ _))

/-- No order is marked REFUNDED in the call whose refund fails in it. -/
def RefundsGoThrough (pre : Db) (steps : List (StepRecord machine)) : Prop :=
  ∀ t ∈ steps, ∀ o ∈ t.site.marksRefunded, ¬RefundFails o pre steps

section

variable {cfg : Config} {me : Nat} {h : List (StepRecord machine)} {s s' s₀ : Db} {o : OrderId}
  {disputes : Table OrderDispute}

theorem MoneyReturned.steady (hlaw : MoneyReturned s) (hs : Steady s s') : MoneyReturned s' := by
  constructor
  · intro o row' hrow' hstatus'
    obtain ⟨row, hrow, hstatus⟩ := hs.refunded o row' hrow' hstatus'
    exact hs.recorded o (hlaw.order o row hrow hstatus)
  · intro d' hd' hgranted'
    obtain ⟨d, hd, hgranted, hof⟩ := hs.granted d' hd' hgranted'
    rw [← hof]
    exact hs.recorded _ (hlaw.dispute d hd hgranted)

/-- The law but for the disputes about one order. -/
structure ReturnedExcept (o : OrderId) (s : Db) : Prop where
  order : ∀ o row, s.orders.find? o = some row → row.status = .refunded →
    s.refundRecorded o = true
  dispute : ∀ d ∈ s.disputes.rows, d.granted = true →
    d.orderId = o ∨ s.refundRecorded d.orderId = true

theorem ReturnedExcept.steady (hlaw : ReturnedExcept o s) (hs : Steady s s') :
    ReturnedExcept o s' := by
  constructor
  · intro o row' hrow' hstatus'
    obtain ⟨row, hrow, hstatus⟩ := hs.refunded o row' hrow' hstatus'
    exact hs.recorded o (hlaw.order o row hrow hstatus)
  · intro d' hd' hgranted'
    obtain ⟨d, hd, hgranted, hof⟩ := hs.granted d' hd' hgranted'
    rw [← hof]
    exact (hlaw.dispute d hd hgranted).imp_right (hs.recorded _)

theorem MoneyReturned.except (hlaw : MoneyReturned s) : ReturnedExcept o s :=
  ⟨hlaw.order, fun d hd hgranted => .inr (hlaw.dispute d hd hgranted)⟩

theorem ReturnedExcept.settle (hlaw : ReturnedExcept o s) (hr : s.refundRecorded o = true) :
    MoneyReturned s := by
  refine ⟨hlaw.order, fun d hd hgranted => ?_⟩
  rcases hlaw.dispute d hd hgranted with rfl | hd
  · exact hr
  · exact hd

/-! ## The refund of a dispute -/

theorem RefundFails.cons (t : StepRecord machine) (hf : RefundFails o s₀ h) :
    RefundFails o s₀ (t :: h) := by
  rcases hf with hnothing | ⟨t', ht', hrefused⟩ | ⟨t', ht', hunwritten⟩
  · exact .inl hnothing
  · exact .inr (.inl ⟨t', List.mem_cons_of_mem _ ht', hrefused⟩)
  · exact .inr (.inr ⟨t', List.mem_cons_of_mem _ ht', hunwritten⟩)

theorem refundRecorded_of {row : Order} (hrow : s.orders.find? o = some row) :
    s.refundRecorded o = row.stripeRefundId.isSome := by
  rw [Db.refundRecorded, hrow, Option.any_some]

theorem hasPaymentIntent_of {row : Order} (hrow : s.orders.find? o = some row) :
    s.hasPaymentIntent o = row.stripePaymentIntentId.isSome := by
  rw [Db.hasPaymentIntent, hrow, Option.any_some]

/-- The last step of a refund. -/
theorem reversePending_records (hdisputes : s.disputes = disputes)
    (hrecorded : RefundFails o s₀ h ∨ s.refundRecorded o = true) :
    Sat aloneContract (fun h' r s' => r = .ok () ∧ s'.disputes = disputes ∧
        (RefundFails o s₀ h' ∨ s'.refundRecorded o = true))
      (await (.reversePending o) fun _ => reversePending o) h s := by
  refine sat_await fun s₁ hsame _ => ⟨fun e hrun => ?_, fun _ s₂ hrun => ⟨trivial, ?_⟩⟩
  · cases hrun
  · obtain rfl : s = s₁ := hsame
    rw [updateWalletEntries_ok.mp hrun]
    exact ⟨rfl, hdisputes, hrecorded.imp_left (.cons _)⟩

/-- **A refund is recorded or has failed.** -/
theorem refundOrderIfNeeded_records (horders : s.orders = s₀.orders)
    (hdisputes : s.disputes = disputes) :
    Sat aloneContract (fun h' r s' => r = .ok () ∧ s'.disputes = disputes ∧
        (RefundFails o s₀ h' ∨ s'.refundRecorded o = true))
      (refundOrderIfNeeded o) h s := by
  refine sat_read_bind fun s₁ hsame => ⟨trivial, ?_⟩
  obtain rfl : s = s₁ := hsame
  cases ho : s.orders.find? o with
  | none =>
    rw [horders] at ho
    exact sat_pure ⟨rfl, hdisputes, .inl (.inl ⟨by rw [Db.refundRecorded, ho]; rfl,
      by rw [Db.hasPaymentIntent, ho]; rfl⟩)⟩
  | some row =>
    have hrow₀ : s₀.orders.find? o = some row := horders ▸ ho
    cases hrefund : row.stripeRefundId with
    | some refund =>
      simp only [hrefund]
      refine sat_pure ⟨rfl, hdisputes, .inr ?_⟩
      rw [refundRecorded_of ho, hrefund]
      rfl
    | none =>
      cases hpi : row.stripePaymentIntentId with
      | none =>
        simp only [hrefund, hpi]
        refine sat_pure ⟨rfl, hdisputes, .inl (.inl ⟨?_, ?_⟩)⟩
        · rw [refundRecorded_of hrow₀, hrefund]
          rfl
        · rw [hasPaymentIntent_of hrow₀, hpi]
          rfl
      | some pi =>
        simp only [hrefund, hpi]
        refine sat_bind (sat_tryCatch (sat_await_bind fun s₁ hsame i => ⟨fun e _ => ?_, ?_⟩))
        · -- Stripe refuses
          exact ⟨trivial, sat_pure ⟨rfl, hsame ▸ hdisputes,
            .inl (.inr (.inl ⟨_, List.mem_cons_self .., rfl, rfl⟩))⟩⟩
        · intro refund s₂ hrun
          obtain rfl : s = s₁ := hsame
          obtain ⟨refunds, rfl, -, -, rfl⟩ := createRefund_ok hrun
          refine ⟨trivial, sat_bind (sat_tryCatch (sat_await fun s₃ hsame i =>
            ⟨fun e _ => ⟨trivial, ?_⟩, fun _ s₄ hrun => ⟨trivial, ?_⟩⟩))⟩
          · -- the id is not written
            subst hsame
            refine reversePending_records hdisputes (.inl (.inr (.inr
              ⟨_, List.mem_cons_self .., rfl, ?_⟩)))
            exact (refundRecorded_of ho).trans (by rw [hrefund]; rfl)
          · subst hsame
            obtain rfl := saveRefund_ok hrun
            refine reversePending_records hdisputes (.inr ?_)
            unfold Db.refundRecorded
            dsimp only
            rw [Table.find?_update_of_eq ho]
            rfl

/-- After the refund of a dispute. -/
structure DisputeSettled (o : OrderId) (s₀ : Db) (h : List (StepRecord machine)) (s : Db) : Prop where
  marked : ∃ t ∈ h, o ∈ t.site.marksRefunded
  returned : RefundFails o s₀ h ∨ MoneyReturned s ∧ s.refundRecorded o = true

theorem DisputeSettled.step {site : Site} (hsettled : DisputeSettled o s₀ h s) (hs : Steady s s') :
    DisputeSettled o s₀ (⟨site, s, s'⟩ :: h) s' := by
  obtain ⟨⟨t, ht, hmarks⟩, hreturned⟩ := hsettled
  refine ⟨⟨t, List.mem_cons_of_mem _ ht, hmarks⟩, ?_⟩
  rcases hreturned with hfails | ⟨hlaw, hrecorded⟩
  · exact .inl (hfails.cons _)
  · exact .inr ⟨hlaw.steady hs, hs.recorded o hrecorded⟩

/-- What follows the refund of a dispute leaves it settled. -/
theorem DisputeSettled.sat {α : Type} {p : Handler α} (hp : Free steadyContract p)
    (hsettled : DisputeSettled o s₀ h s) : Sat aloneContract (fun h' _ s' => DisputeSettled o s₀ h' s') p h s := by
  have hkeep := (hp h s).keep (I := DisputeSettled o s₀) (fun _ _ _ hsame hI => hsame ▸ hI)
    (fun _ _ _ _ hI hs => hI.step hs) hsettled
  exact hkeep.mono (fun _ _ hR => hR) (fun _ _ _ _ _ => trivial) fun _ _ _ hQ => hQ.2

/-- Marking an order whose refund is recorded. -/
theorem MoneyReturned.mark (hlaw : MoneyReturned s) (hrecorded : s.refundRecorded o = true)
    {f : Order → Order} {hf : ∀ r : Order, (f r).id = r.id}
    (hrefund : ∀ r, (f r).stripeRefundId = r.stripeRefundId) :
    MoneyReturned { s with orders := s.orders.update o f hf } ∧
      Db.refundRecorded { s with orders := s.orders.update o f hf } o = true := by
  have hsame : ∀ o', Db.refundRecorded { s with orders := s.orders.update o f hf } o' =
      s.refundRecorded o' := by
    intro o'
    unfold Db.refundRecorded
    dsimp only
    rw [Table.find?_update]
    split
    · rw [Option.any_map]
      exact congrArg (fun p => Option.any p _) (funext fun r => by rw [hrefund])
    · rfl
  refine ⟨⟨fun o' row' hrow' hstatus => ?_, fun d hd hgranted => ?_⟩, (hsame o).trans hrecorded⟩
  · rw [hsame]
    dsimp only at hrow'
    obtain ⟨row, hrow, ⟨rfl, -⟩ | ⟨-, rfl⟩⟩ := Table.find?_update_some hrow'
    · exact hrecorded
    · exact hlaw.order o' row' hrow hstatus
  · rw [hsame]
    exact hlaw.dispute d hd hgranted

/-- **The refund of a dispute is settled.** -/
theorem refundForDispute_returns (horders : s.orders = s₀.orders)
    (hdisputes : s.disputes = disputes) (hlaw : ReturnedExcept o s) :
    Sat aloneContract (fun h' _ s' => DisputeSettled o s₀ h' s' ∧ s'.disputes = disputes)
      (refundForDispute o) h s := by
  refine sat_bind (((refundOrderIfNeeded_records horders hdisputes).both
    (sat_steady refundOrderIfNeeded_steady)).post ?_)
  rintro h r s₁ ⟨⟨rfl, hdisputes₁, hreturned⟩, hs⟩
  have hlaw₁ := hlaw.steady hs
  refine sat_await fun s₂ hsame _ => ⟨fun e _ => ⟨trivial, ?_⟩, fun _ s₃ hrun => ⟨trivial, ?_⟩⟩
  · subst hsame
    refine ⟨⟨⟨_, List.mem_cons_self .., rfl⟩, ?_⟩, hdisputes₁⟩
    exact hreturned.imp (.cons _) fun hr => ⟨hlaw₁.settle hr, hr⟩
  · subst hsame
    obtain ⟨-, rfl⟩ := updateOrder_ok.mp hrun
    refine ⟨⟨⟨_, List.mem_cons_self .., rfl⟩, ?_⟩, hdisputes₁⟩
    exact hreturned.imp (.cons _) fun hr => (hlaw₁.settle hr).mark hr fun _ => rfl

/-! ## The two calls that refund a dispute -/

/-- What a call owes at its end. -/
def Owes (s₀ : Db) (h : List (StepRecord machine)) (s : Db) : Prop :=
  RefundsGoThrough s₀ h → MoneyReturned s

theorem DisputeSettled.owes (hsettled : DisputeSettled o s₀ h s) : Owes s₀ h s := by
  intro hthrough
  obtain ⟨t, ht, hmarks⟩ := hsettled.marked
  rcases hsettled.returned with hfails | ⟨hlaw, -⟩
  · exact absurd hfails (hthrough t ht o hmarks)
  · exact hlaw

/-- Only a decision that refunds grants the dispute. -/
theorem decideDispute_granted {type : DisputeType} {delivery : Option Delivery} {total : Cents}
    {decision : DisputeDecision} (hdecide : decideDispute type delivery total = .ok decision)
    (hno : decision.autoRefund = false) :
    decision.status ≠ .autoRefunded ∧ decision.refundApproved = false := by
  unfold decideDispute at hdecide
  split at hdecide
  · cases hdecide
    exact ⟨nofun, rfl⟩
  · split at hdecide
    · cases hdecide
      exact ⟨nofun, rfl⟩
    · cases hdecide
      cases hno
  · cases hdecide
    cases hno
  · cases hdecide
    exact ⟨nofun, rfl⟩
  · cases hdecide
    exact ⟨nofun, rfl⟩
  · cases hdecide
    exact ⟨nofun, rfl⟩
  · cases hdecide

/-- A dispute row about an order does not change what is owed to the others. -/
theorem MoneyReturned.file (hlaw : MoneyReturned s) {row : OrderDispute}
    (hnew : s.disputes.insert? row = some disputes) :
    ReturnedExcept row.orderId { s with disputes } ∧
      (row.granted = false → MoneyReturned { s with disputes }) := by
  refine ⟨⟨hlaw.order, fun d hd hgranted => ?_⟩, fun hno => ⟨hlaw.order, fun d hd hgranted => ?_⟩⟩
  · rcases (Table.mem_insert hnew).mp hd with rfl | hd
    · exact .inl rfl
    · exact .inr (hlaw.dispute d hd hgranted)
  · rcases (Table.mem_insert hnew).mp hd with rfl | hd
    · rw [hno] at hgranted
      cases hgranted
    · exact hlaw.dispute d hd hgranted

theorem fileDispute_alone {sub : String} {dto : CreateDisputeDto} (hlaw : MoneyReturned s) :
    Sat aloneContract (fun _ r s' => match r with
        | .ok (dispute, decision) => s'.orders = s.orders ∧ ReturnedExcept dispute.orderId s' ∧
          (decision.autoRefund = false → MoneyReturned s')
        | .error _ => MoneyReturned s') (fileDispute me sub o dto) h s := by
  unfold fileDispute assertSellerUser checkClaim
  simp only [bind_assoc]
  refine sat_read_bind fun s₁ hsame => ⟨trivial, ?_⟩
  obtain rfl : s = s₁ := hsame
  refine sat_orThrow_bind (fun _ => hlaw) fun buyer _ => ?_
  refine sat_read_bind fun s₁ hsame => ⟨trivial, ?_⟩
  obtain rfl : s = s₁ := hsame
  refine sat_orThrow_bind (fun _ => hlaw) fun row hrow => ?_
  refine sat_throwIf_bind (fun _ => hlaw) fun _ => sat_throwIf_bind (fun _ => hlaw) fun _ => ?_
  refine sat_throwIf_bind (fun _ => hlaw) fun _ => sat_throwIf_bind (fun _ => hlaw) fun _ => ?_
  refine sat_throwIf_bind (fun _ => hlaw) fun _ => sat_read_bind fun s₁ hsame => ⟨trivial, ?_⟩
  obtain rfl : s = s₁ := hsame
  refine sat_throwIf_bind (fun _ => hlaw) fun _ => sat_bind ?_
  cases hdecide : decideDispute dto.type (s.latestDelivery o) row.buyerTotalCents with
  | error e => exact hlaw
  | ok decision =>
    -- up to here only reads; the one write is the row of the dispute
    refine sat_await_bind fun s₁ hsame i => ⟨fun e _ => ⟨trivial, ?_⟩, fun dispute s₂ hrun => ?_⟩
    · obtain rfl : s = s₁ := hsame
      exact hlaw
    · obtain rfl : s = s₁ := hsame
      simp only [Stmt.bind_ok, Stmt.get_ok, createDisputeRow_ok, Stmt.pure_ok] at hrun
      obtain ⟨_, _, ⟨rfl, rfl⟩, _, _, ⟨disputes, hnew, rfl⟩, rfl, rfl⟩ := hrun
      obtain ⟨hexcept, hnot⟩ := hlaw.file hnew
      refine ⟨trivial, rfl, hexcept, fun hno => hnot ?_⟩
      obtain ⟨hstatus, happroved⟩ := decideDispute_granted hdecide hno
      simp [OrderDispute.granted, newDispute, hstatus, happroved]

theorem createDispute_owes {sub : String} {dto : CreateDisputeDto} (hlaw : MoneyReturned s₀) :
    Sat aloneContract (fun h' _ s' => Owes s₀ h' s') (createDispute me sub o dto) h s₀ := by
  refine sat_bind ((fileDispute_alone hlaw).post ?_)
  intro h r s hfiled
  cases r with
  | error e => exact fun _ => hfiled
  | ok p =>
    obtain ⟨dispute, decision⟩ := p
    obtain ⟨horders, hexcept, hnot⟩ := hfiled
    unfold applyDecision
    simp only [bind_assoc]
    -- the strike comes last and leaves disputes and refunds alone
    have hrest : Free steadyContract (do
        runIf decision.sellerStrike do
          try
            let _ ← Strikes.addStrike me
              { userId := dispute.sellerId, role := .seller, points := 1, reason := .wrongOrder
                severity := .light, sourceType := .order, orderId := some dispute.orderId }
          catch _ =>
            pure ()
        pure ({ dispute, message := decision.message } : CreateDisputeResult)) :=
      free_bind (free_runIf fun _ => strike_steady) fun _ => free_pure
    refine sat_runIf_bind (fun _ => ?_) fun hno => ?_
    · refine sat_bind ((refundForDispute_returns horders rfl hexcept).post ?_)
      rintro h r s₁ ⟨hsettled, -⟩
      cases r with
      | error e => exact hsettled.owes
      | ok _ => exact (hsettled.sat hrest).post fun _ _ _ hs => hs.owes
    · refine (sat_steady hrest).post fun _ _ s₁ hs _ => ?_
      exact (hnot (by simpa using hno)).steady hs

theorem adminApproveRefund_owes {id : DisputeId} {notes : Option String}
    (hlaw : MoneyReturned s₀) :
    Sat aloneContract (fun h' _ s' => Owes s₀ h' s') (adminApproveRefund id notes) h s₀ := by
  unfold adminApproveRefund getDispute
  simp only [bind_assoc]
  refine sat_read_bind fun s₁ hsame => ⟨trivial, ?_⟩
  obtain rfl : s₀ = s₁ := hsame
  refine sat_orThrow_bind (fun _ _ => hlaw) fun dispute hdispute => ?_
  refine sat_read_bind fun s₁ hsame => ⟨trivial, ?_⟩
  obtain rfl : s₀ = s₁ := hsame
  refine sat_bind ((refundForDispute_returns rfl rfl hlaw.except).post ?_)
  rintro h r s₁ ⟨hsettled, hdisputes⟩
  cases r with
  | error e => exact hsettled.owes
  | ok _ =>
    refine sat_await fun s₂ hsame _ => ⟨fun e _ => ⟨trivial, ?_⟩, fun _ s₃ hrun => ⟨trivial, ?_⟩⟩
    · obtain rfl : s₁ = s₂ := hsame
      exact (hsettled.step (.refl s₁)).owes
    · obtain rfl : s₁ = s₂ := hsame
      simp only [writeDecision, Stmt.bind_ok, Stmt.get_ok, updateDispute_ok, Tx.orThrow_ok] at hrun
      obtain ⟨_, _, ⟨rfl, rfl⟩, _, _, ⟨-, rfl⟩, _, _, ⟨rfl, rfl⟩, -, rfl⟩ := hrun
      intro hthrough
      obtain ⟨t, ht, hmarks⟩ := hsettled.marked
      rcases hsettled.returned with hfails | ⟨hlaw₁, hrecorded⟩
      · exact absurd (hfails.cons _) (hthrough t (List.mem_cons_of_mem _ ht) _ hmarks)
      · refine ⟨hlaw₁.order, fun d hd hgranted => ?_⟩
        dsimp only at hd
        obtain ⟨d₁, hd₁, rfl⟩ := Table.mem_update.mp hd
        split
        · -- the dispute that is approved
          rename_i hid
          have hfound := Table.find?_of_mem hd₁
          rw [hid, hdisputes, hdispute] at hfound
          obtain rfl : dispute = d₁ := Option.some.inj hfound
          exact hrecorded
        · rename_i hid
          rw [if_neg hid] at hgranted
          exact hlaw₁.dispute d₁ hd₁ hgranted

/-! ## The law -/

/-- What a call does to the law. -/
theorem handle_owes {call : Call} (hlaw : MoneyReturned s₀) :
    Sat aloneContract (fun h' _ s' => Owes s₀ h' s') (handle cfg me call) h s₀ := by
  cases hcall : call.decidesDispute with
  | false => exact (sat_steady (handle_steady hcall)).post fun _ _ _ hs _ => hlaw.steady hs
  | true =>
    cases call with
    | createDispute sub o dto =>
      refine sat_bind ((createDispute_owes hlaw).post fun h r s howes => ?_)
      cases r with
      | error e => exact howes
      | ok result => exact howes
    | adminApproveRefund id notes =>
      refine sat_bind ((adminApproveRefund_owes hlaw).post fun h r s howes => ?_)
      cases r with
      | error e => exact howes
      | ok result => exact howes
    | _ => cases hcall

theorem refundsGoThrough_reverse {steps : List (StepRecord machine)} :
    RefundsGoThrough s₀ steps.reverse ↔ RefundsGoThrough s₀ steps := by
  simp only [RefundsGoThrough, RefundFails, List.mem_reverse]

theorem MoneyReturned.event (hlaw : MoneyReturned s) (e : Event) : MoneyReturned (applyEvent e s) := by
  cases e with
  | tick ms => exact ⟨hlaw.order, hlaw.dispute⟩
  | paymentSucceeds pi => exact ⟨hlaw.order, hlaw.dispute⟩

end

theorem Fresh.moneyReturned {s₀ : Db} (hfresh : Fresh s₀) : MoneyReturned s₀ := by
  constructor
  · intro o row hrow _
    rw [Table.find?, hfresh.orders] at hrow
    cases hrow
  · intro d hd _
    rw [hfresh.disputes] at hd
    cases hd

/-- **A REFUNDED status means money was returned**, when every dispute's refund goes
through. -/
theorem refunded_has_refund (cfg : Config) (s₀ : Db) (inputs : List (Input (service cfg)))
    (h0 : Fresh s₀) (hc : ∀ c ∈ (serialRun s₀ inputs).calls, RefundsGoThrough c.pre c.outcome.steps) :
    MoneyReturned (serialRun s₀ inputs).state := by
  refine serial_invariant_calls (I := fun s _ => MoneyReturned s) (r := ⟨s₀, []⟩)
    (P := fun c : CallRecord (service cfg) => RefundsGoThrough c.pre c.outcome.steps)
    h0.moneyReturned
    (fun e s _ hlaw => hlaw.event e) inputs ?_ hc
  intro call w s calls _ hlaw _ o hthrough
  have hsat : Sat aloneContract (fun h' _ s' => Owes s h' s') (handle cfg calls.length call) [] s :=
    handle_owes hlaw
  have howes := (hsat.exec (fun _ => rfl) w).2
  rw [List.append_nil] at howes
  exact howes (refundsGoThrough_reverse.mpr hthrough)

instance (pre : Db) (steps : List (StepRecord machine)) :
    Decidable (RefundsGoThrough pre steps) :=
  inferInstanceAs (Decidable (∀ t ∈ steps, ∀ o ∈ t.site.marksRefunded, ¬RefundFails o pre steps))

/-- The buyer of a paid order received another one. -/
def wrongOrderClaimed : List (Input (service smallTownConfig)) :=
  orderPaid ++ [smallTownCall (.createDispute "buyer" ⟨0, 0⟩ ⟨.wrongOrder, none, none, none⟩)]

/-- The same claim, at which Stripe throws. -/
def refundThrows : List (Input (service smallTownConfig)) :=
  orderPaid ++ [.call (.createDispute "buyer" ⟨0, 0⟩ ⟨.wrongOrder, none, none, none⟩)
    fun _ => ⟨false, "token", "charge_disputed"⟩]

/-- The claim of a paid order is refunded. -/
theorem wrong_order_refunded :
    (serialRun smallTown wrongOrderClaimed).state.orderStatus ⟨0, 0⟩ = some .refunded ∧
      MoneyReturned (serialRun smallTown wrongOrderClaimed).state :=
  ⟨by decide +kernel,
    refunded_has_refund smallTownConfig smallTown wrongOrderClaimed smallTown_fresh (by decide +kernel)⟩

/-- **REFUNDED without a refund.** Stripe throws, and the order is marked all the same. -/
theorem refunded_without_refund :
    ¬∀ (cfg : Config) (s₀ : Db) (inputs : List (Input (service cfg))), Fresh s₀ →
      MoneyReturned (serialRun s₀ inputs).state := by
  intro hclaim
  have hlaw := hclaim smallTownConfig smallTown refundThrows smallTown_fresh
  have hmarked : ∃ row ∈ (serialRun smallTown refundThrows).state.orders.rows,
      row.status = .refunded ∧ row.stripeRefundId = none := by
    decide +kernel
  obtain ⟨row, hrow, hstatus, hnone⟩ := hmarked
  have hfound := Table.find?_of_mem hrow
  have hrecorded := hlaw.order _ row hfound hstatus
  rw [refundRecorded_of hfound, hnone] at hrecorded
  cases hrecorded

end IncaCook
