import IncaCook.Steps.Serial

/-!
# Refunds and earnings

The money of an order goes back to its buyer or on to its seller and driver, not
both ways. Two statements break this: a dispute may refund an order whose
earnings have been released already, and `confirmDeliveredByDriver` completes an
order that has been refunded on its way, which is then credited and released
like any other.

Main results:

* `refunded_order_not_earned`: without these two, no refunded order has released
  earnings;
* `refunded_order_earned`: an order refunded on its way and earned all the same.
-/

namespace IncaCook

open Prog Orders Deliveries Wallets Webhooks

/-- An earning of a seller or driver, other than the compensations that the code
pays on purpose beside a refund. -/
def WalletEntry.earning (e : WalletEntry) : Bool :=
  (e.type = .orderEarning || e.type = .deliveryEarning) &&
    e.metadata ≠ some .driverDisappearedSellerPaid &&
    e.metadata ≠ some .compensationSellerUnavailable

/-- Available for withdrawal, or withdrawn. -/
def WalletEntry.released (e : WalletEntry) : Bool := e.status = .available || e.status = .paidOut

/-- An earning of the order has been released. -/
def Db.earned (s : Db) (o : OrderId) : Bool :=
  s.walletEntries.rows.any fun e => e.orderId = some o && e.earning && e.released

/-- The order has a refund. -/
def Db.refunded (s : Db) (o : OrderId) : Bool :=
  (s.orders.find? o).any fun row => row.stripeRefundId.isSome

/-- A refund is recorded on no order with released earnings, and a driver
completes no refunded order. -/
def KeepsApart : Site → Db → Prop
  | .saveRefund o, s => s.earned o = false
  | .deliveredByDriver o, s => s.refunded o = false
  | _, _ => True

/-- `KeepsApart`, to be evaluated. -/
def keepsApart : Site → Db → Bool
  | .saveRefund o, s => !s.earned o
  | .deliveredByDriver o, s => !s.refunded o
  | _, _ => true

theorem keepsApart_iff {site : Site} {s : Db} : keepsApart site s = true ↔ KeepsApart site s := by
  unfold keepsApart KeepsApart
  split
  · rw [Bool.not_eq_true']
  · rw [Bool.not_eq_true']
  · exact iff_of_true rfl trivial

instance (site : Site) (s : Db) : Decidable (KeepsApart site s) :=
  decidable_of_iff _ keepsApart_iff

section

variable {cfg : Config} {me : Nat} {call : Call} {h : List (StepRecord machine)} {site : Site}
  {s s' : Db} {o : OrderId}

theorem earned_iff : s.earned o = true ↔ ∃ e ∈ s.walletEntries.rows, e.orderId = some o ∧
    e.earning = true ∧ e.released = true := by
  simp [Db.earned, List.any_eq_true, and_assoc]

theorem refunded_iff : s.refunded o = true ↔
    ∃ row, s.orders.find? o = some row ∧ row.stripeRefundId.isSome = true := by
  simp [Db.refunded, Option.any_eq_true]

/-! ## The ledger -/

theorem mem_insertSkippingDuplicate {t : Table WalletEntry} {e e' : WalletEntry}
    (he' : e' ∈ (insertSkippingDuplicate t e).rows) : e' = e ∨ e' ∈ t.rows := by
  unfold insertSkippingDuplicate at he'
  split at he'
  · exact .inr he'
  · cases hnew : t.insert? e with
    | none =>
      rw [hnew] at he'
      exact .inr he'
    | some t' =>
      rw [hnew] at he'
      exact (Table.mem_insert hnew).mp he'

theorem mem_foldl_insertSkippingDuplicate {rows : List WalletEntry} {t : Table WalletEntry}
    {e' : WalletEntry} (he' : e' ∈ (rows.foldl insertSkippingDuplicate t).rows) :
    e' ∈ rows ∨ e' ∈ t.rows := by
  induction rows generalizing t with
  | nil => exact .inr he'
  | cons e rest ih =>
    rcases ih he' with he' | he'
    · exact .inl (List.mem_cons_of_mem _ he')
    · rcases mem_insertSkippingDuplicate he' with rfl | he'
      · exact .inl (List.mem_cons_self ..)
      · exact .inr he'

/-- What a completed order is credited with is not released yet. -/
theorem creditRows_unreleased {order : Order} {delivery : Option Delivery} {now : Time} :
    ∀ e ∈ creditRows cfg me order delivery now, e.earning = true → e.released = false := by
  have hstatus : (creditStatus order = .available || creditStatus order = .paidOut) = false := by
    unfold creditStatus
    split
    · decide
    · decide
  -- the platform's commission is nobody's earning
  refine forall_creditRows (fun _ _ => hstatus) (fun hearning => ?_) fun _ _ _ => hstatus
  simp [newEntry, WalletEntry.earning] at hearning

/-- A table in which some entries were cancelled has no new released earning. -/
theorem earned_of_reversed {t : Table WalletEntry} {p : WalletEntry → Bool} {e' : WalletEntry}
    (he' : e' ∈ (t.updateMany p fun e => { e with status := .cancelled }).rows)
    (hreleased : e'.released = true) : e' ∈ t.rows := by
  obtain ⟨e, he, rfl⟩ := Table.mem_updateMany.mp he'
  split at hreleased
  · simp [WalletEntry.released] at hreleased
  · rename_i hp
    rw [if_neg hp]
    exact he

/-- Entries that are due for release belong to orders in the right status. -/
theorem mem_dueIds {dueEntries : List WalletEntry} {orders : List Order}
    {statuses : List OrderStatus} {id : WalletEntryId} (hid : id ∈ dueIds dueEntries orders statuses) :
    ∃ e ∈ dueEntries, e.id = id ∧ ∃ o row, e.orderId = some o ∧ row ∈ orders ∧ row.id = o ∧
      row.status ∈ statuses := by
  obtain ⟨e, he, rfl⟩ := List.mem_map.mp hid
  obtain ⟨hdue, hany⟩ := List.mem_filter.mp he
  rw [Option.any_eq_true] at hany
  obtain ⟨row, hrow, hstatus⟩ := hany
  rw [Option.bind_eq_some_iff] at hrow
  obtain ⟨o, ho, hfind⟩ := hrow
  have hid : row.id = o := by simpa using List.find?_some hfind
  exact ⟨e, hdue, rfl, o, row, ho, List.mem_of_find?_eq_some hfind, hid, by simpa using hstatus⟩

/-- **Where released earnings come from**: they were released before, or the sweep
releases them, for an order that is delivered or completed. -/
theorem Step.earned_back (hstep : Step cfg Eq me call h site s s') (hearned : s'.earned o = true) :
    s.earned o = true ∨ (call = .releaseDuePendingEntries ∧ site = .releaseDue ∧
      ∃ row, s.orders.find? o = some row ∧ row.status ∈ [OrderStatus.delivered, .completed]) := by
  obtain ⟨e', he', hof, hearning, hreleased⟩ := earned_iff.mp hearned
  have hback : e' ∈ s.walletEntries.rows → s.earned o = true := fun he =>
    earned_iff.mpr ⟨e', he, hof, hearning, hreleased⟩
  cases hstep with
  | aside haside => exact .inl (hback (haside.walletEntries ▸ he'))
  | creditCompleted o₁ hR hsaw hstatus =>
    rcases mem_foldl_insertSkippingDuplicate he' with he' | he'
    · rw [creditRows_unreleased _ he' hearning] at hreleased
      cases hreleased
    · exact .inl (hback he')
  | compensateDriver o₁ driver amount =>
    rcases mem_insertSkippingDuplicate he' with rfl | he'
    · simp [newEntry, WalletEntry.earning] at hearning
    · exact .inl (hback he')
  | creditSeller o₁ seller amount =>
    rcases mem_insertSkippingDuplicate he' with rfl | he'
    · simp [newEntry, WalletEntry.earning] at hearning
    · exact .inl (hback he')
  | driverDebt o₁ driver amount =>
    rcases mem_insertSkippingDuplicate he' with rfl | he'
    · simp [newEntry, WalletEntry.earning] at hearning
    · exact .inl (hback he')
  | reverseDriverEarning o₁ => exact .inl (hback (earned_of_reversed he' hreleased))
  | reversePending o₁ => exact .inl (hback (earned_of_reversed he' hreleased))
  | reverseDue ids => exact .inl (hback (earned_of_reversed he' hreleased))
  | releaseDue hR₀ hR₁ hcall =>
    subst hR₀ hR₁
    dsimp only at he'
    obtain ⟨e, he, rfl⟩ := Table.mem_updateMany.mp he'
    split at hof
    · rename_i hdue
      rw [if_pos hdue] at hearning hreleased
      rw [Bool.and_eq_true, decide_eq_true_eq] at hdue
      -- the due entry with this id is this entry
      obtain ⟨e₀, he₀, hid, o₀, row, hof₀, hrow, hrowId, hstatus⟩ := mem_dueIds hdue.1
      obtain rfl := Table.eq_of_key_eq (List.mem_filter.mp he₀).1 he hid
      obtain rfl := Option.some.inj (hof₀.symm.trans hof)
      exact .inr ⟨hcall, rfl, row,
        hrowId ▸ Table.find?_of_mem (List.mem_filter.mp hrow).1, hstatus⟩
    · rename_i hdue
      rw [if_neg hdue] at hearning hreleased
      exact .inl (earned_iff.mpr ⟨e, he, hof, hearning, hreleased⟩)
  | settle user entries debit htransfer hdebit hnew =>
    obtain ⟨t, -, s₀, rfl, rfl, -, rfl, hledger⟩ := htransfer
    dsimp only at he'
    rcases (Table.mem_insert hnew).mp he' with rfl | he'
    · rw [hdebit] at hof
      cases hof
    · obtain ⟨e, he, rfl⟩ := Table.mem_updateMany.mp he'
      split at hof
      · rename_i hpaid
        rw [if_pos hpaid] at hearning
        -- what is paid out was available when it was read
        obtain ⟨e₀, he₀, hid⟩ := List.mem_map.mp (of_decide_eq_true hpaid)
        obtain ⟨hmem, havailable⟩ := List.mem_filter.mp he₀
        rw [← hledger] at hmem
        obtain rfl := Table.eq_of_key_eq hmem he hid
        refine .inl (earned_iff.mpr ⟨e₀, he, hof, hearning, ?_⟩)
        simp only [Bool.and_eq_true, decide_eq_true_eq] at havailable
        simp [WalletEntry.released, havailable.2]
      · rename_i hpaid
        rw [if_neg hpaid] at hearning hreleased
        exact .inl (earned_iff.mpr ⟨e, he, hof, hearning, hreleased⟩)
  | _ => exact .inl (hback he')

/-! ## The invariant -/

/-- Where a refunded order can be. -/
def settled : List OrderStatus := [.cancelled, .refunded, .inDelivery]

/-- All refunded orders but those in `except` are where refunded orders can be. -/
def Settled (except : OrderId → Prop) (s : Db) : Prop :=
  ∀ o row, s.orders.find? o = some row → row.stripeRefundId.isSome = true →
    except o ∨ row.status ∈ settled

/-- Refunded orders have no released earnings, and none of them is delivered or on
its way to be, unless the call in progress decides a dispute (`busy`). -/
structure Apart (busy : Prop) (s : Db) : Prop where
  books : ∀ o, s.refunded o = true → s.earned o = false
  status : Settled (fun _ => busy) s

/-- A move refunds an order only by recording a refund, for a reason. -/
theorem OrderMove.refunded {row row' : Order} (hmove : OrderMove cfg call s o site row row')
    (hrefunded : row'.stripeRefundId.isSome = true) :
    row.stripeRefundId.isSome = true ∨
      (site = .saveRefund o ∧ row'.status = row.status ∧
        (call.decidesDispute = true ∨ row.status = .cancelled)) := by
  cases hmove with
  | saveRefund refund hcause => exact .inr ⟨rfl, rfl, hcause⟩
  | paymentSucceeded ev hfrom hgenuine => exact .inl (by simpa using hrefunded)
  | paymentFailed ev reason hfrom => exact .inl (by simpa using hrefunded)
  | _ => exact .inl hrefunded

/-- A refunded order stays where refunded orders can be. -/
theorem OrderMove.settled {row row' : Order} (hmove : OrderMove cfg call s o site row row')
    (hrow : s.orders.find? o = some row) (hrefunded : row.stripeRefundId.isSome = true)
    (hc : KeepsApart site s) (hsettled : row.status ∈ settled) : row'.status ∈ settled := by
  cases hmove with
  | deliveredByDriver hfrom hchoice hdelivery =>
    have hnot : s.refunded o = false := hc
    rw [refunded_iff.mpr ⟨row, hrow, hrefunded⟩] at hnot
    cases hnot
  | _ => simp_all [IncaCook.settled, cancellableFrom, Orders.Order.cancel]

theorem Step.apart (hstep : Step cfg Eq me call h site s s') (hc : KeepsApart site s)
    (hI : Apart (call.decidesDispute = true) s) : Apart (call.decidesDispute = true) s' := by
  refine ⟨fun o hrefunded => ?_, fun o row' hrow' hrefunded => ?_⟩
  · obtain ⟨row', hrow', hrefund⟩ := refunded_iff.mp hrefunded
    rcases hstep.order_move hrow' with ⟨-, -, db, args, rfl⟩ | ⟨row, hrow, hmove⟩
    · simp [newOrder] at hrefund
    by_contra hearned
    rw [Bool.not_eq_false] at hearned
    rcases hmove.refunded hrefund with hbefore | ⟨rfl, -⟩
    · -- refunded before: nothing was released, and the sweep does not look at it
      have hrefundedBefore : s.refunded o = true := refunded_iff.mpr ⟨row, hrow, hbefore⟩
      rcases hstep.earned_back hearned with hearned | ⟨hcall, -, row₀, hrow₀, hstatus⟩
      · rw [hI.books o hrefundedBefore] at hearned
        cases hearned
      · obtain rfl := Option.some.inj (hrow.symm.trans hrow₀)
        rcases hI.status o row hrow hbefore with hbusy | hsettled
        · simp [hcall, Call.decidesDispute] at hbusy
        · simp [IncaCook.settled] at hsettled
          simp at hstatus
          rcases hstatus with hstatus | hstatus
          · simp [hstatus] at hsettled
          · simp [hstatus] at hsettled
    · -- refunded by this very step
      have hnot : s.earned o = false := hc
      rcases hstep.earned_back hearned with hearned | ⟨-, hsite, -⟩
      · rw [hnot] at hearned
        cases hearned
      · cases hsite
  · rcases hstep.order_move hrow' with ⟨-, -, db, args, rfl⟩ | ⟨row, hrow, hmove⟩
    · simp [newOrder] at hrefunded
    rcases hmove.refunded hrefunded with hbefore | ⟨-, hsame, hbusy | hcancelled⟩
    · rcases hI.status o row hrow hbefore with hbusy | hsettled
      · exact .inl hbusy
      · exact .inr (hmove.settled hrow hbefore hc hsettled)
    · exact .inl hbusy
    · exact .inr (by rw [hsame, hcancelled]; simp [IncaCook.settled])

/-! ## Dispute calls -/

/-- Refunding one order moves no other. -/
theorem Step.settled_elsewhere (hstep : Step cfg Eq me call h site s s')
    (hsite : site ∈ refundSites o) (hI : Settled (· = o) s) : Settled (· = o) s' := by
  intro o₁ row' hrow' hrefunded
  rcases hstep.order_move hrow' with ⟨-, -, db, args, rfl⟩ | ⟨row, hrow, hmove⟩
  · simp [newOrder] at hrefunded
  · cases hmove with
    | stay => exact hI o₁ row' hrow hrefunded
    | saveRefund refund hcause =>
      simp only [refundSites, List.mem_cons, reduceCtorEq, Site.saveRefund.injEq, false_or,
        List.not_mem_nil, or_false] at hsite
      exact .inl hsite
    | _ => simp [refundSites] at hsite

/-- What `refundForDispute` refunds, it also marks refunded, if the order exists. -/
theorem refundForDispute_settles (hcall : call.decidesDispute = true)
    (hI : Settled (fun _ => False) s) :
    Sat (stepContract cfg Eq me call) (fun _ _ s => Settled (fun _ => False) s)
      (refundForDispute o) h s := by
  have hothers : Settled (· = o) s := fun o₁ row hrow hrefunded =>
    (hI o₁ row hrow hrefunded).imp_left False.elim
  have hrefund : Sat (refundContract cfg Eq me call o) (fun _ r _ => r = .ok ())
      (refundOrderIfNeeded o) h s := refundOrderIfNeeded_ok (.inl hcall)
  -- between the refund and the mark this one order may be out of step
  have hkeep := hrefund.keep (I := fun _ s => Settled (· = o) s) (fun _ _ _ hab hIa => hab ▸ hIa)
    (fun _ _ _ _ hIa hg => hg.2.settled_elsewhere hg.1 hIa) hothers
  refine sat_bind (hkeep.mono (fun _ _ hR => hR) (fun _ _ _ _ hg => hg.2) fun h r s hr => ?_)
  obtain ⟨rfl, hothers⟩ := hr
  refine sat_await fun s' hR i => ⟨fun e hrun => ⟨.noop _ _, ?_⟩, fun _ s'' hrun => ?_⟩
  · subst hR
    intro o₁ row hrow hrefunded
    rcases hothers o₁ row hrow hrefunded with rfl | hsettled
    · rw [updateOrder_error hrun] at hrow
      cases hrow
    · exact .inr hsettled
  · subst hR
    obtain ⟨-, rfl⟩ := updateOrder_ok.mp hrun
    refine ⟨.refundDispute o, fun o₁ row' hrow' hrefunded => .inr ?_⟩
    dsimp only at hrow'
    obtain ⟨row, hrow, ⟨-, rfl⟩ | ⟨hne, rfl⟩⟩ := Table.find?_update_some hrow'
    · simp [IncaCook.settled]
    · exact (hothers o₁ row' hrow hrefunded).resolve_left hne

/-- Paperwork moves no order. -/
theorem paperwork_settles {α : Type} {p : Handler α} (hp : Free (paperworkContract Eq) p)
    (hI : Settled (fun _ => False) s) :
    Sat (stepContract cfg Eq me call) (fun _ _ s => Settled (fun _ => False) s) p h s := by
  refine paperwork_keeps hp (fun a b hab hIa => hab ▸ hIa) (fun a b haside hIa o₁ row hrow => ?_) hI
  rw [haside.orders] at hrow
  exact hIa o₁ row hrow

/-- A call that decides a dispute leaves no refunded order elsewhere. -/
theorem disputeCall_settles (hcall : call.decidesDispute = true)
    (hI : Settled (fun _ => False) s) :
    Sat (stepContract cfg Eq me call) (fun _ _ s => Settled (fun _ => False) s)
      (handle cfg me call) [] s := by
  cases call with
  | createDispute sub o dto =>
    refine sat_bind_keep (sat_bind_keep (paperwork_settles fileDispute_paperwork hI) ?_)
      fun _ _ _ hI => hI
    intro filed h s hI
    refine sat_bind_keep ?_ fun _ _ _ hI => hI
    -- the refund, then the strike
    refine sat_bind_keep ?_ fun _ h s hI => ?_
    · unfold runIf
      split
      · exact refundForDispute_settles hcall hI
      · exact hI
    · unfold runIf
      split
      · exact paperwork_settles strike_paperwork hI
      · exact hI
  | adminApproveRefund id notes =>
    refine sat_bind_keep (sat_bind_keep (paperwork_settles getDispute_paperwork hI) ?_)
      fun _ _ _ hI => hI
    intro dispute h s hI
    refine sat_bind_keep (paperwork_settles paperwork_query hI) fun order h s hI => ?_
    refine sat_bind_keep (refundForDispute_settles hcall hI) fun _ h s hI => ?_
    exact paperwork_settles writeDecision_paperwork hI
  | _ => cases hcall

theorem Apart.of_fresh (h0 : Fresh s) : Apart False s := by
  have hnone : ∀ o, s.orders.find? o = none := fun o => by simp [Table.find?, h0.orders]
  refine ⟨fun o hrefunded => ?_, fun o row hrow => ?_⟩
  · obtain ⟨row, hrow, -⟩ := refunded_iff.mp hrefunded
    rw [hnone o] at hrow
    cases hrow
  · rw [hnone o] at hrow
    cases hrow

end

/-- **Refund and earnings exclude each other**, in every state of every run in
which no dispute refunds an order that has earned and no driver completes a
refunded one. -/
theorem refunded_order_not_earned (cfg : Config) (s₀ : Db) (h0 : Fresh s₀)
    (inputs : List (Input (service cfg))) (hc : (serialRun s₀ inputs).Steps KeepsApart) (o : OrderId)
    (hrefunded : (serialRun s₀ inputs).state.refunded o = true) :
    (serialRun s₀ inputs).state.earned o = false := by
  suffices hapart : Apart False (serialRun s₀ inputs).state from hapart.books o hrefunded
  refine serial_invariant (I := fun (s : Db) _ => Apart False s) (.of_fresh h0) ?_ ?_ inputs hc
  · intro e s _ hI
    cases e with
    | tick ms => exact ⟨hI.books, hI.status⟩
    | paymentSucceeds pi => exact ⟨hI.books, hI.status⟩
  · intro call w s calls hI hadm out hout
    -- during the call: a dispute may have refunded an order that it has not marked yet
    have hbusy : Apart (call.decidesDispute = true) out.state :=
      call_invariant (I := fun _ s => Apart (call.decidesDispute = true) s) w hadm
        ⟨hI.books, fun o row hrow hrefund => (hI.status o row hrow hrefund).imp_left False.elim⟩
        (fun _ _ _ _ hI hc hstep => hstep.apart hc hI) hout
    refine ⟨hbusy.books, fun o row hrow hrefund => ?_⟩
    cases hdispute : call.decidesDispute with
    | false => exact (hbusy.status o row hrow hrefund).imp_left fun h => by simp [hdispute] at h
    | true =>
      have hsat : Sat (stepContract cfg Eq calls.length call) _ (handle cfg calls.length call) [] s :=
        disputeCall_settles hdispute hI.status
      exact (hsat.exec (fun _ => rfl) w).2 o row hrow hrefund

/-- A paid order that the seller cancels is refunded, and the sweep a day later
releases nothing. -/
theorem cancelled_order_not_earned :
    (serialRun smallTown (orderPaid ++ [smallTownCall (.cancelAsSeller "seller" ⟨0, 0⟩ "closed"),
      .event (.tick 86400000), smallTownCall .releaseDuePendingEntries])).state.earned ⟨0, 0⟩ = false :=
  refunded_order_not_earned smallTownConfig smallTown smallTown_fresh _ (by decide +kernel) ⟨0, 0⟩
    (by decide +kernel)

/-- **An order refunded and earned.** The buyer of an order on its way reports it
as never received and is refunded; the driver delivers it, and a day later the
sweep releases the earnings of the seller and the driver. -/
theorem refunded_order_earned :
    ¬∀ (cfg : Config) (s₀ : Db) (inputs : List (Input (service cfg))) (o : OrderId), Fresh s₀ →
      (serialRun s₀ inputs).state.refunded o = true →
        (serialRun s₀ inputs).state.earned o = false := by
  intro hclaim
  have hapart := hclaim smallTownConfig smallTown
    (orderClaimed ++ [smallTownCall (.confirmPickup "driver" ⟨3, 2⟩ ⟨"token", none, none⟩),
      smallTownCall (.createDispute "buyer" ⟨0, 0⟩ ⟨.neverReceived, none, none, none⟩),
      smallTownCall (.confirmDelivery "driver" ⟨3, 2⟩ ⟨"token", none, none⟩),
      .event (.tick 86400000), smallTownCall .releaseDuePendingEntries])
    ⟨0, 0⟩ smallTown_fresh (by decide +kernel)
  exact absurd hapart (by decide +kernel)

end IncaCook
