import IncaCook.Model.PaymentConfirmation
import IncaCook.Steps.Moves

/-!
# The steps that confirm a paid order

What a call of `confirmPaymentForBuyer` or a `payment_intent.succeeded` webhook does to the
order it is for, step by step, and whom it tells. The write that confirms the order is made
whatever has become of it since it was looked at; all that the webhook's write can fail on is
a PaymentIntent to backfill that another order has.

Main result:

* `confirmationHandle_sat`: every step of such a call is a `NoticeStep`, and a call that is over
  has told the seller, or has confirmed nothing (`Ending`).
-/

namespace IncaCook

open Prog Orders Webhooks

/-! ## One order -/

/-- The statement that confirms the order. -/
def ConfirmationSite.confirms (o : OrderId) : ConfirmationSite → Bool
  | .orders (.confirmPayment o') => o' = o
  | .orders (.paymentSucceeded o') => o' = o
  | _ => false

/-- The call of `notifyOrderPaid` for the order. -/
def ConfirmationSite.notifies (o : OrderId) : ConfirmationSite → Bool
  | .notifyOrderPaid _ o' => o' = o
  | _ => false

/-- A call that may confirm the order. -/
def ConfirmationCall.IsFor (o : OrderId) : ConfirmationCall → Prop
  | .confirmPaymentForBuyer _ o' => o' = o
  | .paymentIntentSucceeded pi => pi.metadataOrderId = some o

def Db.confirmedAt (db : Db) (o : OrderId) : Option Time := (db.orders.find? o).bind Order.confirmedAt

/-- The step takes the order from `PENDING` to `CONFIRMED`. -/
def Transitions (o : OrderId) (t : StepRecord confirmationMachine) : Prop :=
  Db.orderStatus t.pre o = some .pending ∧ Db.orderStatus t.post o = some .confirmed

instance (o : OrderId) : DecidablePred (Transitions o) := fun _ =>
  inferInstanceAs (Decidable (_ ∧ _))

/-- The order is now confirmed, at this time. -/
def Confirmed (o : OrderId) (s s' : Db) : Prop :=
  ∃ row, s'.orders.find? o = some row ∧ row.status = .confirmed ∧ row.confirmedAt = some s.now

/-- The order is there, with its seller, and with its PaymentIntent if that was recorded. -/
def Known (o : OrderId) (seller : UserId) (recorded : Bool) (s : Db) : Prop :=
  ∃ row, s.orders.find? o = some row ∧ row.sellerId = seller ∧
    (recorded = true → row.stripePaymentIntentId.isSome = true)

/-! ## What one call does -/

section

variable (o : OrderId) (seller : UserId) (recorded : Bool)

/-- The steps of a call that may confirm the order, given its steps before. -/
inductive NoticeStep (h : List (StepRecord confirmationMachine)) :
    ConfirmationSite → Db → Db → Prop where
  | quiet {site : ConfirmationSite} (s : Db) (hconfirms : site.confirms o = false)
      (hnotifies : site.notifies o = false) : NoticeStep h site s s
  /-- the PaymentIntent to backfill is recorded on another order -/
  | refused {site : ConfirmationSite} (s : Db) (hconfirms : site.confirms o = true)
      (hrecorded : recorded = false) : NoticeStep h site s s
  | confirms {site : ConfirmationSite} {s s' : Db} (hconfirms : site.confirms o = true)
      (hpost : Confirmed o s s') (hknown : Known o seller recorded s') : NoticeStep h site s s'
  | tells (s : Db) (hfirst : ∀ t ∈ h, t.site.notifies o = false)
      (hafter : ∃ t ∈ h, t.site.confirms o = true ∧ Confirmed o t.pre t.post) :
      NoticeStep h (.notifyOrderPaid seller o) s s

def noticeContract : Contract confirmationMachine where
  rely _ s' := Known o seller recorded s'
  guar h site s s' := NoticeStep o seller recorded h site s s'

end

/-- So far the call has changed nothing and told nobody. -/
def Unmoved (o : OrderId) (h : List (StepRecord confirmationMachine)) : Prop :=
  ∀ t ∈ h, t.site.notifies o = false ∧ t.post = t.pre

/-- A call that is over has told the seller; or it has not confirmed the order, and if it went
well, that was because it found the order past `PENDING`. -/
def Ending {α : Type} (o : OrderId) : Post confirmationMachine α := fun h r _ =>
  (∃ t ∈ h, t.site.notifies o = true) ∨
    (∀ t ∈ h, ¬Transitions o t) ∧
      ∀ a, r = .ok a → ∃ t ∈ h, Db.orderStatus t.pre o ≠ some .pending

section

variable {o : OrderId} {seller : UserId} {recorded : Bool} {α β : Type}
  {h : List (StepRecord confirmationMachine)} {site : ConfirmationSite} {s s' : Db} {cfg : Config}

theorem Confirmed.orderStatus (hc : Confirmed o s s') : s'.orderStatus o = some .confirmed := by
  obtain ⟨row, hrow, hstatus, -⟩ := hc
  rw [Db.orderStatus, hrow, ← hstatus]
  rfl

theorem Confirmed.confirmedAt (hc : Confirmed o s s') : s'.confirmedAt o = some s.now := by
  obtain ⟨row, hrow, -, hdate⟩ := hc
  rw [Db.confirmedAt, hrow, ← hdate]
  rfl

theorem NoticeStep.known (hstep : NoticeStep o seller recorded h site s s')
    (hs : Known o seller recorded s) : Known o seller recorded s' := by
  cases hstep with
  | confirms _ _ hknown => exact hknown
  | _ => exact hs

/-- What a step does to the order, seen from its two states. -/
theorem NoticeStep.same_or (hstep : NoticeStep o seller recorded h site s s') :
    s' = s ∨ site.confirms o = true ∧ Confirmed o s s' := by
  cases hstep with
  | confirms hsite hpost _ => exact .inr ⟨hsite, hpost⟩
  | _ => exact .inl rfl

/-- A write to an order whose PaymentIntent is recorded goes through. -/
theorem NoticeStep.goes_through (hstep : NoticeStep o seller true h site s s')
    (hsite : site.confirms o = true) : Confirmed o s s' := by
  cases hstep with
  | quiet _ hnot _ => simp [hnot] at hsite
  | refused _ _ hrecorded => cases hrecorded
  | confirms _ hpost _ => exact hpost
  | tells _ _ _ => cases hsite

theorem NoticeStep.telling (hstep : NoticeStep o seller recorded h site s s')
    (hsite : site.notifies o = true) : site = .notifyOrderPaid seller o ∧
      (∀ t ∈ h, t.site.notifies o = false) ∧
      ∃ t ∈ h, t.site.confirms o = true ∧ Confirmed o t.pre t.post := by
  -- no statement does both
  have hone : ∀ site : ConfirmationSite, site.confirms o = true → site.notifies o = false := by
    intro site hconfirms
    match site with
    | .orders _ => rfl
  cases hstep with
  | quiet _ _ hnot => simp [hnot] at hsite
  | refused _ hconfirms _ => simp [hone _ hconfirms] at hsite
  | confirms hconfirms _ _ => simp [hone _ hconfirms] at hsite
  | tells _ hfirst hafter => exact ⟨rfl, hfirst, hafter⟩

theorem Unmoved.cons (hh : Unmoved o h) (site : ConfirmationSite) (s : Db)
    (hsite : site.notifies o = false) :
    Unmoved o (⟨site, s, s⟩ :: h) :=
  List.forall_mem_cons.mpr ⟨⟨hsite, rfl⟩, hh⟩

theorem Unmoved.not_transitions (hh : Unmoved o h) : ∀ t ∈ h, ¬Transitions o t := by
  rintro t ht ⟨hpre, hpost⟩
  rw [(hh t ht).2, hpre] at hpost
  cases hpost

theorem Unmoved.ending_error (hh : Unmoved o h) {e : Err} :
    Ending o h (.error e : Except Err α) s :=
  .inr ⟨hh.not_transitions, nofun⟩

theorem Unmoved.ending_seen (hh : Unmoved o h) {r : Except Err α}
    (hseen : ∃ t ∈ h, Db.orderStatus t.pre o ≠ some .pending) : Ending o h r s :=
  .inr ⟨hh.not_transitions, fun _ _ => hseen⟩

/-- A statement of the order services that only reads. -/
theorem sat_quiet_read {site : Site} {f : Db → β} {k : β → Prog confirmationMachine α}
    {Q : Post confirmationMachine α} (hconfirms : (ConfirmationSite.orders site).confirms o = false)
    (hk : ∀ s, Known o seller recorded s →
      Sat (noticeContract o seller recorded) Q (k (f s)) (⟨.orders site, s, s⟩ :: h) s) :
    Sat (noticeContract o seller recorded) Q (read (.orders site) f >>= k) h s :=
  sat_read_bind fun s' hknown => ⟨.quiet s' hconfirms rfl, hk s' hknown⟩

/-- The result is read back after the end. -/
theorem findOrderWithRelations_sat
    (hend : ∀ s, (Known o seller recorded s) →
      ∀ r : Except Err Order, Ending o (⟨.orders .query, s, s⟩ :: h) r s) :
    Sat (noticeContract o seller recorded) (Ending o)
      ((findOrderWithRelations o).within orderStatements) h s := by
  intro s' hknown _
  refine ⟨.quiet s' rfl rfl, ?_⟩
  obtain ⟨row, hrow, -⟩ := id hknown
  change Sat _ _ ((orThrow (s'.orders.find? o) (.notFound "Order not found") :
    Handler Order).within orderStatements) _ _
  rw [hrow]
  exact hend s' hknown _

/-- Telling the others, right after the order was confirmed: the status first, then the seller. -/
theorem tell_sat {k : Unit → Prog confirmationMachine α} {status : OrderStatus}
    (hfirst : ∀ t ∈ h, t.site.notifies o = false)
    (hafter : ∃ t ∈ h, t.site.confirms o = true ∧ Confirmed o t.pre t.post)
    (hk : ∀ h s, (∃ t ∈ h, t.site.notifies o = true) → Known o seller recorded s →
      Sat (noticeContract o seller recorded) (Ending o) (k ()) h s) :
    Sat (noticeContract o seller recorded) (Ending o)
      (Confirmations.publishOrderStatusChanged o status >>= fun _ =>
        Confirmations.notifyOrderPaid seller o >>= k) h s := by
  refine sat_ask_bind fun s₁ _ _ => ⟨.quiet s₁ rfl rfl, ?_⟩
  refine sat_ask_bind fun s₂ hknown _ => ⟨.tells s₂ ?_ ?_, ?_⟩
  · exact List.forall_mem_cons.mpr ⟨rfl, hfirst⟩
  · obtain ⟨t, ht, hconfirms⟩ := hafter
    exact ⟨t, List.mem_cons_of_mem _ ht, hconfirms⟩
  · exact hk _ s₂ ⟨_, List.mem_cons_self .., decide_eq_true rfl⟩ hknown

theorem isPaymentSucceeded_sat {pi : Option PaymentIntentId} (hh : Unmoved o h) :
    Sat (noticeContract o seller recorded) (fun h _ _ => Unmoved o h)
      ((isPaymentSucceeded cfg pi).within orderStatements) h s := by
  match pi with
  | none => exact hh
  | some (.dev _) => exact hh
  | some (.stripe _) => exact fun s' _ _ => ⟨.quiet s' rfl rfl, hh.cons _ s' rfl⟩

/-- The row that the buyer's call writes. -/
theorem confirmed_update (f : Order → Order) (hf : ∀ r, (f r).id = r.id)
    (hstatus : ∀ r, (f r).status = .confirmed) (hdate : ∀ r, (f r).confirmedAt = some s.now)
    (hseller : ∀ r, (f r).sellerId = r.sellerId)
    (hpi : ∀ r, r.stripePaymentIntentId.isSome = true → (f r).stripePaymentIntentId.isSome = true)
    (hknown : Known o seller recorded s) :
    Confirmed o s { s with orders := s.orders.update o f hf } ∧
      Known o seller recorded { s with orders := s.orders.update o f hf } := by
  obtain ⟨row, hrow, hrowSeller, hrecorded⟩ := hknown
  have hpost : (s.orders.update o f hf).find? o = some (f row) := Table.find?_update_of_eq hrow hf
  exact ⟨⟨f row, hpost, hstatus row, hdate row⟩, f row, hpost, (hseller row).trans hrowSeller,
    fun hr => hpi row (hrecorded hr)⟩

theorem confirmPaymentForBuyer_told {sub : String} :
    Sat (noticeContract o seller recorded) (Ending o)
      (Confirmations.confirmPaymentForBuyer cfg sub o) [] s := by
  have hnone : Unmoved o [] := by
    intro t ht
    cases ht
  unfold Confirmations.confirmPaymentForBuyer
  refine sat_quiet_read rfl fun s₁ _ => ?_
  have hone := hnone.cons (.orders .query) s₁ rfl
  refine sat_orThrow_bind (fun _ => hone.ending_error) fun user _ => ?_
  refine sat_quiet_read rfl fun s₂ hknown => ?_
  have htwo := hone.cons (.orders .query) s₂ rfl
  obtain ⟨order, horder, hseller, -⟩ := hknown
  rw [horder]
  refine sat_orThrow_bind (fun _ => htwo.ending_error) fun order' hsome => ?_
  obtain rfl : order = order' := Option.some.inj hsome
  refine sat_throwIf_bind (fun _ => htwo.ending_error) fun _ => ?_
  refine sat_ite (fun _ => ?_) fun hstatus => ?_
  · refine sat_bind ((isPaymentSucceeded_sat htwo).post fun h r s hh => ?_)
    cases r with
    | error e => exact hh.ending_error
    | ok paid =>
      refine sat_throwIf_bind (fun _ => hh.ending_error) fun _ => ?_
      refine sat_await_bind fun s₃ hknown _ => ⟨fun e herr => ?_, fun a s₄ hok => ?_⟩
      · -- the order is there, so the update cannot fail
        obtain ⟨row, hrow, -⟩ := hknown
        have hnone := updateOrder_error herr
        rw [hrow] at hnone
        cases hnone
      · simp only [Stmt.bind_ok, Stmt.get_ok, updateOrder_ok] at hok
        obtain ⟨_, s₃, ⟨rfl, rfl⟩, -, rfl⟩ := hok
        obtain ⟨hpost, hknown'⟩ := confirmed_update
          (fun r => { r with status := .confirmed, confirmedAt := some s₃.now }) (fun _ => rfl)
          (fun _ => rfl) (fun _ => rfl) (fun _ => rfl) (fun _ hpi => hpi) hknown
        have hsite : (ConfirmationSite.orders (.confirmPayment o)).confirms o = true := decide_eq_true rfl
        refine ⟨.confirms hsite hpost hknown', ?_⟩
        -- the seller to tell was read before the write, and is still the seller
        rw [← hseller]
        refine tell_sat (List.forall_mem_cons.mpr ⟨rfl, fun t ht => (hh t ht).1⟩)
          ⟨_, List.mem_cons_self .., hsite, hpost⟩ fun h s htold _ => ?_
        exact findOrderWithRelations_sat fun _ _ _ => .inl (by
          obtain ⟨t, ht, hn⟩ := htold
          exact ⟨t, List.mem_cons_of_mem _ ht, hn⟩)
  · -- the order is past PENDING: that is what the call has seen
    refine findOrderWithRelations_sat fun s₃ _ r => (htwo.cons _ s₃ rfl).ending_seen ?_
    refine ⟨_, List.mem_cons_of_mem _ (List.mem_cons_self ..), ?_⟩
    rw [Db.orderStatus, horder]
    exact fun hpending => hstatus (Option.some.inj hpending)

theorem backfill_isSome {read row : Order} {pi : PaymentIntentId}
    (hrow : row.stripePaymentIntentId.isSome = true) :
    (backfill read pi row).stripePaymentIntentId.isSome = true := by
  unfold backfill
  split
  · exact hrow
  · rfl

theorem backfill_sellerId {read row : Order} {pi : PaymentIntentId} :
    (backfill read pi row).sellerId = row.sellerId := by
  unfold backfill
  split
  · rfl
  · rfl

/-- The metadata name the order, and the order is there. -/
theorem findOrderForPaymentIntent_sat {pi : PaymentIntentEvent} {Q : Post confirmationMachine α}
    {k : Option Order → Prog confirmationMachine α} (hpi : pi.metadataOrderId = some o)
    (hk : ∀ s row, Known o seller recorded s → s.orders.find? o = some row →
      Sat (noticeContract o seller recorded) Q (k (some row)) (⟨.orders .query, s, s⟩ :: h) s) :
    Sat (noticeContract o seller recorded) Q
      ((findOrderForPaymentIntent pi).within orderStatements >>= k) h s := by
  simp only [findOrderForPaymentIntent, hpi]
  intro s' hknown _
  refine ⟨.quiet s' rfl rfl, ?_⟩
  have hkeep := hknown
  obtain ⟨row, hrow, -⟩ := hkeep
  have hrest := hk s' row hknown hrow
  -- what was found decides how the search goes on
  simp only [andThen, orderStatements, id, hrow]
  exact hrest

theorem handlePaymentIntentSucceeded_told {pi : PaymentIntentEvent}
    (hpi : pi.metadataOrderId = some o) :
    Sat (noticeContract o seller recorded) (Ending o)
      (Confirmations.handlePaymentIntentSucceeded pi) [] s := by
  have hnone : Unmoved o [] := by
    intro t ht
    cases ht
  unfold Confirmations.handlePaymentIntentSucceeded
  refine findOrderForPaymentIntent_sat hpi fun s₁ order hknown horder => ?_
  have hone := hnone.cons (.orders .query) s₁ rfl
  have hid : order.id = o := Table.key_of_find? horder
  obtain ⟨row, hrow, hseller, hrecorded⟩ := hknown
  obtain rfl : order = row := Option.some.inj (horder.symm.trans hrow)
  refine sat_ite (fun hstatus => ?_) fun _ => ?_
  · -- a redelivery, or an order that has moved on
    refine hone.ending_seen ⟨_, List.mem_cons_self .., ?_⟩
    rw [Db.orderStatus, horder]
    exact fun hpending => hstatus (Option.some.inj hpending)
  · have hsite : (ConfirmationSite.orders (.paymentSucceeded order.id)).confirms o = true :=
      decide_eq_true hid
    subst hid
    refine sat_await_bind fun s₂ hknown _ => ⟨fun e herr => ?_, fun a s₃ hok => ?_⟩
    · -- only the PaymentIntent to backfill can stand in the way
      refine ⟨.refused s₂ hsite ?_, (hone.cons _ s₂ rfl).ending_error⟩
      -- and an order that has its PaymentIntent is not backfilled
      by_contra hrec
      rw [uniqueBackfill, if_pos (hrecorded (Bool.eq_true_of_not_eq_false hrec))] at herr
      change updateOrder order.id _ _ s₂ = .error e at herr
      obtain ⟨row, hrow, -⟩ := hknown
      have hmissing := updateOrder_error herr
      rw [hrow] at hmissing
      cases hmissing
    · simp only [Stmt.bind_ok, Stmt.get_ok, updateOrder_ok] at hok
      obtain ⟨_, _, ⟨rfl, rfl⟩, _, s₂, hback, -, rfl⟩ := hok
      obtain rfl := uniqueBackfill_ok hback
      obtain ⟨hpost, hknown'⟩ := confirmed_update
        (fun r => backfill order pi.id { r with status := .confirmed, confirmedAt := some s₂.now })
        (fun _ => (backfill_id order pi.id _).trans rfl) (fun _ => backfill_status ..)
        (fun _ => backfill_confirmedAt ..) (fun _ => backfill_sellerId) (fun _ hpi => backfill_isSome hpi) hknown
      refine ⟨.confirms hsite hpost hknown', ?_⟩
      rw [← hseller, ← bind_pure (Confirmations.notifyOrderPaid order.sellerId order.id)]
      exact tell_sat (List.forall_mem_cons.mpr ⟨rfl, fun t ht => (hone t ht).1⟩)
        ⟨_, List.mem_cons_self .., hsite, hpost⟩ fun h s htold _ => .inl htold

/-- What is returned in the end does not matter. -/
theorem sat_ending_bind {p : Prog confirmationMachine α} {f : α → β}
    (hp : Sat (noticeContract o seller recorded) (Ending o) p h s) :
    Sat (noticeContract o seller recorded) (Ending o) (p >>= fun a => pure (f a)) h s := by
  refine sat_bind (hp.post fun h r s hend => ?_)
  have hover : ∀ r' : Except Err β, (∀ b, r' = .ok b → ∃ a, r = .ok a) → Ending o h r' s := by
    intro r' hr
    refine hend.imp id fun ⟨hnot, hseen⟩ => ⟨hnot, fun b hb => ?_⟩
    obtain ⟨a, ha⟩ := hr b hb
    exact hseen a ha
  cases r with
  | error e => exact hover (.error e) nofun
  | ok a => exact hover (.ok (f a)) fun _ _ => ⟨a, rfl⟩

/-- **What one call does**, and how it ends. -/
theorem confirmationHandle_sat {me : Nat} {c : ConfirmationCall} (hfor : c.IsFor o) :
    Sat (noticeContract o seller recorded) (Ending o) ((confirmationService cfg).handle me c) [] s := by
  cases c with
  | confirmPaymentForBuyer sub o' =>
    obtain rfl : o' = o := hfor
    exact sat_ending_bind confirmPaymentForBuyer_told
  | paymentIntentSucceeded pi => exact sat_ending_bind (handlePaymentIntentSucceeded_told hfor)

end

end IncaCook
