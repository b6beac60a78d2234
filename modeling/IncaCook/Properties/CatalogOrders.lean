import IncaCook.Library.Crash
import IncaCook.Model.System
import IncaCook.Steps.Catalog

/-!
# Paid and refunded catalog orders

Three services write the status of a catalog order: the seller's confirmation and the
payment webhooks set PAID or FAILED, an admin's refund sets REFUNDED. The webhooks write
PENDING orders only. The confirmation writes any order whose PaymentIntent has succeeded,
a refunded one, whose PaymentIntent stays succeeded, and a failed one, too.

Main results:

* `refunded_order_lasts_iff`: a refunded order stays refunded, with nothing new opened or
  refunded on it, if and only if its seller does not confirm the payment again;
* `payments_converge_iff`: the webhooks of a payment leave the order PAID, as the
  confirmation does, if and only if the first of them says that it succeeded.
-/

namespace IncaCook

open Prog Catalog

variable {s s' start : CatalogDb} {c : CatalogCall} {o : CatalogOrderId} {pi : PaymentIntentId}
  {sub : String}

/-! ## What a refunded order keeps -/

def CatalogDb.OrderRefunded (o : CatalogOrderId) (db : CatalogDb) : Prop :=
  ∃ row, db.orders.find? o = some row ∧ row.status = .refunded

/-- The order's status and the start of its claim window. -/
def CatalogDb.purchase (db : CatalogDb) (o : CatalogOrderId) : Option (CatalogOrderStatus × Option Time) :=
  (db.orders.find? o).map fun row => (row.status, row.paidAt)

/-- The status and the payment date stay, no claim on the order is created or refunded, and
Stripe refunds nothing for one. -/
structure StaysRefunded (o : CatalogOrderId) (s s' : CatalogDb) : Prop where
  order : s'.purchase o = s.purchase o
  claims : ∀ k ∈ s'.claims.rows, k.catalogOrderId = o →
    ∃ k₀ ∈ s.claims.rows, k₀.id = k.id ∧ k₀.catalogOrderId = o ∧ (k.isRefunded → k₀.isRefunded)
  refunds : ∀ k ∈ s'.claims.rows, k.catalogOrderId = o →
    s'.refunds.find? k.id = s.refunds.find? k.id

/-- The seller of the order confirms a payment that Stripe reports as succeeded. -/
structure Confirms (o : CatalogOrderId) (c : CatalogCall) (sub : String) (db : CatalogDb) (seller : User)
    (row : CatalogOrder) (pi : PaymentIntentId) (payment : CatalogPayment) : Prop where
  call : c = .confirmPayment sub o
  seller_found : db.userBySupabaseId sub = some seller
  order_found : db.orders.find? o = some row
  owner : row.sellerId = seller.id
  intent : row.stripePaymentIntentId = some pi
  payment_found : db.payments.find? pi = some payment
  succeeded : payment.status = .succeeded

@[inherit_doc Confirms]
def ConfirmsPayment (o : CatalogOrderId) (c : CatalogCall) (db : CatalogDb) : Prop :=
  ∃ sub seller row pi payment, Confirms o c sub db seller row pi payment

theorem StaysRefunded.refl (s : CatalogDb) : StaysRefunded o s s :=
  ⟨rfl, fun k hk ho => ⟨k, hk, rfl, ho, id⟩, fun _ _ _ => rfl⟩

theorem StaysRefunded.trans {s'' : CatalogDb} (h₁ : StaysRefunded o s s') (h₂ : StaysRefunded o s' s'') :
    StaysRefunded o s s'' := by
  refine ⟨h₂.order.trans h₁.order, fun k hk ho => ?_, fun k hk ho => ?_⟩
  · obtain ⟨k₁, hk₁, hid₁, ho₁, href₁⟩ := h₂.claims k hk ho
    obtain ⟨k₀, hk₀, hid₀, ho₀, href₀⟩ := h₁.claims k₁ hk₁ ho₁
    exact ⟨k₀, hk₀, hid₀.trans hid₁, ho₀, fun hk => href₀ (href₁ hk)⟩
  · obtain ⟨k₁, hk₁, hid₁, ho₁, -⟩ := h₂.claims k hk ho
    rw [h₂.refunds k hk ho, ← hid₁, h₁.refunds k₁ hk₁ ho₁]

theorem CatalogDb.orderRefunded_iff {db : CatalogDb} :
    db.OrderRefunded o ↔ ∃ paidAt, db.purchase o = some (.refunded, paidAt) := by
  unfold OrderRefunded purchase
  constructor
  · rintro ⟨row, hrow, hstatus⟩
    exact ⟨row.paidAt, by rw [hrow, Option.map_some, hstatus]⟩
  · rintro ⟨paidAt, hpurchase⟩
    obtain ⟨row, hrow, heq⟩ := Option.map_eq_some_iff.mp hpurchase
    exact ⟨row, hrow, congrArg Prod.fst heq⟩

theorem StaysRefunded.refunded (h : StaysRefunded o s s') (hs : s.OrderRefunded o) :
    s'.OrderRefunded o := by
  rw [CatalogDb.orderRefunded_iff] at hs ⊢
  rwa [h.order]

/-! ## Step by step -/

/-- The claim that a refund has checked is not on the refunded order. -/
theorem RefundChecked.other {claim : CatalogClaim} {row : CatalogOrder} (h : RefundChecked start claim row)
    (hstart : start.OrderRefunded o) : claim.catalogOrderId ≠ o ∧ row.id ≠ o := by
  have hclaim : claim.catalogOrderId ≠ o := by
    rintro rfl
    obtain ⟨row', hrow', hstatus⟩ := hstart
    rw [h.order_found] at hrow'
    cases hrow'
    exact h.order_open hstatus
  have hid : row.id = claim.catalogOrderId := Table.key_of_find? h.order_found
  exact ⟨hclaim, hid ▸ hclaim⟩

/-- A write to the orders that leaves the refunded one. -/
theorem StaysRefunded.of_orders {orders : Table CatalogOrder}
    (h : ({ s with orders } : CatalogDb).purchase o = s.purchase o) : StaysRefunded o s { s with orders } :=
  ⟨h, fun k hk ho => ⟨k, hk, rfl, ho, id⟩, fun _ _ _ => rfl⟩

theorem purchase_update {s : CatalogDb} {id : CatalogOrderId} {f : CatalogOrder → CatalogOrder}
    {hf : ∀ o, (f o).id = o.id}
    (hsame : id = o → ∀ row, (f row).status = row.status ∧ (f row).paidAt = row.paidAt) :
    ({ s with orders := s.orders.update id f hf } : CatalogDb).purchase o = s.purchase o := by
  show ((s.orders.update id f hf).find? o).map _ = (s.orders.find? o).map _
  rw [Table.find?_update]
  split
  · rename_i heq
    subst heq
    rw [Option.map_map]
    congr 1
    funext row
    obtain ⟨hstatus, hpaidAt⟩ := hsame rfl row
    simp only [Function.comp_apply, hstatus, hpaidAt]
  · rfl

/-- The webhooks write an order only while it is pending. -/
theorem purchase_pending {s : CatalogDb} {id : CatalogOrderId} {f : CatalogOrder → CatalogOrder}
    {hf : ∀ o, (f o).id = o.id} (hs : s.OrderRefunded o) :
    ({ s with orders := s.orders.updateMany (pendingOrder id) f hf } : CatalogDb).purchase o =
      s.purchase o := by
  obtain ⟨row, hrow, hstatus⟩ := hs
  have hnot : pendingOrder id row = false := by simp [pendingOrder, hstatus]
  show ((s.orders.updateMany (pendingOrder id) f hf).find? o).map _ = (s.orders.find? o).map _
  rw [Table.find?_updateMany, hrow, Option.map_some, hnot]
  rfl

/-- A write to one claim that refunds no claim on the order. -/
theorem StaysRefunded.of_claim {claimId : CatalogClaimId} {f : CatalogClaim → CatalogClaim}
    {hf : ∀ k, (f k).id = k.id} (horder : ∀ k, (f k).catalogOrderId = k.catalogOrderId)
    (hsame : ∀ k ∈ s.claims.rows, k.id = claimId → k.catalogOrderId = o → (f k).isRefunded →
      k.isRefunded) : StaysRefunded o s { s with claims := s.claims.update claimId f hf } := by
  refine ⟨rfl, fun k hk ho => ?_, fun _ _ _ => rfl⟩
  obtain ⟨k₀, hk₀, ⟨hid, rfl⟩ | ⟨-, rfl⟩⟩ := Table.mem_rewritten hk
  · have ho₀ : k₀.catalogOrderId = o := (horder k₀).symm.trans ho
    exact ⟨k₀, hk₀, (hf k₀).symm, ho₀, hsame k₀ hk₀ (of_decide_eq_true hid) ho₀⟩
  · exact ⟨k, hk₀, rfl, ho, id⟩

theorem NoRefund.isRefunded {f : CatalogClaim → CatalogClaim} (h : NoRefund f) {k : CatalogClaim}
    (hk : (f k).isRefunded) : k.isRefunded := by
  rcases hk with hstatus | hid
  · exact absurd hstatus (h.status k)
  · exact .inr (h.stripeRefundId k ▸ hid)

theorem CatalogStep.staysRefunded {site : CatalogSite} (hstep : CatalogStep c start site s s')
    (hstart : start.OrderRefunded o) (hnot : ¬ConfirmsPayment o c start) (hs : s.OrderRefunded o) :
    StaysRefunded o s s' := by
  -- no row with the id of a claim that is being refunded is on the order
  have hother : ∀ {claim : CatalogClaim} {row : CatalogOrder}, RefundChecked start claim row →
      s.claims = start.claims → ∀ k ∈ s.claims.rows, k.catalogOrderId = o → k.id ≠ claim.id := by
    intro claim row hchecked hclaims k hk ho hid
    have hfound : start.claims.find? k.id = some k := Table.find?_of_mem (hclaims ▸ hk)
    rw [hid, hchecked.claim_found] at hfound
    cases hfound
    exact (hchecked.other hstart).1 ho
  cases hstep with
  | aside horders hclaims hrefunds =>
    refine ⟨?_, fun k hk ho => ⟨k, hclaims ▸ hk, rfl, ho, id⟩, fun _ _ _ => by rw [hrefunds]⟩
    unfold CatalogDb.purchase
    rw [horders]
  | createsOrder new hnew =>
    obtain ⟨row, hrow, -⟩ := hs
    refine .of_orders ?_
    show ((_ : Table CatalogOrder).find? o).map _ = (s.orders.find? o).map _
    rw [Table.find?_insert_of_some hnew hrow, hrow]
  | savesPayment id pi => exact .of_orders (purchase_update fun _ _ => ⟨rfl, rfl⟩)
  | confirms sub id hcall hseller hrow howner hpi hpayment hpaid =>
    refine .of_orders (purchase_update ?_)
    rintro rfl
    exact absurd ⟨sub, _, _, _, _, hcall, hseller, hrow, howner, hpi, hpayment, hpaid⟩ hnot
  | marksPaid id pi => exact .of_orders (purchase_pending hs)
  | marksFailed id => exact .of_orders (purchase_pending hs)
  | createsClaim k hnew hstatus hrefund hrow hpaid =>
    -- the new claim is on a paid order
    have hk : k.catalogOrderId ≠ o := by
      rintro rfl
      obtain ⟨row', hrow', hstatus'⟩ := hstart
      rw [hrow] at hrow'
      cases hrow'
      rw [hpaid] at hstatus'
      cases hstatus'
    refine ⟨rfl, fun k' hk' ho => ?_, fun _ _ _ => rfl⟩
    rcases (Table.mem_insert hnew).mp hk' with rfl | hk'
    · exact absurd ho hk
    · exact ⟨k', hk', rfl, ho, id⟩
  | createsRefund r hchecked hclaims hclaim hnew =>
    refine ⟨rfl, fun k hk ho => ⟨k, hk, rfl, ho, id⟩, fun k hk ho => ?_⟩
    have hne : k.id ≠ Keyed.key r := fun heq => hother hchecked hclaims k hk ho (heq.trans hclaim)
    show (_ : Table CatalogRefund).find? k.id = s.refunds.find? k.id
    rw [Table.find?_insert hnew, if_neg hne]
  | refundsOrder refund hchecked =>
    exact .of_orders (purchase_update fun heq => absurd heq (hchecked.other hstart).2)
  | refundsClaim dto amount refund hchecked hclaims =>
    exact .of_claim (fun _ => rfl) fun k hk hid ho => absurd hid (hother hchecked hclaims k hk ho)
  | reviewsClaim hchecked hclaims hnoRefund =>
    exact .of_claim hnoRefund.order fun k _ _ _ => hnoRefund.isRefunded
  | decides id status hcall hclaims hnoRefund =>
    exact .of_claim hnoRefund.order fun k _ _ _ => hnoRefund.isRefunded

/-! ## Whole calls -/

/-- A confirmation of a succeeded payment writes an order that is not PAID. -/
theorem Confirms.exec {seller : User} {row : CatalogOrder} {payment : CatalogPayment}
    (h : Confirms o c sub s seller row pi payment) (w : Nat → CatalogAnswer) :
    (confirmPayment sub o).Succeeds w s ∧
      ((confirmPayment sub o).exec w s).state.purchase o =
        some (.paid, if row.status = .paid then row.paidAt else some s.now) := by
  have howner : (s.orders.find? o).filter (fun row => row.sellerId = seller.id) = some row := by
    rw [h.order_found]
    exact Option.filter_eq_some_iff.mpr ⟨rfl, decide_eq_true h.owner⟩
  unfold Succeeds Returns confirmPayment
  rw [exec_read_bind, h.seller_found, exec_orThrow_bind, exec_read_bind, howner, exec_orThrow_bind]
  -- the only early return is that of a PAID order; a REFUNDED one goes on to Stripe
  by_cases hstatus : row.status = .paid
  · rw [if_pos hstatus, if_pos hstatus]
    refine ⟨⟨row, rfl⟩, ?_⟩
    show s.purchase o = _
    rw [CatalogDb.purchase, h.order_found, Option.map_some, hstatus]
  · rw [if_neg hstatus, if_neg hstatus, h.intent, exec_orThrow_bind, exec_read_bind, h.payment_found,
      exec_orThrow_bind, exec_throwIf_bind (not_not.mpr h.succeeded)]
    have hrun : (do
        let db ← get
        updateCatalogOrder o (markOrderPaid db.now) : CatalogTx Unit) s =
          .ok ((), { s with orders := s.orders.update o (markOrderPaid s.now) }) :=
      Stmt.bind_ok.mpr ⟨s, s, Stmt.get_ok.mpr ⟨rfl, rfl⟩,
        updateCatalogOrder_ok.mpr ⟨⟨row, h.order_found⟩, rfl⟩⟩
    have hfound : (s.orders.update o (markOrderPaid s.now)).find? o = some (markOrderPaid s.now row) :=
      Table.find?_update_of_eq h.order_found
    rw [exec_run_bind_ok hrun, exec_read_bind]
    dsimp only
    rw [hfound, exec_orThrow_done]
    refine ⟨⟨_, rfl⟩, ?_⟩
    show CatalogDb.purchase { s with orders := _ } o = _
    rw [CatalogDb.purchase, hfound]
    rfl

/-- **A refunded order stays refunded, and what it takes.** In every sequence of purchases,
confirmations, payment webhooks and claim operations, executed one at a time, with time
passing and PaymentIntents moving at Stripe, an order that is REFUNDED keeps its status and
its payment date, and no claim on it is created or refunded, if and only if its seller never
confirms its payment, which Stripe goes on reporting as succeeded, once it is refunded. -/
theorem refunded_order_lasts_iff (db : CatalogDb) (o : CatalogOrderId)
    (inputs : List (Input catalogService)) :
    Serial.Lasts (CatalogDb.OrderRefunded o) (StaysRefunded o) db inputs ↔
      Serial.Unbroken (fun (c : CatalogCall) (s : CatalogDb) => s.OrderRefunded o ∧ ConfirmsPayment o c s)
        db inputs := by
  refine serial_lasts_iff (S := catalogService) (T := CatalogDb.OrderRefunded o) (R := StaysRefunded o)
    StaysRefunded.refl (fun _ _ _ => StaysRefunded.trans)
    (fun s s' hs h => h.refunded hs) (fun e s _ => ?_) (fun _ _ => rfl) (fun me c w s hs => ?_) db inputs
  · cases e with
    | wait ms => exact ⟨rfl, fun k hk ho => ⟨k, hk, rfl, ho, id⟩, fun _ _ _ => rfl⟩
    | payment pi status => exact ⟨rfl, fun k hk ho => ⟨k, hk, rfl, ho, id⟩, fun _ _ _ => rfl⟩
  constructor
  · rintro hstays ⟨sub, seller, row, pi, payment, hconfirms⟩
    -- the confirmation leaves the order PAID, which a lasting refund excludes
    have hpaid := (hconfirms.exec w).2
    obtain ⟨paidAt, hrefunded⟩ := CatalogDb.orderRefunded_iff.mp (hstays.refunded hs)
    have hstate : ((catalogHandle me c).exec w s).state = ((confirmPayment sub o).exec w s).state := by
      rw [hconfirms.call]
      exact exec_bind_pure.1
    have hsame : ((catalogHandle me c).exec w s).state.purchase o = some (.refunded, paidAt) := hrefunded
    rw [hstate, hpaid] at hsame
    cases hsame
  · intro hnot
    -- no step of any other call touches what lasts
    have hleads := c.leads (K := fun a b => a.OrderRefunded o → StaysRefunded o a b)
      (fun a _ => .refl a) (fun a b c hab hbc ha => (hab ha).trans (hbc ((hab ha).refunded ha))) me w
      fun site a b hstep => hstep.staysRefunded hs hnot
    exact hleads hs

/-! ## The payment events of an order -/

/-- The PaymentIntent is the order's: no other order has it recorded. -/
structure PaysFor (db : CatalogDb) (pi : PaymentIntentId) (o : CatalogOrderId) : Prop where
  found : ∃ row, db.orders.find? o = some row
  unique : ∀ row ∈ db.orders.rows, row.stripePaymentIntentId = some pi → row.id = o

/-- The PaymentIntent in its events, with the metadata that `createOrder` has given it. -/
def paymentOf (o : CatalogOrderId) (pi : PaymentIntentId) : CatalogPaymentEvent :=
  ⟨pi, some "catalog_order", some o⟩

/-- The events of the order's PaymentIntent, delivered one after the other, some of them
perhaps again. -/
def deliver (o : CatalogOrderId) (pi : PaymentIntentId)
    (events : List (PaymentEventKind × (Nat → CatalogAnswer))) : List (Input catalogService) :=
  events.map fun e => .call (.paymentEvent e.1 (paymentOf o pi)) e.2

def CatalogDb.statusOf (db : CatalogDb) (o : CatalogOrderId) : Option CatalogOrderStatus :=
  (db.orders.find? o).map CatalogOrder.status

/-- What an event makes of the status of its order. -/
def statusAfter (status : CatalogOrderStatus) (kind : PaymentEventKind) : CatalogOrderStatus :=
  if status = .pending then (if kind = .succeeded then .paid else .failed) else status

theorem statusAfter_of_ne {status : CatalogOrderStatus} (hne : status ≠ .pending)
    (kinds : List PaymentEventKind) : kinds.foldl statusAfter status = status := by
  induction kinds with
  | nil => rfl
  | cons kind rest ih => rw [List.foldl_cons, statusAfter, if_neg hne, ih]

/-- The first event settles a pending order. -/
theorem foldl_statusAfter {status : CatalogOrderStatus} {kinds : List PaymentEventKind} :
    kinds.foldl statusAfter status = .paid ↔
      status = .paid ∨ status = .pending ∧ kinds.head? = some .succeeded := by
  -- only a pending order listens to its events, and only to the first one
  by_cases hstatus : status = .pending
  · subst hstatus
    cases kinds with
    | nil => simp
    | cons kind rest =>
      rw [List.foldl_cons, statusAfter, if_pos rfl]
      by_cases hkind : kind = .succeeded
      · rw [if_pos hkind, statusAfter_of_ne (by decide)]
        simp [hkind]
      · rw [if_neg hkind, statusAfter_of_ne (by decide)]
        simp [hkind]
  · rw [statusAfter_of_ne hstatus]
    simp [hstatus]

/-- Rewriting the pending order keeps its PaymentIntent its own. -/
theorem PaysFor.updateMany {f : CatalogOrder → CatalogOrder} {hf : ∀ o, (f o).id = o.id}
    (h : PaysFor s pi o) :
    PaysFor { s with orders := s.orders.updateMany (pendingOrder o) f hf } pi o := by
  obtain ⟨row, hrow⟩ := h.found
  refine ⟨?_, fun row' hrow' hpaid => ?_⟩
  · show ∃ row, (s.orders.updateMany (pendingOrder o) f hf).find? o = some row
    rw [Table.find?_updateMany, hrow]
    exact ⟨_, rfl⟩
  · obtain ⟨row₀, hrow₀, ⟨hpending, rfl⟩ | ⟨-, rfl⟩⟩ := Table.mem_rewritten hrow'
    · simp only [pendingOrder, Bool.and_eq_true, decide_eq_true_eq] at hpending
      exact (hf row₀).trans hpending.1
    · exact h.unique _ hrow₀ hpaid

theorem statusOf_updateMany {f : CatalogOrder → CatalogOrder} {hf : ∀ o, (f o).id = o.id}
    {row : CatalogOrder} {status : CatalogOrderStatus} (hrow : s.orders.find? o = some row)
    (hstatus : ∀ row, (f row).status = status) :
    ({ s with orders := s.orders.updateMany (pendingOrder o) f hf } : CatalogDb).statusOf o =
      some (if row.status = .pending then status else row.status) := by
  have hid : row.id = o := Table.key_of_find? hrow
  show ((s.orders.updateMany (pendingOrder o) f hf).find? o).map _ = _
  rw [Table.find?_updateMany, hrow, Option.map_some, Option.map_some]
  by_cases hpending : row.status = .pending
  · rw [if_pos hpending, if_pos (by simp [pendingOrder, hid, hpending]), hstatus]
  · rw [if_neg hpending, if_neg (by simp [pendingOrder, hpending])]

/-- The state after `payment_intent.succeeded`. -/
def CatalogDb.payPending (s : CatalogDb) (o : CatalogOrderId) (pi : PaymentIntentId) : CatalogDb :=
  { s with orders := s.orders.updateMany (pendingOrder o) fun row =>
      { markOrderPaid s.now row with stripePaymentIntentId := some pi } }

theorem statusOf_payPending {row : CatalogOrder} (hrow : s.orders.find? o = some row) :
    (s.payPending o pi).statusOf o = some (statusAfter row.status .succeeded) := by
  unfold statusAfter
  rw [if_pos rfl]
  exact statusOf_updateMany hrow fun _ => rfl

theorem paidByWebhook_state (h : PaysFor s pi o) : ∃ s', paidByWebhook o pi s = .ok ((), s') ∧
    PaysFor s' pi o ∧ ∀ row, s.orders.find? o = some row →
      s'.statusOf o = some (statusAfter row.status .succeeded) := by
  -- the webhook writes the order if it is pending, and nothing otherwise
  by_cases hany : s.orders.rows.any (pendingOrder o) = true
  · have hfree : ¬(s.orders.rows.any fun row => row.id ≠ o && row.stripePaymentIntentId = some pi) = true := by
      rw [List.any_eq_true]
      rintro ⟨row, hrow, htaken⟩
      simp only [Bool.and_eq_true, decide_eq_true_eq] at htaken
      exact htaken.1 (h.unique row hrow htaken.2)
    have hrun : paidByWebhook o pi s = .ok ((), s.payPending o pi) := by
      refine Stmt.bind_ok.mpr ⟨s, s, Stmt.get_ok.mpr ⟨rfl, rfl⟩, ?_⟩
      rw [if_pos hany]
      exact Stmt.bind_ok.mpr ⟨(), s, Stmt.bind_ok.mpr ⟨s, s, Stmt.get_ok.mpr ⟨rfl, rfl⟩,
        Stmt.throwIf_ok.mpr ⟨hfree, rfl⟩⟩, Stmt.set_ok.mpr rfl⟩
    exact ⟨_, hrun, h.updateMany, fun row hrow => statusOf_payPending hrow⟩
  · have hrun : paidByWebhook o pi s = .ok ((), s) := by
      refine Stmt.bind_ok.mpr ⟨s, s, Stmt.get_ok.mpr ⟨rfl, rfl⟩, ?_⟩
      rw [if_neg hany]
      rfl
    refine ⟨s, hrun, h, fun row hrow => ?_⟩
    have hnot : row.status ≠ .pending := by
      intro hpending
      have hid : row.id = o := Table.key_of_find? hrow
      refine hany (List.any_eq_true.mpr ⟨row, Table.mem_of_find? hrow, ?_⟩)
      simp [pendingOrder, hid, hpending]
    rw [CatalogDb.statusOf, hrow, statusAfter, if_neg hnot]
    rfl

/-- One event. -/
theorem paymentEvent_status (h : PaysFor s pi o) {row : CatalogOrder} (hrow : s.orders.find? o = some row)
    (me : Nat) (kind : PaymentEventKind) (w : Nat → CatalogAnswer) :
    let s' := ((catalogHandle me (.paymentEvent kind (paymentOf o pi))).exec w s).state
    PaysFor s' pi o ∧ s'.statusOf o = some (statusAfter row.status kind) := by
  have hstate : ((catalogHandle me (.paymentEvent kind (paymentOf o pi))).exec w s).state =
      ((handlePaymentEvent kind (paymentOf o pi)).exec w s).state := exec_bind_pure.1
  obtain ⟨s₁, hrun, hpays, hstatus⟩ := paidByWebhook_state h
  have hfailed : ((markCatalogOrderFailed (paymentOf o pi)).exec w s).state =
      { s with orders := s.orders.updateMany (pendingOrder o) fun row => { row with status := .failed } } := rfl
  dsimp only
  rw [hstate]
  unfold handlePaymentEvent
  rw [if_pos (show (paymentOf o pi).type = some "catalog_order" from rfl)]
  -- a failure and a cancellation are handled alike
  cases kind with
  | succeeded =>
    have hpaid : ((markCatalogOrderPaid (paymentOf o pi)).exec w s).state = s₁ := by
      unfold markCatalogOrderPaid
      rw [exec_read_bind]
      have hwrite : (await (.markPaid o) (fun _ => paidByWebhook o pi) : CatalogHandler Unit).exec
          (fun m => w (m + 1)) s = _ := exec_await_ok hrun
      dsimp only [catalogOrderIdFor, paymentOf]
      rw [hwrite]
    dsimp only
    rw [hpaid]
    exact ⟨hpays, hstatus row hrow⟩
  | paymentFailed =>
    dsimp only
    rw [hfailed]
    exact ⟨h.updateMany, statusOf_updateMany hrow fun _ => rfl⟩
  | canceled =>
    dsimp only
    rw [hfailed]
    exact ⟨h.updateMany, statusOf_updateMany hrow fun _ => rfl⟩

/-- All events. -/
theorem deliver_status (h : PaysFor s pi o) {row : CatalogOrder} (hrow : s.orders.find? o = some row)
    (events : List (PaymentEventKind × (Nat → CatalogAnswer))) :
    PaysFor (serialRun s (deliver o pi events)).state pi o ∧
      (serialRun s (deliver o pi events)).state.statusOf o =
        some ((events.map Prod.fst).foldl statusAfter row.status) := by
  -- on the events, the newest one last
  induction events using List.reverseRecOn with
  | nil => exact ⟨h, by rw [CatalogDb.statusOf]; exact congrArg _ hrow⟩
  | append_singleton events e ih =>
    obtain ⟨hpays, hstatus⟩ := ih
    obtain ⟨row', hrow', hstatus'⟩ := Option.map_eq_some_iff.mp hstatus
    have hone := paymentEvent_status hpays hrow' (serialRun s (deliver o pi events)).calls.length e.1 e.2
    have hrun : (serialRun s (deliver o pi (events ++ [e]))).state =
        ((catalogHandle (serialRun s (deliver o pi events)).calls.length
          (.paymentEvent e.1 (paymentOf o pi))).exec e.2 (serialRun s (deliver o pi events)).state).state := by
      rw [deliver, List.map_append, ← deliver, List.map_singleton, serialRun, Serial.run_concat, ← serialRun]
      rfl
    rw [hrun, List.map_append, List.foldl_append, ← hstatus']
    exact hone

/-- **Payments converge, and what it takes.** After the events of a payment, in any order,
number and repetition, the order is PAID if and only if it was PAID before, or it was
PENDING and the first event says that the payment succeeded; the seller's confirmation of
the succeeded payment leaves the order PAID in any case. -/
theorem payments_converge_iff {db : CatalogDb} {o : CatalogOrderId} {pi : PaymentIntentId}
    (h : PaysFor db pi o) (events : List (PaymentEventKind × (Nat → CatalogAnswer))) :
    ((serialRun db (deliver o pi events)).state.statusOf o = some .paid ↔
      db.statusOf o = some .paid ∨
        db.statusOf o = some .pending ∧ (events.map Prod.fst).head? = some .succeeded) ∧
    ∀ sub seller row payment w, Confirms o (.confirmPayment sub o) sub db seller row pi payment →
      ((confirmPayment sub o).exec w db).state.statusOf o = some .paid := by
  obtain ⟨row, hrow⟩ := h.found
  have hbefore : db.statusOf o = some row.status := by
    rw [CatalogDb.statusOf, hrow]
    rfl
  constructor
  · rw [(deliver_status h hrow events).2, hbefore, Option.some.injEq, Option.some.injEq, Option.some.injEq,
      foldl_statusAfter]
  · intro sub seller row' payment w hconfirms
    obtain ⟨row'', hrow'', heq⟩ := Option.map_eq_some_iff.mp (hconfirms.exec w).2
    rw [CatalogDb.statusOf, hrow'']
    exact congrArg (some ·.1) heq

/-! ## Runs -/

/-- A seller, a product of 50 euros, and no purchase. -/
def catalogTown : CatalogDb where
  now := 0
  users := ⟨[⟨⟨0, 101⟩, "seller", "seller@town", .seller, false, none, none, false, none, none⟩], by decide⟩
  products := ⟨[⟨⟨0, 140⟩, "Couteau", 5000, "usd", true, none⟩], by decide⟩
  orders := .empty
  claims := .empty
  payments := .empty
  refunds := .empty
  stripeNext := 0

/-- Every remote call goes through. -/
def catalogTownCall (c : CatalogCall) : Input catalogService := .call c fun _ => ⟨true, true, "secret"⟩

/-- The seller buys the product (call 0) and pays. -/
def productBought : List (Input catalogService) :=
  [catalogTownCall (.createOrder "seller" ⟨[⟨⟨0, 140⟩, 1⟩]⟩)]

/-- The payment is confirmed (call 1), a claim opened (call 2) and refunded (call 3). -/
def productRefunded : List (Input catalogService) :=
  productBought ++ [.event (.payment (.stripe 1) .succeeded),
    catalogTownCall (.confirmPayment "seller" ⟨0, 0⟩),
    catalogTownCall (.createClaim "seller" ⟨0, 0⟩ ⟨.defective, "cassé", none⟩),
    catalogTownCall (.adminRefund ⟨2, 0⟩ ⟨none, none⟩)]

/-- **A refund undone.** The seller confirms the payment of the refunded order again, and it
is PAID. -/
theorem refund_undone : ¬Serial.Lasts (CatalogDb.OrderRefunded ⟨0, 0⟩) (StaysRefunded ⟨0, 0⟩) catalogTown
    (productRefunded ++ [catalogTownCall (.confirmPayment "seller" ⟨0, 0⟩)]) := by
  intro hlasts
  have hrefunded : (serialRun catalogTown productRefunded).state.purchase ⟨0, 0⟩ =
      some (.refunded, some 0) := by
    decide +kernel
  have hstays := hlasts productRefunded [catalogTownCall (.confirmPayment "seller" ⟨0, 0⟩)] []
    (List.append_nil _).symm (CatalogDb.orderRefunded_iff.mpr ⟨_, hrefunded⟩)
  have hpaid : (serialRun catalogTown (productRefunded ++
      [catalogTownCall (.confirmPayment "seller" ⟨0, 0⟩)])).state.purchase ⟨0, 0⟩ =
      some (.paid, some 0) := by
    decide +kernel
  have horder := hstays.order
  rw [hpaid, hrefunded] at horder
  cases horder

/-- The state after the purchase. -/
def boughtTown : CatalogDb := (serialRun catalogTown productBought).state

theorem boughtTown_paysFor : PaysFor boughtTown (.stripe 1) ⟨0, 0⟩ := by
  constructor
  · exact Option.isSome_iff_exists.mp (by decide +kernel)
  · decide +kernel

/-- A payment that succeeds at once, and whose success is delivered twice. -/
theorem payment_converges :
    (serialRun boughtTown (deliver ⟨0, 0⟩ (.stripe 1)
      [(.succeeded, fun _ => ⟨true, true, ""⟩), (.succeeded, fun _ => ⟨true, true, ""⟩)])).state.statusOf
        ⟨0, 0⟩ = some .paid :=
  (payments_converge_iff boughtTown_paysFor _).1.mpr (.inr ⟨by decide +kernel, rfl⟩)

/-- **A payment that does not converge.** The card is refused once, then it goes through:
the order is FAILED, and the confirmation would make it PAID. -/
theorem failed_then_succeeded :
    (serialRun boughtTown (deliver ⟨0, 0⟩ (.stripe 1)
      [(.paymentFailed, fun _ => ⟨true, true, ""⟩), (.succeeded, fun _ => ⟨true, true, ""⟩)])).state.statusOf
        ⟨0, 0⟩ = some .failed ∧
    (serialRun boughtTown (.event (.payment (.stripe 1) .succeeded) ::
      deliver ⟨0, 0⟩ (.stripe 1) [(.paymentFailed, fun _ => ⟨true, true, ""⟩)] ++
      [catalogTownCall (.confirmPayment "seller" ⟨0, 0⟩)])).state.statusOf ⟨0, 0⟩ = some .paid := by
  constructor
  · decide +kernel
  · decide +kernel

end IncaCook
