import IncaCook.Model.Catalog

/-!
# The steps of the catalog

`CatalogStep` lists what a single step of a catalog call can do, when the call runs alone
from the state `start`: what the handler has checked is a fact about `start`, and a write
finds the tables it checked as they were, but for the call's own writes.

Main results:

* `catalogHandle_sat`: every call does only the steps of `CatalogStep`;
* `CatalogCall.leads`: what all these steps keep, a call keeps.
-/

namespace IncaCook

open Prog Catalog

variable {s s' : CatalogDb} {c : CatalogCall} {me : Nat} {sub : String}

/-! ## Statements -/

theorem updateCatalogOrder_ok {id : CatalogOrderId} {f : CatalogOrder → CatalogOrder}
    {hf : ∀ o, (f o).id = o.id} {x : Unit} :
    updateCatalogOrder id f hf s = .ok (x, s') ↔ (∃ o, s.orders.find? id = some o) ∧
      s' = { s with orders := s.orders.update id f hf } := by
  simp [updateCatalogOrder, Table.update?_eq_some]

theorem updateCatalogClaim_ok {id : CatalogClaimId} {f : CatalogClaim → CatalogClaim}
    {hf : ∀ k, (f k).id = k.id} {k' : CatalogClaim} :
    updateCatalogClaim id f hf s = .ok (k', s') ↔ (∃ k, s.claims.find? id = some k ∧ k' = f k) ∧
      s' = { s with claims := s.claims.update id f hf } := by
  constructor
  · intro hrun
    simp only [updateCatalogClaim, Stmt.bind_ok, Stmt.get_ok, Stmt.orThrow_ok, Stmt.set_ok] at hrun
    obtain ⟨_, _, ⟨rfl, rfl⟩, claims, _, ⟨hupdate, rfl⟩, _, _, rfl, hfound, rfl⟩ := hrun
    obtain ⟨⟨k, hk⟩, rfl⟩ := Table.update?_eq_some.mp hupdate
    rw [Table.find?_update_of_eq hk hf] at hfound
    exact ⟨⟨k, hk, (Option.some.inj hfound).symm⟩, rfl⟩
  · rintro ⟨⟨k, hk, rfl⟩, rfl⟩
    simp only [updateCatalogClaim, Stmt.bind_ok, Stmt.get_ok, Stmt.orThrow_ok, Stmt.set_ok]
    exact ⟨_, _, ⟨rfl, rfl⟩, _, _, ⟨Table.update?_eq_some.mpr ⟨⟨k, hk⟩, rfl⟩, rfl⟩, ⟨⟩, _, rfl,
      Table.find?_update_of_eq hk hf, rfl⟩

theorem savePaymentIntent_ok {o : CatalogOrderId} {pi : PaymentIntentId} {x : Unit}
    (hrun : savePaymentIntent o pi s = .ok (x, s')) :
    s' = { s with orders := s.orders.update o fun row => { row with stripePaymentIntentId := some pi } } := by
  simp only [savePaymentIntent, uniqueCatalogPayment, Stmt.bind_ok, Stmt.get_ok, Stmt.throwIf_ok,
    updateCatalogOrder_ok] at hrun
  obtain ⟨_, _, ⟨_, _, ⟨rfl, rfl⟩, -, rfl⟩, -, rfl⟩ := hrun
  rfl

theorem createCatalogRefund_ok {k : CatalogClaimId} {pi : PaymentIntentId} {amount : Cents} {id : RefundId}
    (hrun : createRefund k pi amount s = .ok (id, s')) :
    (s' = s ∧ ∃ r, s.refunds.find? k = some r ∧ r.id = id) ∨
      ∃ refunds, s.refunds.insert? ⟨id, k, pi, amount⟩ = some refunds ∧
        s' = { s with refunds, stripeNext := s.stripeNext + 1 } := by
  simp only [createRefund, Stmt.bind_ok, Stmt.get_ok] at hrun
  obtain ⟨_, db, ⟨rfl, rfl⟩, hrun⟩ := hrun
  cases hr : db.refunds.find? k with
  | some r =>
    simp only [hr, Stmt.bind_ok, Stmt.throwIf_ok, Stmt.pure_ok] at hrun
    obtain ⟨_, _, ⟨-, rfl⟩, rfl, rfl⟩ := hrun
    exact .inl ⟨rfl, r, rfl, rfl⟩
  | none =>
    simp only [hr, Stmt.bind_ok, Stmt.throwIf_ok, Stmt.orThrow_ok, Stmt.set_ok, Stmt.pure_ok] at hrun
    obtain ⟨_, _, ⟨-, rfl⟩, refunds, _, ⟨hnew, rfl⟩, _, _, rfl, rfl, rfl⟩ := hrun
    exact .inr ⟨refunds, hnew, rfl⟩

/-! ## The steps -/

/-- A claim that counts as refunded for `adminRefund`. -/
def CatalogClaim.isRefunded (k : CatalogClaim) : Prop := k.status = .refunded ∨ k.stripeRefundId.isSome

/-- The call writes a decision over the claim, whatever its status is. -/
def CatalogCall.overwrites (k : CatalogClaimId) : CatalogCall → Bool
  | .adminRequestReplacement id _ | .adminReject id _ | .adminResolve id _ => id = k
  | _ => false

/-- What `adminRefund` has checked before it asks Stripe. -/
structure RefundChecked (start : CatalogDb) (claim : CatalogClaim) (row : CatalogOrder) : Prop where
  claim_found : start.claims.find? claim.id = some claim
  claim_open : ¬claim.isRefunded
  order_found : start.orders.find? claim.catalogOrderId = some row
  order_open : row.status ≠ .refunded

/-- A decision that is no refund leaves what a refund writes. -/
structure NoRefund (f : CatalogClaim → CatalogClaim) : Prop where
  status : ∀ k, (f k).status ≠ .refunded
  stripeRefundId : ∀ k, (f k).stripeRefundId = k.stripeRefundId
  order : ∀ k, (f k).catalogOrderId = k.catalogOrderId

inductive CatalogStep (c : CatalogCall) (start : CatalogDb) : CatalogSite → CatalogDb → CatalogDb → Prop
    where
  /-- reads, Stripe's customers and PaymentIntents, pushes, and what was refused -/
  | aside {site : CatalogSite} {s s' : CatalogDb} (horders : s'.orders = s.orders)
      (hclaims : s'.claims = s.claims) (hrefunds : s'.refunds = s.refunds) :
      CatalogStep c start site s s'
  | createsOrder {s : CatalogDb} {orders : Table CatalogOrder} (new : CatalogOrder)
      (hnew : s.orders.insert? new = some orders) :
      CatalogStep c start (.createOrder new.id) s { s with orders }
  | savesPayment {s : CatalogDb} (o : CatalogOrderId) (pi : PaymentIntentId) :
      CatalogStep c start (.savePaymentIntent o) s { s with
        orders := s.orders.update o fun row => { row with stripePaymentIntentId := some pi } }
  | confirms {s : CatalogDb} {seller : User} {row : CatalogOrder} {pi : PaymentIntentId}
      {payment : CatalogPayment} (sub : String) (o : CatalogOrderId) (hcall : c = .confirmPayment sub o)
      (hseller : start.userBySupabaseId sub = some seller) (hrow : start.orders.find? o = some row)
      (howner : row.sellerId = seller.id) (hpi : row.stripePaymentIntentId = some pi)
      (hpayment : start.payments.find? pi = some payment) (hpaid : payment.status = .succeeded) :
      CatalogStep c start (.confirmPayment o) s { s with
        orders := s.orders.update o (markOrderPaid s.now) }
  | marksPaid {s : CatalogDb} (o : CatalogOrderId) (pi : PaymentIntentId) :
      CatalogStep c start (.markPaid o) s { s with
        orders := s.orders.updateMany (pendingOrder o) fun row =>
          { markOrderPaid s.now row with stripePaymentIntentId := some pi } }
  | marksFailed {s : CatalogDb} (o : CatalogOrderId) : CatalogStep c start (.markFailed o) s { s with
      orders := s.orders.updateMany (pendingOrder o) fun row => { row with status := .failed } }
  | createsClaim {s : CatalogDb} {claims : Table CatalogClaim} {row : CatalogOrder} (k : CatalogClaim)
      (hnew : s.claims.insert? k = some claims) (hstatus : k.status = .open)
      (hrefund : k.stripeRefundId = none) (hrow : start.orders.find? k.catalogOrderId = some row)
      (hpaid : row.status = .paid) : CatalogStep c start (.createClaim k.id) s { s with claims }
  | createsRefund {s : CatalogDb} {refunds : Table CatalogRefund} {claim : CatalogClaim}
      {row : CatalogOrder} (r : CatalogRefund) (hchecked : RefundChecked start claim row)
      (hclaims : s.claims = start.claims) (hclaim : r.claimId = claim.id)
      (hnew : s.refunds.insert? r = some refunds) :
      CatalogStep c start (.createRefund claim.id) s { s with refunds, stripeNext := s.stripeNext + 1 }
  | refundsOrder {s : CatalogDb} {claim : CatalogClaim} {row : CatalogOrder} (refund : RefundId)
      (hchecked : RefundChecked start claim row) : CatalogStep c start (.refundOrder row.id) s { s with
        orders := s.orders.update row.id fun o =>
          { o with status := .refunded, stripeRefundId := some refund } }
  | refundsClaim {s : CatalogDb} {claim : CatalogClaim} {row : CatalogOrder} {now : Time}
      (dto : CatalogClaimRefundDto) (amount : Cents) (refund : RefundId)
      (hchecked : RefundChecked start claim row) (hclaims : s.claims = start.claims) :
      CatalogStep c start (.updateClaim claim.id .refunded) s { s with
        claims := s.claims.update claim.id (refundedClaim claim dto amount refund now) }
  /-- the order has no PaymentIntent: the refund is left to a person -/
  | reviewsClaim {s : CatalogDb} {claim : CatalogClaim} {row : CatalogOrder}
      {f : CatalogClaim → CatalogClaim} {hf : ∀ k, (f k).id = k.id}
      (hchecked : RefundChecked start claim row) (hclaims : s.claims = start.claims)
      (hnoRefund : NoRefund f) : CatalogStep c start (.updateClaim claim.id .adminReview) s { s with
        claims := s.claims.update claim.id f hf }
  | decides {s : CatalogDb} {f : CatalogClaim → CatalogClaim} {hf : ∀ k, (f k).id = k.id}
      (id : CatalogClaimId) (status : CatalogClaimStatus) (hcall : c.overwrites id = true)
      (hclaims : s.claims = start.claims) (hnoRefund : NoRefund f) :
      CatalogStep c start (.updateClaim id status) s { s with claims := s.claims.update id f hf }

theorem CatalogStep.noop {start : CatalogDb} (site : CatalogSite) : CatalogStep c start site s s :=
  .aside rfl rfl rfl

/-- The steps of a call that runs alone from `start`. -/
def catalogContract (c : CatalogCall) (start : CatalogDb) : Contract catalogMachine where
  rely := Eq
  guar _ site s s' := CatalogStep c start site s s'

section

variable {start : CatalogDb} {h : List (StepRecord catalogMachine)}

/-! ## The handlers -/

/-- A write that may fail, and what comes after it. -/
theorem sat_attempt_bind {α β : Type} {site : CatalogSite} {stmt : CatalogTx α} {k : α → CatalogHandler β}
    (hok : ∀ a s', stmt s = .ok (a, s') → CatalogStep c start site s s' ∧
      ∀ h, Sat (catalogContract c start) anyPost (k a) h s') :
    Sat (catalogContract c start) anyPost (attempt site stmt >>= k) h s := by
  unfold attempt
  rw [bind_assoc]
  refine sat_await_bind fun s₁ hs answer => ⟨fun e _ => ⟨.noop site, trivial⟩, fun result s' hrun => ?_⟩
  obtain rfl : s = s₁ := hs
  simp only [Stmt.bind_ok, Stmt.throwIf_ok, Stmt.pure_ok] at hrun
  obtain ⟨_, _, ⟨-, rfl⟩, a, _, ha, rfl, rfl⟩ := hrun
  obtain ⟨hstep, hk⟩ := hok a s' ha
  refine ⟨hstep, sat_orThrow_bind (fun _ => trivial) fun b hb => ?_⟩
  split at hb
  · cases hb
    exact hk _
  · cases hb

/-- A read: the program goes on with what is there. -/
theorem sat_query_bind {α β : Type} {site : CatalogSite} {f : CatalogDb → α} {k : α → CatalogHandler β}
    (hk : ∀ h, Sat (catalogContract c start) anyPost (k (f s)) h s) :
    Sat (catalogContract c start) anyPost (read site f >>= k) h s := by
  refine sat_read_bind fun s₁ hs => ?_
  obtain rfl : s = s₁ := hs
  exact ⟨.noop site, hk _⟩

/-- A write. -/
theorem sat_write_bind {α β : Type} {site : CatalogSite} {stmt : CatalogAnswer → CatalogTx α}
    {k : α → CatalogHandler β}
    (hok : ∀ answer a s', stmt answer s = .ok (a, s') → CatalogStep c start site s s' ∧
      ∀ h, Sat (catalogContract c start) anyPost (k a) h s') :
    Sat (catalogContract c start) anyPost (await site stmt >>= k) h s := by
  refine sat_await_bind fun s₁ hs answer => ?_
  obtain rfl : s = s₁ := hs
  refine ⟨fun e _ => ⟨.noop site, trivial⟩, fun a s' hrun => ?_⟩
  obtain ⟨hstep, hk⟩ := hok answer a s' hrun
  exact ⟨hstep, hk _⟩

theorem sat_check_bind {β : Type} {p : Prop} [Decidable p] {e : Err} {k : Unit → CatalogHandler β}
    (hk : ¬p → Sat (catalogContract c start) anyPost (k ()) h s) :
    Sat (catalogContract c start) anyPost (throwIf p e >>= k) h s :=
  sat_throwIf_bind (fun _ => trivial) hk

theorem sat_found_bind {α β : Type} {o : Option α} {e : Err} {k : α → CatalogHandler β}
    (hk : ∀ a, o = some a → Sat (catalogContract c start) anyPost (k a) h s) :
    Sat (catalogContract c start) anyPost (orThrow o e >>= k) h s :=
  sat_orThrow_bind (fun _ => trivial) hk

theorem safeNotify_free {u : UserId} {k : CatalogClaimId} {title : String} {status : CatalogClaimStatus} :
    Free (catalogContract c start) (safeNotify u k title status) :=
  free_ask fun _ _ => .noop _

theorem loadProducts_free {wanted : List (CatalogProductId × Nat)} :
    Free (catalogContract c start) (loadProducts wanted) :=
  free_bind (free_read fun _ _ => .noop _) fun _ => free_bind free_throwIf fun _ =>
    free_bind free_throwIf fun _ => free_bind free_orThrow fun _ => free_pure

theorem ensureCatalogCustomer_free {u : UserId} {existing : Option CustomerId} :
    Free (catalogContract c start) (ensureCustomer u existing) := by
  have hreusable : Free (catalogContract c start) (reusableCustomer existing) := by
    unfold reusableCustomer
    split
    · exact free_ask fun _ _ => .noop _
    · exact free_pure
  refine free_bind hreusable fun reusable => ?_
  split
  · exact free_pure
  · refine free_bind (free_await (fun _ s => .noop _) fun _ answer s customer s' hrun => ?_) fun customer =>
      free_bind (free_await (fun _ s => .noop _) fun _ answer s _ s' hrun => ?_) fun _ => free_pure
    · simp only [createCustomer, Stmt.bind_ok, Stmt.throwIf_ok, Stmt.get_ok, Stmt.set_ok,
        Stmt.pure_ok] at hrun
      obtain ⟨_, _, ⟨-, rfl⟩, _, _, ⟨rfl, rfl⟩, _, _, rfl, -, rfl⟩ := hrun
      exact .aside rfl rfl rfl
    · simp only [saveCustomer, Stmt.bind_ok, Stmt.throwIf_ok, Stmt.get_ok, Stmt.set_ok,
        Stmt.orThrow_ok] at hrun
      obtain ⟨_, _, ⟨rfl, rfl⟩, _, _, ⟨-, rfl⟩, users, _, ⟨-, rfl⟩, rfl⟩ := hrun
      exact .aside rfl rfl rfl

theorem createOrder_free {dto : CreateCatalogOrderDto} :
    Free (catalogContract c start) (createOrder me sub dto) := by
  refine free_bind (free_read fun _ _ => .noop _) fun _ => free_bind free_orThrow fun seller =>
    free_bind free_throwIf fun _ => free_bind loadProducts_free fun loaded => ?_
  refine free_bind (free_await (fun _ s => .noop _) fun _ answer s order s' hrun => ?_) fun order =>
    free_bind ensureCatalogCustomer_free fun customer =>
    free_bind (free_await (fun _ s => .noop _) fun _ answer s payment s' hrun => ?_) fun payment =>
    free_bind (free_await (fun _ s => .noop _) fun _ answer s _ s' hrun => ?_) fun _ => free_pure
  · simp only [insertOrder, Stmt.bind_ok, Stmt.get_ok, Stmt.orThrow_ok, Stmt.set_ok, Stmt.pure_ok] at hrun
    obtain ⟨_, _, ⟨rfl, rfl⟩, orders, _, ⟨hnew, rfl⟩, _, _, rfl, rfl, rfl⟩ := hrun
    exact .createsOrder _ hnew
  · simp only [createPaymentIntent, Stmt.bind_ok, Stmt.get_ok, Stmt.throwIf_ok, Stmt.orThrow_ok,
      Stmt.set_ok, Stmt.pure_ok] at hrun
    obtain ⟨_, _, ⟨-, rfl⟩, _, _, ⟨rfl, rfl⟩, payments, _, ⟨-, rfl⟩, _, _, rfl, rfl, rfl⟩ := hrun
    exact .aside rfl rfl rfl
  · obtain rfl := savePaymentIntent_ok hrun
    exact .savesPayment _ _

theorem confirmPayment_sat {o : CatalogOrderId} (hcall : c = .confirmPayment sub o) :
    Sat (catalogContract c s) anyPost (confirmPayment sub o) h s := by
  refine sat_query_bind fun h => sat_found_bind fun seller hseller => ?_
  refine sat_query_bind fun h => sat_found_bind fun row hrow => ?_
  obtain ⟨hfound, howner⟩ := Option.filter_eq_some_iff.mp hrow
  refine sat_ite (fun _ => trivial) fun hstatus => ?_
  refine sat_found_bind fun pi hpi => sat_query_bind fun h => sat_found_bind fun payment hpayment =>
    sat_check_bind fun hpaid => ?_
  refine sat_write_bind fun answer _ s' hrun => ⟨?_, fun h => ?_⟩
  · simp only [Stmt.bind_ok, Stmt.get_ok, updateCatalogOrder_ok] at hrun
    obtain ⟨_, _, ⟨rfl, rfl⟩, -, rfl⟩ := hrun
    exact .confirms sub o hcall hseller hfound (of_decide_eq_true howner) hpi hpayment
      (Decidable.not_not.mp hpaid)
  · exact sat_bind_free (Free.sat (free_read fun _ _ => .noop _)) fun _ => free_orThrow

theorem handlePaymentEvent_free {kind : PaymentEventKind} {pi : CatalogPaymentEvent} :
    Free (catalogContract c start) (handlePaymentEvent kind pi) := by
  have hpaid : Free (catalogContract c start) (markCatalogOrderPaid pi) := by
    refine free_bind (free_read fun _ _ => .noop _) fun id => ?_
    split
    · exact free_pure
    · refine free_await (fun _ s => .noop _) fun _ answer s _ s' hrun => ?_
      simp only [paidByWebhook, Stmt.bind_ok, Stmt.get_ok] at hrun
      obtain ⟨db, _, ⟨rfl, rfl⟩, hrun⟩ := hrun
      split at hrun
      · simp only [uniqueCatalogPayment, Stmt.bind_ok, Stmt.get_ok, Stmt.throwIf_ok, Stmt.set_ok] at hrun
        obtain ⟨_, _, ⟨_, _, ⟨rfl, rfl⟩, -, rfl⟩, rfl⟩ := hrun
        exact .marksPaid _ _
      · obtain ⟨-, rfl⟩ := Stmt.pure_ok.mp hrun
        exact .noop _
  have hfailed : Free (catalogContract c start) (markCatalogOrderFailed pi) := by
    refine free_bind (free_read fun _ _ => .noop _) fun id => ?_
    split
    · exact free_pure
    · refine free_await (fun _ s => .noop _) fun _ answer s _ s' hrun => ?_
      obtain rfl := Stmt.modify_ok.mp hrun
      exact .marksFailed _
  unfold handlePaymentEvent
  split
  · cases kind with
    | succeeded => exact hpaid
    | paymentFailed => exact hfailed
    | canceled => exact hfailed
  · exact free_pure

theorem createClaim_sat {o : CatalogOrderId} {dto : CreateCatalogClaimDto} :
    Sat (catalogContract c s) anyPost (createClaim me sub o dto) h s := by
  refine sat_query_bind fun h => sat_found_bind fun seller _ => ?_
  refine sat_query_bind fun h => sat_found_bind fun row hrow => ?_
  refine sat_check_bind fun howner => sat_check_bind fun hpaid => sat_check_bind fun hwindow => ?_
  refine sat_query_bind fun h => sat_check_bind fun _ => ?_
  refine sat_write_bind fun answer claim s' hrun => ⟨?_, fun h => ?_⟩
  · simp only [insertClaim, Stmt.bind_ok, Stmt.get_ok, Stmt.orThrow_ok, Stmt.set_ok, Stmt.pure_ok] at hrun
    obtain ⟨_, _, ⟨rfl, rfl⟩, claims, _, ⟨hnew, rfl⟩, _, _, rfl, rfl, rfl⟩ := hrun
    exact .createsClaim _ hnew rfl rfl hrow (Decidable.not_not.mp hpaid)
  · exact sat_bind_free safeNotify_free.sat fun _ => free_pure

theorem getClaimOrThrow_bind {id : CatalogClaimId} {k : CatalogClaim → CatalogHandler CatalogClaim}
    (hk : ∀ claim h, s.claims.find? id = some claim → Sat (catalogContract c start) anyPost (k claim) h s) :
    Sat (catalogContract c start) anyPost (getClaimOrThrow id >>= k) h s := by
  unfold getClaimOrThrow
  rw [bind_assoc]
  exact sat_query_bind fun h => sat_found_bind fun claim hclaim => hk claim h hclaim

theorem refundPayment_sat {claim : CatalogClaim} {row : CatalogOrder} {pi : PaymentIntentId}
    {amount : Cents} {dto : CatalogClaimRefundDto} (hchecked : RefundChecked s claim row) :
    Sat (catalogContract c s) anyPost (refundPayment claim row.id pi amount dto) h s := by
  refine sat_attempt_bind fun refund s₁ hrun => ?_
  have hclaims : s₁.claims = s.claims := by
    obtain ⟨rfl, -⟩ | ⟨refunds, -, rfl⟩ := createCatalogRefund_ok hrun
    · rfl
    · rfl
  refine ⟨?_, fun h => sat_attempt_bind fun _ s₂ hrun₂ => ?_⟩
  · obtain ⟨rfl, -⟩ | ⟨refunds, hnew, rfl⟩ := createCatalogRefund_ok hrun
    · exact .noop _
    · exact .createsRefund _ hchecked rfl rfl hnew
  obtain ⟨-, rfl⟩ := updateCatalogOrder_ok.mp hrun₂
  refine ⟨.refundsOrder refund hchecked, fun h => sat_attempt_bind fun updated s₃ hrun₃ => ?_⟩
  simp only [Stmt.bind_ok, Stmt.get_ok, updateCatalogClaim_ok] at hrun₃
  obtain ⟨_, _, ⟨rfl, rfl⟩, -, rfl⟩ := hrun₃
  exact ⟨.refundsClaim dto amount refund hchecked hclaims,
    fun h => sat_bind_free safeNotify_free.sat fun _ => free_pure⟩

theorem adminRefund_sat {id : CatalogClaimId} {dto : CatalogClaimRefundDto} :
    Sat (catalogContract c s) anyPost (adminRefund id dto) h s := by
  refine getClaimOrThrow_bind fun claim h hclaim => sat_ite (fun _ => trivial) fun hopen => ?_
  refine sat_query_bind fun h => sat_found_bind fun row hrow => sat_check_bind fun hstatus => ?_
  obtain rfl : claim.id = id := Table.key_of_find? hclaim
  have hchecked : RefundChecked s claim row := ⟨hclaim, hopen, hrow, hstatus⟩
  dsimp only
  split
  · rw [← bind_pure (attempt _ _)]
    refine sat_attempt_bind fun k s' hrun => ⟨?_, fun h => trivial⟩
    obtain ⟨-, rfl⟩ := updateCatalogClaim_ok.mp hrun
    exact .reviewsClaim hchecked rfl ⟨fun _ heq => (by cases heq), fun _ => rfl, fun _ => rfl⟩
  · exact refundPayment_sat hchecked

theorem decideClaim_sat {id : CatalogClaimId} {status : CatalogClaimStatus} {title : String}
    {write : CatalogClaim → Time → CatalogClaim → CatalogClaim}
    {hwrite : ∀ read now k, (write read now k).id = k.id} (hcall : c.overwrites id = true)
    (hnoRefund : ∀ read now, NoRefund (write read now)) :
    Sat (catalogContract c s) anyPost (decideClaim id status title write hwrite) h s := by
  refine getClaimOrThrow_bind fun claim h hclaim => sat_write_bind fun answer updated s' hrun => ?_
  simp only [Stmt.bind_ok, Stmt.get_ok, updateCatalogClaim_ok] at hrun
  obtain ⟨_, _, ⟨rfl, rfl⟩, -, rfl⟩ := hrun
  exact ⟨.decides id status hcall rfl (hnoRefund claim _),
    fun h => sat_bind_free safeNotify_free.sat fun _ => free_pure⟩

/-- Every call does only the steps of `CatalogStep`. -/
theorem catalogHandle_sat (me : Nat) (c : CatalogCall) :
    Sat (catalogContract c s) anyPost (catalogHandle me c) h s := by
  cases c with
  | createOrder sub dto => exact sat_bind_free createOrder_free.sat fun _ => free_pure
  | confirmPayment sub o => exact sat_bind_free (confirmPayment_sat rfl) fun _ => free_pure
  | paymentEvent kind pi => exact sat_bind_free handlePaymentEvent_free.sat fun _ => free_pure
  | createClaim sub o dto => exact sat_bind_free createClaim_sat fun _ => free_pure
  | adminRefund id dto => exact sat_bind_free adminRefund_sat fun _ => free_pure
  | adminRequestReplacement id dto =>
    refine sat_bind_free (decideClaim_sat (decide_eq_true rfl) fun _ _ => ?_) fun _ => free_pure
    exact ⟨fun _ heq => (by cases heq), fun _ => rfl, fun _ => rfl⟩
  | adminReject id dto =>
    refine sat_bind_free (decideClaim_sat (decide_eq_true rfl) fun _ _ => ?_) fun _ => free_pure
    exact ⟨fun _ heq => (by cases heq), fun _ => rfl, fun _ => rfl⟩
  | adminResolve id dto =>
    refine sat_bind_free (decideClaim_sat (decide_eq_true rfl) fun _ _ => ?_) fun _ => free_pure
    exact ⟨fun _ heq => (by cases heq), fun _ => rfl, fun _ => rfl⟩

/-- What all steps of a call keep, the call keeps. -/
theorem CatalogCall.leads {K : CatalogDb → CatalogDb → Prop} (hrefl : ∀ s, K s s)
    (htrans : ∀ a b c, K a b → K b c → K a c) (me : Nat) (c : CatalogCall) (w : Nat → CatalogAnswer)
    (hstep : ∀ site a b, CatalogStep c s site a b → K a b) :
    K s ((catalogHandle me c).exec w s).state :=
  (((catalogHandle_sat me c).leads hrefl htrans (fun _ _ => id) fun _ => hstep).exec (h := []) (fun _ => rfl)
    w).2

end

end IncaCook
