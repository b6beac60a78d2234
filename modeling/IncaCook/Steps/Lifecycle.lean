import IncaCook.Steps.Checkout
import IncaCook.Steps.Ledger

/-!
# Orders and disputes, step by step

The handlers of the order lifecycle, the disputes and the webhooks meet
`stepContract`: each write is one of the steps of `Step`, with what the handler
read before it.
-/

namespace IncaCook

open Prog Orders Deliveries Wallets Webhooks

section

variable {cfg : Config} {R : Db → Db → Prop} {me : Nat} {call : Call}
  {h : List (StepRecord machine)} {s : Db}

/-! ## Checkout -/

/-- Statements that only take stock leave the other tables alone. -/
def OnlyListings {α : Type} (stmt : Tx α) : Prop :=
  ∀ s a s', stmt s = .ok (a, s') → ∃ listings, s' = { s with listings }

theorem onlyListings_bind {α β : Type} {x : Tx α} {f : α → Tx β} (hx : OnlyListings x)
    (hf : ∀ a, OnlyListings (f a)) : OnlyListings (x >>= f) := by
  intro s b s' hrun
  obtain ⟨a, s₁, hrun₁, hrun₂⟩ := Stmt.bind_ok.mp hrun
  obtain ⟨l₁, rfl⟩ := hx s a s₁ hrun₁
  obtain ⟨l₂, rfl⟩ := hf a _ b s' hrun₂
  exact ⟨l₂, rfl⟩

theorem onlyListings_pure {α : Type} {a : α} : OnlyListings (pure a : Tx α) := by
  intro s b s' hrun
  exact ⟨s.listings, (Stmt.pure_ok.mp hrun).2⟩

theorem onlyListings_throwIf {c : Prop} [Decidable c] {e : Err} :
    OnlyListings (Tx.throwIf c e) := by
  intro s b s' hrun
  exact ⟨s.listings, (Tx.throwIf_ok.mp hrun).2⟩

theorem onlyListings_updateListing {id : ListingId} {p : Listing → Bool} {f : Listing → Listing}
    {hf : ∀ l, (f l).id = l.id} : OnlyListings (updateListing id p f hf) := by
  intro s n s' hrun
  simp only [updateListing, Except.ok.injEq, Prod.mk.injEq] at hrun
  exact ⟨_, hrun.2.symm⟩

theorem onlyListings_decrementListing {listings : List Listing} {id : ListingId} {quantity : Nat} :
    OnlyListings (decrementListing cfg listings id quantity) := by
  refine onlyListings_bind onlyListings_updateListing fun n => ?_
  dsimp only
  split
  · exact onlyListings_bind onlyListings_updateListing fun _ =>
      onlyListings_bind onlyListings_updateListing fun _ => onlyListings_throwIf
  · exact onlyListings_throwIf

theorem onlyListings_forM {α : Type} {f : α → Tx Unit} (hf : ∀ a, OnlyListings (f a))
    (l : List α) : OnlyListings (l.forM f) := by
  induction l with
  | nil => exact onlyListings_pure
  | cons a rest ih => exact onlyListings_bind (hf a) fun _ => ih

theorem placeOrder_ok {args : InsertOrderArgs} {order : Order} {s' : Db}
    (hrun : placeOrder cfg args s = .ok (order, s')) :
    ∃ listings orders, atomicDecrementInventory cfg args.dto.items args.cart.listings s
        = .ok ((), { s with listings }) ∧
      s.orders.insert? (newOrder { s with listings } args) = some orders ∧
      order = newOrder { s with listings } args ∧ s' = { s with listings, orders } := by
  obtain ⟨⟨⟩, s₁, hstock, hrun⟩ := Stmt.bind_ok.mp hrun
  obtain ⟨listings, rfl⟩ := onlyListings_forM (fun _ => onlyListings_decrementListing) _ _ _ _ hstock
  simp only [insertOrder, Stmt.bind_ok, Stmt.get_ok, Stmt.pure_ok] at hrun
  obtain ⟨_, _, ⟨rfl, rfl⟩, _, s₂, hcreate, rfl, rfl⟩ := hrun
  obtain ⟨orders, hnew, rfl⟩ := createOrderRow_ok hcreate
  exact ⟨listings, orders, hstock, hnew, rfl, rfl⟩

/-- A preparation is made of steps that nothing reads back. -/
theorem free_prepare {α : Type} {p : Handler α} (hp : Free (prepareContract R) p) :
    Free (stepContract cfg R me call) p :=
  fun h s => (hp h s).mono (fun _ _ hR => hR) (fun _ _ _ _ hg => .aside hg.2.aside) fun _ _ _ hQ => hQ

theorem createPaymentIntent_ok {o : OrderId} {amount : Cents} {customer : CustomerId}
    {answer : Answer} {pi : PaymentIntentId} {secret : String} {s' : Db}
    (hrun : createPaymentIntent o amount customer answer s = .ok ((pi, secret), s')) :
    ∃ paymentIntents, pi = .stripe s.stripeNext ∧
      s.paymentIntents.insert? ⟨pi, amount, customer, o, false⟩ = some paymentIntents ∧
      s' = { s with paymentIntents, stripeNext := s.stripeNext + 1 } := by
  simp only [createPaymentIntent, Stmt.bind_ok, Tx.throwIf_ok, Stmt.get_ok, Tx.orThrow_ok, Stmt.set_ok,
    Stmt.pure_ok, Prod.mk.injEq] at hrun
  obtain ⟨_, _, ⟨-, rfl⟩, _, _, ⟨rfl, rfl⟩, paymentIntents, _, ⟨hnew, rfl⟩, _, _, rfl, ⟨rfl, -⟩,
    rfl⟩ := hrun
  exact ⟨paymentIntents, rfl, hnew, rfl⟩

/-- Recording a PaymentIntent of the order; a failure is ignored. -/
theorem savePaymentIntent_sat {o : OrderId} {pi : PaymentIntentId}
    (hpi : ∀ s', R s s' → (cfg.development = true ∧ pi = .dev o) ∨
      ∃ s₀ row, R s₀ s' ∧ s₀.paymentIntents.find? pi = some row ∧ row.orderId = o) :
    Sat (stepContract cfg R me call) anyPost
      (tryCatch (await (.savePaymentIntent o) (savePaymentIntent o pi)) fun _ => pure ()) h s := by
  refine sat_tryCatch (sat_await fun s' hR i => ⟨fun _ _ => ⟨.noop _ _, trivial⟩, ?_⟩)
  intro _ s'' hrun
  simp only [savePaymentIntent, Stmt.bind_ok, Tx.throwIf_ok, updateOrder_ok] at hrun
  obtain ⟨_, _, ⟨-, rfl⟩, _, _, hunique, -, rfl⟩ := hrun
  obtain rfl := uniquePaymentIntent_ok hunique
  exact ⟨.savePaymentIntent o pi (hpi _ hR), trivial⟩

/-- The order is recorded with a PaymentIntent of its own. -/
theorem chargeOrder_sat {o : OrderId} {p : PreparedOrder} {order : Order}
    (hplaced : ∀ s' amount customer paymentIntents, R s s' →
      s'.paymentIntents.insert? ⟨.stripe s'.stripeNext, amount, customer, o, false⟩
        = some paymentIntents →
      Step cfg R me call h (.createPaymentIntent o) s'
        { s' with paymentIntents, stripeNext := s'.stripeNext + 1 }) :
    Sat (stepContract cfg R me call) anyPost (chargeOrder cfg o p order) h s := by
  have hfinish : ∀ {pi : PaymentIntentId} {secret : String} {h s},
      (∀ s', R s s' → (cfg.development = true ∧ pi = .dev o) ∨
        ∃ s₀ row, R s₀ s' ∧ s₀.paymentIntents.find? pi = some row ∧ row.orderId = o) →
      Sat (stepContract cfg R me call) anyPost (do
        try
          await (.savePaymentIntent o) (savePaymentIntent o pi)
        catch _ =>
          pure ()
        throwIf (secret = "") (.serviceUnavailable "PaymentIntent missing client_secret")
        pure (⟨order, secret⟩ : CreateOrderResult)) h s :=
    fun hpi => sat_bind_free (savePaymentIntent_sat hpi) fun _ =>
      free_bind free_throwIf fun _ => free_pure
  refine sat_bind (sat_tryCatch (sat_await fun s₃ hR₂ i => ⟨fun _ _ => ⟨.noop _ _, ?_⟩, ?_⟩))
  · -- Stripe failed: the placeholder in development, an error elsewhere
    by_cases hdev : cfg.development = true
    · simp only [hdev, if_true]
      exact hfinish fun _ _ => .inl ⟨hdev, rfl⟩
    · simp only [hdev]
      trivial
  · intro x s₄ hrun
    obtain ⟨pi, secret⟩ := x
    obtain ⟨paymentIntents, rfl, hpi, rfl⟩ := createPaymentIntent_ok hrun
    have hrow : paymentIntents.find? (.stripe s₃.stripeNext) = some _ :=
      (Table.find?_insert hpi _).trans (if_pos rfl)
    exact ⟨hplaced s₃ _ _ _ hR₂ hpi, hfinish fun s' hR => .inr ⟨_, _, hR, hrow, rfl⟩⟩

theorem createOrder_sat {sub : String} {dto : CreateOrderDto} :
    Sat (stepContract cfg R me call) anyPost (createOrder cfg me sub dto) h s := by
  rw [createOrder_eq]
  refine sat_bind_free (free_prepare prepareOrder_free h s) fun p h s => ?_
  -- the order transaction
  refine sat_await_bind fun s₁ hR₁ i => ⟨fun _ _ => ⟨.noop _ _, trivial⟩, fun order s₂ hrun => ?_⟩
  obtain ⟨listings, orders, hstock, hnew, -, rfl⟩ := placeOrder_ok hrun
  have hplaced : orders.find? (generateUlid me 0) = some _ :=
    (Table.find?_insert hnew _).trans (if_pos rfl)
  have habsent : s₁.orders.find? (generateUlid me 0) = none := (Table.insert?_eq_some.mp hnew).1
  refine ⟨.placeOrder _ rfl hstock hnew, chargeOrder_sat fun s₃ _ _ _ hR₂ hpi => ?_⟩
  exact .createPaymentIntent _ rfl
    ⟨_, List.mem_cons_self .., ⟨s, hR₁⟩, habsent, ⟨_, hplaced⟩, rfl, hR₂⟩ hpi

/-! ## Loading -/

theorem assertSellerUser_paperwork {sub : String} :
    Free (paperworkContract R) (assertSellerUser sub) :=
  assertSellerUser_of fun _ s => ⟨rfl, .refl s⟩

theorem assertSellerUser_free {sub : String} :
    Free (stepContract cfg R me call) (assertSellerUser sub) :=
  free_paperwork assertSellerUser_paperwork

/-- After any reads, the program goes on from some later state. -/
theorem sat_free_bind {α β : Type} {p : Handler α} {k : α → Handler β}
    (hp : Free (stepContract cfg R me call) p)
    (hk : ∀ a h s, Sat (stepContract cfg R me call) anyPost (k a) h s) :
    Sat (stepContract cfg R me call) anyPost (p >>= k) h s :=
  sat_bind_free (hp h s) fun a => hk a

theorem loadOrderForSellerAction_bind {α : Type} {o : OrderId} {seller : UserId}
    {k : Order → Handler α}
    (hk : ∀ h s row, s.orders.find? o = some row →
      Sat (stepContract cfg R me call) anyPost (k row) h s) :
    Sat (stepContract cfg R me call) anyPost (loadOrderForSellerAction o seller >>= k) h s := by
  refine sat_bind (sat_read_bind fun s' _ => ⟨.noop _ _, ?_⟩)
  refine sat_orThrow_bind (fun _ => trivial) fun row hrow => ?_
  exact sat_throwIf_bind (fun _ => trivial) fun _ => hk _ _ _ hrow

/-! ## Payment -/

theorem isPaymentSucceeded_bind {α : Type} {pi : Option PaymentIntentId} {k : Bool → Handler α}
    (hk : ∀ h' s' paid, (s' = s ∨ R s s') →
      (paid = true → (cfg.development = true ∧ ∀ n, pi ≠ some (.stripe n)) ∨
        ∃ id row, pi = some id ∧ s'.paymentIntents.find? id = some row ∧ row.succeeded = true) →
      Sat (stepContract cfg R me call) anyPost (k paid) h' s') :
    Sat (stepContract cfg R me call) anyPost (isPaymentSucceeded cfg pi >>= k) h s := by
  cases pi with
  | none => exact hk h s _ (.inl rfl) fun hdev => .inl ⟨hdev, by simp⟩
  | some id =>
    cases id with
    | dev o => exact hk h s _ (.inl rfl) fun hdev => .inl ⟨hdev, by simp⟩
    | stripe n =>
      refine sat_ask_bind fun s' hR i => ⟨.noop _ _, hk _ _ _ (.inr hR) fun hpaid => .inr ?_⟩
      rw [Bool.and_eq_true, Option.any_eq_true] at hpaid
      obtain ⟨-, row, hrow, hsucceeded⟩ := hpaid
      exact ⟨_, row, rfl, hrow, hsucceeded⟩

theorem confirmPaymentForBuyer_sat (htrans : ∀ a b c, R a b → R b c → R a c) {sub : String}
    {o : OrderId} :
    Sat (stepContract cfg R me call) anyPost (confirmPaymentForBuyer cfg sub o) h s := by
  refine sat_read_bind fun s₀ _ => ⟨.noop _ _, sat_orThrow_bind (fun _ => trivial) fun user _ => ?_⟩
  refine sat_read_bind fun s₁ _ => ⟨.noop _ _, ?_⟩
  refine sat_orThrow_bind (fun _ => trivial) fun order horder => ?_
  refine sat_throwIf_bind (fun _ => trivial) fun _ => ?_
  refine sat_ite (fun hpending => ?_) fun _ => findOrderWithRelations_free _ _
  refine isPaymentSucceeded_bind fun h' s₂ paid hs₂ hpaid => ?_
  refine sat_throwIf_bind (fun _ => trivial) fun hnot => ?_
  have hpaid := hpaid (by simpa using hnot)
  have hlater : ∀ s₃, R s₂ s₃ → R s₁ s₃ := by
    intro s₃ hR
    rcases hs₂ with rfl | hs₂
    · exact hR
    · exact htrans _ _ _ hs₂ hR
  refine sat_await_bind fun s₃ hR i => ⟨fun _ _ => ⟨.noop _ _, trivial⟩, fun _ s₄ hrun => ?_⟩
  simp only [Stmt.bind_ok, Stmt.get_ok, updateOrder_ok] at hrun
  obtain ⟨_, _, ⟨rfl, rfl⟩, -, rfl⟩ := hrun
  refine ⟨.confirmPayment o ⟨s₁, order, hlater _ hR, horder, hpending, ?_⟩,
    findOrderWithRelations_free _ _⟩
  rcases hpaid with hdev | ⟨pi, row, hpi, hrow, hsucceeded⟩
  · exact .inl hdev
  · exact .inr ⟨s₂, pi, row, hR, hpi, hrow, hsucceeded⟩

/-! ## The seller's steps -/

theorem startPreparing_free {sub : String} {o : OrderId} :
    Free (stepContract cfg R me call) (startPreparing sub o) := by
  refine fun h s => sat_free_bind assertSellerUser_free fun seller h s => ?_
  refine loadOrderForSellerAction_bind fun h s row hrow => ?_
  refine sat_throwIf_bind (fun _ => trivial) fun hstatus => ?_
  have hconfirmed : row.status = .confirmed := by simpa using hstatus
  refine sat_await_bind fun s' hR i => ⟨fun _ _ => ⟨.noop _ _, trivial⟩, fun _ s'' hrun => ?_⟩
  obtain ⟨-, rfl⟩ := updateOrder_ok.mp hrun
  exact ⟨.startPreparing o ⟨s, row, hR, hrow, hconfirmed⟩, findOrderWithRelations_free _ _⟩

theorem markReady_free {sub : String} {o : OrderId} :
    Free (stepContract cfg R me call) (markReady me sub o) := by
  refine fun h s => sat_free_bind assertSellerUser_free fun seller h s => ?_
  refine loadOrderForSellerAction_bind fun h s row hrow => ?_
  refine sat_throwIf_bind (fun _ => trivial) fun hstatus => ?_
  have hpreparing : row.status = .preparing := by simpa using hstatus
  refine sat_await_bind fun s' hR i => ⟨fun _ _ => ⟨.noop _ _, trivial⟩, fun _ s'' hrun => ?_⟩
  refine ⟨?_, findOrderWithRelations_free _ _⟩
  have hsaw : SawOrder R s' o fun r =>
      r.status = .preparing ∧ r.fulfillmentChoice = row.fulfillmentChoice :=
    ⟨s, row, hR, hrow, hpreparing, rfl⟩
  generalize row.fulfillmentChoice = choice at *
  simp only [readyOrder, Stmt.bind_ok, Stmt.get_ok, updateOrder_ok] at hrun
  obtain ⟨_, _, ⟨rfl, rfl⟩, _, _, ⟨-, rfl⟩, hrun⟩ := hrun
  cases choice with
  | pickup =>
    rw [if_neg (by simp), Stmt.pure_ok] at hrun
    obtain ⟨-, rfl⟩ := hrun
    exact .markReady o .pickup i.token hsaw rfl
  | delivery =>
    rw [if_pos rfl, Stmt.bind_ok] at hrun
    obtain ⟨_, _, hunique, hrun⟩ := hrun
    obtain rfl := uniquePickupToken_ok hunique
    obtain ⟨deliveries, hnew, rfl⟩ := createDelivery_ok.mp hrun
    exact .markReady o .delivery i.token hsaw hnew

/-! ## The two QR codes -/

theorem getSellerPickupQr_free {sub : String} {o : OrderId} :
    Free (stepContract cfg R me call) (getSellerPickupQr sub o) := by
  refine fun h s => sat_free_bind assertSellerUser_free fun seller h s => ?_
  refine sat_read_bind fun s₀ _ => ⟨.noop _ _, sat_orThrow_bind (fun _ => trivial) fun row _ => ?_⟩
  refine sat_throwIf_bind (fun _ => trivial) fun _ => sat_throwIf_bind (fun _ => trivial) fun _ => ?_
  refine sat_orThrow_bind (fun _ => trivial) fun delivery hlatest => ?_
  obtain ⟨hrow, -⟩ := Db.find?_latestDelivery hlatest
  cases htoken : truthy delivery.pickupToken with
  | some token => trivial
  | none =>
    refine sat_await_bind fun s₁ hR i => ⟨fun _ _ => ⟨.noop _ _, trivial⟩, fun _ s₂ hrun => ?_⟩
    simp only [Stmt.bind_ok, updateDelivery_ok, Stmt.pure_ok] at hrun
    obtain ⟨_, _, hunique, _, _, ⟨-, rfl⟩, -, rfl⟩ := hrun
    obtain rfl := uniquePickupToken_ok hunique
    exact ⟨.mintPickupToken _ _ ⟨s₀, delivery, hR, hrow, htoken⟩, trivial⟩

theorem getBuyerDeliveryQr_free {sub : String} {o : OrderId} :
    Free (stepContract cfg R me call) (getBuyerDeliveryQr sub o) := by
  refine fun h s => sat_free_bind assertSellerUser_free fun buyer h s => ?_
  refine sat_read_bind fun s₀ _ => ⟨.noop _ _, sat_orThrow_bind (fun _ => trivial) fun row _ => ?_⟩
  refine sat_throwIf_bind (fun _ => trivial) fun _ => sat_throwIf_bind (fun _ => trivial) fun _ => ?_
  refine sat_orThrow_bind (fun _ => trivial) fun delivery hlatest => ?_
  obtain ⟨hlatest, -⟩ := Option.filter_eq_some_iff.mp hlatest
  obtain ⟨hrow, -⟩ := Db.find?_latestDelivery hlatest
  cases htoken : truthy delivery.deliveryToken with
  | some token => trivial
  | none =>
    refine sat_await_bind fun s₁ hR i => ⟨fun _ _ => ⟨.noop _ _, trivial⟩, fun _ s₂ hrun => ?_⟩
    simp only [Stmt.bind_ok, updateDelivery_ok, Stmt.pure_ok] at hrun
    obtain ⟨_, _, hunique, _, _, ⟨-, rfl⟩, -, rfl⟩ := hrun
    obtain rfl := uniqueDeliveryToken_ok hunique
    exact ⟨.mintDeliveryToken _ _ ⟨s₀, delivery, hR, hrow, htoken⟩, trivial⟩

/-! ## No driver -/

theorem handleNoDriverTimeout_free {o : OrderId} :
    Free (stepContract cfg R me call) (handleNoDriverTimeout o) := by
  refine fun h s => sat_read_bind fun s₀ _ => ⟨.noop _ _, ?_⟩
  cases ho : s₀.orders.find? o with
  | none => trivial
  | some row =>
    refine sat_ite (fun _ => trivial) fun hsearching => sat_ite (fun _ => trivial) fun hready => ?_
    refine sat_await fun s₁ hR i => ⟨fun _ _ => ⟨.noop _ _, trivial⟩, fun _ s₂ hrun => ?_⟩
    obtain ⟨-, rfl⟩ := updateOrder_ok.mp hrun
    rw [not_or, not_not, not_not] at hready
    refine ⟨.noDriverTimeout o ⟨s₀, row, hR, ho, hready.1, hready.2, fun d hd => ?_⟩, trivial⟩
    simpa [hd] using hsearching

theorem switchOrderToPickup_sat {o : OrderId} {s₀ : Db} {row : Order}
    (hR₀ : ∀ s', R s s' → R s₀ s') (hsaw : s₀.orders.find? o = some row)
    (hstatus : row.status = .noDriverAvailable) :
    Sat (stepContract cfg R me call) anyPost
      (switchOrderToPickup o ((s₀.latestDelivery o).map Delivery.id)) h s := by
  refine sat_await fun s₁ hR i => ⟨fun _ _ => ⟨.noop _ _, trivial⟩, fun _ s₂ hrun => ?_⟩
  refine ⟨?_, trivial⟩
  have hstep : Step cfg R me call h _ s₁ _ := .switchToPickup o (hR₀ _ hR) hsaw hstatus
  cases hd : s₀.latestDelivery o with
  | none =>
    simp only [hd, Option.map_none, Stmt.bind_ok, Stmt.get_ok, updateOrder_ok, Stmt.pure_ok] at hrun hstep
    obtain ⟨_, _, ⟨rfl, rfl⟩, _, _, ⟨-, rfl⟩, -, rfl⟩ := hrun
    exact hstep
  | some d =>
    simp only [hd, Option.map_some, Stmt.bind_ok, Stmt.get_ok, updateOrder_ok] at hrun hstep
    obtain ⟨_, _, ⟨rfl, rfl⟩, _, _, ⟨-, rfl⟩, hrun⟩ := hrun
    obtain ⟨-, rfl⟩ := updateDelivery_ok.mp hrun
    exact hstep

theorem cancelNoDriverOrder_sat {o : OrderId} {reason : Reason}
    (hprompted : ∀ s', R s s' → SawOrder R s' o fun row => row.status = .noDriverAvailable) :
    Sat (stepContract cfg R me call) anyPost (cancelNoDriverOrder o reason) h s := by
  refine sat_read_bind fun s₀ hR₀ => ⟨.noop _ _, ?_⟩
  cases ho : s₀.orders.find? o with
  | none => trivial
  | some row =>
    have hid : row.id = o := Table.key_of_find? ho
    refine sat_await_bind fun s₁ hR i => ⟨fun _ _ => ⟨.noop _ _, trivial⟩, fun _ s₂ hrun => ?_⟩
    have hstep : Step cfg R me call (⟨.query, s₀, s₀⟩ :: h) _ s₁ _ :=
      .cancelNoDriver o reason hR ho (hprompted s₀ hR₀)
    simp only [cancelNoDriverTx, Stmt.bind_ok, Stmt.get_ok, restoreInventory_ok, hid] at hrun
    obtain ⟨_, _, ⟨rfl, rfl⟩, _, _, rfl, _, _, hupdate, hrun⟩ := hrun
    obtain ⟨⟨fresh, hfresh⟩, rfl⟩ := updateOrder_ok.mp hupdate
    cases hd : s₀.latestDelivery o with
    | none =>
      simp only [hd, Stmt.pure_ok] at hrun hstep
      obtain ⟨-, rfl⟩ := hrun
      exact ⟨hstep, refundOrderIfNeeded_sat (.of_cancelled (Table.find?_update_of_eq hfresh) rfl)⟩
    | some d =>
      simp only [hd] at hrun hstep
      obtain ⟨-, rfl⟩ := updateDelivery_ok.mp hrun
      exact ⟨hstep, refundOrderIfNeeded_sat (.of_cancelled (Table.find?_update_of_eq hfresh) rfl)⟩

theorem decideNoDriver_free {sub : String} {o : OrderId}
    {decision : NoDriverDecision} :
    Free (stepContract cfg R me call) (decideNoDriver sub o decision) := by
  refine fun h s => sat_free_bind assertSellerUser_free fun user h s => ?_
  refine sat_read_bind fun s₀ _ => ⟨.noop _ _, sat_orThrow_bind (fun _ => trivial) fun row ho => ?_⟩
  refine sat_throwIf_bind (fun _ => trivial) fun _ => sat_throwIf_bind (fun _ => trivial) ?_
  intro hstatus
  rw [not_not] at hstatus
  cases decision with
  | switchToPickup =>
    have hid : row.id = o := Table.key_of_find? ho
    refine sat_bind_free ?_ fun _ => findOrderWithRelations_free
    rw [hid]
    exact switchOrderToPickup_sat (fun _ hR => hR) ho hstatus
  | cancelAndRefund =>
    refine sat_bind_free ?_ fun _ => findOrderWithRelations_free
    exact cancelNoDriverOrder_sat fun s' hR => ⟨s₀, row, hR, ho, hstatus⟩

theorem autoCancelNoResponse_free {o : OrderId} :
    Free (stepContract cfg R me call) (autoCancelNoResponse o) := by
  refine fun h s => sat_read_bind fun s₀ _ => ⟨.noop _ _, sat_ite (fun hstatus => ?_) fun _ => trivial⟩
  rw [Option.any_eq_true] at hstatus
  obtain ⟨row, ho, hstatus⟩ := hstatus
  exact cancelNoDriverOrder_sat fun s' hR => ⟨s₀, row, hR, ho, by simpa using hstatus⟩

/-! ## Cancellations -/

/-- A delivery moved by an earlier step stays moved while others run. -/
theorem MovedDelivery.later (htrans : ∀ a b c, R a b → R b c → R a c) {status : DeliveryStatus}
    {s' : Db} {o : OrderId} {t' : StepRecord machine} (hm : MovedDelivery R h status s o)
    (hR : R s s') : MovedDelivery R (t' :: h) status s' o := by
  obtain ⟨t, ht, s₀, d, seen, fresh, row, deliveries, hR₀, hseen, hof, hfresh, hpost, hrow, hsame,
    hstatus, hs⟩ := hm
  exact ⟨t, List.mem_cons_of_mem _ ht, s₀, d, seen, fresh, row, deliveries, hR₀, hseen, hof, hfresh,
    hpost, hrow, hsame, hstatus, htrans _ _ _ hs hR⟩

theorem cancelForSellerUnavailable_sat (htrans : ∀ a b c, R a b → R b c → R a c) {o : OrderId}
    {driver : UserId} (hreported : ∀ s', R s s' → MovedDelivery R h .cancelled s' o) :
    Sat (stepContract cfg R me call) anyPost (cancelForSellerUnavailable me o driver) h s := by
  refine sat_read_bind fun s₀ hR₀ => ⟨.noop _ _, sat_orThrow_bind (fun _ => trivial) fun row ho => ?_⟩
  refine sat_throwIf_bind (fun _ => trivial) fun hstatus => ?_
  have hid : row.id = o := Table.key_of_find? ho
  refine sat_await_bind fun s₁ hR i => ⟨fun _ _ => ⟨.noop _ _, trivial⟩, fun _ s₂ hrun => ?_⟩
  simp only [cancelSellerUnavailableTx, Stmt.bind_ok, Stmt.get_ok, restoreInventory_ok, hid] at hrun
  obtain ⟨_, _, ⟨rfl, rfl⟩, _, _, rfl, hupdate⟩ := hrun
  obtain ⟨⟨fresh, hfresh⟩, rfl⟩ := updateOrder_ok.mp hupdate
  refine ⟨.cancelSellerUnavailable o hR ho hstatus ((hreported s₀ hR₀).later htrans hR), ?_⟩
  refine sat_bind_free (refundOrderIfNeeded_sat (.of_cancelled (Table.find?_update_of_eq hfresh) rfl)) fun _ => ?_
  exact free_bind compensateDriver_free fun _ => strike_free

theorem sellerCannotProvide_free {sub : String} {o : OrderId} {dto : SellerCannotProvideDto} :
    Free (stepContract cfg R me call) (sellerCannotProvide me sub o dto) := by
  refine fun h s => sat_free_bind assertSellerUser_free fun seller h s => ?_
  refine sat_read_bind fun s₀ _ => ⟨.noop _ _, sat_orThrow_bind (fun _ => trivial) fun row ho => ?_⟩
  refine sat_throwIf_bind (fun _ => trivial) fun _ => ?_
  refine sat_throwIf_bind (fun _ => trivial) fun hpickup => ?_
  refine sat_throwIf_bind (fun _ => trivial) fun _ => ?_
  refine sat_throwIf_bind (fun _ => trivial) fun hstatus => ?_
  rw [not_not] at hstatus
  have hnotPicked : ∀ d, s₀.latestDelivery o = some d → d.pickupConfirmedAt = none := by
    intro d hd
    simp only [hd, Option.any_some, not_or] at hpickup
    simpa using hpickup.1
  have hid : row.id = o := Table.key_of_find? ho
  refine sat_await_bind fun s₁ hR i => ⟨fun _ _ => ⟨.noop _ _, trivial⟩, fun _ s₂ hrun => ?_⟩
  have hstep : Step cfg R me call (⟨.query, s₀, s₀⟩ :: h) _ s₁ _ :=
    .sellerCannotProvide o hR ho hstatus hnotPicked
  simp only [sellerCannotProvideTx, Stmt.bind_ok, Stmt.get_ok, restoreInventory_ok, hid] at hrun
  obtain ⟨_, _, ⟨rfl, rfl⟩, _, _, rfl, _, _, hupdate, hrun⟩ := hrun
  obtain ⟨⟨fresh, hfresh⟩, rfl⟩ := updateOrder_ok.mp hupdate
  -- the transaction cancels the delivery that the handler had read, if that one
  -- could be cancelled
  cases hd : cancellableDelivery (s₀.latestDelivery o) with
  | none =>
    simp only [hd, Stmt.pure_ok] at hrun hstep
    obtain ⟨-, rfl⟩ := hrun
    exact ⟨hstep, sat_bind_free (refundOrderIfNeeded_sat (.of_cancelled (Table.find?_update_of_eq hfresh) rfl)) fun _ =>
      free_bind strike_free fun _ => findOrderWithRelations_free⟩
  | some d =>
    simp only [hd] at hrun hstep
    obtain ⟨-, rfl⟩ := updateDelivery_ok.mp hrun
    exact ⟨hstep, sat_bind_free (refundOrderIfNeeded_sat (.of_cancelled (Table.find?_update_of_eq hfresh) rfl)) fun _ =>
      free_bind strike_free fun _ => findOrderWithRelations_free⟩

theorem cancelAsSeller_free {sub : String} {o : OrderId} {reason : String} :
    Free (stepContract cfg R me call) (cancelAsSeller sub o reason) := by
  refine fun h s => sat_free_bind assertSellerUser_free fun seller h s => ?_
  refine loadOrderForSellerAction_bind fun h s row hrow => ?_
  refine sat_throwIf_bind (fun _ => trivial) fun hstatus => ?_
  rw [not_not] at hstatus
  refine sat_await_bind fun s' hR i => ⟨fun _ _ => ⟨.noop _ _, trivial⟩, fun _ s'' hrun => ?_⟩
  simp only [cancelAsSellerTx, Stmt.bind_ok, Stmt.get_ok, Tx.orThrow_ok] at hrun
  obtain ⟨_, _, ⟨rfl, rfl⟩, fresh, _, ⟨hfresh, rfl⟩, hrun⟩ := hrun
  by_cases hfrom : fresh.status ∈ cancellableFrom
  · rw [if_pos hfrom, Stmt.bind_ok] at hrun
    obtain ⟨_, _, hrestore, hupdate⟩ := hrun
    obtain rfl := restoreInventory_ok.mp hrestore
    obtain ⟨-, rfl⟩ := updateOrder_ok.mp hupdate
    refine ⟨.cancelAsSeller o reason hfresh hfrom, ?_⟩
    exact sat_bind_free (refundOrderIfNeeded_sat (.of_cancelled (Table.find?_update_of_eq hfresh) rfl)) fun _ =>
      findOrderWithRelations_free
  · -- the race was lost: nothing is written, and the refund goes ahead all the same
    rw [if_neg hfrom, Stmt.pure_ok] at hrun
    obtain ⟨-, rfl⟩ := hrun
    refine ⟨.noop _ _, sat_bind_free (refundOrderIfNeeded_sat (.inr (.inr ?_))) fun _ =>
      findOrderWithRelations_free⟩
    exact ⟨s, _, row, fresh, hR, hrow, hstatus, hfresh, hfrom⟩

/-! ## The driver disappeared -/

theorem resolveDriverDisappeared_sat {row : Order} {d : DeliveryId} {driver : Option UserId}
    (hdelivery : ∀ s', R s s' → SawDelivery R s' d fun r => r.orderId = row.id ∧
      r.pickupConfirmedAt.isSome ∧ r.deliveredConfirmedAt = none ∧
      r.status ∉ [DeliveryStatus.delivered, .failed, .cancelled])
    (horder : ∀ s', R s s' → SawOrder R s' row.id fun r => r.status = .inDelivery) :
    Sat (stepContract cfg R me call) anyPost (resolveDriverDisappeared me row d driver) h s := by
  refine sat_await_bind fun s₁ hR i => ⟨fun _ _ => ⟨.noop _ _, trivial⟩, fun _ s₂ hrun => ?_⟩
  simp only [driverDisappearedTx, Stmt.bind_ok, Stmt.get_ok, updateDelivery_ok, updateOrder_ok] at hrun
  obtain ⟨_, _, ⟨rfl, rfl⟩, _, _, ⟨-, rfl⟩, ⟨fresh, hfresh⟩, rfl⟩ := hrun
  refine ⟨.driverDisappeared d row.id (hdelivery _ hR) (horder _ hR), ?_⟩
  refine sat_await_bind fun s₃ hR' i => ⟨fun _ _ => ⟨.noop _ _, trivial⟩, fun _ s₄ hrun => ?_⟩
  rw [updateWalletEntries_ok.mp hrun]
  refine ⟨.reverseDriverEarning row.id, ?_⟩
  have hcause : RefundCause R call s₃ row.id :=
    .tail (.of_cancelled (Table.find?_update_of_eq hfresh) rfl) (.inl hR')
  refine sat_bind_free (refundOrderIfNeeded_sat (hcause.tail (.inr rfl))) fun _ => ?_
  refine free_bind creditSellerEarning_free fun _ => ?_
  cases driver with
  | none => exact free_pure
  | some driver =>
    refine free_bind (free_tryCatch recordDriverDebt_free fun _ => free_pure) fun _ => ?_
    exact free_tryCatch immediateExclude_free fun _ => free_pure

theorem handleDriverDeliveryTimeout_free (htrans : ∀ a b c, R a b → R b c → R a c)
    {d : DeliveryId} : Free (stepContract cfg R me call) (handleDriverDeliveryTimeout me d) := by
  refine fun h s => sat_read_bind fun s₀ _ => ⟨.noop _ _, ?_⟩
  cases hd : s₀.deliveries.find? d with
  | none => trivial
  | some delivery =>
    refine sat_ite (fun _ => trivial) fun hdelivered => ?_
    refine sat_ite (fun _ => trivial) fun hfailed => sat_ite (fun _ => trivial) fun hpickup => ?_
    refine sat_read_bind fun s₁ hR₀ => ⟨.noop _ _, ?_⟩
    cases ho : s₁.orders.find? delivery.orderId with
    | none => trivial
    | some row =>
      refine sat_ite (fun _ => trivial) fun hstatus => ?_
      have hid : row.id = delivery.orderId := Table.key_of_find? ho
      rw [not_or, not_or] at hdelivered
      rw [not_or] at hfailed
      rw [not_not] at hstatus
      have hlive : delivery.status ∉ [DeliveryStatus.delivered, .failed, .cancelled] := by
        simp [hdelivered.1, hfailed.1, hfailed.2]
      refine resolveDriverDisappeared_sat (fun s' hR => ?_) fun s' hR => ?_
      · refine ⟨s₀, delivery, htrans _ _ _ hR₀ hR, hd, hid.symm, ?_, ?_, hlive⟩
        · exact Option.isSome_iff_ne_none.mpr hpickup
        · simpa using hdelivered.2.1
      · exact ⟨s₁, row, hR, hid ▸ ho, hstatus⟩

/-! ## Completion -/

theorem confirmOrderPickup_free {sub : String} {o : OrderId} :
    Free (stepContract cfg R me call) (Orders.confirmPickup cfg me sub o) := by
  refine fun h s => sat_free_bind assertSellerUser_free fun user h s => ?_
  refine sat_read_bind fun s₀ _ => ⟨.noop _ _, sat_orThrow_bind (fun _ => trivial) fun row ho => ?_⟩
  refine sat_throwIf_bind (fun _ => trivial) fun _ => ?_
  refine sat_throwIf_bind (fun _ => trivial) fun hchoice => ?_
  refine sat_throwIf_bind (fun _ => trivial) fun hready => ?_
  rw [not_not] at hchoice hready
  refine sat_await_bind fun s₁ hR i => ⟨fun _ _ => ⟨.noop _ _, trivial⟩, fun _ s₂ hrun => ?_⟩
  obtain ⟨-, rfl⟩ := updateOrder_ok.mp hrun
  refine ⟨.pickedUpByBuyer o ⟨s₀, row, hR, ho, hready, hchoice⟩, ?_⟩
  exact free_bind creditForCompletedOrder_free (fun _ => findOrderWithRelations_free) _ _

theorem confirmDeliveredByDriver_sat (htrans : ∀ a b c, R a b → R b c → R a c) {o : OrderId}
    (hdelivered : ∀ s', R s s' → MovedDelivery R h .delivered s' o) :
    Sat (stepContract cfg R me call) anyPost (confirmDeliveredByDriver cfg me o) h s := by
  refine sat_read_bind fun s₀ hR₀ => ⟨.noop _ _, sat_orThrow_bind (fun _ => trivial) fun row ho => ?_⟩
  refine sat_throwIf_bind (fun _ => trivial) fun hchoice => ?_
  rw [not_not] at hchoice
  have hrest : Free (stepContract cfg R me call) (do
      releaseFundsForCompletedOrder cfg me o
      findOrderWithRelations o) :=
    free_bind creditForCompletedOrder_free fun _ => findOrderWithRelations_free
  refine sat_runIf_bind (fun hstatus => ?_) fun _ => hrest _ _
  refine sat_await_bind fun s₁ hR i => ⟨fun _ _ => ⟨.noop _ _, trivial⟩, fun _ s₂ hrun => ?_⟩
  obtain ⟨-, rfl⟩ := updateOrder_ok.mp hrun
  exact ⟨.deliveredByDriver o ⟨s₀, row, hR, ho, hstatus, hchoice⟩
    ((hdelivered s₀ hR₀).later htrans hR), hrest _ _⟩

end

end IncaCook
