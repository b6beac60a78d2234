import IncaCook.Library.Crash
import IncaCook.Steps.Statements

/-!
# The three parts of a checkout

`createOrder` first prepares: it reads, and writes at most an address and a Stripe
customer. Then one transaction takes the stock and inserts the order, and then the
order is charged. `createOrder_eq` splits the handler there, and `prepareOrder_free`
says what the first part leaves alone.
-/

namespace IncaCook

open Prog Pricing Orders

/-! ## The parts -/

/-- What the order transaction and the payment need to know. -/
structure PreparedOrder where
  buyerId : UserId
  cart : Cart
  dropoffAddressId : Option AddressId
  totals : OrderTotals
  customer : CustomerId

/-- `createOrder` up to its transaction. -/
def prepareOrder (cfg : Config) (me : Nat) (supabaseId : String) (dto : CreateOrderDto) :
    Handler PreparedOrder := do
  let buyer ← read .query fun db => db.userBySupabaseId supabaseId
  let buyer ← orThrow buyer (.notFound "User profile not found")
  throwIf (buyer.hasBuyerProfile = false)
    (.badRequest "Complete buyer profile before placing orders")
  throwIf (buyer.deletedAt.isSome) (.forbidden "Deleted users cannot place orders")
  throwIf (buyer.isSuspended) (.forbidden "Votre compte acheteur est suspendu.")
  throwIf (dto.termsAccepted ≠ some true)
    (.badRequest "Vous devez accepter les CGU/CGV avant d'acheter.")
  let cart ← loadAndValidateCart dto.items
  throwIf (dto.deliveryTiming = some .scheduled ∧ dto.scheduledAt = none)
    (.badRequest "scheduledAt is required when deliveryTiming = SCHEDULED")
  throwIf (dto.deliveryTiming ≠ some .scheduled ∧ dto.scheduledAt ≠ none)
    (.badRequest "scheduledAt is only valid with deliveryTiming = SCHEDULED")
  throwIf (dto.fulfillmentChoice = .delivery ∧
      ¬cart.listings.all fun l => l.fulfillment = .delivery || l.fulfillment = .both)
    (.badRequest "At least one item is not available for delivery")
  throwIf (dto.fulfillmentChoice = .pickup ∧
      ¬cart.listings.all fun l => l.fulfillment = .pickup || l.fulfillment = .both)
    (.badRequest "At least one item is not available for pickup")
  let dropoffAddressId ← resolveDropoff me buyer.id dto
  let totals ← Prog.done (computeTotals cfg dto.items cart dto.fulfillmentChoice)
  let customer ← ensureStripeCustomer cfg buyer.id buyer.stripeCustomerId
  return { buyerId := buyer.id, cart, dropoffAddressId, totals, customer }

/-- The order row that `createOrder` asks for. -/
def PreparedOrder.args (p : PreparedOrder) (me : Nat) (dto : CreateOrderDto) (orderNumber : String) :
    InsertOrderArgs where
  orderId := generateUlid me 0
  orderNumber := orderNumber
  buyerId := p.buyerId
  dropoffAddressId := p.dropoffAddressId
  dto := dto
  totals := p.totals
  cart := p.cart

/-- The transaction of `createOrder`. -/
def commitOrder (cfg : Config) (me : Nat) (dto : CreateOrderDto) (p : PreparedOrder) :
    Handler Order :=
  await (.placeOrder (generateUlid me 0)) fun answer => placeOrder cfg (p.args me dto answer.token)

/-- `createOrder` after its transaction. -/
def chargeOrder (cfg : Config) (orderId : OrderId) (p : PreparedOrder) (order : Order) :
    Handler CreateOrderResult := do
  let (pi, clientSecret) ← try
      await (.createPaymentIntent orderId)
        (createPaymentIntent orderId p.totals.buyerTotalCents p.customer)
    catch _ =>
      if cfg.development then
        pure (PaymentIntentId.dev orderId, "pi_dev_secret_devbypass")
      else
        throw (.serviceUnavailable "Payment provider unavailable")
  try
    await (.savePaymentIntent orderId) (savePaymentIntent orderId pi)
  catch _ =>
    pure ()
  throwIf (clientSecret = "") (.serviceUnavailable "PaymentIntent missing client_secret")
  return { order, paymentIntentClientSecret := clientSecret }

theorem createOrder_eq (cfg : Config) (me : Nat) (sub : String) (dto : CreateOrderDto) :
    createOrder cfg me sub dto = (prepareOrder cfg me sub dto >>= fun p =>
      commitOrder cfg me dto p >>= fun order => chargeOrder cfg (generateUlid me 0) p order) := by
  unfold createOrder prepareOrder commitOrder chargeOrder
  simp only [bind_assoc, pure_bind, PreparedOrder.args]

/-! ## Preparing -/

/-- The statements before the order transaction. -/
def Site.preparation : Site → Bool
  | .query | .stripeQuery | .createAddress _ | .createCustomer _ | .saveCustomer _ => true
  | _ => false

/-- Nothing about orders, payments or disputes changes; Stripe may have numbered a
new customer. -/
structure Prepares (s s' : Db) : Prop where
  aside : Aside s s'
  disputes : s'.disputes = s.disputes
  stripeNext : s.stripeNext ≤ s'.stripeNext

theorem Prepares.refl (s : Db) : Prepares s s := ⟨.refl s, rfl, Nat.le_refl _⟩

/-- The contract of a preparation. -/
def prepareContract (R : Db → Db → Prop) : Contract machine where
  rely := R
  guar _ site s s' := site.preparation = true ∧ Prepares s s'

variable {R : Db → Db → Prop} {cfg : Config} {me : Nat}

theorem prepare_query {α : Type} {f : Db → α} : Free (prepareContract R) (Prog.read .query f) :=
  free_read fun _ s => ⟨rfl, .refl s⟩

theorem prepare_forM {α : Type} {f : α → Handler Unit} (hf : ∀ a, Free (prepareContract R) (f a))
    (l : List α) : Free (prepareContract R) (l.forM f) := by
  induction l with
  | nil => exact free_pure
  | cons a rest ih => exact free_bind (hf a) fun _ => ih

theorem loadAndValidateCart_prepares {items : List CreateOrderItemDto} :
    Free (prepareContract R) (loadAndValidateCart items) := by
  refine free_bind prepare_query fun listings => free_bind free_throwIf fun _ =>
    free_bind free_throwIf fun _ => free_bind free_orThrow fun sellerId =>
    free_bind prepare_query fun seller => ?_
  refine free_bind free_orThrow fun profile => free_bind free_orThrow fun account =>
    free_bind free_throwIf fun _ => free_bind free_throwIf fun _ => free_bind free_throwIf fun _ =>
    free_bind free_throwIf fun _ => free_bind free_throwIf fun _ => ?_
  refine free_bind (prepare_forM (fun l => ?_) _) fun _ => free_bind ?_ fun addOns =>
    free_bind (prepare_forM (fun item => prepare_forM (fun id => ?_) _) _) fun _ => free_pure
  · exact free_bind free_throwIf fun _ => free_bind free_throwIf fun _ => free_throwIf
  · exact free_ite free_pure prepare_query
  · exact free_bind free_orThrow fun _ => free_throwIf

theorem createAddress_ok {row : Address} {u : Unit} {s s' : Db}
    (hrun : createAddress row s = .ok (u, s')) : ∃ addresses, s' = { s with addresses } := by
  simp only [createAddress, Stmt.bind_ok, Stmt.get_ok, Tx.orThrow_ok, Stmt.set_ok] at hrun
  obtain ⟨_, _, ⟨rfl, rfl⟩, addresses, _, ⟨-, rfl⟩, rfl⟩ := hrun
  exact ⟨addresses, rfl⟩

theorem resolveDropoff_prepares {buyer : UserId} {dto : CreateOrderDto} :
    Free (prepareContract R) (resolveDropoff me buyer dto) := by
  refine free_ite (free_bind (free_bind free_throwIf fun _ => ?_) fun _ => free_pure) free_pure
  split
  · exact free_bind prepare_query fun _ => free_bind free_orThrow fun _ =>
      free_bind free_throwIf fun _ => free_pure
  · refine free_bind (free_await (fun _ s => ⟨rfl, .refl s⟩) fun h _ s _ s' hrun => ?_)
      fun _ => free_pure
    obtain ⟨addresses, rfl⟩ := createAddress_ok hrun
    exact ⟨rfl, ⟨rfl, rfl, rfl, rfl, rfl, rfl, rfl, rfl, rfl⟩, rfl, Nat.le_refl _⟩
  · exact free_throw

theorem createCustomer_ok {answer : Answer} {customer : CustomerId} {s s' : Db}
    (hrun : createCustomer answer s = .ok (customer, s')) :
    s' = { s with stripeNext := s.stripeNext + 1 } := by
  simp only [createCustomer, Stmt.bind_ok, Tx.throwIf_ok, Stmt.get_ok, Stmt.set_ok, Stmt.pure_ok]
    at hrun
  obtain ⟨_, _, ⟨-, rfl⟩, _, _, ⟨rfl, rfl⟩, _, _, rfl, -, rfl⟩ := hrun
  rfl

theorem saveCustomer_prepares {u : UserId} {customer : CustomerId} {x : Unit} {s s' : Db}
    (hrun : saveCustomer u customer s = .ok (x, s')) : Prepares s s' := by
  simp only [saveCustomer, Stmt.bind_ok, Stmt.get_ok, Tx.throwIf_ok, updateUser_ok] at hrun
  obtain ⟨_, _, ⟨rfl, rfl⟩, _, _, ⟨-, rfl⟩, -, rfl⟩ := hrun
  refine ⟨⟨rfl, rfl, rfl, rfl, rfl, rfl, rfl, rfl, ?_⟩, rfl, Nat.le_refl _⟩
  exact Table.map_rewritten _ _ fun _ => rfl

theorem ensureStripeCustomer_prepares {u : UserId} {existing : Option CustomerId} :
    Free (prepareContract R) (ensureStripeCustomer cfg u existing) := by
  refine free_bind ?_ fun reusable => ?_
  · unfold reusableCustomer
    split
    · exact free_pure
    · exact free_pure
    · exact free_ask fun _ s => ⟨rfl, .refl s⟩
  · cases reusable with
    | some customer => exact free_pure
    | none =>
      refine free_bind (free_tryCatch ?_ fun _ => free_ite free_pure free_throw) fun customer =>
        free_tryCatch (free_bind ?_ fun _ => free_pure) fun e =>
        free_ite (free_bind prepare_query fun _ => free_orThrow) free_throw
      · refine free_await (fun _ s => ⟨rfl, .refl s⟩) fun h _ s _ s' hrun => ?_
        rw [createCustomer_ok hrun]
        exact ⟨rfl, ⟨rfl, rfl, rfl, rfl, rfl, rfl, rfl, rfl, rfl⟩, rfl, Nat.le_succ _⟩
      · exact free_await (fun _ s => ⟨rfl, .refl s⟩) fun h _ s _ s' hrun =>
          ⟨rfl, saveCustomer_prepares hrun⟩

/-- The first part of `createOrder` only prepares. -/
theorem prepareOrder_free {sub : String} {dto : CreateOrderDto} :
    Free (prepareContract R) (prepareOrder cfg me sub dto) := by
  refine free_bind prepare_query fun _ => free_bind free_orThrow fun buyer => ?_
  refine free_bind free_throwIf fun _ => free_bind free_throwIf fun _ => ?_
  refine free_bind free_throwIf fun _ => free_bind free_throwIf fun _ => ?_
  refine free_bind loadAndValidateCart_prepares fun cart => ?_
  refine free_bind free_throwIf fun _ => free_bind free_throwIf fun _ => ?_
  refine free_bind free_throwIf fun _ => free_bind free_throwIf fun _ => ?_
  refine free_bind resolveDropoff_prepares fun dropoff => free_bind ?_ fun totals => ?_
  · intro h s
    cases computeTotals cfg dto.items cart dto.fulfillmentChoice with
    | error e => trivial
    | ok totals => trivial
  exact free_bind ensureStripeCustomer_prepares fun customer => free_pure

end IncaCook
