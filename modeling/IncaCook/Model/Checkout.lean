import IncaCook.Model.Pricing
import IncaCook.Model.Strikes

/-!
# Placing an order

`OrdersService.createOrder` with its helpers, in the order of the source: the
cart is validated, the drop-off address and the Stripe customer resolved, then
one transaction takes the stock and inserts the order, and a PaymentIntent is
created and recorded on it.
-/

namespace IncaCook

open Prog Pricing

namespace Orders

/-! ## Request bodies -/

/-- One cart line; the request validation admits quantities from 1 on. -/
structure CreateOrderItemDto where
  listingId : ListingId
  quantity : Nat
  note : Option String
  addOnIds : Option (List AddOnId)
  quantity_pos : 1 ≤ quantity

structure CreateAddressDto where
  fullAddress : String
  city : String
  postalCode : Option String

structure CreateOrderDto where
  items : List CreateOrderItemDto
  fulfillmentChoice : FulfillmentChoice
  dropoffAddressId : Option AddressId
  dropoffAddress : Option CreateAddressDto
  deliveryInstructions : Option String
  deliveryTiming : Option DeliveryTiming
  scheduledAt : Option Time
  note : Option String
  termsAccepted : Option Bool

/-! ## The cart -/

/-- `isSubscriptionActive` of `subscription.util.ts`. -/
def isSubscriptionActive (status : SubscriptionStatus) (currentPeriodEnd : Option Time)
    (now : Time) : Bool :=
  (status = .active || status = .trialing) && !currentPeriodEnd.any (· ≤ now)

structure Cart where
  listings : List Listing
  addOns : List ListingAddOn
  sellerId : UserId
  isPremium : Bool

/-- The live checks of one listing. -/
def checkListing (now : Time) (l : Listing) : Handler Unit := do
  throwIf (l.deletedAt.isSome) (.badRequest (l.name ++ " is unavailable"))
  throwIf (l.isAvailable = false) (.badRequest (l.name ++ " is not available"))
  throwIf (l.expiresAt.any (· ≤ now)) (.badRequest (l.name ++ " is no longer available"))

/-- Every requested add-on exists and belongs to the line's listing. -/
def checkAddOn (addOns : List ListingAddOn) (listingId : ListingId) (addOnId : AddOnId) :
    Handler Unit := do
  let addOn ← orThrow (addOns.find? fun a => a.id = addOnId)
    (.badRequest ("Unknown add-on: " ++ Ulid.text addOnId))
  throwIf (addOn.listingId ≠ listingId) (.badRequest
    ("Add-on " ++ Ulid.text addOnId ++ " does not belong to listing " ++ Ulid.text listingId))

def loadAddOns (addOnIds : List AddOnId) : Handler (List ListingAddOn) :=
  if addOnIds.isEmpty then
    return []
  else
    read .query fun db => db.addOns.rows.filter fun a => a.id ∈ addOnIds

/-- Loads the listings, the seller and the add-ons of a cart and checks that the
seller may sell them now. -/
def loadAndValidateCart (items : List CreateOrderItemDto) : Handler Cart := do
  let listingIds := (items.map CreateOrderItemDto.listingId).dedup
  -- the client hides soft-deleted listings from `findMany`
  let listings ← read .query fun db =>
    db.listings.rows.filter fun l => l.id ∈ listingIds && l.deletedAt.isNone
  throwIf (listings.length ≠ listingIds.length) (.badRequest "One or more listings not found")
  let sellerIds := (listings.map Listing.sellerId).dedup
  throwIf (sellerIds.length > 1) (.badRequest "All items must belong to the same seller")
  let sellerId ← orThrow sellerIds.head? (.badRequest "Seller not found")
  let (profile, account, now) ← read .query fun db =>
    (db.sellerProfiles.find? sellerId, db.users.find? sellerId, db.now)
  let profile ← orThrow profile (.badRequest "Seller not found")
  let account ← orThrow account (.badRequest "Seller not found")
  throwIf (profile.kycStatus ≠ .approved) (.badRequest "Seller is not approved to take orders")
  throwIf (account.deletedAt.isSome) (.badRequest "Seller account is unavailable")
  throwIf (account.isSuspended) (.badRequest "Ce vendeur est actuellement suspendu.")
  throwIf (isSubscriptionActive profile.subscriptionStatus profile.subscriptionCurrentPeriodEnd now
    = false) (.badRequest "Seller is not currently accepting orders")
  throwIf (profile.deliveryFeeCents = none) (.badRequest "Seller delivery fee is missing")
  listings.forM (checkListing now)
  let addOns ← loadAddOns (items.flatMap fun i => i.addOnIds.getD []).dedup
  items.forM fun item => (item.addOnIds.getD []).forM (checkAddOn addOns item.listingId)
  return { listings, addOns, sellerId, isPremium := profile.isPremium }

/-- The subtotal of the cart, then its split. -/
def computeTotals (cfg : Config) (items : List CreateOrderItemDto) (cart : Cart)
    (choice : FulfillmentChoice) : Except Err OrderTotals :=
  let price (item : CreateOrderItemDto) : Cents :=
    ((cart.listings.find? fun l => l.id = item.listingId).map Listing.priceCents).getD 0
  let addOnsCents (item : CreateOrderItemDto) : Cents :=
    ((item.addOnIds.getD []).map fun id =>
      ((cart.addOns.find? fun a => a.id = id).map ListingAddOn.priceDeltaCents).getD 0).sum
  let subtotalCents := (items.map fun item => (price item + addOnsCents item) * item.quantity).sum
  priceOrder cfg subtotalCents cart.isPremium (choice = .delivery)

/-! ## Drop-off address and Stripe customer -/

def createAddress (row : Address) : Tx Unit := do
  let db ← get
  let addresses ← Tx.orThrow (db.addresses.insert? row) .uniqueViolation
  set { db with addresses }

/-- Exactly one of an existing address and an inline one. -/
def resolveDropoffAddress (me : Nat) (buyerId : UserId) (dto : CreateOrderDto) :
    Handler AddressId := do
  throwIf (dto.dropoffAddressId.isSome = dto.dropoffAddress.isSome)
    (.badRequest "Provide exactly one of dropoffAddressId or dropoffAddress")
  match dto.dropoffAddressId, dto.dropoffAddress with
  | some addressId, _ =>
    let existing ← read .query fun db => db.addresses.find? addressId
    let existing ← orThrow (existing.filter fun a => a.deletedAt.isNone)
      (.notFound "Drop-off address not found")
    throwIf (existing.userId ≠ buyerId) (.forbidden "Drop-off address does not belong to you")
    return existing.id
  | none, some addr =>
    let id := generateUlid me 1
    await (.createAddress id) fun _ => createAddress
      ⟨id, buyerId, addr.fullAddress, addr.city, addr.postalCode, none⟩
    return id
  | none, none => throw (.badRequest "Provide exactly one of dropoffAddressId or dropoffAddress")

/-- Stripe's `customers.create`. -/
def createCustomer (answer : Answer) : Tx CustomerId := do
  Tx.throwIf (¬answer.ok) (.internal answer.message)
  let db ← get
  set { db with stripeNext := db.stripeNext + 1 }
  return .stripe db.stripeNext

/-- `User.stripeCustomerId` is unique. -/
def saveCustomer (userId : UserId) (customer : CustomerId) : Tx Unit := do
  let db ← get
  Tx.throwIf (db.users.rows.any fun u => u.id ≠ userId && u.stripeCustomerId = some customer)
    .uniqueViolation
  updateUser userId fun u => { u with stripeCustomerId := some customer }

/-- The stored customer, if it exists in the current Stripe account. -/
def reusableCustomer (existing : Option CustomerId) : Handler (Option CustomerId) :=
  match existing with
  | none => return none
  | some (.dev _) => return none
  | some customer => ask .stripeQuery fun answer _ => if answer.ok then some customer else none

/-- Reuses the buyer's Stripe customer, or creates and records a new one. -/
def ensureStripeCustomer (cfg : Config) (userId : UserId) (existing : Option CustomerId) :
    Handler CustomerId := do
  let reusable ← reusableCustomer existing
  match reusable with
  | some customer => return customer
  | none =>
    let customer ← try
        await (.createCustomer userId) createCustomer
      catch _ =>
        if cfg.development then
          pure (CustomerId.dev userId)
        else
          throw (.serviceUnavailable "Payment provider unavailable")
    try
      await (.saveCustomer userId) fun _ => saveCustomer userId customer
      pure customer
    catch e =>
      -- P2002: a concurrent request recorded one; use that
      if e = .uniqueViolation then
        let refreshed ← read .query fun db => (db.users.find? userId).bind User.stripeCustomerId
        orThrow refreshed e
      else
        throw e

/-- A pickup order has no drop-off address. -/
def resolveDropoff (me : Nat) (buyerId : UserId) (dto : CreateOrderDto) :
    Handler (Option AddressId) :=
  if dto.fulfillmentChoice = .delivery then
    return some (← resolveDropoffAddress me buyerId dto)
  else
    return none

/-! ## The order transaction -/

/-- The quantities of a cart or an order by listing, in the order in which the
listings first occur. -/
def quantityByListing (items : List (ListingId × Nat)) : List (ListingId × Nat) :=
  items.foldl (fun acc item =>
    if acc.any fun p => p.1 = item.1 then
      acc.map fun p => if p.1 = item.1 then (p.1, p.2 + item.2) else p
    else acc ++ [item]) []

/-- `UPDATE "Listing" … WHERE "portionsLeft" >= quantity`. -/
def decrement (id : ListingId) (quantity : Nat) : Tx Nat :=
  updateListing id (fun l => l.portionsLeft.any fun n => decide ((quantity : Int) ≤ n)) fun l =>
    { l with portionsLeft := l.portionsLeft.map fun n => n - quantity }

/-- Takes the stock of one listing. Development refills it once. -/
def decrementListing (cfg : Config) (listings : List Listing) (id : ListingId) (quantity : Nat) :
    Tx Unit := do
  let updated ← decrement id quantity
  let updated ← if updated = 0 ∧ cfg.development then do
      let _ ← updateListing id (fun _ => true) fun l => { l with portionsLeft := some 99 }
      decrement id quantity
    else pure updated
  Tx.throwIf (updated = 0) (.conflict
    (((listings.find? fun l => l.id = id).map Listing.name).getD "Listing" ++
      " is no longer available in the requested quantity"))

def atomicDecrementInventory (cfg : Config) (items : List CreateOrderItemDto)
    (listings : List Listing) : Tx Unit :=
  (quantityByListing (items.map fun i => (i.listingId, i.quantity))).forM fun p =>
    decrementListing cfg listings p.1 p.2

/-- The snapshot of one cart line. -/
def itemSnapshot (db : Db) (cart : Cart) (item : CreateOrderItemDto) : OrderItem where
  listingId := item.listingId
  listingNameSnapshot :=
    ((cart.listings.find? fun l => l.id = item.listingId).map Listing.name).getD ""
  listingImageUrlSnapshot := (db.listings.find? item.listingId).bind fun l => l.imageUrls.head?
  unitPriceCentsSnapshot :=
    ((cart.listings.find? fun l => l.id = item.listingId).map Listing.priceCents).getD 0
  quantity := item.quantity
  note := item.note
  addOns := (item.addOnIds.getD []).filterMap fun id =>
    (cart.addOns.find? fun a => a.id = id).map fun a => ⟨a.label, a.priceDeltaCents⟩

structure InsertOrderArgs where
  orderId : OrderId
  orderNumber : String
  buyerId : UserId
  dropoffAddressId : Option AddressId
  dto : CreateOrderDto
  totals : OrderTotals
  cart : Cart

/-- The order row that `insertOrder` creates, with its items. -/
def newOrder (db : Db) (args : InsertOrderArgs) : Order where
  id := args.orderId
  orderNumber := args.orderNumber
  buyerId := args.buyerId
  sellerId := args.cart.sellerId
  status := .pending
  subtotalCents := args.totals.subtotalCents
  fulfillmentFeeCents := args.totals.fulfillmentFeeCents
  commissionRateBps := args.totals.commissionRateBps
  commissionCents := args.totals.commissionCents
  sellerEarningsCents := args.totals.sellerEarningsCents
  buyerTotalCents := args.totals.buyerTotalCents
  fulfillmentChoice := args.dto.fulfillmentChoice
  dropoffAddressId := args.dropoffAddressId
  deliveryInstructions := args.dto.deliveryInstructions
  deliveryTiming := args.dto.deliveryTiming.getD .asap
  scheduledAt := args.dto.scheduledAt
  note := args.dto.note
  stripePaymentIntentId := none
  inventoryRestored := false
  stripeRefundId := none
  refundedAt := none
  placedAt := db.now
  confirmedAt := none
  readyAt := none
  cancelledAt := none
  cancellationReason := none
  items := args.dto.items.map (itemSnapshot db args.cart)

def insertOrder (args : InsertOrderArgs) : Tx Order := do
  let order := newOrder (← get) args
  createOrderRow order
  return order

/-- The transaction of `createOrder`. -/
def placeOrder (cfg : Config) (args : InsertOrderArgs) : Tx Order := do
  atomicDecrementInventory cfg args.dto.items args.cart.listings
  insertOrder args

/-! ## The payment -/

/-- Stripe's `paymentIntents.create`: the new id and its client secret. -/
def createPaymentIntent (orderId : OrderId) (amount : Cents) (customer : CustomerId)
    (answer : Answer) : Tx (PaymentIntentId × String) := do
  Tx.throwIf (¬answer.ok) (.internal answer.message)
  let db ← get
  let id := PaymentIntentId.stripe db.stripeNext
  let paymentIntents ← Tx.orThrow (db.paymentIntents.insert? ⟨id, amount, customer, orderId, false⟩)
    (.internal answer.message)
  set { db with paymentIntents, stripeNext := db.stripeNext + 1 }
  return (id, answer.token)

def savePaymentIntent (orderId : OrderId) (pi : PaymentIntentId) (answer : Answer) : Tx Unit := do
  Tx.throwIf (¬answer.ok) .database
  uniquePaymentIntent orderId pi
  updateOrder orderId fun o => { o with stripePaymentIntentId := some pi }

structure CreateOrderResult where
  order : Order
  paymentIntentClientSecret : String

/-- Creates a pending order and its PaymentIntent. -/
def createOrder (cfg : Config) (me : Nat) (supabaseId : String) (dto : CreateOrderDto) :
    Handler CreateOrderResult := do
  let buyer ← read .query fun db => db.userBySupabaseId supabaseId
  let buyer ← orThrow buyer (.notFound "User profile not found")
  throwIf (buyer.hasBuyerProfile = false)
    (.badRequest "Complete buyer profile before placing orders")
  throwIf (buyer.deletedAt.isSome) (.forbidden "Deleted users cannot place orders")
  throwIf (buyer.isSuspended) (.forbidden "Votre compte acheteur est suspendu.")
  throwIf (dto.termsAccepted ≠ some true)
    (.badRequest "Vous devez accepter les CGU/CGV avant d'acheter.")
  let cart ← loadAndValidateCart dto.items
  throwIf (dto.deliveryTiming = some .scheduled ∧ dto.scheduledAt = none)
    (.badRequest "scheduledAt is required when deliveryTiming = SCHEDULED")
  throwIf (dto.deliveryTiming ≠ some .scheduled ∧ dto.scheduledAt ≠ none)
    (.badRequest "scheduledAt is only valid with deliveryTiming = SCHEDULED")
  throwIf (dto.fulfillmentChoice = .delivery ∧
      ¬cart.listings.all fun l => l.fulfillment = .delivery || l.fulfillment = .both)
    (.badRequest "At least one item is not available for delivery")
  throwIf (dto.fulfillmentChoice = .pickup ∧
      ¬cart.listings.all fun l => l.fulfillment = .pickup || l.fulfillment = .both)
    (.badRequest "At least one item is not available for pickup")
  let dropoffAddressId ← resolveDropoff me buyer.id dto
  let totals ← Prog.done (computeTotals cfg dto.items cart dto.fulfillmentChoice)
  let customer ← ensureStripeCustomer cfg buyer.id buyer.stripeCustomerId
  let orderId := generateUlid me 0
  let order ← await (.placeOrder orderId) fun answer => placeOrder cfg
    { orderId, orderNumber := answer.token, buyerId := buyer.id, dropoffAddressId, dto, totals, cart }
  let (pi, clientSecret) ← try
      await (.createPaymentIntent orderId)
        (createPaymentIntent orderId totals.buyerTotalCents customer)
    catch _ =>
      if cfg.development then
        pure (PaymentIntentId.dev orderId, "pi_dev_secret_devbypass")
      else
        throw (.serviceUnavailable "Payment provider unavailable")
  -- the webhook records the PaymentIntent when this update fails
  try
    await (.savePaymentIntent orderId) (savePaymentIntent orderId pi)
  catch _ =>
    pure ()
  throwIf (clientSecret = "") (.serviceUnavailable "PaymentIntent missing client_secret")
  return { order, paymentIntentClientSecret := clientSecret }

end Orders

end IncaCook
