import IncaCook.Library.Runs
import IncaCook.Model.Checkout
import IncaCook.Model.Strikes

/-!
# The kitchen catalog

`CatalogService`, `CatalogClaimsService` and the catalog branch of
`StripeWebhookHandlerService`. A seller buys products of the platform: the order is
created PENDING with a PaymentIntent, which the app confirms and whose events arrive as
webhooks. Within 14 days of the payment the seller may open claims on the order, and an
admin refunds a claim, asks for a replacement, rejects it or resolves it.

None of this touches the tables of the marketplace, so the catalog has a machine of its
own. Stripe keeps the PaymentIntents and the refunds, one refund for an idempotency key.
-/

namespace IncaCook

open Prog

abbrev CatalogProductId := Ulid
abbrev CatalogOrderId := Ulid
abbrev CatalogClaimId := Ulid

/-! ## Rows -/

inductive CatalogOrderStatus where
  | pending | paid | failed | cancelled | refunded
  deriving DecidableEq, Repr

inductive CatalogClaimType where
  | neverReceived | defective | wrongItem
  deriving DecidableEq, Repr

inductive CatalogClaimStatus where
  | open | adminReview | refunded | replacementRequested | rejected | resolved
  deriving DecidableEq, Repr

/-- The status of a PaymentIntent; the last two are final. -/
inductive PaymentIntentStatus where
  | requiresPaymentMethod | requiresAction | processing | succeeded | canceled
  deriving DecidableEq, Repr

structure CatalogProduct where
  id : CatalogProductId
  name : String
  priceCents : Cents
  currency : String
  isActive : Bool
  deletedAt : Option Time
  deriving DecidableEq

structure CatalogOrderItem where
  id : Ulid
  productId : CatalogProductId
  nameSnapshot : String
  unitPriceCents : Cents
  quantity : Nat
  lineTotalCents : Cents
  deriving DecidableEq

/-- A purchase with its items. -/
structure CatalogOrder where
  id : CatalogOrderId
  sellerId : UserId
  status : CatalogOrderStatus
  totalCents : Cents
  currency : String
  stripePaymentIntentId : Option PaymentIntentId
  stripeRefundId : Option RefundId
  createdAt : Time
  paidAt : Option Time
  items : List CatalogOrderItem
  deriving DecidableEq

structure CatalogClaim where
  id : CatalogClaimId
  catalogOrderId : CatalogOrderId
  sellerId : UserId
  type : CatalogClaimType
  status : CatalogClaimStatus
  description : String
  photoUrls : List String
  adminNotes : Option String
  refundAmountCents : Option Cents
  replacementNotes : Option String
  stripeRefundId : Option RefundId
  createdAt : Time
  resolvedAt : Option Time
  deriving DecidableEq

/-- A PaymentIntent as Stripe keeps it. -/
structure CatalogPayment where
  id : PaymentIntentId
  amount : Cents
  customer : CustomerId
  catalogOrderId : CatalogOrderId
  status : PaymentIntentStatus
  deriving DecidableEq

/-- A refund that Stripe has executed, under its idempotency key `catalog_refund_<claimId>`. -/
structure CatalogRefund where
  id : RefundId
  claimId : CatalogClaimId
  paymentIntent : PaymentIntentId
  amount : Cents
  deriving DecidableEq

instance : Keyed CatalogProduct CatalogProductId := ⟨CatalogProduct.id⟩
instance : Keyed CatalogOrder CatalogOrderId := ⟨CatalogOrder.id⟩
instance : Keyed CatalogClaim CatalogClaimId := ⟨CatalogClaim.id⟩
instance : Keyed CatalogPayment PaymentIntentId := ⟨CatalogPayment.id⟩
instance : Keyed CatalogRefund CatalogClaimId := ⟨CatalogRefund.claimId⟩

structure CatalogDb where
  now : Time
  users : Table User
  products : Table CatalogProduct
  orders : Table CatalogOrder
  claims : Table CatalogClaim
  payments : Table CatalogPayment
  refunds : Table CatalogRefund
  /-- the next number Stripe gives out -/
  stripeNext : Nat

namespace CatalogDb

def userBySupabaseId (db : CatalogDb) (supabaseId : String) : Option User :=
  db.users.rows.find? fun u => u.supabaseId = supabaseId

/-- What Stripe has given back of a payment. -/
def refundedCents (db : CatalogDb) (pi : PaymentIntentId) : Cents :=
  ((db.refunds.rows.filter fun r => r.paymentIntent = pi).map CatalogRefund.amount).sum

end CatalogDb

/-! ## The machine -/

/-- The environment's answer to one step: a statement or remote call may fail, and it may be
carried out without the caller hearing of it. -/
structure CatalogAnswer where
  ok : Bool
  heard : Bool
  /-- a client secret -/
  token : String
  deriving DecidableEq, Repr

inductive CatalogSite where
  | query
  | stripeQuery
  | createCustomer (u : UserId)
  | saveCustomer (u : UserId)
  | createOrder (o : CatalogOrderId)
  | createPaymentIntent (o : CatalogOrderId)
  | savePaymentIntent (o : CatalogOrderId)
  | confirmPayment (o : CatalogOrderId)
  | markPaid (o : CatalogOrderId)
  | markFailed (o : CatalogOrderId)
  | createClaim (k : CatalogClaimId)
  | createRefund (k : CatalogClaimId)
  | refundOrder (o : CatalogOrderId)
  | updateClaim (k : CatalogClaimId) (status : CatalogClaimStatus)
  | notify (u : UserId) (k : CatalogClaimId) (title : String) (status : CatalogClaimStatus)
  deriving DecidableEq

abbrev catalogMachine : Machine := ⟨CatalogDb, CatalogAnswer, CatalogSite, Err⟩

abbrev CatalogHandler (α : Type) := Prog catalogMachine α

abbrev CatalogTx (α : Type) := StateT CatalogDb (Except Err) α

namespace Catalog

/-! ## Statements -/

def updateCatalogOrder (id : CatalogOrderId) (f : CatalogOrder → CatalogOrder)
    (hf : ∀ o, (f o).id = o.id := by intro _; exact Eq.symm rfl) : CatalogTx Unit := do
  let db ← get
  let orders ← Stmt.orThrow (db.orders.update? id f hf) .recordNotFound
  set { db with orders }

/-- Updates a claim and reads it back. -/
def updateCatalogClaim (id : CatalogClaimId) (f : CatalogClaim → CatalogClaim)
    (hf : ∀ k, (f k).id = k.id := by intro _; exact Eq.symm rfl) : CatalogTx CatalogClaim := do
  let db ← get
  let claims ← Stmt.orThrow (db.claims.update? id f hf) .recordNotFound
  set { db with claims }
  Stmt.orThrow (claims.find? id) .recordNotFound

/-- `CatalogOrder.stripePaymentIntentId` is unique. -/
def uniqueCatalogPayment (id : CatalogOrderId) (pi : PaymentIntentId) : CatalogTx Unit := do
  let db ← get
  Stmt.throwIf (db.orders.rows.any fun o => o.id ≠ id && o.stripePaymentIntentId = some pi)
    .uniqueViolation

/-- Awaits a write that may fail, and may fail to answer. -/
def attempt {α : Type} (site : CatalogSite) (stmt : CatalogTx α) : CatalogHandler α := do
  let result ← await site fun answer => do
    Stmt.throwIf (¬answer.ok) .database
    let a ← stmt
    return if answer.heard then some a else none
  orThrow result .database

/-! ## `CatalogService` -/

structure CreateCatalogOrderItemDto where
  productId : CatalogProductId
  quantity : Nat

structure CreateCatalogOrderDto where
  items : List CreateCatalogOrderItemDto

/-- The stored customer, if Stripe still has it. -/
def reusableCustomer (existing : Option CustomerId) : CatalogHandler (Option CustomerId) :=
  match existing with
  | some (.stripe n) => ask .stripeQuery fun answer _ => if answer.ok then some (.stripe n) else none
  | _ => return none

/-- Stripe's `customers.create`. -/
def createCustomer (answer : CatalogAnswer) : CatalogTx CustomerId := do
  Stmt.throwIf (¬answer.ok) (.internal "Stripe")
  let db ← get
  set { db with stripeNext := db.stripeNext + 1 }
  return .stripe db.stripeNext

def recordCustomer (customer : CustomerId) (u : User) : User := { u with stripeCustomerId := some customer }

/-- `User.stripeCustomerId` is unique. -/
def saveCustomer (userId : UserId) (customer : CustomerId) : CatalogTx Unit := do
  let db ← get
  Stmt.throwIf (db.users.rows.any fun u => u.id ≠ userId && u.stripeCustomerId = some customer)
    .uniqueViolation
  let users ← Stmt.orThrow (db.users.update? userId (recordCustomer customer)) .recordNotFound
  set { db with users }

/-- Reuses the seller's Stripe customer, or creates and records a new one. -/
def ensureCustomer (userId : UserId) (existing : Option CustomerId) : CatalogHandler CustomerId := do
  let reusable ← reusableCustomer existing
  match reusable with
  | some customer => return customer
  | none => do
    let customer ← await (.createCustomer userId) createCustomer
    await (.saveCustomer userId) fun _ => saveCustomer userId customer
    return customer

/-- The line of a product in an order; its id is the `i`-th of the order's lines. -/
def lineItem (me i : Nat) (wanted : List (CatalogProductId × Nat)) (p : CatalogProduct) :
    CatalogOrderItem :=
  let quantity := ((wanted.find? fun w => w.1 = p.id).map Prod.snd).getD 0
  ⟨generateUlid me (i + 1), p.id, p.name, p.priceCents, quantity, p.priceCents * quantity⟩

def newOrder (me : Nat) (sellerId : UserId) (lineItems : List CatalogOrderItem) (currency : String)
    (now : Time) : CatalogOrder where
  id := generateUlid me 0
  sellerId
  status := .pending
  totalCents := (lineItems.map CatalogOrderItem.lineTotalCents).sum
  currency
  stripePaymentIntentId := none
  stripeRefundId := none
  createdAt := now
  paidAt := none
  items := lineItems

def insertOrder (me : Nat) (sellerId : UserId) (lineItems : List CatalogOrderItem) (currency : String) :
    CatalogTx CatalogOrder := do
  let db ← get
  let order := newOrder me sellerId lineItems currency db.now
  let orders ← Stmt.orThrow (db.orders.insert? order) .uniqueViolation
  set { db with orders }
  return order

/-- Stripe's `paymentIntents.create`: the new id and its client secret. -/
def createPaymentIntent (orderId : CatalogOrderId) (amount : Cents) (customer : CustomerId)
    (answer : CatalogAnswer) : CatalogTx (PaymentIntentId × String) := do
  Stmt.throwIf (¬answer.ok) (.internal "Stripe")
  let db ← get
  let id := PaymentIntentId.stripe db.stripeNext
  let payments ← Stmt.orThrow
    (db.payments.insert? ⟨id, amount, customer, orderId, .requiresPaymentMethod⟩) (.internal "Stripe")
  set { db with payments, stripeNext := db.stripeNext + 1 }
  return (id, answer.token)

/-- Records the PaymentIntent on the order. -/
def savePaymentIntent (orderId : CatalogOrderId) (pi : PaymentIntentId) : CatalogTx Unit := do
  uniqueCatalogPayment orderId pi
  updateCatalogOrder orderId fun o => { o with stripePaymentIntentId := some pi }

structure CatalogCheckout where
  orderId : CatalogOrderId
  clientSecret : String
  totalCents : Cents
  currency : String

/-- The products of a cart, which must all be on sale, in one currency. -/
def loadProducts (wanted : List (CatalogProductId × Nat)) :
    CatalogHandler (List CatalogProduct × String) := do
  let products ← read .query fun db => db.products.rows.filter fun p =>
    p.id ∈ wanted.map Prod.fst && p.deletedAt.isNone && p.isActive
  throwIf (products.length ≠ wanted.length) (.badRequest "One or more products are unavailable")
  throwIf (1 < (products.map CatalogProduct.currency).dedup.length)
    (.badRequest "Cannot mix products of different currencies")
  -- `products[0].currency`; the request has at least one item
  let first ← orThrow products.head? (.internal "Cannot read properties of undefined")
  return (products, first.currency)

/-- Creates a pending order and its PaymentIntent. -/
def createOrder (me : Nat) (supabaseId : String) (dto : CreateCatalogOrderDto) :
    CatalogHandler CatalogCheckout := do
  let seller ← read .query fun db => db.userBySupabaseId supabaseId
  let seller ← orThrow seller (.notFound "User profile not found")
  throwIf (seller.role ≠ .seller) (.forbidden "Only sellers can purchase from the catalog")
  let wanted := Orders.quantityByListing (dto.items.map fun i => (i.productId, i.quantity))
  let (products, currency) ← loadProducts wanted
  let lineItems := products.mapIdx fun i p => lineItem me i wanted p
  let order ← await (.createOrder (generateUlid me 0)) fun _ => insertOrder me seller.id lineItems currency
  let customer ← ensureCustomer seller.id seller.stripeCustomerId
  let (pi, clientSecret) ← await (.createPaymentIntent order.id)
    (createPaymentIntent order.id order.totalCents customer)
  await (.savePaymentIntent order.id) fun _ => savePaymentIntent order.id pi
  return ⟨order.id, clientSecret, order.totalCents, currency⟩

def markOrderPaid (now : Time) (o : CatalogOrder) : CatalogOrder :=
  { o with status := .paid, paidAt := some now }

/-- Server-verified confirm: reads the PaymentIntent again and flips the order to PAID when
Stripe says that it succeeded. -/
def confirmPayment (supabaseId : String) (orderId : CatalogOrderId) : CatalogHandler CatalogOrder := do
  let seller ← read .query fun db => db.userBySupabaseId supabaseId
  let seller ← orThrow seller (.notFound "User profile not found")
  let order ← read .query fun db => db.orders.find? orderId
  let order ← orThrow (order.filter fun o => o.sellerId = seller.id) (.notFound "Order not found")
  if order.status = .paid then
    return order
  else
    let pi ← orThrow order.stripePaymentIntentId (.badRequest "Order has no payment")
    let payment ← read .stripeQuery fun db => db.payments.find? pi
    let payment ← orThrow payment (.internal "No such payment_intent")
    throwIf (payment.status ≠ .succeeded) (.badRequest "Payment not completed")
    await (.confirmPayment orderId) fun _ => do
      let db ← get
      updateCatalogOrder orderId (markOrderPaid db.now)
    let updated ← read .query fun db => db.orders.find? orderId
    orThrow updated .recordNotFound

/-! ## The webhooks -/

/-- A PaymentIntent in an event, with its metadata. -/
structure CatalogPaymentEvent where
  id : PaymentIntentId
  type : Option String
  catalogOrderId : Option CatalogOrderId

inductive PaymentEventKind where
  | succeeded | paymentFailed | canceled
  deriving DecidableEq, Repr

/-- The order that the metadata names, or else the one that has the PaymentIntent. -/
def catalogOrderIdFor (db : CatalogDb) (pi : CatalogPaymentEvent) : Option CatalogOrderId :=
  match pi.catalogOrderId with
  | some id => some id
  | none => (db.orders.rows.find? fun o => o.stripePaymentIntentId = some pi.id).map CatalogOrder.id

def pendingOrder (id : CatalogOrderId) (o : CatalogOrder) : Bool := o.id = id && o.status = .pending

/-- `updateMany` on the order while it is PENDING. -/
def paidByWebhook (id : CatalogOrderId) (pi : PaymentIntentId) : CatalogTx Unit := do
  let db ← get
  if db.orders.rows.any (pendingOrder id) then
    uniqueCatalogPayment id pi
    set { db with orders := db.orders.updateMany (pendingOrder id) fun o =>
      { markOrderPaid db.now o with stripePaymentIntentId := some pi } }

@[inherit_doc paidByWebhook]
def failedByWebhook (id : CatalogOrderId) : CatalogTx Unit :=
  modify fun db => { db with orders := db.orders.updateMany (pendingOrder id) fun o =>
    { o with status := .failed } }

def markCatalogOrderPaid (pi : CatalogPaymentEvent) : CatalogHandler Unit := do
  let id ← read .query fun db => catalogOrderIdFor db pi
  match id with
  | none => return ()
  | some id => await (.markPaid id) fun _ => paidByWebhook id pi.id

def markCatalogOrderFailed (pi : CatalogPaymentEvent) : CatalogHandler Unit := do
  let id ← read .query fun db => catalogOrderIdFor db pi
  match id with
  | none => return ()
  | some id => await (.markFailed id) fun _ => failedByWebhook id

/-- The catalog branch of the payment events; the other PaymentIntents are those of the
marketplace's orders. -/
def handlePaymentEvent (kind : PaymentEventKind) (pi : CatalogPaymentEvent) : CatalogHandler Unit :=
  if pi.type = some "catalog_order" then
    match kind with
    | .succeeded => markCatalogOrderPaid pi
    | .paymentFailed | .canceled => markCatalogOrderFailed pi
  else
    return ()

/-! ## `CatalogClaimsService` -/

def claimWindowMs : Nat := 14 * 24 * 60 * 60 * 1000

/-- Statuses that block a second claim of the same type. -/
def openClaimStatuses : List CatalogClaimStatus := [.open, .adminReview, .replacementRequested]

/-- Best effort: however the push ends, the claim goes on. -/
def safeNotify (userId : UserId) (claimId : CatalogClaimId) (title : String)
    (status : CatalogClaimStatus) : CatalogHandler Unit :=
  ask (.notify userId claimId title status) fun _ _ => ()

structure CreateCatalogClaimDto where
  type : CatalogClaimType
  description : String
  photoUrls : Option (List String)

def newClaim (id : CatalogClaimId) (orderId : CatalogOrderId) (sellerId : UserId)
    (dto : CreateCatalogClaimDto) (now : Time) : CatalogClaim where
  id
  catalogOrderId := orderId
  sellerId
  type := dto.type
  status := .open
  description := dto.description
  photoUrls := dto.photoUrls.getD []
  adminNotes := none
  refundAmountCents := none
  replacementNotes := none
  stripeRefundId := none
  createdAt := now
  resolvedAt := none

def insertClaim (id : CatalogClaimId) (orderId : CatalogOrderId) (sellerId : UserId)
    (dto : CreateCatalogClaimDto) : CatalogTx CatalogClaim := do
  let db ← get
  let claim := newClaim id orderId sellerId dto db.now
  let claims ← Stmt.orThrow (db.claims.insert? claim) .uniqueViolation
  set { db with claims }
  return claim

/-- Opens a claim on the seller's own order, within 14 days of the payment. -/
def createClaim (me : Nat) (supabaseId : String) (orderId : CatalogOrderId)
    (dto : CreateCatalogClaimDto) : CatalogHandler CatalogClaim := do
  let seller ← read .query fun db => db.userBySupabaseId supabaseId
  let seller ← orThrow seller (.notFound "User profile not found")
  let (order, now) ← read .query fun db => (db.orders.find? orderId, db.now)
  let order ← orThrow order (.notFound "Commande catalogue introuvable")
  throwIf (order.sellerId ≠ seller.id)
    (.forbidden "Cette commande catalogue ne vous appartient pas")
  throwIf (order.status ≠ .paid) (.badRequest "Commande catalogue non éligible à une réclamation")
  throwIf (now - order.paidAt.getD order.createdAt > claimWindowMs)
    (.badRequest "La fenêtre de réclamation de 14 jours est dépassée")
  let existing ← read .query fun db => db.claims.rows.any fun k =>
    k.catalogOrderId = orderId && k.type = dto.type && k.status ∈ openClaimStatuses
  throwIf existing (.badRequest "Une réclamation est déjà ouverte pour cette commande")
  let claim ← await (.createClaim (generateUlid me 0)) fun _ =>
    insertClaim (generateUlid me 0) orderId seller.id dto
  safeNotify seller.id claim.id "Réclamation enregistrée" .open
  return claim

def getClaimOrThrow (id : CatalogClaimId) : CatalogHandler CatalogClaim := do
  let claim ← read .query fun db => db.claims.find? id
  orThrow claim (.notFound "Réclamation introuvable")

/-- The texts that are not empty, joined. -/
def appendNote (existing note : Option String) (tag : String) : String :=
  " · ".intercalate ([existing, note, some tag].filterMap truthy)

structure CatalogClaimRefundDto where
  refundAmountCents : Option Cents
  notes : Option String

structure CatalogClaimActionDto where
  notes : Option String
  replacementNotes : Option String

/-- Stripe's `refunds.create` under a claim's key. A key that has been used answers with
its first refund; a new one refunds a charge that has succeeded and has that much left. -/
def createRefund (claimId : CatalogClaimId) (pi : PaymentIntentId) (amount : Cents) :
    CatalogTx RefundId := do
  let db ← get
  match db.refunds.find? claimId with
  | some r => do
    Stmt.throwIf (r.paymentIntent ≠ pi ∨ r.amount ≠ amount)
      (.internal "Keys for idempotent requests can only be used with the same parameters")
    return r.id
  | none => do
    Stmt.throwIf (¬(db.payments.find? pi).any fun p => p.status = .succeeded &&
        db.refundedCents pi + amount ≤ p.amount)
      (.internal "Refund amount is greater than the unrefunded amount on the charge")
    let id : RefundId := ⟨db.stripeNext⟩
    let refunds ← Stmt.orThrow (db.refunds.insert? ⟨id, claimId, pi, amount⟩) (.internal "Stripe")
    set { db with refunds, stripeNext := db.stripeNext + 1 }
    return id

/-- The claim once it is refunded. -/
def refundedClaim (read : CatalogClaim) (dto : CatalogClaimRefundDto) (amountCents : Cents)
    (refund : RefundId) (now : Time) (k : CatalogClaim) : CatalogClaim :=
  { k with
    status := .refunded
    refundAmountCents := some amountCents
    stripeRefundId := some refund
    adminNotes := dto.notes.or read.adminNotes
    resolvedAt := some now }

def notifyDecision (claim : CatalogClaim) (title : String) (status : CatalogClaimStatus) :
    CatalogHandler Unit :=
  safeNotify claim.sellerId claim.id title status

/-- Refunds the payment and marks the order, then the claim. -/
def refundPayment (claim : CatalogClaim) (orderId : CatalogOrderId) (pi : PaymentIntentId)
    (amountCents : Cents) (dto : CatalogClaimRefundDto) : CatalogHandler CatalogClaim := do
  let refund ← attempt (.createRefund claim.id) (createRefund claim.id pi amountCents)
  attempt (.refundOrder orderId) (updateCatalogOrder orderId fun o =>
    { o with status := .refunded, stripeRefundId := some refund })
  let updated ← attempt (.updateClaim claim.id .refunded) (do
    let db ← get
    updateCatalogClaim claim.id (refundedClaim claim dto amountCents refund db.now))
  notifyDecision claim "Réclamation remboursée" .refunded
  return updated

/-- Refunds the order's payment for a claim, once. The admin's id is only logged. -/
def adminRefund (id : CatalogClaimId) (dto : CatalogClaimRefundDto) : CatalogHandler CatalogClaim := do
  let claim ← getClaimOrThrow id
  if claim.status = .refunded ∨ claim.stripeRefundId.isSome then
    return claim
  else
    let order ← read .query fun db => db.orders.find? claim.catalogOrderId
    let order ← orThrow order (.notFound "Commande catalogue introuvable")
    throwIf (order.status = .refunded) (.badRequest "Cette commande a déjà été remboursée")
    let amountCents := dto.refundAmountCents.getD order.totalCents
    match order.stripePaymentIntentId with
    | none => attempt (.updateClaim id .adminReview) (updateCatalogClaim id fun k =>
      { k with
        status := .adminReview
        refundAmountCents := some amountCents
        adminNotes := some (appendNote claim.adminNotes dto.notes "REFUND_PENDING (manuel)") })
    | some pi => refundPayment claim order.id pi amountCents dto

/-- A decision that writes a status over the claim, whatever its status is. -/
def decideClaim (id : CatalogClaimId) (status : CatalogClaimStatus) (title : String)
    (write : CatalogClaim → Time → CatalogClaim → CatalogClaim)
    (hwrite : ∀ read now k, (write read now k).id = k.id := by intro _ _ _; exact Eq.symm rfl) :
    CatalogHandler CatalogClaim := do
  let claim ← getClaimOrThrow id
  let updated ← await (.updateClaim id status) fun _ => do
    let db ← get
    updateCatalogClaim id (write claim db.now) (hwrite claim db.now)
  notifyDecision claim title status
  return updated

def adminRequestReplacement (id : CatalogClaimId) (dto : CatalogClaimActionDto) :
    CatalogHandler CatalogClaim :=
  decideClaim id .replacementRequested "Remplacement demandé" fun claim _ k =>
    { k with
      status := .replacementRequested
      replacementNotes := (dto.replacementNotes.or dto.notes).or claim.replacementNotes
      adminNotes := dto.notes.or claim.adminNotes }

def adminReject (id : CatalogClaimId) (dto : CatalogClaimActionDto) : CatalogHandler CatalogClaim :=
  decideClaim id .rejected "Réclamation rejetée" fun claim now k =>
    { k with
      status := .rejected
      adminNotes := dto.notes.or claim.adminNotes
      resolvedAt := some now }

def adminResolve (id : CatalogClaimId) (dto : CatalogClaimActionDto) : CatalogHandler CatalogClaim :=
  decideClaim id .resolved "Réclamation résolue" fun claim now k =>
    { k with
      status := .resolved
      adminNotes := dto.notes.or claim.adminNotes
      resolvedAt := some now }

end Catalog

/-! ## The service -/

inductive CatalogCall where
  | createOrder (supabaseId : String) (dto : Catalog.CreateCatalogOrderDto)
  | confirmPayment (supabaseId : String) (orderId : CatalogOrderId)
  | paymentEvent (kind : Catalog.PaymentEventKind) (pi : Catalog.CatalogPaymentEvent)
  | createClaim (supabaseId : String) (orderId : CatalogOrderId) (dto : Catalog.CreateCatalogClaimDto)
  | adminRefund (id : CatalogClaimId) (dto : Catalog.CatalogClaimRefundDto)
  | adminRequestReplacement (id : CatalogClaimId) (dto : Catalog.CatalogClaimActionDto)
  | adminReject (id : CatalogClaimId) (dto : Catalog.CatalogClaimActionDto)
  | adminResolve (id : CatalogClaimId) (dto : Catalog.CatalogClaimActionDto)

inductive CatalogReply where
  | checkout (c : Catalog.CatalogCheckout)
  | order (o : CatalogOrder)
  | claim (k : CatalogClaim)
  | nothing

def catalogHandle (me : Nat) : CatalogCall → CatalogHandler CatalogReply
  | .createOrder sub dto => do return .checkout (← Catalog.createOrder me sub dto)
  | .confirmPayment sub o => do return .order (← Catalog.confirmPayment sub o)
  | .paymentEvent kind pi => do
    Catalog.handlePaymentEvent kind pi
    return .nothing
  | .createClaim sub o dto => do return .claim (← Catalog.createClaim me sub o dto)
  | .adminRefund id dto => do return .claim (← Catalog.adminRefund id dto)
  | .adminRequestReplacement id dto => do return .claim (← Catalog.adminRequestReplacement id dto)
  | .adminReject id dto => do return .claim (← Catalog.adminReject id dto)
  | .adminResolve id dto => do return .claim (← Catalog.adminResolve id dto)

/-- Time passes, or a PaymentIntent moves at Stripe. -/
inductive CatalogEvent where
  | wait (ms : Nat)
  | payment (pi : PaymentIntentId) (status : PaymentIntentStatus)

/-- A PaymentIntent that has succeeded or was canceled keeps its status, a refund or not. -/
def CatalogPayment.final (p : CatalogPayment) : Bool :=
  p.status = .succeeded || p.status = .canceled

def applyCatalogEvent : CatalogEvent → CatalogDb → CatalogDb
  | .wait ms, db => { db with now := db.now + ms }
  | .payment pi status, db => { db with
      payments := db.payments.updateMany (fun p => p.id = pi && !p.final) fun p => { p with status } }

def catalogService : Service catalogMachine where
  Call := CatalogCall
  Reply := CatalogReply
  Event := CatalogEvent
  handle := catalogHandle
  admits := fun _ _ => true
  event := applyCatalogEvent

end IncaCook
