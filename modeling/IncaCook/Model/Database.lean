import IncaCook.Library.Statement
import IncaCook.Model.Types

/-!
# The shared state and its statements

`Db` is everything the handlers share: the database's tables, Stripe's records,
and the clock. A handler is a program over it (`Handler`); each statement it
awaits is one atomic step, and a `$transaction` is one step as well, rolled back
when it throws. The environment answers a step with an `Answer`: whether the
remote call or the guarded statement goes through, and a random string where the
code draws one.

`update` of a missing row raises Prisma's P2025, a unique violation P2002.
-/

namespace IncaCook

/-- What the services read from the process environment. -/
structure Config where
  /-- `process.env.NODE_ENV === 'development'` -/
  development : Bool
  deliveryFeeCents : Nat
  platformBuyerFeeBps : Nat
  walletReleaseHours : Nat

/-- The errors a handler raises, with the texts of the source. -/
inductive Err where
  | notFound (message : String)
  | badRequest (message : String)
  | forbidden (message : String)
  | conflict (message : String)
  | serviceUnavailable (message : String)
  /-- `DomainException` with code `INCACOOK_PAYOUT_SETUP_REQUIRED`, status 403 -/
  | payoutSetupRequired (message : String)
  /-- P2025: the row to update does not exist -/
  | recordNotFound
  /-- P2002: a unique column already has the value -/
  | uniqueViolation
  /-- an `Error` that no caller expects -/
  | internal (message : String)
  /-- the database did not carry out the statement -/
  | database
  deriving DecidableEq, Repr

structure Db where
  now : Time
  users : Table User
  sellerProfiles : Table SellerProfile
  driverProfiles : Table DriverProfile
  listings : Table Listing
  addOns : Table ListingAddOn
  addresses : Table Address
  orders : Table Order
  deliveries : Table Delivery
  walletEntries : Table WalletEntry
  disputes : Table OrderDispute
  strikes : Table Strike
  paymentIntents : Table PaymentIntent
  refunds : Table StripeRefund
  transfers : Table StripeTransfer
  /-- the next number Stripe gives out -/
  stripeNext : Nat

/-- The environment's answer to one step. -/
structure Answer where
  /-- a Stripe call, or a statement the code guards with `try`, goes through -/
  ok : Bool
  /-- a random token, order code or client secret -/
  token : String
  /-- the text of a remote error -/
  message : String
  deriving DecidableEq, Repr

/-- The statements of the services. A site names the statement and the rows it
is about; statements that only read share `query`. -/
inductive Site where
  | query
  | stripeQuery
  | createCustomer (u : UserId)
  | saveCustomer (u : UserId)
  | createAddress (a : AddressId)
  | placeOrder (o : OrderId)
  | createPaymentIntent (o : OrderId)
  | savePaymentIntent (o : OrderId)
  | confirmPayment (o : OrderId)
  | paymentSucceeded (o : OrderId)
  | paymentFailed (o : OrderId)
  | chargeback (o : OrderId)
  | transitionAsSeller (o : OrderId) (target : OrderStatus)
  | markReady (o : OrderId) (choice : FulfillmentChoice)
  | mintPickupToken (d : DeliveryId)
  | mintDeliveryToken (d : DeliveryId)
  | noDriverTimeout (o : OrderId)
  | switchToPickup (o : OrderId)
  | cancelNoDriver (o : OrderId) (restores : Bool)
  | cancelSellerUnavailable (o : OrderId) (restores : Bool)
  | sellerCannotProvide (o : OrderId) (restores : Bool)
  | driverDisappeared (d : DeliveryId) (o : OrderId)
  | reverseDriverEarning (o : OrderId)
  | createRefund (o : OrderId)
  | saveRefund (o : OrderId)
  | reversePending (o : OrderId)
  | pickedUpByBuyer (o : OrderId)
  | deliveredByDriver (o : OrderId)
  | creditCompleted (o : OrderId)
  | compensateDriver (o : OrderId)
  | creditSeller (o : OrderId)
  | driverDebt (o : OrderId)
  | cancelAsSeller (o : OrderId)
  | createDispute (o : OrderId)
  | refundDispute (o : OrderId)
  | updateDispute (id : DisputeId)
  | approveDriverKyc (u : UserId)
  | claim (d : DeliveryId) (driver : UserId)
  | transition (d : DeliveryId) (target : DeliveryStatus)
  | confirmPickup (d : DeliveryId) (driver : UserId)
  | confirmDelivery (d : DeliveryId) (driver : UserId)
  | confirmAbsentDropoff (d : DeliveryId) (driver : UserId)
  | reportSellerUnavailable (d : DeliveryId) (driver : UserId)
  | releaseDue
  | reverseDue
  | readAvailable (u : UserId)
  | createTransfer (u : UserId) (w : WithdrawalId) (entries : List WalletEntryId)
  | settle (u : UserId) (w : WithdrawalId) (entries : List WalletEntryId)
  | createStrike (u : UserId)
  | suspendUser (u : UserId)
  deriving DecidableEq, Repr

abbrev machine : Machine := ⟨Db, Answer, Site, Err⟩

/-- The program of a handler. -/
abbrev Handler (α : Type) := Prog machine α

/-- A statement, or the statements of one transaction. -/
abbrev Tx (α : Type) := StateT Db (Except Err) α

/-! ## Reading -/

namespace Db

def userBySupabaseId (db : Db) (supabaseId : String) : Option User :=
  db.users.rows.find? fun u => u.supabaseId = supabaseId

/-- The account behind a session. -/
def userIdOf (db : Db) (supabaseId : String) : Option UserId :=
  (db.userBySupabaseId supabaseId).map User.id

/-- `deliveries: { orderBy: { createdAt: 'desc' }, take: 1 }` of an order. -/
def latestDelivery (db : Db) (o : OrderId) : Option Delivery :=
  db.deliveries.rows.find? fun d => d.orderId = o

def orderStatus (db : Db) (o : OrderId) : Option OrderStatus := (db.orders.find? o).map Order.status

def orderByPaymentIntent (db : Db) (pi : PaymentIntentId) : Option Order :=
  db.orders.rows.find? fun o => o.stripePaymentIntentId = some pi

end Db

/-! ## Writing -/

/-- The result of a statement that is refused with `e` when there is none. -/
def Tx.orThrow {α : Type} (o : Option α) (e : Err) : Tx α :=
  match o with
  | some a => pure a
  | none => throw e

/-- Throws `e` when the condition holds. -/
def Tx.throwIf (c : Prop) [Decidable c] (e : Err) : Tx Unit :=
  if c then throw e else pure ()

def updateUser (id : UserId) (f : User → User)
    (hf : ∀ u, (f u).id = u.id := by intro _; exact Eq.symm rfl) : Tx Unit := do
  let users ← Tx.orThrow ((← get).users.update? id f hf) .recordNotFound
  modify fun db => { db with users }

def updateDriverProfile (id : UserId) (f : DriverProfile → DriverProfile)
    (hf : ∀ d, (f d).userId = d.userId := by intro _; exact Eq.symm rfl) : Tx Unit := do
  let driverProfiles ← Tx.orThrow ((← get).driverProfiles.update? id f hf) .recordNotFound
  modify fun db => { db with driverProfiles }

def updateOrder (id : OrderId) (f : Order → Order)
    (hf : ∀ o, (f o).id = o.id := by intro _; exact Eq.symm rfl) : Tx Unit := do
  let orders ← Tx.orThrow ((← get).orders.update? id f hf) .recordNotFound
  modify fun db => { db with orders }

def updateDelivery (id : DeliveryId) (f : Delivery → Delivery)
    (hf : ∀ d, (f d).id = d.id := by intro _; exact Eq.symm rfl) : Tx Unit := do
  let deliveries ← Tx.orThrow ((← get).deliveries.update? id f hf) .recordNotFound
  modify fun db => { db with deliveries }

def updateDispute (id : DisputeId) (f : OrderDispute → OrderDispute)
    (hf : ∀ d, (f d).id = d.id := by intro _; exact Eq.symm rfl) : Tx Unit := do
  let disputes ← Tx.orThrow ((← get).disputes.update? id f hf) .recordNotFound
  modify fun db => { db with disputes }

/-- `Order.orderNumber` and `Order.stripePaymentIntentId` are unique. -/
def createOrderRow (o : Order) : Tx Unit := do
  let db ← get
  Tx.throwIf (db.orders.rows.any fun o' => o'.orderNumber = o.orderNumber) .uniqueViolation
  let orders ← Tx.orThrow ((← get).orders.insert? o) .uniqueViolation
  modify fun db => { db with orders }

/-- Refused when another order has the PaymentIntent. -/
def uniquePaymentIntent (id : OrderId) (pi : PaymentIntentId) : Tx Unit := do
  let db ← get
  Tx.throwIf (db.orders.rows.any fun o => o.id ≠ id && o.stripePaymentIntentId = some pi)
    .uniqueViolation

/-- Refused when another delivery has the pickup token. -/
def uniquePickupToken (id : DeliveryId) (token : String) : Tx Unit := do
  let db ← get
  Tx.throwIf (db.deliveries.rows.any fun d => d.id ≠ id && d.pickupToken = some token)
    .uniqueViolation

/-- Refused when another delivery has the delivery token. -/
def uniqueDeliveryToken (id : DeliveryId) (token : String) : Tx Unit := do
  let db ← get
  Tx.throwIf (db.deliveries.rows.any fun d => d.id ≠ id && d.deliveryToken = some token)
    .uniqueViolation

def createDelivery (d : Delivery) : Tx Unit := do
  let deliveries ← Tx.orThrow ((← get).deliveries.insert? d) .uniqueViolation
  modify fun db => { db with deliveries }

def createDisputeRow (d : OrderDispute) : Tx Unit := do
  let disputes ← Tx.orThrow ((← get).disputes.insert? d) .uniqueViolation
  modify fun db => { db with disputes }

/-- `updateMany` on the wallet entries that meet `p`. -/
def updateWalletEntries (p : WalletEntry → Bool) (f : WalletEntry → WalletEntry)
    (hf : ∀ e, (f e).id = e.id := by intro _; exact Eq.symm rfl) : Tx Unit := fun db =>
  .ok ((), { db with walletEntries := db.walletEntries.updateMany p f hf })

/-- `UPDATE "Listing" SET "portionsLeft" = … WHERE "id" = … AND …`: the number of
rows updated. -/
def updateListing (id : ListingId) (p : Listing → Bool) (f : Listing → Listing)
    (hf : ∀ l, (f l).id = l.id := by intro _; exact Eq.symm rfl) : Tx Nat := fun db =>
  .ok (db.listings.rows.countP fun l => l.id = id && p l,
    { db with listings := db.listings.updateMany (fun l => l.id = id && p l) f hf })

end IncaCook
