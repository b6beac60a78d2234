import IncaCook.Library.Runs
import IncaCook.Model.Database
import IncaCook.Model.Strikes

/-!
# Push notifications

A user's devices register their tokens, and what happens to an order is pushed to the devices of
those whom it concerns. Tokens change hands when somebody else logs in on a device, and Firebase
reports the ones that are dead, which are then deleted.

A dispatch reads the tokens first and sends to one after another, while users log in and out and
other dispatches go on. Firebase may deliver a push, refuse it, or call the token invalid.

`delivered` and `refused` record what Firebase did: the pushes it took, and the tokens it has ever
called invalid.
-/

namespace IncaCook

open Prog

/-! ## Rows -/

inductive DevicePlatform where
  | android | ios | web
  deriving DecidableEq

structure DeviceToken where
  id : Ulid
  token : String
  platform : DevicePlatform
  userId : UserId
  deriving DecidableEq

instance : Keyed DeviceToken Ulid := ⟨DeviceToken.id⟩

/-- The `data` of a push: that of an event of an order, or whatever the caller sends along. -/
inductive PushData where
  | event (type : String) (orderId : OrderId) (deliveryId : Option DeliveryId)
  | custom (data : List (String × String))
  deriving DecidableEq

structure Push where
  title : String
  body : String
  data : PushData
  deriving DecidableEq

structure PushDb where
  users : Table User
  orders : Table Order
  /-- the drivers with `isOnline` -/
  online : List UserId
  deviceTokens : Table DeviceToken
  delivered : List (String × Push)
  refused : List String

namespace PushDb

def userBySupabaseId (db : PushDb) (supabaseId : String) : Option User :=
  db.users.rows.find? fun u => u.supabaseId = supabaseId

/-- `deviceToken.findUnique({ where: { token } })` -/
def rowOf (db : PushDb) (token : String) : Option DeviceToken :=
  db.deviceTokens.rows.find? fun r => r.token = token

/-- The tokens of a set of users, with their ids. -/
def tokensOf (db : PushDb) (users : List UserId) : List (Ulid × String) :=
  (db.deviceTokens.rows.filter fun r => r.userId ∈ users).map fun r => (r.id, r.token)

end PushDb

/-- What Firebase makes of a push. -/
inductive FcmAnswer where
  | delivered
  | error (code : String)
  deriving DecidableEq

structure PushAnswer where
  /-- the database carries the statement out -/
  ok : Bool
  fcm : FcmAnswer

inductive PushSite where
  | query
  | readTokens (users : List UserId)
  | register (token : String) (u : UserId)
  | remove (token : String) (u : UserId)
  | send (token : String) (push : Push)
  | prune (ids : List Ulid)
  deriving DecidableEq

abbrev pushMachine : Machine := ⟨PushDb, PushAnswer, PushSite, Err⟩

abbrev PushHandler (α : Type) := Prog pushMachine α

abbrev PushTx (α : Type) := StateT PushDb (Except Err) α

/-! ## The table of tokens -/

namespace DeviceTokens

structure RegisterDeviceTokenDto where
  token : String
  platform : DevicePlatform

def resolveUserId (supabaseId : String) : PushHandler UserId := do
  let user ← read .query fun db => db.userBySupabaseId supabaseId
  let user ← orThrow user (.notFound "User profile not found")
  return user.id

/-- The row, pointed at the user. -/
def pointedAt (dto : RegisterDeviceTokenDto) (userId : UserId) (r : DeviceToken) : DeviceToken :=
  { r with platform := dto.platform, userId := userId }

/-- `deviceToken.upsert({ where: { token } })`: a token that is there is pointed at the user. -/
def upsertToken (me : Nat) (dto : RegisterDeviceTokenDto) (userId : UserId) : PushTx Unit := do
  let db ← get
  match db.rowOf dto.token with
  | some row =>
    set { db with deviceTokens := db.deviceTokens.update row.id (pointedAt dto userId) }
  | none =>
    let deviceTokens ← Stmt.orThrow
      (db.deviceTokens.insert? ⟨generateUlid me 0, dto.token, dto.platform, userId⟩) .uniqueViolation
    set { db with deviceTokens }

def register (me : Nat) (supabaseId : String) (dto : RegisterDeviceTokenDto) : PushHandler Unit := do
  let userId ← resolveUserId supabaseId
  await (.register dto.token userId) fun _ => upsertToken me dto userId

/-- Only the caller's own; a token that is missing is none. -/
def remove (supabaseId token : String) : PushHandler Unit := do
  let userId ← resolveUserId supabaseId
  await (.remove token userId) fun _ => modify fun db =>
    { db with deviceTokens := db.deviceTokens.removeMany fun r => r.token = token && r.userId = userId }

def listTokensForUser (userId : UserId) : PushHandler (List String) := do
  let rows ← read (.readTokens [userId]) fun db => db.tokensOf [userId]
  return rows.map Prod.snd

def tokensForUsers (userIds : List UserId) : PushHandler (List (Ulid × String)) :=
  if userIds = [] then return []
  else read (.readTokens userIds) fun db => db.tokensOf userIds

def deleteByIds (ids : List Ulid) : PushHandler Nat :=
  if ids = [] then return 0
  else await (.prune ids) fun answer => do
    let db ← get
    Stmt.throwIf (answer.ok = false) .database
    set { db with deviceTokens := db.deviceTokens.removeMany fun r => decide (r.id ∈ ids) }
    return (db.deviceTokens.rows.filter fun r => r.id ∈ ids).length

end DeviceTokens

/-! ## Firebase -/

namespace Fcm

/-- The codes of a token that is dead. -/
def invalidCodes : List String :=
  ["messaging/registration-token-not-registered", "messaging/invalid-registration-token",
    "messaging/invalid-argument"]

structure SendResult where
  delivered : Bool
  invalidToken : Bool
  deriving DecidableEq

def resultOf : FcmAnswer → SendResult
  | .delivered => ⟨true, false⟩
  | .error code => ⟨false, decide (code ∈ invalidCodes)⟩

/-- What Firebase has on record after a push. -/
def recordSend (token : String) (push : Push) (result : SendResult) (db : PushDb) : PushDb :=
  { db with
    delivered := if result.delivered then (token, push) :: db.delivered else db.delivered
    refused := if result.invalidToken then token :: db.refused else db.refused }

/-- Without credentials nothing is sent. -/
def sendToTokenWithResult (ready : Bool) (token : String) (push : Push) : PushHandler SendResult :=
  if ready then
    await (.send token push) fun answer => do
      modify (recordSend token push (resultOf answer.fcm))
      return resultOf answer.fcm
  else return ⟨false, false⟩

/-- A failure is logged. -/
def sendToToken (ready : Bool) (token : String) (push : Push) : PushHandler Unit := do
  let _ ← sendToTokenWithResult ready token push

end Fcm

/-! ## Notifications -/

namespace Notifications

open DeviceTokens Fcm

inductive OrderStatusEvent where
  | orderPreparing | orderReady | orderCancelled
  deriving DecidableEq

/-- `ORDER_STATUS_COPY`, with the key -/
def OrderStatusEvent.copy : OrderStatusEvent → String × String × String
  | .orderPreparing => ("order_preparing", "Commande en préparation", "Votre commande est en cours de préparation.")
  | .orderReady => ("order_ready", "Commande prête", "Votre commande est prête.")
  | .orderCancelled => ("order_cancelled", "Commande annulée", "Votre commande a été annulée.")

inductive DeliveryEvent where
  | deliveryAssigned | driverAtPickup | orderPickedUp | deliveryCompleted
  deriving DecidableEq

/-- `DELIVERY_EVENT_COPY`, with the key -/
def DeliveryEvent.copy : DeliveryEvent → String × String × String
  | .deliveryAssigned => ("delivery_assigned", "Livreur assigné", "Un livreur a été assigné à votre commande.")
  | .driverAtPickup => ("driver_at_pickup", "Le livreur est arrivé", "Le livreur est arrivé chez le vendeur.")
  | .orderPickedUp => ("order_picked_up", "Commande récupérée", "Votre commande est en route.")
  | .deliveryCompleted => ("delivery_completed", "Commande livrée", "Votre commande a été livrée.")

structure Audience where
  buyer : Bool
  seller : Bool
  deriving DecidableEq

/-- Sends to the tokens one after another. -/
def sendEach (ready : Bool) (push : Push) : List (Ulid × String) → PushHandler (List (Ulid × SendResult))
  | [] => return []
  | (id, token) :: rest => do
    let result ← sendToTokenWithResult ready token push
    let results ← sendEach ready push rest
    return (id, result) :: results

def invalidIds (results : List (Ulid × SendResult)) : List Ulid :=
  (results.filter fun r => !r.2.delivered && r.2.invalidToken).map Prod.fst

/-- One push for each token of the users; an error is logged. -/
def dispatch (ready : Bool) (userIds : List UserId) (push : Push) : PushHandler Unit :=
  tryCatch (do
    let tokens ← tokensForUsers userIds.eraseDups
    let results ← sendEach ready push tokens
    let _ ← deleteByIds (invalidIds results)) fun _ => return ()

structure BulkResult where
  tokensFound : Nat
  sent : Nat
  failed : Nat
  invalidRemoved : Nat
  deriving DecidableEq

def sendToUsers (ready : Bool) (userIds : List UserId) (push : Push) : PushHandler BulkResult := do
  let tokens ← tokensForUsers userIds
  if tokens = [] then return ⟨0, 0, 0, 0⟩
  else
    let results ← sendEach ready push tokens
    let invalidRemoved ← deleteByIds (invalidIds results)
    return ⟨tokens.length, results.countP fun r => r.2.delivered, results.countP fun r => !r.2.delivered,
      invalidRemoved⟩

/-- Sends to the tokens of one user and keeps them all. -/
def sendToUser (ready : Bool) (userId : UserId) (push : Push) : PushHandler Nat := do
  let tokens ← listTokensForUser userId
  tokens.forM fun token => sendToToken ready token push
  return tokens.length

structure TestNotificationResult where
  fcmReady : Bool
  tokens : Nat
  sent : Nat
  deriving DecidableEq

def sendTestToUser (ready : Bool) (supabaseId : String) : PushHandler TestNotificationResult := do
  let userId ← resolveUserId supabaseId
  let tokens ← sendToUser ready userId ⟨"IncaCook", "Test notification ✅", .custom [("type", "TEST")]⟩
  return ⟨ready, tokens, if ready then tokens else 0⟩

def notifyOrderPaid (ready : Bool) (sellerUserId : UserId) (orderId : OrderId) : PushHandler Unit :=
  tryCatch (do
    let _ ← sendToUser ready sellerUserId ⟨"Nouvelle commande payée", "Vous avez reçu une nouvelle commande.",
      .event "order_paid" orderId none⟩) fun _ => return ()

def orderBuyerId (orderId : OrderId) : PushHandler (Option UserId) :=
  read .query fun db => (db.orders.find? orderId).map Order.buyerId

def orderParties (orderId : OrderId) : PushHandler (Option (UserId × UserId)) :=
  read .query fun db => (db.orders.find? orderId).map fun o => (o.buyerId, o.sellerId)

def notifyOrderStatus (ready : Bool) (orderId : OrderId) (event : OrderStatusEvent) : PushHandler Unit := do
  let buyerId ← orderBuyerId orderId
  match buyerId with
  | none => return ()
  | some buyerId =>
    let (type, title, body) := event.copy
    dispatch ready [buyerId] ⟨title, body, .event type orderId none⟩

def notifyDeliveryEvent (ready : Bool) (orderId : OrderId) (deliveryId : DeliveryId) (event : DeliveryEvent)
    (audience : Audience) : PushHandler Unit := do
  let parties ← orderParties orderId
  match parties with
  | none => return ()
  | some (buyerId, sellerId) =>
    let ids := (if audience.buyer then [buyerId] else []) ++ if audience.seller then [sellerId] else []
    let (type, title, body) := event.copy
    dispatch ready ids ⟨title, body, .event type orderId (some deliveryId)⟩

/-- Every driver who is online. -/
def notifyDeliveryAvailable (ready : Bool) (orderId : OrderId) (deliveryId : DeliveryId) : PushHandler Unit := do
  let drivers ← read .query fun db => db.online
  dispatch ready drivers ⟨"Nouvelle livraison disponible", "Une livraison est disponible près de vous.",
    .event "delivery_available" orderId (some deliveryId)⟩

end Notifications

/-! ## The service -/

inductive PushCall where
  | register (supabaseId : String) (dto : DeviceTokens.RegisterDeviceTokenDto)
  | remove (supabaseId token : String)
  | sendTestToUser (supabaseId : String)
  | sendToUsers (userIds : List UserId) (push : Push)
  | notifyOrderPaid (sellerUserId : UserId) (orderId : OrderId)
  | notifyOrderStatus (orderId : OrderId) (event : Notifications.OrderStatusEvent)
  | notifyDeliveryEvent (orderId : OrderId) (deliveryId : DeliveryId) (event : Notifications.DeliveryEvent)
      (audience : Notifications.Audience)
  | notifyDeliveryAvailable (orderId : OrderId) (deliveryId : DeliveryId)

inductive PushReply where
  | nothing
  | test (result : Notifications.TestNotificationResult)
  | bulk (result : Notifications.BulkResult)
  deriving DecidableEq

/-- `ready` says whether Firebase is set up. -/
def pushHandle (ready : Bool) (me : Nat) : PushCall → PushHandler PushReply
  | .register sub dto => do
    DeviceTokens.register me sub dto
    return .nothing
  | .remove sub token => do
    DeviceTokens.remove sub token
    return .nothing
  | .sendTestToUser sub => do return .test (← Notifications.sendTestToUser ready sub)
  | .sendToUsers users push => do return .bulk (← Notifications.sendToUsers ready users push)
  | .notifyOrderPaid seller o => do
    Notifications.notifyOrderPaid ready seller o
    return .nothing
  | .notifyOrderStatus o event => do
    Notifications.notifyOrderStatus ready o event
    return .nothing
  | .notifyDeliveryEvent o d event audience => do
    Notifications.notifyDeliveryEvent ready o d event audience
    return .nothing
  | .notifyDeliveryAvailable o d => do
    Notifications.notifyDeliveryAvailable ready o d
    return .nothing

inductive PushEvent where
  | user (u : User)
  | order (o : Order)
  | online (drivers : List UserId)

/-- Accounts and orders are added, and drivers go online and offline. -/
def applyPushEvent : PushEvent → PushDb → PushDb
  | .user u, db => { db with users := (db.users.insert? u).getD db.users }
  | .order o, db => { db with orders := (db.orders.insert? o).getD db.orders }
  | .online drivers, db => { db with online := drivers }

def pushService (ready : Bool) : Service pushMachine where
  Call := PushCall
  Reply := PushReply
  Event := PushEvent
  handle := pushHandle ready
  admits := fun _ _ => true
  event := applyPushEvent

end IncaCook
