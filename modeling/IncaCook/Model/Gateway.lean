import IncaCook.Library.Embedding
import IncaCook.Model.Deliveries
import IncaCook.Model.Realtime
import Mathlib.Order.WithBot

/-!
# The tracking gateway

`TrackingGateway` keeps the sockets of the clients. A socket comes with a token; once the
token is verified the socket is in the room of its user, and it may ask for the rooms of an
order, of a delivery and of a conversation. What arrives from Redis is emitted to a room,
and reaches the sockets that are in it.

The handlers of one socket run side by side: a client may ask for a room while its connection
is still being set up, and leave one while it is being joined. The chat service, the drivers'
positions and all the other services go on meanwhile.

`text` is how an id is written. socket.io also has a room for each socket, under the
socket's own name; nothing is emitted to it here.
-/

namespace IncaCook

open Prog

/-! ## Sockets -/

/-- A socket has the number of the call that connected it. -/
abbrev SocketId := Nat

/-- `socket.data`: the Supabase id of the verified user, and the id of the account. -/
structure SocketData where
  user : Option String
  internalUserId : Option UserId
  deriving DecidableEq

structure Socket where
  id : SocketId
  data : SocketData
  rooms : List String
  connected : Bool
  deriving DecidableEq

instance : Keyed Socket SocketId := ⟨Socket.id⟩

/-- What a client is sent: the emission that a publication led to, or an error. -/
inductive Received (Json : Type) where
  | emission (publication : Publication) (emission : Emission Json)
  | error (message : String)
  deriving DecidableEq

/-- `received` is everything that was sent to sockets, newest first, and `located` what the
drivers have published of themselves. -/
structure GatewayDb (Json : Type) extends ChatDb where
  sockets : Table Socket
  received : List (SocketId × Received Json)
  located : List (UserId × Publication)

/-- A `WsException` with its text, or one with the text of another error. -/
inductive WsError where
  | ws (message : String)
  | of (e : Err)
  deriving DecidableEq

inductive GatewaySite where
  | query
  | accept
  | setUser
  | setInternalUserId (socket : SocketId)
  | join (socket : SocketId) (room : String)
  | leave (socket : SocketId) (room : String)
  | reject
  | publishLocation (driver : UserId) (deliveryId : DeliveryId)
  | chat (site : ChatSite)
  | elsewhere (site : Site)

abbrev gatewayMachine (Json : Type) : Machine := ⟨GatewayDb Json, Answer, GatewaySite, WsError⟩

abbrev GatewayHandler (Json : Type) (α : Type) := Prog (gatewayMachine Json) α

abbrev GatewayTx (Json : Type) (α : Type) := StateT (GatewayDb Json) (Except WsError) α

variable {Json : Type}

/-- The chat service inside. -/
def chatPart : Machine.Part chatMachine (gatewayMachine Json) where
  get s := s.toChatDb
  put a s := { s with toChatDb := a }
  site := .chat
  answer i := i
  error := .of
  get_put _ _ := rfl

/-- The order and delivery services inside. -/
def gatewayOrders : Machine.Part machine (gatewayMachine Json) where
  get s := s.toDb
  put a s := { s with toDb := a }
  site := .elsewhere
  answer i := i
  error := .of
  get_put _ _ := rfl

namespace Tracking

/-- `socket.join(room)` -/
def Socket.join (room : String) (socket : Socket) : Socket :=
  { socket with rooms := room :: socket.rooms.filter fun r => r ≠ room }

/-- `socket.leave(room)` -/
def Socket.leave (room : String) (socket : Socket) : Socket :=
  { socket with rooms := socket.rooms.filter fun r => r ≠ room }

/-- `socket.disconnect(true)` -/
def Socket.disconnect (socket : Socket) : Socket := { socket with rooms := [], connected := false }

/-- A change of one socket. -/
def updateSocket (id : SocketId) (f : Socket → Socket)
    (hf : ∀ k, (f k).id = k.id := by intro _; exact Eq.symm rfl) : GatewayTx Json Unit :=
  modify fun db => { db with sockets := db.sockets.update id f hf }

/-- `socket.data` -/
def socketData (id : SocketId) : GatewayHandler Json SocketData := do
  let data ← read .query fun db => (db.sockets.find? id).map Socket.data
  orThrow data (.ws "unauthorized")

/-! ## Connecting -/

/-- What the handshake says: `auth.token`, and the `authorization` header. -/
structure Handshake where
  authToken : Option String
  authorization : Option String

def extractToken (handshake : Handshake) : Option String :=
  match truthy handshake.authToken with
  | some token => some token
  | none =>
    (handshake.authorization.filter fun header => jsStartsWith header "Bearer ").map fun header =>
      jsSlice header 7 header.length

/-- The error that a client is sent before its socket is closed. -/
def reject (id : SocketId) (message : String) : GatewayHandler Json Unit :=
  await .reject fun _ => do
    modify fun db => { db with received := (id, .error message) :: db.received }
    updateSocket id Socket.disconnect

/-- The connection as socket.io hands it over. -/
def newSocket (id : SocketId) : Socket := ⟨id, ⟨none, none⟩, [], true⟩

def accept (id : SocketId) : GatewayTx Json Unit := do
  let db ← get
  let sockets ← Stmt.orThrow (db.sockets.insert? (newSocket id)) (.of .uniqueViolation)
  set { db with sockets }

section

variable (text : Ulid → String) (verify : String → Option String)

/-- `WsJwtService.verify`: the Supabase id that a genuine token names. Its key may have to
be fetched. -/
def verifyToken (token : String) : GatewayHandler Json String := do
  let user ← ask .query fun answer _ => if answer.ok then verify token else none
  orThrow user (.of (.internal "JWT invalid"))

/-- The user of a verified token, who joins the room of the account. -/
def joinOwnRoom (me : SocketId) (token : String) : GatewayHandler Json Unit := do
  let user ← verifyToken verify token
  await .setUser fun _ => updateSocket me fun k => { k with data := { k.data with user := some user } }
  let internal ← read .query fun db => db.userIdOf user
  match internal with
  | none => return ()
  | some id => do
    await (.setInternalUserId me) fun _ =>
      updateSocket me fun k => { k with data := { k.data with internalUserId := some id } }
    await (.join me ("user:" ++ text id)) fun _ => updateSocket me (Socket.join ("user:" ++ text id))

def handleConnection (me : SocketId) (handshake : Handshake) : GatewayHandler Json Unit := do
  await .accept fun _ => accept me
  match truthy (extractToken handshake) with
  | none => reject me "unauthorized: missing token"
  | some token => tryCatch (joinOwnRoom text verify me token) fun _ => reject me "unauthorized"

end

/-! ## Rooms -/

/-- A text in a body as the client wrote it. -/
def idText (text : Ulid → String) : IdText → String
  | .ulid id => text id
  | .other t => t

/-- `{ orderId?: string; deliveryId?: string }` -/
structure SubscribeBody where
  orderId : Option IdText
  deliveryId : Option IdText

structure Subscribed where
  orderId : OrderId
  deliveryId : Option DeliveryId
  deriving DecidableEq

/-- The order that a subscription is about, with its buyer. -/
structure ResolvedOrder extends Subscribed where
  buyerId : UserId

/-- The delivery's order, or the order with any delivery of it. -/
def resolveOrder (orderIdIn deliveryIdIn : Option IdText) : GatewayHandler Json ResolvedOrder :=
  match deliveryIdIn.filter IdText.truthy with
  | some id => do
    let found ← read .query fun db => (id.ulid?.bind db.deliveries.find?).bind fun d =>
      (db.orders.find? d.orderId).map fun o => (⟨⟨d.orderId, some d.id⟩, o.buyerId⟩ : ResolvedOrder)
    orThrow found (.ws "delivery not found")
  | none => do
    let order ← read .query fun db => (orderIdIn.bind IdText.ulid?).bind db.orders.find?
    let order ← orThrow order (.ws "order not found")
    let delivery ← read .query fun db => db.deliveries.rows.find? fun d => d.orderId = order.id
    return ⟨⟨order.id, delivery.map Delivery.id⟩, order.buyerId⟩

/-- Looks the account up if the connection has not done so yet. -/
def ensureInternalUserId (socket : SocketId) (user : String) : GatewayHandler Json Unit := do
  let data ← socketData socket
  match data.internalUserId with
  | some _ => return ()
  | none => do
    let internal ← read .query fun db => db.userIdOf user
    let id ← orThrow internal (.ws "user not found")
    await (.setInternalUserId socket) fun _ =>
      updateSocket socket fun k => { k with data := { k.data with internalUserId := some id } }

section

variable (text : Ulid → String)

def join (socket : SocketId) (room : String) : GatewayHandler Json Unit :=
  await (.join socket room) fun _ => updateSocket socket (Socket.join room)

def leave (socket : SocketId) (room : String) : GatewayHandler Json Unit :=
  await (.leave socket room) fun _ => updateSocket socket (Socket.leave room)

/-- `subscribe`: the rooms of an order, for its buyer. -/
def onSubscribe (socket : SocketId) (body : SubscribeBody) : GatewayHandler Json Subscribed := do
  let data ← socketData socket
  let user ← orThrow data.user (.ws "unauthorized")
  throwIf (¬body.orderId.any IdText.truthy ∧ ¬body.deliveryId.any IdText.truthy)
    (.ws "orderId or deliveryId required")
  ensureInternalUserId socket user
  let resolved ← resolveOrder body.orderId body.deliveryId
  let data ← socketData socket
  throwIf (data.internalUserId ≠ some resolved.buyerId) (.ws "forbidden")
  join socket ("order:" ++ text resolved.orderId)
  match resolved.deliveryId with
  | none => return resolved.toSubscribed
  | some id => do
    join socket ("delivery:" ++ text id)
    return resolved.toSubscribed

/-- `unsubscribe`: only the room of the delivery is left. -/
def onUnsubscribe (socket : SocketId) (deliveryId : Option IdText) : GatewayHandler Json Unit :=
  match deliveryId.filter IdText.truthy with
  | none => return ()
  | some id => leave socket ("delivery:" ++ idText text id)

/-- `ConversationsService.assertParticipant` on the text of a body: only ids have rows. -/
def assertParticipant (supabaseId : String) : IdText → ChatHandler ConversationId
  | .ulid id => do return (← Conversations.assertParticipant supabaseId id).conversationId
  | .other _ => do
    let me ← read .query fun db => db.userIdOf supabaseId
    let _ ← orThrow me (.notFound "User profile not found")
    throw (.forbidden "You are not a participant of this conversation")

/-- `conv:subscribe`: the room of a conversation, for its participants. -/
def onConvSubscribe (socket : SocketId) (conversationId : Option IdText) : GatewayHandler Json IdText := do
  let data ← socketData socket
  let user ← orThrow data.user (.ws "unauthorized")
  let id ← orThrow (conversationId.filter IdText.truthy) (.ws "conversationId required")
  let _ ← (assertParticipant user id).within chatPart
  join socket ("conv:" ++ idText text id)
  return id

/-- `conv:unsubscribe` -/
def onConvUnsubscribe (socket : SocketId) (conversationId : Option IdText) : GatewayHandler Json Unit :=
  match conversationId.filter IdText.truthy with
  | none => return ()
  | some id => leave socket ("conv:" ++ idText text id)

end

/-! ## Drivers on their way -/

/-- `ACTIVE_DELIVERY_STATUSES` -/
def activeDeliveryStatuses : List DeliveryStatus :=
  [.assigned, .enRouteToPickup, .atPickup, .pickedUp, .enRouteToDropoff, .atDropoff]

/-- The driver's active delivery that was assigned last; one without a date comes first. -/
def activeDelivery (db : Db) (driver : UserId) : Option Delivery :=
  (Cursors.descending (fun d => d.driverAssignedAt.elim ⊤ fun t => (t : WithTop Time))
    (db.deliveries.rows.filter fun d =>
      d.driverId = some driver && d.status ∈ activeDeliveryStatuses)).head?

structure DriverLocationDto where
  lat : JsNumber
  lng : JsNumber
  headingDeg : Option JsNumber
  speedMps : Option JsNumber

/-- `DeliveriesService.recordLocation`: the delivery that the position is broadcast on, if there
is one. A publication that Redis refuses is only logged. -/
def recordLocation (text : Ulid → String) (stringify : Payload → String) (supabaseId : String)
    (dto : DriverLocationDto) : GatewayHandler Json (Option DeliveryId) := do
  let driver ← (Deliveries.assertDriver supabaseId).within gatewayOrders
  let now ← read .query fun db => db.now
  let active ← read .query fun db => activeDelivery db.toDb driver.userId
  match active with
  | none => return none
  | some delivery => do
    let publication := publishLocation stringify (text delivery.id) dto.lat dto.lng dto.headingDeg
      dto.speedMps now
    await (.publishLocation driver.userId delivery.id) fun answer =>
      if answer.ok then
        modify fun db => { db with located := (driver.userId, publication) :: db.located }
      else
        pure ()
    return some delivery.id

end Tracking

/-! ## The service -/

inductive GatewayCall where
  | connect (handshake : Tracking.Handshake)
  | subscribe (socket : SocketId) (body : Tracking.SubscribeBody)
  | unsubscribe (socket : SocketId) (deliveryId : Option IdText)
  | convSubscribe (socket : SocketId) (conversationId : Option IdText)
  | convUnsubscribe (socket : SocketId) (conversationId : Option IdText)
  | recordLocation (supabaseId : String) (dto : Tracking.DriverLocationDto)
  | chat (call : ChatCall)

inductive GatewayReply where
  | subscribed (to' : Tracking.Subscribed)
  | conversation (id : IdText)
  | broadcast (deliveryId : Option DeliveryId)
  | chat (reply : ChatReply)
  | nothing

/-- What the gateway knows of the world around it. -/
structure Surroundings (Json : Type) where
  text : Ulid → String
  verify : String → Option String
  stringify : Payload → String
  subscribes : String → String → Bool
  parse : String → Option Json

def gatewayHandle (env : Surroundings Json) (me : Nat) : GatewayCall → GatewayHandler Json GatewayReply
  | .connect handshake => do
    Tracking.handleConnection env.text env.verify me handshake
    return .nothing
  | .subscribe socket body => do return .subscribed (← Tracking.onSubscribe env.text socket body)
  | .unsubscribe socket deliveryId => do
    Tracking.onUnsubscribe env.text socket deliveryId
    return .nothing
  | .convSubscribe socket c => do return .conversation (← Tracking.onConvSubscribe env.text socket c)
  | .convUnsubscribe socket c => do
    Tracking.onConvUnsubscribe env.text socket c
    return .nothing
  | .recordLocation sub dto => do
    return .broadcast (← Tracking.recordLocation env.text env.stringify sub dto)
  | .chat call => do return .chat (← (chatHandle me call).within chatPart)

/-- The other services change their tables, Redis hands over a publication, a client goes away. -/
inductive GatewayEvent where
  | elsewhere (db : Db)
  | arrives (publication : Publication)
  | disconnects (socket : SocketId)

/-- Every account keeps its session. -/
def Db.keepsAccounts (db db' : Db) : Bool :=
  db.users.rows.all fun u => db'.userIdOf u.supabaseId = db.userIdOf u.supabaseId

/-- `server.to(room).emit(event, payload)`: what every connected socket in the room gets. -/
def Tracking.deliver (publication : Publication) (db : GatewayDb Json) (emission : Emission Json) :
    GatewayDb Json :=
  { db with received :=
      ((db.sockets.rows.filter fun k => k.connected && emission.room ∈ k.rooms).map fun k =>
        (k.id, .emission publication emission)) ++ db.received }

def applyGatewayEvent (env : Surroundings Json) : GatewayEvent → GatewayDb Json → GatewayDb Json
  | .elsewhere db', db =>
    if db.toDb.keepsParties db' && db.toDb.keepsAccounts db' then { db with toDb := db' } else db
  | .arrives publication, db =>
    (Tracking.fanOut env.subscribes env.parse publication).foldl (Tracking.deliver publication) db
  | .disconnects socket, db =>
    { db with sockets := db.sockets.update socket Tracking.Socket.disconnect }

/-- A client speaks to the gateway through a socket that it has. -/
def gatewayAdmits : GatewayCall → GatewayDb Json → Bool
  | .subscribe socket _, db | .unsubscribe socket _, db | .convSubscribe socket _, db
  | .convUnsubscribe socket _, db => (db.sockets.find? socket).isSome
  | _, _ => true

def gatewayService (env : Surroundings Json) : Service (gatewayMachine Json) where
  Call := GatewayCall
  Reply := GatewayReply
  Event := GatewayEvent
  handle := gatewayHandle env
  admits := gatewayAdmits
  event := applyGatewayEvent env

/-- No client is connected, and no driver has said where they are. -/
def GatewayDb.quiet (db : ChatDb) : GatewayDb Json := ⟨db, .empty, [], []⟩

end IncaCook
