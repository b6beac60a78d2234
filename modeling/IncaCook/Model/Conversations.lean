import IncaCook.Library.Cursors
import IncaCook.Library.Runs
import IncaCook.Model.Strikes

/-!
# Conversations

`ConversationsService` and `MessagingService`. A conversation joins two users and may be
pinned to an order. `findOrCreate` opens one for a caller, whose peer is named in the
body or derived from the order; `ensureSellerDriverConversation` opens the one of the
seller and the driver after a claim. Each participant has a counter of unread messages,
which `send` increments and `markRead` resets. `listMessages` reads the history back.

The other services go on working on their tables meanwhile.
-/

namespace IncaCook

open Prog

/-! ## Rows -/

inductive ConversationType where
  | buyerSeller | buyerDelivery | sellerDriver | support
  deriving DecidableEq, Repr

/-- The type as the error texts spell it. -/
def ConversationType.text : ConversationType → String
  | .buyerSeller => "BUYER_SELLER"
  | .buyerDelivery => "BUYER_DELIVERY"
  | .sellerDriver => "SELLER_DRIVER"
  | .support => "SUPPORT"

inductive ParticipantRole where
  | buyer | seller | delivery | support
  deriving DecidableEq, Repr

inductive MessageType where
  | text | image | system
  deriving DecidableEq, Repr

abbrev ConversationId := Ulid
abbrev ParticipantId := Ulid
abbrev MessageId := Ulid

/-- A JavaScript string as its UTF-16 code units, which is what `length` counts and
`slice` cuts. -/
abbrev JsString := List UInt16

structure Conversation where
  id : ConversationId
  type : ConversationType
  orderId : Option OrderId
  storeId : Option String
  lastMessage : Option JsString
  lastMessageAt : Option Time
  createdAt : Time
  deriving DecidableEq

structure ConversationParticipant where
  id : ParticipantId
  conversationId : ConversationId
  userId : UserId
  role : ParticipantRole
  unreadCount : Nat
  lastReadAt : Option Time
  joinedAt : Time
  deriving DecidableEq

structure Message where
  id : MessageId
  conversationId : ConversationId
  senderId : UserId
  content : JsString
  messageType : MessageType
  createdAt : Time
  deriving DecidableEq

instance : Keyed Conversation ConversationId := ⟨Conversation.id⟩
instance : Keyed ConversationParticipant ParticipantId := ⟨ConversationParticipant.id⟩
instance : Keyed Message MessageId := ⟨Message.id⟩

structure ChatDb extends Db where
  conversations : Table Conversation
  participants : Table ConversationParticipant
  messages : Table Message

/-- An id in a request body: one of ours, or another text. -/
inductive IdText where
  | ulid (id : Ulid)
  | other (text : String)
  deriving DecidableEq, Repr

namespace IdText

/-- The text is not empty. -/
def truthy (t : IdText) : Bool := t ≠ .other ""

def ulid? : IdText → Option Ulid
  | .ulid id => some id
  | .other _ => none

end IdText

/-! ## The machine -/

structure NewParticipant where
  id : ParticipantId
  userId : UserId
  role : ParticipantRole
  deriving DecidableEq

/-- What the transaction that creates a conversation inserts. -/
structure NewConversation where
  id : ConversationId
  type : ConversationType
  orderId : Option IdText
  storeId : Option String
  first : NewParticipant
  second : NewParticipant
  deriving DecidableEq

def NewParticipant.row (new : NewParticipant) (conversationId : ConversationId) (now : Time) :
    ConversationParticipant :=
  ⟨new.id, conversationId, new.userId, new.role, 0, none, now⟩

def NewConversation.row (new : NewConversation) (now : Time) : Conversation :=
  ⟨new.id, new.type, new.orderId.bind IdText.ulid?, new.storeId, none, none, now⟩

/-- How the two users of a new conversation were found: the caller named the peer, the
peer was derived from the order, or the ids came with a claim. -/
inductive Origin where
  | named | derived | ensured
  deriving DecidableEq, Repr

/-- What is broadcast of a message. -/
structure PersistedMessage where
  id : MessageId
  conversationId : ConversationId
  senderId : UserId
  senderRole : ParticipantRole
  content : JsString
  messageType : MessageType
  createdAt : Time
  deriving DecidableEq

inductive ChatSite where
  | query
  | findConversation (type : ConversationType) (orderId : Option IdText) (a b : UserId)
  | createConversation (origin : Origin) (new : NewConversation)
  | send (message : Message)
  | markRead (participant : ParticipantId)
  | publish (payload : PersistedMessage)
  | sendToUsers (userIds : List UserId) (body : JsString) (conversationId : ConversationId)
  deriving DecidableEq

abbrev chatMachine : Machine := ⟨ChatDb, Answer, ChatSite, Err⟩

abbrev ChatHandler (α : Type) := Prog chatMachine α

abbrev ChatTx (α : Type) := StateT ChatDb (Except Err) α

namespace ChatDb

/-- The users of a conversation. -/
def members (db : ChatDb) (c : ConversationId) : List UserId :=
  (db.participants.rows.filter fun p => p.conversationId = c).map ConversationParticipant.userId

/-- `findUnique` by (conversation, user). -/
def participantOf (db : ChatDb) (c : ConversationId) (u : UserId) : Option ConversationParticipant :=
  db.participants.rows.find? fun p => p.conversationId = c && p.userId = u

end ChatDb

/-! ## `ConversationsService` -/

namespace Conversations

structure FindOrCreateConversationDto where
  type : ConversationType
  peerUserId : Option IdText
  orderId : Option IdText
  storeId : Option String

/-- The role of a user in a conversation, by the profiles that the user has. -/
def resolveRole (userId : UserId) (type : ConversationType) (isCaller : Bool) :
    ChatHandler ParticipantRole :=
  match type with
  | .support => return if isCaller then .buyer else .support
  | .buyerDelivery => read .query fun db =>
    if (db.driverProfiles.find? userId).isSome then .delivery else .buyer
  | .sellerDriver => read .query fun db =>
    if (db.driverProfiles.find? userId).isSome then .delivery else .seller
  | .buyerSeller => read .query fun db =>
    if (db.sellerProfiles.find? userId).isSome then .seller else .buyer

/-- The order, with the driver of its latest delivery. -/
def orderWithDriver (db : ChatDb) (orderId : IdText) : Option (Order × Option UserId) :=
  (orderId.ulid?.bind db.orders.find?).map fun order =>
    (order, (db.latestDelivery order.id).bind Delivery.driverId)

/-- Which side of the order a party of it talks to. -/
def otherSide (callerId : UserId) (order : Order) (driverId : Option UserId) :
    ConversationType → ChatHandler UserId
  | .buyerDelivery =>
    if callerId = order.buyerId then
      orThrow driverId (.badRequest "No driver has been assigned to this order yet")
    else if driverId = some callerId then
      return order.buyerId
    else
      throw (.badRequest "Only the buyer or the assigned driver can open a delivery chat")
  | .sellerDriver =>
    if callerId = order.sellerId then
      orThrow driverId (.badRequest "No driver has been assigned to this order yet")
    else if driverId = some callerId then
      return order.sellerId
    else
      throw (.badRequest "Only the seller or the assigned driver can open this chat")
  | .buyerSeller | .support =>
    if callerId = order.buyerId then
      return order.sellerId
    else if callerId = order.sellerId then
      return order.buyerId
    else
      throw (.badRequest "Only the buyer or seller can open this chat")

/-- The caller's counterpart on an order to which the caller is a party. -/
def resolvePeerFromOrder (callerId : UserId) (type : ConversationType) (orderId : Option IdText) :
    ChatHandler UserId := do
  throwIf (type = .support) (.badRequest "SUPPORT conversations require an explicit peerUserId")
  let orderId ← orThrow (orderId.filter IdText.truthy) (.badRequest "peerUserId or orderId is required")
  let found ← read .query fun db => orderWithDriver db orderId
  let (order, driverId) ← orThrow found (.notFound "Order not found")
  throwIf (callerId ≠ order.buyerId ∧ callerId ≠ order.sellerId ∧ driverId ≠ some callerId)
    (.forbidden "You are not a party to this order")
  otherSide callerId order driverId type

/-- `conversation.create`; the order must exist. -/
def insertConversation (new : NewConversation) : ChatTx Unit := do
  let db ← get
  Stmt.throwIf (new.orderId.any fun o => (o.ulid?.bind db.orders.find?).isNone) .database
  let conversations ← Stmt.orThrow (db.conversations.insert? (new.row db.now)) .uniqueViolation
  set { db with conversations }

/-- One row of `conversationParticipant.createMany`; the user must exist, and
(conversation, user) is unique. -/
def insertParticipant (conversationId : ConversationId) (new : NewParticipant) : ChatTx Unit := do
  let db ← get
  Stmt.throwIf (db.users.find? new.userId).isNone .database
  Stmt.throwIf (db.participantOf conversationId new.userId).isSome .uniqueViolation
  let participants ← Stmt.orThrow (db.participants.insert? (new.row conversationId db.now))
    .uniqueViolation
  set { db with participants }

/-- The transaction that creates a conversation with its two participants. -/
def createConversation (new : NewConversation) : ChatTx Unit := do
  insertConversation new
  insertParticipant new.id new.first
  insertParticipant new.id new.second

/-- The conversation of this type and order between these two users. -/
def existingConversation (db : ChatDb) (type : ConversationType) (orderId : Option IdText)
    (a b : UserId) : Option Conversation :=
  db.conversations.rows.find? fun c => c.type = type && c.orderId.map IdText.ulid = orderId &&
    (db.members c.id).all (fun u => u = a || u = b) && a ∈ db.members c.id && b ∈ db.members c.id

/-- The peer that the body names, or else the one that the order gives. -/
def resolvePeer (callerId : UserId) (dto : FindOrCreateConversationDto) : ChatHandler IdText :=
  match dto.peerUserId with
  | some peer => return peer
  | none => do return .ulid (← resolvePeerFromOrder callerId dto.type dto.orderId)

def FindOrCreateConversationDto.origin (dto : FindOrCreateConversationDto) : Origin :=
  if dto.peerUserId.isSome then .named else .derived

/-- Creates the conversation of the caller and the peer. -/
def openConversation (me : Nat) (dto : FindOrCreateConversationDto) (caller peer : UserId) :
    ChatHandler (ConversationId × ConversationType) := do
  let callerRole ← resolveRole caller dto.type true
  let peerRole ← resolveRole peer dto.type false
  let new : NewConversation := ⟨generateUlid me 0, dto.type, dto.orderId, dto.storeId,
    ⟨generateUlid me 1, caller, callerRole⟩, ⟨generateUlid me 2, peer, peerRole⟩⟩
  await (.createConversation dto.origin new) fun _ => createConversation new
  return (new.id, dto.type)

/-- The conversation of the caller with the peer, which is created if there is none. -/
def findOrCreate (me : Nat) (supabaseId : String) (dto : FindOrCreateConversationDto) :
    ChatHandler (ConversationId × ConversationType) := do
  let caller ← read .query fun db => db.userIdOf supabaseId
  let caller ← orThrow caller (.notFound "User profile not found")
  throwIf ((dto.type = .buyerDelivery ∨ dto.type = .sellerDriver) ∧
      ¬dto.orderId.any IdText.truthy ∧ ¬dto.peerUserId.any IdText.truthy)
    (.badRequest (dto.type.text ++ " requires an orderId or peerUserId"))
  let peer ← resolvePeer caller dto
  throwIf (peer = .ulid caller) (.badRequest "Cannot start a conversation with yourself")
  let peer ← read .query fun db => peer.ulid?.filter fun id => (db.users.find? id).isSome
  let peer ← orThrow peer (.notFound "Peer user not found")
  let existing ← read (.findConversation dto.type dto.orderId caller peer) fun db =>
    existingConversation db dto.type dto.orderId caller peer
  match existing with
  | some c => return (c.id, c.type)
  | none => openConversation me dto caller peer

structure EnsureResult where
  id : Option ConversationId
  created : Bool

/-- The conversation of the seller and the driver about the order. -/
def sellerDriverConversation (db : ChatDb) (orderId : OrderId) (sellerId driverId : UserId) :
    Option Conversation :=
  db.conversations.rows.find? fun c => c.type = .sellerDriver && c.orderId = some orderId &&
    sellerId ∈ db.members c.id && driverId ∈ db.members c.id

/-- Creates the conversation of the seller and the driver, or finds it. -/
def openSellerDriver (me : Nat) (orderId : OrderId) (driverId sellerId : UserId) :
    ChatHandler EnsureResult := do
  let existing ← read (.findConversation .sellerDriver (some (.ulid orderId)) sellerId driverId) fun db =>
    sellerDriverConversation db orderId sellerId driverId
  match existing with
  | some c => return ⟨some c.id, false⟩
  | none => do
    let new : NewConversation := ⟨generateUlid me 0, .sellerDriver, some (.ulid orderId), none,
      ⟨generateUlid me 1, sellerId, .seller⟩, ⟨generateUlid me 2, driverId, .delivery⟩⟩
    await (.createConversation .ensured new) fun _ => createConversation new
    return ⟨some new.id, true⟩

/-- Opens the conversation of the seller and the driver after a claim; never fails. -/
def ensureSellerDriverConversation (me : Nat) (orderId : OrderId) (driverId : UserId) :
    ChatHandler EnsureResult :=
  tryCatch (do
    let sellerId ← read .query fun db => (db.orders.find? orderId).map Order.sellerId
    match sellerId.filter (· ≠ driverId) with
    | none => return ⟨none, false⟩
    | some sellerId => openSellerDriver me orderId driverId sellerId) fun _ =>
      return ⟨none, false⟩

structure Membership where
  callerUserId : UserId
  callerParticipantId : ParticipantId
  conversationId : ConversationId
  conversationType : ConversationType

/-- The caller's row in the conversation; others are refused. -/
def assertParticipant (supabaseId : String) (conversationId : ConversationId) :
    ChatHandler Membership := do
  let me ← read .query fun db => db.userIdOf supabaseId
  let me ← orThrow me (.notFound "User profile not found")
  let membership ← read .query fun db => (db.participantOf conversationId me).bind fun p =>
    (db.conversations.find? p.conversationId).map fun c => (⟨me, p.id, c.id, c.type⟩ : Membership)
  orThrow membership (.forbidden "You are not a participant of this conversation")

/-- The row of a participant who has read everything. -/
def markedRead (now : Time) (p : ConversationParticipant) : ConversationParticipant :=
  { p with unreadCount := 0, lastReadAt := some now }

/-- `conversationParticipant.update`; the database may refuse it. -/
def resetUnread (id : ParticipantId) (now : Time) (answer : Answer) : ChatTx Unit := do
  Stmt.throwIf (¬answer.ok) .database
  let db ← get
  let participants ← Stmt.orThrow (db.participants.update? id (markedRead now)) .recordNotFound
  set { db with participants }

/-- Resets the caller's counter. -/
def markRead (supabaseId : String) (conversationId : ConversationId) : ChatHandler Unit := do
  let membership ← assertParticipant supabaseId conversationId
  let now ← read .query fun db => db.now
  await (.markRead membership.callerParticipantId) (resetUnread membership.callerParticipantId now)

end Conversations

/-! ## `MessagingService` -/

namespace Messaging

open Conversations

/-- `String.prototype.trim`; no white space is a surrogate. -/
def trim (s : JsString) : JsString :=
  let space (c : UInt16) : Bool := isJsSpace (Char.ofNat c.toNat)
  ((s.dropWhile space).reverse.dropWhile space).reverse

/-- A text of more than `limit` units is cut to `limit - 3` and an ellipsis. -/
def cut (limit : Nat) (text : JsString) : JsString :=
  if text.length > limit then text.take (limit - 3) ++ [0x2026] else text

def lastMessagePreview (text : JsString) : JsString := cut 200 text

/-- The conversation after a message. -/
def withLastMessage (m : Message) (c : Conversation) : Conversation :=
  { c with lastMessage := some (lastMessagePreview m.content), lastMessageAt := some m.createdAt }

/-- The transaction of `send`; the database may refuse it. -/
def persist (m : Message) (answer : Answer) : ChatTx Unit := do
  Stmt.throwIf (¬answer.ok) .database
  let db ← get
  Stmt.throwIf (db.users.find? m.senderId).isNone .database
  let messages ← Stmt.orThrow (db.messages.insert? m) .uniqueViolation
  let conversations ← Stmt.orThrow (db.conversations.update? m.conversationId (withLastMessage m))
    .recordNotFound
  let participants := db.participants.updateMany
    (fun p => p.conversationId = m.conversationId && p.userId ≠ m.senderId)
    fun p => { p with unreadCount := p.unreadCount + 1 }
  set { db with messages, conversations, participants }

/-- The realtime fan-out: however it ends, the send goes on. -/
def publish (payload : PersistedMessage) : ChatHandler Unit := ask (.publish payload) fun _ _ => ()

/-- Best effort, as `publish`. -/
def notifyPeers (conversationId : ConversationId) (senderUserId : UserId) (preview : JsString) :
    ChatHandler Unit := do
  let recipientIds ← read .query fun db =>
    (db.members conversationId).filter fun u => u ≠ senderUserId
  if recipientIds.isEmpty then
    return ()
  else
    ask (.sendToUsers recipientIds (cut 120 preview) conversationId) fun _ _ => ()

/-- Persists a message, then broadcasts it. -/
def send (me : Nat) (supabaseId : String) (conversationId : ConversationId) (content : JsString)
    (messageType : MessageType) : ChatHandler PersistedMessage := do
  let trimmed := trim content
  throwIf (trimmed.length = 0) (.forbidden "Empty messages are not allowed")
  throwIf (trimmed.length > 4000) (.forbidden "Message too long (max 4000 chars)")
  let membership ← assertParticipant supabaseId conversationId
  let sender := membership.callerUserId
  let role ← read .query fun db =>
    (db.participantOf conversationId sender).map ConversationParticipant.role
  let role ← orThrow role (.notFound "Participant row missing")
  -- the clock is read before the transaction
  let now ← read .query fun db => db.now
  let m : Message := ⟨generateUlid me 0, conversationId, sender, trimmed, messageType, now⟩
  await (.send m) (persist m)
  let payload : PersistedMessage := ⟨m.id, conversationId, sender, role, trimmed, messageType, now⟩
  publish payload
  notifyPeers conversationId sender trimmed
  return payload

structure ListMessagesQueryDto where
  limit : Option Nat
  before : Option IdText

/-- A stored message with the role that its sender has in the conversation. -/
def withSenderRole (db : ChatDb) (conversationId : ConversationId) (m : Message) : PersistedMessage :=
  let role := (db.participantOf conversationId m.senderId).map ConversationParticipant.role
  ⟨m.id, m.conversationId, m.senderId, role.getD .buyer, m.content, m.messageType, m.createdAt⟩

section

-- how the database orders the texts of an id column
variable [LinearOrder IdText]

/-- The history of a conversation, newest first; `before` is the id of the oldest message
that the caller already has. -/
def listMessages (supabaseId : String) (conversationId : ConversationId) (query : ListMessagesQueryDto) :
    ChatHandler (List PersistedMessage) := do
  let _ ← assertParticipant supabaseId conversationId
  let limit := min (query.limit.getD 50) 200
  let before := query.before.filter IdText.truthy
  read .query fun db =>
    let rows := db.messages.rows.filter fun m =>
      m.conversationId = conversationId && before.all fun id => IdText.ulid m.id < id
    ((Cursors.descending (fun m => IdText.ulid m.id) rows).take limit).map
      (withSenderRole db conversationId)

end

end Messaging

/-! ## The service -/

inductive ChatCall where
  | findOrCreate (supabaseId : String) (dto : Conversations.FindOrCreateConversationDto)
  | ensureSellerDriverConversation (orderId : OrderId) (driverId : UserId)
  | send (supabaseId : String) (conversationId : ConversationId) (content : JsString)
      (messageType : MessageType)
  | markRead (supabaseId : String) (conversationId : ConversationId)

inductive ChatReply where
  | conversation (id : ConversationId) (type : ConversationType)
  | ensured (result : Conversations.EnsureResult)
  | sent (message : PersistedMessage)
  | nothing

def chatHandle (me : Nat) : ChatCall → ChatHandler ChatReply
  | .findOrCreate sub dto => do
    let (id, type) ← Conversations.findOrCreate me sub dto
    return .conversation id type
  | .ensureSellerDriverConversation o driver => do
    return .ensured (← Conversations.ensureSellerDriverConversation me o driver)
  | .send sub c content type => do return .sent (← Messaging.send me sub c content type)
  | .markRead sub c => do
    Conversations.markRead sub c
    return .nothing

/-- The orders keep their buyers and sellers, and the deliveries their orders and the
drivers that they have. -/
def Db.keepsParties (db db' : Db) : Bool :=
  (db.orders.rows.all fun o => (db'.orders.find? o.id).any fun o' =>
    o'.buyerId = o.buyerId && o'.sellerId = o.sellerId) &&
  db.deliveries.rows.all fun d => (db'.deliveries.find? d.id).any fun d' =>
    d'.orderId = d.orderId && (d.driverId.isNone || d'.driverId = d.driverId)

/-- Time passes and the other services change their tables, in any way that keeps the
parties of the orders. -/
def applyElsewhere (db' : Db) (db : ChatDb) : ChatDb :=
  if db.toDb.keepsParties db' then { db with toDb := db' } else db

def chatService : Service chatMachine where
  Call := ChatCall
  Reply := ChatReply
  Event := Db
  handle := chatHandle
  admits := fun _ _ => true
  event := applyElsewhere

/-- No conversation has been opened yet. -/
def ChatDb.silent (db : Db) : ChatDb := ⟨db, .empty, .empty, .empty⟩

end IncaCook
