import IncaCook.Model.Conversations

/-!
# Realtime fan-out

Orders, deliveries and conversations are published on Redis channels, one of each kind for
each id. `TrackingGateway` subscribes to a pattern for each kind and passes what arrives to
the socket room of the id. Some publishers call the gateway's channel builders, others write
the channel out.

An id is any text. `stringify` is `JSON.stringify` of what is published, and `parse` is
`JSON.parse`, which has no result for a text that is not JSON.
-/

namespace IncaCook

/-! ## JavaScript strings

The texts that are cut off here are ASCII, so it makes no difference that JavaScript counts
UTF-16 code units and Lean characters. -/

/-- `s.startsWith(t)` -/
def jsStartsWith (s t : String) : Bool := t.toList.isPrefixOf s.toList

/-- `s.endsWith(t)` -/
def jsEndsWith (s t : String) : Bool := t.toList.isSuffixOf s.toList

/-- `s.slice(start, stop)`, neither of them negative. -/
def jsSlice (s : String) (start stop : Nat) : String :=
  String.ofList ((s.toList.take stop).drop start)

/-! ## What is published -/

/-- The objects that the publishers hand to `JSON.stringify`. -/
inductive Payload where
  | orderStatus (orderId : String) (status : OrderStatus) (at' : Time)
  | deliveryCancelled (deliveryId orderId status reason message : String) (at' : Time)
  | driverLocation (deliveryId : String) (lat lng : JsNumber) (headingDeg speedMps : Option JsNumber)
      (at' : Time)
  | message (persisted : PersistedMessage)
  deriving DecidableEq

/-- `redis.publish(channel, message)` -/
structure Publication where
  channel : String
  message : String
  deriving DecidableEq

/-- `server.to(room).emit(event, payload)` -/
structure Emission (Json : Type) where
  room : String
  event : String
  payload : Json
  deriving DecidableEq

/-! ## The channels -/

namespace Tracking

def locPattern : String := "delivery:*:loc"
def locPrefix : String := "delivery:"
def locSuffix : String := ":loc"

def statusPattern : String := "order:*:status"
def statusPrefix : String := "order:"
def statusSuffix : String := ":status"

def convPattern : String := "conv:*:msg"
def convPrefix : String := "conv:"
def convSuffix : String := ":msg"

def userPattern : String := "user:*:delivery"
def userPrefix : String := "user:"
def userSuffix : String := ":delivery"

def driverLocChannel (deliveryId : String) : String := locPrefix ++ deliveryId ++ locSuffix
def orderStatusChannel (orderId : String) : String := statusPrefix ++ orderId ++ statusSuffix
def conversationChannel (conversationId : String) : String :=
  convPrefix ++ conversationId ++ convSuffix
def userDeliveryChannel (userId : String) : String := userPrefix ++ userId ++ userSuffix

/-! ## The publishers -/

section

variable (stringify : Payload → String)

/-- `OrdersService.publishOrderStatusChanged` -/
def publishOrderStatusChanged (orderId : String) (status : OrderStatus) (now : Time) : Publication :=
  ⟨"order:" ++ orderId ++ ":status", stringify (.orderStatus orderId status now)⟩

/-- `StripeWebhookHandlerService.publishStatus` -/
def publishStatus (orderId : String) (status : OrderStatus) (now : Time) : Publication :=
  ⟨"order:" ++ orderId ++ ":status", stringify (.orderStatus orderId status now)⟩

/-- `OrdersService.publishDeliveryCancelledToDriver` -/
def publishDeliveryCancelledToDriver (driverId deliveryId orderId status reason message : String)
    (now : Time) : Publication :=
  ⟨"user:" ++ driverId ++ ":delivery",
    stringify (.deliveryCancelled deliveryId orderId status reason message now)⟩

/-- `MessagingService.publish` -/
def publish (conversationId : String) (payload : PersistedMessage) : Publication :=
  ⟨"conv:" ++ conversationId ++ ":msg", stringify (.message payload)⟩

/-- What `DeliveriesService.recordLocation` publishes of the driver's active delivery. -/
def publishLocation (deliveryId : String) (lat lng : JsNumber) (headingDeg speedMps : Option JsNumber)
    (now : Time) : Publication :=
  ⟨driverLocChannel deliveryId, stringify (.driverLocation deliveryId lat lng headingDeg speedMps now)⟩

end

/-! ## The gateway -/

/-- The patterns that `onModuleInit` subscribes to. -/
def patterns : List String := [locPattern, statusPattern, convPattern, userPattern]

variable {Json : Type} (subscribes : String → String → Bool) (parse : String → Option Json)

/-- Emits what the message says; a message that does not parse is only logged. -/
def emit (room event message : String) : List (Emission Json) :=
  (parse message).toList.map fun payload => ⟨room, event, payload⟩

/-- The `pmessage` handler. -/
def pmessage (channel message : String) : List (Emission Json) :=
  if jsStartsWith channel locPrefix && jsEndsWith channel locSuffix then
    let deliveryId := jsSlice channel locPrefix.length (channel.length - locSuffix.length)
    emit parse ("delivery:" ++ deliveryId) "driver:location" message
  else if jsStartsWith channel statusPrefix && jsEndsWith channel statusSuffix then
    let orderId := jsSlice channel statusPrefix.length (channel.length - statusSuffix.length)
    emit parse ("order:" ++ orderId) "order:status" message
  else if jsStartsWith channel userPrefix && jsEndsWith channel userSuffix then
    let userId := jsSlice channel userPrefix.length (channel.length - userSuffix.length)
    emit parse ("user:" ++ userId) "delivery:cancelled" message
  else if jsStartsWith channel convPrefix && jsEndsWith channel convSuffix then
    let conversationId := jsSlice channel convPrefix.length (channel.length - convSuffix.length)
    emit parse ("conv:" ++ conversationId) "message:new" message
  else
    []

/-- What becomes of a publication: Redis delivers it once for every pattern of the gateway
that its channel matches. -/
def fanOut (publication : Publication) : List (Emission Json) :=
  (patterns.filter fun pattern => subscribes pattern publication.channel).flatMap fun _ =>
    pmessage parse publication.channel publication.message

end Tracking

end IncaCook
