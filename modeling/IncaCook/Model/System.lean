import IncaCook.Library.Runs
import IncaCook.Model.Deliveries
import IncaCook.Model.Disputes
import IncaCook.Model.Webhooks

/-!
# The system

Every operation of the order, delivery, dispute and wallet services as one
`Call`, and the service that answers them. Users, timers and Stripe's webhooks
may make any call at any time with any arguments, with one exception: a webhook
event is about a PaymentIntent that Stripe has, under its own metadata, and
`payment_intent.succeeded` arrives only once the payment has succeeded.

By itself the environment lets time pass and payments succeed.
-/

namespace IncaCook

inductive Call where
  | createOrder (supabaseId : String) (dto : Orders.CreateOrderDto)
  | confirmPaymentForBuyer (supabaseId : String) (orderId : OrderId)
  | paymentIntentSucceeded (pi : Webhooks.PaymentIntentEvent)
  | paymentIntentFailed (pi : Webhooks.PaymentIntentEvent)
  | chargeDispute (dispute : Webhooks.ChargeDispute)
  | startPreparing (supabaseId : String) (orderId : OrderId)
  | markReady (supabaseId : String) (orderId : OrderId)
  | getSellerPickupQr (supabaseId : String) (orderId : OrderId)
  | getBuyerDeliveryQr (supabaseId : String) (orderId : OrderId)
  | handleNoDriverTimeout (orderId : OrderId)
  | decideNoDriver (supabaseId : String) (orderId : OrderId) (decision : NoDriverDecision)
  | autoCancelNoResponse (orderId : OrderId)
  | sellerCannotProvide (supabaseId : String) (orderId : OrderId)
      (dto : Orders.SellerCannotProvideDto)
  | handleDriverDeliveryTimeout (deliveryId : DeliveryId)
  | confirmOrderPickup (supabaseId : String) (orderId : OrderId)
  | cancelAsSeller (supabaseId : String) (orderId : OrderId) (reason : String)
  | createDispute (supabaseId : String) (orderId : OrderId) (dto : Orders.CreateDisputeDto)
  | adminApproveRefund (id : DisputeId) (notes : Option String)
  | adminRejectDispute (id : DisputeId) (notes : Option String)
  | adminResolveDispute (id : DisputeId) (notes : Option String)
  | adminConfirmAllergenViolation (id : DisputeId) (notes : Option String)
  | adminConfirmFraudulentChargeback (id : DisputeId) (notes : Option String)
  | claim (supabaseId : String) (deliveryId : DeliveryId)
  | arriveAtPickup (supabaseId : String) (deliveryId : DeliveryId)
  | confirmPickup (supabaseId : String) (deliveryId : DeliveryId)
      (dto : Deliveries.ConfirmPickupDto)
  | confirmDelivery (supabaseId : String) (deliveryId : DeliveryId)
      (dto : Deliveries.ConfirmDeliveryDto)
  | confirmAbsentDropoff (supabaseId : String) (deliveryId : DeliveryId)
      (dto : Deliveries.ConfirmAbsentDropoffDto)
  | reportSellerUnavailable (supabaseId : String) (deliveryId : DeliveryId)
      (dto : Deliveries.ReportSellerUnavailableDto)
  | releaseDuePendingEntries
  | requestWithdrawal (supabaseId : String)

/-- What a call returns. -/
inductive Reply where
  | nothing
  | created (result : Orders.CreateOrderResult)
  | order (order : Order)
  | delivery (delivery : Delivery)
  | qr (qr : Orders.DeliveryQr)
  | filed (result : Orders.CreateDisputeResult)
  | dispute (dispute : OrderDispute)
  | released (count : Nat)
  | withdrawal (result : Wallets.WithdrawalResult)

/-- The program of each call; `me` is the call's number. -/
def handle (cfg : Config) (me : Nat) : Call → Handler Reply
  | .createOrder sub dto => do return .created (← Orders.createOrder cfg me sub dto)
  | .confirmPaymentForBuyer sub id => do return .order (← Orders.confirmPaymentForBuyer cfg sub id)
  | .paymentIntentSucceeded pi => do
    Webhooks.handlePaymentIntentSucceeded pi
    return .nothing
  | .paymentIntentFailed pi => do
    Webhooks.handlePaymentIntentFailed pi
    return .nothing
  | .chargeDispute dispute => do
    Webhooks.handleChargeDispute me dispute
    return .nothing
  | .startPreparing sub id => do return .order (← Orders.startPreparing sub id)
  | .markReady sub id => do return .order (← Orders.markReady me sub id)
  | .getSellerPickupQr sub id => do return .qr (← Orders.getSellerPickupQr sub id)
  | .getBuyerDeliveryQr sub id => do return .qr (← Orders.getBuyerDeliveryQr sub id)
  | .handleNoDriverTimeout id => do
    Orders.handleNoDriverTimeout id
    return .nothing
  | .decideNoDriver sub id decision => do return .order (← Orders.decideNoDriver sub id decision)
  | .autoCancelNoResponse id => do
    Orders.autoCancelNoResponse id
    return .nothing
  | .sellerCannotProvide sub id dto => do
    return .order (← Orders.sellerCannotProvide me sub id dto)
  | .handleDriverDeliveryTimeout id => do
    Orders.handleDriverDeliveryTimeout me id
    return .nothing
  | .confirmOrderPickup sub id => do return .order (← Orders.confirmPickup cfg me sub id)
  | .cancelAsSeller sub id reason => do return .order (← Orders.cancelAsSeller sub id reason)
  | .createDispute sub id dto => do return .filed (← Orders.createDispute me sub id dto)
  | .adminApproveRefund id notes => do return .dispute (← Orders.adminApproveRefund id notes)
  | .adminRejectDispute id notes => do return .dispute (← Orders.adminRejectDispute id notes)
  | .adminResolveDispute id notes => do return .dispute (← Orders.adminResolveDispute id notes)
  | .adminConfirmAllergenViolation id notes => do
    return .dispute (← Orders.adminConfirmAllergenViolation me id notes)
  | .adminConfirmFraudulentChargeback id notes => do
    return .dispute (← Orders.adminConfirmFraudulentChargeback me id notes)
  | .claim sub id => do return .delivery (← Deliveries.claim cfg sub id)
  | .arriveAtPickup sub id => do return .delivery (← Deliveries.arriveAtPickup sub id)
  | .confirmPickup sub id dto => do return .delivery (← Deliveries.confirmPickup sub id dto)
  | .confirmDelivery sub id dto => do
    return .delivery (← Deliveries.confirmDelivery cfg me sub id dto)
  | .confirmAbsentDropoff sub id dto => do
    return .delivery (← Deliveries.confirmAbsentDropoff cfg me sub id dto)
  | .reportSellerUnavailable sub id dto => do
    return .delivery (← Deliveries.reportSellerUnavailable me sub id dto)
  | .releaseDuePendingEntries => do return .released (← Wallets.releaseDuePendingEntries)
  | .requestWithdrawal sub => do return .withdrawal (← Wallets.requestWithdrawal me sub)

/-- Whether a webhook event is about one of Stripe's PaymentIntents. -/
def genuine (db : Db) (ev : Webhooks.PaymentIntentEvent) (succeeded : Bool) : Bool :=
  (db.paymentIntents.find? ev.id).any fun pi =>
    ev.metadataOrderId = some pi.orderId && (!succeeded || pi.succeeded)

/-- Which calls can arrive: all but invented webhook events. -/
def admits (c : Call) (db : Db) : Bool :=
  match c with
  | .paymentIntentSucceeded pi => genuine db pi true
  | .paymentIntentFailed pi => genuine db pi false
  | _ => true

/-- What happens by itself. -/
inductive Event where
  | tick (ms : Nat)
  | paymentSucceeds (pi : PaymentIntentId)
  deriving DecidableEq, Repr

def applyEvent : Event → Db → Db
  | .tick ms, db => { db with now := db.now + ms }
  | .paymentSucceeds pi, db => { db with
      paymentIntents := db.paymentIntents.update pi fun p => { p with succeeded := true } }

def service (cfg : Config) : Service machine where
  Call := Call
  Reply := Reply
  Event := Event
  handle := handle cfg
  admits := admits
  event := applyEvent

/-- A state before the first order: users, profiles and listings are arbitrary. -/
structure Fresh (db : Db) : Prop where
  orders : db.orders.rows = []
  deliveries : db.deliveries.rows = []
  walletEntries : db.walletEntries.rows = []
  disputes : db.disputes.rows = []
  paymentIntents : db.paymentIntents.rows = []
  refunds : db.refunds.rows = []
  transfers : db.transfers.rows = []

/-! ## A small marketplace -/

/-- Outside development; a delivery costs 3 €, the buyer's fee is 5 %, earnings
are released after a day. -/
def smallTownConfig : Config := ⟨false, 300, 500, 24⟩

/-- A buyer, a seller with one dish of which five portions are left, and two drivers. -/
def smallTown : Db where
  now := 0
  users := ⟨[
    ⟨⟨0, 100⟩, "buyer", "buyer@town", .buyer, true, none, none, false, none, none⟩,
    ⟨⟨0, 101⟩, "seller", "seller@town", .seller, false, none, none, false, none, none⟩,
    ⟨⟨0, 102⟩, "driver", "driver@town", .driver, false, none, none, false, none, none⟩,
    ⟨⟨0, 103⟩, "rival", "rival@town", .driver, false, none, none, false, none, none⟩], by decide⟩
  sellerProfiles := ⟨[⟨⟨0, 101⟩, .approved, some 300, false, .active, none, some "acct_s", true⟩],
    by decide⟩
  driverProfiles := ⟨[⟨⟨0, 102⟩, .approved, some "acct_d", true⟩,
    ⟨⟨0, 103⟩, .approved, some "acct_r", true⟩], by decide⟩
  listings := ⟨[⟨⟨0, 110⟩, ⟨0, 101⟩, "Couscous", [], 10000, some 5, true, none, .both, none⟩],
    by decide⟩
  addOns := .empty
  addresses := ⟨[⟨⟨0, 120⟩, ⟨0, 100⟩, "1 rue du Port", "Town", none, none⟩], by decide⟩
  orders := .empty
  deliveries := .empty
  walletEntries := .empty
  disputes := .empty
  strikes := .empty
  paymentIntents := .empty
  refunds := .empty
  transfers := .empty
  stripeNext := 0

/-- Every remote call goes through, and every random text is "token". -/
def smallTownCall (call : Call) : Input (service smallTownConfig) := .call call fun _ => ⟨true, "token", ""⟩

theorem one_portion : 1 ≤ 1 := Nat.le_refl 1

theorem two_portions : 1 ≤ 2 := Nat.le_succ 1

/-- One portion, delivered. -/
def smallTownOrder : Orders.CreateOrderDto :=
  ⟨[⟨⟨0, 110⟩, 1, none, none, one_portion⟩], .delivery, some ⟨0, 120⟩, none, none, none, none, none, some true⟩

/-- The buyer orders (call 0) and pays, and the order is confirmed (call 1). -/
def orderPaid : List (Input (service smallTownConfig)) :=
  [smallTownCall (.createOrder "buyer" smallTownOrder), .event (.paymentSucceeds (.stripe 1)),
    smallTownCall (.confirmPaymentForBuyer "buyer" ⟨0, 0⟩)]

/-- The seller prepares it (calls 2 and 3), and a driver claims the delivery (call 4). -/
def orderClaimed : List (Input (service smallTownConfig)) :=
  orderPaid ++ [smallTownCall (.startPreparing "seller" ⟨0, 0⟩),
    smallTownCall (.markReady "seller" ⟨0, 0⟩), smallTownCall (.claim "driver" ⟨3, 2⟩)]

/-- The driver picks it up (call 5). -/
def orderPickedUp : List (Input (service smallTownConfig)) :=
  orderClaimed ++ [smallTownCall (.confirmPickup "driver" ⟨3, 2⟩ ⟨"token", none, none⟩)]

theorem smallTown_fresh : Fresh smallTown := ⟨rfl, rfl, rfl, rfl, rfl, rfl, rfl⟩

end IncaCook
