import IncaCook.Model.Refunds

/-!
# The order lifecycle

The handlers of `OrdersService` that move an order: the payment confirmation,
the seller's steps, the no-driver fallback, the seller's cancellations, the
driver-disappeared watchdog, and the hand-over of a pickup order.
-/

namespace IncaCook

open Prog

namespace Orders

/-! ## Loading -/

/-- The user of a token; the role is not enforced here. -/
def assertSellerUser (supabaseId : String) : Handler UserId := do
  let user ← read .query fun db => db.userBySupabaseId supabaseId
  let user ← orThrow user (.notFound "User profile not found")
  return user.id

/-- Loads the order and verifies that the caller is its seller. -/
def loadOrderForSellerAction (orderId : OrderId) (sellerId : UserId) : Handler Order := do
  let order ← read .query fun db => db.orders.find? orderId
  let order ← orThrow order (.notFound "Order not found")
  throwIf (order.sellerId ≠ sellerId) (.forbidden "Cannot act on another seller's order")
  return order

def findOrderWithRelations (orderId : OrderId) : Handler Order := do
  let order ← read .query fun db => db.orders.find? orderId
  orThrow order (.notFound "Order not found")

/-! ## Payment -/

/-- Whether the PaymentIntent has succeeded on Stripe; none at all, or a
placeholder, counts in development only. -/
def isPaymentSucceeded (cfg : Config) (pi : Option PaymentIntentId) : Handler Bool :=
  match pi with
  | none => return cfg.development
  | some (.dev _) => return cfg.development
  | some pi => ask .stripeQuery fun answer db =>
      answer.ok && (db.paymentIntents.find? pi).any PaymentIntent.succeeded

/-- Buyer-triggered, server-verified payment confirmation. -/
def confirmPaymentForBuyer (cfg : Config) (supabaseId : String) (orderId : OrderId) :
    Handler Order := do
  let user ← read .query fun db => db.userBySupabaseId supabaseId
  let user ← orThrow user (.notFound "User profile not found")
  let order ← read .query fun db => db.orders.find? orderId
  let order ← orThrow order (.notFound "Order not found")
  throwIf (order.buyerId ≠ user.id) (.forbidden "Cannot confirm another user's order")
  if order.status = .pending then
    let paid ← isPaymentSucceeded cfg order.stripePaymentIntentId
    throwIf (paid = false) (.conflict "Payment has not completed for this order")
    await (.confirmPayment orderId) fun _ => do
      let db ← get
      updateOrder orderId fun o => { o with status := .confirmed, confirmedAt := some db.now }
    findOrderWithRelations orderId
  else
    findOrderWithRelations orderId

/-! ## The seller's steps -/

/-- A seller's transition: checks the owner and the source status, writes the target. -/
def transitionAsSeller (supabaseId : String) (orderId : OrderId) (source : List OrderStatus)
    (target : OrderStatus) : Handler Order := do
  let sellerId ← assertSellerUser supabaseId
  let existing ← loadOrderForSellerAction orderId sellerId
  throwIf (existing.status ∉ source) (.conflict ("Order is in " ++ existing.status.text ++
    "; transition to " ++ target.text ++ " requires one of [" ++
    ", ".intercalate (source.map OrderStatus.text) ++ "]"))
  await (.transitionAsSeller orderId target) fun _ =>
    updateOrder orderId fun o => { o with status := target }
  findOrderWithRelations orderId

/-- CONFIRMED → PREPARING. -/
def startPreparing (supabaseId : String) (orderId : OrderId) : Handler Order :=
  transitionAsSeller supabaseId orderId [.confirmed] .preparing

/-- The delivery that `markReady` creates. -/
def newDelivery (id : DeliveryId) (orderId : OrderId) (pickupToken : String) (now : Time) :
    Delivery where
  id
  orderId
  driverId := none
  status := .searching
  driverAssignedAt := none
  pickedUpAt := none
  deliveredAt := none
  failedAt := none
  failureReason := none
  pickupToken := some pickupToken
  pickupConfirmedAt := none
  pickupConfirmedByDriverId := none
  pickupLat := none
  pickupLng := none
  deliveryToken := none
  deliveredConfirmedAt := none
  deliveredConfirmedByDriverId := none
  deliveredLat := none
  deliveredLng := none
  deliveredAsAbsent := false
  absentProofPhotoUrl := none
  absentProofLat := none
  absentProofLng := none
  absentProofTakenAt := none
  absentProofNote := none
  sellerUnavailableReason := none
  sellerUnavailableAt := none
  sellerUnavailableLat := none
  sellerUnavailableLng := none
  sellerUnavailableNote := none
  sellerUnavailablePhotoUrl := none
  createdAt := now

/-- The transaction of `markReady`: the order is ready, and a delivery order gets
its delivery. -/
def readyOrder (me : Nat) (orderId : OrderId) (choice : FulfillmentChoice) (token : String) :
    Tx Unit := do
  let db ← get
  updateOrder orderId fun o => { o with status := .ready, readyAt := some db.now }
  if choice = .delivery then
    uniquePickupToken (generateUlid me 2) token
    createDelivery (newDelivery (generateUlid me 2) orderId token db.now)

/-- PREPARING → READY. -/
def markReady (me : Nat) (supabaseId : String) (orderId : OrderId) : Handler Order := do
  let sellerId ← assertSellerUser supabaseId
  let existing ← loadOrderForSellerAction orderId sellerId
  throwIf (existing.status ≠ .preparing) (.conflict
    ("Order is in " ++ existing.status.text ++ "; mark-ready requires PREPARING"))
  await (.markReady orderId existing.fulfillmentChoice) fun answer =>
    readyOrder me orderId existing.fulfillmentChoice answer.token
  findOrderWithRelations orderId

/-! ## The two QR codes -/

/-- The payload of a QR code. -/
structure DeliveryQr where
  orderId : OrderId
  deliveryId : DeliveryId
  token : String
  deriving DecidableEq, Repr

/-- The seller's pickup-proof QR; mints the token when the delivery has none. -/
def getSellerPickupQr (supabaseId : String) (orderId : OrderId) : Handler DeliveryQr := do
  let sellerId ← assertSellerUser supabaseId
  let (order, delivery) ← read .query fun db => (db.orders.find? orderId, db.latestDelivery orderId)
  let order ← orThrow order (.notFound "Order not found")
  throwIf (order.sellerId ≠ sellerId) (.forbidden "Cette commande ne vous appartient pas")
  throwIf (order.fulfillmentChoice ≠ .delivery)
    (.badRequest "Le QR de retrait ne concerne que les commandes en livraison")
  let delivery ← orThrow delivery (.badRequest "La commande n'est pas prête pour le retrait")
  match truthy delivery.pickupToken with
  | some token => return ⟨orderId, delivery.id, token⟩
  | none =>
    let token ← await (.mintPickupToken delivery.id) fun answer => do
      uniquePickupToken delivery.id answer.token
      updateDelivery delivery.id fun d => { d with pickupToken := some answer.token }
      return answer.token
    return ⟨orderId, delivery.id, token⟩

/-- The buyer's reception-proof QR; mints the token when the delivery has none. -/
def getBuyerDeliveryQr (supabaseId : String) (orderId : OrderId) : Handler DeliveryQr := do
  let buyerId ← assertSellerUser supabaseId
  let (order, delivery) ← read .query fun db => (db.orders.find? orderId, db.latestDelivery orderId)
  let order ← orThrow order (.notFound "Order not found")
  throwIf (order.buyerId ≠ buyerId) (.forbidden "Cette commande ne vous appartient pas")
  throwIf (order.status ≠ .inDelivery)
    (.badRequest "La commande n'est pas en cours de livraison")
  let delivery ← orThrow (delivery.filter fun d => d.driverId.isSome && d.pickupConfirmedAt.isSome)
    (.badRequest "Le retrait vendeur doit être confirmé avant la livraison")
  match truthy delivery.deliveryToken with
  | some token => return ⟨orderId, delivery.id, token⟩
  | none =>
    let token ← await (.mintDeliveryToken delivery.id) fun answer => do
      uniqueDeliveryToken delivery.id answer.token
      updateDelivery delivery.id fun d => { d with deliveryToken := some answer.token }
      return answer.token
    return ⟨orderId, delivery.id, token⟩

/-! ## No driver -/

/-- No-driver watchdog: a ready delivery order that nobody claimed becomes
NO_DRIVER_AVAILABLE. -/
def handleNoDriverTimeout (orderId : OrderId) : Handler Unit := do
  let (order, delivery) ← read .query fun db => (db.orders.find? orderId, db.latestDelivery orderId)
  match order with
  | none => return ()
  | some order =>
    if delivery.any fun d => d.driverId.isSome || d.status ≠ .searching then
      return ()
    else if order.status ≠ .ready ∨ order.fulfillmentChoice ≠ .delivery then
      return ()
    else
      await (.noDriverTimeout orderId) fun _ =>
        updateOrder orderId fun o => { o with status := .noDriverAvailable }

/-- Cancels a delivery row with a reason. -/
def Delivery.cancel (now : Time) (reason : Reason) (d : Delivery) : Delivery :=
  { d with status := .cancelled, failedAt := some now, failureReason := some reason }

/-- Switches a no-driver order to pickup and cancels its delivery. -/
def switchOrderToPickup (orderId : OrderId) (deliveryId : Option DeliveryId) : Handler Unit :=
  await (.switchToPickup orderId) fun _ => do
    let db ← get
    updateOrder orderId fun o => { o with status := .ready, fulfillmentChoice := .pickup }
    if let some id := deliveryId then
      updateDelivery id (Delivery.cancel db.now .noDriverSwitchedToPickup)

/-- The transaction of `cancelNoDriverOrder`, on what was read before it. -/
def cancelNoDriverTx (order : Order) (delivery : Option Delivery) (reason : Reason) : Tx Unit := do
  let db ← get
  restoreInventory order.inventoryRestored order.items
  updateOrder order.id (Order.cancelRestored db.now reason)
  if let some d := delivery then
    updateDelivery d.id (Delivery.cancel db.now reason)

/-- Cancels a no-driver order, gives its stock back and refunds the buyer. -/
def cancelNoDriverOrder (orderId : OrderId) (reason : Reason) : Handler Unit := do
  let (order, delivery) ← read .query fun db => (db.orders.find? orderId, db.latestDelivery orderId)
  match order with
  | none => return ()
  | some order =>
    await (.cancelNoDriver orderId (!order.inventoryRestored)) fun _ =>
      cancelNoDriverTx order delivery reason
    refundOrderIfNeeded orderId

/-- The buyer's decision after a no-driver prompt. -/
def decideNoDriver (supabaseId : String) (orderId : OrderId) (decision : NoDriverDecision) :
    Handler Order := do
  let userId ← assertSellerUser supabaseId
  let (order, delivery) ← read .query fun db => (db.orders.find? orderId, db.latestDelivery orderId)
  let order ← orThrow order (.notFound "Order not found")
  throwIf (order.buyerId ≠ userId) (.forbidden "Seul le client de la commande peut décider")
  throwIf (order.status ≠ .noDriverAvailable)
    (.conflict "Aucune décision n'est requise pour cette commande")
  match decision with
  | .switchToPickup => switchOrderToPickup order.id (delivery.map Delivery.id)
  | .cancelAndRefund => cancelNoDriverOrder orderId .noDriverBuyerCancelled
  findOrderWithRelations orderId

/-- Auto-cancel when the buyer never answers the no-driver prompt. -/
def autoCancelNoResponse (orderId : OrderId) : Handler Unit := do
  let order ← read .query fun db => db.orders.find? orderId
  if order.any fun o => o.status = .noDriverAvailable then
    cancelNoDriverOrder orderId .buyerNoResponseAfterNoDriver
  else
    return ()

/-! ## The seller cannot provide -/

/-- Statuses that leave nothing to cancel. -/
def resolved : List OrderStatus := [.cancelled, .refunded, .delivered, .completed]

/-- Statuses from which a paid order can be cancelled before pickup. -/
def cancellableFrom : List OrderStatus := [.confirmed, .preparing, .ready]

/-- The transaction of `cancelForSellerUnavailable`, on what was read before it. -/
def cancelSellerUnavailableTx (order : Order) : Tx Unit := do
  let db ← get
  restoreInventory order.inventoryRestored order.items
  updateOrder order.id (Order.cancelRestored db.now .sellerUnavailable)

/-- A driver reported that the seller could not provide the order: cancel,
refund, compensate the driver, strike the seller. -/
def cancelForSellerUnavailable (me : Nat) (orderId : OrderId) (driverId : UserId) :
    Handler Unit := do
  let order ← read .query fun db => db.orders.find? orderId
  let order ← orThrow order (.notFound "Order not found")
  throwIf (order.status ∈ resolved) (.conflict "Commande déjà résolue")
  await (.cancelSellerUnavailable orderId (!order.inventoryRestored)) fun _ =>
    cancelSellerUnavailableTx order
  refundOrderIfNeeded orderId
  Wallets.compensateDriver me orderId driverId order.fulfillmentFeeCents
  -- best effort: a failing strike does not break the cancellation
  try
    let _ ← Strikes.addStrike me
      { userId := order.sellerId, role := .seller, points := 1, reason := .sellerUnavailable
        severity := .light, sourceType := .delivery, orderId := some orderId }
  catch _ =>
    pure ()

structure SellerCannotProvideDto where
  reason : Option String
  note : Option String

/-- Whether a cancellation by the seller still has a delivery to cancel. -/
def cancellableDelivery (delivery : Option Delivery) : Option Delivery :=
  delivery.filter fun d => d.status ≠ .cancelled && d.status ≠ .failed

/-- The transaction of `sellerCannotProvide`, on what was read before it. -/
def sellerCannotProvideTx (order : Order) (delivery : Option Delivery) : Tx Unit := do
  let db ← get
  restoreInventory order.inventoryRestored order.items
  updateOrder order.id (Order.cancelRestored db.now .sellerCannotProvide)
  if let some d := cancellableDelivery delivery then
    updateDelivery d.id (Delivery.cancel db.now .sellerCannotProvide)

/-- The seller cancels an order they cannot fulfil, before pickup. -/
def sellerCannotProvide (me : Nat) (supabaseId : String) (orderId : OrderId)
    (dto : SellerCannotProvideDto) : Handler Order := do
  let sellerId ← assertSellerUser supabaseId
  -- one query reads the order with its latest delivery
  let (order, delivery) ← read .query fun db => (db.orders.find? orderId, db.latestDelivery orderId)
  let order ← orThrow order (.notFound "Order not found")
  throwIf (order.sellerId ≠ sellerId) (.forbidden "Cette commande ne vous appartient pas")
  throwIf ((delivery.any fun d => d.pickupConfirmedAt.isSome) ∨ order.status = .inDelivery ∨
    order.status = .pickedUp) (.conflict "Le retrait a déjà été confirmé")
  throwIf (order.status ∈ resolved) (.conflict "Commande déjà résolue")
  throwIf (order.status ∉ cancellableFrom) (.badRequest "Impossible d'annuler cette commande")
  let reason := (truthy (dto.reason.map jsTrim)).getD "seller_cannot_provide"
  await (.sellerCannotProvide orderId (!order.inventoryRestored)) fun _ =>
    sellerCannotProvideTx order delivery
  refundOrderIfNeeded orderId
  try
    let _ ← Strikes.addStrike me
      { userId := order.sellerId, role := .seller, points := 1, reason := .sellerCannotProvide
        severity := .light, sourceType := .order, orderId := some orderId
        notes := some ((truthy (dto.note.map jsTrim)).getD reason) }
  catch _ =>
    pure ()
  findOrderWithRelations orderId

/-- The transaction of `cancelAsSeller`: it reads the order again, and a lost race
is a no-op. -/
def cancelAsSellerTx (orderId : OrderId) (reason : String) : Tx Unit := do
  let db ← get
  let fresh ← Tx.orThrow (db.orders.find? orderId) (.notFound "Order not found")
  -- otherwise somebody was faster, and the handler goes on as if it had cancelled
  if fresh.status ∈ cancellableFrom then
    restoreInventory fresh.inventoryRestored fresh.items
    updateOrder orderId (Order.cancelRestored db.now (.text reason))

/-- Cancels a confirmed, preparing or ready order and refunds it. -/
def cancelAsSeller (supabaseId : String) (orderId : OrderId) (reason : String) :
    Handler Order := do
  let sellerId ← assertSellerUser supabaseId
  let existing ← loadOrderForSellerAction orderId sellerId
  throwIf (existing.status ∉ cancellableFrom) (.conflict ("Order is in " ++ existing.status.text ++
    "; cancellation is allowed from CONFIRMED, PREPARING, or READY"))
  await (.cancelAsSeller orderId) fun _ => cancelAsSellerTx orderId reason
  refundOrderIfNeeded orderId
  findOrderWithRelations orderId

/-! ## The driver disappeared after pickup -/

/-- The transaction of `resolveDriverDisappeared`. -/
def driverDisappearedTx (orderId : OrderId) (deliveryId : DeliveryId) : Tx Unit := do
  let db ← get
  updateDelivery deliveryId fun d =>
    { d with status := .failed, failedAt := some db.now, failureReason := some .driverDisappeared }
  -- the inventory is not restored: the dish has left the seller
  updateOrder orderId (Order.cancel db.now .driverDisappeared)

/-- Reverses the order's pending driver earning. -/
def reverseDriverEarning (orderId : OrderId) : Tx Unit :=
  updateWalletEntries (fun e => e.orderId = some orderId && e.type = .deliveryEarning &&
    e.status = .pending) (fun e => { e with status := .cancelled }) Wallets.cancelled_id

/-- Delivery failed, order cancelled, buyer refunded, seller paid, driver in debt
and excluded. -/
def resolveDriverDisappeared (me : Nat) (order : Order) (deliveryId : DeliveryId)
    (driverId : Option UserId) : Handler Unit := do
  await (.driverDisappeared deliveryId order.id) fun _ => driverDisappearedTx order.id deliveryId
  await (.reverseDriverEarning order.id) fun _ => reverseDriverEarning order.id
  refundOrderIfNeeded order.id
  Wallets.creditSellerEarning me order.id order.sellerId order.sellerEarningsCents
  match driverId with
  | none => return ()
  | some driver =>
    -- the debt and the exclusion are best effort; a failure of either is logged
    try
      Wallets.recordDriverDebt me order.id driver order.buyerTotalCents
    catch _ =>
      pure ()
    try
      Strikes.immediateExclude me driver .driver .driverDisappearedAfterPickup .delivery deliveryId
        order.id
    catch _ =>
      pure ()

/-- Driver-disappeared watchdog: a delivery that was picked up and never
completed, of an order still in delivery. -/
def handleDriverDeliveryTimeout (me : Nat) (deliveryId : DeliveryId) : Handler Unit := do
  let delivery ← read .query fun db => db.deliveries.find? deliveryId
  match delivery with
  | none => return ()
  | some delivery =>
    -- delivered, or handed over and not yet marked so
    if delivery.status = .delivered ∨ delivery.deliveredConfirmedAt.isSome ∨
        delivery.deliveredAsAbsent then
      return ()
    else if delivery.status = .failed ∨ delivery.status = .cancelled then
      return ()
    -- never picked up: this watchdog is for dishes on the road
    else if delivery.pickupConfirmedAt = none then
      return ()
    else
      let order ← read .query fun db => db.orders.find? delivery.orderId
      match order with
      | none => return ()
      | some order =>
        if order.status ≠ .inDelivery then
          return ()
        else
          resolveDriverDisappeared me order deliveryId delivery.driverId

/-! ## Completion -/

/-- Books the wallet credits; money moves only on withdrawal. -/
def releaseFundsForCompletedOrder (cfg : Config) (me : Nat) (orderId : OrderId) : Handler Unit :=
  Wallets.creditForCompletedOrder cfg me orderId

/-- READY → DELIVERED of a pickup order, by its buyer or its seller. -/
def confirmPickup (cfg : Config) (me : Nat) (supabaseId : String) (orderId : OrderId) :
    Handler Order := do
  let callerId ← assertSellerUser supabaseId
  let order ← read .query fun db => db.orders.find? orderId
  let order ← orThrow order (.notFound "Order not found")
  throwIf (order.sellerId ≠ callerId ∧ order.buyerId ≠ callerId)
    (.forbidden "Only the buyer or seller of the order can confirm pickup")
  throwIf (order.fulfillmentChoice ≠ .pickup) (.badRequest
    "confirm-pickup is only valid for PICKUP orders; DELIVERY uses the driver flow")
  throwIf (order.status ≠ .ready) (.conflict
    ("Order is in " ++ order.status.text ++ "; confirm-pickup requires READY"))
  await (.pickedUpByBuyer orderId) fun _ =>
    updateOrder orderId fun o => { o with status := .delivered }
  releaseFundsForCompletedOrder cfg me orderId
  findOrderWithRelations orderId

/-- Marks the order delivered for its driver, whatever its status, and books the
credits. -/
def confirmDeliveredByDriver (cfg : Config) (me : Nat) (orderId : OrderId) : Handler Order := do
  let order ← read .query fun db => db.orders.find? orderId
  let order ← orThrow order (.notFound "Order not found")
  throwIf (order.fulfillmentChoice ≠ .delivery) (.badRequest
    "confirm-delivery is only valid for DELIVERY orders; PICKUP uses the seller flow")
  runIf (order.status ≠ .delivered) (await (.deliveredByDriver orderId) fun _ =>
    updateOrder orderId fun o => { o with status := .delivered })
  releaseFundsForCompletedOrder cfg me orderId
  findOrderWithRelations orderId

end Orders

end IncaCook
