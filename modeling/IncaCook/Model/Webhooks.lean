import IncaCook.Model.Orders

/-!
# Stripe webhooks

The events of `StripeWebhookHandlerService` that concern orders: a payment
succeeded, failed or was canceled, and a charge was disputed.
-/

namespace IncaCook

open Prog

namespace Webhooks

/-- The PaymentIntent of an event: its id, the order named by its metadata, and
the text of its failure. -/
structure PaymentIntentEvent where
  id : PaymentIntentId
  metadataOrderId : Option OrderId
  failure : Option String

/-- The order of a PaymentIntent, by its metadata first, then by the recorded id. -/
def findOrderForPaymentIntent (pi : PaymentIntentEvent) : Handler (Option Order) := do
  let byMetadata ← match pi.metadataOrderId with
    | some orderId => read .query fun db => db.orders.find? orderId
    | none => pure none
  match byMetadata with
  | some order => return some order
  | none => read .query fun db => db.orderByPaymentIntent pi.id

/-- `...(order.stripePaymentIntentId ? {} : { stripePaymentIntentId: pi.id })` -/
def backfill (read : Order) (pi : PaymentIntentId) (o : Order) : Order :=
  if read.stripePaymentIntentId.isSome then o else { o with stripePaymentIntentId := some pi }

theorem backfill_id (read : Order) (pi : PaymentIntentId) (o : Order) :
    (backfill read pi o).id = o.id := by
  unfold backfill
  split
  · rfl
  · rfl

/-- Refused when the PaymentIntent would be recorded on a second order. -/
def uniqueBackfill (read : Order) (pi : PaymentIntentId) : Tx Unit :=
  if read.stripePaymentIntentId.isSome then pure () else uniquePaymentIntent read.id pi

/-- payment_intent.succeeded: a pending order is confirmed. -/
def handlePaymentIntentSucceeded (pi : PaymentIntentEvent) : Handler Unit := do
  let order ← findOrderForPaymentIntent pi
  match order with
  | none => return ()
  | some order =>
    -- a redelivery, or an order that was cancelled meanwhile
    if order.status ≠ .pending then
      return ()
    else
      await (.paymentSucceeded order.id) fun _ => do
        let db ← get
        uniqueBackfill order pi.id
        updateOrder order.id
          (fun o => backfill order pi.id { o with status := .confirmed, confirmedAt := some db.now })
          (fun _ => (backfill_id order pi.id _).trans rfl)

/-- The transaction of `handlePaymentIntentFailed`: it reads the order again. -/
def paymentFailedTx (order : Order) (pi : PaymentIntentEvent) : Tx Unit := do
  let db ← get
  match db.orders.find? order.id with
  | none => return ()
  | some fresh =>
    if fresh.status ≠ .pending then
      return ()
    else
      Orders.restoreInventory fresh.inventoryRestored fresh.items
      -- whether the id is backfilled is decided on the order the handler read
      uniqueBackfill order pi.id
      updateOrder order.id
        (fun o => backfill order pi.id
          (Orders.Order.cancelRestored db.now (.text (pi.failure.getD "payment_failed")) o))
        (fun _ => (backfill_id order pi.id _).trans rfl)

/-- payment_intent.payment_failed and .canceled: a pending order is cancelled. -/
def handlePaymentIntentFailed (pi : PaymentIntentEvent) : Handler Unit := do
  let order ← findOrderForPaymentIntent pi
  match order with
  | none => return ()
  | some order =>
    if order.status ≠ .pending then
      return ()
    else
      await (.paymentFailed order.id) fun _ => paymentFailedTx order pi

/-! ## Chargebacks -/

/-- A Stripe dispute of a charge; `evidenceDueBy` is in seconds. -/
structure ChargeDispute where
  id : String
  paymentIntent : Option PaymentIntentId
  metadataOrderId : Option OrderId
  amount : Cents
  currency : String
  reason : String
  status : String
  evidenceDueBy : Option Nat

/-- The order of a dispute, by its PaymentIntent first, then by its metadata. -/
def findOrderForDispute (dispute : ChargeDispute) : Handler (Option Order) := do
  let byPi ← match dispute.paymentIntent with
    | some pi => read .query fun db => db.orderByPaymentIntent pi
    | none => pure none
  match byPi, dispute.metadataOrderId with
  | some order, _ => return some order
  | none, some orderId => read .query fun db => db.orders.find? orderId
  | none, none => return none

/-- The dispute row of a chargeback. -/
def newChargeback (id : DisputeId) (order : Order) (dispute : ChargeDispute)
    (metadata : ChargebackMetadata) : OrderDispute where
  id
  orderId := order.id
  buyerId := order.buyerId
  sellerId := order.sellerId
  deliveryId := none
  type := .chargeback
  status := .adminReview
  description := some ("Chargeback Stripe (" ++ dispute.reason ++ ")")
  photoUrls := none
  proofFileUrls := none
  refundRequested := false
  refundApproved := false
  refundAmountCents := none
  adminNotes := none
  stripeDisputeId := some dispute.id
  metadata := some metadata
  resolvedAt := none

/-- charge.dispute.*: one row for each Stripe dispute, whose payload later events
refresh. -/
def handleChargeDispute (me : Nat) (dispute : ChargeDispute) : Handler Unit := do
  let order ← findOrderForDispute dispute
  match order with
  | none => return ()
  | some order =>
    let metadata : ChargebackMetadata :=
      ⟨dispute.id, dispute.amount, dispute.currency, dispute.reason, dispute.status,
        (dispute.evidenceDueBy.filter (· ≠ 0)).map (· * 1000)⟩
    let existing ← read .query fun db =>
      db.disputes.rows.find? fun d => d.stripeDisputeId = some dispute.id
    match existing with
    | some existing =>
      await (.updateDispute existing.id) fun _ =>
        updateDispute existing.id fun d => { d with metadata := some metadata }
    | none =>
      await (.chargeback order.id) fun _ => do
        let db ← get
        Tx.throwIf (db.disputes.rows.any fun d => d.stripeDisputeId = some dispute.id)
          .uniqueViolation
        createDisputeRow (newChargeback (generateUlid me 13) order dispute metadata)

end Webhooks

end IncaCook
