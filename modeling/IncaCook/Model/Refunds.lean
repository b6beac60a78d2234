import IncaCook.Model.Checkout
import IncaCook.Model.Wallets

/-!
# Refunds and restored stock

What the cancellations, timeouts and disputes of `OrdersService` share: giving
an order's stock back, and `refundOrderIfNeeded`, the one place that refunds a
buyer.
-/

namespace IncaCook

open Prog

namespace Orders

/-! ## Stock -/

/-- `UPDATE "Listing" SET "portionsLeft" = "portionsLeft" + qty`: untracked stock
stays untracked. -/
def Listing.restock (qty : Nat) (l : Listing) : Listing :=
  { l with portionsLeft := l.portionsLeft.map fun n => n + qty }

/-- The listings with an order's items given back. -/
def restockListings (listings : Table Listing) (items : List OrderItem) : Table Listing :=
  (quantityByListing (items.map fun i => (i.listingId, i.quantity))).foldl
    (fun t p => t.update p.1 (Listing.restock p.2)) listings

/-- The listings once an order's stock is back, which it may be already. -/
def giveBack (restored : Bool) (items : List OrderItem) (listings : Table Listing) :
    Table Listing :=
  if restored then listings else restockListings listings items

/-- The `restoreByListing` loop of a cancellation. -/
def restoreInventory (restored : Bool) (items : List OrderItem) : Tx Unit :=
  modify fun db => { db with listings := giveBack restored items db.listings }

/-- The order row as every cancellation leaves it. -/
def Order.cancel (now : Time) (reason : Reason) (o : Order) : Order :=
  { o with status := .cancelled, cancelledAt := some now, cancellationReason := some reason }

/-- The row once its stock is back, too. -/
def Order.cancelRestored (now : Time) (reason : Reason) (o : Order) : Order :=
  { Order.cancel now reason o with inventoryRestored := true }

/-! ## Refunds -/

/-- Stripe's `refunds.create`: the charge must have succeeded and not have been
refunded. -/
def createRefund (orderId : OrderId) (pi : PaymentIntentId) (answer : Answer) : Tx RefundId := do
  Tx.throwIf (¬answer.ok) (.internal answer.message)
  let db ← get
  Tx.throwIf (¬(db.paymentIntents.find? pi).any PaymentIntent.succeeded)
    (.internal "This PaymentIntent does not have a successful charge to refund.")
  Tx.throwIf (db.refunds.rows.any fun r => r.paymentIntent = pi)
    (.internal "Charge has already been refunded.")
  let id : RefundId := ⟨db.stripeNext⟩
  let refunds ← Tx.orThrow (db.refunds.insert? ⟨id, pi, orderId⟩) (.internal answer.message)
  set { db with refunds, stripeNext := db.stripeNext + 1 }
  return id

/-- Records the refund on the order. `stripeRefundId` is unique. -/
def saveRefund (orderId : OrderId) (refund : RefundId) (answer : Answer) : Tx Unit := do
  Tx.throwIf (¬answer.ok) .database
  let db ← get
  Tx.throwIf (db.orders.rows.any fun o => o.id ≠ orderId && o.stripeRefundId = some refund)
    .uniqueViolation
  updateOrder orderId fun o => { o with stripeRefundId := some refund, refundedAt := some db.now }

/-- Reverses the order's pending entries. -/
def reversePending (orderId : OrderId) : Tx Unit :=
  updateWalletEntries (fun e => e.orderId = some orderId && e.status = .pending)
    (fun e => { e with status := .cancelled }) Wallets.cancelled_id

/-- Refunds the order in full and records the refund; an order that has a refund
or no PaymentIntent is left alone. A failing Stripe call is logged only. -/
def refundOrderIfNeeded (orderId : OrderId) : Handler Unit := do
  let order ← read .query fun db => db.orders.find? orderId
  match order with
  | none => return ()
  | some order =>
    match order.stripeRefundId, order.stripePaymentIntentId with
    -- refunded already, or cancelled before there was a PaymentIntent
    | some _, _ => return ()
    | none, none => return ()
    | none, some pi =>
      let refund ← try
          let id ← await (.createRefund orderId) (createRefund orderId pi)
          pure (some id)
        catch _ => pure none
      match refund with
      | none => return ()
      | some refund =>
        -- the refund was made: failing to record it is logged, and the earnings go all the same
        try
          await (.saveRefund orderId) (saveRefund orderId refund)
        catch _ =>
          pure ()
        await (.reversePending orderId) fun _ => reversePending orderId

/-- Refunds an order for a dispute and marks it refunded. -/
def refundForDispute (orderId : OrderId) : Handler Unit := do
  refundOrderIfNeeded orderId
  await (.refundDispute orderId) fun _ => updateOrder orderId fun o => { o with status := .refunded }

end Orders

end IncaCook
