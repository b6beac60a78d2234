import IncaCook.Library.Embedding
import IncaCook.Model.System

/-!
# Telling of a paid order

`OrdersService.confirmPaymentForBuyer` and the `payment_intent.succeeded` webhook once more,
now with what they tell others after the order is confirmed: the new status to the sockets,
and the paid order to its seller. `notifyOrderPaid` swallows its errors, and so does the
fan-out, so the order itself fares as in the services that tell nobody
(`confirmPaymentForBuyer_alone`, `handlePaymentIntentSucceeded_alone`).
-/

namespace IncaCook

open Prog

inductive ConfirmationSite where
  | orders (site : Site)
  | publishOrderStatus (orderId : OrderId) (status : OrderStatus)
  | notifyOrderPaid (sellerId : UserId) (orderId : OrderId)
  deriving DecidableEq

abbrev confirmationMachine : Machine := ⟨Db, Answer, ConfirmationSite, Err⟩

/-- The statements of the order services. -/
def orderStatements : Machine.Part machine confirmationMachine where
  get := id
  put db _ := db
  site := .orders
  answer := id
  error := id
  get_put _ _ := rfl

namespace Confirmations

/-- `publishOrderStatusChanged` and the webhook's `publishStatus`: however it ends, the
handler goes on. -/
def publishOrderStatusChanged (orderId : OrderId) (status : OrderStatus) :
    Prog confirmationMachine Unit := ask (.publishOrderStatus orderId status) fun _ _ => ()

/-- One push to each device of the seller; none is worth failing for. -/
def notifyOrderPaid (sellerId : UserId) (orderId : OrderId) : Prog confirmationMachine Unit :=
  ask (.notifyOrderPaid sellerId orderId) fun _ _ => ()

/-- Buyer-triggered, server-verified payment confirmation. -/
def confirmPaymentForBuyer (cfg : Config) (supabaseId : String) (orderId : OrderId) :
    Prog confirmationMachine Order := do
  let user ← read (.orders .query) fun db => db.userBySupabaseId supabaseId
  let user ← orThrow user (.notFound "User profile not found")
  let order ← read (.orders .query) fun db => db.orders.find? orderId
  let order ← orThrow order (.notFound "Order not found")
  throwIf (order.buyerId ≠ user.id) (.forbidden "Cannot confirm another user's order")
  if order.status = .pending then
    let paid ← (Orders.isPaymentSucceeded cfg order.stripePaymentIntentId).within orderStatements
    throwIf (paid = false) (.conflict "Payment has not completed for this order")
    await (.orders (.confirmPayment orderId)) fun _ => do
      let db ← get
      updateOrder orderId fun o => { o with status := .confirmed, confirmedAt := some db.now }
    publishOrderStatusChanged orderId .confirmed
    notifyOrderPaid order.sellerId orderId
    (Orders.findOrderWithRelations orderId).within orderStatements
  else
    (Orders.findOrderWithRelations orderId).within orderStatements

/-- payment_intent.succeeded: a pending order is confirmed. -/
def handlePaymentIntentSucceeded (pi : Webhooks.PaymentIntentEvent) :
    Prog confirmationMachine Unit := do
  let order ← (Webhooks.findOrderForPaymentIntent pi).within orderStatements
  match order with
  | none => return ()
  | some order =>
    -- a redelivery, or an order that has moved on
    if order.status ≠ .pending then
      return ()
    else
      await (.orders (.paymentSucceeded order.id)) fun _ => do
        let db ← get
        Webhooks.uniqueBackfill order pi.id
        updateOrder order.id
          (fun o => Webhooks.backfill order pi.id { o with status := .confirmed, confirmedAt := some db.now })
          (fun _ => (Webhooks.backfill_id order pi.id _).trans rfl)
      publishOrderStatusChanged order.id .confirmed
      notifyOrderPaid order.sellerId order.id

/-! Towards the orders these are the handlers of the order services. -/

section

variable {α : Type}

theorem padded_await {site : Site} {stmt : Answer → Tx α} :
    Padded orderStatements (await site stmt : Handler α)
      (await (.orders site) stmt : Prog confirmationMachine α) := by
  have hsame : (await site stmt : Handler α).within orderStatements =
      (await (.orders site) stmt : Prog confirmationMachine α) := by
    unfold await within
    congr 1
    · funext i s
      simp only [orderStatements, id]
      cases stmt i s with
      | error e => rfl
      | ok a => rfl
    · funext i s
      change (Prog.done ((stmt i s).map Prod.fst) : Handler α).within orderStatements =
        (Prog.done ((stmt i s).map Prod.fst) : Prog confirmationMachine α)
      cases stmt i s with
      | error e => rfl
      | ok a => rfl
  rw [← hsame]
  exact padded_within _

theorem confirmPaymentForBuyer_padded (cfg : Config) (supabaseId : String) (orderId : OrderId) :
    Padded orderStatements (Orders.confirmPaymentForBuyer cfg supabaseId orderId)
      (confirmPaymentForBuyer cfg supabaseId orderId) := by
  refine padded_bind (padded_within _) fun user => padded_bind padded_orThrow fun user => ?_
  refine padded_bind (padded_within _) fun order => padded_bind padded_orThrow fun order => ?_
  refine padded_bind padded_throwIf fun _ => padded_ite ?_ (padded_within _)
  refine padded_bind (padded_within _) fun paid => padded_bind padded_throwIf fun _ => ?_
  exact padded_bind padded_await fun _ => padded_ask (padded_ask (padded_within _))

theorem handlePaymentIntentSucceeded_padded (pi : Webhooks.PaymentIntentEvent) :
    Padded orderStatements (Webhooks.handlePaymentIntentSucceeded pi)
      (handlePaymentIntentSucceeded pi) := by
  refine padded_bind (padded_within _) fun order => ?_
  cases order with
  | none => exact .done (.ok ())
  | some order =>
    refine padded_ite (.done (.ok ())) ?_
    -- the handler of the webhooks ends with its write
    rw [← bind_pure (await _ _)]
    refine padded_bind padded_await fun _ => padded_ask ?_
    exact .extra fun _ _ => .done (.ok ())

/-- Run alone, such a handler ends like that of the order services, and leaves the same rows. -/
theorem exec_alone {p : Handler α} {q : Prog confirmationMachine α} (h : Padded orderStatements p q)
    (w : Nat → Answer) (s : Db) :
    ∃ w₀, (q.exec w s).result = (p.exec w₀ s).result ∧ (q.exec w s).state = (p.exec w₀ s).state := by
  obtain ⟨w₀, hresult, hstate⟩ := exec_padded (fun _ => rfl) (fun _ _ _ => rfl) h w s
  refine ⟨w₀, hresult.trans ?_, hstate⟩
  change (p.exec w₀ s).result.mapError id = _
  cases (p.exec w₀ s).result with
  | error e => rfl
  | ok a => rfl

theorem confirmPaymentForBuyer_alone (cfg : Config) (supabaseId : String) (orderId : OrderId)
    (w : Nat → Answer) (s : Db) :
    ∃ w₀, ((confirmPaymentForBuyer cfg supabaseId orderId).exec w s).result =
        ((Orders.confirmPaymentForBuyer cfg supabaseId orderId).exec w₀ s).result ∧
      ((confirmPaymentForBuyer cfg supabaseId orderId).exec w s).state =
        ((Orders.confirmPaymentForBuyer cfg supabaseId orderId).exec w₀ s).state :=
  exec_alone (confirmPaymentForBuyer_padded cfg supabaseId orderId) w s

theorem handlePaymentIntentSucceeded_alone (pi : Webhooks.PaymentIntentEvent) (w : Nat → Answer) (s : Db) :
    ∃ w₀, ((handlePaymentIntentSucceeded pi).exec w s).result =
        ((Webhooks.handlePaymentIntentSucceeded pi).exec w₀ s).result ∧
      ((handlePaymentIntentSucceeded pi).exec w s).state =
        ((Webhooks.handlePaymentIntentSucceeded pi).exec w₀ s).state :=
  exec_alone (handlePaymentIntentSucceeded_padded pi) w s

end

end Confirmations

/-! ## The service -/

inductive ConfirmationCall where
  | confirmPaymentForBuyer (supabaseId : String) (orderId : OrderId)
  | paymentIntentSucceeded (pi : Webhooks.PaymentIntentEvent)

inductive ConfirmationReply where
  | order (order : Order)
  | nothing

/-- The two ways to a confirmed order; meanwhile time passes. -/
def confirmationService (cfg : Config) : Service confirmationMachine where
  Call := ConfirmationCall
  Reply := ConfirmationReply
  Event := Nat
  handle _
    | .confirmPaymentForBuyer sub id => do
      return .order (← Confirmations.confirmPaymentForBuyer cfg sub id)
    | .paymentIntentSucceeded pi => do
      Confirmations.handlePaymentIntentSucceeded pi
      return .nothing
  admits
    | .confirmPaymentForBuyer _ _, _ => true
    | .paymentIntentSucceeded pi, db => genuine db pi true
  event ms db := { db with now := db.now + ms }

end IncaCook
