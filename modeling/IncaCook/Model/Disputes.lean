import IncaCook.Model.Orders

/-!
# Disputes

The buyer's claims of `OrdersService.createDispute`, and the admin's decisions
on them.
-/

namespace IncaCook

open Prog

namespace Orders

/-! ## Filing -/

structure CreateDisputeDto where
  type : DisputeType
  description : Option String
  photoUrls : Option (List String)
  proofFileUrls : Option (List String)

/-- What `createDispute` decides on the type of the claim. -/
structure DisputeDecision where
  status : DisputeStatus
  autoRefund : Bool
  sellerStrike : Bool
  refundApproved : Bool
  refundAmountCents : Option Cents
  message : String
  deriving DecidableEq, Repr

/-- A decision that refunds nothing. -/
def DisputeDecision.plain (status : DisputeStatus) (message : String) : DisputeDecision :=
  ⟨status, false, false, false, none, message⟩

/-- The `switch` on the dispute type. -/
def decideDispute (type : DisputeType) (delivery : Option Delivery) (buyerTotalCents : Cents) :
    Except Err DisputeDecision :=
  match type with
  | .subjectiveDissatisfaction => .ok (.plain .rejected
      "Votre avis est important, mais ce motif ne donne pas lieu à un remboursement.")
  | .neverReceived =>
    if delivery.any fun d => d.deliveredConfirmedAt.isSome || d.deliveredAsAbsent then
      .ok (.plain .adminReview
        "Une preuve de livraison existe : votre réclamation est transmise à notre équipe.")
    else
      .ok ⟨.autoRefunded, true, false, true, some buyerTotalCents,
        "Aucune preuve de livraison : votre commande a été remboursée."⟩
  | .wrongOrder => .ok ⟨.autoRefunded, true, true, true, some buyerTotalCents,
      "Commande erronée : vous avez été remboursé(e)."⟩
  | .spoiledFood =>
    .ok (.plain .adminReview "Signalement transmis à notre équipe (sécurité alimentaire).")
  | .foodPoisoning => .ok (.plain .adminReview "Signalement urgent transmis à notre équipe.")
  | .allergenFalseDeclaration => .ok (.plain .adminReview
      "Signalement allergène transmis à notre équipe (sécurité alimentaire).")
  | .chargeback => .error (.badRequest "Type de litige non pris en charge.")

def claimWindowMs : Nat := 24 * 60 * 60 * 1000

structure CreateDisputeResult where
  dispute : OrderDispute
  message : String

/-- The dispute row of a claim. -/
def newDispute (id : DisputeId) (order : Order) (delivery : Option Delivery)
    (dto : CreateDisputeDto) (decision : DisputeDecision) (now : Time) : OrderDispute where
  id
  orderId := order.id
  buyerId := order.buyerId
  sellerId := order.sellerId
  deliveryId := delivery.map Delivery.id
  type := dto.type
  status := decision.status
  description := dto.description
  photoUrls := dto.photoUrls
  proofFileUrls := dto.proofFileUrls
  refundRequested :=
    dto.type ≠ .subjectiveDissatisfaction && dto.type ≠ .allergenFalseDeclaration
  refundApproved := decision.refundApproved
  refundAmountCents := decision.refundAmountCents
  adminNotes := none
  stripeDisputeId := none
  metadata := none
  resolvedAt :=
    if decision.status = .autoRefunded ∨ decision.status = .rejected then some now else none

/-- The checks of `createDispute` on an order and its latest delivery. -/
def checkClaim (buyerId : UserId) (order : Order) (delivery : Option Delivery)
    (dto : CreateDisputeDto) (now : Time) : Handler Unit := do
  throwIf (order.buyerId ≠ buyerId) (.forbidden "Cette commande ne vous appartient pas")
  throwIf (order.status = .pending) (.badRequest "Cette commande n'a pas encore été payée.")
  -- the window applies only with a delivery timestamp
  throwIf ((order.status = .delivered ∨ order.status = .completed) ∧
      (delivery.bind Delivery.deliveredAt).any fun t => decide (t + claimWindowMs < now))
    (.badRequest "Le délai de réclamation (24h) est dépassé.")
  throwIf (dto.type = .foodPoisoning ∧ (dto.proofFileUrls.getD []).isEmpty)
    (.badRequest "Une preuve est requise pour un signalement d'intoxication.")
  throwIf (dto.type = .allergenFalseDeclaration ∧ (truthy (dto.description.map jsTrim)).isNone)
    (.badRequest "Une description est requise pour ce signalement.")

/-- The first half of `createDispute`: checks the claim, decides on it and records
the dispute. -/
def fileDispute (me : Nat) (supabaseId : String) (orderId : OrderId) (dto : CreateDisputeDto) :
    Handler (OrderDispute × DisputeDecision) := do
  let buyerId ← assertSellerUser supabaseId
  let (order, delivery, now) ← read .query fun db =>
    (db.orders.find? orderId, db.latestDelivery orderId, db.now)
  let order ← orThrow order (.notFound "Order not found")
  checkClaim buyerId order delivery dto now
  let existing ← read .query fun db => db.disputes.rows.any fun d =>
    d.orderId = orderId && d.type = dto.type && (d.status = .open || d.status = .adminReview)
  throwIf existing (.conflict "Un litige est déjà ouvert pour ce motif.")
  let decision ← Prog.done (decideDispute dto.type delivery order.buyerTotalCents)
  let dispute ← await (.createDispute orderId) fun _ => do
    let db ← get
    let row := newDispute (generateUlid me 3) order delivery dto decision db.now
    createDisputeRow row
    return row
  return (dispute, decision)

/-- The second half: the refund and the seller's strike that were decided. -/
def applyDecision (me : Nat) (dispute : OrderDispute) (decision : DisputeDecision) :
    Handler Unit := do
  runIf decision.autoRefund (refundForDispute dispute.orderId)
  runIf decision.sellerStrike do
    try
      let _ ← Strikes.addStrike me
        { userId := dispute.sellerId, role := .seller, points := 1, reason := .wrongOrder
          severity := .light, sourceType := .order, orderId := some dispute.orderId }
    catch _ =>
      pure ()

/-- Buyer files a post-delivery claim. -/
def createDispute (me : Nat) (supabaseId : String) (orderId : OrderId) (dto : CreateDisputeDto) :
    Handler CreateDisputeResult := do
  let (dispute, decision) ← fileDispute me supabaseId orderId dto
  applyDecision me dispute decision
  return { dispute, message := decision.message }

/-! ## Deciding -/

def getDispute (id : DisputeId) : Handler OrderDispute := do
  let dispute ← read .query fun db => db.disputes.find? id
  orThrow dispute (.notFound "Dispute not found")

/-- A dispute row with the admin's decision written on it. -/
def OrderDispute.decide (status : DisputeStatus) (notes : Option String) (now : Time)
    (d : OrderDispute) : OrderDispute :=
  { d with status, adminNotes := notes, resolvedAt := some now }

/-- Writes the decision and returns the row. -/
def writeDecision (id : DisputeId) (f : Time → OrderDispute → OrderDispute)
    (hf : ∀ now d, (f now d).id = d.id) : Tx OrderDispute := do
  let db ← get
  updateDispute id (f db.now) (hf db.now)
  Tx.orThrow ((← get).disputes.find? id) .recordNotFound

/-- Admin approves a refund: refunds the order and resolves the dispute. -/
def adminApproveRefund (id : DisputeId) (notes : Option String) : Handler OrderDispute := do
  let dispute ← getDispute id
  let order ← read .query fun db => db.orders.find? dispute.orderId
  refundForDispute dispute.orderId
  await (.updateDispute id) fun _ => writeDecision id
    (fun now d => { OrderDispute.decide .resolved (notes <|> dispute.adminNotes) now d with
      refundApproved := true
      refundAmountCents := dispute.refundAmountCents <|> order.map Order.buyerTotalCents })
    (fun _ _ => rfl)

/-- What rejecting, resolving and confirming write. -/
def closeDispute (dispute : OrderDispute) (status : DisputeStatus) (notes : Option String) :
    Handler OrderDispute :=
  await (.updateDispute dispute.id) fun _ => writeDecision dispute.id
    (OrderDispute.decide status (notes <|> dispute.adminNotes)) (fun _ _ => rfl)

/-- Admin rejects a dispute (no refund). -/
def adminRejectDispute (id : DisputeId) (notes : Option String) : Handler OrderDispute := do
  let dispute ← getDispute id
  closeDispute dispute .rejected notes

/-- Admin resolves a dispute without a refund. -/
def adminResolveDispute (id : DisputeId) (notes : Option String) : Handler OrderDispute := do
  let dispute ← getDispute id
  closeDispute dispute .resolved notes

/-- Admin confirms a false allergen declaration: a serious strike for the seller. -/
def adminConfirmAllergenViolation (me : Nat) (id : DisputeId) (notes : Option String) :
    Handler OrderDispute := do
  let dispute ← getDispute id
  try
    let _ ← Strikes.addStrike me
      { userId := dispute.sellerId, role := .seller, points := 2
        reason := .allergenFalseDeclaration, severity := .serious, sourceType := .order
        orderId := some dispute.orderId, sourceId := some (.dispute dispute.id)
        notes := notes <|> dispute.description }
  catch _ =>
    pure ()
  closeDispute dispute .resolved notes

/-- Admin confirms a fraudulent chargeback: a serious strike for the buyer. -/
def adminConfirmFraudulentChargeback (me : Nat) (id : DisputeId) (notes : Option String) :
    Handler OrderDispute := do
  let dispute ← getDispute id
  try
    let _ ← Strikes.addStrike me
      { userId := dispute.buyerId, role := .buyer, points := 2
        reason := .fraudulentChargeback, severity := .serious, sourceType := .order
        orderId := some dispute.orderId
        sourceId := some ((dispute.stripeDisputeId.map .stripe).getD (.dispute dispute.id))
        notes := notes <|> dispute.description }
  catch _ =>
    pure ()
  closeDispute dispute .resolved notes

end Orders

end IncaCook
