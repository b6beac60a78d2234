import IncaCook.Steps.Handlers

/-!
# Outlines

A handler reads, and runs its statements on what it has read. It meets a contract whatever it
has read when its reads and its statements do: there is one lemma for each handler that
several contracts are about.
-/

namespace IncaCook

open Prog Orders Deliveries Wallets Webhooks

section

variable {C : Contract machine} {cfg : Config} {me : Nat} {o : OrderId} {d : DeliveryId} {sub : String}

/-! ## Orders -/

theorem isPaymentSucceeded_of (hask : ∀ h s, C.guar h .stripeQuery s s) {pi : Option PaymentIntentId} :
    Free C (isPaymentSucceeded cfg pi) := by
  unfold isPaymentSucceeded
  split
  · exact free_pure
  · exact free_pure
  · exact free_ask hask

theorem confirmPaymentForBuyer_of (hquery : ∀ h s, C.guar h .query s s)
    (hask : ∀ h s, C.guar h .stripeQuery s s)
    (hconfirm : Free C (await (.confirmPayment o) fun _ => do
      let db ← get
      updateOrder o fun r => { r with status := .confirmed, confirmedAt := some db.now })) :
    Free C (confirmPaymentForBuyer cfg sub o) := by
  refine free_bind (free_read hquery) fun _ => free_bind free_orThrow fun user => ?_
  refine free_bind (free_read hquery) fun _ => free_bind free_orThrow fun row => ?_
  refine free_bind free_throwIf fun _ => free_ite ?_ (findOrderWithRelations_of hquery)
  refine free_bind (isPaymentSucceeded_of hask) fun paid => free_bind free_throwIf fun _ => ?_
  exact free_bind hconfirm fun _ => findOrderWithRelations_of hquery

theorem startPreparing_of (hquery : ∀ h s, C.guar h .query s s)
    (hmove : Free C (await (.transitionAsSeller o .preparing) fun _ =>
      updateOrder o fun r => { r with status := .preparing })) : Free C (startPreparing sub o) := by
  refine free_bind (assertSellerUser_of hquery) fun seller => ?_
  refine free_bind (loadOrderForSellerAction_of hquery) fun row => free_bind free_throwIf fun _ => ?_
  exact free_bind hmove fun _ => findOrderWithRelations_of hquery

theorem markReady_of (hquery : ∀ h s, C.guar h .query s s)
    (hready : ∀ choice, Free C (await (.markReady o choice) fun answer =>
      readyOrder me o choice answer.token)) : Free C (markReady me sub o) := by
  refine free_bind (assertSellerUser_of hquery) fun seller => ?_
  refine free_bind (loadOrderForSellerAction_of hquery) fun row => free_bind free_throwIf fun _ => ?_
  exact free_bind (hready _) fun _ => findOrderWithRelations_of hquery

theorem handleNoDriverTimeout_of (hquery : ∀ h s, C.guar h .query s s)
    (htimeout : Free C (await (.noDriverTimeout o) fun _ =>
      updateOrder o fun r => { r with status := .noDriverAvailable })) : Free C (handleNoDriverTimeout o) := by
  refine free_bind (free_read hquery) fun seen => ?_
  obtain ⟨found, delivery⟩ := seen
  cases found with
  | none => exact free_pure
  | some row => exact free_ite free_pure (free_ite free_pure htimeout)

theorem cancelNoDriverOrder_of (hquery : ∀ h s, C.guar h .query s s) {reason : Reason}
    (hcancel : ∀ row delivery, Free C (await (.cancelNoDriver o (!row.inventoryRestored)) fun _ =>
      cancelNoDriverTx row delivery reason))
    (hrefund : Free C (refundOrderIfNeeded o)) : Free C (cancelNoDriverOrder o reason) := by
  refine free_bind (free_read hquery) fun seen => ?_
  obtain ⟨found, delivery⟩ := seen
  cases found with
  | none => exact free_pure
  | some row => exact free_bind (hcancel row delivery) fun _ => hrefund

theorem decideNoDriver_of (hquery : ∀ h s, C.guar h .query s s)
    (hswitch : ∀ o delivery, Free C (switchOrderToPickup o delivery))
    (hcancel : ∀ reason, Free C (cancelNoDriverOrder o reason)) {decision : NoDriverDecision} :
    Free C (decideNoDriver sub o decision) := by
  refine free_bind (assertSellerUser_of hquery) fun user => free_bind (free_read hquery) fun seen => ?_
  refine free_bind free_orThrow fun row => free_bind free_throwIf fun _ => ?_
  refine free_bind free_throwIf fun _ => ?_
  cases decision with
  | switchToPickup => exact free_bind (hswitch _ _) fun _ => findOrderWithRelations_of hquery
  | cancelAndRefund => exact free_bind (hcancel _) fun _ => findOrderWithRelations_of hquery

theorem autoCancelNoResponse_of (hquery : ∀ h s, C.guar h .query s s)
    (hcancel : ∀ reason, Free C (cancelNoDriverOrder o reason)) : Free C (autoCancelNoResponse o) :=
  free_bind (free_read hquery) fun _ => free_ite (hcancel _) free_pure

theorem sellerCannotProvide_of (hquery : ∀ h s, C.guar h .query s s)
    (hcancel : ∀ row delivery, Free C (await (.sellerCannotProvide o (!row.inventoryRestored)) fun _ =>
      sellerCannotProvideTx row delivery))
    (hrefund : Free C (refundOrderIfNeeded o)) (hstrike : ∀ input, Free C (Strikes.addStrike me input))
    {dto : SellerCannotProvideDto} : Free C (sellerCannotProvide me sub o dto) := by
  refine free_bind (assertSellerUser_of hquery) fun seller => free_bind (free_read hquery) fun seen => ?_
  refine free_bind free_orThrow fun row => free_bind free_throwIf fun _ => ?_
  refine free_bind free_throwIf fun _ => free_bind free_throwIf fun _ => ?_
  refine free_bind free_throwIf fun _ => free_bind (hcancel row seen.2) fun _ => ?_
  exact free_bind hrefund fun _ => free_bind (strike_of (hstrike _)) fun _ =>
    findOrderWithRelations_of hquery

theorem cancelAsSeller_of (hquery : ∀ h s, C.guar h .query s s) {reason : String}
    (hcancel : Free C (await (.cancelAsSeller o) fun _ => cancelAsSellerTx o reason))
    (hrefund : Free C (refundOrderIfNeeded o)) : Free C (cancelAsSeller sub o reason) := by
  refine free_bind (assertSellerUser_of hquery) fun seller => ?_
  refine free_bind (loadOrderForSellerAction_of hquery) fun row => free_bind free_throwIf fun _ => ?_
  exact free_bind hcancel fun _ => free_bind hrefund fun _ => findOrderWithRelations_of hquery

/-! ## Deliveries -/

theorem claim_of (hquery : ∀ h s, C.guar h .query s s)
    (hkyc : ∀ driver, Free C (await (.approveDriverKyc driver) fun _ =>
      updateDriverProfile driver fun p => { p with kycStatus := .approved }))
    (hclaim : ∀ driver, Free C (await (.claim d driver) fun _ => claimUpdate d driver)) :
    Free C (claim cfg sub d) := by
  refine free_bind (assertDriver_of hquery) fun driver => free_bind free_throwIf fun _ => ?_
  refine free_bind (free_ite free_pure (free_ite (hkyc _) free_throw)) fun _ => ?_
  exact free_bind (hclaim _) fun _ => free_bind free_throwIf fun _ => loadDelivery_of hquery

theorem arriveAtPickup_of (hquery : ∀ h s, C.guar h .query s s)
    (hmove : Free C (await (.transition d .atPickup) fun _ =>
      updateDelivery d fun r => { r with status := .atPickup })) : Free C (arriveAtPickup sub d) := by
  refine free_bind (assertDriver_of hquery) fun driver => ?_
  refine free_bind (loadDeliveryForDriver_of hquery) fun row => free_bind free_throwIf fun _ => ?_
  exact free_bind hmove fun _ => loadDelivery_of hquery

theorem confirmPickup_of (hquery : ∀ h s, C.guar h .query s s) {dto : ConfirmPickupDto}
    (hpick : ∀ row driver, Free C (await (.confirmPickup d driver) fun answer =>
      confirmPickupTx row driver dto answer.token)) : Free C (Deliveries.confirmPickup sub d dto) := by
  refine free_bind (assertDriver_of hquery) fun driver => ?_
  refine free_bind (loadDeliveryForDriver_of hquery) fun row => free_bind free_throwIf fun _ => ?_
  refine free_bind free_throwIf fun _ => free_bind free_throwIf fun _ => ?_
  exact free_bind (hpick row _) fun _ => loadDelivery_of hquery

theorem getSellerPickupQr_of (hquery : ∀ h s, C.guar h .query s s)
    (hmint : ∀ d, Free C (await (.mintPickupToken d) fun answer => do
      uniquePickupToken d answer.token
      updateDelivery d fun r => { r with pickupToken := some answer.token }
      return answer.token)) : Free C (getSellerPickupQr sub o) := by
  refine free_bind (assertSellerUser_of hquery) fun _ => free_bind (free_read hquery) fun seen => ?_
  refine free_bind free_orThrow fun row => free_bind free_throwIf fun _ => ?_
  refine free_bind free_throwIf fun _ => free_bind free_orThrow fun delivery => ?_
  split
  · exact free_pure
  · exact free_bind (hmint _) fun _ => free_pure

theorem getBuyerDeliveryQr_of (hquery : ∀ h s, C.guar h .query s s)
    (hmint : ∀ d, Free C (await (.mintDeliveryToken d) fun answer => do
      uniqueDeliveryToken d answer.token
      updateDelivery d fun r => { r with deliveryToken := some answer.token }
      return answer.token)) : Free C (getBuyerDeliveryQr sub o) := by
  refine free_bind (assertSellerUser_of hquery) fun _ => free_bind (free_read hquery) fun seen => ?_
  refine free_bind free_orThrow fun row => free_bind free_throwIf fun _ => ?_
  refine free_bind free_throwIf fun _ => free_bind free_orThrow fun delivery => ?_
  split
  · exact free_pure
  · exact free_bind (hmint _) fun _ => free_pure

/-! ## The sweep, webhooks and disputes -/

theorem releaseDuePendingEntries_of (hquery : ∀ h s, C.guar h .query s s)
    (hrelease : ∀ ids now, Free C (await .releaseDue fun _ => releaseEntries ids now))
    (hreverse : ∀ ids, Free C (await .reverseDue fun _ => reverseEntries ids)) :
    Free C releaseDuePendingEntries := by
  refine free_bind (free_read hquery) fun seen => free_ite free_pure ?_
  refine free_bind (free_read hquery) fun orders => ?_
  refine free_bind (free_runIf fun _ => hrelease _ _) fun _ => ?_
  exact free_bind (free_runIf fun _ => hreverse _) fun _ => free_pure

theorem handlePaymentIntentSucceeded_of (hquery : ∀ h s, C.guar h .query s s) {ev : PaymentIntentEvent}
    (hpaid : ∀ row : Order, Free C (await (.paymentSucceeded row.id) fun _ => do
      let db ← get
      uniqueBackfill row ev.id
      updateOrder row.id
        (fun r => backfill row ev.id { r with status := .confirmed, confirmedAt := some db.now })
        (fun _ => (backfill_id row ev.id _).trans rfl))) : Free C (handlePaymentIntentSucceeded ev) := by
  refine free_bind (findOrderForPaymentIntent_free hquery) fun found => ?_
  cases found with
  | none => exact free_pure
  | some row => exact free_ite free_pure (hpaid row)

theorem handlePaymentIntentFailed_of (hquery : ∀ h s, C.guar h .query s s) {ev : PaymentIntentEvent}
    (hfailed : ∀ row : Order, Free C (await (.paymentFailed row.id) fun _ => paymentFailedTx row ev)) :
    Free C (handlePaymentIntentFailed ev) := by
  refine free_bind (findOrderForPaymentIntent_free hquery) fun found => ?_
  cases found with
  | none => exact free_pure
  | some row => exact free_ite free_pure (hfailed row)

theorem handleChargeDispute_of (hquery : ∀ h s, C.guar h .query s s) {dispute : ChargeDispute}
    (hrefresh : ∀ id metadata, Free C (await (.updateDispute id) fun _ =>
      updateDispute id fun r => { r with metadata := some metadata }))
    (hcreate : ∀ (row : Order) metadata, Free C (await (.chargeback row.id) fun _ => do
      let db ← get
      Tx.throwIf (db.disputes.rows.any fun r => r.stripeDisputeId = some dispute.id) .uniqueViolation
      createDisputeRow (newChargeback (generateUlid me 13) row dispute metadata))) :
    Free C (handleChargeDispute me dispute) := by
  refine free_bind (findOrderForDispute_free hquery) fun found => ?_
  cases found with
  | none => exact free_pure
  | some row =>
    refine free_bind (free_read hquery) fun existing => ?_
    cases existing with
    | some existing => exact hrefresh _ _
    | none => exact hcreate row _

end

end IncaCook
