import IncaCook.Steps.Outlines

/-!
# Routine calls

What an order is worth and who is paid for it is decided by a handful of statements:
those that place, hand over and credit an order, compensate for one, and pay out.
Seven calls run them; all the others are routine.

Main results:

* `handle_routine`: the other calls run none of these statements.
-/

namespace IncaCook

open Prog Orders Deliveries Wallets Webhooks

/-- The statements that place, hand over or credit an order, compensate for one, or
pay out. -/
def Site.bookkeeping : Site → Bool
  | .placeOrder _ | .pickedUpByBuyer _ | .deliveredByDriver _ | .creditCompleted _
  | .compensateDriver _ | .creditSeller _ | .driverDebt _ | .settle .. => true
  | _ => false

/-- The calls that run one of these statements. -/
def Call.bookkeeping : Call → Bool
  | .createOrder .. | .confirmOrderPickup .. | .confirmDelivery .. | .confirmAbsentDropoff ..
  | .reportSellerUnavailable .. | .handleDriverDeliveryTimeout .. | .requestWithdrawal .. => true
  | _ => false

/-- The contract of a handler without bookkeeping. -/
abbrev routineContract : Contract machine := sitesContract fun site => site.bookkeeping = false

section

variable {cfg : Config} {me : Nat} {o : OrderId}

/-! ## The statements -/

theorem routine_noop (h : List (StepRecord machine)) (s : Db) : routineContract.guar h .query s s := rfl

theorem routine_query {α : Type} {f : Db → α} : Free routineContract (Prog.read .query f) :=
  free_read routine_noop

/-- A statement of any other kind. -/
theorem routine_await {α : Type} {site : Site} {stmt : Answer → Tx α}
    (hsite : site.bookkeeping = false) : Free routineContract (await site stmt) :=
  free_await_site hsite

theorem refundOrderIfNeeded_routine : Free routineContract (refundOrderIfNeeded o) :=
  refundOrderIfNeeded_of routine_noop (fun _ => routine_await rfl) (fun _ => routine_await rfl)
    (routine_await rfl)

theorem refundForDispute_routine : Free routineContract (refundForDispute o) :=
  free_bind refundOrderIfNeeded_routine fun _ => routine_await rfl

theorem addStrike_routine {input : Strikes.AddStrikeInput} :
    Free routineContract (Strikes.addStrike me input) :=
  addStrike_of routine_noop (fun _ => routine_await rfl) (routine_await rfl)

theorem strike_routine {input : Strikes.AddStrikeInput} :
    Free routineContract (tryCatch (do
      let _ ← Strikes.addStrike me input
      pure ()) fun _ => pure ()) :=
  strike_of addStrike_routine

theorem cancelNoDriverOrder_routine {reason : Reason} :
    Free routineContract (cancelNoDriverOrder o reason) :=
  cancelNoDriverOrder_of routine_noop (fun _ _ => routine_await rfl) refundOrderIfNeeded_routine

theorem createDispute_routine {sub : String} {dto : CreateDisputeDto} :
    Free routineContract (createDispute me sub o dto) := by
  have hcheck : ∀ buyer row delivery now,
      Free routineContract (checkClaim buyer row delivery dto now) := fun _ _ _ _ =>
    free_bind free_throwIf fun _ => free_bind free_throwIf fun _ => free_bind free_throwIf fun _ =>
      free_bind free_throwIf fun _ => free_throwIf
  have hdecide : ∀ {type : DisputeType} {delivery : Option Delivery} {total : Cents},
      Free routineContract (Prog.done (decideDispute type delivery total)) := fun _ _ => trivial
  refine free_bind ?_ fun filed => free_bind ?_ fun _ => free_pure
  · refine free_bind (assertSellerUser_of routine_noop) fun buyer => free_bind routine_query fun seen => ?_
    refine free_bind free_orThrow fun row => free_bind (hcheck _ _ _ _) fun _ => ?_
    refine free_bind routine_query fun existing => free_bind free_throwIf fun _ => ?_
    exact free_bind hdecide fun decision => free_bind (routine_await rfl) fun dispute => free_pure
  · exact free_bind (free_runIf fun _ => refundForDispute_routine) fun _ =>
      free_runIf fun _ => strike_routine

theorem adminApproveRefund_routine {id : DisputeId} {notes : Option String} :
    Free routineContract (adminApproveRefund id notes) :=
  free_bind (getDispute_of routine_noop) fun _ => free_bind routine_query fun _ =>
    free_bind refundForDispute_routine fun _ => routine_await rfl

/-! ## The result -/

/-- **Routine calls** keep no books. -/
theorem handle_routine {call : Call} (hcall : call.bookkeeping = false) :
    Free routineContract (handle cfg me call) := by
  cases call with
  | createOrder sub dto => cases hcall
  | confirmOrderPickup sub o => cases hcall
  | confirmDelivery sub d dto => cases hcall
  | confirmAbsentDropoff sub d dto => cases hcall
  | reportSellerUnavailable sub d dto => cases hcall
  | handleDriverDeliveryTimeout d => cases hcall
  | requestWithdrawal sub => cases hcall
  | confirmPaymentForBuyer sub o =>
    exact free_bind (confirmPaymentForBuyer_of routine_noop (fun _ _ => rfl) (routine_await rfl))
      fun _ => free_pure
  | paymentIntentSucceeded ev =>
    exact free_bind (handlePaymentIntentSucceeded_of routine_noop fun _ => routine_await rfl)
      fun _ => free_pure
  | paymentIntentFailed ev =>
    exact free_bind (handlePaymentIntentFailed_of routine_noop fun _ => routine_await rfl)
      fun _ => free_pure
  | chargeDispute dispute =>
    exact free_bind (handleChargeDispute_of routine_noop (fun _ _ => routine_await rfl)
      fun _ _ => routine_await rfl) fun _ => free_pure
  | startPreparing sub o =>
    exact free_bind (startPreparing_of routine_noop (routine_await rfl)) fun _ => free_pure
  | markReady sub o =>
    exact free_bind (markReady_of routine_noop fun _ => routine_await rfl) fun _ => free_pure
  | getSellerPickupQr sub o =>
    exact free_bind (getSellerPickupQr_of routine_noop fun _ => routine_await rfl) fun _ => free_pure
  | getBuyerDeliveryQr sub o =>
    exact free_bind (getBuyerDeliveryQr_of routine_noop fun _ => routine_await rfl) fun _ => free_pure
  | handleNoDriverTimeout o =>
    exact free_bind (handleNoDriverTimeout_of routine_noop (routine_await rfl)) fun _ => free_pure
  | decideNoDriver sub o decision =>
    exact free_bind (decideNoDriver_of routine_noop (fun _ _ => routine_await rfl)
      fun _ => cancelNoDriverOrder_routine) fun _ => free_pure
  | autoCancelNoResponse o =>
    exact free_bind (autoCancelNoResponse_of routine_noop fun _ => cancelNoDriverOrder_routine)
      fun _ => free_pure
  | sellerCannotProvide sub o dto =>
    exact free_bind (sellerCannotProvide_of routine_noop (fun _ _ => routine_await rfl)
      refundOrderIfNeeded_routine fun _ => addStrike_routine) fun _ => free_pure
  | cancelAsSeller sub o reason =>
    exact free_bind (cancelAsSeller_of routine_noop (routine_await rfl) refundOrderIfNeeded_routine)
      fun _ => free_pure
  | createDispute sub o dto => exact free_bind createDispute_routine fun _ => free_pure
  | adminApproveRefund id notes => exact free_bind adminApproveRefund_routine fun _ => free_pure
  | adminRejectDispute id notes =>
    exact free_bind (free_bind (getDispute_of routine_noop) fun _ => routine_await rfl) fun _ => free_pure
  | adminResolveDispute id notes =>
    exact free_bind (free_bind (getDispute_of routine_noop) fun _ => routine_await rfl) fun _ => free_pure
  | adminConfirmAllergenViolation id notes =>
    exact free_bind (free_bind (getDispute_of routine_noop) fun _ =>
      free_bind strike_routine fun _ => routine_await rfl) fun _ => free_pure
  | adminConfirmFraudulentChargeback id notes =>
    exact free_bind (free_bind (getDispute_of routine_noop) fun _ =>
      free_bind strike_routine fun _ => routine_await rfl) fun _ => free_pure
  | claim sub d =>
    exact free_bind (claim_of routine_noop (fun _ => routine_await rfl) fun _ => routine_await rfl)
      fun _ => free_pure
  | arriveAtPickup sub d =>
    exact free_bind (arriveAtPickup_of routine_noop (routine_await rfl)) fun _ => free_pure
  | confirmPickup sub d dto =>
    exact free_bind (confirmPickup_of routine_noop fun _ _ => routine_await rfl) fun _ => free_pure
  | releaseDuePendingEntries =>
    exact free_bind (releaseDuePendingEntries_of routine_noop (fun _ _ => routine_await rfl)
      fun _ => routine_await rfl) fun _ => free_pure

end

end IncaCook
