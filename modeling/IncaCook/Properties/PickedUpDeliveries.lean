import IncaCook.Steps.Handlers

/-!
# Deliveries that are picked up

The driver's taps on the way out, `arriveAtPickup` and `confirmPickup`, in any
interleaving. `transition` checks the status it read and then writes the target
whatever the status has become; so a late arrival takes a delivery whose pickup is
confirmed back to AT_PICKUP, where neither tap nor any later one gets it out.

Main results:

* `PickupStep`: all that the two calls write;
* `picked_up_always_iff`: picked-up deliveries keep a status in which they can be
  completed in exactly the runs whose arrivals are written before the pickup.
-/

namespace IncaCook

open Prog Deliveries

/-! ## The two calls as a service -/

inductive PickupCall where
  | arriveAtPickup (supabaseId : String) (deliveryId : DeliveryId)
  | confirmPickup (supabaseId : String) (deliveryId : DeliveryId) (dto : ConfirmPickupDto)

/-- The driver's calls up to the pickup. Meanwhile anything may happen that leaves the
deliveries alone. -/
def pickupService : Service machine where
  Call := PickupCall
  Reply := Delivery
  Event := Db
  handle _
    | .arriveAtPickup sub d => arriveAtPickup sub d
    | .confirmPickup sub d dto => Deliveries.confirmPickup sub d dto
  admits _ _ := true
  event world db := { world with deliveries := db.deliveries }

/-- Every delivery whose pickup is confirmed is on its way or delivered. -/
def PickedUpStatus (s : Db) : Prop :=
  ∀ r ∈ s.deliveries.rows, r.pickupConfirmedAt.isSome = true → r.status ∈ postPickup

instance (s : Db) : Decidable (PickedUpStatus s) :=
  inferInstanceAs (Decidable (∀ r ∈ s.deliveries.rows, _))

/-- An arrival is written before the pickup is confirmed. -/
def arrivesInTime : Site → Db → Bool
  | .transition d .atPickup, s => (s.deliveries.find? d).all fun r => r.pickupConfirmedAt.isNone
  | _, _ => true

/-! ## What the calls write -/

/-- All that the two calls do to the deliveries. -/
inductive PickupStep : Site → Db → Db → Prop where
  /-- a read, or a write that failed -/
  | noop {site : Site} {s : Db} (hintime : arrivesInTime site s = true) : PickupStep site s s
  | arrive {d : DeliveryId} {s : Db} (hfound : ∃ row, s.deliveries.find? d = some row) :
      PickupStep (.transition d .atPickup) s
        { s with deliveries := s.deliveries.update d fun r => { r with status := .atPickup } }
  | pickUp {d : DeliveryId} {driver : UserId} {dto : ConfirmPickupDto} {token : String} {s : Db}
      {orders : Table Order} :
      PickupStep (.confirmPickup d driver) s { s with
        deliveries := s.deliveries.update d (Delivery.pickUp driver dto token s.now)
        orders }

def pickupContract : Contract machine where
  rely _ _ := True
  guar _ := PickupStep

variable {s s' : Db} {site : Site} {sub : String} {d : DeliveryId}

theorem pickup_query (h : List (StepRecord machine)) (s : Db) : pickupContract.guar h .query s s :=
  .noop rfl

theorem arriveAtPickup_pickup : Free pickupContract (arriveAtPickup sub d) := by
  intro h s
  refine assertDriver_bind pickup_query (fun _ _ _ => trivial) fun s₀ driver user _ _ _ => ?_
  refine loadDeliveryForDriver_bind pickup_query (fun _ _ _ => trivial) fun s₁ row _ _ _ => ?_
  refine sat_throwIf_bind (fun _ => trivial) fun _ => ?_
  refine sat_await_bind fun s₂ _ i => ⟨fun e hrun => ⟨.noop ?_, trivial⟩, fun _ s₃ hrun => ?_⟩
  · -- the row to update is gone
    show (s₂.deliveries.find? d).all _ = true
    rw [updateDelivery_error hrun]
    rfl
  · obtain ⟨hfound, rfl⟩ := updateDelivery_ok.mp hrun
    exact ⟨.arrive hfound, loadDelivery_of pickup_query _ _⟩

theorem confirmPickup_pickup {dto : ConfirmPickupDto} :
    Free pickupContract (Deliveries.confirmPickup sub d dto) := by
  intro h s
  refine assertDriver_bind pickup_query (fun _ _ _ => trivial) fun s₀ driver user _ _ _ => ?_
  refine loadDeliveryForDriver_bind pickup_query (fun _ _ _ => trivial) fun s₁ row _ hrow _ => ?_
  refine sat_throwIf_bind (fun _ => trivial) fun _ => ?_
  refine sat_throwIf_bind (fun _ => trivial) fun _ => ?_
  refine sat_throwIf_bind (fun _ => trivial) fun _ => ?_
  have hkey : row.id = d := Table.key_of_find? hrow
  refine sat_await_bind fun s₂ _ i => ⟨fun _ _ => ⟨.noop rfl, trivial⟩, fun _ s₃ hrun => ?_⟩
  simp only [confirmPickupTx, Stmt.bind_ok, Stmt.get_ok, hkey] at hrun
  obtain ⟨_, _, ⟨rfl, rfl⟩, _, _, hunique, _, _, hpick, hmove⟩ := hrun
  obtain rfl := uniqueDeliveryToken_ok hunique
  obtain ⟨-, rfl⟩ := updateDelivery_ok.mp hpick
  obtain ⟨-, rfl⟩ := updateOrder_ok.mp hmove
  exact ⟨.pickUp, loadDelivery_of pickup_query _ _⟩

/-- The steps of every run of the two calls. -/
theorem pickup_steps (s₀ : Db) (actions : List (Pool.Action pickupService)) :
    ∀ e ∈ (poolRun s₀ actions).trace, PickupStep e.site e.pre e.post := by
  have hfree : ∀ j c, Free pickupContract (pickupService.handle j c) := by
    intro j c
    cases c with
    | arriveAtPickup sub d => exact arriveAtPickup_pickup
    | confirmPickup sub d dto => exact confirmPickup_pickup
  intro e he
  obtain ⟨h, hstep⟩ := Pool.free_step (fun _ _ => trivial) hfree s₀ actions e he
  exact hstep

/-! ## The result -/

/-- A step keeps the status of picked-up deliveries exactly when it is no arrival that
comes late. -/
theorem PickupStep.status_iff (hstep : PickupStep site s s') (hs : PickedUpStatus s) :
    PickedUpStatus s' ↔ arrivesInTime site s = true := by
  cases hstep with
  | noop hintime => exact iff_of_true hs hintime
  | @pickUp d driver dto token s orders =>
    refine iff_of_true (fun r hr hpicked => ?_) rfl
    simp only [Table.mem_update] at hr
    obtain ⟨r₀, hr₀, rfl⟩ := hr
    split
    · simp [Delivery.pickUp, postPickup]
    · rename_i hother
      rw [if_neg hother] at hpicked
      exact hs r₀ hr₀ hpicked
  | @arrive d s hfound =>
    obtain ⟨row, hrow⟩ := hfound
    have hkey : row.id = d := Table.key_of_find? hrow
    have hintime : arrivesInTime (.transition d .atPickup) s = row.pickupConfirmedAt.isNone := by
      simp [arrivesInTime, hrow]
    rw [hintime]
    constructor
    · intro hs'
      by_contra hpicked
      rw [Option.isNone_iff_eq_none, ← ne_eq, Option.ne_none_iff_isSome] at hpicked
      have hmem : { row with status := .atPickup } ∈
          (s.deliveries.update d fun r => { r with status := .atPickup }).rows :=
        Table.mem_update.mpr ⟨row, Table.mem_of_find? hrow, if_pos hkey⟩
      have hat := hs' _ hmem hpicked
      simp [postPickup] at hat
    · intro hnot r hr hpicked
      simp only [Table.mem_update] at hr
      obtain ⟨r₀, hr₀, rfl⟩ := hr
      by_cases hid : Keyed.key r₀ = d
      · obtain rfl : r₀ = row := Table.eq_of_key_eq hr₀ (Table.mem_of_find? hrow) (hid.trans hkey.symm)
        rw [if_pos hid] at hpicked
        simp [Option.isNone_iff_eq_none.mp hnot] at hpicked
      · rw [if_neg hid] at hpicked ⊢
        exact hs r₀ hr₀ hpicked

/-- **When a picked-up delivery can be completed.** In every interleaving of the
driver's arrivals and pickups, from any state in which it holds: every delivery whose
pickup is confirmed has, all along, a status from which it can be completed, if and
only if no arrival is written to a delivery whose pickup is already confirmed. -/
theorem picked_up_always_iff {s₀ : Db} (h0 : PickedUpStatus s₀)
    (actions : List (Pool.Action pickupService)) :
    Pool.Always PickedUpStatus s₀ actions ↔
      (poolRun s₀ actions).Steps fun site s => arrivesInTime site s = true :=
  Pool.always_iff h0 (fun _ _ hs => hs) actions fun e he hs =>
    (pickup_steps s₀ actions e he).status_iff hs

/-- The driver of the small marketplace taps "arrived" (call 0) and "picked up"
(call 1), one after the other. -/
def tapsInOrder : List (Pool.Action pickupService) :=
  .arrive (.arriveAtPickup "driver" ⟨3, 2⟩) ::
    List.replicate 4 (.run 0 ⟨true, "token", ""⟩) ++
    .arrive (.confirmPickup "driver" ⟨3, 2⟩ ⟨"token", none, none⟩) ::
    List.replicate 4 (.run 1 ⟨true, "token", ""⟩)

/-- The same taps, but the arrival is written after the pickup. -/
def lateArrival : List (Pool.Action pickupService) :=
  .arrive (.arriveAtPickup "driver" ⟨3, 2⟩) ::
    List.replicate 2 (.run 0 ⟨true, "token", ""⟩) ++
    .arrive (.confirmPickup "driver" ⟨3, 2⟩ ⟨"token", none, none⟩) ::
    List.replicate 4 (.run 1 ⟨true, "token", ""⟩) ++
    List.replicate 2 (.run 0 ⟨true, "token", ""⟩)

theorem tapsInOrder_status :
    Pool.Always PickedUpStatus (serialRun smallTown orderClaimed).state tapsInOrder :=
  (picked_up_always_iff (by decide +kernel) tapsInOrder).mpr (by decide +kernel)

/-- **A picked-up delivery that cannot be completed.** After a late arrival the pickup
is confirmed, the status is AT_PICKUP and the buyer's token is refused. -/
theorem lateArrival_stuck :
    ¬Pool.Always PickedUpStatus (serialRun smallTown orderClaimed).state lateArrival ∧
      ((Deliveries.confirmDelivery smallTownConfig 2 "driver" ⟨3, 2⟩ ⟨"token", none, none⟩).exec
        (fun _ => ⟨true, "token", ""⟩)
        (poolRun (serialRun smallTown orderClaimed).state lateArrival).state).result.toBool = false := by
  refine ⟨fun h => ?_, by decide +kernel⟩
  have hend := h lateArrival [] (List.append_nil _).symm
  revert hend
  decide +kernel

end IncaCook
