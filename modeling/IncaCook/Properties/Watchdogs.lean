import IncaCook.Steps.Quiet

/-!
# Watchdogs

Three timers watch an order: nobody claims its delivery, its buyer does not
answer, its driver does not deliver. Each may fire twice, once in the process and
once from the job queue. The first thing a watchdog writes takes the order out of
the state that triggers it, and nothing that it does afterwards brings it back, so
the second run only reads.

Main results:

* `watchdog_idempotent`: a second run changes nothing, nor does a run that is not
  triggered.
-/

namespace IncaCook

open Prog Orders Deliveries

/-- The calls of the timers. -/
def Call.watchdog : Call → Bool
  | .handleNoDriverTimeout _ | .autoCancelNoResponse _ | .handleDriverDeliveryTimeout _ => true
  | _ => false

/-- What the watchdogs watch for. -/
def Db.triggers (s : Db) : Call → Bool
  | .handleNoDriverTimeout o =>
    (s.orders.find? o).any (fun row => row.status = .ready && row.fulfillmentChoice = .delivery) &&
      (s.latestDelivery o).all fun r => r.status = .searching && r.driverId.isNone
  | .autoCancelNoResponse o => s.orderStatus o = some .noDriverAvailable
  | .handleDriverDeliveryTimeout d => (s.deliveries.find? d).any fun r =>
    r.status ∉ [DeliveryStatus.delivered, .failed, .cancelled] && r.pickupConfirmedAt.isSome &&
      r.deliveredConfirmedAt.isNone && !r.deliveredAsAbsent &&
      s.orderStatus r.orderId = some .inDelivery
  | _ => false

/-- Orders, deliveries, stock, ledger and refunds are the same. -/
structure SameBooks (s s' : Db) : Prop where
  orders : s'.orders = s.orders
  deliveries : s'.deliveries = s.deliveries
  listings : s'.listings = s.listings
  walletEntries : s'.walletEntries = s.walletEntries
  refunds : s'.refunds = s.refunds

section

variable {cfg : Config} {me : Nat} {call : Call} {h : List (StepRecord machine)} {s s' : Db}
  {o : OrderId} {d : DeliveryId}

theorem SameBooks.refl (s : Db) : SameBooks s s := ⟨rfl, rfl, rfl, rfl, rfl⟩

/-! ## No driver -/

theorem triggers_noDriver : s.triggers (.handleNoDriverTimeout o) = true ↔
    ∃ row, s.orders.find? o = some row ∧ row.status = .ready ∧ row.fulfillmentChoice = .delivery ∧
      ∀ r, s.latestDelivery o = some r → r.status = .searching ∧ r.driverId = none := by
  simp only [Db.triggers, Bool.and_eq_true, Option.any_eq_true, decide_eq_true_eq,
    Option.all_eq_true, Option.isNone_iff_eq_none]
  constructor
  · rintro ⟨⟨row, hrow, hready, hchoice⟩, hfree⟩
    exact ⟨row, hrow, hready, hchoice, hfree⟩
  · rintro ⟨row, hrow, hready, hchoice, hfree⟩
    exact ⟨⟨row, hrow, hready, hchoice⟩, hfree⟩

theorem handleNoDriverTimeout_idle (hnot : s.triggers (.handleNoDriverTimeout o) = false) :
    Sat aloneContract (fun _ _ s' => s' = s) (handleNoDriverTimeout o) h s := by
  refine sat_read_bind fun s' hs => ⟨trivial, ?_⟩
  subst hs
  cases hrow : s.orders.find? o with
  | none => rfl
  | some row =>
    refine sat_ite (fun _ => rfl) fun hfree => sat_ite (fun _ => rfl) fun hstill => ?_
    rw [not_or, not_not, not_not] at hstill
    have htriggers : s.triggers (.handleNoDriverTimeout o) = true := by
      refine triggers_noDriver.mpr ⟨row, hrow, hstill.1, hstill.2, fun r hlatest => ?_⟩
      simpa [hlatest, and_comm] using hfree
    rw [hnot] at htriggers
    cases htriggers

/-- A ready order leaves `ready`. -/
theorem handleNoDriverTimeout_fired (htriggers : s.triggers (.handleNoDriverTimeout o) = true) :
    Sat aloneContract (fun _ _ s' => s'.triggers (.handleNoDriverTimeout o) = false)
      (handleNoDriverTimeout o) h s := by
  obtain ⟨row, hrow, hready, hchoice, hfree⟩ := triggers_noDriver.mp htriggers
  refine sat_read_bind fun s' hs => ⟨trivial, ?_⟩
  subst hs
  rw [hrow]
  refine sat_ite (fun hclaimed => ?_) fun _ => sat_ite (fun hmoved => ?_) fun _ => ?_
  · obtain ⟨r, hlatest, hr⟩ := (Option.any_eq_true ..).mp hclaimed
    simp [(hfree r hlatest).1, (hfree r hlatest).2] at hr
  · simp [hready, hchoice] at hmoved
  · refine sat_await_ok fun s' hs i => ?_
    subst hs
    refine ⟨⟨((), _), updateOrder_ok.mpr ⟨⟨row, hrow⟩, rfl⟩⟩, fun _ s₁ hrun => ⟨trivial, ?_⟩⟩
    obtain ⟨-, rfl⟩ := updateOrder_ok.mp hrun
    rw [← Bool.not_eq_true]
    intro hagain
    obtain ⟨row', hrow', hready', -⟩ := triggers_noDriver.mp hagain
    dsimp only at hrow'
    rw [Table.find?_update_of_eq hrow] at hrow'
    rw [← Option.some.inj hrow'] at hready'
    cases hready'

/-! ## No answer -/

theorem autoCancelNoResponse_idle (hnot : s.triggers (.autoCancelNoResponse o) = false) :
    Sat aloneContract (fun _ _ s' => s' = s) (autoCancelNoResponse o) h s := by
  refine sat_read_bind fun s' hs => ⟨trivial, sat_ite (fun hwaits => ?_) fun _ => hs.symm⟩
  subst hs
  obtain ⟨row, hrow, hstatus⟩ := (Option.any_eq_true ..).mp hwaits
  simp [Db.triggers, Db.orderStatus, hrow, of_decide_eq_true hstatus] at hnot

/-- The transaction of a cancellation on the rows just read goes through. -/
theorem cancelNoDriverTx_total {row : Order} {reason : Reason} (hrow : s.orders.find? o = some row) :
    ∃ x, cancelNoDriverTx row (s.latestDelivery o) reason s = .ok x := by
  obtain rfl : row.id = o := Table.key_of_find? hrow
  cases hlatest : s.latestDelivery row.id with
  | none =>
    refine Stmt.bind_total s (Stmt.get_ok.mpr ⟨rfl, rfl⟩) ?_
    refine Stmt.bind_total () (restoreInventory_ok.mpr rfl) ?_
    refine Stmt.bind_total () (updateOrder_ok.mpr ⟨⟨row, hrow⟩, rfl⟩) ?_
    exact ⟨((), _), Stmt.pure_ok.mpr ⟨rfl, rfl⟩⟩
  | some r =>
    obtain ⟨hr, -⟩ := Db.find?_latestDelivery hlatest
    refine Stmt.bind_total s (Stmt.get_ok.mpr ⟨rfl, rfl⟩) ?_
    refine Stmt.bind_total () (restoreInventory_ok.mpr rfl) ?_
    refine Stmt.bind_total () (updateOrder_ok.mpr ⟨⟨row, hrow⟩, rfl⟩) ?_
    exact ⟨((), _), updateDelivery_ok.mpr ⟨⟨r, hr⟩, rfl⟩⟩

/-- A waiting order is cancelled. -/
theorem cancelNoDriverOrder_alone {row : Order} {reason : Reason}
    (hrow : s.orders.find? o = some row) :
    Sat aloneContract (fun _ _ s' => s'.orderStatus o = some .cancelled)
      (cancelNoDriverOrder o reason) h s := by
  refine sat_read_bind fun s' hs => ⟨trivial, ?_⟩
  subst hs
  rw [hrow]
  refine sat_bind (sat_await_ok fun s' hs i => ?_)
  subst hs
  refine ⟨cancelNoDriverTx_total hrow, fun _ s₁ hrun => ⟨trivial, ?_⟩⟩
  have hcancelled : s₁.orderStatus o = some .cancelled := by
    have hid : row.id = o := Table.key_of_find? hrow
    generalize s.latestDelivery o = delivery at hrun
    simp only [cancelNoDriverTx, Stmt.bind_ok, Stmt.get_ok, restoreInventory_ok, hid] at hrun
    obtain ⟨_, _, ⟨rfl, rfl⟩, _, _, rfl, _, s₂, hupdate, hrun⟩ := hrun
    have hmoved : s₂.orderStatus o = some .cancelled := orderStatus_of_update hupdate fun _ => rfl
    cases delivery with
    | none =>
      obtain ⟨-, rfl⟩ := Stmt.pure_ok.mp hrun
      exact hmoved
    | some r =>
      obtain ⟨-, rfl⟩ := updateDelivery_ok.mp hrun
      exact hmoved
  refine (sat_quiet refundOrderIfNeeded_quiet).post fun h r s' hquiet => ?_
  rw [hquiet.status, hcancelled]

theorem autoCancelNoResponse_fired (htriggers : s.triggers (.autoCancelNoResponse o) = true) :
    Sat aloneContract (fun _ _ s' => s'.triggers (.autoCancelNoResponse o) = false)
      (autoCancelNoResponse o) h s := by
  have hstatus : s.orderStatus o = some .noDriverAvailable := of_decide_eq_true htriggers
  obtain ⟨row, hrow, hwaits⟩ := Option.map_eq_some_iff.mp hstatus
  refine sat_read_bind fun s' hs => ⟨trivial, ?_⟩
  subst hs
  refine sat_ite (fun _ => ?_) fun hnot => ?_
  · refine (cancelNoDriverOrder_alone hrow).post fun h r s' hcancelled => ?_
    simp [Db.triggers, hcancelled]
  · simp [hrow, hwaits] at hnot

/-! ## No delivery -/

theorem triggers_driverDelivery : s.triggers (.handleDriverDeliveryTimeout d) = true ↔
    ∃ r row, s.deliveries.find? d = some r ∧ s.orders.find? r.orderId = some row ∧
      r.status ∉ [DeliveryStatus.delivered, .failed, .cancelled] ∧ r.pickupConfirmedAt ≠ none ∧
      r.deliveredConfirmedAt = none ∧ r.deliveredAsAbsent = false ∧ row.status = .inDelivery := by
  simp only [Db.triggers, Option.any_eq_true, Bool.and_eq_true, decide_eq_true_eq,
    Option.isNone_iff_eq_none, Bool.not_eq_true', Option.isSome_iff_ne_none, Db.orderStatus,
    Option.map_eq_some_iff]
  constructor
  · rintro ⟨r, hr, ⟨⟨⟨hlive, hpicked⟩, hopen⟩, habsent⟩, row, hrow, hstatus⟩
    exact ⟨r, row, hr, hrow, hlive, hpicked, hopen, habsent, hstatus⟩
  · rintro ⟨r, row, hr, hrow, hlive, hpicked, hopen, habsent, hstatus⟩
    exact ⟨r, hr, ⟨⟨⟨hlive, hpicked⟩, hopen⟩, habsent⟩, row, hrow, hstatus⟩

theorem handleDriverDeliveryTimeout_idle
    (hnot : s.triggers (.handleDriverDeliveryTimeout d) = false) :
    Sat aloneContract (fun _ _ s' => s' = s) (handleDriverDeliveryTimeout me d) h s := by
  refine sat_read_bind fun s' hs => ⟨trivial, ?_⟩
  subst hs
  cases hr : s.deliveries.find? d with
  | none => rfl
  | some r =>
    refine sat_ite (fun _ => rfl) fun hdelivered => sat_ite (fun _ => rfl) fun hended => ?_
    refine sat_ite (fun _ => rfl) fun hpicked => ?_
    refine sat_read_bind fun s' hs => ⟨trivial, ?_⟩
    subst hs
    cases hrow : s.orders.find? r.orderId with
    | none => rfl
    | some row =>
      refine sat_ite (fun _ => rfl) fun hstatus => ?_
      rw [not_or, not_or] at hdelivered
      rw [not_or] at hended
      -- past all four guards the watchdog would be triggered
      have htriggers : s.triggers (.handleDriverDeliveryTimeout d) = true := by
        refine triggers_driverDelivery.mpr ⟨r, row, hr, hrow, ?_, hpicked, ?_, ?_, ?_⟩
        · simp [hdelivered.1, hended.1, hended.2]
        · simpa using hdelivered.2.1
        · simpa using hdelivered.2.2
        · simpa using hstatus
      rw [hnot] at htriggers
      cases htriggers

/-- The transaction on the rows just read goes through. -/
theorem driverDisappearedTx_total {r : Delivery} {row : Order} (hr : s.deliveries.find? d = some r)
    (hrow : s.orders.find? o = some row) : ∃ x, driverDisappearedTx o d s = .ok x := by
  refine Stmt.bind_total s (Stmt.get_ok.mpr ⟨rfl, rfl⟩) ?_
  refine Stmt.bind_total () (updateDelivery_ok.mpr ⟨⟨r, hr⟩, rfl⟩) ?_
  exact ⟨((), _), updateOrder_ok.mpr ⟨⟨row, hrow⟩, rfl⟩⟩

/-- The transaction fails the delivery. -/
theorem driverDisappearedTx_failed {u : Unit} (hrun : driverDisappearedTx o d s = .ok (u, s')) :
    ∃ r, s'.deliveries.find? d = some r ∧ r.status = .failed := by
  simp only [driverDisappearedTx, Stmt.bind_ok, Stmt.get_ok, updateDelivery_ok, updateOrder_ok] at hrun
  obtain ⟨_, _, ⟨rfl, rfl⟩, _, _, ⟨⟨r, hr⟩, rfl⟩, -, rfl⟩ := hrun
  exact ⟨_, Table.find?_update_of_eq hr, rfl⟩

/-- A failed delivery triggers nothing. -/
theorem not_triggers_of_failed {r : Delivery} (hr : s.deliveries.find? d = some r)
    (hfailed : r.status = .failed) : s.triggers (.handleDriverDeliveryTimeout d) = false := by
  simp [Db.triggers, hr, hfailed]

/-- What follows the transaction is quiet. -/
theorem afterDriverDisappeared_quiet {row : Order} {driver : Option UserId} :
    Free quietContract (do
      await (.reverseDriverEarning row.id) fun _ => reverseDriverEarning row.id
      refundOrderIfNeeded row.id
      Wallets.creditSellerEarning me row.id row.sellerId row.sellerEarningsCents
      match driver with
      | none => return ()
      | some driver =>
        try
          Wallets.recordDriverDebt me row.id driver row.buyerTotalCents
        catch _ =>
          pure ()
        try
          Strikes.immediateExclude me driver .driver .driverDisappearedAfterPickup .delivery d row.id
        catch _ =>
          pure ()) := by
  refine free_bind reverseDriverEarning_quiet fun _ => free_bind refundOrderIfNeeded_quiet fun _ => ?_
  refine free_bind creditSellerEarning_quiet fun _ => ?_
  cases driver with
  | none => exact free_pure
  | some driver =>
    refine free_bind (free_tryCatch recordDriverDebt_quiet fun _ => free_pure) fun _ => ?_
    exact free_tryCatch immediateExclude_quiet fun _ => free_pure

/-- The delivery fails. -/
theorem handleDriverDeliveryTimeout_fired
    (htriggers : s.triggers (.handleDriverDeliveryTimeout d) = true) :
    Sat aloneContract (fun _ _ s' => s'.triggers (.handleDriverDeliveryTimeout d) = false)
      (handleDriverDeliveryTimeout me d) h s := by
  obtain ⟨r, row, hr, hrow, hlive, hpicked, hopen, habsent, hstatus⟩ :=
    triggers_driverDelivery.mp htriggers
  refine sat_read_bind fun s' hs => ⟨trivial, ?_⟩
  subst hs
  rw [hr]
  simp only [List.mem_cons, List.not_mem_nil, or_false, not_or] at hlive
  refine sat_ite (fun hdelivered => ?_) fun _ => sat_ite (fun hended => ?_) fun _ => ?_
  · simp [hlive.1, hopen, habsent] at hdelivered
  · simp [hlive.2.1, hlive.2.2] at hended
  refine sat_ite (fun hnone => absurd hnone hpicked) fun _ => ?_
  refine sat_read_bind fun s' hs => ⟨trivial, ?_⟩
  subst hs
  rw [hrow]
  refine sat_ite (fun hnot => absurd hstatus hnot) fun _ => ?_
  have hid : row.id = r.orderId := Table.key_of_find? hrow
  refine sat_bind (sat_await_ok fun s' hs i => ?_)
  subst hs
  refine ⟨driverDisappearedTx_total hr (hid ▸ hrow), fun _ s₁ hrun => ⟨trivial, ?_⟩⟩
  obtain ⟨r₁, hr₁, hfailed⟩ := driverDisappearedTx_failed hrun
  -- refund, credit, debt and strike come after the transaction and leave the delivery failed
  refine (sat_quiet afterDriverDisappeared_quiet).post fun h r s' hquiet => ?_
  exact not_triggers_of_failed (hquiet.deliveries ▸ hr₁) hfailed

/-! ## Every watchdog -/

/-- A watchdog that is not triggered leaves the state as it is. -/
theorem watchdog_idle (hcall : call.watchdog = true) (hnot : s.triggers call = false)
    (w : Nat → Answer) : ((handle cfg me call).exec w s).state = s := by
  have hreply : ∀ p : Handler Unit, Sat aloneContract (fun _ _ s' => s' = s) p [] s →
      ((do p; return Reply.nothing : Handler Reply).exec w s).state = s := by
    intro p hp
    have hsat : Sat aloneContract (fun _ _ s' => s' = s) (do p; return Reply.nothing : Handler Reply)
        [] s := sat_bind_keep hp fun _ _ _ hs => hs
    exact (hsat.exec (fun _ => rfl) w).2
  cases call with
  | handleNoDriverTimeout o => exact hreply _ (handleNoDriverTimeout_idle hnot)
  | autoCancelNoResponse o => exact hreply _ (autoCancelNoResponse_idle hnot)
  | handleDriverDeliveryTimeout d => exact hreply _ (handleDriverDeliveryTimeout_idle hnot)
  | _ => cases hcall

/-- After a watchdog has run, nothing triggers it. -/
theorem watchdog_done (hcall : call.watchdog = true) (w : Nat → Answer) :
    ((handle cfg me call).exec w s).state.triggers call = false := by
  cases hbefore : s.triggers call with
  | false => rw [watchdog_idle hcall hbefore w, hbefore]
  | true =>
    have hreply : ∀ p : Handler Unit, Sat aloneContract (fun _ _ s' => s'.triggers call = false) p
        [] s → ((do p; return Reply.nothing : Handler Reply).exec w s).state.triggers call = false := by
      intro p hp
      have hsat : Sat aloneContract (fun _ _ s' => s'.triggers call = false)
          (do p; return Reply.nothing : Handler Reply) [] s := sat_bind_keep hp fun _ _ _ hs => hs
      exact (hsat.exec (fun _ => rfl) w).2
    cases call with
    | handleNoDriverTimeout o => exact hreply _ (handleNoDriverTimeout_fired hbefore)
    | autoCancelNoResponse o => exact hreply _ (autoCancelNoResponse_fired hbefore)
    | handleDriverDeliveryTimeout d => exact hreply _ (handleDriverDeliveryTimeout_fired hbefore)
    | _ => cases hcall

/-- Time and payments trigger no watchdog. -/
theorem triggers_event (e : Event) : (applyEvent e s).triggers call = s.triggers call := by
  cases e with
  | tick ms => cases call <;> rfl
  | paymentSucceeds pi => cases call <;> rfl

theorem SameBooks.event (hsame : SameBooks s s') (e : Event) : SameBooks s (applyEvent e s') := by
  cases e with
  | tick ms =>
    exact ⟨hsame.orders, hsame.deliveries, hsame.listings, hsame.walletEntries, hsame.refunds⟩
  | paymentSucceeds pi =>
    exact ⟨hsame.orders, hsame.deliveries, hsame.listings, hsame.walletEntries, hsame.refunds⟩

theorem events_between (events : List Event) (hsame : SameBooks s s') :
    SameBooks s (events.foldl (fun s e => applyEvent e s) s') ∧
      (events.foldl (fun s e => applyEvent e s) s').triggers call = s'.triggers call := by
  induction events generalizing s' with
  | nil => exact ⟨hsame, rfl⟩
  | cons e events ih =>
    obtain ⟨hbooks, htriggers⟩ := ih (hsame.event e)
    exact ⟨hbooks, htriggers.trans (triggers_event e)⟩

end

/-- **Watchdogs are idempotent, and otherwise inert.** From every state, a watchdog
that runs again, whatever happened by itself in between, leaves orders, deliveries,
stock, ledger and refunds as its first run did; and one that is not triggered
changes none of these. -/
theorem watchdog_idempotent (cfg : Config) (s : Db) (call : Call) (hcall : call.watchdog = true)
    (me me' : Nat) (w w' : Nat → Answer) (events : List Event) :
    let once := ((handle cfg me call).exec w s).state
    let twice := ((handle cfg me' call).exec w'
      (events.foldl (fun s e => applyEvent e s) once)).state
    SameBooks once twice ∧ (s.triggers call = false → SameBooks s once) := by
  intro once twice
  constructor
  · -- whatever the first run did, it has disarmed the watchdog
    have hdone : once.triggers call = false := watchdog_done hcall w
    have hbetween : SameBooks once (events.foldl (fun s e => applyEvent e s) once) ∧
        (events.foldl (fun s e => applyEvent e s) once).triggers call = once.triggers call :=
      events_between events (.refl once)
    obtain ⟨hbooks, htriggers⟩ := hbetween
    have htwice : twice = events.foldl (fun s e => applyEvent e s) once :=
      watchdog_idle hcall (htriggers.trans hdone) w'
    rw [htwice]
    exact hbooks
  · intro hnot
    have honce : once = s := watchdog_idle hcall hnot w
    rw [honce]
    exact .refl s

/-- An order that nobody claims, and the timer and the queue both notice. -/
theorem no_driver_timeout_twice :
    let ready := (serialRun smallTown (orderPaid ++
      [smallTownCall (.startPreparing "seller" ⟨0, 0⟩),
        smallTownCall (.markReady "seller" ⟨0, 0⟩)])).state
    let once := ((handle smallTownConfig 4 (.handleNoDriverTimeout ⟨0, 0⟩)).exec
      (fun _ => ⟨true, "token", ""⟩) ready).state
    Db.orderStatus once ⟨0, 0⟩ = some .noDriverAvailable ∧
      SameBooks once ((handle smallTownConfig 5 (.handleNoDriverTimeout ⟨0, 0⟩)).exec
        (fun _ => ⟨true, "token", ""⟩) once).state :=
  ⟨by decide +kernel, (watchdog_idempotent smallTownConfig _ (.handleNoDriverTimeout ⟨0, 0⟩) rfl
    4 5 _ _ []).1⟩

end IncaCook
