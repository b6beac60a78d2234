import IncaCook.Properties.OneDelivery

/-!
# The chain of proof behind a delivery

A delivery counts as delivered only after its driver has scanned the seller's
code and then the buyer's, or left a photo and a position at the buyer's door.
The rows show it (`Proven`), and the calls that were made bear it out: the two
calls are found in the history, in this order, by the driver of the delivery.

Main results:

* `Step.proven`: every step keeps deliveries `Proven`;
* `delivered_has_proof`: the calls behind every delivered delivery.
-/

namespace IncaCook

open Prog Orders Deliveries

/-- The seller has handed the order over to the driver. -/
def Delivery.picked (r : Delivery) : Bool := r.pickupConfirmedAt.isSome

/-- The statuses of an order before any driver has it. -/
def beforeDriver : List OrderStatus := [.pending, .confirmed, .preparing, .ready, .noDriverAvailable]

/-- What the row of a delivery shows. -/
structure Delivery.Sound (r : Delivery) : Prop where
  driver : r.picked = true → r.driverId.isSome = true
  out : r.status ∈ outForDelivery → r.picked = true
  delivered : r.status = .delivered ↔ r.deliveredConfirmedAt.isSome = true
  handedOver : r.status = .delivered → r.picked = true

/-- Rows show what happened, an order that a driver has is past all waiting, and
an order with a delivery is for delivery. -/
structure Proven (s : Db) : Prop where
  paired : Paired s
  sound : ∀ d r, s.deliveries.find? d = some r → r.Sound
  order : ∀ d r row, s.deliveries.find? d = some r → s.orders.find? r.orderId = some row →
    r.picked = true → row.status ∉ beforeDriver
  choice : ∀ d r row, s.deliveries.find? d = some r → s.orders.find? r.orderId = some row →
    r.status ≠ .cancelled → row.fulfillmentChoice = .delivery

section

variable {cfg : Config} {me : Nat} {call : Call} {h : List (StepRecord machine)} {site : Site}
  {s s' : Db} {o : OrderId} {d : DeliveryId}

theorem Proven.of_fresh (h0 : Fresh s) : Proven s := by
  have hnone : ∀ d, s.deliveries.find? d = none := fun d => by simp [Table.find?, h0.deliveries]
  refine ⟨.of_fresh h0, fun d r hr => ?_, fun d r row hr => ?_, fun d r row hr => ?_⟩
  · rw [hnone d] at hr
    cases hr
  · rw [hnone d] at hr
    cases hr
  · rw [hnone d] at hr
    cases hr

/-! ## Moves of an order -/

/-- An order that a driver has had never waits for one again. -/
theorem OrderMove.not_before {row row' : Order} (hmove : OrderMove cfg call s o site row row')
    (hnot : row.status ∉ beforeDriver) : row'.status ∉ beforeDriver := by
  cases hmove with
  | stay => exact hnot
  | savePaymentIntent pi => exact hnot
  | saveRefund refund hcause => exact hnot
  | confirmPayment hfrom hpaid => simp [hfrom, beforeDriver] at hnot
  | paymentSucceeded ev hfrom hgenuine => simp [hfrom, beforeDriver] at hnot
  | startPreparing hfrom => simp [hfrom, beforeDriver] at hnot
  | markReady hfrom => simp [hfrom, beforeDriver] at hnot
  | noDriverTimeout hfrom hchoice => simp [hfrom, beforeDriver] at hnot
  | switchToPickup hfrom => simp [hfrom, beforeDriver] at hnot
  | _ => simp [beforeDriver, Orders.Order.cancel]

/-- An order for delivery stays so until it is switched to pickup. -/
theorem OrderMove.choice {row row' : Order} (hmove : OrderMove cfg call s o site row row')
    (hchoice : row.fulfillmentChoice = .delivery) :
    row'.fulfillmentChoice = .delivery ∨ site = .switchToPickup o := by
  cases hmove with
  | switchToPickup hfrom => exact .inr rfl
  | paymentSucceeded ev hfrom hgenuine => exact .inl (by simpa using hchoice)
  | paymentFailed ev reason hfrom => exact .inl (by simpa using hchoice)
  | _ => exact .inl hchoice

/-- The pickup of a delivery puts its order in delivery. -/
theorem Step.picked_order (hstep : Step cfg Eq me call h site s s') {r r' : Delivery}
    (hr : s.deliveries.find? d = some r) (hr' : s'.deliveries.find? d = some r') {driver : UserId}
    (hsite : site = .confirmPickup d driver) (hnot : r.picked = false) (hpicked : r'.picked = true)
    {row' : Order} (hrow' : s'.orders.find? r.orderId = some row') : row'.status = .inDelivery := by
  have hmoved : r' ≠ r := by
    rintro rfl
    rw [hnot] at hpicked
    cases hpicked
  cases hstep with
  | noop => exact absurd (Option.some.inj (hr'.symm.trans hr)) hmoved
  | aside haside =>
    rw [haside.deliveries] at hr'
    exact absurd (Option.some.inj (hr'.symm.trans hr)) hmoved
  | confirmPickup d₁ driver₁ token hcall huser hR hsaw hdriver hpick hstatus htoken =>
    cases hsite
    subst hR
    dsimp only at hrow'
    obtain rfl := Option.some.inj (hr.symm.trans hsaw)
    rw [Table.find?_update_self, Option.map_eq_some_iff] at hrow'
    obtain ⟨row, -, rfl⟩ := hrow'
    rfl
  | _ => cases hsite

/-- Switching an order to pickup cancels its delivery. -/
theorem Step.switched_delivery (hstep : Step cfg Eq me call h (.switchToPickup o) s s')
    (hp : Paired s) {r r' : Delivery} (hr : s.deliveries.find? d = some r) (hof : r.orderId = o)
    (hr' : s'.deliveries.find? d = some r') {row row' : Order}
    (hrow : s.orders.find? o = some row) (hrow' : s'.orders.find? o = some row')
    (hmoved : row' ≠ row) : r'.status = .cancelled := by
  subst hof
  cases hstep with
  | noop => exact absurd (Option.some.inj (hrow'.symm.trans hrow)) hmoved
  | aside haside =>
    rw [haside.orders] at hrow'
    exact absurd (Option.some.inj (hrow'.symm.trans hrow)) hmoved
  | switchToPickup _ hR hsaw hstatus =>
    subst hR
    have hid : r.id = d := Table.key_of_find? hr
    dsimp only at hr'
    rw [hp.latestDelivery hr] at hr'
    dsimp only at hr'
    rw [hid, Table.find?_update_of_eq hr] at hr'
    rw [← Option.some.inj hr']
    rfl

/-! ## Moves of a delivery -/

theorem not_outForDelivery_of_prePickup {status : DeliveryStatus} (hfrom : status ∈ prePickup) :
    status ∉ outForDelivery ∧ status ≠ .delivered := by
  revert status
  decide

/-- A cancelled delivery stays cancelled. -/
theorem DeliveryMove.not_cancelled {row row' : Delivery}
    (hmove : DeliveryMove s d call site row row') (hnot : row'.status ≠ .cancelled) :
    row.status ≠ .cancelled := by
  cases hmove with
  | stay => exact hnot
  | mintPickupToken token hnone => exact hnot
  | mintDeliveryToken token hnone => exact hnot
  | driverDisappeared hpickup hopen hfrom =>
    rintro hcancelled
    simp [hcancelled] at hfrom
  | claim driver hfrom hfree => simp [hfrom]
  | arriveAtPickup hfrom hdriver => simp [hfrom]
  | confirmPickup token huser hdriver hpick hfrom htoken =>
    rintro hcancelled
    simp [hcancelled, prePickup] at hfrom
  | confirmDelivery huser hdriver hopen hfrom htoken =>
    rintro hcancelled
    simp [hcancelled, outForDelivery] at hfrom
  | confirmAbsentDropoff huser hdriver hopen hfrom hphoto hgps =>
    rintro hcancelled
    simp [hcancelled, outForDelivery] at hfrom
  | _ => exact absurd rfl hnot

/-- Which move hands a delivery over. -/
theorem DeliveryMove.picks {row row' : Delivery} (hmove : DeliveryMove s d call site row row')
    (hpicked : row'.picked = true) : row.picked = true ∨
      (row.picked = false ∧ ∃ driver, site = .confirmPickup d driver) := by
  cases hmove with
  | confirmPickup token huser hdriver hpick hfrom htoken =>
    exact .inr ⟨by simp [Delivery.picked, hpick], _, rfl⟩
  | _ => exact .inl hpicked

/-- A delivery that ends without having been handed over was not delivered. -/
theorem Delivery.Sound.end {row row' : Delivery} (hs : row.Sound) (hnot : row.picked = false)
    (hpicked : row'.picked = row.picked) (hdone : row'.deliveredConfirmedAt = row.deliveredConfirmedAt)
    (hstatus : row'.status = .cancelled ∨ row'.status = .failed) : row'.Sound := by
  have hopen : row.deliveredConfirmedAt.isSome ≠ true := by
    intro hsome
    rw [hs.handedOver (hs.delivered.mpr hsome)] at hnot
    cases hnot
  have hout : row'.status ∉ outForDelivery ∧ row'.status ≠ .delivered := by
    rcases hstatus with hstatus | hstatus
    · simp [hstatus, outForDelivery]
    · simp [hstatus, outForDelivery]
  constructor
  · intro hp
    rw [hpicked, hnot] at hp
    cases hp
  · exact fun hin => absurd hin hout.1
  · rw [hdone]
    exact ⟨fun hd => absurd hd hout.2, fun hsome => absurd hsome hopen⟩
  · exact fun hd => absurd hd hout.2

/-- A move keeps the row's story straight, if the order of a delivery that was
handed over is past all waiting. -/
theorem DeliveryMove.sound {row row' : Delivery} (hmove : DeliveryMove s d call site row row')
    (hs : row.Sound) (horder : ∀ order, s.orders.find? row.orderId = some order →
      row.picked = true → order.status ∉ beforeDriver) : row'.Sound := by
  -- a delivery that was handed over has left the waiting room, so the moves
  -- that end an order without a driver never meet it
  have hwaiting : ∀ order, s.orders.find? row.orderId = some order →
      order.status = .noDriverAvailable → row.picked = false := by
    intro order hfound hstatus
    rw [← Bool.not_eq_true]
    intro hpicked
    have hnot := horder order hfound hpicked
    simp [hstatus, beforeDriver] at hnot
  cases hmove with
  | stay => exact hs
  | mintPickupToken token hnone => exact ⟨hs.driver, hs.out, hs.delivered, hs.handedOver⟩
  | mintDeliveryToken token hnone => exact ⟨hs.driver, hs.out, hs.delivered, hs.handedOver⟩
  | switchToPickup hfound hstatus => exact hs.end (hwaiting _ hfound hstatus) rfl rfl (.inl rfl)
  | cancelNoDriver reason hfound hstatus => exact hs.end (hwaiting _ hfound hstatus) rfl rfl (.inl rfl)
  | sellerCannotProvide hfound hstatus hpickup =>
    exact hs.end (by simp [Delivery.picked, hpickup]) rfl rfl (.inl rfl)
  | driverDisappeared hpickup hopen hfrom =>
    refine ⟨hs.driver, fun hout => ?_, ?_, fun hd => by cases hd⟩
    · simp [outForDelivery] at hout
    · simp [hopen]
  | claim driver hfrom hfree =>
    have hopen := hs.delivered
    simp only [hfrom, reduceCtorEq, false_iff] at hopen
    refine ⟨fun _ => rfl, fun hout => ?_, ?_, fun hd => by cases hd⟩
    · simp [Deliveries.Delivery.assign, outForDelivery] at hout
    · simpa [Deliveries.Delivery.assign] using hopen
  | arriveAtPickup hfrom hdriver =>
    have hopen := hs.delivered
    simp only [hfrom, reduceCtorEq, false_iff] at hopen
    refine ⟨hs.driver, fun hout => ?_, ?_, fun hd => by cases hd⟩
    · simp [outForDelivery] at hout
    · simpa using hopen
  | confirmPickup token huser hdriver hpick hfrom htoken =>
    have hopen := hs.delivered
    simp only [(not_outForDelivery_of_prePickup hfrom).2, false_iff] at hopen
    refine ⟨fun _ => ?_, fun _ => rfl, ?_, fun _ => rfl⟩
    · change row.driverId.isSome = true
      rw [hdriver]
      rfl
    · simpa [Deliveries.Delivery.pickUp] using hopen
  | confirmDelivery huser hdriver hopen hfrom htoken =>
    have hpicked := hs.out hfrom
    exact ⟨fun _ => hs.driver hpicked, fun _ => hpicked, by simp [Deliveries.Delivery.deliver],
      fun _ => hpicked⟩
  | confirmAbsentDropoff huser hdriver hopen hfrom hphoto hgps =>
    have hpicked := hs.out hfrom
    exact ⟨fun _ => hs.driver hpicked, fun _ => hpicked,
      by simp [Deliveries.Delivery.dropOff, Deliveries.Delivery.deliver], fun _ => hpicked⟩
  | reportSellerUnavailable hdriver hnot hfrom =>
    exact hs.end (by simp [Delivery.picked, hnot]) rfl rfl (.inl rfl)

/-- The row of a new delivery. -/
theorem newDelivery_sound {o : OrderId} {token : String} {now : Time} :
    (newDelivery d o token now).Sound := by
  constructor
  · intro hpicked
    cases hpicked
  · intro hout
    simp [newDelivery, outForDelivery] at hout
  · simp [newDelivery]
  · intro hd
    cases hd

/-- **Deliveries stay proven.** -/
theorem Step.proven (hstep : Step cfg Eq me call h site s s') (hI : Proven s) : Proven s' := by
  refine ⟨hstep.paired hI.paired, fun d r' hr' => ?_, fun d r' row' hr' hrow' hpicked => ?_,
    fun d r' row' hr' hrow' hnot => ?_⟩
  · rcases hstep.delivery_move hr' with ⟨-, -, o, order, token, -, -, -, -, -, rfl⟩ | ⟨r, hr, hmove⟩
    · exact newDelivery_sound
    · exact hmove.sound (hI.sound d r hr) fun order horder hpicked =>
        hI.order d r order hr horder hpicked
  · rcases hstep.delivery_move hr' with ⟨-, -, o, order, token, -, -, -, -, -, rfl⟩ | ⟨r, hr, hmove⟩
    · cases hpicked
    · rw [hmove.orderId] at hrow'
      obtain ⟨row, hrow, -⟩ := hI.paired.order d r hr
      obtain ⟨row₁, hrow₁, homove⟩ := hstep.order_moved hrow
      obtain rfl := Option.some.inj (hrow'.symm.trans hrow₁)
      rcases hmove.picks hpicked with hbefore | ⟨hnot, driver, hsite⟩
      · exact homove.not_before (hI.order d r row hr hrow hbefore)
      · -- handed over by this step
        rw [hstep.picked_order hr hr' hsite hnot hpicked hrow']
        simp [beforeDriver]
  · rcases hstep.delivery_move hr' with ⟨-, -, o, order, token, -, -, hchoice, -, hready, rfl⟩ |
      ⟨r, hr, hmove⟩
    · have hsame : s'.orders.find? o = some row' := hrow'
      rw [hready] at hsame
      rw [← Option.some.inj hsame]
      exact hchoice
    · rw [hmove.orderId] at hrow'
      obtain ⟨row, hrow, -⟩ := hI.paired.order d r hr
      obtain ⟨row₁, hrow₁, homove⟩ := hstep.order_moved hrow
      obtain rfl := Option.some.inj (hrow'.symm.trans hrow₁)
      have hdelivery := hI.choice d r row hr hrow (hmove.not_cancelled hnot)
      rcases homove.choice hdelivery with hchoice | rfl
      · exact hchoice
      · by_contra hchoice
        have hmoved : row' ≠ row := by
          rintro rfl
          exact hchoice hdelivery
        exact hnot (hstep.switched_delivery hI.paired hr rfl hr' hrow hrow' hmoved)

/-! ## The driver's calls succeed, or nothing happened

Once a driver's call has moved a delivery, nothing after it in the call fails. -/

/-- The call succeeds, or leaves the deliveries as they were in `s₀`. -/
def Settles (α : Type) (s₀ : Db) : Post machine α :=
  fun _ r s => (∃ a, r = .ok a) ∨ s.deliveries = s₀.deliveries

theorem loadDelivery_alone {r : Delivery} (hr : s.deliveries.find? d = some r) :
    Sat aloneContract (fun _ r _ => ∃ a, r = .ok a) (loadDelivery d) h s := by
  refine sat_read_bind fun s' hs => ⟨trivial, ?_⟩
  subst hs
  rw [hr]
  exact ⟨r, rfl⟩

theorem creditForCompletedOrder_alone :
    Sat aloneContract (fun _ r s' => r = .ok () ∧ s'.orders = s.orders ∧ s'.deliveries = s.deliveries)
      (Wallets.creditForCompletedOrder cfg me o) h s := by
  refine sat_read_bind fun s' hs => ⟨trivial, ?_⟩
  subst hs
  cases horder : s.orders.find? o with
  | none => exact ⟨rfl, rfl, rfl⟩
  | some row =>
    refine sat_ite (fun _ => sat_ite (fun _ => ⟨rfl, rfl, rfl⟩) fun _ => ?_) fun _ => ⟨rfl, rfl, rfl⟩
    refine sat_await fun s' hs i => ⟨fun e hrun => ?_, fun u s'' hrun => ⟨trivial, ?_⟩⟩
    · cases hrun
    · rw [createEntries_ok.mp hrun, ← show s = s' from hs]
      exact ⟨rfl, rfl, rfl⟩

theorem confirmDeliveredByDriver_alone {row : Order} (hrow : s.orders.find? o = some row)
    (hchoice : row.fulfillmentChoice = .delivery) :
    Sat aloneContract (fun _ r s' => (∃ a, r = .ok a) ∧ s'.deliveries = s.deliveries)
      (confirmDeliveredByDriver cfg me o) h s := by
  -- the credits and the last lookup, from any state that still has the order
  have hrest : ∀ h s₁ row, s₁.orders.find? o = some row → s₁.deliveries = s.deliveries →
      Sat aloneContract (fun _ r s' => (∃ a, r = .ok a) ∧ s'.deliveries = s.deliveries)
        (do
          releaseFundsForCompletedOrder cfg me o
          findOrderWithRelations o) h s₁ := by
    intro h s₁ row hrow hsame
    refine sat_bind (creditForCompletedOrder_alone.post fun h r s₂ hpost => ?_)
    obtain ⟨rfl, horders, hdeliveries⟩ := hpost
    refine sat_read_bind fun s₃ hs => ⟨trivial, ?_⟩
    subst hs
    rw [horders, hrow]
    exact ⟨⟨row, rfl⟩, hdeliveries.trans hsame⟩
  refine sat_read_bind fun s' hs => ⟨trivial, ?_⟩
  subst hs
  refine sat_orThrow_bind (fun hnone => ?_) fun order horder => ?_
  · rw [hrow] at hnone
    cases hnone
  obtain rfl := Option.some.inj (hrow.symm.trans horder)
  refine sat_throwIf_bind (fun hne => absurd hchoice hne) fun _ => ?_
  refine sat_runIf_bind (fun _ => ?_) fun _ => hrest _ s row hrow rfl
  refine sat_await_bind fun s' hs i => ⟨fun e hrun => ?_, fun _ s'' hrun => ⟨trivial, ?_⟩⟩
  · subst hs
    rw [updateOrder_error hrun] at hrow
    cases hrow
  · subst hs
    obtain ⟨-, rfl⟩ := updateOrder_ok.mp hrun
    exact hrest _ _ _ (Table.find?_update_of_eq hrow) rfl

theorem confirmPickup_alone {sub : String} {dto : ConfirmPickupDto} :
    Sat aloneContract (Settles Delivery s) (Deliveries.confirmPickup sub d dto) h s := by
  refine assertDriver_bind (fun _ _ => trivial) (fun _ _ hs => .inr (by rw [hs])) ?_
  intro s₀ driver user hs _ _
  subst hs
  refine loadDeliveryForDriver_bind (fun _ _ => trivial) (fun _ _ hs => .inr (by rw [hs])) ?_
  intro s₁ row hs hrow _
  subst hs
  have hkey : row.id = d := Table.key_of_find? hrow
  refine sat_throwIf_bind (fun _ => .inr rfl) fun _ => ?_
  refine sat_throwIf_bind (fun _ => .inr rfl) fun _ => ?_
  refine sat_throwIf_bind (fun _ => .inr rfl) fun _ => ?_
  refine sat_await_bind fun s₂ hs i => ⟨fun _ _ => ⟨trivial, .inr (by rw [hs])⟩, ?_⟩
  subst hs
  intro _ s₃ hrun
  refine ⟨trivial, ?_⟩
  simp only [confirmPickupTx, Stmt.bind_ok, Stmt.get_ok, hkey] at hrun
  obtain ⟨_, _, ⟨rfl, rfl⟩, _, _, hunique, _, _, hpick, hmove⟩ := hrun
  obtain rfl := uniqueDeliveryToken_ok hunique
  obtain ⟨-, rfl⟩ := updateDelivery_ok.mp hpick
  obtain ⟨-, rfl⟩ := updateOrder_ok.mp hmove
  exact (loadDelivery_alone (Table.find?_update_of_eq hrow)).post fun _ _ _ hok => .inl hok

/-- The common end of `confirmDelivery` and `confirmAbsentDropoff`: the delivery
is written, then its order. -/
theorem deliver_alone (hI : Proven s) {row : Delivery} (hrow : s.deliveries.find? d = some row)
    (hout : row.status ∈ outForDelivery) {f : Time → Delivery → Delivery}
    (hf : ∀ now r, (f now r).id = r.id) {site : Site} :
    Sat aloneContract (Settles Delivery s) (do
      await site fun _ => do
        let db ← get
        updateDelivery d (f db.now) (hf db.now)
      let _ ← confirmDeliveredByDriver cfg me row.orderId
      loadDelivery d) h s := by
  refine sat_await_bind fun s₂ hs i => ⟨fun _ _ => ⟨trivial, .inr (by rw [hs])⟩, ?_⟩
  subst hs
  intro _ s₃ hrun
  refine ⟨trivial, ?_⟩
  simp only [Stmt.bind_ok, Stmt.get_ok] at hrun
  obtain ⟨_, _, ⟨rfl, rfl⟩, hrun⟩ := hrun
  obtain ⟨-, hs₃⟩ := updateDelivery_ok.mp hrun
  obtain ⟨order, horder, -⟩ := hI.paired.order d row hrow
  have horder₃ : s₃.orders.find? row.orderId = some order := by
    rw [hs₃]
    exact horder
  -- a cancelled delivery is nobody's to confirm, so the order is a delivered one
  have hopen : row.status ≠ .cancelled := by
    intro hcancelled
    simp [hcancelled, outForDelivery] at hout
  refine sat_bind ((confirmDeliveredByDriver_alone horder₃
    (hI.choice d row order hrow horder hopen)).post fun h r s' hpost => ?_)
  obtain ⟨⟨a, rfl⟩, hsame⟩ := hpost
  obtain ⟨r', hafter⟩ : ∃ r', s'.deliveries.find? d = some r' := by
    rw [hsame, hs₃]
    exact ⟨_, Table.find?_update_of_eq hrow (hf _)⟩
  exact (loadDelivery_alone hafter).post fun _ _ _ hok => .inl hok

theorem confirmDelivery_alone (hI : Proven s) {sub : String} {dto : ConfirmDeliveryDto} :
    Sat aloneContract (Settles Delivery s) (confirmDelivery cfg me sub d dto) h s := by
  refine assertDriver_bind (fun _ _ => trivial) (fun _ _ hs => .inr (by rw [hs])) ?_
  intro s₀ driver user hs _ _
  subst hs
  refine loadDeliveryForDriver_bind (fun _ _ => trivial) (fun _ _ hs => .inr (by rw [hs])) ?_
  intro s₁ row hs hrow _
  subst hs
  refine checkOutForDelivery_bind (fun _ => .inr rfl) fun _ hout => ?_
  refine sat_throwIf_bind (fun _ => .inr rfl) fun _ => ?_
  exact deliver_alone (f := Deliveries.Delivery.deliver driver.userId dto.lat dto.lng) hI hrow hout
    fun _ _ => rfl

theorem confirmAbsentDropoff_alone (hI : Proven s) {sub : String}
    {dto : ConfirmAbsentDropoffDto} :
    Sat aloneContract (Settles Delivery s) (confirmAbsentDropoff cfg me sub d dto) h s := by
  refine assertDriver_bind (fun _ _ => trivial) (fun _ _ hs => .inr (by rw [hs])) ?_
  intro s₀ driver user hs _ _
  subst hs
  refine loadDeliveryForDriver_bind (fun _ _ => trivial) (fun _ _ hs => .inr (by rw [hs])) ?_
  intro s₁ row hs hrow _
  subst hs
  refine checkOutForDelivery_bind (fun _ => .inr rfl) fun _ hout => ?_
  refine sat_orThrow_bind (fun _ => .inr rfl) fun photo _ => ?_
  refine sat_orThrow_bind (fun _ => .inr rfl) fun position _ => ?_
  obtain ⟨lat, lng⟩ := position
  exact deliver_alone (f := Deliveries.Delivery.dropOff driver.userId photo lat lng dto.note) hI hrow
    hout fun _ _ => rfl

/-! ## What a call can have done -/

/-- The call is a pickup, by the driver of the delivery and with its pickup token. -/
inductive Picks (s : Db) (d : DeliveryId) (r : Delivery) : Call → Prop where
  | confirmPickup {sub : String} {dto : ConfirmPickupDto} (hdriver : s.userIdOf sub = r.driverId)
      (htoken : truthy r.pickupToken = some dto.pickupToken) : Picks s d r (.confirmPickup sub d dto)

/-- The call is a drop-off by the driver of the delivery: with its delivery token, or
with a photo and a position. -/
inductive Drops (s : Db) (d : DeliveryId) (r : Delivery) : Call → Prop where
  | confirmDelivery {sub : String} {dto : ConfirmDeliveryDto}
      (hdriver : s.userIdOf sub = r.driverId)
      (htoken : truthy r.deliveryToken = some dto.deliveryToken) :
      Drops s d r (.confirmDelivery sub d dto)
  | confirmAbsentDropoff {sub : String} {dto : ConfirmAbsentDropoffDto} {photo : String}
      {position : JsNumber × JsNumber} (hdriver : s.userIdOf sub = r.driverId)
      (hphoto : truthy (dto.photoUrl.map jsTrim) = some photo)
      (hgps : gps dto.lat dto.lng = some position) :
      Drops s d r (.confirmAbsentDropoff sub d dto)

/-- From `r` to `r'` the driver and the tokens stay. -/
structure Kept (r r' : Delivery) : Prop where
  driver : r'.driverId = r.driverId
  pickupToken : ∀ token, truthy r.pickupToken = some token → truthy r'.pickupToken = some token
  deliveryToken : ∀ token, truthy r.deliveryToken = some token → truthy r'.deliveryToken = some token

theorem Kept.refl (r : Delivery) : Kept r r := ⟨rfl, fun _ ht => ht, fun _ ht => ht⟩

theorem Kept.trans {r₁ r₂ r₃ : Delivery} (h₁ : Kept r₁ r₂) (h₂ : Kept r₂ r₃) : Kept r₁ r₃ :=
  ⟨h₂.driver.trans h₁.driver, fun t ht => h₂.pickupToken t (h₁.pickupToken t ht),
    fun t ht => h₂.deliveryToken t (h₁.deliveryToken t ht)⟩

theorem Picks.kept {r r' : Delivery} (hp : Picks s d r call) (hk : Kept r r') :
    Picks s d r' call := by
  cases hp with
  | confirmPickup hdriver htoken =>
    exact .confirmPickup (hdriver.trans hk.driver.symm) (hk.pickupToken _ htoken)

theorem Drops.kept {r r' : Delivery} (hd : Drops s d r call) (hk : Kept r r') :
    Drops s d r' call := by
  cases hd with
  | confirmDelivery hdriver htoken =>
    exact .confirmDelivery (hdriver.trans hk.driver.symm) (hk.deliveryToken _ htoken)
  | confirmAbsentDropoff hdriver hphoto hgps =>
    exact .confirmAbsentDropoff (hdriver.trans hk.driver.symm) hphoto hgps

theorem Picks.of_users {r : Delivery} (hu : ∀ sub, s'.userIdOf sub = s.userIdOf sub)
    (hp : Picks s' d r call) : Picks s d r call := by
  cases hp with
  | confirmPickup hdriver htoken => exact .confirmPickup ((hu _).symm.trans hdriver) htoken

theorem Drops.of_users {r : Delivery} (hu : ∀ sub, s'.userIdOf sub = s.userIdOf sub)
    (hd : Drops s' d r call) : Drops s d r call := by
  cases hd with
  | confirmDelivery hdriver htoken => exact .confirmDelivery ((hu _).symm.trans hdriver) htoken
  | confirmAbsentDropoff hdriver hphoto hgps =>
    exact .confirmAbsentDropoff ((hu _).symm.trans hdriver) hphoto hgps

/-- Once a driver has the delivery, its driver and tokens stay. -/
theorem DeliveryMove.kept {row row' : Delivery} (hmove : DeliveryMove s d call site row row')
    (hs : row.Sound) (hpicked : row.picked = true) : Kept row row' := by
  cases hmove with
  | mintPickupToken token hnone =>
    refine ⟨rfl, fun t ht => ?_, fun _ ht => ht⟩
    rw [hnone] at ht
    cases ht
  | mintDeliveryToken token hnone =>
    refine ⟨rfl, fun _ ht => ht, fun t ht => ?_⟩
    rw [hnone] at ht
    cases ht
  | claim driver hfrom hfree =>
    have hdriver := hs.driver hpicked
    rw [hfree] at hdriver
    cases hdriver
  | confirmPickup token huser hdriver hpick hfrom htoken =>
    simp [Delivery.picked, hpick] at hpicked
  | _ => exact ⟨rfl, fun _ ht => ht, fun _ ht => ht⟩

/-- The call behind a handover. -/
theorem DeliveryMove.picks_call {row row' : Delivery} (hmove : DeliveryMove s d call site row row')
    (hnot : row.picked = false) (hpicked : row'.picked = true) : Picks s d row' call := by
  cases hmove with
  | confirmPickup token huser hdriver hpick hfrom htoken =>
    refine .confirmPickup ?_ htoken
    rw [Db.userIdOf, huser]
    exact hdriver.symm
  | _ =>
    have hsame : row.picked = true := hpicked
    rw [hnot] at hsame
    cases hsame

/-- The call behind a drop-off. -/
theorem DeliveryMove.drops_call {row row' : Delivery} (hmove : DeliveryMove s d call site row row')
    (hdelivered : row'.status = .delivered) : row.status = .delivered ∨ Drops s d row' call := by
  cases hmove with
  | stay => exact .inl hdelivered
  | mintPickupToken token hnone => exact .inl hdelivered
  | mintDeliveryToken token hnone => exact .inl hdelivered
  | confirmDelivery huser hdriver hopen hfrom htoken =>
    refine .inr (.confirmDelivery ?_ htoken)
    rw [Db.userIdOf, huser]
    exact hdriver.symm
  | confirmAbsentDropoff huser hdriver hopen hfrom hphoto hgps =>
    refine .inr (.confirmAbsentDropoff ?_ hphoto hgps)
    rw [Db.userIdOf, huser]
    exact hdriver.symm
  | _ => cases hdelivered

/-- What the call has done since `s₀`: every handover and drop-off is its own, or
was there when it started. -/
structure Traced (s₀ : Db) (call : Call) (s : Db) : Prop where
  users : ∀ sub, s.userIdOf sub = s₀.userIdOf sub
  picked : ∀ d r, s.deliveries.find? d = some r → r.picked = true →
    Picks s₀ d r call ∨ ∃ r₀, s₀.deliveries.find? d = some r₀ ∧ r₀.picked = true ∧ Kept r₀ r
  delivered : ∀ d r, s.deliveries.find? d = some r → r.status = .delivered →
    Drops s₀ d r call ∨ ∃ r₀, s₀.deliveries.find? d = some r₀ ∧ r₀.status = .delivered ∧ Kept r₀ r

theorem Traced.refl (s : Db) : Traced s call s :=
  ⟨fun _ => rfl, fun _ r hr hpicked => .inr ⟨r, hr, hpicked, .refl r⟩,
    fun _ r hr hdelivered => .inr ⟨r, hr, hdelivered, .refl r⟩⟩

theorem Step.traced {s₀ : Db} (hstep : Step cfg Eq me call h site s s') (hI : Proven s)
    (ht : Traced s₀ call s) : Traced s₀ call s' := by
  refine ⟨fun sub => (hstep.userIdOf sub).trans (ht.users sub), fun d r' hr' hpicked => ?_,
    fun d r' hr' hdelivered => ?_⟩
  · rcases hstep.delivery_move hr' with ⟨-, -, o, order, token, -, -, -, -, -, rfl⟩ | ⟨r, hr, hmove⟩
    · cases hpicked
    · rcases hmove.picks hpicked with hbefore | ⟨hnot, -⟩
      · have hk : Kept r r' := hmove.kept (hI.sound d r hr) hbefore
        rcases ht.picked d r hr hbefore with hp | ⟨r₀, hr₀, hp₀, hk₀⟩
        · exact .inl (hp.kept hk)
        · exact .inr ⟨r₀, hr₀, hp₀, hk₀.trans hk⟩
      · exact .inl ((hmove.picks_call hnot hpicked).of_users ht.users)
  · rcases hstep.delivery_move hr' with ⟨-, -, o, order, token, -, -, -, -, -, rfl⟩ | ⟨r, hr, hmove⟩
    · cases hdelivered
    · rcases hmove.drops_call hdelivered with hbefore | hd
      · have hs := hI.sound d r hr
        have hk : Kept r r' := hmove.kept hs (hs.handedOver hbefore)
        rcases ht.delivered d r hr hbefore with hd | ⟨r₀, hr₀, hd₀, hk₀⟩
        · exact .inl (hd.kept hk)
        · exact .inr ⟨r₀, hr₀, hd₀, hk₀.trans hk⟩
      · exact .inl (hd.of_users ht.users)

end

/-! ## The history -/

section

variable {cfg : Config} {s : Db} {d : DeliveryId} {r r' : Delivery}
  {calls : List (CallRecord (service cfg))} {c : CallRecord (service cfg)}

/-- The call returned normally. -/
def Succeeded (c : CallRecord (service cfg)) : Prop := ∃ reply, c.outcome.result = .ok reply

/-- A pickup of the delivery is among the calls. -/
def HasPickup (calls : List (CallRecord (service cfg))) (d : DeliveryId) (r : Delivery) : Prop :=
  ∃ pick ∈ calls, Succeeded pick ∧ Picks pick.pre d r pick.call

/-- A drop-off of the delivery is among the calls, after a pickup. -/
def HasDropoff (calls : List (CallRecord (service cfg))) (d : DeliveryId) (r : Delivery) : Prop :=
  ∃ later drop earlier, calls = later ++ drop :: earlier ∧ Succeeded drop ∧
    Drops drop.pre d r drop.call ∧ HasPickup earlier d r

theorem HasPickup.kept (hp : HasPickup calls d r) (hk : Kept r r') : HasPickup calls d r' := by
  obtain ⟨pick, hmem, hok, hpick⟩ := hp
  exact ⟨pick, hmem, hok, hpick.kept hk⟩

theorem HasPickup.cons (hp : HasPickup calls d r) : HasPickup (c :: calls) d r := by
  obtain ⟨pick, hmem, hok, hpick⟩ := hp
  exact ⟨pick, List.mem_cons_of_mem _ hmem, hok, hpick⟩

theorem HasDropoff.kept (hd : HasDropoff calls d r) (hk : Kept r r') : HasDropoff calls d r' := by
  obtain ⟨later, drop, earlier, hcalls, hok, hdrop, hp⟩ := hd
  exact ⟨later, drop, earlier, hcalls, hok, hdrop.kept hk, hp.kept hk⟩

theorem HasDropoff.cons (hd : HasDropoff calls d r) : HasDropoff (c :: calls) d r := by
  obtain ⟨later, drop, earlier, rfl, hok, hdrop, hp⟩ := hd
  exact ⟨c :: later, drop, earlier, rfl, hok, hdrop, hp⟩

/-- The history bears the deliveries out. -/
structure BorneOut (s : Db) (calls : List (CallRecord (service cfg))) : Prop where
  proven : Proven s
  pickup : ∀ d r, s.deliveries.find? d = some r → r.picked = true → HasPickup calls d r
  dropoff : ∀ d r, s.deliveries.find? d = some r → r.status = .delivered → HasDropoff calls d r

/-- The deliveries are as before the call. -/
theorem BorneOut.unchanged {s' : Db} (hI : BorneOut s calls) (hproven : Proven s')
    (hsame : s'.deliveries = s.deliveries) : BorneOut s' (c :: calls) := by
  refine ⟨hproven, fun d r hr hpicked => ?_, fun d r hr hdelivered => ?_⟩
  · exact (hI.pickup d r (hsame ▸ hr) hpicked).cons
  · exact (hI.dropoff d r (hsame ▸ hr) hdelivered).cons

/-- A call that succeeded takes its place in the history. -/
theorem BorneOut.succeeded {s' : Db} (hI : BorneOut c.pre calls) (hproven : Proven s')
    (htraced : Traced c.pre c.call s')
    (hok : (∃ d r, Picks c.pre d r c.call ∨ Drops c.pre d r c.call) → Succeeded c) :
    BorneOut s' (c :: calls) := by
  refine ⟨hproven, fun d r hr hpicked => ?_, fun d r hr hdelivered => ?_⟩
  · rcases htraced.picked d r hr hpicked with hp | ⟨r₀, hr₀, hp₀, hk⟩
    · exact ⟨c, List.mem_cons_self .., hok ⟨d, r, .inl hp⟩, hp⟩
    · exact ((hI.pickup d r₀ hr₀ hp₀).kept hk).cons
  · rcases htraced.delivered d r hr hdelivered with hd | ⟨r₀, hr₀, hd₀, hk⟩
    · have hpicked : r.picked = true := (hproven.sound d r hr).handedOver hdelivered
      refine ⟨[], c, calls, rfl, hok ⟨d, r, .inr hd⟩, hd, ?_⟩
      -- a drop-off is not a pickup, so the pickup was an earlier call
      rcases htraced.picked d r hr hpicked with hp | ⟨r₀, hr₀, hp₀, hk⟩
      · generalize c.call = call at hp hd
        cases hp with
        | confirmPickup => cases hd
      · exact (hI.pickup d r₀ hr₀ hp₀).kept hk
    · exact ((hI.dropoff d r₀ hr₀ hd₀).kept hk).cons

/-- The driver's calls succeed or change no delivery. -/
theorem driver_call_settles {me : Nat} {call : Call} (hI : Proven s)
    (hdriver : ∃ d r, Picks s d r call ∨ Drops s d r call) :
    Sat aloneContract (Settles Reply s) (handle cfg me call) [] s := by
  have hreply : ∀ p : Handler Delivery, Sat aloneContract (Settles Delivery s) p [] s →
      Sat aloneContract (Settles Reply s) (do return .delivery (← p)) [] s := by
    intro p hp
    refine sat_bind (hp.post fun h r s' hr => ?_)
    rcases hr with ⟨a, rfl⟩ | hsame
    · exact .inl ⟨_, rfl⟩
    · cases r with
      | ok a => exact .inr hsame
      | error e => exact .inr hsame
  obtain ⟨d, r, hp | hd⟩ := hdriver
  · cases hp with
    | confirmPickup => exact hreply _ confirmPickup_alone
  · cases hd with
    | confirmDelivery => exact hreply _ (confirmDelivery_alone hI)
    | confirmAbsentDropoff => exact hreply _ (confirmAbsentDropoff_alone hI)

end

/-- **Proof of delivery.** In every state of every run a delivery is delivered
exactly when its delivery is confirmed, and then the history has a successful
pickup by its driver with its pickup token, and after it a successful drop-off by
the same driver, with its delivery token or with a photo and a position. -/
theorem delivered_has_proof (cfg : Config) (s₀ : Db) (h0 : Fresh s₀)
    (inputs : List (Input (service cfg))) (d : DeliveryId) (r : Delivery)
    (hr : (serialRun s₀ inputs).state.deliveries.find? d = some r) :
    (r.status = .delivered ↔ r.deliveredConfirmedAt.isSome = true) ∧
    (r.status = .delivered → r.driverId.isSome = true ∧
      ∃ later drop earlier, (serialRun s₀ inputs).calls = later ++ drop :: earlier ∧
        Succeeded drop ∧ Drops drop.pre d r drop.call ∧
        ∃ pick ∈ earlier, Succeeded pick ∧ Picks pick.pre d r pick.call) := by
  have hI : BorneOut (serialRun s₀ inputs).state (serialRun s₀ inputs).calls := by
    have hnone : ∀ d, s₀.deliveries.find? d = none := fun d => by simp [Table.find?, h0.deliveries]
    have hstart : BorneOut s₀ ([] : List (CallRecord (service cfg))) := by
      refine ⟨.of_fresh h0, fun d r hr => ?_, fun d r hr => ?_⟩
      · rw [hnone d] at hr
        cases hr
      · rw [hnone d] at hr
        cases hr
    refine serial_invariant (I := fun (s : Db) calls => BorneOut s calls) (P := fun _ _ => True)
      hstart ?_ ?_ inputs fun _ _ _ _ => trivial
    · intro e s calls hI
      have hp := hI.proven
      cases e with
      | tick ms =>
        exact ⟨⟨⟨hp.paired.order, hp.paired.unique⟩, hp.sound, hp.order, hp.choice⟩, hI.pickup,
          hI.dropoff⟩
      | paymentSucceeds pi =>
        exact ⟨⟨⟨hp.paired.order, hp.paired.unique⟩, hp.sound, hp.order, hp.choice⟩, hI.pickup,
          hI.dropoff⟩
    · intro call w s calls hI hadm out _
      obtain ⟨hproven, htraced⟩ : Proven out.state ∧ Traced s call out.state :=
        call_invariant (I := fun _ s₁ => Proven s₁ ∧ Traced s call s₁) (P := fun _ _ => True) w hadm
          ⟨hI.proven, .refl s⟩ (fun _ _ _ _ hI _ hstep => ⟨hstep.proven hI.1, hstep.traced hI.1 hI.2⟩)
          fun _ _ => trivial
      -- a call that leaves every delivery as it was proves nothing and needs no
      -- proof; one that moves a delivery is a pickup or a drop-off that succeeded
      by_cases hsame : out.state.deliveries = s.deliveries
      · exact hI.unchanged hproven hsame
      · refine BorneOut.succeeded (c := ⟨call, s, out⟩) hI hproven htraced fun hdriver => ?_
        have hsat : Sat aloneContract _ (handle cfg calls.length call) [] s :=
          driver_call_settles hI.proven hdriver
        exact (hsat.exec (fun _ => rfl) w).2.resolve_right hsame
  have hs : r.Sound := hI.proven.sound d r hr
  exact ⟨hs.delivered, fun hdelivered => ⟨hs.driver (hs.handedOver hdelivered),
    hI.dropoff d r hr hdelivered⟩⟩

/-- A driver who scans both codes. -/
theorem scanned_order_has_proof :
    ∃ r, (serialRun smallTown (orderClaimed ++
      [smallTownCall (.confirmPickup "driver" ⟨3, 2⟩ ⟨"token", none, none⟩),
        smallTownCall (.confirmDelivery "driver" ⟨3, 2⟩ ⟨"token", none, none⟩)])).state.deliveries.find?
          ⟨3, 2⟩ = some r ∧
      r.status = .delivered ∧ r.driverId.isSome = true ∧ r.deliveredConfirmedAt.isSome = true := by
  have hdelivered : ((serialRun smallTown (orderClaimed ++
      [smallTownCall (.confirmPickup "driver" ⟨3, 2⟩ ⟨"token", none, none⟩),
        smallTownCall (.confirmDelivery "driver" ⟨3, 2⟩ ⟨"token", none, none⟩)])).state.deliveries.find?
          ⟨3, 2⟩).any (fun r => r.status = .delivered) = true := by decide +kernel
  obtain ⟨r, hr, hstatus⟩ := (Option.any_eq_true ..).mp hdelivered
  have hproof := delivered_has_proof smallTownConfig smallTown smallTown_fresh _ ⟨3, 2⟩ r hr
  have hstatus : r.status = .delivered := by simpa using hstatus
  exact ⟨r, hr, hstatus, (hproof.2 hstatus).1, hproof.1.mp hstatus⟩

end IncaCook
