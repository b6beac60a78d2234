import IncaCook.Properties.ProofOfDelivery

/-!
# Orders without a driver

The watchdog makes a ready order `noDriverAvailable` when its delivery is still
unclaimed, and the buyer then switches it to pickup or cancels it, either of which
cancels the delivery. `claim` looks at the delivery only: it takes the delivery of
a `noDriverAvailable` order like any other, and leaves the order as it is.

Main results:

* `no_driver_delivery_unclaimed`: as long as no such delivery is claimed, an order
  in `noDriverAvailable` has an unclaimed delivery, and its end drops no driver;
* `no_driver_delivery_claimed`: a claim after the watchdog.
-/

namespace IncaCook

open Prog Orders Deliveries

/-- No claim matches the delivery of an order in `noDriverAvailable`. -/
def ClaimsInTime : Site → Db → Prop
  | .claim d _, s => (s.deliveries.find? d).all fun r =>
    !claimable d r || s.orderStatus r.orderId ≠ some .noDriverAvailable
  | _, _ => True

instance (site : Site) (s : Db) : Decidable (ClaimsInTime site s) := by
  unfold ClaimsInTime
  split
  · infer_instance
  · infer_instance

/-- The statements that end the wait for a driver. -/
def Site.endsWait : Site → Bool
  | .switchToPickup _ | .cancelNoDriver _ _ => true
  | _ => false

/-- No step of the list that ends a wait touches a claimed delivery. -/
def DropsNoDriver (steps : List (StepRecord machine)) : Prop :=
  ∀ t ∈ steps, t.site.endsWait = true → ∀ d r, t.pre.deliveries.find? d = some r →
    r.driverId.isSome = true → t.post.deliveries.find? d = some r

/-- Waiting for a driver to claim it. -/
def Delivery.unclaimed (r : Delivery) : Prop := r.status = .searching ∧ r.driverId = none

/-- The order has been offered to drivers. -/
def Order.offered (row : Order) : Prop :=
  row.status = .noDriverAvailable ∨ row.status = .ready ∧ row.fulfillmentChoice = .delivery

/-- An order offered to drivers has a delivery, which is unclaimed when nobody has come. -/
structure Waiting (s : Db) : Prop where
  proven : Proven s
  offered : ∀ o row, s.orders.find? o = some row → row.offered →
    ∃ d r, s.deliveries.find? d = some r ∧ r.orderId = o
  unclaimed : ∀ o row d r, s.orders.find? o = some row → row.status = .noDriverAvailable →
    s.deliveries.find? d = some r → r.orderId = o → r.unclaimed

section

variable {cfg : Config} {me : Nat} {call : Call} {h : List (StepRecord machine)} {site : Site}
  {s s' : Db} {o : OrderId} {d : DeliveryId}

theorem Waiting.of_fresh (h0 : Fresh s) : Waiting s := by
  have hnone : ∀ o, s.orders.find? o = none := fun o => by simp [Table.find?, h0.orders]
  refine ⟨.of_fresh h0, fun o row hrow => ?_, fun o row d r hrow => ?_⟩
  · rw [hnone o] at hrow
    cases hrow
  · rw [hnone o] at hrow
    cases hrow

/-! ## Offering an order -/

/-- A move that offers an order to drivers: `markReady`, and the watchdog. -/
theorem OrderMove.offered {row row' : Order} (hmove : OrderMove cfg call s o site row row')
    (hafter : row'.offered) :
    row.offered ∨ row.status = .preparing ∧ site = .markReady o .delivery := by
  cases hmove with
  | stay => exact .inl hafter
  | savePaymentIntent pi => exact .inl hafter
  | saveRefund refund hcause => exact .inl hafter
  | noDriverTimeout hfrom hchoice => exact .inl (.inr ⟨hfrom, hchoice⟩)
  | markReady hfrom =>
    have hchoice : row.fulfillmentChoice = .delivery := by
      rcases hafter with hstatus | ⟨-, hchoice⟩
      · cases hstatus
      · exact hchoice
    exact .inr ⟨hfrom, by rw [hchoice]⟩
  | switchToPickup hfrom =>
    rcases hafter with hstatus | ⟨-, hchoice⟩
    · cases hstatus
    · cases hchoice
  | _ => simp [Order.offered, Orders.Order.cancel] at hafter

/-- `markReady` gives the order a delivery. -/
theorem Step.readied (hstep : Step cfg Eq me call h (.markReady o .delivery) s s') {row row' : Order}
    (hrow : s.orders.find? o = some row) (hrow' : s'.orders.find? o = some row')
    (hmoved : row' ≠ row) : ∃ d r, s'.deliveries.find? d = some r ∧ r.orderId = o := by
  cases hstep with
  | noop => exact absurd (Option.some.inj (hrow'.symm.trans hrow)) hmoved
  | aside haside =>
    rw [haside.orders] at hrow'
    exact absurd (Option.some.inj (hrow'.symm.trans hrow)) hmoved
  | markReady _ _ token hsaw hnew =>
    dsimp only at hnew
    exact ⟨_, _, (Table.find?_insert hnew _).trans (if_pos rfl), rfl⟩

theorem Step.offered (hstep : Step cfg Eq me call h site s s') (hI : Waiting s) {row' : Order}
    (hrow' : s'.orders.find? o = some row') (hafter : row'.offered) :
    ∃ d r, s'.deliveries.find? d = some r ∧ r.orderId = o := by
  rcases hstep.order_move hrow' with ⟨-, -, db, args, rfl⟩ | ⟨row, hrow, hmove⟩
  · simp [Order.offered, newOrder] at hafter
  · rcases hmove.offered hafter with hbefore | ⟨hfrom, rfl⟩
    · obtain ⟨d, r, hr, hof⟩ := hI.offered o row hrow hbefore
      obtain ⟨r', hr', hdmove⟩ := hstep.delivery_moved hr
      exact ⟨d, r', hr', hdmove.orderId.trans hof⟩
    · refine hstep.readied hrow hrow' ?_
      rintro rfl
      simp [Order.offered, hfrom] at hafter

/-! ## The watchdog -/

/-- Only the watchdog makes an order `noDriverAvailable`. -/
theorem OrderMove.waits {row row' : Order} (hmove : OrderMove cfg call s o site row row')
    (hafter : row'.status = .noDriverAvailable) :
    row.status = .noDriverAvailable ∨ row.status = .ready ∧ site = .noDriverTimeout o := by
  cases hmove with
  | stay => exact .inl hafter
  | savePaymentIntent pi => exact .inl hafter
  | saveRefund refund hcause => exact .inl hafter
  | noDriverTimeout hfrom hchoice => exact .inr ⟨hfrom, rfl⟩
  | _ => simp [Orders.Order.cancel] at hafter

/-- The watchdog finds the delivery unclaimed and leaves it so. -/
theorem Step.timed_out (hstep : Step cfg Eq me call h (.noDriverTimeout o) s s') (hp : Paired s)
    {row row' : Order} (hrow : s.orders.find? o = some row) (hrow' : s'.orders.find? o = some row')
    (hmoved : row' ≠ row) {r' : Delivery} (hr' : s'.deliveries.find? d = some r')
    (hof : r'.orderId = o) : r'.unclaimed := by
  cases hstep with
  | noop => exact absurd (Option.some.inj (hrow'.symm.trans hrow)) hmoved
  | aside haside =>
    rw [haside.orders] at hrow'
    exact absurd (Option.some.inj (hrow'.symm.trans hrow)) hmoved
  | noDriverTimeout _ hsaw =>
    obtain ⟨s₁, _, rfl, -, -, -, hlatest⟩ := hsaw
    have hr : s₁.deliveries.find? d = some r' := hr'
    obtain ⟨hfree, hsearching⟩ := hlatest r' (hof ▸ hp.latestDelivery hr)
    exact ⟨hsearching, hfree⟩

/-! ## The end of a wait -/

/-- Statements that end the wait for a driver end it. -/
theorem Step.wait_ended (hstep : Step cfg Eq me call h site s s')
    (hsite : site = .switchToPickup o ∨ ∃ b, site = .cancelNoDriver o b) {r r' : Delivery}
    (hr : s.deliveries.find? d = some r) (hr' : s'.deliveries.find? d = some r') (hmoved : r' ≠ r)
    {row' : Order} (hrow' : s'.orders.find? o = some row') : row'.status ≠ .noDriverAvailable := by
  have hstayed : s'.deliveries = s.deliveries → False := by
    intro hsame
    rw [hsame] at hr'
    exact hmoved (Option.some.inj (hr'.symm.trans hr))
  cases hstep with
  | noop => exact absurd rfl hstayed
  | aside haside => exact absurd haside.deliveries hstayed
  | switchToPickup o₁ hR hsaw hstatus =>
    obtain rfl : o₁ = o := by simpa using hsite
    dsimp only at hrow'
    rw [Table.find?_update_self, Option.map_eq_some_iff] at hrow'
    obtain ⟨row, -, rfl⟩ := hrow'
    simp
  | cancelNoDriver o₁ reason hR hsaw hprompted =>
    obtain rfl : o₁ = o := by simpa using hsite
    dsimp only at hrow'
    rw [Table.find?_update_self, Option.map_eq_some_iff] at hrow'
    obtain ⟨row, -, rfl⟩ := hrow'
    simp
  | _ => simp at hsite

/-- The delivery of an order that keeps waiting stays unclaimed. -/
theorem Step.still_unclaimed (hstep : Step cfg Eq me call h site s s') (hI : Waiting s)
    (hc : ClaimsInTime site s) {row row' : Order} (hrow : s.orders.find? o = some row)
    (hwaits : row.status = .noDriverAvailable) (hrow' : s'.orders.find? o = some row')
    (hafter : row'.status = .noDriverAvailable) {r r' : Delivery}
    (hr : s.deliveries.find? d = some r) (hr' : s'.deliveries.find? d = some r')
    (hof : r.orderId = o) (hmove : DeliveryMove s d call site r r') : r'.unclaimed := by
  obtain ⟨hsearching, hfree⟩ := hI.unclaimed o row d r hrow hwaits hr hof
  subst hof
  by_contra hclaimed
  have hmoved : r' ≠ r := by
    rintro rfl
    exact hclaimed ⟨hsearching, hfree⟩
  cases hmove with
  | stay => exact hmoved rfl
  | mintPickupToken token hnone => exact hclaimed ⟨hsearching, hfree⟩
  | mintDeliveryToken token hnone => exact hclaimed ⟨hsearching, hfree⟩
  | switchToPickup horder hstatus => exact hstep.wait_ended (.inl rfl) hr hr' hmoved hrow' hafter
  | cancelNoDriver reason horder hstatus =>
    exact hstep.wait_ended (.inr ⟨_, rfl⟩) hr hr' hmoved hrow' hafter
  | sellerCannotProvide horder hstatus hpickup =>
    rw [hrow] at horder
    rw [← Option.some.inj horder, hwaits] at hstatus
    simp [cancellableFrom] at hstatus
  | driverDisappeared hpickup hopen hfrom =>
    -- a delivery that was picked up belongs to an order past all waiting
    have hnot := hI.proven.order d r row hr hrow hpickup
    simp [hwaits, beforeDriver] at hnot
  | claim driver hfrom hnone =>
    have hid : r.id = d := Table.key_of_find? hr
    simp [ClaimsInTime, hr, claimable, hid, hsearching, hfree, Db.orderStatus, hrow, hwaits] at hc
  | arriveAtPickup hfrom hdriver =>
    rw [hfree] at hdriver
    cases hdriver
  | confirmPickup token huser hdriver hnot hfrom htoken =>
    rw [hfree] at hdriver
    cases hdriver
  | confirmDelivery huser hdriver hopen hfrom htoken =>
    rw [hfree] at hdriver
    cases hdriver
  | confirmAbsentDropoff huser hdriver hopen hfrom hphoto hgps =>
    rw [hfree] at hdriver
    cases hdriver
  | reportSellerUnavailable hdriver hnot hfrom =>
    rw [hfree] at hdriver
    cases hdriver

/-- **Orders keep waiting for a driver who has not come.** -/
theorem Step.waiting (hstep : Step cfg Eq me call h site s s') (hc : ClaimsInTime site s)
    (hI : Waiting s) : Waiting s' := by
  refine ⟨hstep.proven hI.proven, fun o row' hrow' hafter => hstep.offered hI hrow' hafter,
    fun o row' d r' hrow' hafter hr' hof => ?_⟩
  rcases hstep.order_move hrow' with ⟨-, -, db, args, rfl⟩ | ⟨row, hrow, hmove⟩
  · cases hafter
  · rcases hmove.waits hafter with hwaits | ⟨hready, rfl⟩
    · rcases hstep.delivery_move hr' with ⟨-, -, o₁, order, token, -, -, -, -, hnow, rfl⟩ |
        ⟨r, hr, hdmove⟩
      · -- a new delivery belongs to an order that has just become ready
        obtain rfl : o₁ = o := hof
        rw [hnow] at hrow'
        rw [← Option.some.inj hrow'] at hafter
        cases hafter
      · exact hstep.still_unclaimed hI hc hrow hwaits hrow' hafter hr hr'
          (hdmove.orderId.symm.trans hof) hdmove
    · refine hstep.timed_out hI.proven.paired hrow hrow' ?_ hr' hof
      rintro rfl
      rw [hready] at hafter
      cases hafter

/-- The end of a wait leaves claimed deliveries alone. -/
theorem Step.drops_no_driver (hstep : Step cfg Eq me call h site s s') (hI : Waiting s)
    (hends : site.endsWait = true) {r : Delivery} (hr : s.deliveries.find? d = some r)
    (hdriver : r.driverId.isSome = true) : s'.deliveries.find? d = some r := by
  obtain ⟨r', hr', hmove⟩ := hstep.delivery_moved hr
  cases hmove with
  | stay => exact hr'
  | switchToPickup horder hstatus =>
    rw [(hI.unclaimed _ _ _ _ horder hstatus hr rfl).2] at hdriver
    cases hdriver
  | cancelNoDriver reason horder hstatus =>
    rw [(hI.unclaimed _ _ _ _ horder hstatus hr rfl).2] at hdriver
    cases hdriver
  | _ => cases hends

theorem Step.keeps_waiting {before : List (StepRecord machine)}
    (hstep : Step cfg Eq me call h site s s') (hc : ClaimsInTime site s)
    (hI : Waiting s ∧ DropsNoDriver before) : Waiting s' ∧ DropsNoDriver (⟨site, s, s'⟩ :: before) := by
  refine ⟨hstep.waiting hc hI.1, fun t ht hends d r hr hdriver => ?_⟩
  rcases List.mem_cons.mp ht with rfl | ht
  · exact hstep.drops_no_driver hI.1 hends hr hdriver
  · exact hI.2 t ht hends d r hr hdriver

theorem Waiting.event (hI : Waiting s) (e : Event) : Waiting (applyEvent e s) := by
  have hp := hI.proven
  cases e with
  | tick ms =>
    exact ⟨⟨⟨hp.paired.order, hp.paired.unique⟩, hp.sound, hp.order, hp.choice⟩, hI.offered,
      hI.unclaimed⟩
  | paymentSucceeds pi =>
    exact ⟨⟨⟨hp.paired.order, hp.paired.unique⟩, hp.sound, hp.order, hp.choice⟩, hI.offered,
      hI.unclaimed⟩

end

/-- **`noDriverAvailable` means no driver**, in every run in which no delivery of such
an order is claimed: its delivery is waiting for a driver, and neither the switch to
pickup nor the cancellation touches a delivery that a driver has claimed. -/
theorem no_driver_delivery_unclaimed (cfg : Config) (s₀ : Db) (h0 : Fresh s₀)
    (inputs : List (Input (service cfg))) (hc : (serialRun s₀ inputs).Steps ClaimsInTime) :
    (∀ o, Db.orderStatus (serialRun s₀ inputs).state o = some .noDriverAvailable →
      ∃ r, Db.latestDelivery (serialRun s₀ inputs).state o = some r ∧ r.status = .searching ∧
        r.driverId = none) ∧
    ∀ c ∈ (serialRun s₀ inputs).calls, DropsNoDriver c.outcome.steps := by
  -- along the run: the invariant, and what every step so far has dropped
  suffices hI : Waiting (serialRun s₀ inputs).state ∧
      ∀ c ∈ (serialRun s₀ inputs).calls, DropsNoDriver c.outcome.steps by
    refine ⟨fun o hstatus => ?_, hI.2⟩
    obtain ⟨row, hrow, hwaits⟩ := Option.map_eq_some_iff.mp hstatus
    obtain ⟨d, r, hr, hof⟩ := hI.1.offered o row hrow (.inl hwaits)
    have hlatest := hI.1.proven.paired.latestDelivery hr
    rw [hof] at hlatest
    exact ⟨r, hlatest, hI.1.unclaimed o row d r hrow hwaits hr hof⟩
  have hstart : Waiting s₀ ∧ ∀ c ∈ ([] : List (CallRecord (service cfg))),
      DropsNoDriver c.outcome.steps := ⟨.of_fresh h0, by simp⟩
  refine serial_invariant (I := fun (s : Db) calls => Waiting s ∧
    ∀ c ∈ calls, DropsNoDriver c.outcome.steps) hstart ?_ ?_ inputs hc
  · intro e s calls hI
    exact ⟨hI.1.event e, hI.2⟩
  · intro call w s calls hI hadm out hout
    have hcall : Waiting out.state ∧ DropsNoDriver out.steps.reverse :=
      call_invariant (I := fun h s => Waiting s ∧ DropsNoDriver h) w hadm
        ⟨hI.1, fun t ht => by cases ht⟩ (fun _ _ _ _ hI hc hstep => hstep.keeps_waiting hc hI) hout
    refine ⟨hcall.1, fun c hmem => ?_⟩
    rcases List.mem_cons.mp hmem with rfl | hmem
    · exact fun t ht => hcall.2 t (List.mem_reverse.mpr ht)
    · exact hI.2 c hmem

/-- The order is ready, and the watchdog has found no driver. -/
def orderWaiting : List (Input (service smallTownConfig)) :=
  orderPaid ++ [smallTownCall (.startPreparing "seller" ⟨0, 0⟩),
    smallTownCall (.markReady "seller" ⟨0, 0⟩), smallTownCall (.handleNoDriverTimeout ⟨0, 0⟩)]

/-- An order that nobody has come for. -/
theorem waiting_order_unclaimed :
    ∃ r, Db.latestDelivery (serialRun smallTown orderWaiting).state ⟨0, 0⟩ = some r ∧
      r.status = .searching ∧ r.driverId = none :=
  (no_driver_delivery_unclaimed smallTownConfig smallTown smallTown_fresh orderWaiting
    (by decide +kernel)).1 ⟨0, 0⟩ (by decide +kernel)

/-- **An order without a driver, whose delivery has one.** A driver claims the
delivery after the watchdog. -/
theorem no_driver_delivery_claimed :
    ¬∀ (cfg : Config) (s₀ : Db) (inputs : List (Input (service cfg))) (o : OrderId), Fresh s₀ →
      Db.orderStatus (serialRun s₀ inputs).state o = some .noDriverAvailable →
        ∃ r, Db.latestDelivery (serialRun s₀ inputs).state o = some r ∧ r.status = .searching ∧
          r.driverId = none := by
  intro hclaim
  obtain ⟨r, hlatest, hsearching, -⟩ := hclaim smallTownConfig smallTown
    (orderWaiting ++ [smallTownCall (.claim "driver" ⟨3, 2⟩)]) ⟨0, 0⟩ smallTown_fresh
    (by decide +kernel)
  have hassigned : (Db.latestDelivery (serialRun smallTown
      (orderWaiting ++ [smallTownCall (.claim "driver" ⟨3, 2⟩)])).state ⟨0, 0⟩).any
        (fun r => r.status = .assigned) = true := by decide +kernel
  rw [hlatest, Option.any_some, hsearching] at hassigned
  exact absurd hassigned (by decide)

end IncaCook
