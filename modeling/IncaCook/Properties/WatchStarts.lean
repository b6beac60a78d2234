import IncaCook.Model.Timers
import IncaCook.Properties.AuditTrail
import IncaCook.Properties.Watchdogs
import IncaCook.Steps.Checkout
import IncaCook.Steps.Outlines

/-!
# What starts a watch

A watchdog has something to wait for from the moment that a statement puts an order or a
delivery in the state it watches for. Three statements do that, one for each watchdog, and each
is of one handler.

Main results:

* `Step.waits_back`: no other statement gives a watchdog something to wait for;
* `handle_unarmed`: no other handler runs these statements.
-/

namespace IncaCook

open Prog Orders Deliveries Wallets Webhooks

/-- The watch that a statement starts. -/
def Site.starts : Site → Option TimerKey
  | .markReady o .delivery => some (.noDriver o)
  | .noDriverTimeout o => some (.noDriverResponse o)
  | .confirmPickup d _ => some (.driverDelivery d)
  | _ => none

/-- The status that a statement gives to the order it is about. -/
def Site.sets : Site → Option (OrderId × OrderStatus)
  | .placeOrder o => some (o, .pending)
  | .confirmPayment o | .paymentSucceeded o => some (o, .confirmed)
  | .transitionAsSeller o target => some (o, target)
  | .markReady o _ | .switchToPickup o => some (o, .ready)
  | .noDriverTimeout o => some (o, .noDriverAvailable)
  | .paymentFailed o | .cancelNoDriver o _ | .cancelSellerUnavailable o _ | .sellerCannotProvide o _
  | .cancelAsSeller o | .driverDisappeared _ o => some (o, .cancelled)
  | .refundDispute o => some (o, .refunded)
  | .pickedUpByBuyer o | .deliveredByDriver o => some (o, .delivered)
  | _ => none

/-- The columns that say how a delivery ended. -/
structure Delivery.Stamped (r : Delivery) : Prop where
  delivered : r.status = .delivered → r.deliveredConfirmedAt ≠ none
  failed : r.status = .failed ∨ r.status = .cancelled → r.failedAt ≠ none

def Db.Stamped (s : Db) : Prop := ∀ r ∈ s.deliveries.rows, r.Stamped

/-- The delivery is on the road: it was picked up, has no end of any kind and no date of a failure,
its order is in delivery, and has no other delivery. (Of two deliveries of one order the watchdog
of one may have given up while the driver of the other goes on.) -/
def Db.onRoad (s : Db) (d : DeliveryId) : Prop :=
  s.triggers (.handleDriverDeliveryTimeout d) = true ∧
    ∃ r, s.deliveries.find? d = some r ∧ r.failedAt = none ∧
      ∀ r' ∈ s.deliveries.rows, r'.orderId = r.orderId → r'.id = d

/-- Whether the watchdog has something to wait for: an order that is ready for delivery and that no
driver has claimed, a prompted buyer, a delivery on the road. -/
def Db.waits (s : Db) : TimerKey → Prop
  | .noDriver o =>
    (∃ row, s.orders.find? o = some row ∧ row.status = .ready ∧ row.fulfillmentChoice = .delivery) ∧
      ∀ r ∈ s.deliveries.rows, r.orderId = o → r.status = .searching ∧ r.driverId = none
  | .noDriverResponse o => s.orderStatus o = some .noDriverAvailable
  | .driverDelivery d => s.onRoad d

section

variable {cfg : Config} {me : Nat} {call : Call} {h : List (StepRecord machine)} {site : Site}
  {s s' : Db} {o : OrderId} {d : DeliveryId} {key : TimerKey}

/-! ## Statuses of orders -/

/-- A row of an updated table of orders: another row, or one with the written status. -/
theorem status_of_update {o₁ : OrderId} {f : Order → Order} {hf : ∀ r, (f r).id = r.id} {row' : Order}
    {st : OrderStatus} (hrow' : (s.orders.update o₁ f hf).find? o = some row')
    (hst : ∀ r, (f r).status = st) :
    (∃ row, s.orders.find? o = some row ∧ row.status = row'.status) ∨ o₁ = o ∧ row'.status = st := by
  obtain ⟨row, hrow, ⟨rfl, rfl⟩ | ⟨-, rfl⟩⟩ := Table.find?_update_some hrow'
  · exact .inr ⟨rfl, hst row⟩
  · exact .inl ⟨row', hrow, rfl⟩

/-- An order has the status it had, or the one that the statement gives it; a confirmed pickup
puts the delivery's order in delivery. -/
theorem Step.status_back (hstep : Step cfg Db.Trails me call h site s s') {row' : Order}
    (hrow' : s'.orders.find? o = some row') :
    (∃ row, s.orders.find? o = some row ∧ row.status = row'.status) ∨
      site.sets = some (o, row'.status) ∨
      ∃ d driver r, site = .confirmPickup d driver ∧ row'.status = .inDelivery ∧
        s.deliveries.find? d = some r ∧ r.orderId = o := by
  have hsets : ∀ {o₁ : OrderId} {st : OrderStatus}, site.sets = some (o₁, st) →
      (∃ row, s.orders.find? o = some row ∧ row.status = row'.status) ∨ o₁ = o ∧ row'.status = st →
      (∃ row, s.orders.find? o = some row ∧ row.status = row'.status) ∨
        site.sets = some (o, row'.status) ∨
        ∃ d driver r, site = .confirmPickup d driver ∧ row'.status = .inDelivery ∧
          s.deliveries.find? d = some r ∧ r.orderId = o := by
    rintro o₁ st hsite (hold | ⟨rfl, hst⟩)
    · exact .inl hold
    · exact .inr (.inl (hst ▸ hsite))
  cases hstep with
  | aside haside => exact .inl ⟨row', haside.orders ▸ hrow', rfl⟩
  -- a new order, too, has the status that its statement gives it
  | placeOrder args hid hstock hnew =>
    rw [Table.find?_insert hnew] at hrow'
    split at hrow'
    · rename_i ho
      obtain rfl := Option.some.inj hrow'
      exact .inr (.inl (by rw [Site.sets, ho]; rfl))
    · exact .inl ⟨row', hrow', rfl⟩
  | savePaymentIntent | saveRefund =>
    dsimp only at hrow'
    exact .inl (Table.find?_update_rel (M := fun a b => a.status = b.status) hrow' (fun _ => rfl)
      fun _ _ _ => rfl)
  | paymentSucceeded ev order hsaw =>
    dsimp only at hrow'
    refine hsets rfl (status_of_update hrow' fun _ => ?_)
    rw [backfill_status]
  | paymentFailed ev order fresh reason hsaw hfresh hpending =>
    dsimp only at hrow'
    refine hsets rfl (status_of_update hrow' fun _ => ?_)
    rw [backfill_status, cancelRestored_status]
  -- the order is the one that the delivery was of when the call read it, and still is
  | confirmPickup d driver token hcall huser hR hsaw hdriver hnot hstatus htoken =>
    obtain ⟨r, hr, htrails⟩ := hR.deliveries.find? hsaw
    dsimp only at hrow'
    rcases status_of_update hrow' fun _ => rfl with hold | ⟨rfl, hst⟩
    · exact .inl hold
    · exact .inr (.inr ⟨d, driver, r, rfl, hst, hr, htrails.orderId⟩)
  | confirmPayment | startPreparing | markReady | noDriverTimeout | switchToPickup | cancelNoDriver
  | cancelSellerUnavailable | sellerCannotProvide | cancelAsSeller | driverDisappeared | refundDispute
  | pickedUpByBuyer | deliveredByDriver =>
    dsimp only at hrow'
    exact hsets rfl (status_of_update hrow' fun _ => rfl)
  | _ => exact .inl ⟨row', hrow', rfl⟩

/-! ## Deliveries -/

/-- A delivery that has not ended needs no stamp. -/
theorem Delivery.Stamped.of_live {r : Delivery}
    (hlive : r.status ∉ [DeliveryStatus.delivered, .failed, .cancelled]) : r.Stamped where
  delivered h := absurd (by simp [h]) hlive
  failed h := absurd (by rcases h with h | h <;> simp [h]) hlive

/-- One that is called off has one. -/
theorem Delivery.Stamped.of_failed {r : Delivery} {now : Time} (hstatus : r.status ≠ .delivered)
    (hat : r.failedAt = some now) : r.Stamped where
  delivered h := absurd h hstatus
  failed _ := by rw [hat]; exact Option.some_ne_none now

/-- **A delivery that has ended says when.** -/
theorem Step.stamped (hstep : Step cfg Db.Trails me call h site s s') (hs : s.Stamped) : s'.Stamped := by
  have hupdate : ∀ {d f} {hf : ∀ r : Delivery, (f r).id = r.id} {r : Delivery},
      r ∈ (s.deliveries.update d f hf).rows → (∀ r : Delivery, r.Stamped → (f r).Stamped) → r.Stamped := by
    intro d f hf r hr hkeep
    obtain ⟨r₀, hr₀, rfl⟩ := Table.mem_update.mp hr
    split
    · exact hkeep r₀ (hs r₀ hr₀)
    · exact hs r₀ hr₀
  cases hstep with
  | aside haside =>
    intro r hr
    exact hs r (haside.deliveries ▸ hr)
  | markReady o choice token hsaw hnew =>
    cases choice with
    | pickup =>
      intro r hr
      dsimp only at hnew hr
      exact hs r (hnew ▸ hr)
    | delivery =>
      intro r hr
      dsimp only at hnew hr
      rcases (Table.mem_insert hnew).mp hr with rfl | hr
      · exact .of_live (by simp [newDelivery])
      · exact hs r hr
  -- the delivery that the call has read is called off, where it has read one
  | switchToPickup | cancelNoDriver | sellerCannotProvide =>
    intro r hr
    dsimp only at hr
    split at hr
    · exact hs r hr
    · exact hupdate hr fun _ _ => .of_failed (by simp [Orders.Delivery.cancel]) rfl
  | claim d driver hcall =>
    intro r hr
    dsimp only at hr
    obtain ⟨r₀, hr₀, rfl⟩ := Table.mem_updateMany.mp hr
    split
    · exact .of_live (by simp [Delivery.assign])
    · exact hs r₀ hr₀
  | mintPickupToken | mintDeliveryToken =>
    intro r hr
    dsimp only at hr
    exact hupdate hr fun r hr => ⟨hr.delivered, hr.failed⟩
  | arriveAtPickup =>
    intro r hr
    dsimp only at hr
    exact hupdate hr fun _ _ => .of_live (by simp)
  | confirmPickup =>
    intro r hr
    dsimp only at hr
    exact hupdate hr fun _ _ => .of_live (by simp [Delivery.pickUp])
  | driverDisappeared =>
    intro r hr
    dsimp only at hr
    exact hupdate hr fun _ _ => .of_failed (by simp) rfl
  | reportSellerUnavailable =>
    intro r hr
    dsimp only at hr
    exact hupdate hr fun _ _ => .of_failed (by simp [Delivery.sellerUnavailable]) rfl
  | confirmDelivery =>
    intro r hr
    dsimp only at hr
    exact hupdate hr fun _ _ => ⟨fun _ => Option.some_ne_none _, by simp [Delivery.deliver]⟩
  | confirmAbsentDropoff =>
    intro r hr
    dsimp only at hr
    exact hupdate hr fun _ _ =>
      ⟨fun _ => Option.some_ne_none _, by simp [Delivery.dropOff, Delivery.deliver]⟩
  | _ => exact hs

/-- Only a confirmed pickup marks a delivery as picked up. -/
theorem Step.picked_up (hstep : Step cfg Db.Trails me call h site s s') {r' : Delivery}
    (hr' : s'.deliveries.find? d = some r') (hpicked : r'.pickupConfirmedAt ≠ none) :
    (∃ r, s.deliveries.find? d = some r ∧ r.pickupConfirmedAt ≠ none) ∨
      ∃ driver, site = .confirmPickup d driver := by
  have hback : ∀ {d₁ f} {hf : ∀ r : Delivery, (f r).id = r.id},
      (s.deliveries.update d₁ f hf).find? d = some r' →
      (∀ r : Delivery, (f r).pickupConfirmedAt = r.pickupConfirmedAt) →
      ∃ r, s.deliveries.find? d = some r ∧ r.pickupConfirmedAt ≠ none := by
    intro d₁ f hf hfound hsame
    obtain ⟨r, hr, heq⟩ := Table.find?_update_rel
      (M := fun a b => b.pickupConfirmedAt = a.pickupConfirmedAt) hfound (fun _ => rfl) fun r _ _ => hsame r
    exact ⟨r, hr, heq ▸ hpicked⟩
  cases hstep with
  | aside haside => exact .inl ⟨r', haside.deliveries ▸ hr', hpicked⟩
  | markReady o choice token hsaw hnew =>
    cases choice with
    | pickup =>
      dsimp only at hnew hr'
      exact .inl ⟨r', hnew ▸ hr', hpicked⟩
    | delivery =>
      dsimp only at hnew hr'
      rw [Table.find?_insert hnew] at hr'
      split at hr'
      · -- a new delivery has not been picked up
        obtain rfl := Option.some.inj hr'
        exact absurd rfl hpicked
      · exact .inl ⟨r', hr', hpicked⟩
  | switchToPickup | cancelNoDriver | sellerCannotProvide =>
    dsimp only at hr'
    split at hr'
    · exact .inl ⟨r', hr', hpicked⟩
    · exact .inl (hback hr' fun _ => rfl)
  | claim d₁ driver hcall =>
    dsimp only at hr'
    rw [Table.find?_updateMany, Option.map_eq_some_iff] at hr'
    obtain ⟨r, hr, rfl⟩ := hr'
    refine .inl ⟨r, hr, ?_⟩
    split at hpicked
    · exact hpicked
    · exact hpicked
  | confirmPickup d₁ driver token hcall huser hR hsaw hdriver hnot hstatus htoken =>
    dsimp only at hr'
    obtain ⟨r, hr, ⟨rfl, -⟩ | ⟨-, rfl⟩⟩ := Table.find?_update_some hr'
    · exact .inr ⟨driver, rfl⟩
    · exact .inl ⟨r', hr, hpicked⟩
  | mintPickupToken | mintDeliveryToken | driverDisappeared | arriveAtPickup | confirmDelivery
  | confirmAbsentDropoff | reportSellerUnavailable =>
    dsimp only at hr'
    exact .inl (hback hr' fun _ => rfl)
  | _ => exact .inl ⟨r', hr', hpicked⟩

/-! ## What waits -/

/-- The statements that make an order ready. -/
theorem Site.sets_ready (hsets : site.sets = some (o, .ready)) :
    (∃ choice, site = .markReady o choice) ∨ site = .switchToPickup o ∨
      site = .transitionAsSeller o .ready := by
  cases site with
  | markReady o₁ choice =>
    cases hsets
    exact .inl ⟨choice, rfl⟩
  | switchToPickup o₁ =>
    cases hsets
    exact .inr (.inl rfl)
  | transitionAsSeller o₁ target =>
    cases hsets
    exact .inr (.inr rfl)
  | _ => cases hsets

/-- The statements that prompt a buyer. -/
theorem Site.sets_noDriverAvailable (hsets : site.sets = some (o, .noDriverAvailable)) :
    site = .noDriverTimeout o ∨ site = .transitionAsSeller o .noDriverAvailable := by
  cases site with
  | noDriverTimeout o₁ =>
    cases hsets
    exact .inl rfl
  | transitionAsSeller o₁ target =>
    cases hsets
    exact .inr rfl
  | _ => cases hsets

/-- Sellers move orders to preparation only. -/
theorem Step.transition_target {target : OrderStatus} (htarget : target ≠ .preparing)
    (hstep : Step cfg Db.Trails me call h (.transitionAsSeller o target) s s') : s'.orders = s.orders := by
  cases hstep with
  | noop => rfl
  | aside haside => exact haside.orders
  | startPreparing o₁ hsaw => exact absurd rfl htarget

/-- An order that waits for a driver after the step. -/
theorem Step.waits_noDriver (hstep : Step cfg Db.Trails me call h site s s')
    (hsite : site.starts ≠ some (.noDriver o)) (hwaits : s'.waits (.noDriver o)) :
    s.waits (.noDriver o) := by
  obtain ⟨⟨row', hrow', hready, hchoice⟩, hfree⟩ := hwaits
  have hbefore : ∀ {row}, s.orders.find? o = some row → row.fulfillmentChoice = .delivery := by
    intro row hrow
    obtain ⟨row₁, hrow₁, htrails⟩ := hstep.trails_orders.find? hrow
    obtain rfl := Option.some.inj (hrow₁.symm.trans hrow')
    -- what is picked up by the buyer stays so
    have hpickup := htrails.marks (fun o => o.fulfillmentChoice = .pickup) (by simp [Order.marks])
    cases hrow : row.fulfillmentChoice with
    | delivery => rfl
    | pickup => simp [hrow, hchoice] at hpickup
  refine ⟨?_, fun r hr hof => ?_⟩
  · rcases hstep.status_back hrow' with ⟨row, hrow, hstatus⟩ | hsets | ⟨d, driver, r, -, hstatus, -⟩
    · exact ⟨row, hrow, hstatus.trans hready, hbefore hrow⟩
    · rw [hready] at hsets
      rcases Site.sets_ready hsets with ⟨choice, rfl⟩ | rfl | rfl
      · cases choice with
        | delivery => exact absurd rfl hsite
        | pickup =>
          cases hstep with
          | noop => exact ⟨row', hrow', hready, hchoice⟩
          | aside haside => exact ⟨row', haside.orders ▸ hrow', hready, hchoice⟩
          | markReady _ _ token hsaw hnew =>
            -- the order was seen as one that its buyer picks up
            obtain ⟨s₀, seen, hR, hseen, -, hpickup⟩ := hsaw
            obtain ⟨row, hrow, htrails⟩ := hR.orders.find? hseen
            have hstays := htrails.marks (fun o => o.fulfillmentChoice = .pickup) (by simp [Order.marks])
            simp [hpickup, hbefore hrow] at hstays
      · cases hstep with
        | noop => exact ⟨row', hrow', hready, hchoice⟩
        | aside haside => exact ⟨row', haside.orders ▸ hrow', hready, hchoice⟩
        | switchToPickup _ hR hsaw hstatus =>
          dsimp only at hrow'
          obtain ⟨row, -, ⟨-, rfl⟩ | ⟨hne, -⟩⟩ := Table.find?_update_some hrow'
          · cases hchoice
          · exact absurd rfl hne
      · exact ⟨row', hstep.transition_target (by decide) ▸ hrow', hready, hchoice⟩
    · rw [hready] at hstatus
      cases hstatus
  · obtain ⟨r', hr', htrails⟩ := hstep.trails_deliveries r hr
    have hstill := hfree r' (Table.mem_of_find? hr') (htrails.orderId.trans hof)
    constructor
    · have hleft := htrails.marks (fun d => d.status ≠ .searching) (by simp [Delivery.marks])
      simpa [hstill.1] using hleft
    · rcases htrails.driver with hnone | hsame
      · exact hnone
      · exact hsame ▸ hstill.2

theorem Step.waits_noDriverResponse (hstep : Step cfg Db.Trails me call h site s s')
    (hsite : site.starts ≠ some (.noDriverResponse o)) (hwaits : s'.waits (.noDriverResponse o)) :
    s.waits (.noDriverResponse o) := by
  obtain ⟨row', hrow', hprompted⟩ := Option.map_eq_some_iff.mp hwaits
  rcases hstep.status_back hrow' with ⟨row, hrow, hstatus⟩ | hsets | ⟨d, driver, r, -, hstatus, -⟩
  · exact Option.map_eq_some_iff.mpr ⟨row, hrow, hstatus.trans hprompted⟩
  · rw [hprompted] at hsets
    rcases Site.sets_noDriverAvailable hsets with rfl | rfl
    · exact absurd rfl hsite
    · exact Option.map_eq_some_iff.mpr ⟨row', hstep.transition_target (by decide) ▸ hrow', hprompted⟩
  · rw [hprompted] at hstatus
    cases hstatus

/-- The order of a delivery is in delivery because a delivery of it was picked up. -/
theorem Step.inDelivery_back (hstep : Step cfg Db.Trails me call h site s s')
    (hstatus : s'.orderStatus o = some .inDelivery) :
    s.orderStatus o = some .inDelivery ∨
      ∃ d driver r, site = .confirmPickup d driver ∧ s.deliveries.find? d = some r ∧ r.orderId = o := by
  obtain ⟨row', hrow', hin⟩ := Option.map_eq_some_iff.mp hstatus
  rcases hstep.status_back hrow' with ⟨row, hrow, hsame⟩ | hsets | ⟨d, driver, r, hsite, -, hr, hof⟩
  · exact .inl (Option.map_eq_some_iff.mpr ⟨row, hrow, hsame.trans hin⟩)
  · rw [hin] at hsets
    have htarget : site = .transitionAsSeller o .inDelivery := by
      cases site with
      | transitionAsSeller o₁ target =>
        cases hsets
        rfl
      | _ => cases hsets
    subst htarget
    exact .inl (Option.map_eq_some_iff.mpr ⟨row', hstep.transition_target (by decide) ▸ hrow', hin⟩)
  · exact .inr ⟨d, driver, r, hsite, hr, hof⟩

/-- A delivery on the road was on the road before, unless this is the step that picks it up. -/
theorem Step.waits_driverDelivery (hstep : Step cfg Db.Trails me call h site s s') (hs : s.Stamped)
    (hsite : site.starts ≠ some (.driverDelivery d)) (hwaits : s'.waits (.driverDelivery d)) :
    s.waits (.driverDelivery d) := by
  obtain ⟨htriggers, r', hr', hnever, honly⟩ := hwaits
  obtain ⟨r₁, row', hr₁, hrow', hlive, hpicked, hopen, habsent, hin⟩ := triggers_driverDelivery.mp htriggers
  obtain rfl := Option.some.inj (hr'.symm.trans hr₁)
  have hnotPickup : ∀ driver, site ≠ .confirmPickup d driver := by
    rintro driver rfl
    exact hsite rfl
  obtain ⟨r, hr, hpickedBefore⟩ := (hstep.picked_up hr' hpicked).resolve_right fun ⟨driver, h⟩ =>
    hnotPickup driver h
  obtain ⟨r₂, hr₂, htrails⟩ := hstep.trails_deliveries.find? hr
  obtain rfl := Option.some.inj (hr₂.symm.trans hr')
  -- a mark that is not there after the step was not there before it
  have hconfirmed := htrails.marks (fun d => d.deliveredConfirmedAt.isSome) (by simp [Delivery.marks])
  have hdropped := htrails.marks Delivery.deliveredAsAbsent (by simp [Delivery.marks])
  have hfailed := htrails.marks (fun d => d.failedAt.isSome) (by simp [Delivery.marks])
  have hopenBefore : r.deliveredConfirmedAt = none := by simpa [hopen] using hconfirmed
  have hneverBefore : r.failedAt = none := by simpa [hnever] using hfailed
  have hstamped := hs r (Table.mem_of_find? hr)
  have hliveBefore : r.status ∉ [DeliveryStatus.delivered, .failed, .cancelled] := by
    intro hended
    simp only [List.mem_cons, List.not_mem_nil, or_false] at hended
    rcases hended with hended | hended
    · exact hstamped.delivered hended hopenBefore
    · exact hstamped.failed hended hneverBefore
  have honlyBefore : ∀ x ∈ s.deliveries.rows, x.orderId = r.orderId → x.id = d := by
    intro x hx hof
    obtain ⟨x', hx', hxtrails⟩ := hstep.trails_deliveries x hx
    have hid : x'.id = x.id := Table.key_of_find? hx'
    rw [← hid]
    exact honly x' (Table.mem_of_find? hx') (hxtrails.orderId.trans (hof.trans htrails.orderId.symm))
  have hinBefore : s.orderStatus r.orderId = some .inDelivery := by
    have hstatus : s'.orderStatus r.orderId = some .inDelivery := by
      rw [← htrails.orderId]
      exact Option.map_eq_some_iff.mpr ⟨row', hrow', hin⟩
    rcases hstep.inDelivery_back hstatus with hbefore | ⟨d₁, driver, x, hpickup, hx, hof⟩
    · exact hbefore
    · have hid : x.id = d₁ := Table.key_of_find? hx
      rw [← hid, honlyBefore x (Table.mem_of_find? hx) hof] at hpickup
      exact absurd hpickup (hnotPickup driver)
  obtain ⟨row, hrow, hrowIn⟩ := Option.map_eq_some_iff.mp hinBefore
  refine ⟨triggers_driverDelivery.mpr ⟨r, row, hr, hrow, hliveBefore, hpickedBefore, hopenBefore, ?_, hrowIn⟩,
    r, hr, hneverBefore, honlyBefore⟩
  simpa [habsent] using hdropped

/-- **Nothing else starts a watch.** -/
theorem Step.waits_back (hstep : Step cfg Db.Trails me call h site s s') (hs : s.Stamped)
    (hsite : site.starts ≠ some key) (hwaits : s'.waits key) : s.waits key := by
  cases key with
  | noDriver o => exact hstep.waits_noDriver hsite hwaits
  | noDriverResponse o => exact hstep.waits_noDriverResponse hsite hwaits
  | driverDelivery d => exact hstep.waits_driverDelivery hs hsite hwaits

/-! ## Who starts watches -/

/-- The contract of a handler that starts no watch. -/
abbrev unarmedContract : Contract machine := sitesContract fun site => site.starts = none

theorem unarmed_noop (h : List (StepRecord machine)) (s : Db) : unarmedContract.guar h .query s s := rfl

theorem unarmed_query {α : Type} {f : Db → α} : Free unarmedContract (Prog.read .query f) :=
  free_read unarmed_noop

/-- A statement of any other kind. -/
theorem unarmed_await {α : Type} {site : Site} {stmt : Answer → Tx α} (hsite : site.starts = none) :
    Free unarmedContract (await site stmt) :=
  free_await_site hsite

theorem refundOrderIfNeeded_unarmed : Free unarmedContract (refundOrderIfNeeded o) :=
  refundOrderIfNeeded_of unarmed_noop (fun _ => unarmed_await rfl) (fun _ => unarmed_await rfl)
    (unarmed_await rfl)

theorem addStrike_unarmed {input : Strikes.AddStrikeInput} :
    Free unarmedContract (Strikes.addStrike me input) :=
  addStrike_of unarmed_noop (fun _ => unarmed_await rfl) (unarmed_await rfl)

theorem strike_unarmed {input : Strikes.AddStrikeInput} :
    Free unarmedContract (tryCatch (do
      let _ ← Strikes.addStrike me input
      pure ()) fun _ => pure ()) :=
  strike_of addStrike_unarmed

theorem cancelNoDriverOrder_unarmed {reason : Reason} :
    Free unarmedContract (cancelNoDriverOrder o reason) :=
  cancelNoDriverOrder_of unarmed_noop (fun _ _ => unarmed_await rfl) refundOrderIfNeeded_unarmed

theorem creditForCompletedOrder_unarmed : Free unarmedContract (creditForCompletedOrder cfg me o) := by
  refine free_bind unarmed_query fun found => ?_
  obtain ⟨row, delivery, now⟩ := found
  cases row with
  | none => exact free_pure
  | some row => exact free_ite (free_ite free_pure (unarmed_await rfl)) free_pure

theorem confirmDeliveredByDriver_unarmed : Free unarmedContract (confirmDeliveredByDriver cfg me o) := by
  refine free_bind unarmed_query fun found => free_bind free_orThrow fun row => ?_
  refine free_bind free_throwIf fun _ => free_bind (free_runIf fun _ => unarmed_await rfl) fun _ => ?_
  exact free_bind creditForCompletedOrder_unarmed fun _ => findOrderWithRelations_of unarmed_noop

theorem checkOutForDelivery_unarmed {row : Delivery} : Free unarmedContract (checkOutForDelivery row) :=
  free_bind free_throwIf fun _ => free_throwIf

/-- What follows the transaction of a driver who has disappeared. -/
theorem afterDriverDisappeared_unarmed {row : Order} {driver : Option UserId} :
    Free unarmedContract (do
      await (.reverseDriverEarning row.id) fun _ => reverseDriverEarning row.id
      refundOrderIfNeeded row.id
      Wallets.creditSellerEarning me row.id row.sellerId row.sellerEarningsCents
      match driver with
      | none => return ()
      | some driver =>
        try
          Wallets.recordDriverDebt me row.id driver row.buyerTotalCents
        catch _ =>
          pure ()
        try
          Strikes.immediateExclude me driver .driver .driverDisappearedAfterPickup .delivery d row.id
        catch _ =>
          pure ()) := by
  refine free_bind (unarmed_await rfl) fun _ => free_bind refundOrderIfNeeded_unarmed fun _ => ?_
  refine free_bind (free_ite free_pure (unarmed_await rfl)) fun _ => ?_
  cases driver with
  | none => exact free_pure
  | some driver =>
    refine free_bind (free_tryCatch (free_ite free_pure (unarmed_await rfl)) fun _ => free_pure) fun _ => ?_
    exact free_tryCatch (free_bind addStrike_unarmed fun _ => unarmed_await rfl) fun _ => free_pure

theorem resolveDriverDisappeared_unarmed {row : Order} {driver : Option UserId} :
    Free unarmedContract (resolveDriverDisappeared me row d driver) :=
  free_bind (unarmed_await rfl) fun _ => afterDriverDisappeared_unarmed

theorem handleDriverDeliveryTimeout_unarmed : Free unarmedContract (handleDriverDeliveryTimeout me d) := by
  refine free_bind unarmed_query fun found => ?_
  cases found with
  | none => exact free_pure
  | some delivery =>
    refine free_ite free_pure (free_ite free_pure (free_ite free_pure ?_))
    refine free_bind unarmed_query fun found => ?_
    cases found with
    | none => exact free_pure
    | some row => exact free_ite free_pure resolveDriverDisappeared_unarmed

theorem cancelForSellerUnavailable_unarmed {driver : UserId} :
    Free unarmedContract (cancelForSellerUnavailable me o driver) := by
  refine free_bind unarmed_query fun found => free_bind free_orThrow fun row => ?_
  refine free_bind free_throwIf fun _ => free_bind (unarmed_await rfl) fun _ => ?_
  refine free_bind refundOrderIfNeeded_unarmed fun _ => ?_
  exact free_bind (free_ite free_pure (unarmed_await rfl)) fun _ => strike_unarmed

theorem createOrder_unarmed {sub : String} {dto : CreateOrderDto} :
    Free unarmedContract (createOrder cfg me sub dto) := by
  have hprepare : Free unarmedContract (prepareOrder cfg me sub dto) := by
    intro h s
    refine (prepareOrder_free (R := fun _ _ => True) h s).mono (fun _ _ hR => hR) ?_ fun _ _ _ hQ => hQ
    intro _ site _ _ hg
    cases site with
    | query => rfl
    | stripeQuery => rfl
    | createCustomer _ => rfl
    | saveCustomer _ => rfl
    | createAddress _ => rfl
    | _ => cases hg.1
  rw [createOrder_eq]
  refine free_bind hprepare fun p => free_bind (unarmed_await rfl) fun order => ?_
  refine free_bind (free_tryCatch (unarmed_await rfl) fun _ => free_ite free_pure free_throw)
    fun payment => ?_
  exact free_bind (free_tryCatch (unarmed_await rfl) fun _ => free_pure) fun _ =>
    free_bind free_throwIf fun _ => free_pure

theorem createDispute_unarmed {sub : String} {dto : CreateDisputeDto} :
    Free unarmedContract (createDispute me sub o dto) := by
  have hcheck : ∀ buyer row delivery now,
      Free unarmedContract (checkClaim buyer row delivery dto now) := fun _ _ _ _ =>
    free_bind free_throwIf fun _ => free_bind free_throwIf fun _ => free_bind free_throwIf fun _ =>
      free_bind free_throwIf fun _ => free_throwIf
  have hdecide : ∀ {type : DisputeType} {delivery : Option Delivery} {total : Cents},
      Free unarmedContract (Prog.done (decideDispute type delivery total)) := fun _ _ => trivial
  refine free_bind ?_ fun filed => free_bind ?_ fun _ => free_pure
  · refine free_bind (assertSellerUser_of unarmed_noop) fun buyer => free_bind unarmed_query fun seen => ?_
    refine free_bind free_orThrow fun row => free_bind (hcheck _ _ _ _) fun _ => ?_
    refine free_bind unarmed_query fun existing => free_bind free_throwIf fun _ => ?_
    exact free_bind hdecide fun decision => free_bind (unarmed_await rfl) fun dispute => free_pure
  · exact free_bind (free_runIf fun _ =>
      free_bind refundOrderIfNeeded_unarmed fun _ => unarmed_await rfl) fun _ =>
      free_runIf fun _ => strike_unarmed

/-- The calls that start watches. -/
def Call.arms : Call → Bool
  | .markReady .. | .handleNoDriverTimeout _ | .confirmPickup .. => true
  | _ => false

/-- **No other call starts a watch.** -/
theorem handle_unarmed (hcall : call.arms = false) : Free unarmedContract (handle cfg me call) := by
  -- call by call, through the rule of its program
  cases call with
  | markReady sub o => cases hcall
  | handleNoDriverTimeout o => cases hcall
  | confirmPickup sub d dto => cases hcall
  | createOrder sub dto => exact free_bind createOrder_unarmed fun _ => free_pure
  | confirmPaymentForBuyer sub o =>
    exact free_bind (confirmPaymentForBuyer_of unarmed_noop (fun _ _ => rfl) (unarmed_await rfl))
      fun _ => free_pure
  | paymentIntentSucceeded ev =>
    exact free_bind (handlePaymentIntentSucceeded_of unarmed_noop fun _ => unarmed_await rfl)
      fun _ => free_pure
  | paymentIntentFailed ev =>
    exact free_bind (handlePaymentIntentFailed_of unarmed_noop fun _ => unarmed_await rfl)
      fun _ => free_pure
  | chargeDispute dispute =>
    exact free_bind (handleChargeDispute_of unarmed_noop (fun _ _ => unarmed_await rfl)
      fun _ _ => unarmed_await rfl) fun _ => free_pure
  | startPreparing sub o =>
    exact free_bind (startPreparing_of unarmed_noop (unarmed_await rfl)) fun _ => free_pure
  | getSellerPickupQr sub o =>
    exact free_bind (getSellerPickupQr_of unarmed_noop fun _ => unarmed_await rfl) fun _ => free_pure
  | getBuyerDeliveryQr sub o =>
    exact free_bind (getBuyerDeliveryQr_of unarmed_noop fun _ => unarmed_await rfl) fun _ => free_pure
  | decideNoDriver sub o decision =>
    exact free_bind (decideNoDriver_of unarmed_noop (fun _ _ => unarmed_await rfl)
      fun _ => cancelNoDriverOrder_unarmed) fun _ => free_pure
  | autoCancelNoResponse o =>
    exact free_bind (autoCancelNoResponse_of unarmed_noop fun _ => cancelNoDriverOrder_unarmed)
      fun _ => free_pure
  | sellerCannotProvide sub o dto =>
    exact free_bind (sellerCannotProvide_of unarmed_noop (fun _ _ => unarmed_await rfl)
      refundOrderIfNeeded_unarmed fun _ => addStrike_unarmed) fun _ => free_pure
  | handleDriverDeliveryTimeout d =>
    exact free_bind handleDriverDeliveryTimeout_unarmed fun _ => free_pure
  | confirmOrderPickup sub o =>
    refine free_bind ?_ fun _ => free_pure
    refine free_bind (assertSellerUser_of unarmed_noop) fun user => free_bind unarmed_query fun found => ?_
    refine free_bind free_orThrow fun row => free_bind free_throwIf fun _ => ?_
    refine free_bind free_throwIf fun _ => free_bind free_throwIf fun _ => ?_
    refine free_bind (unarmed_await rfl) fun _ => ?_
    exact free_bind creditForCompletedOrder_unarmed fun _ => findOrderWithRelations_of unarmed_noop
  | cancelAsSeller sub o reason =>
    exact free_bind (cancelAsSeller_of unarmed_noop (unarmed_await rfl) refundOrderIfNeeded_unarmed)
      fun _ => free_pure
  | createDispute sub o dto => exact free_bind createDispute_unarmed fun _ => free_pure
  | adminApproveRefund id notes =>
    refine free_bind ?_ fun _ => free_pure
    refine free_bind (getDispute_of unarmed_noop) fun _ => free_bind unarmed_query fun _ => ?_
    exact free_bind (free_bind refundOrderIfNeeded_unarmed fun _ => unarmed_await rfl) fun _ =>
      unarmed_await rfl
  | adminRejectDispute id notes =>
    exact free_bind (free_bind (getDispute_of unarmed_noop) fun _ => unarmed_await rfl) fun _ => free_pure
  | adminResolveDispute id notes =>
    exact free_bind (free_bind (getDispute_of unarmed_noop) fun _ => unarmed_await rfl) fun _ => free_pure
  | adminConfirmAllergenViolation id notes =>
    exact free_bind (free_bind (getDispute_of unarmed_noop) fun _ =>
      free_bind strike_unarmed fun _ => unarmed_await rfl) fun _ => free_pure
  | adminConfirmFraudulentChargeback id notes =>
    exact free_bind (free_bind (getDispute_of unarmed_noop) fun _ =>
      free_bind strike_unarmed fun _ => unarmed_await rfl) fun _ => free_pure
  | claim sub d =>
    exact free_bind (claim_of unarmed_noop (fun _ => unarmed_await rfl) fun _ => unarmed_await rfl)
      fun _ => free_pure
  | arriveAtPickup sub d =>
    exact free_bind (arriveAtPickup_of unarmed_noop (unarmed_await rfl)) fun _ => free_pure
  | confirmDelivery sub d dto =>
    refine free_bind ?_ fun _ => free_pure
    refine free_bind (assertDriver_of unarmed_noop) fun driver => ?_
    refine free_bind (loadDeliveryForDriver_of unarmed_noop) fun row => ?_
    refine free_bind checkOutForDelivery_unarmed fun _ => free_bind free_throwIf fun _ => ?_
    refine free_bind (unarmed_await rfl) fun _ => ?_
    exact free_bind confirmDeliveredByDriver_unarmed fun _ => loadDelivery_of unarmed_noop
  | confirmAbsentDropoff sub d dto =>
    refine free_bind ?_ fun _ => free_pure
    refine free_bind (assertDriver_of unarmed_noop) fun driver => ?_
    refine free_bind (loadDeliveryForDriver_of unarmed_noop) fun row => ?_
    refine free_bind checkOutForDelivery_unarmed fun _ => free_bind free_orThrow fun photo => ?_
    refine free_bind free_orThrow fun position => free_bind (unarmed_await rfl) fun _ => ?_
    exact free_bind confirmDeliveredByDriver_unarmed fun _ => loadDelivery_of unarmed_noop
  | reportSellerUnavailable sub d dto =>
    refine free_bind ?_ fun _ => free_pure
    refine free_bind (assertDriver_of unarmed_noop) fun driver => ?_
    refine free_bind (loadDeliveryForDriver_of unarmed_noop) fun row => ?_
    refine free_bind free_throwIf fun _ => free_bind free_throwIf fun _ => ?_
    refine free_bind unarmed_query fun found => free_bind free_orThrow fun order => ?_
    refine free_bind free_throwIf fun _ => free_bind free_orThrow fun position => ?_
    refine free_bind (unarmed_await rfl) fun _ => ?_
    exact free_bind cancelForSellerUnavailable_unarmed fun _ => loadDelivery_of unarmed_noop
  | releaseDuePendingEntries =>
    exact free_bind (releaseDuePendingEntries_of unarmed_noop (fun _ _ => unarmed_await rfl)
      fun _ => unarmed_await rfl) fun _ => free_pure
  | requestWithdrawal sub =>
    refine free_bind ?_ fun _ => free_pure
    refine free_bind unarmed_query fun found => free_bind free_orThrow fun user => ?_
    refine free_bind (free_read fun _ _ => rfl) fun available => ?_
    refine free_bind free_throwIf fun _ => free_bind free_throwIf fun _ => ?_
    refine free_bind (free_ite unarmed_query unarmed_query) fun payout => ?_
    refine free_bind free_throwIf fun _ => free_bind free_orThrow fun account => ?_
    refine free_bind (unarmed_await rfl) fun _ => free_bind (unarmed_await rfl) fun _ => free_pure

end

end IncaCook
