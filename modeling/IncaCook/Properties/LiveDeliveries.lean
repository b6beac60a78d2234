import IncaCook.Properties.AbsorbingOrders
import IncaCook.Properties.OneDelivery

/-!
# Dead orders and live deliveries

An order that is cancelled or refunded should leave no job behind for a driver.
Most statements that end an order also end its delivery, or run when there is
none. Two do not look at it: `cancelAsSeller` and `refundDispute`.

Main results:

* `dead_order_no_live_delivery`: if those two find no live delivery, no dead order
  ever has one, and no driver takes a delivery of a dead order any further;
* `dead_order_live_delivery`: an order cancelled under a driver who has claimed it.
-/

namespace IncaCook

open Prog Orders Deliveries

/-- Waiting for a driver, or in a driver's hands. -/
def DeliveryStatus.live : DeliveryStatus → Bool
  | .searching | .assigned | .enRouteToPickup | .atPickup | .pickedUp | .enRouteToDropoff
  | .atDropoff => true
  | _ => false

/-- The order has a live delivery. -/
def Db.liveDelivery (s : Db) (o : OrderId) : Bool :=
  s.deliveries.rows.any fun r => r.orderId = o && r.status.live

/-- The two statements that end an order whatever its delivery find no live one. -/
def NoLiveLeft : Site → Db → Prop
  | .cancelAsSeller o, s => s.liveDelivery o = false
  | .refundDispute o, s => s.liveDelivery o = false
  | _, _ => True

instance (site : Site) (s : Db) : Decidable (NoLiveLeft site s) := by
  unfold NoLiveLeft
  split
  · infer_instance
  · infer_instance
  · infer_instance

/-- The statements with which a driver takes a delivery on. -/
def Site.takes (d : DeliveryId) : Site → Bool
  | .claim d' _ | .confirmPickup d' _ | .confirmDelivery d' _ | .confirmAbsentDropoff d' _ => d' = d
  | _ => false

/-- No step of the list takes a delivery of a dead order on. -/
def LeavesDead (steps : List (StepRecord machine)) : Prop :=
  ∀ t ∈ steps, ∀ d r, t.pre.deliveries.find? d = some r → t.pre.deadOrder r.orderId = true →
    t.site.takes d = true → t.post.deliveries.find? d = some r

section

variable {cfg : Config} {me : Nat} {call : Call} {h : List (StepRecord machine)} {site : Site}
  {s s' : Db} {o : OrderId} {d : DeliveryId}

theorem liveDelivery_iff : s.liveDelivery o = true ↔
    ∃ d r, s.deliveries.find? d = some r ∧ r.orderId = o ∧ r.status.live = true := by
  simp only [Db.liveDelivery, List.any_eq_true, Bool.and_eq_true, decide_eq_true_eq]
  constructor
  · rintro ⟨r, hr, hof, hlive⟩
    exact ⟨r.id, r, Table.find?_of_mem hr, hof, hlive⟩
  · rintro ⟨d, r, hr, hof, hlive⟩
    exact ⟨r, Table.mem_of_find? hr, hof, hlive⟩

theorem live_eq_false {r : Delivery} (hnone : s.liveDelivery o = false)
    (hr : s.deliveries.find? d = some r) (hof : r.orderId = o) : r.status.live = false := by
  rw [← Bool.not_eq_true, liveDelivery_iff] at hnone
  rw [← Bool.not_eq_true]
  exact fun hlive => hnone ⟨d, r, hr, hof, hlive⟩

theorem live_of_prePickup {status : DeliveryStatus} (hfrom : status ∈ prePickup) :
    status.live = true := by
  revert status
  decide

theorem live_of_outForDelivery {status : DeliveryStatus} (hfrom : status ∈ outForDelivery) :
    status.live = true := by
  revert status
  decide

/-- A delivery that is no longer live stays so. -/
theorem DeliveryMove.live {row row' : Delivery} (hmove : DeliveryMove s d call site row row')
    (hlive : row'.status.live = true) : row.status.live = true := by
  cases hmove with
  | stay => exact hlive
  | mintPickupToken token hnone => exact hlive
  | mintDeliveryToken token hnone => exact hlive
  | claim driver hfrom hfree => simp [hfrom, DeliveryStatus.live]
  | arriveAtPickup hfrom hdriver => simp [hfrom, DeliveryStatus.live]
  | confirmPickup token huser hdriver hnot hfrom htoken => exact live_of_prePickup hfrom
  | _ => cases hlive

/-- A driver takes only live deliveries on. -/
theorem DeliveryMove.takes {row row' : Delivery} (hmove : DeliveryMove s d call site row row')
    (htakes : site.takes d = true) (hdone : row.status.live = false) : row' = row := by
  by_contra hmoved
  have hlive : row.status.live = true := by
    cases hmove with
    | stay => exact absurd rfl hmoved
    | claim driver hfrom hfree => simp [hfrom, DeliveryStatus.live]
    | confirmPickup token huser hdriver hnot hfrom htoken => exact live_of_prePickup hfrom
    | confirmDelivery huser hdriver hopen hfrom htoken => exact live_of_outForDelivery hfrom
    | confirmAbsentDropoff huser hdriver hopen hfrom hphoto hgps => exact live_of_outForDelivery hfrom
    | _ => cases htakes
  rw [hdone] at hlive
  cases hlive

/-! ## The end of an order -/

/-- The statements that end an order. -/
def Site.ends (o : OrderId) : Site → Bool
  | .paymentFailed o' | .cancelNoDriver o' _ | .cancelSellerUnavailable o' _
  | .sellerCannotProvide o' _ | .cancelAsSeller o' | .driverDisappeared _ o' | .refundDispute o' =>
    o' = o
  | _ => false

theorem OrderMove.ends {row row' : Order} (hmove : OrderMove cfg call s o site row row')
    (halive : row.status.dead = false) (hdead : row'.status.dead = true) : site.ends o = true := by
  cases hmove with
  | stay =>
    rw [halive] at hdead
    cases hdead
  | savePaymentIntent pi =>
    rw [halive] at hdead
    cases hdead
  | saveRefund refund hcause =>
    rw [halive] at hdead
    cases hdead
  | paymentSucceeded ev hfrom hgenuine => simp [OrderStatus.dead] at hdead
  | paymentFailed ev reason hfrom => simp [Site.ends]
  | cancelNoDriver reason hfrom => simp [Site.ends]
  | cancelSellerUnavailable hfrom => simp [Site.ends]
  | sellerCannotProvide hfrom => simp [Site.ends]
  | cancelAsSeller reason hfrom => simp [Site.ends]
  | driverDisappeared d hfrom => simp [Site.ends]
  | refundDispute => simp [Site.ends]
  | _ => cases hdead

/-- A step under which an order dies is one of these statements, about this order. -/
theorem Step.ends (hstep : Step cfg Eq me call h site s s') {row : Order}
    (hrow : s.orders.find? o = some row) (hbefore : s.deadOrder o = false)
    (hafter : s'.deadOrder o = true) : site.ends o = true := by
  obtain ⟨row', hrow', hdead⟩ := deadOrder_iff.mp hafter
  obtain ⟨row₁, hrow₁, hmove⟩ := hstep.order_moved hrow
  obtain rfl := Option.some.inj (hrow'.symm.trans hrow₁)
  refine hmove.ends ?_ hdead
  rw [← Bool.not_eq_true]
  intro halive
  rw [deadOrder_iff.mpr ⟨row, hrow, halive⟩] at hbefore
  cases hbefore

/-- **A step that ends an order ends its delivery**, or finds none to end. -/
theorem Step.ends_delivery (hstep : Step cfg Eq me call h site s s') (hp : Paired s)
    (hc : NoLiveLeft site s) {r r' : Delivery} (hr : s.deliveries.find? d = some r)
    (hr' : s'.deliveries.find? d = some r') (hbefore : s.deadOrder r.orderId = false)
    (hafter : s'.deadOrder r.orderId = true) : r'.status.live = false := by
  obtain ⟨row, hrow, hnotEarly⟩ := hp.order d r hr
  have hends : site.ends r.orderId = true := hstep.ends hrow hbefore hafter
  have hlatest : s.latestDelivery r.orderId = some r := hp.latestDelivery hr
  have hid : r.id = d := Table.key_of_find? hr
  cases hstep with
  | noop =>
    rw [hbefore] at hafter
    cases hafter
  | aside haside =>
    rw [Db.deadOrder, haside.orders, ← Db.deadOrder, hbefore] at hafter
    cases hafter
  | paymentFailed ev order fresh reason hsaw hfresh hpending =>
    -- a pending order has no delivery
    obtain hof := of_decide_eq_true hends
    rw [hof, hrow] at hfresh
    rw [Option.some.inj hfresh, hpending] at hnotEarly
    simp [early] at hnotEarly
  | cancelNoDriver o₁ reason hR hsaw hprompted =>
    obtain rfl := of_decide_eq_true hends
    subst hR
    dsimp only at hr'
    rw [hlatest] at hr'
    dsimp only at hr'
    rw [hid, Table.find?_update_of_eq hr] at hr'
    rw [← Option.some.inj hr']
    rfl
  | cancelSellerUnavailable o₁ hR hsaw hstatus hreported =>
    -- the driver's report has cancelled the delivery already
    obtain rfl := of_decide_eq_true hends
    obtain ⟨d₁, r₁, hr₁, hof₁, hcancelled⟩ := hreported.now
    have hd : d = d₁ := hp.unique d d₁ r r₁ hr hr₁ hof₁.symm
    dsimp only at hr'
    rw [hd, hr₁] at hr'
    rw [← Option.some.inj hr', hcancelled]
    rfl
  | sellerCannotProvide o₁ hR hsaw hstatus hpickup =>
    obtain rfl := of_decide_eq_true hends
    subst hR
    dsimp only at hr'
    rw [hlatest, cancellableDelivery, Option.filter_some] at hr'
    split at hr'
    · rename_i hopen
      split at hopen
      · cases hopen
      · -- it was cancelled or failed before
        rename_i hclosed
        rw [hr] at hr'
        rw [← Option.some.inj hr']
        revert hclosed
        cases r.status with
        | _ => decide
    · rename_i d₁ hopen
      split at hopen
      · obtain rfl := Option.some.inj hopen
        rw [hid, Table.find?_update_of_eq hr] at hr'
        rw [← Option.some.inj hr']
        rfl
      · cases hopen
  | cancelAsSeller o₁ reason hfresh hstatus =>
    obtain rfl := of_decide_eq_true hends
    rw [← Option.some.inj (hr.symm.trans hr')]
    exact live_eq_false hc hr rfl
  | driverDisappeared d₁ o₁ hdelivery horder =>
    obtain rfl := of_decide_eq_true hends
    obtain ⟨_, r₁, rfl, hr₁, hof₁, -⟩ := hdelivery
    have hd : d = d₁ := hp.unique d d₁ r r₁ hr hr₁ hof₁.symm
    dsimp only at hr'
    rw [← hd, Table.find?_update_of_eq hr] at hr'
    rw [← Option.some.inj hr']
    rfl
  | refundDispute o₁ =>
    obtain rfl := of_decide_eq_true hends
    rw [← Option.some.inj (hr.symm.trans hr')]
    exact live_eq_false hc hr rfl
  | _ => cases hends

/-! ## The invariant -/

/-- Orders and deliveries are paired, and the orders of live deliveries are not dead. -/
structure Cleared (s : Db) : Prop where
  paired : Paired s
  alive : ∀ d r, s.deliveries.find? d = some r → r.status.live = true →
    s.deadOrder r.orderId = false

theorem Cleared.of_fresh (h0 : Fresh s) : Cleared s := by
  refine ⟨.of_fresh h0, fun d r hr => ?_⟩
  simp [Table.find?, h0.deliveries] at hr

theorem Cleared.no_live_delivery (hI : Cleared s) (hdead : s.deadOrder o = true) :
    s.liveDelivery o = false := by
  rw [← Bool.not_eq_true]
  intro hlive
  obtain ⟨d, r, hr, rfl, hopen⟩ := liveDelivery_iff.mp hlive
  rw [hI.alive d r hr hopen] at hdead
  cases hdead

theorem Step.cleared (hstep : Step cfg Eq me call h site s s') (hc : NoLiveLeft site s)
    (hI : Cleared s) : Cleared s' := by
  refine ⟨hstep.paired hI.paired, fun d r' hr' hlive => ?_⟩
  rcases hstep.delivery_move hr' with ⟨-, -, o, order, token, -, -, -, -, hready, rfl⟩ | ⟨r, hr, hmove⟩
  · -- a new delivery belongs to an order that has just become ready
    change s'.deadOrder o = false
    simp [Db.deadOrder, hready, OrderStatus.dead]
  · rw [hmove.orderId]
    have hbefore : s.deadOrder r.orderId = false := hI.alive d r hr (hmove.live hlive)
    rw [← Bool.not_eq_true]
    intro hafter
    rw [hstep.ends_delivery hI.paired hc hr hr' hbefore hafter] at hlive
    cases hlive

/-- No driver's statement moves a delivery of a dead order. -/
theorem Step.leaves_dead (hstep : Step cfg Eq me call h site s s') (hI : Cleared s) {r : Delivery}
    (hr : s.deliveries.find? d = some r) (hdead : s.deadOrder r.orderId = true)
    (htakes : site.takes d = true) : s'.deliveries.find? d = some r := by
  obtain ⟨r', hr', hmove⟩ := hstep.delivery_moved hr
  have hdone : r.status.live = false := live_eq_false (hI.no_live_delivery hdead) hr rfl
  rw [hr', hmove.takes htakes hdone]

theorem Step.keeps_cleared {before : List (StepRecord machine)}
    (hstep : Step cfg Eq me call h site s s') (hc : NoLiveLeft site s)
    (hI : Cleared s ∧ LeavesDead before) : Cleared s' ∧ LeavesDead (⟨site, s, s'⟩ :: before) := by
  refine ⟨hstep.cleared hc hI.1, fun t ht d r hr hdead htakes => ?_⟩
  rcases List.mem_cons.mp ht with rfl | ht
  · exact hstep.leaves_dead hI.1 hr hdead htakes
  · exact hI.2 t ht d r hr hdead htakes

end

/-- **A dead order has no live delivery**, and no driver takes a delivery of one any
further, in every run in which `cancelAsSeller` and `refundDispute` find no live
delivery. -/
theorem dead_order_no_live_delivery (cfg : Config) (s₀ : Db) (h0 : Fresh s₀)
    (inputs : List (Input (service cfg))) (hc : (serialRun s₀ inputs).Steps NoLiveLeft) :
    (∀ o, (serialRun s₀ inputs).state.deadOrder o = true →
      (serialRun s₀ inputs).state.liveDelivery o = false) ∧
    ∀ c ∈ (serialRun s₀ inputs).calls, LeavesDead c.outcome.steps := by
  suffices hI : Cleared (serialRun s₀ inputs).state ∧
      ∀ c ∈ (serialRun s₀ inputs).calls, LeavesDead c.outcome.steps from
    ⟨fun o hdead => hI.1.no_live_delivery hdead, hI.2⟩
  have hstart : Cleared s₀ ∧ ∀ c ∈ ([] : List (CallRecord (service cfg))),
      LeavesDead c.outcome.steps := ⟨.of_fresh h0, by simp⟩
  refine serial_invariant (I := fun (s : Db) calls => Cleared s ∧
    ∀ c ∈ calls, LeavesDead c.outcome.steps) hstart ?_ ?_ inputs hc
  · intro e s calls hI
    cases e with
    | tick ms => exact ⟨⟨⟨hI.1.paired.order, hI.1.paired.unique⟩, hI.1.alive⟩, hI.2⟩
    | paymentSucceeds pi => exact ⟨⟨⟨hI.1.paired.order, hI.1.paired.unique⟩, hI.1.alive⟩, hI.2⟩
  · intro call w s calls hI hadm out hout
    -- within the call the steps are counted newest first
    have hcall : Cleared out.state ∧ LeavesDead out.steps.reverse :=
      call_invariant (I := fun h s => Cleared s ∧ LeavesDead h) w hadm
        ⟨hI.1, fun t ht => by cases ht⟩ (fun _ _ _ _ hI hc hstep => hstep.keeps_cleared hc hI) hout
    refine ⟨hcall.1, fun c hmem => ?_⟩
    rcases List.mem_cons.mp hmem with rfl | hmem
    · exact fun t ht => hcall.2 t (List.mem_reverse.mpr ht)
    · exact hI.2 c hmem

/-- A seller who cannot provide a claimed order takes the job from its driver, and
nobody can claim it again. -/
theorem unprovided_order_no_live_delivery :
    (serialRun smallTown (orderClaimed ++
      [smallTownCall (.sellerCannotProvide "seller" ⟨0, 0⟩ ⟨none, none⟩),
        smallTownCall (.claim "rival" ⟨3, 2⟩)])).state.liveDelivery ⟨0, 0⟩ = false :=
  (dead_order_no_live_delivery smallTownConfig smallTown smallTown_fresh _ (by decide +kernel)).1
    ⟨0, 0⟩ (by decide +kernel)

/-- **A dead order with a live delivery.** The seller cancels an order that a driver
has claimed: the driver's job stays assigned. -/
theorem dead_order_live_delivery :
    ¬∀ (cfg : Config) (s₀ : Db) (inputs : List (Input (service cfg))) (o : OrderId), Fresh s₀ →
      (serialRun s₀ inputs).state.deadOrder o = true →
        (serialRun s₀ inputs).state.liveDelivery o = false := by
  intro hclaim
  have hclear := hclaim smallTownConfig smallTown
    (orderClaimed ++ [smallTownCall (.cancelAsSeller "seller" ⟨0, 0⟩ "closed")])
    ⟨0, 0⟩ smallTown_fresh (by decide +kernel)
  exact absurd hclear (by decide +kernel)

end IncaCook
