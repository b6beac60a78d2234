import IncaCook.Properties.LiveDeliveries
import IncaCook.Steps.Interleaved

/-!
# One live delivery for an order

`markReady` looks at the status of an order, and then moves it to `READY` and creates its
delivery in a transaction that does not look again. A seller who taps twice gets two
deliveries, and each may find its driver.

Main results:

* `Step.paired_of_finds`: a step that finds the order in the status it was looked up in keeps
  orders and deliveries `Paired`;
* `one_live_delivery`: in every interleaving of such steps an order has one delivery at most;
* `two_drivers`: two taps, two deliveries, two drivers.
-/

namespace IncaCook

open Prog Orders Deliveries Webhooks

/-- No two live deliveries are of one order. -/
def OneLive (s : Db) : Prop :=
  ∀ d d' r r', s.deliveries.find? d = some r → s.deliveries.find? d' = some r' →
    r.orderId = r'.orderId → r.status.live = true → r'.status.live = true → d = d'

/-- The status that a write of an order on its way to a delivery was decided on. -/
def Site.source : Site → Option (OrderId × OrderStatus)
  | .markReady o _ => some (o, .preparing)
  | .transitionAsSeller o .preparing => some (o, .confirmed)
  | .confirmPayment o | .paymentSucceeded o => some (o, .pending)
  | _ => none

/-- The writes that lead up to a delivery find the order as it was when they were decided on:
above all, `markReady` finds it still being prepared. -/
def FindsSource (site : Site) (s : Db) : Prop :=
  ∀ seen ∈ site.source, s.orderStatus seen.1 = some seen.2

instance (site : Site) (s : Db) : Decidable (FindsSource site s) :=
  inferInstanceAs (Decidable (∀ seen ∈ site.source, s.orderStatus seen.1 = some seen.2))

section

variable {cfg : Config} {R : Db → Db → Prop} {me : Nat} {call : Call}
  {h : List (StepRecord machine)} {site : Site} {s s' : Db} {o o₁ : OrderId} {d : DeliveryId}

/-- The order is past its preparation. -/
def PastPreparing (o : OrderId) (s : Db) : Prop :=
  ∃ row, s.orders.find? o = some row ∧ row.status ∉ early

theorem PastPreparing.update {f : Order → Order} (hpast : PastPreparing o s)
    (hupdate : ∀ row, s.orders.find? o = some row → o = o₁ → row.status ∉ early → (f row).status ∉ early)
    (hf : ∀ r, (f r).id = r.id := by intro _; exact Eq.symm rfl) :
    ∃ row, (s.orders.update o₁ f hf).find? o = some row ∧ row.status ∉ early := by
  obtain ⟨row, hrow, hnot⟩ := hpast
  rw [Table.find?_update, hrow]
  split
  · rename_i ho
    exact ⟨f row, rfl, hupdate row hrow ho hnot⟩
  · exact ⟨row, rfl, hnot⟩

/-- A write of a later status. -/
theorem PastPreparing.later {f : Order → Order} (hpast : PastPreparing o s)
    (hlater : ∀ row, (f row).status ∉ early) (hf : ∀ r, (f r).id = r.id := by intro _; exact Eq.symm rfl) :
    ∃ row, (s.orders.update o₁ f hf).find? o = some row ∧ row.status ∉ early :=
  hpast.update (fun row _ _ _ => hlater row) hf

/-- A write to an order that is found in an early status is not to this one. -/
theorem PastPreparing.elsewhere {f : Order → Order} {status : OrderStatus} (hpast : PastPreparing o s)
    (hfound : s.orderStatus o₁ = some status) (hearly : status ∈ early)
    (hf : ∀ r, (f r).id = r.id := by intro _; exact Eq.symm rfl) :
    ∃ row, (s.orders.update o₁ f hf).find? o = some row ∧ row.status ∉ early := by
  refine hpast.update (fun row hrow ho hnot => ?_) hf
  rw [Db.orderStatus, ← ho, hrow] at hfound
  exact absurd (Option.some.inj hfound ▸ hearly) hnot

/-- **No order returns to its preparation.** -/
theorem Step.past_preparing (hstep : Step cfg R me call h site s s') (hc : FindsSource site s)
    (hpast : PastPreparing o s) : PastPreparing o s' := by
  cases hstep with
  | aside haside => rwa [PastPreparing, haside.orders]
  | placeOrder args hid hstock hnew =>
    obtain ⟨row, hrow, hnot⟩ := hpast
    exact ⟨row, Table.find?_insert_of_some hnew hrow, hnot⟩
  | savePaymentIntent o₁ pi hpi =>
    refine hpast.update ?_
    exact fun _ _ _ hnot => hnot
  | saveRefund o₁ refund hrefund hcause =>
    refine hpast.update ?_
    exact fun _ _ _ hnot => hnot
  | confirmPayment o₁ hsaw => exact hpast.elsewhere (hc _ rfl) (by simp [early])
  | paymentSucceeded ev order hsaw =>
    refine hpast.elsewhere (hc _ rfl) (by simp [early]) ?_
    exact fun _ => (backfill_id order ev.id _).trans rfl
  | startPreparing o₁ hsaw => exact hpast.elsewhere (hc _ rfl) (by simp [early])
  | paymentFailed ev order fresh reason hsaw hfresh hpending =>
    refine hpast.later ?_ ?_
    · simp [early]
    · exact fun _ => (backfill_id order ev.id _).trans rfl
  | markReady o₁ choice token hsaw hnew => exact hpast.later fun _ => by simp [early]
  | noDriverTimeout o₁ hsaw => exact hpast.later fun _ => by simp [early]
  | switchToPickup o₁ hR hsaw hstatus => exact hpast.later fun _ => by simp [early]
  | cancelNoDriver o₁ reason hR hsaw hprompted => exact hpast.later fun _ => by simp [early]
  | cancelSellerUnavailable o₁ hR hsaw hstatus hreported =>
    exact hpast.later fun _ => by simp [early]
  | sellerCannotProvide o₁ hR hsaw hstatus hpickup => exact hpast.later fun _ => by simp [early]
  | cancelAsSeller o₁ reason hfresh hstatus => exact hpast.later fun _ => by simp [early]
  | driverDisappeared d₁ o₁ hdelivery horder =>
    exact hpast.later fun _ => by simp [early, Orders.Order.cancel]
  | refundDispute o₁ => exact hpast.later fun _ => by simp [early]
  | pickedUpByBuyer o₁ hsaw => exact hpast.later fun _ => by simp [early]
  | deliveredByDriver o₁ hsaw hdelivered => exact hpast.later fun _ => by simp [early]
  | confirmPickup d₁ driver token hcall huser hR hsaw hdriver hnot hstatus htoken =>
    exact hpast.later fun _ => by simp [early]
  | _ => exact hpast

/-- Of one order. -/
def SameOrder (r r' : Delivery) : Prop := r'.orderId = r.orderId

/-- Every delivery but a new one was there before, for the same order; a new one is of an order
that was seen in preparation and is now ready. -/
theorem Step.delivery_before (hstep : Step cfg R me call h site s s') {r' : Delivery}
    (hr' : s'.deliveries.find? d = some r') :
    (d = generateUlid me 2 ∧ site = .markReady r'.orderId .delivery ∧
      SawOrder R s r'.orderId (fun row => row.status = .preparing) ∧
      ∀ row, s.orders.find? r'.orderId = some row → PastPreparing r'.orderId s') ∨
      ∃ r, s.deliveries.find? d = some r ∧ SameOrder r r' := by
  cases hstep with
  | aside haside => exact .inr ⟨r', haside.deliveries ▸ hr', rfl⟩
  | markReady o choice token hsaw hnew =>
    cases choice with
    | pickup =>
      dsimp only at hnew hr'
      exact .inr ⟨r', hnew ▸ hr', rfl⟩
    | delivery =>
      dsimp only at hnew hr'
      rw [Table.find?_insert hnew] at hr'
      split at hr'
      · rename_i hd
        obtain rfl := Option.some.inj hr'
        obtain ⟨s₀, seen, hR, hseen, hstatus, -⟩ := hsaw
        refine .inl ⟨hd, rfl, ⟨s₀, seen, hR, hseen, hstatus⟩, fun row hrow => ?_⟩
        refine ⟨_, Table.find?_update_of_eq hrow, ?_⟩
        simp [early]
      · exact .inr ⟨r', hr', rfl⟩
  | switchToPickup o hR hsaw hstatus =>
    dsimp only at hr'
    split at hr'
    · exact .inr ⟨r', hr', rfl⟩
    · exact .inr (Table.find?_update_rel (M := SameOrder) hr' (fun _ => rfl) fun _ _ _ => rfl)
  | cancelNoDriver o reason hR hsaw hprompted =>
    dsimp only at hr'
    split at hr'
    · exact .inr ⟨r', hr', rfl⟩
    · exact .inr (Table.find?_update_rel (M := SameOrder) hr' (fun _ => rfl) fun _ _ _ => rfl)
  | sellerCannotProvide o hR hsaw hstatus hpickup =>
    dsimp only at hr'
    split at hr'
    · exact .inr ⟨r', hr', rfl⟩
    · exact .inr (Table.find?_update_rel (M := SameOrder) hr' (fun _ => rfl) fun _ _ _ => rfl)
  | claim d₁ driver hcall =>
    dsimp only at hr'
    rw [Table.find?_updateMany, Option.map_eq_some_iff] at hr'
    obtain ⟨r, hr, rfl⟩ := hr'
    refine .inr ⟨r, hr, ?_⟩
    split
    · rfl
    · rfl
  | mintPickupToken | mintDeliveryToken | driverDisappeared | arriveAtPickup | confirmPickup
  | confirmDelivery | confirmAbsentDropoff | reportSellerUnavailable =>
    dsimp only at hr'
    exact .inr (Table.find?_update_rel (M := SameOrder) hr' (fun _ => rfl) fun _ _ _ => rfl)
  | _ => exact .inr ⟨r', hr', rfl⟩

/-- **A step that finds the order as it was seen** keeps orders and deliveries paired. -/
theorem Step.paired_of_finds (hstep : Step cfg R me call h site s s') (hc : FindsSource site s)
    (hp : Paired s) : Paired s' := by
  -- a new delivery is of an order that had none, since it was being prepared
  have hfirst : ∀ {o d r}, site = .markReady o .delivery → s.deliveries.find? d = some r → r.orderId ≠ o := by
    rintro o d r rfl hr rfl
    obtain ⟨row, hrow, hnot⟩ := hp.order d r hr
    have hfound : s.orderStatus r.orderId = some .preparing := hc _ rfl
    rw [Db.orderStatus, hrow] at hfound
    exact hnot (Option.some.inj hfound ▸ by decide)
  constructor
  · intro d r' hr'
    rcases hstep.delivery_before hr' with ⟨-, rfl, -, hready⟩ | ⟨r, hr, hsame⟩
    · obtain ⟨row, hrow, -⟩ := Option.map_eq_some_iff.mp (hc _ rfl)
      exact hready row hrow
    · rw [hsame]
      exact hstep.past_preparing hc (hp.order d r hr)
  · intro d₁ d₂ r₁' r₂' hr₁' hr₂' hsame
    rcases hstep.delivery_before hr₁' with ⟨hd₁, hsite₁, -⟩ | ⟨r₁, hr₁, hof₁⟩
    · rcases hstep.delivery_before hr₂' with ⟨hd₂, -⟩ | ⟨r₂, hr₂, hof₂⟩
      · -- a step creates one delivery
        rw [hd₁, hd₂]
      · exact absurd (hof₂.symm.trans hsame.symm) (hfirst hsite₁ hr₂)
    · rcases hstep.delivery_before hr₂' with ⟨hd₂, hsite₂, -⟩ | ⟨r₂, hr₂, hof₂⟩
      · exact absurd (hof₁.symm.trans hsame) (hfirst hsite₂ hr₁)
      · exact hp.unique d₁ d₂ r₁ r₂ hr₁ hr₂ (hof₁.symm.trans (hsame.trans hof₂))

theorem Paired.oneLive (hp : Paired s) : OneLive s :=
  fun d d' r r' hr hr' hsame _ _ => hp.unique d d' r r' hr hr' hsame

end

/-- **One live delivery for an order, and what it takes.** In every interleaving of any calls
whose writes find the orders as they were seen, no order ever has two live deliveries. -/
theorem one_live_delivery (cfg : Config) (s₀ : Db) (h0 : Paired s₀)
    (actions : List (Pool.Action (service cfg)))
    (hc : (poolRun s₀ actions).Steps FindsSource) : Pool.Always OneLive s₀ actions := by
  have hpaired : Pool.Always Paired s₀ actions := by
    refine interleaved_invariant h0 (fun e s hs => ?_) (fun me call h site s s' hs hsite hstep => ?_)
      actions hc
    · cases e with
      | tick ms => exact ⟨hs.order, hs.unique⟩
      | paymentSucceeds pi => exact ⟨hs.order, hs.unique⟩
    · exact hstep.paired_of_finds hsite hs
  exact fun before after hsplit => (hpaired before after hsplit).oneLive

/-! ## Two taps in the small town -/

/-- The calls that make an order ready and look for its driver. -/
def Call.dispatches : Call → Bool
  | .markReady .. | .decideNoDriver .. | .claim .. | .handleNoDriverTimeout _
  | .autoCancelNoResponse _ | .handleDriverDeliveryTimeout _ => true
  | _ => false

/-- Of the calls, only these arrive. -/
def dispatching {cfg : Config} : Pool.Action (service cfg) → Bool
  | .arrive c => Call.dispatches c
  | _ => true

/-- The order is being prepared. -/
def orderPreparing : Db :=
  (serialRun smallTown (orderPaid ++ [smallTownCall (.startPreparing "seller" ⟨0, 0⟩)])).state

theorem orderPreparing_paired : Paired orderPreparing := by
  have hnone : orderPreparing.deliveries.rows = [] := by decide +kernel
  constructor
  · intro d r hr
    simp [Table.find?, hnone] at hr
  · intro d d' r r' hr
    simp [Table.find?, hnone] at hr

/-- Steps of call `j`, each with `token` as its random text. -/
def dispatchSteps (j n : Nat) (token : String) : List (Pool.Action (service smallTownConfig)) :=
  List.replicate n (.run j ⟨true, token, ""⟩)

/-- Two taps, the second after the first has come through. -/
def tapsInTurn : List (Pool.Action (service smallTownConfig)) :=
  [.arrive (.markReady "seller" ⟨0, 0⟩), .arrive (.markReady "seller" ⟨0, 0⟩)] ++
    (dispatchSteps 0 4 "first" ++ dispatchSteps 1 4 "second")

theorem tapsInTurn_one_live : Pool.Always OneLive orderPreparing tapsInTurn :=
  one_live_delivery smallTownConfig orderPreparing orderPreparing_paired tapsInTurn (by decide +kernel)

/-- Both taps look at the order before either is through, and each delivery finds a driver. -/
def tapsAtOnce : List (Pool.Action (service smallTownConfig)) :=
  [.arrive (.markReady "seller" ⟨0, 0⟩), .arrive (.markReady "seller" ⟨0, 0⟩),
    .arrive (.claim "driver" ⟨0, 2⟩), .arrive (.claim "rival" ⟨1, 2⟩)] ++
    (dispatchSteps 0 2 "first" ++ dispatchSteps 1 4 "second" ++ dispatchSteps 0 2 "first" ++
      dispatchSteps 2 3 "" ++ dispatchSteps 3 3 "")

/-- **Two drivers for one order.** -/
theorem two_drivers :
    ¬∀ (cfg : Config) (s₀ : Db) (actions : List (Pool.Action (service cfg))), Paired s₀ →
      (∀ a ∈ actions, dispatching a = true) → Pool.Always OneLive s₀ actions := by
  intro hclaim
  have hone := hclaim smallTownConfig orderPreparing tapsAtOnce orderPreparing_paired (by decide)
    tapsAtOnce [] (List.append_nil _).symm
  -- both deliveries are of this order, and both have their driver
  have hassigned : ∀ i : Fin 2, ((Db.deliveries (poolRun orderPreparing tapsAtOnce).state).find? ⟨i, 2⟩).any
      (fun r => r.orderId = ⟨0, 0⟩ && r.status = .assigned) = true := by
    decide +kernel
  obtain ⟨r, hr, hof⟩ := (Option.any_eq_true _ _).mp (hassigned 0)
  obtain ⟨r', hr', hof'⟩ := (Option.any_eq_true _ _).mp (hassigned 1)
  simp only [Bool.and_eq_true, decide_eq_true_eq] at hof hof'
  have hsame := hone _ _ r r' hr hr' (hof.1.trans hof'.1.symm) (by rw [hof.2]; rfl) (by rw [hof'.2]; rfl)
  exact absurd hsame (by decide)

end IncaCook
