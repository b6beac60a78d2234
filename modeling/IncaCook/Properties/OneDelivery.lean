import IncaCook.Steps.Serial

/-!
# Orders and their deliveries

`markReady` creates the delivery of an order, and only from `preparing`, where no
order ever returns to. So when calls run one at a time an order has at most one
delivery, and none before it is ready: what the code reads as the newest
delivery of an order is the only one.

Main results:

* `Step.paired`: every step keeps orders and deliveries `Paired`;
* `Paired.latestDelivery`: the newest delivery of an order is its only one.
-/

namespace IncaCook

open Prog Orders Deliveries

/-- The statuses of an order before it is ready. -/
def early : List OrderStatus := [.pending, .confirmed, .preparing]

/-- Every delivery belongs to an order that has been ready, and no two to the same. -/
structure Paired (s : Db) : Prop where
  order : ∀ d r, s.deliveries.find? d = some r →
    ∃ row, s.orders.find? r.orderId = some row ∧ row.status ∉ early
  unique : ∀ d d' r r', s.deliveries.find? d = some r → s.deliveries.find? d' = some r' →
    r.orderId = r'.orderId → d = d'

section

variable {cfg : Config} {me : Nat} {call : Call} {h : List (StepRecord machine)} {site : Site}
  {s s' : Db} {o : OrderId} {d : DeliveryId}

theorem Paired.of_fresh (h0 : Fresh s) : Paired s := by
  have hnone : ∀ d, s.deliveries.find? d = none := fun d => by simp [Table.find?, h0.deliveries]
  constructor
  · intro d r hr
    rw [hnone d] at hr
    cases hr
  · intro d d' r r' hr
    rw [hnone d] at hr
    cases hr

/-- The newest delivery of an order is its only one. -/
theorem Paired.latestDelivery (hp : Paired s) {r : Delivery} (hr : s.deliveries.find? d = some r) :
    s.latestDelivery r.orderId = some r := by
  cases hlatest : s.latestDelivery r.orderId with
  | none =>
    have hnot := List.find?_eq_none.mp hlatest r (Table.mem_of_find? hr)
    simp at hnot
  | some r' =>
    obtain ⟨hr', hof⟩ := Db.find?_latestDelivery hlatest
    have hd : d = r'.id := hp.unique d r'.id r r' hr hr' hof.symm
    rw [hd, hr'] at hr
    rw [Option.some.inj hr]

/-- A delivery stays with its order. -/
theorem DeliveryMove.orderId {row row' : Delivery} (hmove : DeliveryMove s d call site row row') :
    row'.orderId = row.orderId := by
  cases hmove with
  | _ => rfl

/-- No order returns to where it was before it was ready. -/
theorem OrderMove.not_early {row row' : Order} (hmove : OrderMove cfg call s o site row row')
    (hnot : row.status ∉ early) : row'.status ∉ early := by
  cases hmove with
  | confirmPayment hfrom hpaid => simp [hfrom, early] at hnot
  | paymentSucceeded ev hfrom hgenuine => simp [hfrom, early] at hnot
  | paymentFailed ev reason hfrom => simp [hfrom, early] at hnot
  | startPreparing hfrom => simp [hfrom, early] at hnot
  | markReady hfrom => simp [hfrom, early] at hnot
  | stay => exact hnot
  | savePaymentIntent pi => exact hnot
  | saveRefund refund hcause => exact hnot
  | _ => simp [early, Orders.Order.cancel]

/-- The order of a delivery that exists already moves on. -/
theorem Step.paired_order (hstep : Step cfg Eq me call h site s s') (hp : Paired s)
    {r : Delivery} (hr : s.deliveries.find? d = some r) :
    ∃ row, s'.orders.find? r.orderId = some row ∧ row.status ∉ early := by
  obtain ⟨row, hrow, hnot⟩ := hp.order d r hr
  obtain ⟨row', hrow', hmove⟩ := hstep.order_moved hrow
  exact ⟨row', hrow', hmove.not_early hnot⟩

/-- **Orders and deliveries stay paired.** -/
theorem Step.paired (hstep : Step cfg Eq me call h site s s') (hp : Paired s) : Paired s' := by
  constructor
  · intro d r' hr'
    rcases hstep.delivery_move hr' with ⟨-, -, o, order, token, -, -, -, -, hready, rfl⟩ |
      ⟨r, hr, hmove⟩
    · exact ⟨_, hready, by simp [early]⟩
    · rw [hmove.orderId]
      exact hstep.paired_order hp hr
  · intro d₁ d₂ r₁' r₂' hr₁' hr₂' hsame
    rcases hstep.delivery_move hr₁' with ⟨-, hid₁, o₁, order₁, _, horder₁, hfrom₁, -, -, -, rfl⟩ |
      ⟨r₁, hr₁, hmove₁⟩
    · rcases hstep.delivery_move hr₂' with ⟨-, hid₂, -⟩ | ⟨r₂, hr₂, hmove₂⟩
      · -- a step creates at most one delivery
        rw [hid₁, hid₂]
      · -- the order of the new delivery is still being prepared, the order of an old one not
        obtain ⟨row, hrow, hnot⟩ := hp.order d₂ r₂ hr₂
        have hof : r₂.orderId = o₁ := hmove₂.orderId.symm.trans hsame.symm
        rw [hof, horder₁] at hrow
        rw [← Option.some.inj hrow, hfrom₁] at hnot
        simp [early] at hnot
    · rcases hstep.delivery_move hr₂' with ⟨-, hid₂, o₂, order₂, _, horder₂, hfrom₂, -, -, -, rfl⟩ |
        ⟨r₂, hr₂, hmove₂⟩
      · obtain ⟨row, hrow, hnot⟩ := hp.order d₁ r₁ hr₁
        have hof : r₁.orderId = o₂ := hmove₁.orderId.symm.trans hsame
        rw [hof, horder₂] at hrow
        rw [← Option.some.inj hrow, hfrom₂] at hnot
        simp [early] at hnot
      · rw [hmove₁.orderId, hmove₂.orderId] at hsame
        exact hp.unique d₁ d₂ r₁ r₂ hr₁ hr₂ hsame

end

end IncaCook
