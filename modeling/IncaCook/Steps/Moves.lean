import IncaCook.Steps.Handlers

/-!
# The moves of an order and of a delivery

When calls run one at a time, what a call has seen of a row is the row as it is.
Seen from one order, a step is then a move of its row (`OrderMove`), and seen
from one delivery a move of that (`DeliveryMove`). These are the transitions of
the two state machines, each with the guard that the code really checks.

Main results:

* `Step.order_move`, `Step.delivery_move`: every step is such a move, or creates
  the row.
-/

namespace IncaCook

open Prog Orders Deliveries Wallets Webhooks

section

variable {cfg : Config} {R : Db → Db → Prop} {me : Nat} {call : Call}
  {h : List (StepRecord machine)} {site : Site} {s s' : Db}

theorem SawOrder.row {o : OrderId} {P : Order → Prop} {row : Order} (hsaw : SawOrder Eq s o P)
    (hrow : s.orders.find? o = some row) : P row := by
  obtain ⟨_, row₀, rfl, hrow₀, hP⟩ := hsaw
  rw [hrow] at hrow₀
  exact Option.some.inj hrow₀ ▸ hP

theorem SawDelivery.row {d : DeliveryId} {P : Delivery → Prop} {row : Delivery}
    (hsaw : SawDelivery Eq s d P) (hrow : s.deliveries.find? d = some row) : P row := by
  obtain ⟨_, row₀, rfl, hrow₀, hP⟩ := hsaw
  rw [hrow] at hrow₀
  exact Option.some.inj hrow₀ ▸ hP

/-! ## Orders -/

@[simp] theorem backfill_status (read : Order) (pi : PaymentIntentId) (o : Order) :
    (backfill read pi o).status = o.status := by
  unfold backfill
  split
  · rfl
  · rfl

@[simp] theorem backfill_stripeRefundId (read : Order) (pi : PaymentIntentId) (o : Order) :
    (backfill read pi o).stripeRefundId = o.stripeRefundId := by
  unfold backfill
  split
  · rfl
  · rfl

@[simp] theorem backfill_fulfillmentChoice (read : Order) (pi : PaymentIntentId) (o : Order) :
    (backfill read pi o).fulfillmentChoice = o.fulfillmentChoice := by
  unfold backfill
  split
  · rfl
  · rfl

@[simp] theorem backfill_confirmedAt (read : Order) (pi : PaymentIntentId) (o : Order) :
    (backfill read pi o).confirmedAt = o.confirmedAt := by
  unfold backfill
  split
  · rfl
  · rfl

@[simp] theorem cancelRestored_status (now : Time) (reason : Reason) (o : Order) :
    (Orders.Order.cancelRestored now reason o).status = .cancelled := rfl

@[simp] theorem cancelRestored_stripeRefundId (now : Time) (reason : Reason) (o : Order) :
    (Orders.Order.cancelRestored now reason o).stripeRefundId = o.stripeRefundId := rfl

@[simp] theorem cancelRestored_fulfillmentChoice (now : Time) (reason : Reason) (o : Order) :
    (Orders.Order.cancelRestored now reason o).fulfillmentChoice = o.fulfillmentChoice := rfl

/-- The moves of the row of order `o` from state `s`, by the statement that makes them. -/
inductive OrderMove (cfg : Config) (call : Call) (s : Db) (o : OrderId) :
    Site → Order → Order → Prop where
  | stay {site : Site} {row : Order} : OrderMove cfg call s o site row row
  | savePaymentIntent {row : Order} (pi : PaymentIntentId) :
      OrderMove cfg call s o (.savePaymentIntent o) row { row with stripePaymentIntentId := some pi }
  | confirmPayment {row : Order} (hfrom : row.status = .pending) (hpaid : SawPayment cfg Eq s row) :
      OrderMove cfg call s o (.confirmPayment o) row
        { row with status := .confirmed, confirmedAt := some s.now }
  | paymentSucceeded {row : Order} (ev : PaymentIntentEvent) (hfrom : row.status = .pending)
      (hgenuine : genuine s ev true = true) :
      OrderMove cfg call s o (.paymentSucceeded o) row
        (backfill row ev.id { row with status := .confirmed, confirmedAt := some s.now })
  | paymentFailed {row : Order} (ev : PaymentIntentEvent) (reason : Reason)
      (hfrom : row.status = .pending) :
      OrderMove cfg call s o (.paymentFailed o) row
        (backfill row ev.id (Orders.Order.cancelRestored s.now reason row))
  | startPreparing {row : Order} (hfrom : row.status = .confirmed) :
      OrderMove cfg call s o (.transitionAsSeller o .preparing) row { row with status := .preparing }
  | markReady {row : Order} (hfrom : row.status = .preparing) :
      OrderMove cfg call s o (.markReady o row.fulfillmentChoice) row
        { row with status := .ready, readyAt := some s.now }
  | noDriverTimeout {row : Order} (hfrom : row.status = .ready)
      (hchoice : row.fulfillmentChoice = .delivery) :
      OrderMove cfg call s o (.noDriverTimeout o) row { row with status := .noDriverAvailable }
  | switchToPickup {row : Order} (hfrom : row.status = .noDriverAvailable) :
      OrderMove cfg call s o (.switchToPickup o) row
        { row with status := .ready, fulfillmentChoice := .pickup }
  | cancelNoDriver {row : Order} (reason : Reason) (hfrom : row.status = .noDriverAvailable) :
      OrderMove cfg call s o (.cancelNoDriver o (!row.inventoryRestored)) row
        (Orders.Order.cancelRestored s.now reason row)
  | cancelSellerUnavailable {row : Order} (hfrom : row.status ∉ resolved) :
      OrderMove cfg call s o (.cancelSellerUnavailable o (!row.inventoryRestored)) row
        (Orders.Order.cancelRestored s.now .sellerUnavailable row)
  | sellerCannotProvide {row : Order} (hfrom : row.status ∈ cancellableFrom) :
      OrderMove cfg call s o (.sellerCannotProvide o (!row.inventoryRestored)) row
        (Orders.Order.cancelRestored s.now .sellerCannotProvide row)
  | cancelAsSeller {row : Order} (reason : String) (hfrom : row.status ∈ cancellableFrom) :
      OrderMove cfg call s o (.cancelAsSeller o) row
        (Orders.Order.cancelRestored s.now (.text reason) row)
  | driverDisappeared {row : Order} (d : DeliveryId) (hfrom : row.status = .inDelivery) :
      OrderMove cfg call s o (.driverDisappeared d o) row
        (Orders.Order.cancel s.now .driverDisappeared row)
  | saveRefund {row : Order} (refund : RefundId)
      (hcause : call.decidesDispute = true ∨ row.status = .cancelled) :
      OrderMove cfg call s o (.saveRefund o) row
        { row with stripeRefundId := some refund, refundedAt := some s.now }
  | refundDispute {row : Order} :
      OrderMove cfg call s o (.refundDispute o) row { row with status := .refunded }
  | pickedUpByBuyer {row : Order} (hfrom : row.status = .ready)
      (hchoice : row.fulfillmentChoice = .pickup) :
      OrderMove cfg call s o (.pickedUpByBuyer o) row { row with status := .delivered }
  | deliveredByDriver {row : Order} (hfrom : row.status ≠ .delivered)
      (hchoice : row.fulfillmentChoice = .delivery)
      (hdelivery : ∃ d r, s.deliveries.find? d = some r ∧ r.orderId = o ∧ r.status = .delivered) :
      OrderMove cfg call s o (.deliveredByDriver o) row { row with status := .delivered }
  | confirmPickup {row : Order} {d : DeliveryId} {driver : UserId} {r : Delivery}
      (hdelivery : s.deliveries.find? d = some r) (hof : r.orderId = o)
      (hdriver : r.driverId = some driver) (hfrom : r.status ∈ prePickup) :
      OrderMove cfg call s o (.confirmPickup d driver) row { row with status := .inDelivery }

/-- What `MovedDelivery` says when nothing ran in between. -/
theorem MovedDelivery.now {status : DeliveryStatus} {o : OrderId}
    (hm : MovedDelivery Eq h status s o) :
    ∃ d r, s.deliveries.find? d = some r ∧ r.orderId = o ∧ r.status = status := by
  obtain ⟨t, -, _, d, seen, fresh, row, deliveries, rfl, hseen, hof, hfresh, hpost, hrow, hsame,
    hstatus, rfl⟩ := hm
  rw [hseen] at hfresh
  rw [← Option.some.inj hfresh, hof] at hsame
  refine ⟨d, row, ?_, hsame, hstatus⟩
  rw [hpost]
  exact hrow

theorem Meanwhile.orders_eq {s₀ : Db} (hs : Meanwhile Eq s₀ s) : s.orders = s₀.orders := by
  induction hs with
  | refl => rfl
  | tail _ hstep ih =>
    rcases hstep with rfl | hstep
    · exact ih
    · exact hstep.trans ih

/-- When nothing runs in between, a call refunds an order in a dispute or one that
is cancelled. -/
theorem RefundCause.now {o : OrderId} {row : Order} (hcause : RefundCause Eq call s o)
    (hrow : s.orders.find? o = some row) :
    call.decidesDispute = true ∨ row.status = .cancelled := by
  rcases hcause with hcause | ⟨s₀, row₀, hs, hrow₀, hstatus⟩ | ⟨s₀, _, row₀, fresh, rfl, hrow₀, hfrom,
    hfresh, hnot⟩
  · exact .inl hcause
  · rw [hs.orders_eq, hrow₀] at hrow
    exact .inr (Option.some.inj hrow ▸ hstatus)
  · rw [hrow₀] at hfresh
    exact absurd (Option.some.inj hfresh ▸ hfrom) hnot

/-- No statement deletes an order. -/
theorem Step.order_kept (hstep : Step cfg R me call h site s s') {o : OrderId} {row : Order}
    (hrow : s.orders.find? o = some row) : ∃ row', s'.orders.find? o = some row' := by
  cases hstep with
  | aside haside => exact ⟨row, by rw [haside.orders]; exact hrow⟩
  | placeOrder args hid hstock hnew =>
    refine ⟨row, ?_⟩
    rw [Table.find?_insert hnew, if_neg, hrow]
    rintro rfl
    have habsent := (Table.insert?_eq_some.mp hnew).1
    exact absurd (habsent.symm.trans hrow) (by simp)
  | _ => first
    | exact ⟨row, hrow⟩
    | (simp only [Table.find?_update, hrow]
       split
       · exact ⟨_, rfl⟩
       · exact ⟨_, rfl⟩)

/-- An order appears only where it is placed, with the first identifier of the call. -/
theorem Step.order_new (hstep : Step cfg R me call h site s s') {o : OrderId} {row : Order}
    (hrow : s'.orders.find? o = some row) :
    (∃ row₀, s.orders.find? o = some row₀) ∨ site = .placeOrder o ∧ o = generateUlid me 0 := by
  cases hstep with
  | aside haside => exact .inl ⟨row, haside.orders ▸ hrow⟩
  | placeOrder args hid hstock hnew =>
    rw [Table.find?_insert hnew] at hrow
    split at hrow
    · rename_i ho
      have ho' : o = args.orderId := ho
      exact .inr ⟨by rw [ho'], ho'.trans hid⟩
    · exact .inl ⟨row, hrow⟩
  | _ => first
    | exact .inl ⟨row, hrow⟩
    | (dsimp only at hrow
       obtain ⟨row₀, hrow₀, -⟩ := Table.find?_update_some hrow
       exact .inl ⟨row₀, hrow₀⟩)

/-- Accounts keep their sessions. -/
theorem Step.userIdOf (hstep : Step cfg R me call h site s s') (sub : String) :
    s'.userIdOf sub = s.userIdOf sub := by
  have hread : ∀ db : Db, db.userIdOf sub = ((db.users.rows.map fun u =>
      (u.id, u.supabaseId, u.role)).find? fun t => t.2.1 = sub).map fun t => t.1 := by
    intro db
    rw [Db.userIdOf, Db.userBySupabaseId, List.find?_map, Option.map_map]
    rfl
  cases hstep with
  | aside haside => rw [hread, hread, haside.supabaseIds]
  | _ => rfl

/-- **Every step moves an order or leaves it**, except the one that places it. -/
theorem Step.order_move (hstep : Step cfg Eq me call h site s s') {o : OrderId} {row' : Order}
    (hrow' : s'.orders.find? o = some row') :
    (s.orders.find? o = none ∧ o = generateUlid me 0 ∧ ∃ db args, row' = newOrder db args) ∨
      ∃ row, s.orders.find? o = some row ∧ OrderMove cfg call s o site row row' := by
  cases hstep with
  | aside haside => exact .inr ⟨row', haside.orders ▸ hrow', .stay⟩
  | placeOrder args hid hstock hnew =>
    rw [Table.find?_insert hnew] at hrow'
    split at hrow'
    · rename_i ho
      obtain rfl := Option.some.inj hrow'
      have ho' : o = args.orderId := ho
      exact .inl ⟨ho' ▸ (Table.insert?_eq_some.mp hnew).1, ho'.trans hid, _, args, rfl⟩
    · exact .inr ⟨row', hrow', .stay⟩
  | savePaymentIntent o₁ pi hpi =>
    dsimp only at hrow'
    exact .inr (Table.find?_update_rel hrow' (fun _ => .stay) fun row _ ho => ho ▸ .savePaymentIntent pi)
  -- the call runs alone, so the row it has seen is the row that it updates
  | confirmPayment o₁ hsaw =>
    dsimp only at hrow'
    refine .inr (Table.find?_update_rel hrow' (fun _ => .stay) fun row hrow ho => ?_)
    obtain ⟨hfrom, hpaid⟩ := hsaw.row hrow
    exact ho ▸ .confirmPayment hfrom hpaid
  | paymentSucceeded ev order hsaw =>
    dsimp only at hrow'
    refine .inr (Table.find?_update_rel hrow' (fun _ => .stay) fun row hrow ho => ?_)
    obtain ⟨_, _, rfl, rfl, hgenuine, horder, hfrom, -⟩ := hsaw
    obtain rfl := Option.some.inj (hrow.symm.trans horder)
    subst ho
    exact .paymentSucceeded ev hfrom hgenuine
  | paymentFailed ev order fresh reason hsaw hfresh hpending =>
    dsimp only at hrow'
    refine .inr (Table.find?_update_rel hrow' (fun _ => .stay) fun row hrow ho => ?_)
    obtain ⟨_, _, rfl, rfl, -, horder, hfrom, -⟩ := hsaw
    obtain rfl := Option.some.inj (hrow.symm.trans horder)
    subst ho
    exact .paymentFailed ev reason hfrom
  | startPreparing o₁ hsaw =>
    dsimp only at hrow'
    exact .inr (Table.find?_update_rel hrow' (fun _ => .stay) fun row hrow ho =>
      ho ▸ .startPreparing (hsaw.row hrow))
  | markReady o₁ choice token hsaw hnew =>
    dsimp only at hrow'
    refine .inr (Table.find?_update_rel hrow' (fun _ => .stay) fun row hrow ho => ?_)
    obtain ⟨hfrom, rfl⟩ := hsaw.row hrow
    exact ho ▸ .markReady hfrom
  | noDriverTimeout o₁ hsaw =>
    dsimp only at hrow'
    refine .inr (Table.find?_update_rel hrow' (fun _ => .stay) fun row hrow ho => ?_)
    obtain ⟨_, row₀, rfl, hrow₀, hfrom, hchoice, -⟩ := hsaw
    obtain rfl := Option.some.inj (hrow.symm.trans hrow₀)
    exact ho ▸ .noDriverTimeout hfrom hchoice
  | switchToPickup o₁ hR hsaw hstatus =>
    subst hR
    dsimp only at hrow'
    refine .inr (Table.find?_update_rel hrow' (fun _ => .stay) fun row hrow ho => ?_)
    obtain rfl := Option.some.inj (hrow.symm.trans hsaw)
    exact ho ▸ .switchToPickup hstatus
  | cancelNoDriver o₁ reason hR hsaw hprompted =>
    subst hR
    dsimp only at hrow'
    refine .inr (Table.find?_update_rel hrow' (fun _ => .stay) fun row hrow ho => ?_)
    obtain rfl := Option.some.inj (hrow.symm.trans hsaw)
    exact ho ▸ .cancelNoDriver reason (hprompted.row hrow)
  | cancelSellerUnavailable o₁ hR hsaw hstatus hreported =>
    subst hR
    dsimp only at hrow'
    refine .inr (Table.find?_update_rel hrow' (fun _ => .stay) fun row hrow ho => ?_)
    obtain rfl := Option.some.inj (hrow.symm.trans hsaw)
    exact ho ▸ .cancelSellerUnavailable hstatus
  | sellerCannotProvide o₁ hR hsaw hstatus hpickup =>
    subst hR
    dsimp only at hrow'
    refine .inr (Table.find?_update_rel hrow' (fun _ => .stay) fun row hrow ho => ?_)
    obtain rfl := Option.some.inj (hrow.symm.trans hsaw)
    exact ho ▸ .sellerCannotProvide hstatus
  | cancelAsSeller o₁ reason hfresh hstatus =>
    dsimp only at hrow'
    refine .inr (Table.find?_update_rel hrow' (fun _ => .stay) fun row hrow ho => ?_)
    obtain rfl := Option.some.inj (hrow.symm.trans hfresh)
    exact ho ▸ .cancelAsSeller reason hstatus
  | driverDisappeared d o₁ hdelivery horder =>
    dsimp only at hrow'
    exact .inr (Table.find?_update_rel hrow' (fun _ => .stay) fun row hrow ho =>
      ho ▸ .driverDisappeared d (horder.row hrow))
  | saveRefund o₁ refund hrefund hcause =>
    dsimp only at hrow'
    refine .inr (Table.find?_update_rel hrow' (fun _ => .stay) fun row hrow ho => ?_)
    subst ho
    exact .saveRefund refund (hcause.now hrow)
  | refundDispute o₁ =>
    dsimp only at hrow'
    exact .inr (Table.find?_update_rel hrow' (fun _ => .stay) fun row _ ho => ho ▸ .refundDispute)
  | pickedUpByBuyer o₁ hsaw =>
    dsimp only at hrow'
    refine .inr (Table.find?_update_rel hrow' (fun _ => .stay) fun row hrow ho => ?_)
    obtain ⟨hfrom, hchoice⟩ := hsaw.row hrow
    exact ho ▸ .pickedUpByBuyer hfrom hchoice
  | deliveredByDriver o₁ hsaw hdelivered =>
    dsimp only at hrow'
    refine .inr (Table.find?_update_rel hrow' (fun _ => .stay) fun row hrow ho => ?_)
    obtain ⟨hfrom, hchoice⟩ := hsaw.row hrow
    subst ho
    exact .deliveredByDriver hfrom hchoice hdelivered.now
  -- the order is the delivery's, whatever its status
  | confirmPickup d driver token hcall huser hR hsaw hdriver hnot hstatus htoken =>
    subst hR
    dsimp only at hrow'
    exact .inr (Table.find?_update_rel hrow' (fun _ => .stay) fun row _ ho =>
      .confirmPickup hsaw ho.symm hdriver hstatus)
  -- the others write no order
  | _ => exact .inr ⟨row', hrow', .stay⟩

/-- As `Step.order_move`, from the row before the step. -/
theorem Step.order_moved (hstep : Step cfg Eq me call h site s s') {o : OrderId} {row : Order}
    (hrow : s.orders.find? o = some row) :
    ∃ row', s'.orders.find? o = some row' ∧ OrderMove cfg call s o site row row' := by
  obtain ⟨row', hrow'⟩ := hstep.order_kept hrow
  rcases hstep.order_move hrow' with ⟨hnone, -⟩ | ⟨row₀, hrow₀, hmove⟩
  · rw [hrow] at hnone
    cases hnone
  · obtain rfl := Option.some.inj (hrow.symm.trans hrow₀)
    exact ⟨row', hrow', hmove⟩

/-! ## Deliveries -/

/-- The moves of the row of delivery `d` from state `s`, by the call and the
statement that make them. -/
inductive DeliveryMove (s : Db) (d : DeliveryId) : Call → Site → Delivery → Delivery → Prop where
  | stay {call : Call} {site : Site} {row : Delivery} : DeliveryMove s d call site row row
  | mintPickupToken {call : Call} {row : Delivery} (token : String)
      (hnone : truthy row.pickupToken = none) :
      DeliveryMove s d call (.mintPickupToken d) row { row with pickupToken := some token }
  | mintDeliveryToken {call : Call} {row : Delivery} (token : String)
      (hnone : truthy row.deliveryToken = none) :
      DeliveryMove s d call (.mintDeliveryToken d) row { row with deliveryToken := some token }
  | switchToPickup {call : Call} {row : Delivery} {order : Order}
      (horder : s.orders.find? row.orderId = some order)
      (hstatus : order.status = .noDriverAvailable) :
      DeliveryMove s d call (.switchToPickup row.orderId) row
        (Orders.Delivery.cancel s.now .noDriverSwitchedToPickup row)
  | cancelNoDriver {call : Call} {row : Delivery} {order : Order} (reason : Reason)
      (horder : s.orders.find? row.orderId = some order)
      (hstatus : order.status = .noDriverAvailable) :
      DeliveryMove s d call (.cancelNoDriver row.orderId (!order.inventoryRestored)) row
        (Orders.Delivery.cancel s.now reason row)
  | sellerCannotProvide {call : Call} {row : Delivery} {order : Order}
      (horder : s.orders.find? row.orderId = some order) (hstatus : order.status ∈ cancellableFrom)
      (hpickup : row.pickupConfirmedAt = none) :
      DeliveryMove s d call (.sellerCannotProvide row.orderId (!order.inventoryRestored)) row
        (Orders.Delivery.cancel s.now .sellerCannotProvide row)
  | driverDisappeared {call : Call} {row : Delivery} (hpickup : row.pickupConfirmedAt.isSome)
      (hopen : row.deliveredConfirmedAt = none)
      (hfrom : row.status ∉ [DeliveryStatus.delivered, .failed, .cancelled]) :
      DeliveryMove s d call (.driverDisappeared d row.orderId) row { row with
        status := .failed, failedAt := some s.now, failureReason := some .driverDisappeared }
  | claim {sub : String} {row : Delivery} (driver : UserId) (hfrom : row.status = .searching)
      (hfree : row.driverId = none) :
      DeliveryMove s d (.claim sub d) (.claim d driver) row (Deliveries.Delivery.assign driver s.now row)
  | arriveAtPickup {sub : String} {row : Delivery} (hfrom : row.status = .assigned)
      (hdriver : row.driverId.isSome) :
      DeliveryMove s d (.arriveAtPickup sub d) (.transition d .atPickup) row
        { row with status := .atPickup }
  | confirmPickup {sub : String} {dto : ConfirmPickupDto} {row : Delivery} {user : User}
      (token : String) (huser : s.userBySupabaseId sub = some user)
      (hdriver : row.driverId = some user.id) (hnot : row.pickupConfirmedAt = none)
      (hfrom : row.status ∈ prePickup) (htoken : truthy row.pickupToken = some dto.pickupToken) :
      DeliveryMove s d (.confirmPickup sub d dto) (.confirmPickup d user.id) row
        (Deliveries.Delivery.pickUp user.id dto token s.now row)
  | confirmDelivery {sub : String} {dto : ConfirmDeliveryDto} {row : Delivery} {user : User}
      (huser : s.userBySupabaseId sub = some user) (hdriver : row.driverId = some user.id)
      (hopen : row.deliveredConfirmedAt = none) (hfrom : row.status ∈ outForDelivery)
      (htoken : truthy row.deliveryToken = some dto.deliveryToken) :
      DeliveryMove s d (.confirmDelivery sub d dto) (.confirmDelivery d user.id) row
        (Deliveries.Delivery.deliver user.id dto.lat dto.lng s.now row)
  | confirmAbsentDropoff {sub : String} {dto : ConfirmAbsentDropoffDto} {row : Delivery}
      {user : User} {photo : String} {lat lng : JsNumber}
      (huser : s.userBySupabaseId sub = some user) (hdriver : row.driverId = some user.id)
      (hopen : row.deliveredConfirmedAt = none) (hfrom : row.status ∈ outForDelivery)
      (hphoto : truthy (dto.photoUrl.map jsTrim) = some photo)
      (hgps : gps dto.lat dto.lng = some (lat, lng)) :
      DeliveryMove s d (.confirmAbsentDropoff sub d dto) (.confirmAbsentDropoff d user.id) row
        (Deliveries.Delivery.dropOff user.id photo lat lng dto.note s.now row)
  | reportSellerUnavailable {sub : String} {dto : ReportSellerUnavailableDto} {row : Delivery}
      {lat lng : JsNumber} {driver : UserId} (hdriver : row.driverId = some driver)
      (hnot : row.pickupConfirmedAt = none) (hfrom : row.status ∉ postPickup) :
      DeliveryMove s d (.reportSellerUnavailable sub d dto) (.reportSellerUnavailable d driver) row
        (Deliveries.Delivery.sellerUnavailable dto lat lng s.now row)

/-- No statement deletes a delivery. -/
theorem Step.delivery_kept (hstep : Step cfg R me call h site s s') {d : DeliveryId}
    {row : Delivery} (hrow : s.deliveries.find? d = some row) :
    ∃ row', s'.deliveries.find? d = some row' := by
  have hupdate : ∀ d₁ f (hf : ∀ r : Delivery, (f r).id = r.id),
      ∃ row', (s.deliveries.update d₁ f hf).find? d = some row' := by
    intro d₁ f hf
    rw [Table.find?_update, hrow]
    split
    · exact ⟨_, rfl⟩
    · exact ⟨_, rfl⟩
  cases hstep with
  | aside haside => exact ⟨row, by rw [haside.deliveries]; exact hrow⟩
  | markReady o choice token hsaw hnew =>
    cases choice with
    | pickup => exact ⟨row, by rw [hnew]; exact hrow⟩
    | delivery =>
      dsimp only at hnew ⊢
      rw [Table.find?_insert hnew]
      split
      · exact ⟨_, rfl⟩
      · exact ⟨_, hrow⟩
  | switchToPickup o hR hsaw hstatus =>
    dsimp only
    split
    · exact ⟨row, hrow⟩
    · exact hupdate _ _ _
  | cancelNoDriver o reason hR hsaw hprompted =>
    dsimp only
    split
    · exact ⟨row, hrow⟩
    · exact hupdate _ _ _
  | sellerCannotProvide o hR hsaw hstatus hpickup =>
    dsimp only
    split
    · exact ⟨row, hrow⟩
    · exact hupdate _ _ _
  | claim d₁ driver hcall => exact ⟨_, by rw [Table.find?_updateMany, hrow]; rfl⟩
  | _ => first
    | exact ⟨row, hrow⟩
    | (dsimp only
       exact hupdate _ _ _)

/-- **Every step moves a delivery or leaves it**, except the one that creates it. -/
theorem Step.delivery_move (hstep : Step cfg Eq me call h site s s') {d : DeliveryId}
    {row' : Delivery} (hrow' : s'.deliveries.find? d = some row') :
    (s.deliveries.find? d = none ∧ d = generateUlid me 2 ∧ ∃ o order token,
        s.orders.find? o = some order ∧ order.status = .preparing ∧
        order.fulfillmentChoice = .delivery ∧ site = .markReady o .delivery ∧
        s'.orders.find? o = some { order with status := .ready, readyAt := some s.now } ∧
        row' = newDelivery d o token s.now) ∨
      ∃ row, s.deliveries.find? d = some row ∧ DeliveryMove s d call site row row' := by
  cases hstep with
  | aside haside => exact .inr ⟨row', haside.deliveries ▸ hrow', .stay⟩
  -- the only step that creates a delivery, for a delivery order
  | markReady o choice token hsaw hnew =>
    cases choice with
    | pickup =>
      dsimp only at hnew hrow'
      exact .inr ⟨row', hnew ▸ hrow', .stay⟩
    | delivery =>
      dsimp only at hnew hrow'
      rw [Table.find?_insert hnew] at hrow'
      split at hrow'
      · rename_i hd
        obtain rfl := Option.some.inj hrow'
        have hd' : d = generateUlid me 2 := hd
        obtain ⟨_, order, rfl, horder, hpreparing, hchoice⟩ := hsaw
        subst hd'
        exact .inl ⟨(Table.insert?_eq_some.mp hnew).1, rfl, o, order, token, horder, hpreparing,
          hchoice, rfl, Table.find?_update_of_eq horder, rfl⟩
      · exact .inr ⟨row', hrow', .stay⟩
  | mintPickupToken d₁ token hsaw =>
    dsimp only at hrow'
    refine .inr (Table.find?_update_rel hrow' (fun _ => .stay) fun row hrow hd => ?_)
    subst hd
    exact .mintPickupToken token (hsaw.row hrow)
  | mintDeliveryToken d₁ token hsaw =>
    dsimp only at hrow'
    refine .inr (Table.find?_update_rel hrow' (fun _ => .stay) fun row hrow hd => ?_)
    subst hd
    exact .mintDeliveryToken token (hsaw.row hrow)
  -- three steps cancel the delivery that was the latest when the order was read
  | switchToPickup o hR hsaw hstatus =>
    subst hR
    dsimp only at hrow'
    split at hrow'
    · exact .inr ⟨row', hrow', .stay⟩
    · rename_i latest hlatest
      obtain ⟨hfound, rfl⟩ := Db.find?_latestDelivery hlatest
      refine .inr (Table.find?_update_rel hrow' (fun _ => .stay) fun row hrow hd => ?_)
      obtain rfl := Option.some.inj (hrow.symm.trans hfound)
      exact .switchToPickup hsaw hstatus
  | cancelNoDriver o reason hR hsaw hprompted =>
    subst hR
    dsimp only at hrow'
    split at hrow'
    · exact .inr ⟨row', hrow', .stay⟩
    · rename_i latest hlatest
      obtain ⟨hfound, rfl⟩ := Db.find?_latestDelivery hlatest
      refine .inr (Table.find?_update_rel hrow' (fun _ => .stay) fun row hrow hd => ?_)
      obtain rfl := Option.some.inj (hrow.symm.trans hfound)
      exact .cancelNoDriver reason hsaw (hprompted.row hsaw)
  | sellerCannotProvide o hR hsaw hstatus hpickup =>
    subst hR
    dsimp only at hrow'
    split at hrow'
    · exact .inr ⟨row', hrow', .stay⟩
    · rename_i latest hlatest
      obtain ⟨hlatest, -⟩ := Option.filter_eq_some_iff.mp hlatest
      obtain ⟨hfound, rfl⟩ := Db.find?_latestDelivery hlatest
      refine .inr (Table.find?_update_rel hrow' (fun _ => .stay) fun row hrow hd => ?_)
      obtain rfl := Option.some.inj (hrow.symm.trans hfound)
      exact .sellerCannotProvide hsaw hstatus (hpickup _ hlatest)
  | driverDisappeared d₁ o hdelivery horder =>
    dsimp only at hrow'
    refine .inr (Table.find?_update_rel hrow' (fun _ => .stay) fun row hrow hd => ?_)
    obtain ⟨rfl, hpickup, hopen, hfrom⟩ := hdelivery.row hrow
    subst hd
    exact .driverDisappeared hpickup hopen hfrom
  -- an update by condition: a row that does not meet it stays
  | claim d₁ driver hcall =>
    subst hcall
    dsimp only at hrow'
    rw [Table.find?_updateMany, Option.map_eq_some_iff] at hrow'
    obtain ⟨row, hrow, hmoved⟩ := hrow'
    refine .inr ⟨row, hrow, ?_⟩
    split at hmoved
    · rename_i hclaimable
      simp only [claimable, Bool.and_eq_true, decide_eq_true_eq, Option.isNone_iff_eq_none]
        at hclaimable
      obtain ⟨⟨hid, hfrom⟩, hfree⟩ := hclaimable
      have hkey : row.id = d := Table.key_of_find? hrow
      obtain rfl := hkey.symm.trans hid
      subst hmoved
      exact .claim driver hfrom hfree
    · subst hmoved
      exact .stay
  | arriveAtPickup d₁ hcall hsaw =>
    subst hcall
    dsimp only at hrow'
    refine .inr (Table.find?_update_rel hrow' (fun _ => .stay) fun row hrow hd => ?_)
    obtain ⟨hfrom, hdriver⟩ := hsaw.row hrow
    subst hd
    exact .arriveAtPickup hfrom hdriver
  | confirmPickup d₁ driver token hcall huser hR hsaw hdriver hnot hstatus htoken =>
    subst hcall hR
    obtain ⟨_, user, rfl, huser, rfl⟩ := huser
    dsimp only at hrow'
    refine .inr (Table.find?_update_rel hrow' (fun _ => .stay) fun row hrow hd => ?_)
    obtain rfl := Option.some.inj (hrow.symm.trans hsaw)
    subst hd
    exact .confirmPickup token huser hdriver hnot hstatus htoken
  -- the last three are the driver's own, checked when the row was read
  | confirmDelivery d₁ driver hcall hsaw =>
    subst hcall
    obtain ⟨_, _, user, row₀, rfl, rfl, huser, rfl, hrow₀, hdriver, hopen, hfrom, htoken⟩ := hsaw
    dsimp only at hrow'
    refine .inr (Table.find?_update_rel hrow' (fun _ => .stay) fun row hrow hd => ?_)
    obtain rfl := Option.some.inj (hrow.symm.trans hrow₀)
    subst hd
    exact .confirmDelivery huser hdriver hopen hfrom htoken
  | confirmAbsentDropoff d₁ driver hcall hphoto hgps hsaw =>
    subst hcall
    obtain ⟨_, _, user, row₀, rfl, rfl, huser, rfl, hrow₀, hdriver, hopen, hfrom⟩ := hsaw
    dsimp only at hrow'
    refine .inr (Table.find?_update_rel hrow' (fun _ => .stay) fun row hrow hd => ?_)
    obtain rfl := Option.some.inj (hrow.symm.trans hrow₀)
    subst hd
    exact .confirmAbsentDropoff huser hdriver hopen hfrom hphoto hgps
  | reportSellerUnavailable d₁ driver hcall hsaw =>
    subst hcall
    obtain ⟨_, _, row₀, order, rfl, rfl, -, hrow₀, hdriver, hnot, hfrom, -, -⟩ := hsaw
    dsimp only at hrow'
    refine .inr (Table.find?_update_rel hrow' (fun _ => .stay) fun row hrow hd => ?_)
    obtain rfl := Option.some.inj (hrow.symm.trans hrow₀)
    subst hd
    exact .reportSellerUnavailable hdriver hnot hfrom
  | _ => exact .inr ⟨row', hrow', .stay⟩

/-- As `Step.delivery_move`, from the row before the step. -/
theorem Step.delivery_moved (hstep : Step cfg Eq me call h site s s') {d : DeliveryId}
    {row : Delivery} (hrow : s.deliveries.find? d = some row) :
    ∃ row', s'.deliveries.find? d = some row' ∧ DeliveryMove s d call site row row' := by
  obtain ⟨row', hrow'⟩ := hstep.delivery_kept hrow
  rcases hstep.delivery_move hrow' with ⟨hnone, -⟩ | ⟨row₀, hrow₀, hmove⟩
  · rw [hrow] at hnone
    cases hnone
  · obtain rfl := Option.some.inj (hrow.symm.trans hrow₀)
    exact ⟨row', hrow', hmove⟩

end

end IncaCook
