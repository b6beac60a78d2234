import IncaCook.Model.Dashboard
import IncaCook.Properties.NoDriver

/-!
# The revenue that the dashboard shows

An order has a `confirmedAt` from the moment that its payment is confirmed, and keeps it.
Along a serial run it is the status that tells (`Order.Dated`): pending orders have none,
and all that have moved on have one, unless they were cancelled or refunded. The dashboard
lists the paid statuses by hand, and the list has no `NO_DRIVER_AVAILABLE`.

Main results:

* `Step.payments_dated`: every step keeps statuses and confirmations in agreement;
* `revenue_counts_captured_iff`: the dashboard counts every captured payment in just the
  states in which no order is without a driver;
* `waiting_order_uncounted`: a paid order that vanishes from the revenue.
-/

namespace IncaCook

open Prog Orders Deliveries Dashboard

variable {cfg : Config} {me : Nat} {call : Call} {h : List (StepRecord machine)} {site : Site}
  {s s' : Db} {o : OrderId} {row row' : Order}

/-! ## Status and confirmation -/

/-- The status of an order whose payment need not have been confirmed. -/
def unconfirmed : List OrderStatus := [.pending, .cancelled, .refunded]

/-- The status agrees with `confirmedAt`. -/
structure Order.Dated (row : Order) : Prop where
  pending : row.status = .pending → row.confirmedAt = none
  confirmed : row.status ∉ unconfirmed → row.confirmedAt.isSome = true
  undisputed : row.status ≠ .disputed

theorem dated_of_confirmed (status : OrderStatus) (hstatus : row.status = status)
    (hnot : status ∉ [OrderStatus.pending, .disputed]) (hconfirmed : row.confirmedAt.isSome = true) :
    row.Dated := by
  subst hstatus
  simp only [List.mem_cons, List.not_mem_nil, or_false, not_or] at hnot
  exact ⟨fun hpending => absurd hpending hnot.1, fun _ => hconfirmed, hnot.2⟩

theorem dated_of_ended (hstatus : row.status ∈ cancelledStatuses) : row.Dated := by
  simp only [cancelledStatuses, List.mem_cons, List.not_mem_nil, or_false] at hstatus
  rcases hstatus with hstatus | hstatus
  · exact ⟨by simp [hstatus], by simp [hstatus, unconfirmed], by simp [hstatus]⟩
  · exact ⟨by simp [hstatus], by simp [hstatus, unconfirmed], by simp [hstatus]⟩

/-- What has been confirmed stays so. -/
theorem OrderMove.confirmed_kept (hmove : OrderMove cfg call s o site row row')
    (hconfirmed : row.confirmedAt.isSome = true) : row'.confirmedAt.isSome = true := by
  cases hmove with
  | confirmPayment hfrom hpaid => rfl
  | paymentSucceeded ev hfrom hgenuine => simp
  | paymentFailed ev reason hfrom =>
    simpa [Orders.Order.cancelRestored, Orders.Order.cancel] using hconfirmed
  | _ => exact hconfirmed

/-- **A move keeps the agreement**, when an order that has a delivery is confirmed. -/
theorem OrderMove.dated (hmove : OrderMove cfg call s o site row row') (hrow : row.Dated)
    (hdelivery : ∀ d r, s.deliveries.find? d = some r → r.orderId = o →
      row.confirmedAt.isSome = true) : row'.Dated := by
  have hkept := hmove.confirmed_kept
  -- what a status says of the row, before the move
  have hconfirmed : ∀ {status}, row.status = status → status ∉ unconfirmed →
      row.confirmedAt.isSome = true := fun hstatus hnot => hrow.confirmed (hstatus ▸ hnot)
  cases hmove with
  | stay => exact hrow
  | savePaymentIntent pi => exact ⟨hrow.pending, hrow.confirmed, hrow.undisputed⟩
  | saveRefund refund hcause => exact ⟨hrow.pending, hrow.confirmed, hrow.undisputed⟩
  | confirmPayment hfrom hpaid => exact dated_of_confirmed .confirmed rfl (by decide) rfl
  | paymentSucceeded ev hfrom hgenuine => exact dated_of_confirmed .confirmed (backfill_status ..) (by decide) (by simp)
  | paymentFailed ev reason hfrom => exact dated_of_ended (by simp [cancelledStatuses])
  | startPreparing hfrom =>
    exact dated_of_confirmed .preparing rfl (by decide) (hkept (hconfirmed hfrom (by decide)))
  | markReady hfrom => exact dated_of_confirmed .ready rfl (by decide) (hkept (hconfirmed hfrom (by decide)))
  | noDriverTimeout hfrom hchoice =>
    exact dated_of_confirmed .noDriverAvailable rfl (by decide) (hkept (hconfirmed hfrom (by decide)))
  | switchToPickup hfrom => exact dated_of_confirmed .ready rfl (by decide) (hkept (hconfirmed hfrom (by decide)))
  | cancelNoDriver reason hfrom => exact dated_of_ended (by simp [cancelledStatuses])
  | cancelSellerUnavailable hfrom => exact dated_of_ended (by simp [cancelledStatuses])
  | sellerCannotProvide hfrom => exact dated_of_ended (by simp [cancelledStatuses])
  | cancelAsSeller reason hfrom => exact dated_of_ended (by simp [cancelledStatuses])
  | driverDisappeared d hfrom => exact dated_of_ended (by simp [cancelledStatuses, Orders.Order.cancel])
  | refundDispute => exact dated_of_ended (by simp [cancelledStatuses])
  | pickedUpByBuyer hfrom hchoice =>
    exact dated_of_confirmed .delivered rfl (by decide) (hkept (hconfirmed hfrom (by decide)))
  -- the last two look at the delivery, whatever has become of the order
  | deliveredByDriver hfrom hchoice hdelivered =>
    obtain ⟨d, r, hr, hof, -⟩ := hdelivered
    exact dated_of_confirmed .delivered rfl (by decide) (hkept (hdelivery d r hr hof))
  | confirmPickup hr hof hdriver hfrom =>
    exact dated_of_confirmed .inDelivery rfl (by decide) (hkept (hdelivery _ _ hr hof))

/-! ## Along a run -/

/-- All orders are dated, and those that have a delivery are confirmed. -/
structure PaymentsDated (s : Db) : Prop where
  orders : ∀ o row, s.orders.find? o = some row → row.Dated
  deliveries : ∀ d r, s.deliveries.find? d = some r →
    ∃ row, s.orders.find? r.orderId = some row ∧ row.confirmedAt.isSome = true

theorem PaymentsDated.of_fresh (h0 : Fresh s) : PaymentsDated s := by
  refine ⟨fun o row hrow => ?_, fun d r hr => ?_⟩
  · simp [Table.find?, h0.orders] at hrow
  · simp [Table.find?, h0.deliveries] at hr

/-- **Every step keeps statuses and confirmations in agreement.** -/
theorem Step.payments_dated (hstep : Step cfg Eq me call h site s s') (hI : PaymentsDated s) : PaymentsDated s' := by
  have hconfirmed : ∀ o row, s.orders.find? o = some row → row.confirmedAt.isSome = true →
      ∃ row', s'.orders.find? o = some row' ∧ row'.confirmedAt.isSome = true := by
    intro o row hrow hsome
    obtain ⟨row', hrow', hmove⟩ := hstep.order_moved hrow
    exact ⟨row', hrow', hmove.confirmed_kept hsome⟩
  refine ⟨fun o row' hrow' => ?_, fun d r' hr' => ?_⟩
  · rcases hstep.order_move hrow' with ⟨-, -, db, args, rfl⟩ | ⟨row, hrow, hmove⟩
    · exact ⟨fun _ => rfl, fun hnot => absurd (by simp [newOrder, unconfirmed]) hnot, nofun⟩
    · refine hmove.dated (hI.orders o row hrow) fun d r hr hof => ?_
      obtain ⟨row₀, hrow₀, hsome⟩ := hI.deliveries d r hr
      rw [hof, hrow] at hrow₀
      exact Option.some.inj hrow₀ ▸ hsome
  · rcases hstep.delivery_move hr' with ⟨-, -, o, order, token, horder, hstatus, -, -, -, rfl⟩ |
      ⟨r, hr, hmove⟩
    · -- a new delivery belongs to an order that was being prepared
      exact hconfirmed o order horder ((hI.orders o order horder).confirmed (by rw [hstatus]; decide))
    · obtain ⟨row, hrow, hsome⟩ := hI.deliveries d r hr
      rw [hmove.orderId]
      exact hconfirmed _ row hrow hsome

theorem PaymentsDated.event (hI : PaymentsDated s) (e : Event) : PaymentsDated (applyEvent e s) := by
  cases e with
  | tick ms => exact ⟨hI.orders, hI.deliveries⟩
  | paymentSucceeds pi => exact ⟨hI.orders, hI.deliveries⟩

theorem payments_dated {s₀ : Db} (h0 : Fresh s₀) (inputs : List (Input (service cfg))) :
    PaymentsDated (serialRun s₀ inputs).state := by
  have hstart : PaymentsDated s₀ := .of_fresh h0
  refine serial_invariant (r := ⟨s₀, []⟩) (I := fun (s : Db) _ => PaymentsDated s)
    (P := fun _ _ => True) hstart (fun e s _ hI => hI.event e) ?_ inputs fun _ _ _ _ => trivial
  intro call w s calls hI hadm out _
  exact call_invariant (I := fun _ s => PaymentsDated s) (P := fun _ _ => True) w hadm hI
    (fun _ _ _ _ hI _ hstep => hstep.payments_dated hI) fun _ _ => trivial

/-! ## The figures -/

/-- The payment of the order was confirmed, and it is neither cancelled nor refunded. -/
def captured (row : Order) : Bool := row.confirmedAt.isSome && row.status ∉ cancelledStatuses

/-- Revenue counts every captured payment. -/
def CountsCaptured (db : Db) (overview : DashboardOverview) : Prop :=
  overview.totalRevenueCents = ((db.orders.rows.filter captured).map Order.buyerTotalCents).sum ∧
    overview.confirmedOrders = (db.orders.rows.filter captured).length

/-- The query sets no date filter. -/
def Unfiltered (q : DashboardQueryDto) : Prop :=
  q.dateFrom = none ∧ q.dateTo = none ∧ q.range ∈ [none, some .all, some .custom]

theorem overview_figures (startOfDay : Time → Int) {q : DashboardQueryDto} (hq : Unfiltered q)
    (w : Nat → Answer) (db : Db) :
    ∃ figures, (overview startOfDay q).Returns w db figures ∧
      figures.totalRevenueCents =
        ((db.orders.rows.filter fun o => o.status ∈ Dashboard.paidStatuses).map Order.buyerTotalCents).sum ∧
      figures.confirmedOrders = (db.orders.rows.filter fun o => o.status ∈ Dashboard.paidStatuses).length := by
  obtain ⟨hfrom, hto, hrange⟩ := hq
  have hwindow : resolveRange startOfDay db.now q = ⟨none, none⟩ := by
    simp only [List.mem_cons, List.not_mem_nil, or_false] at hrange
    rcases hrange with hrange | hrange | hrange <;> simp [resolveRange, hfrom, hto, hrange]
  refine ⟨_, rfl, ?_, ?_⟩
  · simp [hwindow, placedAtWhere]
  · simp [hwindow, placedAtWhere, List.countP_eq_length_filter]

theorem captured_iff (hrow : row.Dated) :
    captured row = true ↔ row.status ∈ Dashboard.paidStatuses ∨ row.status = .noDriverAvailable := by
  have hconfirmed := hrow.confirmed
  have hpending := hrow.pending
  have hundisputed := hrow.undisputed
  rw [captured, Bool.and_eq_true, decide_eq_true_eq]
  cases hstatus : row.status with
  | pending => simp [hpending hstatus, Dashboard.paidStatuses]
  | disputed => exact absurd hstatus hundisputed
  | cancelled => simp [cancelledStatuses, Dashboard.paidStatuses]
  | refunded => simp [cancelledStatuses, Dashboard.paidStatuses]
  | _ =>
    have hsome := hconfirmed (by simp [hstatus, unconfirmed])
    simp [hsome, cancelledStatuses, Dashboard.paidStatuses]

/-- **Revenue counts every captured payment** when no order is without a driver, and only
then: the orders of the two counts differ in those. -/
theorem revenue_counts_captured_iff (cfg : Config) (startOfDay : Time → Int) (s₀ : Db) (h0 : Fresh s₀)
    (inputs : List (Input (service cfg))) (q : DashboardQueryDto) (hq : Unfiltered q)
    (w : Nat → Answer) :
    ∃ figures, (overview startOfDay q).Returns w (serialRun s₀ inputs).state figures ∧
      (CountsCaptured (serialRun s₀ inputs).state figures ↔
        ∀ row ∈ (Db.orders (serialRun s₀ inputs).state).rows, row.status ≠ .noDriverAvailable) := by
  have hI : PaymentsDated (serialRun s₀ inputs).state := payments_dated h0 inputs
  generalize (serialRun s₀ inputs).state = s at hI
  obtain ⟨figures, hreturns, hrevenue, hcount⟩ := overview_figures startOfDay hq w s
  have hcaptured : ∀ row ∈ (Db.orders s).rows, captured row = true ↔
      row.status ∈ Dashboard.paidStatuses ∨ row.status = .noDriverAvailable :=
    fun row hrow => captured_iff (hI.orders _ row (Table.find?_of_mem hrow))
  refine ⟨figures, hreturns, fun hexact row hrow hwaits => ?_, fun hnone => ?_⟩
  · -- the paid orders are among the captured ones, and as many, so they are the same
    have hsub : (s.orders.rows.filter fun o => o.status ∈ Dashboard.paidStatuses).Sublist
        (s.orders.rows.filter captured) := by
      have hpaid : (s.orders.rows.filter fun o => o.status ∈ Dashboard.paidStatuses) =
          (s.orders.rows.filter captured).filter fun o => o.status ∈ Dashboard.paidStatuses := by
        rw [List.filter_filter]
        refine List.filter_congr fun o ho => ?_
        rw [Bool.eq_iff_iff, Bool.and_eq_true, decide_eq_true_eq, hcaptured o ho]
        exact (and_iff_left_of_imp .inl).symm
      exact hpaid ▸ List.filter_sublist
    have hsame := hsub.eq_of_length (hcount.symm.trans hexact.2)
    have hmem : row ∈ s.orders.rows.filter captured :=
      List.mem_filter.mpr ⟨hrow, (hcaptured row hrow).mpr (.inr hwaits)⟩
    rw [← hsame, List.mem_filter, hwaits] at hmem
    simp [Dashboard.paidStatuses] at hmem
  · have hsame : (s.orders.rows.filter fun o => o.status ∈ Dashboard.paidStatuses) =
        s.orders.rows.filter captured := by
      refine List.filter_congr fun o ho => ?_
      rw [Bool.eq_iff_iff, decide_eq_true_eq, hcaptured o ho]
      exact (or_iff_left (hnone o ho)).symm
    exact ⟨hrevenue.trans (by rw [hsame]), hcount.trans (by rw [hsame])⟩

/-- The midnights of a server in Greenwich. -/
def midnight (now : Time) : Int := now - now % dayMs

def allTime : DashboardQueryDto := ⟨some .all, none, none⟩

/-- While nobody has been looked for in vain, the paid order is counted. -/
theorem paid_order_counted : ∃ figures,
    (overview midnight allTime).Returns (fun _ => ⟨true, "", ""⟩) (serialRun smallTown orderPaid).state
      figures ∧
      CountsCaptured (serialRun smallTown orderPaid).state figures := by
  obtain ⟨figures, hreturns, hiff⟩ := revenue_counts_captured_iff smallTownConfig midnight smallTown
    smallTown_fresh orderPaid allTime ⟨rfl, rfl, by decide⟩ fun _ => ⟨true, "", ""⟩
  exact ⟨figures, hreturns, hiff.mpr (by decide +kernel)⟩

/-- **A captured payment that the revenue leaves out**: the order is ready, and no driver
has come. -/
theorem waiting_order_uncounted :
    ¬∀ (cfg : Config) (startOfDay : Time → Int) (s₀ : Db) (inputs : List (Input (service cfg)))
      (q : DashboardQueryDto) (w : Nat → Answer) (figures : DashboardOverview), Fresh s₀ →
      Unfiltered q → (overview startOfDay q).Returns w (serialRun s₀ inputs).state figures →
      CountsCaptured (serialRun s₀ inputs).state figures := by
  intro hclaim
  obtain ⟨figures, hreturns, hrevenue, -⟩ := overview_figures midnight (q := allTime) ⟨rfl, rfl, by decide⟩
    (fun _ => ⟨true, "", ""⟩) (serialRun smallTown orderWaiting).state
  have hcounts := (hclaim smallTownConfig midnight smallTown orderWaiting allTime _ figures smallTown_fresh
    ⟨rfl, rfl, by decide⟩ hreturns).1
  rw [hrevenue] at hcounts
  revert hcounts
  decide +kernel

end IncaCook
