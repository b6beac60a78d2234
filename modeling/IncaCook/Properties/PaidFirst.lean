import IncaCook.Properties.ReadyTwice

/-!
# Paid first

No status of an order that comes after its payment is written without a look at something that
only a paid order has: a confirmation asks Stripe, the seller's steps look at the status, and
the driver's two look at the delivery and not at the order. Nothing forgets the PaymentIntent
of an order again, and a payment that has succeeded stays so.

Main results:

* `Step.payment_moved`: what one step may do to the payment of an order;
* `Step.in_order`: what one step keeps, and what the other calls may rely on;
* `paid_first`: in every interleaving an order that is not pending, cancelled or refunded is
  paid for, and stays so.
-/

namespace IncaCook

open Prog Orders Deliveries Webhooks

/-- The statuses that an unpaid order may have. -/
def unpaidStatuses : List OrderStatus := [.pending, .cancelled, .refunded]

/-- The order has a PaymentIntent, and Stripe reports it as succeeded. -/
def PaidFor (o : OrderId) (s : Db) : Prop :=
  ∃ row pi p, s.orders.find? o = some row ∧ row.stripePaymentIntentId = some pi ∧
    s.paymentIntents.find? pi = some p ∧ p.succeeded = true

/-- An order keeps the PaymentIntent that it records. -/
def KeepsIntent (r r' : Order) : Prop :=
  ∀ pi, r.stripePaymentIntentId = some pi → r'.stripePaymentIntentId = some pi

/-- A PaymentIntent stays with its order, and a success is for good. -/
def KeepsSuccess (p p' : PaymentIntent) : Prop :=
  p'.orderId = p.orderId ∧ (p.succeeded = true → p'.succeeded = true)

/-- The payments are in order. -/
structure PaymentsInOrder (s : Db) : Prop where
  /-- an order past its payment is paid -/
  paid : ∀ o row, s.orders.find? o = some row → row.status ∉ unpaidStatuses → PaidFor o s
  /-- deliveries are of paid orders -/
  delivered : ∀ d r, s.deliveries.find? d = some r → PaidFor r.orderId s
  /-- what an order records is a PaymentIntent of its own -/
  recorded : ∀ o row pi, s.orders.find? o = some row → row.stripePaymentIntentId = some pi →
    ∃ p, s.paymentIntents.find? pi = some p ∧ p.orderId = o
  /-- no order has two -/
  unique : ∀ pi pi' p p', s.paymentIntents.find? pi = some p → s.paymentIntents.find? pi' = some p' →
    p.orderId = p'.orderId → pi = pi'
  /-- a PaymentIntent is created after its order -/
  placed : ∀ pi p, s.paymentIntents.find? pi = some p → ∃ row, s.orders.find? p.orderId = some row

/-- What call `me` may rely on. -/
structure KeepsPayments (me : Nat) (s s' : Db) : Prop where
  orders : s.orders.Carries KeepsIntent s'.orders
  intents : s.paymentIntents.Carries KeepsSuccess s'.paymentIntents
  /-- nobody else creates a PaymentIntent for its order -/
  own : ∀ pi p', s'.paymentIntents.find? pi = some p' → p'.orderId = generateUlid me 0 →
    ∃ p, s.paymentIntents.find? pi = some p

/-- The moves between two steps of call `me`. -/
structure PaysOn (me : Nat) (s s' : Db) : Prop where
  before : PaymentsInOrder s
  after : PaymentsInOrder s'
  keeps : KeepsPayments me s s'

/-- What a step may do to an order and its payment. -/
structure PaymentMove (s : Db) (o : OrderId) (row row' : Order) : Prop where
  keeps : KeepsIntent row row'
  records : ∀ pi, row'.stripePaymentIntentId = some pi →
    row.stripePaymentIntentId = some pi ∨ ∃ p, s.paymentIntents.find? pi = some p ∧ p.orderId = o
  status : row'.status = row.status ∨ row'.status ∈ unpaidStatuses ∨ PaidFor o s ∨
    ∃ pi p, row'.stripePaymentIntentId = some pi ∧ s.paymentIntents.find? pi = some p ∧
      p.succeeded = true

section

variable {me : Nat} {s s' s'' : Db} {o : OrderId} {d : DeliveryId} {pi : PaymentIntentId}

theorem KeepsPayments.refl (me : Nat) (s : Db) : KeepsPayments me s s where
  orders := Table.Carries.refl (fun _ _ hpi => hpi) _
  intents := Table.Carries.refl (fun _ => ⟨rfl, fun hp => hp⟩) _
  own _ p hp _ := ⟨p, hp⟩

theorem KeepsPayments.trans (h : KeepsPayments me s s') (h' : KeepsPayments me s' s'') :
    KeepsPayments me s s'' where
  orders := Table.Carries.trans (fun _ _ _ hab hbc pi hpi => hbc pi (hab pi hpi)) h.orders h'.orders
  intents := Table.Carries.trans
    (fun _ _ _ hab hbc => ⟨hbc.1.trans hab.1, fun hp => hbc.2 (hab.2 hp)⟩) h.intents h'.intents
  own pi p'' hp'' hown := by
    obtain ⟨p', hp'⟩ := h'.own pi p'' hp'' hown
    obtain ⟨p₁, hp₁, hsame, -⟩ := Table.Carries.find? h'.intents hp'
    obtain rfl := Option.some.inj (hp''.symm.trans hp₁)
    exact h.own pi p' hp' (hsame.symm.trans hown)

theorem PaidFor.carried (horders : s.orders.Carries KeepsIntent s'.orders)
    (hintents : s.paymentIntents.Carries KeepsSuccess s'.paymentIntents) (hpaid : PaidFor o s) : PaidFor o s' := by
  obtain ⟨row, pi, p, hrow, hpi, hp, hsucceeded⟩ := hpaid
  obtain ⟨row', hrow', hkeeps⟩ := Table.Carries.find? horders hrow
  obtain ⟨p', hp', -, hstays⟩ := Table.Carries.find? hintents hp
  exact ⟨row', pi, p', hrow', hkeeps pi hpi, hp', hstays hsucceeded⟩

/-- A paid order stays paid. -/
theorem KeepsPayments.paid (h : KeepsPayments me s s') (hpaid : PaidFor o s) : PaidFor o s' :=
  hpaid.carried h.orders h.intents

/-- The PaymentIntent of an order stays its PaymentIntent. -/
theorem KeepsPayments.intent (h : KeepsPayments me s s') {p : PaymentIntent}
    (hp : s.paymentIntents.find? pi = some p) : ∃ p', s'.paymentIntents.find? pi = some p' ∧
      p'.orderId = p.orderId ∧ (p.succeeded = true → p'.succeeded = true) :=
  Table.Carries.find? h.intents hp

/-- An order records no other PaymentIntent than its own. -/
theorem PaymentsInOrder.recorded_eq (hI : PaymentsInOrder s) {row : Order} {p : PaymentIntent}
    {pi' : PaymentIntentId} (hp : s.paymentIntents.find? pi = some p) (hof : p.orderId = o)
    (hrow : s.orders.find? o = some row) (hpi' : row.stripePaymentIntentId = some pi') : pi' = pi := by
  obtain ⟨p', hp', hof'⟩ := hI.recorded o row pi' hrow hpi'
  exact hI.unique pi' pi p' p hp' hp (hof'.trans hof.symm)

/-! ## What the calls have seen -/

theorem SawOrder.paid {P : Order → Prop} (hsaw : SawOrder (PaysOn me) s o P)
    (hpast : ∀ row, P row → row.status ∉ unpaidStatuses) : PaidFor o s := by
  obtain ⟨s₀, row, hR, hrow, hP⟩ := hsaw
  exact hR.keeps.paid (hR.before.paid o row hrow (hpast row hP))

/-- A delivery that was seen is of a paid order. -/
theorem PaysOn.delivery_paid {s₀ : Db} {row : Delivery} (hR : PaysOn me s₀ s)
    (hrow : s₀.deliveries.find? d = some row) : PaidFor row.orderId s :=
  hR.keeps.paid (hR.before.delivered d row hrow)

/-- So is one that the call has moved itself. -/
theorem MovedDelivery.paid {h : List (StepRecord machine)} {status : DeliveryStatus}
    (hmoved : MovedDelivery (PaysOn me) h status s o) : PaidFor o s := by
  obtain ⟨t, -, s₀, d, seen, -, -, deliveries, hR, hseen, rfl, -, hpost, -, -, -, hR'⟩ := hmoved
  have hpre : PaidFor seen.orderId t.pre := hR.delivery_paid hseen
  -- the call's own step has not touched the payments
  have hown : PaidFor seen.orderId t.post := by
    rw [hpost]
    exact hpre
  exact hR'.keeps.paid hown

/-- Outside development a payment was seen on Stripe. -/
theorem SawPayment.paid {cfg : Config} (hdev : cfg.development = false) {s₀ : Db} {row : Order}
    (hsaw : SawPayment cfg (PaysOn me) s row) (hR : PaysOn me s₀ s)
    (hrow : s₀.orders.find? o = some row) : PaidFor o s := by
  rcases hsaw with ⟨htrue, -⟩ | ⟨s₁, pi, p, hR₁, hpi, hp, hsucceeded⟩
  · rw [hdev] at htrue
    cases htrue
  · obtain ⟨row', hrow', hkeeps⟩ := Table.Carries.find? hR.keeps.orders hrow
    obtain ⟨p', hp', -, hstays⟩ := hR₁.keeps.intent hp
    exact ⟨row', pi, p', hrow', hkeeps pi hpi, hp', hstays hsucceeded⟩

/-- The PaymentIntent of an event is the order's. -/
theorem SawEvent.intent {succeeded : Bool} {ev : PaymentIntentEvent} {order : Order}
    (hsaw : SawEvent (PaysOn me) succeeded s ev order) :
    ∃ p, s.paymentIntents.find? ev.id = some p ∧ p.orderId = order.id ∧
      (succeeded = true → p.succeeded = true) := by
  obtain ⟨a, s₀, hR, hR', hgenuine, horder, -, hof⟩ := hsaw
  simp only [genuine, Option.any_eq_true, Bool.and_eq_true, decide_eq_true_eq, Bool.or_eq_true,
    Bool.not_eq_true'] at hgenuine
  obtain ⟨p, hp, hmeta, hreported⟩ := hgenuine
  obtain ⟨p', hp', hsame, hstays⟩ := (hR.keeps.trans hR'.keeps).intent hp
  refine ⟨p', hp', ?_, fun htrue => hstays (hreported.resolve_left (by simp [htrue]))⟩
  rcases hof with hof | hof
  · -- by the metadata
    rw [hsame]
    exact Option.some.inj (hmeta.symm.trans hof)
  · -- by the recorded id
    obtain ⟨p₀, hp₀, hof₀⟩ := hR'.before.recorded order.id order ev.id horder hof
    obtain ⟨p₁, hp₁, hsame₁, -⟩ := hR'.keeps.intent hp₀
    obtain rfl := Option.some.inj (hp'.symm.trans hp₁)
    exact hsame₁.trans hof₀

/-! ## What a step does -/

section

variable {row row' : Order} {f : Order → Order}

theorem PaymentMove.refl : PaymentMove s o row row :=
  ⟨fun _ hpi => hpi, fun _ hpi => .inl hpi, .inl rfl⟩

/-- A write that leaves the recorded PaymentIntent alone. -/
theorem PaymentMove.of_same (hpi : row'.stripePaymentIntentId = row.stripePaymentIntentId)
    (hstatus : row'.status = row.status ∨ row'.status ∈ unpaidStatuses ∨ PaidFor o s) :
    PaymentMove s o row row' where
  keeps _ h := hpi.trans h
  records _ h := .inl (hpi.symm.trans h)
  status := by
    rcases hstatus with hsame | hunpaid | hpaid
    · exact .inl hsame
    · exact .inr (.inl hunpaid)
    · exact .inr (.inr (.inl hpaid))

/-- A write to one order. -/
theorem moved_update {o₁ : OrderId} (hrow : s.orders.find? o = some row)
    (hmove : o = o₁ → PaymentMove s o row (f row))
    (hf : ∀ r, (f r).id = r.id := by intro _; exact Eq.symm rfl) :
    ∃ row', (s.orders.update o₁ f hf).find? o = some row' ∧ PaymentMove s o row row' := by
  rw [Table.find?_update, hrow]
  split
  · rename_i ho
    exact ⟨f row, rfl, hmove ho⟩
  · exact ⟨row, rfl, .refl⟩

/-- A write to a paid order. -/
theorem moved_paid {o₁ : OrderId} (hrow : s.orders.find? o = some row) (hpaid : PaidFor o₁ s)
    (hpi : ∀ r, (f r).stripePaymentIntentId = r.stripePaymentIntentId := by intro _; exact Eq.symm rfl)
    (hf : ∀ r, (f r).id = r.id := by intro _; exact Eq.symm rfl) :
    ∃ row', (s.orders.update o₁ f hf).find? o = some row' ∧ PaymentMove s o row row' :=
  moved_update hrow (fun ho => .of_same (hpi row) (.inr (.inr (ho ▸ hpaid)))) hf

/-- The end of an order. -/
theorem moved_ends {o₁ : OrderId} (hrow : s.orders.find? o = some row)
    (hends : ∀ r, (f r).status ∈ unpaidStatuses)
    (hpi : ∀ r, (f r).stripePaymentIntentId = r.stripePaymentIntentId := by intro _; exact Eq.symm rfl)
    (hf : ∀ r, (f r).id = r.id := by intro _; exact Eq.symm rfl) :
    ∃ row', (s.orders.update o₁ f hf).find? o = some row' ∧ PaymentMove s o row row' :=
  moved_update hrow (fun _ => .of_same (hpi row) (.inr (.inl (hends row)))) hf

/-- Recording the PaymentIntent of an order changes nothing where one is recorded. -/
theorem PaymentMove.of_records (hI : PaymentsInOrder s) {p : PaymentIntent}
    (hp : s.paymentIntents.find? pi = some p) (hof : p.orderId = o) (hrow : s.orders.find? o = some row)
    (hpi : row'.stripePaymentIntentId = some pi)
    (hstatus : row'.status = row.status ∨ row'.status ∈ unpaidStatuses ∨ p.succeeded = true) :
    PaymentMove s o row row' where
  keeps pi' hpi' := by
    rw [hpi, hI.recorded_eq hp hof hrow hpi']
  records pi' hpi' := by
    obtain rfl := Option.some.inj (hpi.symm.trans hpi')
    exact .inr ⟨p, hp, hof⟩
  status := by
    rcases hstatus with hsame | hunpaid | hsucceeded
    · exact .inl hsame
    · exact .inr (.inl hunpaid)
    · exact .inr (.inr (.inr ⟨pi, p, hpi, hp, hsucceeded⟩))

/-- After the write of an event the order records the PaymentIntent of the event, whatever the
order that the handler has read. -/
theorem SawEvent.backfilled {succeeded : Bool} {ev : PaymentIntentEvent} {order : Order}
    (hsaw : SawEvent (PaysOn me) succeeded s ev order) (hI : PaymentsInOrder s)
    (hrow : s.orders.find? order.id = some row)
    (hsame : row'.stripePaymentIntentId = row.stripePaymentIntentId) :
    (backfill order ev.id row').stripePaymentIntentId = some ev.id := by
  obtain ⟨p, hp, hof, -⟩ := hsaw.intent
  obtain ⟨-, s₀, -, hR, -, horder, -⟩ := hsaw
  unfold backfill
  split
  · rename_i hsome
    obtain ⟨pi₀, hpi₀⟩ := Option.isSome_iff_exists.mp hsome
    obtain ⟨row₁, hrow₁, hkeeps⟩ := Table.Carries.find? hR.keeps.orders horder
    obtain rfl := Option.some.inj (hrow.symm.trans hrow₁)
    rw [hsame, hkeeps pi₀ hpi₀, hI.recorded_eq hp hof hrow (hkeeps pi₀ hpi₀)]
  · rfl

end

variable {cfg : Config} {call : Call} {h : List (StepRecord machine)} {site : Site} {row : Order}

/-- **What one step may do to the payment of an order.** -/
theorem Step.payment_moved (hstep : Step cfg (PaysOn me) me call h site s s')
    (hdev : cfg.development = false) (hI : PaymentsInOrder s) (hrow : s.orders.find? o = some row) :
    ∃ row', s'.orders.find? o = some row' ∧ PaymentMove s o row row' := by
  cases hstep with
  | aside haside => exact ⟨row, haside.orders ▸ hrow, .refl⟩
  | placeOrder args hid hstock hnew => exact ⟨row, Table.find?_insert_of_some hnew hrow, .refl⟩
  | savePaymentIntent o₁ pi hpi =>
    rcases hpi with ⟨htrue, -⟩ | ⟨s₀, p₀, hR, hp₀, hof₀⟩
    · rw [hdev] at htrue
      cases htrue
    · obtain ⟨p, hp, hsame, -⟩ := hR.keeps.intent hp₀
      refine moved_update hrow ?_
      rintro rfl
      exact .of_records hI hp (hsame.trans hof₀) hrow rfl (.inl rfl)
  | confirmPayment o₁ hsaw =>
    obtain ⟨s₀, seen, hR, hseen, -, hpayment⟩ := hsaw
    exact moved_paid hrow (hpayment.paid hdev hR hseen)
  | paymentSucceeded ev order hsaw =>
    refine moved_update hrow ?_ ?_
    · rintro rfl
      obtain ⟨p, hp, hof, hsucceeded⟩ := hsaw.intent
      refine .of_records hI hp hof hrow (hsaw.backfilled hI hrow ?_) (.inr (.inr (hsucceeded rfl)))
      exact Eq.symm rfl
    · exact fun _ => (backfill_id order ev.id _).trans rfl
  | paymentFailed ev order fresh reason hsaw hfresh hpending =>
    refine moved_update hrow ?_ ?_
    · rintro rfl
      obtain ⟨p, hp, hof, -⟩ := hsaw.intent
      refine .of_records hI hp hof hrow (hsaw.backfilled hI hrow ?_) (.inr (.inl ?_))
      · exact Eq.symm rfl
      · rw [backfill_status]
        simp [unpaidStatuses, Orders.Order.cancelRestored, Orders.Order.cancel]
    · exact fun _ => (backfill_id order ev.id _).trans rfl
  | saveRefund o₁ refund hrefund hcause =>
    refine moved_update hrow ?_
    exact fun _ => .of_same rfl (.inl rfl)
  | startPreparing o₁ hsaw =>
    exact moved_paid hrow (hsaw.paid fun row hstatus => by simp [hstatus, unpaidStatuses])
  | markReady o₁ choice token hsaw hnew =>
    exact moved_paid hrow (hsaw.paid fun row hrow => by simp [hrow.1, unpaidStatuses])
  | noDriverTimeout o₁ hsaw =>
    obtain ⟨s₀, seen, hR, hseen, hstatus, -⟩ := hsaw
    have hpaid : SawOrder (PaysOn me) s o₁ fun row => row.status = .ready := ⟨s₀, seen, hR, hseen, hstatus⟩
    exact moved_paid hrow (hpaid.paid fun row hstatus => by simp [hstatus, unpaidStatuses])
  | switchToPickup o₁ hR hsaw hstatus =>
    have hpaid : SawOrder (PaysOn me) s o₁ fun row => row.status = .noDriverAvailable :=
      ⟨_, _, hR, hsaw, hstatus⟩
    exact moved_paid hrow (hpaid.paid fun row hstatus => by simp [hstatus, unpaidStatuses])
  | pickedUpByBuyer o₁ hsaw =>
    exact moved_paid hrow (hsaw.paid fun row hrow => by simp [hrow.1, unpaidStatuses])
  | deliveredByDriver o₁ hsaw hdelivered => exact moved_paid hrow hdelivered.paid
  | confirmPickup d₁ driver token hcall huser hR hsaw hdriver hnot hstatus htoken =>
    -- the order itself is not looked at
    exact moved_paid hrow (hR.delivery_paid hsaw)
  | cancelNoDriver | cancelSellerUnavailable | sellerCannotProvide | cancelAsSeller =>
    exact moved_ends hrow fun _ => by
      simp [unpaidStatuses, Orders.Order.cancelRestored, Orders.Order.cancel]
  | driverDisappeared =>
    exact moved_ends hrow fun _ => by simp [unpaidStatuses, Orders.Order.cancel]
  | refundDispute => exact moved_ends hrow fun _ => by simp [unpaidStatuses]
  | _ => exact ⟨row, hrow, .refl⟩

/-- A new order is pending and has no PaymentIntent. -/
theorem Step.placed_unpaid (hstep : Step cfg (PaysOn me) me call h site s s') (hnone : s.orders.find? o = none)
    (hrow : s'.orders.find? o = some row) : row.status = .pending ∧ row.stripePaymentIntentId = none := by
  rcases hstep.order_new hrow with ⟨row₀, hrow₀⟩ | ⟨rfl, -⟩
  · rw [hnone] at hrow₀
    cases hrow₀
  · cases hstep with
    | noop =>
      rw [hnone] at hrow
      cases hrow
    | aside haside =>
      rw [haside.orders, hnone] at hrow
      cases hrow
    | placeOrder args hid hstock hnew =>
      obtain rfl := Table.eq_of_insert hnew hnone hrow
      exact ⟨rfl, rfl⟩

/-- A new PaymentIntent is the only one of an order that this call has placed. -/
theorem Step.intent_new (hstep : Step cfg (PaysOn me) me call h site s s') {p' : PaymentIntent}
    (hp' : s'.paymentIntents.find? pi = some p') : s.paymentIntents.find? pi = some p' ∨
      p'.orderId = generateUlid me 0 ∧ (∃ row, s'.orders.find? p'.orderId = some row) ∧
        ∀ pi₀ p₀, s'.paymentIntents.find? pi₀ = some p₀ → p₀.orderId = p'.orderId → pi₀ = pi := by
  cases hstep with
  | aside haside => exact .inl (haside.paymentIntents ▸ hp')
  | createPaymentIntent row hrow hplaced hnew =>
    dsimp only at hp'
    rw [Table.find?_insert hnew] at hp'
    split at hp'
    · rename_i hpi
      obtain rfl := Option.some.inj hp'
      obtain ⟨t, -, ⟨a, ha⟩, hnone, ⟨order, horder⟩, hsame, hR⟩ := hplaced
      obtain ⟨order', horder', -⟩ := Table.Carries.find? hR.keeps.orders horder
      refine .inr ⟨hrow, ⟨order', horder'⟩, fun pi₀ p₀ hp₀ hof => ?_⟩
      dsimp only at hp₀
      rw [Table.find?_insert hnew] at hp₀
      split at hp₀
      · rename_i hpi₀
        exact hpi₀.trans hpi.symm
      -- another one would have been there when the order was not
      obtain ⟨p₁, hp₁⟩ := hR.keeps.own pi₀ p₀ hp₀ (hof.trans hrow)
      obtain ⟨p₂, hp₂, hsame₁, -⟩ := hR.keeps.intent hp₁
      obtain rfl := Option.some.inj (hp₀.symm.trans hp₂)
      obtain ⟨earlier, hearlier⟩ := ha.after.placed pi₀ p₁ (hsame ▸ hp₁)
      rw [← hsame₁, hof, hnone] at hearlier
      cases hearlier
    · exact .inl hp'
  | _ => exact .inl hp'

/-- No step loses a PaymentIntent. -/
theorem Step.intents_kept (hstep : Step cfg (PaysOn me) me call h site s s') :
    s.paymentIntents.Carries KeepsSuccess s'.paymentIntents := by
  have hrefl : ∀ p, KeepsSuccess p p := fun p => ⟨rfl, fun hp => hp⟩
  cases hstep with
  | aside haside =>
    rw [haside.paymentIntents]
    exact Table.Carries.refl hrefl _
  | createPaymentIntent row hrow hplaced hnew => exact Table.carries_insert hrefl hnew
  | _ => exact Table.Carries.refl hrefl _

/-- **What one step keeps**, and what the other calls may rely on. -/
theorem Step.in_order (hstep : Step cfg (PaysOn me) me call h site s s') (hdev : cfg.development = false)
    (hI : PaymentsInOrder s) : PaymentsInOrder s' ∧ ∀ other, other ≠ me → KeepsPayments other s s' := by
  have horders : s.orders.Carries KeepsIntent s'.orders := by
    intro row hrow
    obtain ⟨row', hrow', hmove⟩ := hstep.payment_moved hdev hI (Table.find?_of_mem hrow)
    exact ⟨row', hrow', hmove.keeps⟩
  have hintents := hstep.intents_kept
  have hpaid : ∀ o, PaidFor o s → PaidFor o s' := fun o => PaidFor.carried horders hintents
  -- an order of the new state is new, or one of the old state that has moved
  have hbefore : ∀ o row', s'.orders.find? o = some row' →
      (row'.status = .pending ∧ row'.stripePaymentIntentId = none) ∨
        ∃ row, s.orders.find? o = some row ∧ PaymentMove s o row row' := by
    intro o row' hrow'
    cases hrow : s.orders.find? o with
    | none => exact .inl (hstep.placed_unpaid hrow hrow')
    | some row =>
      obtain ⟨row₁, hrow₁, hmove⟩ := hstep.payment_moved hdev hI hrow
      obtain rfl := Option.some.inj (hrow'.symm.trans hrow₁)
      exact .inr ⟨row, rfl, hmove⟩
  refine ⟨⟨?_, ?_, ?_, ?_, ?_⟩, fun other hne => ⟨horders, hintents, ?_⟩⟩
  · intro o row' hrow' hpast
    rcases hbefore o row' hrow' with ⟨hpending, -⟩ | ⟨row, hrow, hmove⟩
    · exact absurd (hpending ▸ by decide) hpast
    · rcases hmove.status with hsame | hunpaid | hp | ⟨pi, p, hpi, hp, hsucceeded⟩
      · exact hpaid o (hI.paid o row hrow (hsame ▸ hpast))
      · exact absurd hunpaid hpast
      · exact hpaid o hp
      · obtain ⟨p', hp', -, hstays⟩ := Table.Carries.find? hintents hp
        exact ⟨row', pi, p', hrow', hpi, hp', hstays hsucceeded⟩
  · intro d r' hr'
    rcases hstep.delivery_before hr' with ⟨-, -, hsaw, -⟩ | ⟨r, hr, hsame⟩
    · exact hpaid _ (hsaw.paid fun row hstatus => by simp [hstatus, unpaidStatuses])
    · rw [hsame]
      exact hpaid _ (hI.delivered d r hr)
  · intro o row' pi hrow' hpi
    obtain ⟨p, hp, hof⟩ : ∃ p, s.paymentIntents.find? pi = some p ∧ p.orderId = o := by
      rcases hbefore o row' hrow' with ⟨-, hnone⟩ | ⟨row, hrow, hmove⟩
      · rw [hnone] at hpi
        cases hpi
      · exact (hmove.records pi hpi).elim (hI.recorded o row pi hrow) fun hp => hp
    obtain ⟨p', hp', hsame, -⟩ := Table.Carries.find? hintents hp
    exact ⟨p', hp', hsame.trans hof⟩
  · intro pi₁ pi₂ p₁ p₂ hp₁ hp₂ hsame
    rcases hstep.intent_new hp₁ with hold₁ | ⟨-, -, honly⟩
    · rcases hstep.intent_new hp₂ with hold₂ | ⟨-, -, honly⟩
      · exact hI.unique pi₁ pi₂ p₁ p₂ hold₁ hold₂ hsame
      · exact honly pi₁ p₁ hp₁ hsame
    · exact (honly pi₂ p₂ hp₂ hsame.symm).symm
  · intro pi p' hp'
    rcases hstep.intent_new hp' with hold | ⟨-, hplaced, -⟩
    · obtain ⟨row, hrow⟩ := hI.placed pi p' hold
      obtain ⟨row', hrow', -⟩ := Table.Carries.find? horders hrow
      exact ⟨row', hrow'⟩
    · exact hplaced
  · intro pi p' hp' hown
    rcases hstep.intent_new hp' with hold | ⟨hof, -⟩
    · exact ⟨p', hold⟩
    · exact absurd (congrArg Ulid.call (hown.symm.trans hof)) hne

/-! ## What happens by itself -/

theorem PaymentsInOrder.of_fresh (h0 : Fresh s) : PaymentsInOrder s where
  paid o row hrow := by simp [Table.find?, h0.orders] at hrow
  delivered d r hr := by simp [Table.find?, h0.deliveries] at hr
  recorded o row pi hrow := by simp [Table.find?, h0.orders] at hrow
  unique pi pi' p p' hp := by simp [Table.find?, h0.paymentIntents] at hp
  placed pi p hp := by simp [Table.find?, h0.paymentIntents] at hp

theorem PaysOn.refl (hI : PaymentsInOrder s) : PaysOn me s s := ⟨hI, hI, .refl me s⟩

theorem PaysOn.trans (h : PaysOn me s s') (h' : PaysOn me s' s'') : PaysOn me s s'' :=
  ⟨h.before, h'.after, h.keeps.trans h'.keeps⟩

/-- Payments succeed, and no order changes by itself. -/
theorem event_carries (e : Event) (s : Db) : s.orders.Carries KeepsIntent (applyEvent e s).orders ∧
    s.paymentIntents.Carries KeepsSuccess (applyEvent e s).paymentIntents := by
  have horders : s.orders.Carries KeepsIntent s.orders := Table.Carries.refl (fun _ _ hpi => hpi) _
  cases e with
  | tick ms => exact ⟨horders, Table.Carries.refl (fun _ => ⟨rfl, fun hp => hp⟩) _⟩
  | paymentSucceeds pi =>
    have hsucceeds : ∀ p : PaymentIntent, KeepsSuccess p { p with succeeded := true } :=
      fun _ => ⟨rfl, fun _ => rfl⟩
    exact ⟨horders, Table.carries_update (fun _ => ⟨rfl, fun hp => hp⟩) hsucceeds fun _ => rfl⟩

theorem PaysOn.event (e : Event) (hI : PaymentsInOrder s) : PaysOn me s (applyEvent e s) := by
  obtain ⟨horders, hintents⟩ := event_carries e s
  cases e with
  | tick ms => exact ⟨hI, ⟨hI.paid, hI.delivered, hI.recorded, hI.unique, hI.placed⟩,
      ⟨horders, hintents, fun _ p hp _ => ⟨p, hp⟩⟩⟩
  | paymentSucceeds pi =>
    have hpaid : ∀ o, PaidFor o s → PaidFor o (applyEvent (.paymentSucceeds pi) s) :=
      fun o => PaidFor.carried horders hintents
    have hbefore : ∀ pi' p', (applyEvent (.paymentSucceeds pi) s).paymentIntents.find? pi' = some p' →
        ∃ p, s.paymentIntents.find? pi' = some p ∧ p'.orderId = p.orderId := by
      intro pi' p' hp'
      dsimp only [applyEvent] at hp'
      exact Table.find?_update_rel (M := fun p p' => p'.orderId = p.orderId) hp' (fun _ => rfl) fun _ _ _ => rfl
    refine ⟨hI, ⟨?_, ?_, ?_, ?_, ?_⟩, horders, hintents, ?_⟩
    · exact fun o row hrow hpast => hpaid o (hI.paid o row hrow hpast)
    · exact fun d r hr => hpaid _ (hI.delivered d r hr)
    · intro o row pi' hrow hpi'
      obtain ⟨p, hp, hof⟩ := hI.recorded o row pi' hrow hpi'
      obtain ⟨p', hp', hsame, -⟩ := Table.Carries.find? hintents hp
      exact ⟨p', hp', hsame.trans hof⟩
    · intro pi₁ pi₂ p₁ p₂ hp₁ hp₂ hsame
      obtain ⟨q₁, hq₁, hof₁⟩ := hbefore pi₁ p₁ hp₁
      obtain ⟨q₂, hq₂, hof₂⟩ := hbefore pi₂ p₂ hp₂
      exact hI.unique pi₁ pi₂ q₁ q₂ hq₁ hq₂ (hof₁.symm.trans (hsame.trans hof₂))
    · intro pi' p' hp'
      obtain ⟨q, hq, hof⟩ := hbefore pi' p' hp'
      rw [hof]
      exact hI.placed pi' q hq
    · intro pi' p' hp' _
      obtain ⟨q, hq, -⟩ := hbefore pi' p' hp'
      exact ⟨q, hq⟩

end

/-! ## Every interleaving -/

/-- What is known of every run. -/
theorem payments_sound {cfg : Config} (hdev : cfg.development = false) {s₀ : Db} (h0 : Fresh s₀)
    (actions : List (Pool.Action (service cfg))) :
    Pool.Sound (interleaved cfg PaysOn) (fun _ _ => anyPost) PaymentsInOrder s₀ (poolRun s₀ actions) := by
  have hany : (poolRun s₀ actions).Steps fun _ _ => True := fun _ _ => trivial
  refine interleaved_sound (.of_fresh h0) (fun _ _ hI => .refl hI) (fun _ _ _ _ hab hbc => hab.trans hbc)
    (fun e s hI => ?_) (fun me call h site s s' hI _ hstep => ?_) actions hany
  · have hmoves : ∀ me, PaysOn me s (applyEvent e s) := fun me => .event e hI
    exact ⟨(hmoves 0).after, hmoves⟩
  · obtain ⟨hI', hkeeps⟩ := hstep.in_order hdev hI
    exact ⟨hI', fun other hne => ⟨hI, hI', hkeeps other hne⟩⟩

/-- The orders of a run are paid for before anything else happens to them. -/
structure PaidFirst {cfg : Config} (s₀ : Db) (actions : List (Pool.Action (service cfg))) : Prop where
  /-- an order that is not pending, cancelled or refunded is paid -/
  paid : Pool.Always (fun s : Db => ∀ o row, s.orders.find? o = some row →
    row.status ∉ unpaidStatuses → PaidFor o s) s₀ actions
  /-- and stays so -/
  stays : ∀ before after o, actions = before ++ after → PaidFor o (poolRun s₀ before).state →
    PaidFor o (poolRun s₀ actions).state
  /-- so that a refund of such an order, whenever it comes, finds a PaymentIntent -/
  refundable : ∀ before after o row row', actions = before ++ after →
    (Db.orders (poolRun s₀ before).state).find? o = some row → row.status ∉ unpaidStatuses →
    (Db.orders (poolRun s₀ actions).state).find? o = some row' → row'.stripePaymentIntentId ≠ none

/-- **No unpaid order is prepared or delivered.** Outside development, in every interleaving of
any calls, an order that is not pending, cancelled or refunded has a PaymentIntent that Stripe
reports as succeeded, and keeps it. -/
theorem paid_first (cfg : Config) (hdev : cfg.development = false) (s₀ : Db) (h0 : Fresh s₀)
    (actions : List (Pool.Action (service cfg))) : PaidFirst s₀ actions := by
  have hpaid : ∀ before after o row, actions = before ++ after →
      (Db.orders (poolRun s₀ before).state).find? o = some row → row.status ∉ unpaidStatuses →
      PaidFor o (poolRun s₀ before).state := by
    intro before after o row _ hrow hpast
    exact (payments_sound hdev h0 before).inv.paid o row hrow hpast
  have hstays : ∀ before after o, actions = before ++ after → PaidFor o (poolRun s₀ before).state →
      PaidFor o (poolRun s₀ actions).state := by
    rintro before after o rfl hp
    refine Pool.leads (R := fun s s' : Db => PaidFor o s → PaidFor o s') (fun _ hs => hs)
      (fun _ _ _ hab hbc ha => hbc (hab ha)) (fun e s => ?_) before after (fun e he => ?_) hp
    · exact PaidFor.carried (event_carries e s).1 (event_carries e s).2
    · obtain ⟨_, hpre, -, call, hstep⟩ := (payments_sound hdev h0 (before ++ after)).step e he
      obtain ⟨-, hkeeps⟩ := hstep.in_order hdev hpre
      exact (hkeeps (e.thread + 1) (Nat.succ_ne_self _)).paid
  refine ⟨fun before after hsplit o row => hpaid before after o row hsplit, hstays, ?_⟩
  intro before after o row row' hsplit hrow hpast hrow' hnone
  obtain ⟨row₁, pi, -, hrow₁, hpi, -⟩ := hstays before after o hsplit (hpaid before after o row hsplit hrow hpast)
  obtain rfl := Option.some.inj (hrow'.symm.trans hrow₁)
  rw [hnone] at hpi
  cases hpi

/-- An order is placed, paid for, confirmed and prepared. -/
def paidAndPrepared : List (Pool.Action (service smallTownConfig)) :=
  .arrive (.createOrder "buyer" smallTownOrder) :: dispatchSteps 0 20 "token" ++
    .event (.paymentSucceeds (.stripe 1)) ::
    .arrive (.confirmPaymentForBuyer "buyer" ⟨0, 0⟩) :: dispatchSteps 1 5 "token" ++
    .arrive (.startPreparing "seller" ⟨0, 0⟩) :: dispatchSteps 2 3 "token"

theorem paidAndPrepared_first :
    Db.orderStatus (poolRun smallTown paidAndPrepared).state ⟨0, 0⟩ = some .preparing ∧
      PaidFirst smallTown paidAndPrepared :=
  ⟨by decide +kernel, paid_first smallTownConfig rfl smallTown smallTown_fresh paidAndPrepared⟩

end IncaCook
