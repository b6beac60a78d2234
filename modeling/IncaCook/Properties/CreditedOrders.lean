import IncaCook.Properties.Bookkeeping
import IncaCook.Properties.CartMoney
import IncaCook.Properties.ClaimWindow
import IncaCook.Properties.Credits
import IncaCook.Properties.FairPricing

/-!
# Credited orders

The amounts of an order are a split of its subtotal, and stay what they are; an order
that is handed over is credited with them, once. What the ledger credits in all is then
what the buyer paid less the platform's fee, unless the commission, which is never below
its floor, exceeds the dishes: the seller's earning is negative, and its row is dropped.

Main results:

* `Step.credited`: what stays of a credit;
* `Auditing.step`, `call_audited`: the ledger is in order after every call;
* `credited_payment_iff`: the orders that are credited with no more than was paid.
-/

namespace IncaCook

open Prog Pricing Orders Deliveries Wallets Webhooks

/-- The driver of an order. -/
def Db.driverOf (s : Db) (o : OrderId) : Option UserId := (s.latestDelivery o).bind Delivery.driverId

/-- The parties and the amounts of an order, as they were when it was placed. -/
def Order.amounts (row : Order) : OrderId × UserId × Cents × Cents × Cents × Cents × Cents :=
  (row.id, row.sellerId, row.subtotalCents, row.fulfillmentFeeCents, row.commissionCents,
    row.sellerEarningsCents, row.buyerTotalCents)

/-- The amounts are a split of the subtotal. -/
structure Order.Priced (cfg : Config) (row : Order) : Prop where
  fee : 0 ≤ row.fulfillmentFeeCents
  commission : ∃ isPremium, row.commissionCents = commissionOn isPremium row.subtotalCents
  earnings : row.sellerEarningsCents = row.subtotalCents - row.commissionCents
  total : row.buyerTotalCents = row.subtotalCents + row.fulfillmentFeeCents +
    platformFeeOn cfg row.fulfillmentFeeCents row.subtotalCents

/-- An order that was handed over, and perhaps refunded since. -/
def handedOver : List OrderStatus := [.delivered, .refunded]

/-- The order was handed over and credited for. -/
def Credited (s : Db) (o : OrderId) : Prop :=
  ∃ row τ, s.orders.find? o = some row ∧ row.status ∈ handedOver ∧ Handed o τ s ∧
    s.credits o = (dueCredits row (s.driverOf o)).reverse

/-- The order was called off, and its delivery with it. -/
def CalledOff (s : Db) (o : OrderId) : Prop :=
  ∃ row d r, s.orders.find? o = some row ∧ (row.status = .cancelled ∨ row.status = .refunded) ∧
    s.deliveries.find? d = some r ∧ r.orderId = o ∧ (r.status = .cancelled ∨ r.status = .failed)

section

variable {cfg : Config} {me : Nat} {call : Call} {h : List (StepRecord machine)} {site : Site}
  {s s' : Db} {o : OrderId} {d : DeliveryId} {row row' : Order}

/-! ## Amounts -/

theorem Quoted.totals {args : InsertOrderArgs} (hquoted : Quoted cfg args) :
    ∃ isDelivery isPremium subtotal, args.totals = totalsOf cfg isDelivery isPremium subtotal := by
  unfold Quoted computeTotals at hquoted
  rw [priceOrder_totalsOf] at hquoted
  exact ⟨_, _, _, (Except.ok.inj hquoted).symm⟩

theorem newOrder_priced {db : Db} {args : InsertOrderArgs} (hquoted : Quoted cfg args) :
    (newOrder db args).Priced cfg := by
  obtain ⟨isDelivery, isPremium, subtotal, htotals⟩ := hquoted.totals
  constructor
  · show 0 ≤ args.totals.fulfillmentFeeCents
    rw [htotals, totalsOf]
    dsimp only
    split
    · exact Int.natCast_nonneg _
    · exact Int.le_refl 0
  · refine ⟨isPremium, ?_⟩
    show args.totals.commissionCents = commissionOn _ args.totals.subtotalCents
    rw [htotals]
    rfl
  · show args.totals.sellerEarningsCents = args.totals.subtotalCents - args.totals.commissionCents
    rw [htotals]
    rfl
  · show args.totals.buyerTotalCents = args.totals.subtotalCents + args.totals.fulfillmentFeeCents +
      platformFeeOn cfg args.totals.fulfillmentFeeCents args.totals.subtotalCents
    rw [htotals]
    rfl

theorem Order.Priced.of_amounts (hpriced : row.Priced cfg) (hsame : row'.amounts = row.amounts) :
    row'.Priced cfg := by
  simp only [Order.amounts, Prod.mk.injEq] at hsame
  obtain ⟨-, -, hsubtotal, hfee, hcommission, hearnings, htotal⟩ := hsame
  obtain ⟨hpos, htier, hsplit, hsum⟩ := hpriced
  constructor
  · rw [hfee]
    exact hpos
  · rw [hcommission, hsubtotal]
    exact htier
  · rw [hearnings, hcommission, hsubtotal]
    exact hsplit
  · rw [htotal, hsubtotal, hfee]
    exact hsum

theorem backfill_amounts (read : Order) (pi : PaymentIntentId) (row : Order) :
    (backfill read pi row).amounts = row.amounts := by
  unfold backfill
  split
  · rfl
  · rfl

/-- No statement changes the amounts of an order. -/
theorem OrderMove.amounts (hmove : OrderMove cfg call s o site row row') :
    row'.amounts = row.amounts := by
  cases hmove with
  | paymentSucceeded ev hfrom hgenuine => exact backfill_amounts _ _ _
  | paymentFailed ev reason hfrom => exact backfill_amounts _ _ _
  | _ => rfl

theorem dueCredits_congr (hsame : row'.amounts = row.amounts)
    (hchoice : row'.fulfillmentChoice = row.fulfillmentChoice) (driver : Option UserId) :
    dueCredits row' driver = dueCredits row driver := by
  simp only [Order.amounts, Prod.mk.injEq] at hsame
  obtain ⟨-, hseller, -, hfee, hcommission, hearnings, -⟩ := hsame
  unfold dueCredits
  rw [hseller, hfee, hcommission, hearnings, hchoice]

/-- Without a delivery nobody is paid for one. -/
theorem dueCredits_pickup (hchoice : row.fulfillmentChoice ≠ .delivery) (driver driver' : Option UserId) :
    dueCredits row driver = dueCredits row driver' := by
  have hnone : ∀ driver, dueCredits row driver = dueCredits row none := by
    intro driver
    cases driver with
    | none => rfl
    | some driver => simp [dueCredits, hchoice]
  rw [hnone driver, hnone driver']

/-! ## What stays of a handover -/

/-- No statement completes an order or marks it disputed. -/
theorem OrderMove.unfinished (hmove : OrderMove cfg call s o site row row')
    (hnot : row.status ≠ .completed ∧ row.status ≠ .disputed) :
    row'.status ≠ .completed ∧ row'.status ≠ .disputed := by
  cases hmove with
  | stay => exact hnot
  | savePaymentIntent pi => exact hnot
  | saveRefund refund hcause => exact hnot
  | _ => simp [Orders.Order.cancel]

/-- An order that was handed over is past every cancellation. -/
theorem resolved_of_handedOver {status : OrderStatus} (hstatus : status ∈ handedOver) :
    status ∈ resolved ∧ status ∉ cancellableFrom := by
  revert status
  decide

/-- An order that was handed over stays so, and is still to be delivered or picked up as it was. -/
theorem OrderMove.handed_stays (hmove : OrderMove cfg call s o site row row') (hI : Proven s)
    (hrow : s.orders.find? o = some row) (hstatus : row.status ∈ handedOver) {τ : Time}
    (hhanded : Handed o τ s) :
    row'.status ∈ handedOver ∧ row'.fulfillmentChoice = row.fulfillmentChoice := by
  cases hmove with
  | stay => exact ⟨hstatus, rfl⟩
  | savePaymentIntent pi => exact ⟨hstatus, rfl⟩
  | saveRefund refund hcause => exact ⟨hstatus, rfl⟩
  | refundDispute => exact ⟨by simp [handedOver], rfl⟩
  | pickedUpByBuyer hfrom hchoice => exact ⟨by simp [handedOver], rfl⟩
  | deliveredByDriver hfrom hchoice hdelivery => exact ⟨by simp [handedOver], rfl⟩
  | confirmPickup hr hof hdriver hfrom =>
    -- the delivery that is picked up would be the one that was delivered
    rename_i d driver r
    have hopen : r.status ≠ .cancelled := by
      intro hcancelled
      simp [hcancelled, prePickup] at hfrom
    have hchoice := hI.choice d r row hr (hof ▸ hrow) hopen
    obtain ⟨row₀, hrow₀, hdelivery⟩ := hhanded
    obtain rfl := Option.some.inj (hrow.symm.trans hrow₀)
    obtain ⟨d', r', -, hr', hof', hdelivered, -⟩ := hdelivery hchoice
    obtain rfl := hI.paired.unique d d' r r' hr hr' (hof.trans hof'.symm)
    obtain rfl := Option.some.inj (hr.symm.trans hr')
    simp [hdelivered, prePickup] at hfrom
  | cancelSellerUnavailable hfrom => exact absurd (resolved_of_handedOver hstatus).1 hfrom
  | sellerCannotProvide hfrom => exact absurd hfrom (resolved_of_handedOver hstatus).2
  | cancelAsSeller reason hfrom => exact absurd hfrom (resolved_of_handedOver hstatus).2
  | driverDisappeared d hfrom => simp [hfrom, handedOver] at hstatus
  | confirmPayment hfrom hpaid => simp [hfrom, handedOver] at hstatus
  | paymentSucceeded ev hfrom hgenuine => simp [hfrom, handedOver] at hstatus
  | paymentFailed ev reason hfrom => simp [hfrom, handedOver] at hstatus
  | startPreparing hfrom => simp [hfrom, handedOver] at hstatus
  | markReady hfrom => simp [hfrom, handedOver] at hstatus
  | noDriverTimeout hfrom hchoice => simp [hfrom, handedOver] at hstatus
  | switchToPickup hfrom => simp [hfrom, handedOver] at hstatus
  | cancelNoDriver reason hfrom => simp [hfrom, handedOver] at hstatus

/-- The delivery of an order that was handed over. -/
theorem Handed.delivery {τ : Time} (hhanded : Handed o τ s) (hrow : s.orders.find? o = some row)
    (hchoice : row.fulfillmentChoice = .delivery) :
    ∃ d r, s.deliveries.find? d = some r ∧ r.orderId = o ∧ r.status = .delivered := by
  obtain ⟨row₀, hrow₀, hdelivery⟩ := hhanded
  obtain rfl := Option.some.inj (hrow.symm.trans hrow₀)
  obtain ⟨d, r, t, hr, hof, hdelivered, -⟩ := hdelivery hchoice
  exact ⟨d, r, hr, hof, hdelivered⟩

/-- A delivery keeps its driver once it is delivered. -/
theorem Step.driverOf (hstep : Step cfg Eq me call h site s s') (hI : Proven s) {r : Delivery}
    (hr : s.deliveries.find? d = some r) (hof : r.orderId = o) (hdelivered : r.status = .delivered) :
    s'.driverOf o = s.driverOf o := by
  have hs : r.Sound := hI.sound d r hr
  obtain ⟨r', hr', hmove⟩ := hstep.delivery_moved hr
  have hbefore : s.latestDelivery o = some r := hof ▸ hI.paired.latestDelivery hr
  have hafter : s'.latestDelivery o = some r' :=
    hof ▸ hmove.orderId ▸ (hstep.paired hI.paired).latestDelivery hr'
  rw [Db.driverOf, Db.driverOf, hbefore, hafter]
  exact (hmove.kept hs (hs.handedOver hdelivered)).driver

/-- **What stays of a credit.** -/
theorem Step.credited (hstep : Step cfg Eq me call h site s s') (hI : Dated s)
    (hsame : s'.credits o = s.credits o) (hcredited : Credited s o) : Credited s' o := by
  obtain ⟨row, τ, hrow, hstatus, hhanded, hcredits⟩ := hcredited
  obtain ⟨row', hrow', hmove⟩ := hstep.order_moved hrow
  obtain ⟨hstatus', hchoice⟩ := hmove.handed_stays hI.proven hrow hstatus hhanded
  refine ⟨row', τ, hrow', hstatus', hstep.handed hI hhanded, ?_⟩
  rw [hsame, hcredits, dueCredits_congr hmove.amounts hchoice]
  by_cases hdelivery : row.fulfillmentChoice = .delivery
  · obtain ⟨d, r, hr, hof, hdelivered⟩ := hhanded.delivery hrow hdelivery
    rw [hstep.driverOf hI.proven hr hof hdelivered]
  · rw [dueCredits_pickup hdelivery]

/-- No two deliveries belong to the same order. -/
def OneEach (s : Db) : Prop :=
  ∀ d d' r r', s.deliveries.find? d = some r → s.deliveries.find? d' = some r' →
    r.orderId = r'.orderId → d = d'

/-- The delivery whose driver is paid is the one that was delivered. -/
theorem OneEach.deliveredDelivery (hone : OneEach s) {r : Delivery} (hr : s.deliveries.find? d = some r)
    (hof : r.orderId = o) (hdelivered : r.status = .delivered) :
    Wallets.deliveredDelivery s o = some r := by
  have hfilter : (s.deliveries.rows.filter fun r' => r'.orderId = o && r'.status = .delivered) =
      s.deliveries.rows.filter fun r' => r'.id = d && r'.status = .delivered := by
    apply List.filter_congr
    intro r' hr'
    have hfound : s.deliveries.find? r'.id = some r' := Table.find?_of_mem hr'
    have hiff : r'.orderId = o ↔ r'.id = d := by
      constructor
      · intro hof'
        exact hone _ _ _ _ hfound hr (hof'.trans hof.symm)
      · rintro rfl
        rw [Option.some.inj (hfound.symm.trans hr), hof]
    rw [decide_eq_decide.mpr hiff]
  have hsingle : (s.deliveries.rows.filter fun r' => r'.id = d && r'.status = .delivered) = [r] := by
    have hkey := Table.filter_key s.deliveries d fun r' => r'.status = .delivered
    rw [hr, Option.filter_some, if_pos (decide_eq_true hdelivered)] at hkey
    exact hkey
  rw [Wallets.deliveredDelivery, hfilter, hsingle]
  rfl

theorem Paired.deliveredDelivery (hp : Paired s) {r : Delivery} (hr : s.deliveries.find? d = some r)
    (hof : r.orderId = o) (hdelivered : r.status = .delivered) :
    Wallets.deliveredDelivery s o = some r :=
  OneEach.deliveredDelivery hp.unique hr hof hdelivered

/-- The row that the credit pays is that of the driver who delivered. -/
theorem dueCredits_driver {τ : Time} (hI : Dated s) (hhanded : Handed o τ s)
    (hrow : s.orders.find? o = some row) :
    dueCredits row ((deliveredDelivery s o).bind Delivery.driverId) = dueCredits row (s.driverOf o) := by
  by_cases hchoice : row.fulfillmentChoice = .delivery
  · obtain ⟨d, r, hr, hof, hdelivered⟩ := hhanded.delivery hrow hchoice
    have hlatest : s.latestDelivery o = some r := hof ▸ hI.proven.paired.latestDelivery hr
    rw [hI.proven.paired.deliveredDelivery hr hof hdelivered, Db.driverOf, hlatest]
  · exact dueCredits_pickup hchoice _ _

/-! ## What stays of calling off -/

/-- A delivery that is over is neither picked up nor delivered any more. -/
theorem not_prePickup_of_over {status : DeliveryStatus} (hover : status = .cancelled ∨ status = .failed) :
    status ∉ prePickup ∧ status ∉ outForDelivery := by
  rcases hover with rfl | rfl
  · decide
  · decide

theorem OrderMove.called_off {r : Delivery} (hmove : OrderMove cfg call s o site row row')
    (hp : Paired s) (hstatus : row.status = .cancelled ∨ row.status = .refunded)
    (hr : s.deliveries.find? d = some r) (hof : r.orderId = o)
    (hover : r.status = .cancelled ∨ r.status = .failed) :
    row'.status = .cancelled ∨ row'.status = .refunded := by
  -- an order has one delivery, so what holds of this one holds of any
  have honly : ∀ d' r', s.deliveries.find? d' = some r' → r'.orderId = o →
      r'.status = .cancelled ∨ r'.status = .failed := by
    intro d' r' hr' hof'
    obtain rfl := hp.unique d d' r r' hr hr' (hof.trans hof'.symm)
    obtain rfl := Option.some.inj (hr.symm.trans hr')
    exact hover
  cases hmove with
  | stay => exact hstatus
  | savePaymentIntent pi => exact hstatus
  | saveRefund refund hcause => exact hstatus
  | refundDispute => exact .inr rfl
  | paymentFailed ev reason hfrom => exact .inl (by simp)
  | cancelNoDriver reason hfrom => exact .inl rfl
  | cancelSellerUnavailable hfrom => exact .inl rfl
  | sellerCannotProvide hfrom => exact .inl rfl
  | cancelAsSeller reason hfrom => exact .inl rfl
  | driverDisappeared d hfrom => exact .inl rfl
  | deliveredByDriver hfrom hchoice hdelivery =>
    obtain ⟨d', r', hr', hof', hdelivered⟩ := hdelivery
    rcases honly d' r' hr' hof' with h | h
    · cases hdelivered.symm.trans h
    · cases hdelivered.symm.trans h
  | confirmPickup hr' hof' hdriver hfrom =>
    exact absurd hfrom (not_prePickup_of_over (honly _ _ hr' hof')).1
  | confirmPayment hfrom hpaid => simp [hfrom] at hstatus
  | paymentSucceeded ev hfrom hgenuine => simp [hfrom] at hstatus
  | startPreparing hfrom => simp [hfrom] at hstatus
  | markReady hfrom => simp [hfrom] at hstatus
  | noDriverTimeout hfrom hchoice => simp [hfrom] at hstatus
  | switchToPickup hfrom => simp [hfrom] at hstatus
  | pickedUpByBuyer hfrom hchoice => simp [hfrom] at hstatus

theorem DeliveryMove.stays_over {r r' : Delivery} (hmove : DeliveryMove s d call site r r')
    (hover : r.status = .cancelled ∨ r.status = .failed) :
    r'.status = .cancelled ∨ r'.status = .failed := by
  cases hmove with
  | stay => exact hover
  | mintPickupToken token hnone => exact hover
  | mintDeliveryToken token hnone => exact hover
  | switchToPickup horder hstatus => exact .inl rfl
  | cancelNoDriver reason horder hstatus => exact .inl rfl
  | sellerCannotProvide horder hstatus hpickup => exact .inl rfl
  | driverDisappeared hpickup hopen hfrom => exact .inr rfl
  | reportSellerUnavailable hdriver hnot hfrom => exact .inl rfl
  | claim driver hfrom hfree => simp [hfrom] at hover
  | arriveAtPickup hfrom hdriver => simp [hfrom] at hover
  | confirmPickup token huser hdriver hnot hfrom htoken =>
    exact absurd hfrom (not_prePickup_of_over hover).1
  | confirmDelivery huser hdriver hopen hfrom htoken =>
    exact absurd hfrom (not_prePickup_of_over hover).2
  | confirmAbsentDropoff huser hdriver hopen hfrom hphoto hgps =>
    exact absurd hfrom (not_prePickup_of_over hover).2

/-- **What stays of calling off.** -/
theorem Step.called_off (hstep : Step cfg Eq me call h site s s') (hp : Paired s)
    (hoff : CalledOff s o) : CalledOff s' o := by
  obtain ⟨row, d, r, hrow, hstatus, hr, hof, hover⟩ := hoff
  obtain ⟨row', hrow', hmove⟩ := hstep.order_moved hrow
  obtain ⟨r', hr', hrmove⟩ := hstep.delivery_moved hr
  exact ⟨row', d, r', hrow', hmove.called_off hp hstatus hr hof hover, hr', hrmove.orderId.trans hof,
    hrmove.stays_over hover⟩

/-- An order that is abandoned is called off. -/
theorem Step.abandons (hstep : Step cfg Eq me call h site s s')
    (habandons : Abandons ⟨site, s, s'⟩ o) : CalledOff s' o := by
  obtain ⟨hsite, hbefore, hafter⟩ := habandons
  obtain ⟨row', hrow', hcancelled⟩ := Option.map_eq_some_iff.mp hafter
  have hmoved : s'.orders ≠ s.orders := by
    intro hsame
    exact hbefore (by rw [Db.orderStatus, ← hsame, ← Db.orderStatus]; exact hafter)
  rcases hsite with ⟨restores, rfl⟩ | ⟨d, rfl⟩
  · cases hstep with
    | noop => exact absurd rfl hmoved
    | aside haside => exact absurd haside.orders hmoved
    | cancelSellerUnavailable o hR hsaw hstatus hreported =>
      obtain ⟨d, r, hr, hof, hstatus⟩ := hreported.now
      exact ⟨row', d, r, hrow', .inl hcancelled, hr, hof, .inl hstatus⟩
  · cases hstep with
    | noop => exact absurd rfl hmoved
    | aside haside => exact absurd haside.orders hmoved
    | driverDisappeared d o hdelivery horder =>
      obtain ⟨_, r, rfl, hr, hof, -⟩ := hdelivery
      exact ⟨row', d, _, hrow', .inl hcancelled, Table.find?_update_of_eq hr, hof, .inr rfl⟩

/-! ## What a step does to the books -/

/-- The step that writes the credit of an order. -/
theorem Booking.credits (hbook : Booking cfg me call h (.creditCompleted o) s s') :
    ∃ row, s.orders.find? o = some row ∧
      (row.status = .delivered ∨ row.status = .completed ∨ row.status = .disputed) ∧ NoCredit h ∧
      s' = { s with
        walletEntries := (creditRows cfg me row (deliveredDelivery s o) s.now).foldl
          insertSkippingDuplicate s.walletEntries } := by
  cases hbook with
  | routine hsite => cases hsite
  | failed hsite => exact absurd rfl (hsite o)
  | handOver o' hsite hcall => simp at hsite
  | credit hrow hstatus hfirst => exact ⟨_, hrow, hstatus, hfirst, rfl⟩
  | compensate o' hsite habandoned => simp at hsite

/-- A compensation is written for an order that the call has abandoned. -/
theorem Booking.compensates (hbook : Booking cfg me call h site s s')
    (hsite : site = .compensateDriver o ∨ site = .creditSeller o ∨ site = .driverDebt o) :
    s' = s ∨ Abandoned o h := by
  cases hbook with
  | failed _ => exact .inl rfl
  | compensate o' hsite' habandoned =>
    have ho : o = o' := by
      rcases hsite with rfl | rfl | rfl
      · simpa using hsite'
      · simpa using hsite'
      · simpa using hsite'
    exact .inr (ho ▸ habandoned)
  | routine hroutine => rcases hsite with rfl | rfl | rfl <;> cases hroutine
  | handOver o' hsite' _ => rcases hsite with rfl | rfl | rfl <;> simp at hsite'
  | place _ _ => simp at hsite
  | credit _ _ _ => simp at hsite
  | settle _ _ _ _ => simp at hsite

/-- The entry that a withdrawal writes. -/
theorem Booking.settles {u : UserId} {w : WithdrawalId} {ids : List WalletEntryId} {e : WalletEntry}
    (hbook : Booking cfg me call h (.settle u w ids) s s') (he : e ∈ s'.walletEntries.rows) :
    (∃ e₀ ∈ s.walletEntries.rows, e₀.id = e.id) ∨ e.id = generateUlid me 12 := by
  cases hbook with
  | routine hsite => cases hsite
  | failed _ => exact .inl ⟨e, he, rfl⟩
  | handOver o' hsite hcall => simp at hsite
  | compensate o' hsite habandoned => simp at hsite
  | settle _ _ _ hids => exact hids e he

/-- New entries are the call's own, and only a credit has the identifiers of one. -/
theorem Step.entry_id (hstep : Step cfg Eq me call h site s s')
    (hbook : Booking cfg me call h site s s') {e : WalletEntry} (he : e ∈ s'.walletEntries.rows) :
    (∃ e₀ ∈ s.walletEntries.rows, e₀.id = e.id) ∨
      e.id.call = me ∧ (e.id ∈ creditIds me → ∃ o, site = .creditCompleted o) := by
  rcases hstep.entry_from he with ⟨e₀, he₀, hsame⟩ | hnew
  · exact .inl ⟨e₀, he₀, hsame.id.symm⟩
  · cases hnew with
    | credit row delivery now hrow =>
      obtain ⟨hid, -⟩ := mem_creditRows hrow
      refine .inr ⟨?_, fun _ => ⟨_, rfl⟩⟩
      simp only [creditIds, List.mem_cons, List.not_mem_nil, or_false] at hid
      rcases hid with hid | hid | hid
      · rw [hid, generateUlid]
      · rw [hid, generateUlid]
      · rw [hid, generateUlid]
    | compensation o hsite hid horder =>
      simp only [List.mem_cons, List.not_mem_nil, or_false] at hid
      refine .inr ?_
      rcases hid with hid | hid | hid
      · simp [hid, generateUlid, creditIds]
      · simp [hid, generateUlid, creditIds]
      · simp [hid, generateUlid, creditIds]
    | debit horder =>
      rcases hbook.settles he with hold | hid
      · exact .inl hold
      · exact .inr (by simp [hid, generateUlid, creditIds])

/-- Only some calls hand orders over. -/
theorem Step.handover_call (hstep : Step cfg Eq me call h site s s')
    (hbook : Booking cfg me call h site s s') (hbefore : s.orderStatus o ≠ some .delivered)
    (hafter : s'.orderStatus o = some .delivered) : call.handsOver = true := by
  obtain ⟨row', hrow', hdelivered⟩ := Option.map_eq_some_iff.mp hafter
  have hsite : site = .pickedUpByBuyer o ∨ site = .deliveredByDriver o := by
    rcases hstep.order_move hrow' with ⟨-, -, db, args, rfl⟩ | ⟨row, hrow, hmove⟩
    · cases hdelivered
    · have hnot : row.status ≠ .delivered := by
        intro hstatus
        exact hbefore (by rw [Db.orderStatus, hrow, Option.map_some, hstatus])
      exact (hmove.hands_over hnot hdelivered).imp And.left And.left
  cases hbook with
  | handOver o' hsite' hcall => exact hcall
  | failed _ => exact absurd hafter hbefore
  | routine hroutine => rcases hsite with rfl | rfl <;> cases hroutine
  | compensate o' hsite' _ => rcases hsite with rfl | rfl <;> simp at hsite'
  | place _ _ => simp at hsite
  | credit _ _ _ => simp at hsite
  | settle _ _ _ _ => simp at hsite

/-- The order that a step places was quoted. -/
theorem Step.placed (hstep : Step cfg Eq me call h site s s')
    (hbook : Booking cfg me call h site s s') (hnone : s.orders.find? o = none)
    (hrow' : s'.orders.find? o = some row') : ∃ db args, Quoted cfg args ∧ row' = newOrder db args := by
  have hid : row'.id = o := Table.key_of_find? hrow'
  have hinserts : Inserts ⟨site, s, s'⟩ row' := by
    rw [Inserts, hid]
    exact ⟨hnone, hrow'⟩
  rcases hstep.order_new hrow' with ⟨row, hrow⟩ | ⟨rfl, -⟩
  · cases hnone.symm.trans hrow
  cases hbook with
  | routine hsite => cases hsite
  | failed _ => cases hnone.symm.trans hrow'
  | place _ hquoted => exact hquoted row' hinserts
  | handOver o' hsite hcall => simp at hsite
  | compensate o' hsite habandoned => simp at hsite

/-! ## The ledger in order -/

/-- The ledger and the orders agree. -/
structure Audited (cfg : Config) (s : Db) : Prop where
  dated : Dated s
  priced : ∀ o row, s.orders.find? o = some row → row.Priced cfg
  unfinished : ∀ o row, s.orders.find? o = some row →
    row.status ≠ .completed ∧ row.status ≠ .disputed
  handed : ∀ o, s.orderStatus o = some .delivered → ∃ τ, Handed o τ s
  credits : ∀ o, s.credits o = [] ∨ Credited s o
  /-- only an order that was called off is made up for -/
  calledOff : ∀ e ∈ s.walletEntries.rows, ∀ o, e.orderId = some o → e.metadata ≠ none → CalledOff s o

/-- The same between two steps of a call that began in `s₀`. -/
structure Auditing (cfg : Config) (me : Nat) (call : Call) (s₀ : Db) (h : List (StepRecord machine))
    (s : Db) : Prop where
  audited : Audited cfg s
  known : ∀ e ∈ s.walletEntries.rows, e.id.call ≤ me
  unused : NoCredit h → ∀ e ∈ s.walletEntries.rows, e.id ∉ creditIds me
  abandoned : ∀ o, Abandoned o h → CalledOff s o
  written : ∀ t ∈ h, ∀ o, t.site = .creditCompleted o → Credited s o
  kept : ∀ o, Credited s₀ o → Credited s o
  own : ∀ o, s.orderStatus o = some .delivered →
    s₀.orderStatus o = some .delivered ∨ call.handsOver = true

/-- **The credit of an order is written whole, and once.** -/
theorem Auditing.credit {s₀ : Db} (hI : Auditing cfg me call s₀ h s)
    (hbook : Booking cfg me call h (.creditCompleted o) s s') : Credited s' o := by
  obtain ⟨row, hrow, hstatus, hfirst, rfl⟩ := hbook.credits
  have hid : row.id = o := Table.key_of_find? hrow
  have hdelivered : row.status = .delivered := by
    obtain ⟨hcompleted, hdisputed⟩ := hI.audited.unfinished o row hrow
    rcases hstatus with hstatus | hstatus | hstatus
    · exact hstatus
    · exact absurd hstatus hcompleted
    · exact absurd hstatus hdisputed
  have hnow : s.orderStatus o = some .delivered := by
    rw [Db.orderStatus, hrow, Option.map_some, hdelivered]
  obtain ⟨τ, hhanded⟩ := hI.audited.handed o hnow
  have hdue := dueCredits_driver hI.audited.dated hhanded hrow
  -- an order that is delivered was not called off, so nothing makes up for it
  have hplain : ∀ e ∈ s.walletEntries.rows, e.orderId = some row.id → e.metadata = none := by
    intro e he hof
    by_contra hmetadata
    obtain ⟨row', d, r, hrow', hoff, -⟩ := hI.audited.calledOff e he o (hid ▸ hof) hmetadata
    obtain rfl := Option.some.inj (hrow.symm.trans hrow')
    simp [hdelivered] at hoff
  have hbefore : s.credits row.id = [] ∨ s.credits row.id =
      (dueCredits row ((deliveredDelivery s o).bind Delivery.driverId)).reverse := by
    rw [hid]
    refine (hI.audited.credits o).imp_right ?_
    rintro ⟨row', τ', hrow', -, -, hcredits⟩
    obtain rfl := Option.some.inj (hrow.symm.trans hrow')
    rw [hcredits, hdue]
  have hafter := credits_written cfg s.now (hI.unused hfirst) hplain hbefore
  rw [hid, hdue] at hafter
  exact ⟨row, τ, hrow, by simp [hdelivered, handedOver], hhanded, hafter⟩

/-- Credits stay. -/
theorem Auditing.credited {s₀ : Db} (hI : Auditing cfg me call s₀ h s)
    (hstep : Step cfg Eq me call h site s s') (hbook : Booking cfg me call h site s s')
    (hcredited : Credited s o) : Credited s' o := by
  by_cases hsite : site = .creditCompleted o
  · subst hsite
    exact hI.credit hbook
  · exact hstep.credited hI.audited.dated (hstep.credits hsite) hcredited

theorem Auditing.audit {s₀ : Db} (hI : Auditing cfg me call s₀ h s)
    (hstep : Step cfg Eq me call h site s s') (hbook : Booking cfg me call h site s s') :
    Audited cfg s' where
  dated := hstep.dated hI.audited.dated
  priced o row' hrow' := by
    rcases hstep.order_move hrow' with ⟨hnone, -⟩ | ⟨row, hrow, hmove⟩
    · obtain ⟨db, args, hquoted, rfl⟩ := hstep.placed hbook hnone hrow'
      exact newOrder_priced hquoted
    · exact (hI.audited.priced o row hrow).of_amounts hmove.amounts
  unfinished o row' hrow' := by
    rcases hstep.order_move hrow' with ⟨-, -, db, args, rfl⟩ | ⟨row, hrow, hmove⟩
    · exact ⟨nofun, nofun⟩
    · exact hmove.unfinished (hI.audited.unfinished o row hrow)
  handed o hdelivered := by
    by_cases hbefore : s.orderStatus o = some .delivered
    · obtain ⟨τ, hhanded⟩ := hI.audited.handed o hbefore
      exact ⟨τ, hstep.handed hI.audited.dated hhanded⟩
    · exact ⟨_, hstep.hands_over hI.audited.dated hbefore hdelivered⟩
  credits o := by
    by_cases hsite : site = .creditCompleted o
    · subst hsite
      exact .inr (hI.credit hbook)
    · rw [hstep.credits hsite]
      exact (hI.audited.credits o).imp_right (hI.credited hstep hbook)
  calledOff e he o hof hmetadata := by
    have hpaired := hI.audited.dated.proven.paired
    rcases hstep.entry_from he with ⟨e₀, he₀, hsame⟩ | hnew
    · exact hstep.called_off hpaired (hI.audited.calledOff e₀ he₀ o (hsame.orderId ▸ hof)
        (hsame.metadata ▸ hmetadata))
    · cases hnew with
      | credit row delivery now hrow => exact absurd (mem_creditRows hrow).2 hmetadata
      | compensation o' hsite hid horder =>
        obtain rfl := Option.some.inj (horder.symm.trans hof)
        rcases hbook.compensates hsite with rfl | habandoned
        · exact hI.audited.calledOff e he _ hof hmetadata
        · exact hstep.called_off hpaired (hI.abandoned _ habandoned)
      | debit horder => cases horder.symm.trans hof

/-- **Every step keeps the ledger in order.** -/
theorem Auditing.step {s₀ : Db} (hI : Auditing cfg me call s₀ h s)
    (hstep : Step cfg Eq me call h site s s') (hbook : Booking cfg me call h site s s') :
    Auditing cfg me call s₀ (⟨site, s, s'⟩ :: h) s' where
  audited := hI.audit hstep hbook
  known e he := by
    rcases hstep.entry_id hbook he with ⟨e₀, he₀, hid⟩ | ⟨hid, -⟩
    · exact hid ▸ hI.known e₀ he₀
    · exact hid.le
  unused hfirst e he hid := by
    rcases hstep.entry_id hbook he with ⟨e₀, he₀, hsame⟩ | ⟨-, hcredit⟩
    · exact hI.unused (fun t ht => hfirst t (List.mem_cons_of_mem _ ht)) e₀ he₀ (hsame ▸ hid)
    · obtain ⟨o, hsite⟩ := hcredit hid
      exact hfirst _ (List.mem_cons_self ..) o hsite
  -- abandoned by this step or by an earlier one; called off stays called off
  abandoned o := by
    rintro ⟨t, ht, habandons⟩
    rcases List.mem_cons.mp ht with rfl | ht
    · exact hstep.abandons habandons
    · exact hstep.called_off hI.audited.dated.proven.paired (hI.abandoned o ⟨t, ht, habandons⟩)
  written t ht o hsite := by
    rcases List.mem_cons.mp ht with rfl | ht
    · dsimp only at hsite
      subst hsite
      exact hI.credit hbook
    · exact hI.credited hstep hbook (hI.written t ht o hsite)
  kept o hcredited := hI.credited hstep hbook (hI.kept o hcredited)
  own o hdelivered := by
    by_cases hbefore : s.orderStatus o = some .delivered
    · exact hI.own o hbefore
    · exact .inr (hstep.handover_call hbook hbefore hdelivered)

/-- The ledger between calls: it is in order, and every delivered order is credited. -/
structure Reconciled (cfg : Config) (n : Nat) (s : Db) : Prop where
  audited : Audited cfg s
  known : ∀ e ∈ s.walletEntries.rows, e.id.call < n
  delivered : ∀ o, s.orderStatus o = some .delivered → Credited s o

theorem Reconciled.of_fresh (h0 : Fresh s) : Reconciled cfg 0 s := by
  have horders : ∀ o, s.orders.find? o = none := fun o => by simp [Table.find?, h0.orders]
  have hstatus : ∀ o, s.orderStatus o = none := fun o => by rw [Db.orderStatus, horders, Option.map_none]
  have hentries : ∀ e, e ∉ s.walletEntries.rows := fun e => by simp [h0.walletEntries]
  refine ⟨⟨.of_fresh h0, fun o row hrow => ?_, fun o row hrow => ?_, fun o hdelivered => ?_,
    fun o => .inl ?_, fun e he => absurd he (hentries e)⟩, fun e he => absurd he (hentries e),
    fun o hdelivered => ?_⟩
  · cases (horders o).symm.trans hrow
  · cases (horders o).symm.trans hrow
  · cases (hstatus o).symm.trans hdelivered
  · rw [Db.credits, h0.walletEntries, List.filterMap_nil]
  · cases (hstatus o).symm.trans hdelivered

theorem Audited.event (hI : Audited cfg s) (e : Event) : Audited cfg (applyEvent e s) := by
  obtain ⟨hdated, hpriced, hunfinished, hhanded, hcredits, hoff⟩ := hI
  cases e with
  | tick ms => exact ⟨hdated.event (.tick ms), hpriced, hunfinished, hhanded, hcredits, hoff⟩
  | paymentSucceeds pi =>
    exact ⟨hdated.event (.paymentSucceeds pi), hpriced, hunfinished, hhanded, hcredits, hoff⟩

theorem Credited.event (hcredited : Credited s o) (e : Event) : Credited (applyEvent e s) o := by
  cases e with
  | tick ms => exact hcredited
  | paymentSucceeds pi => exact hcredited

theorem Reconciled.event {n : Nat} (hI : Reconciled cfg n s) (e : Event) :
    Reconciled cfg n (applyEvent e s) := by
  obtain ⟨haudited, hknown, hdelivered⟩ := hI
  cases e with
  | tick ms => exact ⟨haudited.event (.tick ms), hknown, hdelivered⟩
  | paymentSucceeds pi => exact ⟨haudited.event (.paymentSucceeds pi), hknown, hdelivered⟩

/-- What the platform takes on an order is positive. -/
theorem Order.Priced.commission_pos (hpriced : row.Priced cfg) : 0 < row.commissionCents := by
  obtain ⟨isPremium, hcommission⟩ := hpriced.commission
  rw [hcommission]
  exact (by decide : (0 : Int) < commissionMinCents).trans_le (le_max_right _ _)

/-- The ledger during a call, and after it. -/
theorem call_auditing (w : Nat → Answer) (hadm : admits call s = true) (hI : Reconciled cfg me s) :
    let out := (handle cfg me call).exec w s
    Auditing cfg me call s out.steps.reverse out.state := by
  have hsteps : Sat (stepContract cfg Eq me call) anyPost (handle cfg me call) [] s :=
    handle_sat (fun _ _ _ hab hbc => hab.trans hbc) call hadm
  have hbooks : Sat (bookingContract cfg me call) anyPost (handle cfg me call) [] s :=
    handle_booking call
  have hstart : Auditing cfg me call s [] s := by
    refine ⟨hI.audited, fun e he => (hI.known e he).le, fun _ e he hid => ?_, ?_, ?_, fun _ hc => hc,
      fun _ hdelivered => .inl hdelivered⟩
    · have hcall : e.id.call = me := by
        simp only [creditIds, List.mem_cons, List.not_mem_nil, or_false] at hid
        rcases hid with hid | hid | hid
        · rw [hid, generateUlid]
        · rw [hid, generateUlid]
        · rw [hid, generateUlid]
      -- ids are made of the call's number, and this call is the newest
      exact absurd (hI.known e he) (by omega)
    · rintro o ⟨t, ht, -⟩
      cases ht
    · exact fun t ht => absurd ht List.not_mem_nil
  have hkeep := (hsteps.and hbooks).keep (I := fun h s' => Auditing cfg me call s h s')
    (fun _ _ _ hsame hI => hsame.1 ▸ hI) (fun _ _ _ _ hI hg => hI.step hg.1 hg.2) hstart
  have hend := (Sat.exec (fun _ => And.intro rfl rfl) hkeep w).2.2
  rwa [List.append_nil] at hend

/-- **After every call the ledger is in order.** -/
theorem call_audited (w : Nat → Answer) (hadm : admits call s = true) (hI : Reconciled cfg me s) :
    Reconciled cfg (me + 1) ((handle cfg me call).exec w s).state := by
  have hend := call_auditing w hadm hI
  refine ⟨hend.audited, fun e he => Nat.lt_succ_of_le (hend.known e he), fun o hdelivered => ?_⟩
  rcases hend.own o hdelivered with hbefore | hcall
  · exact hend.kept o (hI.delivered o hbefore)
  · have hpaid : ∀ o row, s.orders.find? o = some row → 0 < row.commissionCents :=
      fun o row hrow => (hI.audited.priced o row hrow).commission_pos
    have hsat : Sat aloneContract (CreditsHandovers Reply s) (handle cfg me call) [] s :=
      handle_credits hcall hpaid
    have hcredits := (hsat.exec (fun _ => rfl) w).2
    rcases hcredits o hdelivered with hbefore | ⟨t, ht, hsite⟩
    · exact hend.kept o (hI.delivered o hbefore)
    · rw [List.append_nil] at ht
      exact hend.written t ht o hsite

/-- **After every serial run the ledger is in order.** -/
theorem serialRun_reconciled {s₀ : Db} (h0 : Fresh s₀) (inputs : List (Input (service cfg))) :
    Reconciled cfg (serialRun s₀ inputs).calls.length (serialRun s₀ inputs).state :=
  serial_invariant (P := fun _ _ => True)
    (I := fun (s : Db) (calls : List (CallRecord (service cfg))) => Reconciled cfg calls.length s)
    (.of_fresh h0) (fun e _ _ hI => hI.event e) (fun _ w _ _ hI hadm _ => call_audited w hadm hI) inputs
    fun _ _ _ _ => trivial

/-! ## What was paid -/

/-- The credits of an order, against what its buyer paid: never more; and what a driver
delivers is credited with all of it but the platform's fee. -/
def CreditsPayment (cfg : Config) (s : Db) (o : OrderId) (row : Order) : Prop :=
  s.creditedCents o ≤ row.buyerTotalCents ∧
    (row.fulfillmentChoice = .delivery → s.driverOf o ≠ none →
      s.creditedCents o = row.buyerTotalCents -
        platformFeeOn cfg row.fulfillmentFeeCents row.subtotalCents)

/-- A row of zero or less is no loss, unless it is less. -/
theorem sum_positive (u : Beneficiary) (type : WalletEntryType) (amount : Cents) :
    ((if amount > 0 then [(⟨u, type, amount⟩ : Credit)] else []).map Credit.amountCents).sum =
      max amount 0 := by
  split
  · rename_i hpos
    simp [max_eq_left hpos.le]
  · rename_i hneg
    simp [max_eq_right (not_lt.mp hneg)]

/-- What is due for an order in all. -/
theorem dueCredits_sum (driver : Option UserId)
    (hdriver : row.fulfillmentChoice = .delivery → driver.isSome = true) :
    ((dueCredits row driver).map Credit.amountCents).sum =
      max row.sellerEarningsCents 0 + max row.commissionCents 0 +
        if row.fulfillmentChoice = .delivery then max row.fulfillmentFeeCents 0 else 0 := by
  unfold dueCredits
  rw [List.map_append, List.map_append, List.sum_append, List.sum_append, sum_positive, sum_positive]
  congr 1
  by_cases hchoice : row.fulfillmentChoice = .delivery
  · obtain ⟨u, rfl⟩ := Option.isSome_iff_exists.mp (hdriver hchoice)
    simp only [hchoice, true_and, if_true]
    exact sum_positive _ _ _
  · rw [if_neg hchoice]
    cases driver with
    | none => rfl
    | some driver => simp [hchoice]

/-- The split, as a matter of arithmetic: the part of the seller is dropped where it is
negative, which is where the dishes do not cover the floor. -/
theorem split_covers {subtotal fee commission platform floor : Int} (hfloor : 0 ≤ floor) (hfee : 0 ≤ fee)
    (hsmall : subtotal ≤ floor → commission = floor) (hlarge : floor ≤ subtotal → commission ≤ subtotal)
    (hcommission : floor ≤ commission) (hplatform : 0 ≤ subtotal + fee → 0 ≤ platform) :
    (max (subtotal - commission) 0 + max commission 0 ≤ subtotal + fee + platform ↔
      floor ≤ subtotal ∨ floor ≤ subtotal + fee + platform) ∧
    (max (subtotal - commission) 0 + max commission 0 + max fee 0 =
      subtotal + fee + platform - platform ↔ floor ≤ subtotal) ∧
    (floor ≤ subtotal → max (subtotal - commission) 0 + max commission 0 + max fee 0 ≤
      subtotal + fee + platform) := by
  rcases Int.le_total subtotal floor with hle | hle
  · have hc := hsmall hle
    refine ⟨?_, ?_, ?_⟩ <;> omega
  · have hc := hlarge hle
    have hp : 0 ≤ platform := hplatform (by omega)
    refine ⟨?_, ?_, ?_⟩ <;> omega

/-- **When the credits keep to the payment**, read off one order. -/
theorem Credited.payment_iff (hI : Audited cfg s) (hcredited : Credited s o)
    (hrow : s.orders.find? o = some row) :
    CreditsPayment cfg s o row ↔ commissionMinCents ≤ row.subtotalCents ∨
      row.fulfillmentChoice = .pickup ∧ commissionMinCents ≤ row.buyerTotalCents := by
  obtain ⟨row', τ, hrow', -, hhanded, hcredits⟩ := hcredited
  obtain rfl := Option.some.inj (hrow.symm.trans hrow')
  obtain ⟨hfee, ⟨isPremium, hcommission⟩, hearnings, htotal⟩ := hI.priced o row hrow
  -- who delivered it had been assigned to it
  have hdriver : row.fulfillmentChoice = .delivery → (s.driverOf o).isSome = true := by
    intro hchoice
    obtain ⟨d, r, hr, hof, hdelivered⟩ := hhanded.delivery hrow hchoice
    have hs : r.Sound := hI.dated.proven.sound d r hr
    have hlatest : s.latestDelivery o = some r := hof ▸ hI.dated.proven.paired.latestDelivery hr
    rw [Db.driverOf, hlatest]
    exact hs.driver (hs.handedOver hdelivered)
  have hsum : s.creditedCents o = max row.sellerEarningsCents 0 + max row.commissionCents 0 +
      if row.fulfillmentChoice = .delivery then max row.fulfillmentFeeCents 0 else 0 := by
    rw [Db.creditedCents, hcredits, List.map_reverse, List.sum_reverse, dueCredits_sum _ hdriver]
  have hplatform : 0 ≤ row.subtotalCents + row.fulfillmentFeeCents →
      0 ≤ platformFeeOn cfg row.fulfillmentFeeCents row.subtotalCents := fun hpos =>
    mathRound_nonneg (Int.mul_nonneg hpos (Int.natCast_nonneg _)) (by decide)
  have hfloor : commissionMinCents ≤ row.commissionCents := by
    rw [hcommission]
    exact le_max_right _ _
  obtain ⟨hpickup, hequal, hbelow⟩ := split_covers (by decide : 0 ≤ commissionMinCents) hfee
    (fun hle => hcommission.trans (commissionOn_floor isPremium hle))
    (fun hle => hcommission.trans_le (commissionOn_le isPremium hle)) hfloor hplatform
  rw [CreditsPayment, hsum, hearnings, htotal]
  cases hchoice : row.fulfillmentChoice with
  | pickup =>
    rw [if_neg nofun, add_zero, hpickup]
    simp
  | delivery =>
    obtain ⟨driver, hassigned⟩ := Option.isSome_iff_exists.mp (hdriver hchoice)
    rw [if_pos rfl, hequal, hassigned]
    constructor
    · intro h
      exact .inl (h.2 rfl nofun)
    · rintro (hle | ⟨hpickup, -⟩)
      · exact ⟨hbelow hle, fun _ _ => hle⟩
      · cases hpickup

end

/-- **Credits and payments.** When calls run one at a time, the orders that were handed
over and whose credits keep to the payment are exactly those whose dishes cover the
commission's floor, and those that are picked up for a total that does. -/
theorem credited_payment_iff (cfg : Config) (s₀ : Db) (h0 : Fresh s₀)
    (early late : List (Input (service cfg))) (o : OrderId)
    (hdone : (serialRun s₀ early).state.orderStatus o = some .delivered) (row : Order)
    (hrow : (serialRun s₀ (early ++ late)).state.orders.find? o = some row) :
    CreditsPayment cfg (serialRun s₀ (early ++ late)).state o row ↔
      commissionMinCents ≤ row.subtotalCents ∨
        row.fulfillmentChoice = .pickup ∧ commissionMinCents ≤ row.buyerTotalCents := by
  have hstart : Reconciled cfg (serialRun s₀ early).calls.length (serialRun s₀ early).state :=
    serialRun_reconciled h0 early
  -- credited once, in the first half; the second half keeps it so
  have hend : Audited cfg (serialRun s₀ (early ++ late)).state ∧
      Credited (serialRun s₀ (early ++ late)).state o := by
    rw [serialRun_append]
    have hI := serial_invariant (P := fun _ _ => True) (r := serialRun s₀ early)
      (I := fun (s : Db) (calls : List (CallRecord (service cfg))) =>
        Reconciled cfg calls.length s ∧ Credited s o)
      ⟨hstart, hstart.delivered o hdone⟩ (fun e s calls hI => ⟨hI.1.event e, hI.2.event e⟩)
      (fun call w s calls hI hadm _ => ⟨call_audited w hadm hI.1,
        (call_auditing w hadm hI.1).kept o hI.2⟩) late fun _ _ _ _ => trivial
    exact ⟨hI.1.audited, hI.2⟩
  exact hend.2.payment_iff hend.1 hrow

/-- The buyer claims a delivered order to be the wrong one. -/
def claimedAsWrong : List (Input (service smallTownConfig)) :=
  [smallTownCall (.createDispute "buyer" ⟨0, 0⟩ ⟨.wrongOrder, none, none, none⟩)]

theorem wrongOrder_credits : ∃ row,
    (serialRun smallTown (orderDelivered ++ claimedAsWrong)).state.orders.find? ⟨0, 0⟩ = some row ∧
      row.status = .refunded ∧ row.fulfillmentChoice = .delivery ∧
      CreditsPayment smallTownConfig (serialRun smallTown (orderDelivered ++ claimedAsWrong)).state
        ⟨0, 0⟩ row := by
  have hlook : ((serialRun smallTown (orderDelivered ++ claimedAsWrong)).state.orders.find? ⟨0, 0⟩).any
      (fun row => row.status = .refunded && row.fulfillmentChoice = .delivery &&
        decide (commissionMinCents ≤ row.subtotalCents)) = true := by
    decide +kernel
  obtain ⟨row, hrow, hfacts⟩ := (Option.any_eq_true _ _).mp hlook
  simp only [Bool.and_eq_true, decide_eq_true_eq] at hfacts
  obtain ⟨⟨hstatus, hchoice⟩, hcovers⟩ := hfacts
  have hiff := credited_payment_iff smallTownConfig smallTown smallTown_fresh orderDelivered
    claimedAsWrong ⟨0, 0⟩ (by decide +kernel) row hrow
  exact ⟨row, hrow, hstatus, hchoice, hiff.mpr (.inl hcovers)⟩

/-- **Credited with more than was paid**: a biscuit of 50 cents is ordered for 368, with its delivery
and both fees, and delivered. The platform books its whole commission of one euro, and the driver
the delivery. -/
theorem biscuit_overcredited :
    (serialRun snackTown orderDelivered).state.orderStatus ⟨0, 0⟩ = some .delivered ∧
      (serialRun snackTown orderDelivered).state.creditedCents ⟨0, 0⟩ = 400 ∧
      ∃ row, (serialRun snackTown orderDelivered).state.orders.find? ⟨0, 0⟩ = some row ∧
        row.buyerTotalCents = 368 ∧
        ¬CreditsPayment smallTownConfig (serialRun snackTown orderDelivered).state ⟨0, 0⟩ row := by
  have hlook : ((serialRun snackTown orderDelivered).state.orders.find? ⟨0, 0⟩).any
      (fun row => row.buyerTotalCents = 368) = true := by
    decide +kernel
  have hcredited : (serialRun snackTown orderDelivered).state.creditedCents ⟨0, 0⟩ = 400 := by
    decide +kernel
  obtain ⟨row, hrow, htotal⟩ := (Option.any_eq_true _ _).mp hlook
  have htotal := of_decide_eq_true htotal
  refine ⟨by decide +kernel, hcredited, row, hrow, htotal, fun hpays => ?_⟩
  have hle := hpays.1
  rw [hcredited, htotal] at hle
  exact absurd hle (by decide)

end IncaCook
