import IncaCook.Properties.CreditedOrders
import IncaCook.Properties.DriverDisappeared

/-!
# Deliveries at the last minute

A delivery on the road ends in one of two ways: its driver confirms it, and is paid, or
the watchdog gives up on him, refunds the buyer and charges him. Both read the delivery
first, and write it later whatever it has become; so a driver who scans the buyer's code
while the watchdog is at work is charged for an order that he delivered, and loses what
he has earned with it.

The calls that end deliveries start from any state that calls made one at a time lead to,
and interleave with each other.

Main results:

* `RoadStep.onward`: what every step of these calls leaves to the others;
* `delivered_or_disappeared`: the drivers who deliver are spared, and paid, if and only if
  every delivery is ended once.
-/

namespace IncaCook

open Prog Orders Deliveries Wallets

/-! ## The calls as a service -/

/-- The calls that end a delivery on the road. -/
def Call.endsDelivery : Call → Bool
  | .confirmDelivery .. | .confirmAbsentDropoff .. | .handleDriverDeliveryTimeout .. => true
  | _ => false

/-- Those calls, any number of them, after `n` calls of any kind. -/
def roadService (cfg : Config) (n : Nat) : Service machine where
  Call := Call
  Reply := Reply
  Event := Event
  handle j := handle cfg (n + j)
  admits call _ := call.endsDelivery
  event := applyEvent

/-- The statements that end a delivery on the road. -/
def Site.endsDelivery : Site → Bool
  | .confirmDelivery .. | .confirmAbsentDropoff .. | .driverDisappeared .. => true
  | _ => false

/-- The watchdog fails a delivery that is not confirmed, and the driver confirms one that
has not failed. -/
def EndsOnce : Site → Db → Prop
  | .driverDisappeared d _, s => (s.deliveries.find? d).all fun r => r.deliveredConfirmedAt.isNone
  | .confirmDelivery d _, s => (s.deliveries.find? d).all fun r => r.status ≠ .failed
  | .confirmAbsentDropoff d _, s => (s.deliveries.find? d).all fun r => r.status ≠ .failed
  | _, _ => True

instance (site : Site) (s : Db) : Decidable (EndsOnce site s) := by
  unfold EndsOnce
  split
  · infer_instance
  · infer_instance
  · infer_instance
  · infer_instance

/-! ## Who is paid and who is charged -/

/-- The user has an entry of the type for the order. -/
def Db.entered (s : Db) (o : OrderId) (u : UserId) (type : WalletEntryType) : Prop :=
  ∃ e ∈ s.walletEntries.rows, e.orderId = some o ∧ e.userId = .user u ∧ e.type = type

/-- The same, and the entry is not cancelled. -/
def Db.earns (s : Db) (o : OrderId) (u : UserId) (type : WalletEntryType) : Prop :=
  ∃ e ∈ s.walletEntries.rows, e.orderId = some o ∧ e.userId = .user u ∧ e.type = type ∧
    e.status ≠ .cancelled

/-- No driver is charged for an order that he delivered. -/
def DriversSpared (s : Db) : Prop :=
  ∀ r ∈ s.deliveries.rows, r.deliveredConfirmedAt.isSome = true → ∀ driver ∈ r.driverId,
    ¬s.entered r.orderId driver .driverDebt

instance (s : Db) (o : OrderId) (u : UserId) (type : WalletEntryType) :
    Decidable (s.entered o u type) := inferInstanceAs (Decidable (∃ e ∈ s.walletEntries.rows, _))

instance (s : Db) (o : OrderId) (u : UserId) (type : WalletEntryType) :
    Decidable (s.earns o u type) := inferInstanceAs (Decidable (∃ e ∈ s.walletEntries.rows, _))

instance (s : Db) : Decidable (DriversSpared s) :=
  inferInstanceAs (Decidable (∀ r ∈ s.deliveries.rows, _))

/-- The seller and the driver of a delivery are paid, where there is something to pay. -/
def PartiesPaid (s : Db) (r : Delivery) : Prop :=
  ∃ row driver, s.orders.find? r.orderId = some row ∧ r.driverId = some driver ∧
    (0 < row.sellerEarningsCents → s.earns row.id row.sellerId .orderEarning) ∧
    (0 < row.fulfillmentFeeCents → s.earns row.id driver .deliveryEarning)

/-- What was confirmed between `s` and `s'` is paid for. -/
def PaysConfirmed (s s' : Db) : Prop :=
  ∀ d r r', s.deliveries.find? d = some r → r.deliveredConfirmedAt = none →
    s'.deliveries.find? d = some r' → r'.deliveredConfirmedAt.isSome = true → PartiesPaid s' r'

/-! ## What the calls leave to each other -/

/-- A delivery of the order was delivered. -/
def Db.hasDelivered (s : Db) (o : OrderId) : Prop :=
  ∃ d r, s.deliveries.find? d = some r ∧ r.orderId = o ∧ r.status = .delivered

/-- A delivery of the order was failed or cancelled. -/
def Db.undelivered (s : Db) (o : OrderId) : Prop :=
  ∃ d r, s.deliveries.find? d = some r ∧ r.orderId = o ∧ (r.status = .failed ∨ r.status = .cancelled)

/-- The statuses of a delivery that has ended. -/
def ended : List DeliveryStatus := [.delivered, .failed, .cancelled]

/-- The same delivery, later; where deliveries end once, it stays as it has ended. -/
structure Later (once : Prop) (r r' : Delivery) : Prop where
  orderId : r'.orderId = r.orderId
  driverId : r'.driverId = r.driverId
  confirmed : r.deliveredConfirmedAt.isSome = true → r'.deliveredConfirmedAt.isSome = true
  cancelled : r'.status = .cancelled → r.status = .cancelled
  road : r'.status ∈ outForDelivery → r.status ∈ outForDelivery
  ended : once → r.status ∈ ended → r'.status = r.status

/-- The same order, later. -/
structure SameSale (row row' : Order) : Prop where
  amounts : row'.amounts = row.amounts
  choice : row'.fulfillmentChoice = row.fulfillmentChoice

/-- The same entry, later. -/
structure SameClaim (e e' : WalletEntry) : Prop where
  orderId : e'.orderId = e.orderId
  userId : e'.userId = e.userId
  type : e'.type = e.type

/-- What call `me` may rely on between its steps; `once` says whether the deliveries end once. -/
structure Onward (once : Prop) (me : Nat) (s s' : Db) : Prop where
  deliveries : s.deliveries.Carries (Later once) s'.deliveries
  known : ∀ r' ∈ s'.deliveries.rows, ∃ r ∈ s.deliveries.rows, r.id = r'.id
  orders : s.orders.Carries SameSale s'.orders
  delivered : once → ∀ o, s.hasDelivered o → s.orderStatus o = some .delivered →
    s'.orderStatus o = some .delivered
  entries : s.walletEntries.Carries SameClaim s'.walletEntries
  /-- nobody else uses its identifiers -/
  own : ∀ e ∈ s'.walletEntries.rows, e.id.call = me → ∃ e₀ ∈ s.walletEntries.rows, e₀.id = e.id

section

variable {once : Prop} {cfg : Config} {me other : Nat} {site : Site} {s₀ s s' s'' : Db} {o : OrderId}
  {u : UserId} {type : WalletEntryType} {d : DeliveryId} {h : List (StepRecord machine)}

theorem Later.refl (r : Delivery) : Later once r r :=
  ⟨rfl, rfl, fun hc => hc, fun hc => hc, fun hr => hr, fun _ _ => rfl⟩

theorem Later.trans {a b c : Delivery} (hab : Later once a b) (hbc : Later once b c) : Later once a c where
  orderId := hbc.orderId.trans hab.orderId
  driverId := hbc.driverId.trans hab.driverId
  confirmed hc := hbc.confirmed (hab.confirmed hc)
  cancelled hc := hab.cancelled (hbc.cancelled hc)
  road hr := hab.road (hbc.road hr)
  ended honce hended := by
    have hsame := hab.ended honce hended
    exact (hbc.ended honce (hsame ▸ hended)).trans hsame

theorem SameSale.refl (row : Order) : SameSale row row := ⟨rfl, rfl⟩

theorem SameSale.trans {a b c : Order} (hab : SameSale a b) (hbc : SameSale b c) : SameSale a c :=
  ⟨hbc.amounts.trans hab.amounts, hbc.choice.trans hab.choice⟩

/-- Its seller and its prices are among the amounts. -/
theorem SameSale.prices {row row' : Order} (hsame : SameSale row row') : row'.sellerId = row.sellerId ∧
    row'.fulfillmentFeeCents = row.fulfillmentFeeCents ∧
    row'.sellerEarningsCents = row.sellerEarningsCents ∧ row'.buyerTotalCents = row.buyerTotalCents := by
  have hamounts := hsame.amounts
  simp only [Order.amounts, Prod.mk.injEq] at hamounts
  obtain ⟨-, hwho, -, hfee, -, hearnings, htotal⟩ := hamounts
  exact ⟨hwho, hfee, hearnings, htotal⟩

theorem SameClaim.refl (e : WalletEntry) : SameClaim e e := ⟨rfl, rfl, rfl⟩

theorem SameClaim.trans {a b c : WalletEntry} (hab : SameClaim a b) (hbc : SameClaim b c) : SameClaim a c :=
  ⟨hbc.orderId.trans hab.orderId, hbc.userId.trans hab.userId, hbc.type.trans hab.type⟩

theorem Onward.of_eq (hdeliveries : s'.deliveries = s.deliveries) (horders : s'.orders = s.orders)
    (hentries : s'.walletEntries = s.walletEntries) : Onward once me s s' where
  deliveries := hdeliveries ▸ .refl Later.refl _
  known r hr := ⟨r, hdeliveries ▸ hr, rfl⟩
  orders := horders ▸ .refl SameSale.refl _
  delivered _ o _ hstatus := by
    rw [Db.orderStatus, horders]
    exact hstatus
  entries := hentries ▸ .refl SameClaim.refl _
  own e he _ := ⟨e, hentries ▸ he, rfl⟩

theorem Onward.refl (s : Db) : Onward once me s s := .of_eq rfl rfl rfl

/-- Every delivery was there before. -/
theorem Onward.back {r' : Delivery} (hR : Onward once me s s') (hr' : s'.deliveries.find? d = some r') :
    ∃ r, s.deliveries.find? d = some r ∧ Later once r r' :=
  hR.deliveries.back hR.known hr'

/-- An order that was delivered stays so. -/
theorem Onward.hasDelivered (hR : Onward once me s s') (honce : once) (hdelivered : s.hasDelivered o) :
    s'.hasDelivered o := by
  obtain ⟨d, r, hr, hof, hstatus⟩ := hdelivered
  obtain ⟨r', hr', hlater⟩ := hR.deliveries.find? hr
  exact ⟨d, r', hr', hlater.orderId.trans hof, (hlater.ended honce (by simp [hstatus, ended])).trans hstatus⟩

/-- And so does one that was not. -/
theorem Onward.undelivered (hR : Onward once me s s') (honce : once) (hover : s.undelivered o) :
    s'.undelivered o := by
  obtain ⟨d, r, hr, hof, hstatus⟩ := hover
  obtain ⟨r', hr', hlater⟩ := hR.deliveries.find? hr
  have hsame : r'.status = r.status := hlater.ended honce (by rcases hstatus with h | h <;> simp [h, ended])
  exact ⟨d, r', hr', hlater.orderId.trans hof, hsame ▸ hstatus⟩

theorem Onward.entered (hR : Onward once me s s') (hentered : s.entered o u type) : s'.entered o u type := by
  obtain ⟨e, he, hof, hu, htype⟩ := hentered
  obtain ⟨e', he', hsame⟩ := hR.entries e he
  exact ⟨e', Table.mem_of_find? he', hsame.orderId.trans hof, hsame.userId.trans hu, hsame.type.trans htype⟩

theorem Onward.trans (hab : Onward once me s s') (hbc : Onward once me s' s'') : Onward once me s s'' where
  deliveries := .trans (fun _ _ _ h h' => h.trans h') hab.deliveries hbc.deliveries
  known r'' hr'' := by
    obtain ⟨r', hr', hid'⟩ := hbc.known r'' hr''
    obtain ⟨r, hr, hid⟩ := hab.known r' hr'
    exact ⟨r, hr, hid.trans hid'⟩
  orders := .trans (fun _ _ _ h h' => h.trans h') hab.orders hbc.orders
  delivered honce o hdelivered hstatus :=
    hbc.delivered honce o (hab.hasDelivered honce hdelivered) (hab.delivered honce o hdelivered hstatus)
  entries := .trans (fun _ _ _ h h' => h.trans h') hab.entries hbc.entries
  own e he hme := by
    obtain ⟨e₁, he₁, hid₁⟩ := hbc.own e he hme
    obtain ⟨e₀, he₀, hid₀⟩ := hab.own e₁ he₁ (hid₁ ▸ hme)
    exact ⟨e₀, he₀, hid₀.trans hid₁⟩

end

/-! ## What the calls write -/

/-- The row as one of the driver's two confirmations leaves it. -/
structure MarksDelivered (f : Delivery → Delivery) : Prop where
  orderId : ∀ r, (f r).orderId = r.orderId
  driverId : ∀ r, (f r).driverId = r.driverId
  status : ∀ r, (f r).status = .delivered
  confirmed : ∀ r, (f r).deliveredConfirmedAt.isSome = true

/-- The watchdog's transaction, executed. -/
def Db.disappeared (s : Db) (d : DeliveryId) (o : OrderId) : Db := { s with
  deliveries := s.deliveries.update d fun r =>
    { r with status := .failed, failedAt := some s.now, failureReason := some .driverDisappeared }
  orders := s.orders.update o (Orders.Order.cancel s.now .driverDisappeared) }

theorem disappeared_of_ok {s s' : Db} {d : DeliveryId} {o : OrderId} {u : Unit}
    (hrun : driverDisappearedTx o d s = .ok (u, s')) : s' = s.disappeared d o := by
  simp only [driverDisappearedTx, Stmt.bind_ok, Stmt.get_ok, updateDelivery_ok, updateOrder_ok] at hrun
  obtain ⟨_, _, ⟨rfl, rfl⟩, _, _, ⟨-, rfl⟩, -, rfl⟩ := hrun
  rfl

/-- All that the calls write, in a run from `s₀`. -/
inductive RoadStep (once : Prop) (s₀ : Db) (me : Nat) : Site → Db → Db → Prop where
  /-- what concerns neither orders, deliveries nor the ledger, and what failed -/
  | quiet {site : Site} {s s' : Db} (hsite : site.endsDelivery = false)
      (hdeliveries : s'.deliveries = s.deliveries) (horders : s'.orders = s.orders)
      (hentries : s'.walletEntries = s.walletEntries) : RoadStep once s₀ me site s s'
  | confirm {site : Site} {s : Db} {d : DeliveryId} {driver : UserId} {r r₀ : Delivery}
      {f : Delivery → Delivery} {hf : ∀ r, (f r).id = r.id}
      (hsite : site = .confirmDelivery d driver ∨ site = .confirmAbsentDropoff d driver)
      (hr : s.deliveries.find? d = some r) (hdriver : r.driverId = some driver)
      (hopen : r.status ≠ .cancelled) (hr₀ : s₀.deliveries.find? d = some r₀)
      (hroad : r₀.status ∈ outForDelivery) (hconfirms : MarksDelivered f) :
      RoadStep once s₀ me site s { s with deliveries := s.deliveries.update d f hf }
  | disappear {s : Db} {d : DeliveryId} {r : Delivery} (hr : s.deliveries.find? d = some r)
      (hopen : r.status ≠ .cancelled) :
      RoadStep once s₀ me (.driverDisappeared d r.orderId) s (s.disappeared d r.orderId)
  | deliver {s : Db} (o : OrderId) : RoadStep once s₀ me (.deliveredByDriver o) s
      { s with orders := s.orders.update o fun row => { row with status := .delivered } }
  | saveRefund {s : Db} (o : OrderId) (refund : RefundId) : RoadStep once s₀ me (.saveRefund o) s
      { s with orders := s.orders.update o fun row =>
        { row with stripeRefundId := some refund, refundedAt := some s.now } }
  | reverse {site : Site} {s : Db} {o : OrderId} {p : WalletEntry → Bool} (hsite : site.endsDelivery = false)
      (hof : ∀ e, p e = true → e.orderId = some o) (hover : once → s.undelivered o) :
      RoadStep once s₀ me site s { s with
        walletEntries := s.walletEntries.updateMany p fun e => { e with status := .cancelled } }
  | book {site : Site} {s : Db} {o : OrderId} {rows : List WalletEntry} (hsite : site.endsDelivery = false)
      (hrows : ∀ e ∈ rows, e.orderId = some o ∧ e.id.call = me ∧ e.status ≠ .cancelled)
      (hdebt : ∀ e ∈ rows, e.type = .driverDebt → once → s.undelivered o) :
      RoadStep once s₀ me site s { s with walletEntries := rows.foldl insertSkippingDuplicate s.walletEntries }

/-- What holds between two steps of a run from `s₀`. -/
structure OnRoad (once : Prop) (s₀ s : Db) : Prop where
  origin : ∀ d r, s.deliveries.find? d = some r →
    ∃ r₀, s₀.deliveries.find? d = some r₀ ∧ r.orderId = r₀.orderId ∧ r.driverId = r₀.driverId
  unique : OneEach s₀
  driver : ∀ d r, s.deliveries.find? d = some r → r.deliveredConfirmedAt.isSome = true →
    r.driverId.isSome = true
  delivered : once → ∀ d r, s.deliveries.find? d = some r →
    (r.status = .delivered ↔ r.deliveredConfirmedAt.isSome = true)
  /-- only the driver of a delivery that has failed is charged -/
  charged : once → ∀ e ∈ s.walletEntries.rows, ∀ o, e.orderId = some o → e.type = .driverDebt →
    s.undelivered o
  /-- and only what is earned with such a delivery is lost -/
  lost : once → ∀ e ∈ s.walletEntries.rows, e.status = .cancelled → ∀ d r₀, s₀.deliveries.find? d = some r₀ →
    e.orderId = some r₀.orderId → s.undelivered r₀.orderId ∨ r₀.status = .delivered

section

variable {once : Prop} {cfg : Config} {me other : Nat} {site : Site} {s₀ s s' : Db} {o : OrderId}
  {u : UserId} {type : WalletEntryType} {d d' : DeliveryId} {r r' : Delivery}

/-- An order still has one delivery. -/
theorem OnRoad.same (hI : OnRoad once s₀ s) (hr : s.deliveries.find? d = some r)
    (hr' : s.deliveries.find? d' = some r') (hsame : r.orderId = r'.orderId) : d = d' ∧ r = r' := by
  obtain ⟨r₁, hr₁, hof₁, -⟩ := hI.origin d r hr
  obtain ⟨r₂, hr₂, hof₂, -⟩ := hI.origin d' r' hr'
  obtain rfl := hI.unique d d' r₁ r₂ hr₁ hr₂ (hof₁.symm.trans (hsame.trans hof₂))
  exact ⟨rfl, Option.some.inj (hr.symm.trans hr')⟩

/-- So an order with a delivery that is not over has none that is. -/
theorem OnRoad.not_undelivered (hI : OnRoad once s₀ s) (hr : s.deliveries.find? d = some r)
    (hdelivered : r.status = .delivered) : ¬s.undelivered r.orderId := by
  rintro ⟨d', r', hr', hof, hover⟩
  obtain ⟨-, rfl⟩ := hI.same hr hr' hof.symm
  simp [hdelivered] at hover

theorem foldl_insert_carries (rows : List WalletEntry) (t : Table WalletEntry) :
    t.Carries SameClaim (rows.foldl insertSkippingDuplicate t) := by
  intro e he
  obtain ⟨added, hrows, -⟩ := foldl_insert_rows rows t
  refine ⟨e, Table.find?_of_mem ?_, .refl e⟩
  rw [hrows]
  exact List.mem_append_right _ he

/-- What a step does to the row of a delivery. -/
inductive RowMove (s₀ : Db) (site : Site) : Delivery → Delivery → Prop where
  | stay (r : Delivery) : RowMove s₀ site r r
  | confirm {r r' r₀ : Delivery} {driver : UserId}
      (hsite : site = .confirmDelivery r.id driver ∨ site = .confirmAbsentDropoff r.id driver)
      (hdriver : r.driverId = some driver) (hopen : r.status ≠ .cancelled)
      (hr₀ : s₀.deliveries.find? r.id = some r₀) (hroad : r₀.status ∈ outForDelivery)
      (hof : r'.orderId = r.orderId) (hby : r'.driverId = r.driverId) (hstatus : r'.status = .delivered)
      (hconfirmed : r'.deliveredConfirmedAt.isSome = true) : RowMove s₀ site r r'
  | fail {r r' : Delivery} (hsite : site = .driverDisappeared r.id r.orderId)
      (hopen : r.status ≠ .cancelled) (hof : r'.orderId = r.orderId) (hby : r'.driverId = r.driverId)
      (hstatus : r'.status = .failed) (hconfirmed : r'.deliveredConfirmedAt = r.deliveredConfirmedAt) :
      RowMove s₀ site r r'

/-- **What a step does to the deliveries.** -/
theorem RoadStep.rows (hstep : RoadStep once s₀ me site s s') :
    s.deliveries.Carries (RowMove s₀ site) s'.deliveries ∧
      ∀ r' ∈ s'.deliveries.rows, ∃ r ∈ s.deliveries.rows, r.id = r'.id := by
  have hsame : s'.deliveries = s.deliveries → s.deliveries.Carries (RowMove s₀ site) s'.deliveries ∧
      ∀ r' ∈ s'.deliveries.rows, ∃ r ∈ s.deliveries.rows, r.id = r'.id := by
    intro heq
    rw [heq]
    exact ⟨.refl .stay _, fun r hr => ⟨r, hr, rfl⟩⟩
  cases hstep with
  | quiet hsite hdeliveries horders hentries => exact hsame hdeliveries
  -- an update by id: the row it finds takes the move, and the others stay
  | @confirm _ _ d driver r r₀ f hf hsite hr hdriver hopen hr₀ hroad hconfirms =>
    obtain rfl : r.id = d := Table.key_of_find? hr
    refine ⟨Table.carries_update_of_eq RowMove.stay hr (.confirm hsite hdriver hopen hr₀ hroad (hconfirms.orderId r)
      (hconfirms.driverId r) (hconfirms.status r) (hconfirms.confirmed r)) hf, fun r' hr' => ?_⟩
    exact Table.known_of_mem_update hf hr'
  | @disappear _ d r hr hopen =>
    obtain rfl : r.id = d := Table.key_of_find? hr
    refine ⟨Table.carries_update_of_eq RowMove.stay hr (RowMove.fail rfl hopen rfl rfl rfl rfl)
      (by exact fun _ => rfl), fun r' hr' => ?_⟩
    exact Table.known_of_mem_update (by exact fun _ => rfl) hr'
  | deliver o => exact hsame rfl
  | saveRefund o refund => exact hsame rfl
  | reverse hsite hof hover => exact hsame rfl
  | book hsite hrows hdebt => exact hsame rfl

/-- The row of a delivery after a step, traced back to the row before it. -/
theorem RoadStep.row (hstep : RoadStep once s₀ me site s s') (hr' : s'.deliveries.find? d = some r') :
    ∃ r, s.deliveries.find? d = some r ∧ RowMove s₀ site r r' :=
  hstep.rows.1.back hstep.rows.2 hr'

/-- A move within the condition keeps a delivery as it has ended. -/
theorem RowMove.later (hmove : RowMove s₀ site r r') (hc : once → EndsOnce site s)
    (hr : s.deliveries.find? r.id = some r)
    (hdelivered : once → (r.status = .delivered ↔ r.deliveredConfirmedAt.isSome = true)) :
    Later once r r' := by
  cases hmove with
  | stay => exact .refl r
  | confirm hsite hdriver hopen hr₀ hroad hof hby hstatus hconfirmed =>
    refine ⟨hof, hby, fun _ => hconfirmed, fun h => by simp [hstatus] at h,
      fun h => by simp [hstatus, outForDelivery] at h, fun honce hended => ?_⟩
    -- neither cancelled nor failed: if it has ended, it was delivered, and is so again
    have hopen' : r.status ≠ .failed := by
      rcases hsite with rfl | rfl
      · simpa [EndsOnce, hr] using hc honce
      · simpa [EndsOnce, hr] using hc honce
    simp only [ended, List.mem_cons, List.not_mem_nil, or_false, hopen, hopen'] at hended
    exact hstatus.trans hended.symm
  | fail hsite hopen hof hby hstatus hconfirmed =>
    refine ⟨hof, hby, fun h => hconfirmed ▸ h, fun h => by simp [hstatus] at h,
      fun h => by simp [hstatus, outForDelivery] at h, fun honce hended => ?_⟩
    -- neither cancelled nor delivered: if it has ended, it has failed before
    have hopen' : r.status ≠ .delivered := by
      rw [ne_eq, hdelivered honce]
      subst hsite
      simpa [EndsOnce, hr] using hc honce
    simp only [ended, List.mem_cons, List.not_mem_nil, or_false, hopen, hopen', false_or] at hended
    exact hstatus.trans hended.symm

/-- No step changes whose order it is, or for how much. -/
theorem RoadStep.orders (hstep : RoadStep once s₀ me site s s') : s.orders.Carries SameSale s'.orders := by
  have hupdate : ∀ (o : OrderId) (f : Order → Order) (hf : ∀ row, (f row).id = row.id),
      (∀ row, SameSale row (f row)) → s.orders.Carries SameSale (s.orders.update o f hf) :=
    fun o f hf hsame => Table.carries_update SameSale.refl hsame hf
  cases hstep with
  | quiet hsite hdeliveries horders hentries => exact horders ▸ .refl SameSale.refl _
  | disappear hr hopen => exact hupdate _ _ (by exact fun _ => rfl) fun _ => ⟨rfl, rfl⟩
  | deliver o => exact hupdate _ _ (by exact fun _ => rfl) fun _ => ⟨rfl, rfl⟩
  | saveRefund o refund => exact hupdate _ _ (by exact fun _ => rfl) fun _ => ⟨rfl, rfl⟩
  | _ => exact .refl SameSale.refl _

/-- An order that is delivered, with its delivery, stays so. -/
theorem RoadStep.status (hstep : RoadStep once s₀ me site s s') (hI : OnRoad once s₀ s)
    (hc : once → EndsOnce site s) (honce : once) (hdelivered : s.hasDelivered o)
    (hstatus : s.orderStatus o = some .delivered) : s'.orderStatus o = some .delivered := by
  cases hstep with
  | quiet hsite hdeliveries horders hentries =>
    rw [Db.orderStatus, horders]
    exact hstatus
  | @disappear _ d r hr hopen =>
    -- the delivery that fails is not the one that was delivered
    obtain ⟨d', r', hr', hof, hdone⟩ := hdelivered
    have hother : o ≠ r.orderId := by
      rintro rfl
      obtain ⟨rfl, rfl⟩ := hI.same hr' hr hof
      rw [hI.delivered honce _ _ hr'] at hdone
      have hnone := hc honce
      simp [EndsOnce, hr', Option.isSome_iff_ne_none.mp hdone] at hnone
    rw [Db.orderStatus, Db.disappeared, Table.find?_update_of_ne _ _ _ hother]
    exact hstatus
  | deliver o' =>
    obtain ⟨row, hrow, -⟩ := Option.map_eq_some_iff.mp hstatus
    rw [Db.orderStatus, Table.find?_update]
    split
    · rw [hrow]
      rfl
    · exact hstatus
  | saveRefund o' refund =>
    rw [Db.orderStatus, Table.find?_update]
    split
    · rw [Option.map_map]
      exact hstatus
    · exact hstatus
  | _ => exact hstatus

theorem RoadStep.entries (hstep : RoadStep once s₀ me site s s') :
    s.walletEntries.Carries SameClaim s'.walletEntries := by
  cases hstep with
  | quiet hsite hdeliveries horders hentries => exact hentries ▸ .refl SameClaim.refl _
  | reverse hsite hof hover =>
    refine Table.carries_updateMany SameClaim.refl (fun e _ => ?_) (by exact fun _ => rfl)
    exact ⟨rfl, rfl, rfl⟩
  | book hsite hrows hdebt => exact foldl_insert_carries _ _
  | _ => exact .refl SameClaim.refl _

/-- **Where an entry comes from**: it was there, or this call has written it. -/
theorem RoadStep.entry_from (hstep : RoadStep once s₀ me site s s') {e' : WalletEntry}
    (he' : e' ∈ s'.walletEntries.rows) :
    (∃ e ∈ s.walletEntries.rows, e.id = e'.id ∧ SameClaim e e' ∧ (e'.status = .cancelled →
      e.status = .cancelled ∨ ∀ o, e'.orderId = some o → once → s.undelivered o)) ∨
    (e'.id.call = me ∧ e'.status ≠ .cancelled ∧
      ∀ o, e'.orderId = some o → e'.type = .driverDebt → once → s.undelivered o) := by
  have hsame : e' ∈ s.walletEntries.rows → ∃ e ∈ s.walletEntries.rows, e.id = e'.id ∧ SameClaim e e' ∧
      (e'.status = .cancelled → e.status = .cancelled ∨ ∀ o, e'.orderId = some o → once → s.undelivered o) :=
    fun he => ⟨e', he, rfl, .refl e', .inl⟩
  cases hstep with
  | quiet hsite hdeliveries horders hentries => exact .inl (hsame (hentries ▸ he'))
  -- what is reversed is of one order, and that one is called off
  | @reverse _ _ o p hsite hof hover =>
    obtain ⟨e, he, ⟨hp, rfl⟩ | ⟨-, rfl⟩⟩ := Table.mem_rewritten he'
    · refine .inl ⟨e, he, rfl, ⟨rfl, rfl, rfl⟩, fun _ => .inr fun o' hof' honce => ?_⟩
      obtain rfl := Option.some.inj ((hof e hp).symm.trans hof')
      exact hover honce
    · exact .inl (hsame he)
  | @book _ _ o rows hsite hrows hdebt =>
    rcases mem_foldl_insertSkippingDuplicate he' with he | he
    · obtain ⟨hof, hid, hstatus⟩ := hrows e' he
      refine .inr ⟨hid, hstatus, fun o' hof' htype => ?_⟩
      obtain rfl := Option.some.inj (hof.symm.trans hof')
      exact hdebt e' he htype
    · exact .inl (hsame he)
  | _ => exact .inl (hsame he')

/-- **What a step leaves to the others.** -/
theorem RoadStep.onward (hstep : RoadStep once s₀ me site s s') (hI : OnRoad once s₀ s)
    (hc : once → EndsOnce site s) (hother : other ≠ me) : Onward once other s s' where
  deliveries r hr := by
    obtain ⟨r', hr', hmove⟩ := hstep.rows.1 r hr
    have hfound : s.deliveries.find? r.id = some r := Table.find?_of_mem hr
    exact ⟨r', hr', hmove.later hc hfound fun honce => hI.delivered honce _ _ hfound⟩
  known := hstep.rows.2
  orders := hstep.orders
  delivered honce o hdelivered hstatus := hstep.status hI hc honce hdelivered hstatus
  entries := hstep.entries
  own e' he' hme := by
    rcases hstep.entry_from he' with ⟨e, he, hid, -⟩ | ⟨hid, -⟩
    · exact ⟨e, he, hid⟩
    · exact absurd (hme.symm.trans hid) hother

/-- **What a step keeps.** -/
theorem RoadStep.onRoad (hstep : RoadStep once s₀ me site s s') (hI : OnRoad once s₀ s)
    (hc : once → EndsOnce site s) : OnRoad once s₀ s' where
  origin d r' hr' := by
    obtain ⟨r, hr, hmove⟩ := hstep.row hr'
    obtain ⟨r₀, hr₀, hof, hby⟩ := hI.origin d r hr
    refine ⟨r₀, hr₀, ?_⟩
    cases hmove with
    | stay => exact ⟨hof, hby⟩
    | confirm hsite hdriver hopen hr₀ hroad hof' hby' hstatus hconfirmed =>
      exact ⟨hof'.trans hof, hby'.trans hby⟩
    | fail hsite hopen hof' hby' hstatus hconfirmed => exact ⟨hof'.trans hof, hby'.trans hby⟩
  unique := hI.unique
  driver d r' hr' hconfirmed := by
    obtain ⟨r, hr, hmove⟩ := hstep.row hr'
    cases hmove with
    | stay => exact hI.driver d r' hr hconfirmed
    | confirm hsite hdriver hopen hr₀ hroad hof hby hstatus hconfirmed => rw [hby, hdriver, Option.isSome_some]
    | fail hsite hopen hof hby hstatus hsame => exact hby ▸ hI.driver d r hr (hsame ▸ hconfirmed)
  delivered honce d r' hr' := by
    obtain ⟨r, hr, hmove⟩ := hstep.row hr'
    cases hmove with
    | stay => exact hI.delivered honce d r' hr
    | confirm hsite hdriver hopen hr₀ hroad hof hby hstatus hconfirmed => exact iff_of_true hstatus hconfirmed
    | fail hsite hopen hof hby hstatus hsame =>
      -- here the condition tells that the row is not confirmed
      have hid : r.id = d := Table.key_of_find? hr
      have hnone := hc honce
      rw [hsite, hid] at hnone
      refine iff_of_false (by simp [hstatus]) ?_
      rw [hsame]
      simpa [EndsOnce, hr] using hnone
  charged honce e' he' o hof htype := by
    have hnext : Onward once (me + 1) s s' := hstep.onward hI hc (Nat.succ_ne_self me)
    rcases hstep.entry_from he' with ⟨e, he, -, hsame, -⟩ | ⟨-, -, hdebt⟩
    · exact hnext.undelivered honce (hI.charged honce e he o (hsame.orderId ▸ hof) (hsame.type ▸ htype))
    · exact hnext.undelivered honce (hdebt o hof htype honce)
  lost honce e' he' hstatus d r₀ hr₀ hof := by
    have hnext : Onward once (me + 1) s s' := hstep.onward hI hc (Nat.succ_ne_self me)
    rcases hstep.entry_from he' with ⟨e, he, -, hsame, hlost⟩ | ⟨-, hnot, -⟩
    · rcases hlost hstatus with hbefore | hover
      · exact (hI.lost honce e he hbefore d r₀ hr₀ (hsame.orderId ▸ hof)).imp_left (hnext.undelivered honce)
      · exact .inl (hnext.undelivered honce (hover _ hof honce))
    · exact absurd hstatus hnot

/-! ## The calls, step by step -/

def roadContract (once : Prop) (s₀ : Db) (me : Nat) : Contract machine where
  rely := Onward once me
  guar _ := RoadStep once s₀ me

/-- The seller and the driver have their entries for the order. -/
def Earned (s : Db) (o : OrderId) (driver : UserId) : Prop :=
  ∃ row, s.orders.find? o = some row ∧
    (0 < row.sellerEarningsCents → s.entered o row.sellerId .orderEarning) ∧
    (0 < row.fulfillmentFeeCents → s.entered o driver .deliveryEarning)

/-- The driver, if there is one, is charged for the order. -/
def Debited (s : Db) (o : OrderId) (driver : Option UserId) : Prop :=
  ∃ row, s.orders.find? o = some row ∧
    (0 < row.buyerTotalCents → ∀ u ∈ driver, s.entered o u .driverDebt)

/-- What a call that is over leaves behind for one of its steps. -/
def Owed (once : Prop) (s : Db) (t : StepRecord machine) : Prop :=
  ∀ d r, Table.find? (Db.deliveries t.pre) d = some r →
    (once → ∀ driver, t.site = .confirmDelivery d driver ∨ t.site = .confirmAbsentDropoff d driver →
      Earned s r.orderId driver) ∧
    (t.site = .driverDisappeared d r.orderId → Debited s r.orderId r.driverId)

theorem Earned.onward {driver : UserId} (hE : Earned s o driver) (hR : Onward once me s s') :
    Earned s' o driver := by
  obtain ⟨row, hrow, hseller, hdriver⟩ := hE
  obtain ⟨row', hrow', hsame⟩ := hR.orders.find? hrow
  obtain ⟨hwho, hfee, hearnings, -⟩ := hsame.prices
  refine ⟨row', hrow', fun hpos => ?_, fun hpos => ?_⟩
  · exact hwho ▸ hR.entered (hseller (hearnings ▸ hpos))
  · exact hR.entered (hdriver (hfee ▸ hpos))

theorem Debited.onward {driver : Option UserId} (hC : Debited s o driver) (hR : Onward once me s s') :
    Debited s' o driver := by
  obtain ⟨row, hrow, hdebt⟩ := hC
  obtain ⟨row', hrow', hsame⟩ := hR.orders.find? hrow
  obtain ⟨-, -, -, htotal⟩ := hsame.prices
  exact ⟨row', hrow', fun hpos u hu => hR.entered (hdebt (htotal ▸ hpos) u hu)⟩

theorem Owed.onward {t : StepRecord machine} (ht : Owed once s t) (hR : Onward once me s s') :
    Owed once s' t := by
  intro d r hr
  obtain ⟨hearned, hcharged⟩ := ht d r hr
  exact ⟨fun honce driver hsite => (hearned honce driver hsite).onward hR,
    fun hsite => (hcharged hsite).onward hR⟩

/-- Of most steps nothing is left. -/
theorem owed_quiet {t : StepRecord machine} (hsite : Site.endsDelivery t.site = false) : Owed once s t := by
  refine fun d r hr => ⟨fun _ driver h => ?_, fun h => ?_⟩
  · rcases h with h | h
    · rw [h] at hsite
      cases hsite
    · rw [h] at hsite
      cases hsite
  · rw [h] at hsite
    cases hsite

theorem road_query (h : List (StepRecord machine)) (s : Db) : (roadContract once s₀ me).guar h .query s s :=
  .quiet rfl rfl rfl rfl

/-! ### The ledger -/

/-- A credit under a new identifier is written, unless there was one like it. -/
theorem insert_entered {t : Table WalletEntry} {e : WalletEntry} (hfresh : ∀ e' ∈ t.rows, e'.id ≠ e.id) :
    ∃ e' ∈ (insertSkippingDuplicate t e).rows, SameClaim e e' := by
  rcases insertSkippingDuplicate_cases t e with ⟨hdup, hsame⟩ | ⟨-, hrows⟩
  · obtain ⟨e', he', hclash⟩ := List.any_eq_true.mp hdup
    simp only [clashes, Bool.or_eq_true, Bool.and_eq_true, decide_eq_true_eq, hfresh e' he', false_or] at hclash
    exact ⟨e', hsame.symm ▸ he', ⟨hclash.1.1.2.symm, hclash.1.2.symm, hclash.2.symm⟩⟩
  · exact ⟨e, hrows ▸ List.mem_cons_self .., .refl e⟩

theorem foldl_insert_entered {rows : List WalletEntry} {t : Table WalletEntry}
    (hapart : rows.Pairwise fun a b => a.id ≠ b.id) (hfresh : ∀ e ∈ rows, ∀ e' ∈ t.rows, e'.id ≠ e.id) :
    ∀ e ∈ rows, ∃ e' ∈ (rows.foldl insertSkippingDuplicate t).rows, SameClaim e e' := by
  induction rows generalizing t with
  | nil => exact fun e he => absurd he List.not_mem_nil
  | cons first rest ih =>
    rw [List.pairwise_cons] at hapart
    obtain ⟨hfirst, hrest⟩ := hapart
    intro e he
    rcases List.mem_cons.mp he with rfl | he
    · obtain ⟨e', he', hsame⟩ := insert_entered (hfresh e (List.mem_cons_self ..))
      obtain ⟨e'', he'', hsame'⟩ := foldl_insert_carries rest _ e' he'
      exact ⟨e'', Table.mem_of_find? he'', hsame.trans hsame'⟩
    · refine ih hrest (fun e hmem e' he' => ?_) e he
      rcases mem_insertSkippingDuplicate he' with rfl | he'
      · exact hfirst e hmem
      · exact hfresh e (List.mem_cons_of_mem _ hmem) e' he'

/-- The rows of a credit are what the seller and the driver have earned. -/
theorem earned_of_creditRows {row row' : Order} {delivery : Option Delivery} {now : Time} {driver : UserId}
    (hid : row.id = o) (hchoice : row.fulfillmentChoice = .delivery)
    (hdriver : delivery.bind Delivery.driverId = some driver) (hrow' : s'.orders.find? o = some row')
    (hsame : SameSale row row') (hrows : ∀ e ∈ creditRows cfg me row delivery now,
      ∃ e' ∈ s'.walletEntries.rows, SameClaim e e') : Earned s' o driver := by
  obtain ⟨hwho, hfee, hearnings, -⟩ := hsame.prices
  refine ⟨row', hrow', fun hpos => ?_, fun hpos => ?_⟩
  · rw [hearnings] at hpos
    obtain ⟨e', he', hclaim⟩ := hrows (newEntry (generateUlid me 5) (.user row.sellerId) row.id .orderEarning
      row.sellerEarningsCents _ _ none) (by
        simp only [creditRows, List.mem_append, if_pos hpos, List.mem_singleton]
        exact .inl (.inl rfl))
    exact ⟨e', he', hclaim.orderId.trans (congrArg some hid), hclaim.userId.trans (by rw [hwho]; rfl), hclaim.type⟩
  · rw [hfee] at hpos
    obtain ⟨e', he', hclaim⟩ := hrows (newEntry (generateUlid me 7) (.user driver) row.id .deliveryEarning
      row.fulfillmentFeeCents _ _ none) (by
        simp only [creditRows, hdriver, List.mem_append, if_pos (And.intro hchoice hpos), List.mem_singleton]
        exact .inr rfl)
    exact ⟨e', he', hclaim.orderId.trans (congrArg some hid), hclaim.userId, hclaim.type⟩

/-! ### What is settled -/

/-- Nothing is owed any more for the steps. -/
def NothingOwed (once : Prop) (h : List (StepRecord machine)) (s : Db) : Prop := ∀ t ∈ h, Owed once s t

theorem NothingOwed.onward (hs : NothingOwed once h s) (hR : Onward once me s s') : NothingOwed once h s' :=
  fun t ht => (hs t ht).onward hR

theorem NothingOwed.cons (hs : NothingOwed once h s) (hsite : site.endsDelivery = false) :
    NothingOwed once (⟨site, s', s''⟩ :: h) s :=
  List.forall_mem_cons.mpr ⟨owed_quiet hsite, hs⟩

theorem NothingOwed.nil : NothingOwed once [] s := fun _ ht => absurd ht List.not_mem_nil

/-- Paperwork ends no delivery, and settles nothing. -/
theorem NothingOwed.paperwork {α : Type} {p : Handler α}
    (hp : Free (paperworkContract (Onward once me)) p) (hs : NothingOwed once h s) :
    Sat (roadContract once s₀ me) (fun h _ s => NothingOwed once h s) p h s := by
  have hunder : Sat (roadContract once s₀ me) (fun h r s => anyPost h r s ∧ NothingOwed once h s) p h s := by
    refine (hp h s).under (fun _ _ _ hR hs => ⟨hR, hs.onward hR⟩) ?_ hs
    rintro h site s s' hs ⟨hpaper, haside⟩
    have hsite : site.endsDelivery = false := by
      cases site with
      | _ => first | rfl | simp [Site.paperwork] at hpaper
    have hR : Onward once me s s' := .of_eq haside.deliveries haside.orders haside.walletEntries
    exact ⟨.quiet hsite haside.deliveries haside.orders haside.walletEntries, (hs.onward hR).cons hsite⟩
  exact hunder.post fun _ _ _ hQ => hQ.2

/-! ### The driver's confirmation -/

/-- What a call starts from. -/
structure Begins (me : Nat) (s₀ : Db) : Prop where
  unique : OneEach s₀
  order : ∀ d r, s₀.deliveries.find? d = some r → r.status ∈ outForDelivery →
    ∃ row, s₀.orders.find? r.orderId = some row ∧ row.fulfillmentChoice = .delivery
  fresh : ∀ e ∈ s₀.walletEntries.rows, e.id.call ≠ me

/-- What a driver who has delivered the order may count on. -/
structure Arrived (once : Prop) (me : Nat) (o : OrderId) (driver : UserId) (s : Db) : Prop where
  unique : OneEach s
  order : ∃ row, s.orders.find? o = some row ∧ row.fulfillmentChoice = .delivery
  fresh : ∀ e ∈ s.walletEntries.rows, e.id.call ≠ me
  delivered : once → ∃ d r, s.deliveries.find? d = some r ∧ r.orderId = o ∧ r.driverId = some driver ∧
    r.status = .delivered

theorem Onward.oneEach (hR : Onward once me s s') (hone : OneEach s) : OneEach s' := by
  intro d d' r r' hr hr' hsame
  obtain ⟨r₁, hr₁, hlater₁⟩ := hR.back hr
  obtain ⟨r₂, hr₂, hlater₂⟩ := hR.back hr'
  exact hone d d' r₁ r₂ hr₁ hr₂ (hlater₁.orderId.symm.trans (hsame.trans hlater₂.orderId))

theorem Onward.fresh (hR : Onward once me s s') (hfresh : ∀ e ∈ s.walletEntries.rows, e.id.call ≠ me) :
    ∀ e ∈ s'.walletEntries.rows, e.id.call ≠ me := by
  intro e he hme
  obtain ⟨e₀, he₀, hid⟩ := hR.own e he hme
  exact hfresh e₀ he₀ (hid ▸ hme)

theorem Arrived.onward {driver : UserId} (hA : Arrived once me o driver s) (hR : Onward once me s s') :
    Arrived once me o driver s' where
  unique := hR.oneEach hA.unique
  order := by
    obtain ⟨row, hrow, hchoice⟩ := hA.order
    obtain ⟨row', hrow', hsame⟩ := hR.orders.find? hrow
    exact ⟨row', hrow', hsame.choice.trans hchoice⟩
  fresh := hR.fresh hA.fresh
  delivered honce := by
    obtain ⟨d, r, hr, hof, hby, hstatus⟩ := hA.delivered honce
    obtain ⟨r', hr', hlater⟩ := hR.deliveries.find? hr
    refine ⟨d, r', hr', hlater.orderId.trans hof, hlater.driverId.trans hby, ?_⟩
    exact (hlater.ended honce (by simp [hstatus, ended])).trans hstatus

theorem Arrived.hasDelivered {driver : UserId} (hA : Arrived once me o driver s) (honce : once) :
    s.hasDelivered o := by
  obtain ⟨d, r, hr, hof, -, hstatus⟩ := hA.delivered honce
  exact ⟨d, r, hr, hof, hstatus⟩

/-- The steps are settled once the seller and the driver have their entries. -/
def UntilEarned (once : Prop) (o : OrderId) (driver : UserId) (h : List (StepRecord machine)) : Prop :=
  ∀ s, (once → Earned s o driver) → NothingOwed once h s

theorem UntilEarned.cons {driver : UserId} (hh : UntilEarned once o driver h)
    (hsite : site.endsDelivery = false) : UntilEarned once o driver (⟨site, s, s'⟩ :: h) :=
  fun t ht => (hh t ht).cons hsite

/-- A delivered order is credited for. -/
theorem creditForCompletedOrder_road {driver : UserId} (hA : Arrived once me o driver s)
    (hh : UntilEarned once o driver h) (hstatus : once → s.orderStatus o = some .delivered) :
    Sat (roadContract once s₀ me) (fun h _ s => NothingOwed once h s) (creditForCompletedOrder cfg me o) h s := by
  refine sat_read_bind fun s₁ hR => ⟨road_query _ _, ?_⟩
  have hA₁ := hA.onward hR
  have hh₁ : UntilEarned once o driver (⟨.query, s₁, s₁⟩ :: h) := hh.cons rfl
  obtain ⟨row, hrow, hchoice⟩ := hA₁.order
  have hid : row.id = o := Table.key_of_find? hrow
  -- the newest delivered delivery of the order is taken, and there is only this one
  have hdriver : once → (deliveredDelivery s₁ o).bind Delivery.driverId = some driver := by
    intro honce
    obtain ⟨d, r, hr, hof, hby, hdone⟩ := hA₁.delivered honce
    rw [hA₁.unique.deliveredDelivery hr hof hdone]
    exact hby
  rw [hrow]
  refine sat_ite (fun _ => sat_ite (fun hnone => ?_) fun _ => ?_) fun hnot => ?_
  · -- there is nothing to pay
    refine sat_pure (hh₁ _ fun honce => ?_)
    have hrows : ∀ e ∈ creditRows cfg me row (deliveredDelivery s₁ o) s₁.now,
        ∃ e' ∈ s₁.walletEntries.rows, SameClaim e e' := by
      rw [List.isEmpty_iff.mp hnone]
      exact fun e he => absurd he List.not_mem_nil
    exact earned_of_creditRows hid hchoice (hdriver honce) hrow (.refl row) hrows
  · -- `createMany` skips duplicates: an entry is new, or one like it is there
    refine sat_await_ok fun s₂ hR' i => ⟨⟨_, rfl⟩, fun _ s₃ hrun => ?_⟩
    obtain rfl := createEntries_ok.mp hrun
    have hmine : ∀ e ∈ creditRows cfg me row (deliveredDelivery s₁ o) s₁.now,
        e.orderId = some o ∧ e.id.call = me ∧ e.status ≠ .cancelled ∧ e.type ≠ .driverDebt := by
      have hstatus : creditStatus row ≠ .cancelled := by
        unfold creditStatus
        split
        · nofun
        · nofun
      exact forall_creditRows (fun _ => ⟨congrArg some hid, rfl, hstatus, nofun⟩)
        ⟨congrArg some hid, rfl, nofun, nofun⟩ fun _ _ => ⟨congrArg some hid, rfl, hstatus, nofun⟩
    refine ⟨.book (o := o) rfl (fun e he => ?_) fun e he htype => ?_, (hh₁.cons rfl) _ fun honce => ?_⟩
    · obtain ⟨hof, hme, hlive, -⟩ := hmine e he
      exact ⟨hof, hme, hlive⟩
    · exact absurd htype (hmine e he).2.2.2
    · obtain ⟨row', hrow', hsame⟩ := hR'.orders.find? hrow
      have hfresh := (hA₁.onward hR').fresh
      have hrows := foldl_insert_entered (creditRows_apart.imp And.left) fun e he e' he' hclash =>
        hfresh e' he' (hclash ▸ (hmine e he).2.1)
      exact earned_of_creditRows hid hchoice (hdriver honce) hrow' hsame hrows
  · -- a cancelled order is skipped, but where deliveries end once this one is delivered
    refine sat_pure (hh₁ _ fun honce => absurd (.inl ?_) hnot)
    have hnow := hR.delivered honce o (hA.hasDelivered honce) (hstatus honce)
    simpa [Db.orderStatus, hrow] using hnow

/-- The order of a delivery that was delivered is delivered, and credited for. -/
theorem confirmDeliveredByDriver_road {driver : UserId} (hA : Arrived once me o driver s)
    (hh : UntilEarned once o driver h) :
    Sat (roadContract once s₀ me) (fun h _ s => NothingOwed once h s) (confirmDeliveredByDriver cfg me o) h s := by
  refine sat_read_bind fun s₁ hR => ⟨road_query _ _, ?_⟩
  have hA₁ := hA.onward hR
  obtain ⟨row, hrow, hchoice⟩ := hA₁.order
  refine sat_orThrow_bind (fun hnone => ?_) fun row' hrow' => ?_
  · rw [hrow] at hnone
    cases hnone
  obtain rfl := Option.some.inj (hrow.symm.trans hrow')
  refine sat_throwIf_bind (fun hpickup => absurd hchoice hpickup) fun _ => ?_
  have hrest : ∀ h s, Arrived once me o driver s → UntilEarned once o driver h →
      (once → s.orderStatus o = some .delivered) →
      Sat (roadContract once s₀ me) (fun h _ s => NothingOwed once h s) (do
        releaseFundsForCompletedOrder cfg me o
        findOrderWithRelations o) h s := by
    intro h s hA hh hstatus
    refine sat_bind ((creditForCompletedOrder_road hA hh hstatus).post fun h r s hs => ?_)
    cases r with
    | ok _ => exact hs.paperwork (findOrderWithRelations_of fun _ s => ⟨rfl, .refl s⟩)
    | error e => exact hs
  -- the order becomes DELIVERED whatever it was, a cancelled one too
  refine sat_runIf_bind (fun _ => ?_) fun hdelivered => ?_
  · refine sat_bind (sat_await_ok fun s₂ hR' i => ?_)
    have hA₂ := hA₁.onward hR'
    obtain ⟨row₂, hrow₂, hchoice₂⟩ := hA₂.order
    refine ⟨⟨((), _), updateOrder_ok.mpr ⟨⟨row₂, hrow₂⟩, rfl⟩⟩, fun _ s₃ hrun => ?_⟩
    have hstatus : Db.orderStatus s₃ o = some .delivered := orderStatus_of_update hrun fun _ => rfl
    obtain ⟨-, rfl⟩ := updateOrder_ok.mp hrun
    refine ⟨.deliver o, hrest _ _ ⟨hA₂.unique, ?_, hA₂.fresh, hA₂.delivered⟩ ((hh.cons rfl).cons rfl) fun _ => hstatus⟩
    exact ⟨_, Table.find?_update_of_eq hrow₂, hchoice₂⟩
  · rw [not_not] at hdelivered
    refine hrest _ _ hA₁ (hh.cons rfl) fun _ => ?_
    simp [Db.orderStatus, hrow, hdelivered]

/-- The driver's update: his delivery is delivered. -/
theorem Arrived.of_confirm {driver : UserId} {row : Delivery} {f : Delivery → Delivery}
    {hf : ∀ r, (f r).id = r.id} (hone : OneEach s)
    (horder : ∃ row', s.orders.find? row.orderId = some row' ∧ row'.fulfillmentChoice = .delivery)
    (hfresh : ∀ e ∈ s.walletEntries.rows, e.id.call ≠ me) (hrow : s.deliveries.find? d = some row)
    (hdriver : row.driverId = some driver) (hconfirms : MarksDelivered f) :
    Arrived once me row.orderId driver { s with deliveries := s.deliveries.update d f hf } where
  unique := by
    have hsame : ∀ {d' r'}, Table.find? (s.deliveries.update d f hf) d' = some r' →
        ∃ r, s.deliveries.find? d' = some r ∧ r'.orderId = r.orderId :=
      fun hr' => Table.find?_update_rel (M := fun r r' => r'.orderId = r.orderId) hr' (fun _ => rfl)
        fun r _ _ => hconfirms.orderId r
    intro d₁ d₂ r₁ r₂ hr₁ hr₂ hof
    obtain ⟨r₁', hr₁', hof₁⟩ := hsame hr₁
    obtain ⟨r₂', hr₂', hof₂⟩ := hsame hr₂
    exact hone d₁ d₂ r₁' r₂' hr₁' hr₂' (hof₁.symm.trans (hof.trans hof₂))
  order := horder
  fresh := hfresh
  delivered _ := ⟨d, f row, Table.find?_update_of_eq hrow hf, hconfirms.orderId row,
    (hconfirms.driverId row).trans hdriver, hconfirms.status row⟩

/-- Once it has run, the two entries are all that is owed for. -/
theorem UntilEarned.of_confirm {driver : UserId} {row : Delivery}
    (hsite : site = .confirmDelivery d driver ∨ site = .confirmAbsentDropoff d driver)
    (hrow : s.deliveries.find? d = some row) (hh : ∀ s, NothingOwed once h s) :
    UntilEarned once row.orderId driver (⟨site, s, s'⟩ :: h) := by
  refine fun s hearned => List.forall_mem_cons.mpr ⟨fun d' r hr => ?_, hh s⟩
  refine ⟨fun honce driver' hsite' => ?_, fun hsite' => ?_⟩
  · obtain ⟨rfl, rfl⟩ : d = d' ∧ driver = driver' := by
      rcases hsite with rfl | rfl
      · simpa using hsite'
      · simpa using hsite'
    obtain rfl := Option.some.inj (hrow.symm.trans hr)
    exact hearned honce
  · rcases hsite with rfl | rfl
    · cases hsite'
    · cases hsite'

/-- The two confirmations, from the driver's update on. -/
theorem confirm_road {driver : UserId} {row : Delivery} {stmt : Answer → Tx Unit} (hb : Begins me s₀)
    (hsite : site = .confirmDelivery d driver ∨ site = .confirmAbsentDropoff d driver)
    (hstmt : ∀ i s r, s.deliveries.find? d = some r → ∃ f hf, MarksDelivered f ∧
      stmt i s = .ok ((), { s with deliveries := s.deliveries.update d f hf }))
    (hR : Onward once me s₀ s) (hrow : s.deliveries.find? d = some row)
    (hdriver : row.driverId = some driver) (hout : row.status ∈ outForDelivery)
    (hh : ∀ s, NothingOwed once h s) : Sat (roadContract once s₀ me) (fun h _ s => NothingOwed once h s) (do
      await site stmt
      let _ ← confirmDeliveredByDriver cfg me row.orderId
      loadDelivery d) h s := by
  refine sat_bind (sat_await_ok fun s₁ hR₁ i => ?_)
  have hR₀ : Onward once me s₀ s₁ := hR.trans hR₁
  -- the update takes the row as it is by now, which may be that of a failed delivery
  obtain ⟨fresh, hfresh, hlater⟩ := hR₁.deliveries.find? hrow
  obtain ⟨f, hf, hconfirms, hrun⟩ := hstmt i s₁ fresh hfresh
  refine ⟨⟨_, hrun⟩, fun _ s₂ hrun' => ?_⟩
  obtain rfl : s₂ = { s₁ with deliveries := s₁.deliveries.update d f hf } := by
    rw [hrun] at hrun'
    exact (Prod.mk.inj (Except.ok.inj hrun')).2.symm
  obtain ⟨r₀, hr₀, hlater₀⟩ := hR.back hrow
  have hroad : r₀.status ∈ outForDelivery := hlater₀.road hout
  have hopen : fresh.status ≠ .cancelled := by
    intro hcancelled
    rw [hlater.cancelled hcancelled] at hout
    simp [outForDelivery] at hout
  have hby : fresh.driverId = some driver := hlater.driverId.trans hdriver
  refine ⟨.confirm hsite hfresh hby hopen hr₀ hroad hconfirms, ?_⟩
  -- its order is the one that was on the road at the start
  have horder : ∃ order, s₁.orders.find? fresh.orderId = some order ∧ order.fulfillmentChoice = .delivery := by
    obtain ⟨order, horder, hchoice⟩ := hb.order d r₀ hr₀ hroad
    obtain ⟨order', horder', hsame⟩ := hR₀.orders.find? horder
    exact ⟨order', (hlater.orderId.trans hlater₀.orderId) ▸ horder', hsame.choice.trans hchoice⟩
  have hA : Arrived once me fresh.orderId driver { s₁ with deliveries := s₁.deliveries.update d f hf } :=
    .of_confirm (hR₀.oneEach hb.unique) horder (hR₀.fresh hb.fresh) hfresh hby hconfirms
  have hh' : UntilEarned once fresh.orderId driver
      (⟨site, s₁, { s₁ with deliveries := s₁.deliveries.update d f hf }⟩ :: h) := .of_confirm hsite hfresh hh
  rw [hlater.orderId] at hA hh'
  refine sat_bind ((confirmDeliveredByDriver_road hA hh').post fun h r s hs => ?_)
  cases r with
  | ok _ => exact hs.paperwork (loadDelivery_of fun _ s => ⟨rfl, .refl s⟩)
  | error e => exact hs

theorem confirmDelivery_road {sub : String} {dto : ConfirmDeliveryDto} (hb : Begins me s₀)
    (hR : Onward once me s₀ s) : Sat (roadContract once s₀ me) (fun h _ s => NothingOwed once h s)
      (confirmDelivery cfg me sub d dto) [] s := by
  refine assertDriver_bind road_query (fun _ _ _ => NothingOwed.nil.cons rfl) fun s₁ driver user hR₁ _ _ => ?_
  refine loadDeliveryForDriver_bind road_query (fun _ _ _ => (NothingOwed.nil.cons rfl).cons rfl)
    fun s₂ row hR₂ hrow hdriver => ?_
  have hh : ∀ s, NothingOwed once [⟨Site.query, s₂, s₂⟩, ⟨Site.query, s₁, s₁⟩] s :=
    fun s => (NothingOwed.nil.cons rfl).cons rfl
  refine checkOutForDelivery_bind (fun _ => hh s₂) fun _ hout => ?_
  refine sat_throwIf_bind (fun _ => hh s₂) fun _ => ?_
  refine confirm_road hb (.inl rfl) (fun i s r hr => ?_) ((hR.trans hR₁).trans hR₂) hrow hdriver hout hh
  refine ⟨_, _, ?_, Stmt.bind_ok.mpr ⟨s, s, rfl, updateDelivery_ok.mpr ⟨⟨r, hr⟩, rfl⟩⟩⟩
  exact ⟨fun _ => rfl, fun _ => rfl, fun _ => rfl, fun _ => rfl⟩

theorem confirmAbsentDropoff_road {sub : String} {dto : ConfirmAbsentDropoffDto} (hb : Begins me s₀)
    (hR : Onward once me s₀ s) : Sat (roadContract once s₀ me) (fun h _ s => NothingOwed once h s)
      (confirmAbsentDropoff cfg me sub d dto) [] s := by
  refine assertDriver_bind road_query (fun _ _ _ => NothingOwed.nil.cons rfl) fun s₁ driver user hR₁ _ _ => ?_
  refine loadDeliveryForDriver_bind road_query (fun _ _ _ => (NothingOwed.nil.cons rfl).cons rfl)
    fun s₂ row hR₂ hrow hdriver => ?_
  have hh : ∀ s, NothingOwed once [⟨Site.query, s₂, s₂⟩, ⟨Site.query, s₁, s₁⟩] s :=
    fun s => (NothingOwed.nil.cons rfl).cons rfl
  refine checkOutForDelivery_bind (fun _ => hh s₂) fun _ hout => ?_
  refine sat_orThrow_bind (fun _ => hh s₂) fun photo _ => ?_
  refine sat_orThrow_bind (fun _ => hh s₂) fun position _ => ?_
  obtain ⟨lat, lng⟩ := position
  refine confirm_road hb (.inr rfl) (fun i s r hr => ?_) ((hR.trans hR₁).trans hR₂) hrow hdriver hout hh
  refine ⟨_, _, ?_, Stmt.bind_ok.mpr ⟨s, s, rfl, updateDelivery_ok.mpr ⟨⟨r, hr⟩, rfl⟩⟩⟩
  exact ⟨fun _ => rfl, fun _ => rfl, fun _ => rfl, fun _ => rfl⟩

/-! ### The watchdog -/

/-- No statement but those that end a delivery writes one. -/
theorem RoadStep.deliveries (hstep : RoadStep once s₀ me site s s') (hsite : site.endsDelivery = false) :
    s'.deliveries = s.deliveries := by
  cases hstep with
  | quiet _ hdeliveries horders hentries => exact hdeliveries
  | confirm hend hr hdriver hopen hr₀ hroad hconfirms =>
    rcases hend with rfl | rfl
    · cases hsite
    · cases hsite
  | disappear hr hopen => cases hsite
  | _ => rfl

/-- What holds while the watchdog settles an order whose delivery it has failed, up to the debt. -/
structure Resolving (once : Prop) (me : Nat) (order : Order) (driver : Option UserId)
    (h : List (StepRecord machine)) (s : Db) : Prop where
  /-- nothing is owed once the driver is charged -/
  due : ∀ s, Debited s order.id driver → NothingOwed once h s
  undelivered : once → s.undelivered order.id
  order : ∃ row, s.orders.find? order.id = some row ∧ SameSale order row
  fresh : ∀ e ∈ s.walletEntries.rows, e.id ≠ generateUlid me 10

/-- What the watchdog writes after its transaction and before the debt. -/
def resolvingContract (once : Prop) (s₀ : Db) (me : Nat) (o : OrderId) : Contract machine where
  rely := Onward once me
  guar _ site s s' := site.endsDelivery = false ∧
    ((once → s.undelivered o) → RoadStep once s₀ me site s s') ∧
    ∀ e ∈ s'.walletEntries.rows, e.id = generateUlid me 10 → ∃ e₀ ∈ s.walletEntries.rows, e₀.id = e.id

theorem Resolving.onward {order : Order} {driver : Option UserId} (hI : Resolving once me order driver h s)
    (hR : Onward once me s s') : Resolving once me order driver h s' where
  due := hI.due
  undelivered honce := hR.undelivered honce (hI.undelivered honce)
  order := by
    obtain ⟨row, hrow, hsame⟩ := hI.order
    obtain ⟨row', hrow', hsame'⟩ := hR.orders.find? hrow
    exact ⟨row', hrow', hsame.trans hsame'⟩
  fresh e he hid := by
    obtain ⟨e₀, he₀, hid₀⟩ := hR.own e he (hid ▸ rfl)
    exact hI.fresh e₀ he₀ (hid₀.trans hid)

theorem Resolving.step {order : Order} {driver : Option UserId} (hI : Resolving once me order driver h s)
    (hstep : (resolvingContract once s₀ me order.id).guar h site s s') :
    RoadStep once s₀ me site s s' ∧ Resolving once me order driver (⟨site, s, s'⟩ :: h) s' := by
  obtain ⟨hsite, hwrites, hentries⟩ := hstep
  have hroad := hwrites hI.undelivered
  refine ⟨hroad, fun t ht => (hI.due t ht).cons hsite, fun honce => ?_, ?_, fun e he hid => ?_⟩
  · obtain ⟨d, r, hr, hover⟩ := hI.undelivered honce
    exact ⟨d, r, (hroad.deliveries hsite).symm ▸ hr, hover⟩
  · obtain ⟨row, hrow, hsame⟩ := hI.order
    obtain ⟨row', hrow', hsame'⟩ := hroad.orders.find? hrow
    exact ⟨row', hrow', hsame.trans hsame'⟩
  · obtain ⟨e₀, he₀, hid₀⟩ := hentries e he hid
    exact hI.fresh e₀ he₀ (hid₀.trans hid)

/-- One after the other, the parts of the resolution. -/
theorem Resolving.bind {order : Order} {driver : Option UserId} {p : Handler Unit} {k : Unit → Handler Unit}
    {Q : Post machine Unit} (hI : Resolving once me order driver h s)
    (hp : Free (resolvingContract once s₀ me order.id) p)
    (hends : ∀ h s, Sat endContract (fun _ r _ => r = .ok ()) p h s)
    (hk : ∀ h s, Resolving once me order driver h s → Sat (roadContract once s₀ me) Q (k ()) h s) :
    Sat (roadContract once s₀ me) Q (p >>= k) h s := by
  have hunder : Sat (roadContract once s₀ me)
      (fun h r s => anyPost h r s ∧ Resolving once me order driver h s) p h s :=
    (hp h s).under (fun _ _ _ hR hI => ⟨hR, hI.onward hR⟩) (fun _ _ _ _ hI hg => hI.step hg) hI
  refine sat_bind ((hunder.ends (hends h s)).post ?_)
  rintro h r s ⟨⟨-, hI'⟩, rfl⟩
  exact hk h s hI'

theorem resolving_query (h : List (StepRecord machine)) (s : Db) :
    (resolvingContract once s₀ me o).guar h .query s s :=
  ⟨rfl, fun _ => .quiet rfl rfl rfl rfl, fun e he _ => ⟨e, he, rfl⟩⟩

/-- A reversal of entries of the order. -/
theorem resolving_reverse {p : WalletEntry → Bool} (hsite : site.endsDelivery = false)
    (hof : ∀ e, p e = true → e.orderId = some o) : (resolvingContract once s₀ me o).guar h site s { s with
      walletEntries := s.walletEntries.updateMany p fun e => { e with status := .cancelled } } := by
  refine ⟨hsite, .reverse hsite hof, fun e' he' _ => ?_⟩
  obtain ⟨e, he, ⟨-, rfl⟩ | ⟨-, rfl⟩⟩ := Table.mem_rewritten he'
  · exact ⟨e, he, rfl⟩
  · exact ⟨e', he, rfl⟩

theorem reverseDriverEarning_resolving : Free (resolvingContract once s₀ me o)
    (await (.reverseDriverEarning o) fun _ => reverseDriverEarning o) := by
  refine free_await_total fun h _ s => ⟨(), _, rfl, resolving_reverse rfl fun e he => ?_⟩
  simp only [Bool.and_eq_true, decide_eq_true_eq] at he
  exact he.1.1

theorem refundOrderIfNeeded_resolving : Free (resolvingContract once s₀ me o) (refundOrderIfNeeded o) := by
  have hquiet : ∀ h site s s', site.endsDelivery = false → s'.deliveries = s.deliveries →
      s'.orders = s.orders → s'.walletEntries = s.walletEntries →
      (resolvingContract once s₀ me o).guar h site s s' :=
    fun h site s s' hsite hdeliveries horders hentries =>
      ⟨hsite, fun _ => .quiet hsite hdeliveries horders hentries, fun e he _ => ⟨e, hentries ▸ he, rfl⟩⟩
  refine refundOrderIfNeeded_of resolving_query (fun pi => ?_) (fun refund => ?_) ?_
  · refine free_await (fun h s => hquiet h _ s s rfl rfl rfl rfl) fun h _ s _ s' hrun => ?_
    obtain ⟨refunds, -, -, -, rfl⟩ := createRefund_ok hrun
    exact hquiet h _ _ _ rfl rfl rfl rfl
  · refine free_await (fun h s => hquiet h _ s s rfl rfl rfl rfl) fun h _ s _ s' hrun => ?_
    rw [saveRefund_ok hrun]
    exact ⟨rfl, fun _ => .saveRefund o refund, fun e he _ => ⟨e, he, rfl⟩⟩
  · refine free_await_total fun h _ s => ⟨(), _, rfl, resolving_reverse rfl fun e he => ?_⟩
    simp only [Bool.and_eq_true, decide_eq_true_eq] at he
    exact he.1

/-- A refund fails in silence. -/
theorem refundOrderIfNeeded_ends :
    Sat endContract (fun _ r _ => r = .ok ()) (refundOrderIfNeeded o) h s := by
  refine sat_read_bind fun s₁ _ => ⟨trivial, ?_⟩
  cases s₁.orders.find? o with
  | none => exact sat_pure rfl
  | some row =>
    dsimp only
    split
    -- nothing was paid, or it is refunded already
    · exact sat_pure rfl
    · exact sat_pure rfl
    · refine sat_bind (sat_tryCatch (sat_end fun h r s => ?_))
      cases r with
      -- what Stripe refuses is logged, and left to a person
      | error e => exact sat_pure rfl
      | ok refund =>
        cases refund with
        | none => exact sat_pure rfl
        | some refund =>
          have hreverse : ∀ h s, Sat endContract (fun _ r _ => r = .ok ())
              (await (.reversePending o) fun _ => reversePending o : Handler Unit) h s :=
            fun h s => sat_await_ok fun s₁ _ _ => ⟨⟨_, rfl⟩, fun _ _ _ => ⟨trivial, rfl⟩⟩
          refine sat_bind (sat_tryCatch (sat_end fun h r s => ?_))
          cases r with
          | ok _ => exact hreverse h s
          | error e => exact sat_pure_bind (hreverse h s)

theorem creditSellerEarning_resolving {seller : UserId} {amount : Cents} :
    Free (resolvingContract once s₀ me o) (creditSellerEarning me o seller amount) := by
  refine free_ite free_pure (free_await_total fun h _ s => ⟨(), _, rfl, rfl, fun _ => ?_, fun e he hid => ?_⟩)
  · refine .book (o := o) rfl (fun e he => ?_) fun e he htype => ?_
    · rw [List.mem_singleton.mp he]
      exact ⟨rfl, rfl, nofun⟩
    · rw [List.mem_singleton.mp he] at htype
      cases htype
  · rcases mem_foldl_insertSkippingDuplicate he with hnew | hold
    · rw [List.mem_singleton.mp hnew] at hid
      simp [newEntry, generateUlid] at hid
    · exact ⟨e, hold, rfl⟩

theorem creditSellerEarning_ends {seller : UserId} {amount : Cents} :
    Sat endContract (fun _ r _ => r = .ok ()) (creditSellerEarning me o seller amount) h s :=
  sat_ite (fun _ => sat_pure rfl) fun _ =>
    sat_await_ok fun _ _ _ => ⟨⟨_, rfl⟩, fun _ _ _ => ⟨trivial, rfl⟩⟩

/-- The last part: the driver is charged, and excluded. -/
theorem chargeDriver_road {order : Order} {driver : Option UserId} (hI : Resolving once me order driver h s) :
    Sat (roadContract once s₀ me) (fun h _ s => NothingOwed once h s) (chargeDriver me order d driver) h s := by
  cases driver with
  | none =>
    obtain ⟨row, hrow, -⟩ := hI.order
    exact sat_pure (hI.due s ⟨row, hrow, fun _ u hu => absurd hu (Option.not_mem_none u)⟩)
  | some driver =>
    -- the strike and the suspension are paperwork, and may fail
    have hexclude : ∀ h s, NothingOwed once h s → Sat (roadContract once s₀ me) (fun h _ s => NothingOwed once h s)
        (excludeDriver me order d driver) h s := fun h s hs =>
      hs.paperwork (free_tryCatch (free_bind addStrike_paperwork fun _ => suspendUser_paperwork) fun _ => free_pure)
    refine sat_bind (sat_tryCatch (sat_ite (fun hnothing => ?_) fun _ => ?_))
    · -- an order that costs nothing leaves no debt
      obtain ⟨row, hrow, hsame⟩ := hI.order
      obtain ⟨-, -, -, htotal⟩ := hsame.prices
      refine sat_pure (hexclude h s (hI.due s ⟨row, hrow, fun hpos => ?_⟩))
      exact absurd (htotal ▸ hpos) (Int.not_lt.mpr hnothing)
    · refine sat_await_ok fun s₁ hR i => ⟨⟨_, rfl⟩, fun _ s₂ hrun => ?_⟩
      simp only [Stmt.bind_ok, Stmt.get_ok, createEntries_ok] at hrun
      obtain ⟨_, _, ⟨rfl, rfl⟩, rfl⟩ := hrun
      have hI₁ := hI.onward hR
      obtain ⟨row, hrow, -⟩ := hI₁.order
      refine ⟨.book (o := order.id) rfl (fun e he => ?_) fun _ _ _ => hI₁.undelivered, hexclude _ _ ?_⟩
      · rw [List.mem_singleton.mp he]
        exact ⟨rfl, rfl, fun hcancelled => by cases hcancelled⟩
      · refine NothingOwed.cons (hI₁.due _ ⟨row, hrow, fun _ u hu => ?_⟩) rfl
        obtain rfl := Option.mem_some.mp hu
        obtain ⟨e, he, hsame⟩ := insert_entered (e := newEntry (generateUlid me 10) (.user driver) order.id
          .driverDebt _ _ _ _) hI₁.fresh
        exact ⟨e, he, hsame.orderId, hsame.userId, hsame.type⟩

/-- The resolution, of a delivery on the road that the watchdog has read. -/
theorem resolveDriverDisappeared_road {order : Order} {delivery : Delivery} (hb : Begins me s₀)
    (hR : Onward once me s₀ s) (hdelivery : s.deliveries.find? d = some delivery)
    (hopen : delivery.status ≠ .cancelled) (horder : s.orders.find? delivery.orderId = some order)
    (hh : ∀ s, NothingOwed once h s) : Sat (roadContract once s₀ me) (fun h _ s => NothingOwed once h s)
      (resolveDriverDisappeared me order d delivery.driverId) h s := by
  have hid : order.id = delivery.orderId := Table.key_of_find? horder
  rw [resolveDriverDisappeared_eq]
  refine sat_bind (sat_await_ok fun s₁ hR₁ i => ?_)
  obtain ⟨fresh, hfresh, hlater⟩ := hR₁.deliveries.find? hdelivery
  obtain ⟨row, hrow, hsame⟩ := hR₁.orders.find? horder
  have hof : order.id = fresh.orderId := hid.trans hlater.orderId.symm
  refine ⟨driverDisappearedTx_total hfresh (hid ▸ hrow), fun _ s₂ hrun => ?_⟩
  obtain rfl := disappeared_of_ok hrun
  rw [hof]
  refine ⟨.disappear hfresh fun hcancelled => hopen (hlater.cancelled hcancelled), ?_⟩
  -- until the driver is charged, the transaction is all that is owed for
  have hI : Resolving once me order delivery.driverId
      (⟨Site.driverDisappeared d fresh.orderId, s₁, s₁.disappeared d fresh.orderId⟩ :: h)
      (s₁.disappeared d fresh.orderId) := by
    refine ⟨fun s hcharged => List.forall_mem_cons.mpr ⟨fun d' r hr => ⟨fun _ driver hsite => ?_, fun hsite => ?_⟩,
      hh s⟩, fun _ => ?_, ?_, fun e he hmine => ?_⟩
    · rcases hsite with hsite | hsite
      · cases hsite
      · cases hsite
    · obtain ⟨rfl, hsame⟩ : d = d' ∧ fresh.orderId = r.orderId := by simpa using hsite
      obtain rfl := Option.some.inj (hfresh.symm.trans hr)
      exact hof ▸ hlater.driverId ▸ hcharged
    · exact ⟨d, _, Table.find?_update_of_eq hfresh, hof.symm, .inl rfl⟩
    · refine ⟨Orders.Order.cancel s₁.now .driverDisappeared row, ?_, hsame.amounts, hsame.choice⟩
      rw [← hid, hof] at hrow
      rw [hof]
      exact Table.find?_update_of_eq hrow
    · exact (hR.trans hR₁).fresh hb.fresh e he (hmine ▸ rfl)
  refine hI.bind reverseDriverEarning_resolving
    (fun _ _ => sat_await_ok fun _ _ _ => ⟨⟨_, rfl⟩, fun _ _ _ => ⟨trivial, rfl⟩⟩) fun h s hI => ?_
  refine hI.bind refundOrderIfNeeded_resolving (fun _ _ => refundOrderIfNeeded_ends) fun h s hI => ?_
  refine hI.bind creditSellerEarning_resolving (fun _ _ => creditSellerEarning_ends) fun h s hI => ?_
  exact chargeDriver_road hI

theorem handleDriverDeliveryTimeout_road (hb : Begins me s₀) (hR : Onward once me s₀ s) :
    Sat (roadContract once s₀ me) (fun h _ s => NothingOwed once h s) (handleDriverDeliveryTimeout me d) [] s := by
  refine sat_read_bind fun s₁ hR₁ => ⟨road_query _ _, ?_⟩
  have hh : NothingOwed once [⟨Site.query, s₁, s₁⟩] s₁ := NothingOwed.nil.cons rfl
  cases hd : s₁.deliveries.find? d with
  | none => exact sat_pure hh
  | some delivery =>
    refine sat_ite (fun _ => sat_pure hh) fun _ => sat_ite (fun _ => sat_pure hh) fun hover => ?_
    refine sat_ite (fun _ => sat_pure hh) fun _ => sat_read_bind fun s₂ hR₂ => ⟨road_query _ _, ?_⟩
    have hh' : ∀ s, NothingOwed once [⟨Site.query, s₂, s₂⟩, ⟨Site.query, s₁, s₁⟩] s :=
      fun s => (NothingOwed.nil.cons rfl).cons rfl
    cases ho : s₂.orders.find? delivery.orderId with
    | none => exact sat_pure (hh' s₂)
    | some order =>
      refine sat_ite (fun _ => sat_pure (hh' s₂)) fun _ => ?_
      rw [not_or] at hover
      -- it goes on with the delivery that it has read before the order
      obtain ⟨fresh, hfresh, hlater⟩ := hR₂.deliveries.find? hd
      rw [← hlater.driverId]
      refine resolveDriverDisappeared_road hb ((hR.trans hR₁).trans hR₂) hfresh
        (fun hcancelled => hover.2 (hlater.cancelled hcancelled)) (hlater.orderId ▸ ho) hh'

/-- **Every call that ends a delivery**: it does what the contract allows, and leaves nothing owed. -/
theorem handle_road {call : Call} (hends : call.endsDelivery = true) (hb : Begins me s₀)
    (hR : Onward once me s₀ s) :
    Sat (roadContract once s₀ me) (fun h _ s => NothingOwed once h s) (handle cfg me call) [] s := by
  have hreply : ∀ {α : Type} {p : Handler α} {reply : α → Reply},
      Sat (roadContract once s₀ me) (fun h _ s => NothingOwed once h s) p [] s →
      Sat (roadContract once s₀ me) (fun h _ s => NothingOwed once h s) (do return reply (← p)) [] s := by
    intro α p reply hp
    refine sat_bind (hp.post fun h r s hs => ?_)
    cases r with
    | ok a => exact hs
    | error e => exact hs
  cases call with
  | confirmDelivery sub d dto => exact hreply (confirmDelivery_road hb hR)
  | confirmAbsentDropoff sub d dto => exact hreply (confirmAbsentDropoff_road hb hR)
  | handleDriverDeliveryTimeout d => exact hreply (handleDriverDeliveryTimeout_road hb hR)
  | _ => cases hends

/-! ## The start -/

theorem CalledOff.undelivered (hoff : CalledOff s o) : s.undelivered o := by
  obtain ⟨-, d, r, -, -, hr, hof, hover⟩ := hoff
  exact ⟨d, r, hr, hof, hover.symm⟩

/-- No debt is due for an order that was delivered. -/
theorem dueCredits_type {row : Order} {driver : Option UserId} {c : Credit} (hc : c ∈ dueCredits row driver) :
    c.type ≠ .driverDebt := by
  unfold dueCredits at hc
  grind

/-- Where calls have run one at a time, nothing stands in the way of the calls on the road. -/
theorem OnRoad.of_reconciled {n : Nat} (hI : Reconciled cfg n s) : OnRoad once s s where
  origin d r hr := ⟨r, hr, rfl, rfl⟩
  unique := hI.audited.dated.proven.paired.unique
  driver d r hr hconfirmed := by
    have hs := hI.audited.dated.proven.sound d r hr
    exact hs.driver (hs.handedOver (hs.delivered.mpr hconfirmed))
  delivered _ d r hr := (hI.audited.dated.proven.sound d r hr).delivered
  charged _ e he o hof htype := by
    refine CalledOff.undelivered (hI.audited.calledOff e he o hof fun hplain => ?_)
    -- a debt is no credit of an order
    have hcredit : (⟨e.userId, .driverDebt, e.amountCents⟩ : Credit) ∈ s.credits o :=
      List.mem_filterMap.mpr ⟨e, he, by rw [WalletEntry.creditOf, if_pos ⟨hof, hplain⟩, htype]⟩
    rcases hI.audited.credits o with hnone | ⟨row, τ, -, -, -, hdue⟩
    · rw [hnone] at hcredit
      cases hcredit
    · rw [hdue, List.mem_reverse] at hcredit
      exact dueCredits_type hcredit rfl
  lost _ e he hstatus d r₀ hr₀ hof := by
    by_cases hplain : e.metadata = none
    · -- a credit is of an order that was handed over
      have hcredit : (⟨e.userId, e.type, e.amountCents⟩ : Credit) ∈ s.credits r₀.orderId :=
        List.mem_filterMap.mpr ⟨e, he, by rw [WalletEntry.creditOf, if_pos ⟨hof, hplain⟩]⟩
      rcases hI.audited.credits r₀.orderId with hnone | ⟨row, τ, hrow, -, hhanded, -⟩
      · rw [hnone] at hcredit
        cases hcredit
      · by_cases hopen : r₀.status = .cancelled
        · exact .inl ⟨d, r₀, hr₀, rfl, .inr hopen⟩
        · have hchoice := hI.audited.dated.proven.choice d r₀ row hr₀ hrow hopen
          obtain ⟨d', r, hr, hof', hdelivered⟩ := hhanded.delivery hrow hchoice
          obtain rfl := hI.audited.dated.proven.paired.unique d d' r₀ r hr₀ hr hof'.symm
          obtain rfl := Option.some.inj (hr₀.symm.trans hr)
          exact .inr hdelivered
    · exact .inl (CalledOff.undelivered (hI.audited.calledOff e he _ hof hplain))

theorem Begins.of_reconciled {n : Nat} (hI : Reconciled cfg n s) (hme : n ≤ me) : Begins me s where
  unique := hI.audited.dated.proven.paired.unique
  order d r hr hout := by
    obtain ⟨row, hrow, -⟩ := hI.audited.dated.proven.paired.order d r hr
    refine ⟨row, hrow, hI.audited.dated.proven.choice d r row hr hrow fun hcancelled => ?_⟩
    simp [hcancelled, outForDelivery] at hout
  fresh e he := ((hI.known e he).trans_le hme).ne

/-! ## The calls together -/

theorem Onward.event (e : Event) (s : Db) : Onward once me s (applyEvent e s) := by
  cases e with
  | tick ms => exact .of_eq rfl rfl rfl
  | paymentSucceeds pi => exact .of_eq rfl rfl rfl

theorem OnRoad.event (hI : OnRoad once s₀ s) (e : Event) : OnRoad once s₀ (applyEvent e s) := by
  cases e with
  | tick ms => exact ⟨hI.origin, hI.unique, hI.driver, hI.delivered, hI.charged, hI.lost⟩
  | paymentSucceeds pi => exact ⟨hI.origin, hI.unique, hI.driver, hI.delivered, hI.charged, hI.lost⟩

/-- Every call keeps to its contract, among the others. -/
theorem road_sound (once : Prop) {n : Nat} (hI : Reconciled cfg n s) (actions : List (Pool.Action (roadService cfg n)))
    (hc : once → (poolRun s actions).Steps EndsOnce) :
    Pool.Sound (fun j => roadContract once s (n + j)) (fun _ _ h _ s => NothingOwed once h s) (OnRoad once s) s
      (poolRun s actions) :=
  Pool.sound (S := roadService cfg n) (C := fun j => roadContract once s (n + j)) (.of_reconciled hI) (fun _ s _ => Onward.refl s)
    (fun _ _ _ _ => Onward.trans) (fun _ _ _ _ _ _ hR hQ => hQ.onward hR)
    (fun _ _ _ _ _ hI hc hstep => RoadStep.onRoad hstep hI hc)
    (fun i j _ _ _ _ hij hI hc hstep => RoadStep.onward hstep hI hc (by omega))
    (fun e s hI => ⟨hI.event e, fun _ => Onward.event e s⟩)
    (fun j c s _ hR hadm => handle_road hadm (.of_reconciled hI (Nat.le_add_right n j)) hR) actions
    fun e he honce => hc honce e he

/-- When every call is over, nothing is owed for any step. -/
theorem road_settled (once : Prop) {n : Nat} (hI : Reconciled cfg n s)
    {actions : List (Pool.Action (roadService cfg n))}
    (hc : once → (poolRun s actions).Steps EndsOnce) (hover : (poolRun s actions).AllOver)
    {e : Entry machine} (he : e ∈ (poolRun s actions).trace) :
    Owed once (poolRun s actions).state e.toStepRecord := by
  have hsound := road_sound once hI actions hc
  obtain ⟨r, hr⟩ := Option.isSome_iff_exists.mp (hover e.thread (hsound.arrived e he))
  obtain ⟨c, -, hsettled⟩ := hsound.result hr
  exact hsettled _ (List.mem_map_of_mem (List.mem_filter.mpr ⟨he, decide_eq_true rfl⟩))

/-! ## Where deliveries end once -/

/-- Only a driver's confirmation confirms a delivery. -/
theorem RoadStep.confirms (hstep : RoadStep once s₀ me site s s') {r : Delivery}
    (hr : s.deliveries.find? d = some r) (hbefore : r.deliveredConfirmedAt = none) {r' : Delivery}
    (hr' : s'.deliveries.find? d = some r') (hafter : r'.deliveredConfirmedAt.isSome = true) :
    ∃ driver, r.driverId = some driver ∧
      (site = .confirmDelivery d driver ∨ site = .confirmAbsentDropoff d driver) := by
  obtain ⟨r₁, hr₁, hmove⟩ := hstep.row hr'
  obtain rfl := Option.some.inj (hr.symm.trans hr₁)
  have hid : r.id = d := Table.key_of_find? hr
  cases hmove with
  | stay => simp [hbefore] at hafter
  | @confirm _ _ driver hsite hdriver _ _ _ _ _ _ _ => exact ⟨driver, hdriver, hid ▸ hsite⟩
  | fail hsite hopen hof hby hstatus hsame => simp [hsame, hbefore] at hafter

theorem OnRoad.spared (hI : OnRoad True s₀ s) : DriversSpared s := by
  rintro r hr hconfirmed driver - ⟨e, he, hof, -, htype⟩
  have hfound : s.deliveries.find? r.id = some r := Table.find?_of_mem hr
  have hdelivered := (hI.delivered trivial _ r hfound).mpr hconfirmed
  exact hI.not_undelivered hfound hdelivered (hI.charged trivial e he _ hof htype)

/-- What was earned with a delivery that was confirmed since the start is not lost. -/
theorem OnRoad.earns {r r₀ : Delivery} (hI : OnRoad True s₀ s) (hr : s.deliveries.find? d = some r)
    (hconfirmed : r.deliveredConfirmedAt.isSome = true) (hr₀ : s₀.deliveries.find? d = some r₀)
    (hopen : r₀.status ≠ .delivered) (hentered : s.entered r.orderId u type) : s.earns r.orderId u type := by
  obtain ⟨e, he, hof, hu, htype⟩ := hentered
  refine ⟨e, he, hof, hu, htype, fun hcancelled => ?_⟩
  obtain ⟨r₁, hr₁, hsame, -⟩ := hI.origin d r hr
  obtain rfl := Option.some.inj (hr₀.symm.trans hr₁)
  have hdelivered := (hI.delivered trivial d r hr).mpr hconfirmed
  rcases hI.lost trivial e he hcancelled d r₀ hr₀ (hsame ▸ hof) with hover | hbefore
  · exact hI.not_undelivered hr hdelivered (hsame ▸ hover)
  · exact hopen hbefore

/-- **Who delivers is paid**, once all calls are over. -/
theorem paysConfirmed_of_once {n : Nat} (hI : Reconciled cfg n s)
    {actions : List (Pool.Action (roadService cfg n))} (hc : (poolRun s actions).Steps EndsOnce)
    (hover : (poolRun s actions).AllOver) : PaysConfirmed s (poolRun s actions).state := by
  intro d r r' hr hnone hr' hconfirmed
  have hsound := road_sound True hI actions fun _ => hc
  have hend : OnRoad True s (poolRun s actions).state := hsound.inv
  -- some step has confirmed it
  obtain hstart | ⟨later, e, earlier, htrace, hbefore, hafter⟩ := Pool.comes_about
    (P := fun s => (Table.find? (Db.deliveries s) d).any fun r => r.deliveredConfirmedAt.isSome)
    (fun e s hP => by cases e with | _ => exact hP) actions (by rw [hr']; exact hconfirmed)
  · simp [hr, hnone] at hstart
  have he : e ∈ (poolRun s actions).trace := by simp [htrace]
  obtain ⟨h, hpre, -, hstep⟩ := hsound.step e he
  obtain ⟨r₂, hr₂, hafter⟩ := (Option.any_eq_true _ _).mp hafter
  obtain ⟨r₁, hr₁, -⟩ := RoadStep.row hstep hr₂
  have hbefore : r₁.deliveredConfirmedAt = none := by simpa [hr₁] using hbefore
  obtain ⟨driver, hdriver, hsite⟩ := RoadStep.confirms hstep hr₁ hbefore hr₂ hafter
  -- and the call that took it has paid for it
  obtain ⟨row, hrow, hseller, hpaid⟩ := (road_settled True hI (fun _ => hc) hover he d r₁ hr₁).1 trivial driver hsite
  obtain ⟨r₀, hr₀, hof₀, hby₀⟩ := hpre.origin d r₁ hr₁
  obtain ⟨r₀', hr₀', hof', hby'⟩ := hend.origin d r' hr'
  obtain rfl := Option.some.inj (hr₀.symm.trans hr₀')
  have hopen : r₀.status ≠ .delivered := by
    obtain rfl := Option.some.inj (hr.symm.trans hr₀)
    intro hdelivered
    have hconfirmed := (hI.audited.dated.proven.sound d r hr).delivered.mp hdelivered
    simp [hnone] at hconfirmed
  have hof : r₁.orderId = r'.orderId := hof₀.trans hof'.symm
  have hid : row.id = r'.orderId := (Table.key_of_find? hrow).trans hof
  refine ⟨row, driver, hof ▸ hrow, hby'.trans (hby₀.symm.trans hdriver), fun hpos => ?_, fun hpos => ?_⟩
  · exact hid ▸ hend.earns hr' hconfirmed hr₀ hopen (hof ▸ hseller hpos)
  · exact hid ▸ hend.earns hr' hconfirmed hr₀ hopen (hof ▸ hpaid hpos)

/-! ## Where they do not -/

theorem endsOnce_of_quiet (hsite : site.endsDelivery = false) : EndsOnce site s := by
  unfold EndsOnce
  split
  · cases hsite
  · cases hsite
  · cases hsite
  · trivial

/-- A delivery that has failed since the start, the watchdog has failed. -/
theorem failed_by_watchdog {n : Nat} (hI : Reconciled cfg n s) {actions : List (Pool.Action (roadService cfg n))}
    {later earlier : List (Entry machine)} {e : Entry machine} {r r₀ : Delivery}
    (htrace : (poolRun s actions).trace = later ++ e :: earlier) (hr₀ : s.deliveries.find? d = some r₀)
    (hopen : r₀.status ≠ .failed) (hr : Table.find? (Db.deliveries e.pre) d = some r)
    (hfailed : r.status = .failed) :
    ∃ e' ∈ earlier, ∃ r', Table.find? (Db.deliveries e'.pre) d = some r' ∧
      e'.site = .driverDisappeared d r'.orderId := by
  have hsound := road_sound False hI actions nofun
  have hstart : ∀ r, s.deliveries.find? d = some r → r.status = .failed → ∃ e' ∈ ([] : List (Entry machine)),
      ∃ r', Table.find? (Db.deliveries e'.pre) d = some r' ∧ e'.site = .driverDisappeared d r'.orderId :=
    fun r hr hfailed => absurd hfailed (Option.some.inj (hr₀.symm.trans hr) ▸ hopen)
  -- by induction on the run: a delivery that is failed now was failed by a step of the trace
  have hpast := Pool.history_past (S := roadService cfg n) (I := fun s trace => ∀ r,
      Table.find? (Db.deliveries s) d = some r → r.status = .failed →
      ∃ e' ∈ trace, ∃ r', Table.find? (Db.deliveries e'.pre) d = some r' ∧ e'.site = .driverDisappeared d r'.orderId)
    hstart (fun e s trace hI => by cases e with | _ => exact hI) actions fun later e earlier htrace hpre _ r' hr' hfailed => by
      obtain ⟨h, -, -, hstep⟩ := hsound.step e (by simp [htrace])
      obtain ⟨r, hr, hmove⟩ := RoadStep.row hstep hr'
      cases hmove with
      | stay =>
        obtain ⟨e', he', hfound⟩ := hpre r' hr hfailed
        exact ⟨e', List.mem_cons_of_mem _ he', hfound⟩
      | confirm hsite hdriver hopen hr₀ hroad hof hby hstatus hconfirmed =>
        cases hstatus.symm.trans hfailed
      | fail hsite hopen hof hby hstatus hconfirmed =>
        have hid : r.id = d := Table.key_of_find? hr
        exact ⟨e, List.mem_cons_self .., r, hr, hid ▸ hsite⟩
  exact hpast.2 later e earlier htrace r hr hfailed

/-- Where the watchdog has failed a delivery, its driver is charged when all calls are over. -/
theorem charged_of_disappeared {n : Nat} (hI : Reconciled cfg n s)
    {actions : List (Pool.Action (roadService cfg n))} (hover : (poolRun s actions).AllOver)
    (hpos : ∀ row ∈ s.orders.rows, 0 < row.buyerTotalCents) {e : Entry machine}
    (he : e ∈ (poolRun s actions).trace) {r : Delivery} (hr : Table.find? (Db.deliveries e.pre) d = some r)
    (hsite : e.site = .driverDisappeared d r.orderId) {driver : UserId} (hdriver : r.driverId = some driver) :
    (poolRun s actions).state.entered r.orderId driver .driverDebt := by
  have hsound := road_sound False hI actions nofun
  obtain ⟨h, hpre, -⟩ := hsound.step e he
  -- the call that failed it is over, so it has charged him, whatever the other calls did
  obtain ⟨row, hrow, hdebt⟩ := (road_settled False hI nofun hover he d r hr).2 hsite
  refine hdebt ?_ driver hdriver
  -- the order costs what it did at the start
  obtain ⟨r₀, hr₀, hof, -⟩ := hpre.origin d r hr
  obtain ⟨row₀, hrow₀, -⟩ := hI.audited.dated.proven.paired.order d r₀ hr₀
  have honward : Onward False _ s (poolRun s actions).state := hsound.absent _ (Nat.le_refl _)
  obtain ⟨row', hrow', hsame⟩ := honward.orders.find? hrow₀
  obtain rfl := Option.some.inj (hrow.symm.trans (hof ▸ hrow'))
  obtain ⟨-, -, -, htotal⟩ := hsame.prices
  exact htotal ▸ hpos row₀ (Table.mem_of_find? hrow₀)

/-- **Who ends a delivery that has ended already does harm.** -/
theorem endsOnce_of_spared {n : Nat} (hI : Reconciled cfg n s)
    {actions : List (Pool.Action (roadService cfg n))} (hover : (poolRun s actions).AllOver)
    (hpos : ∀ row ∈ s.orders.rows, 0 < row.buyerTotalCents)
    (hspared : DriversSpared (poolRun s actions).state) : (poolRun s actions).Steps EndsOnce := by
  have hsound := road_sound False hI actions nofun
  -- a confirmation is never taken back, with or without the condition
  have hchain := Pool.chain (R := fun a b => Table.Carries (Later False) (Db.deliveries a) (Db.deliveries b))
    (fun s => .refl Later.refl _) (fun _ _ _ => .trans fun _ _ _ h h' => h.trans h')
    (fun e s => (show Onward False 0 s (applyEvent e s) from .event e s).deliveries) actions fun e he => by
      obtain ⟨h, hpre, -, hstep⟩ := hsound.step e he
      exact (RoadStep.onward hstep hpre nofun (Nat.succ_ne_self _)).deliveries
  -- who has delivered is not charged, then or later
  have hfree : ∀ e ∈ (poolRun s actions).trace, ∀ d r, Table.find? (Db.deliveries e.post) d = some r →
      r.deliveredConfirmedAt.isSome = true → ∀ driver, r.driverId = some driver →
      ¬(poolRun s actions).state.entered r.orderId driver .driverDebt := by
    intro e he d r hr hconfirmed driver hdriver hcharged
    obtain ⟨r', hr', hlater⟩ := (hchain.last e he).2.find? hr
    refine hspared r' (Table.mem_of_find? hr') (hlater.confirmed hconfirmed) driver
      (hlater.driverId.trans hdriver) (hlater.orderId.symm ▸ hcharged)
  intro e he
  obtain ⟨later, earlier, htrace⟩ := List.append_of_mem he
  obtain ⟨h, hpre, -, hstep⟩ := hsound.step e he
  obtain ⟨⟨site, pre, post⟩, j⟩ := e
  dsimp only at hpre hstep ⊢
  cases hstep with
  | quiet hsite => exact endsOnce_of_quiet hsite
  | @confirm _ _ d driver r r₀ f hf hsite hr hdriver hopen hr₀ hroad hconfirms =>
    have hnot : r.status ≠ .failed := by
      intro hfailed
      have hopen₀ : r₀.status ≠ .failed := by
        intro hbefore
        simp [hbefore, outForDelivery] at hroad
      obtain ⟨e', he', r', hr', hsite'⟩ := failed_by_watchdog hI htrace hr₀ hopen₀ hr hfailed
      have hmem : e' ∈ (poolRun s actions).trace := by simp [htrace, he']
      -- the delivery that the watchdog had found is this one
      obtain ⟨h', hpre', -⟩ := hsound.step e' hmem
      obtain ⟨r₁, hr₁, hof₁, hby₁⟩ := hpre.origin d r hr
      obtain ⟨r₂, hr₂, hof₂, hby₂⟩ := hpre'.origin d r' hr'
      obtain rfl := Option.some.inj (hr₁.symm.trans hr₂)
      have hcharged := charged_of_disappeared hI hover hpos hmem hr' hsite' (hby₂.trans (hby₁.symm.trans hdriver))
      refine hfree _ he d (f r) (Table.find?_update_of_eq hr hf) (hconfirms.confirmed r) driver
        ((hconfirms.driverId r).trans hdriver) ?_
      rw [hconfirms.orderId, hof₁, ← hof₂]
      exact hcharged
    rcases hsite with rfl | rfl
    · simp [EndsOnce, hr, hnot]
    · simp [EndsOnce, hr, hnot]
  | @disappear _ d r hr hopen =>
    -- were it confirmed, this very call would charge its driver in the end
    have hnone : r.deliveredConfirmedAt.isNone = true := by
      by_contra hconfirmed
      rw [Bool.not_eq_true, Option.isNone_eq_false_iff] at hconfirmed
      obtain ⟨driver, hdriver⟩ := Option.isSome_iff_exists.mp (hpre.driver d r hr hconfirmed)
      have hcharged := charged_of_disappeared hI hover hpos he hr rfl hdriver
      exact hfree _ he d _ (Table.find?_update_of_eq hr) hconfirmed driver hdriver hcharged
    simp [EndsOnce, hr, hnone]
  | deliver o => exact endsOnce_of_quiet rfl
  | saveRefund o refund => exact endsOnce_of_quiet rfl
  | reverse hsite hof hover => exact endsOnce_of_quiet hsite
  | book hsite hrows hdebt => exact endsOnce_of_quiet hsite

end

/-! ## The result -/

/-- **Deliveries at the last minute.** From any state that calls made one at a time lead to, any
number of drivers' confirmations and of watchdogs interleave, statement by statement. Where every
driver's update finds his delivery not failed, and every watchdog's transaction finds its delivery
not confirmed, no driver is ever charged for an order that he delivered; and when all calls are over,
whoever delivered meanwhile is paid, and so is the seller. Where orders cost something, a run that
is over and has charged no driver for what he delivered has met the condition. -/
theorem delivered_or_disappeared (cfg : Config) (s₀ : Db) (h0 : Fresh s₀) (history : List (Input (service cfg)))
    (actions : List (Pool.Action (roadService cfg (serialRun s₀ history).calls.length))) :
    let start := (serialRun s₀ history).state
    let pool := poolRun start actions
    (pool.Steps EndsOnce → Pool.Always DriversSpared start actions ∧
      (pool.AllOver → PaysConfirmed start pool.state)) ∧
    (pool.AllOver → (∀ row ∈ start.orders.rows, 0 < row.buyerTotalCents) →
      DriversSpared pool.state → pool.Steps EndsOnce) := by
  intro start pool
  have hI : Reconciled cfg (serialRun s₀ history).calls.length start := serialRun_reconciled h0 history
  refine ⟨fun hc => ⟨?_, paysConfirmed_of_once hI hc⟩, endsOnce_of_spared hI⟩
  rintro before after rfl
  exact OnRoad.spared (road_sound True hI before fun _ => Pool.Steps.before hc).inv

/-- The calls after the small town's order was picked up. -/
abbrev roadTown : Service machine := roadService smallTownConfig (serialRun smallTown orderPickedUp).calls.length

/-- The watchdog (call 0) has read the delivery when the driver scans the buyer's code (call 1). -/
def scanInTime : List (Pool.Action roadTown) :=
  [.arrive (.handleDriverDeliveryTimeout ⟨3, 2⟩), .run 0 ⟨true, "token", ""⟩] ++
    .arrive (.confirmDelivery "driver" ⟨3, 2⟩ ⟨"token", none, none⟩) ::
    List.replicate 12 (.run 1 ⟨true, "token", ""⟩) ++ List.replicate 12 (.run 0 ⟨true, "token", ""⟩)

/-- The same, when it has read the order, too. -/
def scanAtLastMinute : List (Pool.Action roadTown) :=
  .arrive (.handleDriverDeliveryTimeout ⟨3, 2⟩) :: List.replicate 2 (.run 0 ⟨true, "token", ""⟩) ++
    .arrive (.confirmDelivery "driver" ⟨3, 2⟩ ⟨"token", none, none⟩) ::
    List.replicate 12 (.run 1 ⟨true, "token", ""⟩) ++ List.replicate 20 (.run 0 ⟨true, "token", ""⟩)

theorem scanInTime_paid : (poolRun pickedUpTown scanInTime).AllOver ∧
    ((poolRun pickedUpTown scanInTime).state.deliveries.find? ⟨3, 2⟩).any
      (fun r => r.deliveredConfirmedAt.isSome) = true ∧
    Pool.Always DriversSpared pickedUpTown scanInTime ∧
    PaysConfirmed pickedUpTown (poolRun pickedUpTown scanInTime).state ∧
    ¬DriversSpared (poolRun pickedUpTown scanAtLastMinute).state := by
  have hover : (poolRun pickedUpTown scanInTime).AllOver := by decide +kernel
  have hspared := (delivered_or_disappeared smallTownConfig smallTown smallTown_fresh orderPickedUp
    scanInTime).1 (by decide +kernel)
  have hcharged := (delivered_or_disappeared smallTownConfig smallTown smallTown_fresh orderPickedUp
    scanAtLastMinute).2 (by decide +kernel) (by decide +kernel)
  have htwice : ¬(poolRun pickedUpTown scanAtLastMinute).Steps EndsOnce := by decide +kernel
  exact ⟨hover, by decide +kernel, hspared.1, hspared.2 hover, fun h => htwice (hcharged h)⟩

/-- **Delivered, and charged.** The driver has his order's buyer's proof, and a debt of what the buyer
paid; his own earnings are cancelled, and so are the seller's. -/
theorem scanAtLastMinute_charged : (poolRun pickedUpTown scanAtLastMinute).AllOver ∧
    ¬DriversSpared (poolRun pickedUpTown scanAtLastMinute).state ∧
    ¬PaysConfirmed pickedUpTown (poolRun pickedUpTown scanAtLastMinute).state := by
  refine ⟨by decide +kernel, by decide +kernel, fun hpays => ?_⟩
  have hstart : (pickedUpTown.deliveries.find? ⟨3, 2⟩).any (fun r => r.deliveredConfirmedAt = none) = true := by
    decide +kernel
  have hend : ((poolRun pickedUpTown scanAtLastMinute).state.deliveries.find? ⟨3, 2⟩).any
      (fun r => r.deliveredConfirmedAt.isSome && r.orderId = ⟨0, 0⟩) = true := by
    decide +kernel
  have hlost : ((poolRun pickedUpTown scanAtLastMinute).state.orders.find? ⟨0, 0⟩).all (fun row =>
      0 < row.sellerEarningsCents &&
        ¬(poolRun pickedUpTown scanAtLastMinute).state.earns row.id row.sellerId .orderEarning) = true := by
    decide +kernel
  obtain ⟨r, hr, hopen⟩ := (Option.any_eq_true _ _).mp hstart
  obtain ⟨r', hr', hfacts⟩ := (Option.any_eq_true _ _).mp hend
  simp only [Bool.and_eq_true, decide_eq_true_eq] at hopen hfacts
  obtain ⟨row, driver, hrow, -, hseller, -⟩ := hpays ⟨3, 2⟩ r r' hr hopen hr' hfacts.1
  rw [hfacts.2] at hrow
  rw [hrow, Option.all_some, Bool.and_eq_true, decide_eq_true_eq, decide_eq_true_eq] at hlost
  exact hlost.2 (hseller hlost.1)

end IncaCook
