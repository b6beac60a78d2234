import Mathlib.Logic.Relation
import IncaCook.Model.System

/-!
# What one step of the system can do

`Step cfg R me call h site s s'` lists, once for all properties, what a single
step of call number `me` may do to the shared state: one constructor for each
statement of the source that writes, with what the call had observed before it.

A call does not observe the state it writes to, only earlier ones, so an
observation is made in some earlier state `s₀` with `R s₀ s`, where `R` is
whatever the reader of the step knows about the moves of the other calls. With
equality for `R` the observations are about the state itself (serial runs); with
a weaker relation they are about the past (pool runs). Some observations are
about the call's own earlier steps, which the list `h` holds, newest first.

`stepContract` packages the relation as a contract; the modules beside this one
prove that every handler meets it.
-/

namespace IncaCook

open Prog Orders Deliveries Wallets Webhooks

/-- Only rows that no order, delivery, payment or ledger statement reads back
change: accounts, profiles, addresses, strikes, disputes, Stripe's numbering. -/
structure Aside (s s' : Db) : Prop where
  now : s'.now = s.now
  orders : s'.orders = s.orders
  deliveries : s'.deliveries = s.deliveries
  walletEntries : s'.walletEntries = s.walletEntries
  listings : s'.listings = s.listings
  paymentIntents : s'.paymentIntents = s.paymentIntents
  refunds : s'.refunds = s.refunds
  transfers : s'.transfers = s.transfers
  supabaseIds : s'.users.rows.map (fun u => (u.id, u.supabaseId, u.role))
    = s.users.rows.map (fun u => (u.id, u.supabaseId, u.role))

theorem Aside.refl (s : Db) : Aside s s := ⟨rfl, rfl, rfl, rfl, rfl, rfl, rfl, rfl, rfl⟩

/-- The statements about accounts, strikes and disputes, and the reads. -/
def Site.paperwork : Site → Bool
  | .query | .createDispute _ | .updateDispute _ | .chargeback _ | .createStrike _
  | .suspendUser _ => true
  | _ => false

/-- The contract of a handler that does paperwork only. -/
def paperworkContract (R : Db → Db → Prop) : Contract machine where
  rely := R
  guar _ site s s' := site.paperwork = true ∧ Aside s s'

/-- Calls that refund an order in whatever status it is. -/
def Call.decidesDispute : Call → Bool
  | .createDispute .. => true
  | .adminApproveRefund .. => true
  | _ => false

section

variable (cfg : Config) (R : Db → Db → Prop) (me : Nat) (call : Call)
  (h : List (StepRecord machine))

/-- The order was seen, earlier, in a row with property `P`. -/
def SawOrder (s : Db) (o : OrderId) (P : Order → Prop) : Prop :=
  ∃ s₀ row, R s₀ s ∧ s₀.orders.find? o = some row ∧ P row

/-- The delivery was seen, earlier, in a row with property `P`. -/
def SawDelivery (s : Db) (d : DeliveryId) (P : Delivery → Prop) : Prop :=
  ∃ s₀ row, R s₀ s ∧ s₀.deliveries.find? d = some row ∧ P row

/-- What `isPaymentSucceeded` saw of an order's PaymentIntent. -/
def SawPayment (s : Db) (order : Order) : Prop :=
  (cfg.development = true ∧ ∀ n, order.stripePaymentIntentId ≠ some (.stripe n)) ∨
    ∃ s₁ pi row, R s₁ s ∧ order.stripePaymentIntentId = some pi ∧
      s₁.paymentIntents.find? pi = some row ∧ row.succeeded = true

/-- What a webhook event about a PaymentIntent saw: the event was genuine when it
arrived, and the order was found by its metadata or its recorded id. -/
def SawEvent (succeeded : Bool) (s : Db) (ev : PaymentIntentEvent) (order : Order) : Prop :=
  ∃ a s₀, R a s₀ ∧ R s₀ s ∧ genuine a ev succeeded = true ∧
    s₀.orders.find? order.id = some order ∧ order.status = .pending ∧
    (ev.metadataOrderId = some order.id ∨ order.stripePaymentIntentId = some ev.id)

/-- The call has moved a delivery, read as one of the order's, to a status. -/
def MovedDelivery (status : DeliveryStatus) (s : Db) (o : OrderId) : Prop :=
  ∃ t ∈ h, ∃ s₀ d seen fresh row deliveries, R s₀ t.pre ∧ s₀.deliveries.find? d = some seen ∧
    seen.orderId = o ∧ t.pre.deliveries.find? d = some fresh ∧
    t.post = { t.pre with deliveries } ∧ deliveries.find? d = some row ∧
    row.orderId = fresh.orderId ∧ row.status = status ∧ R t.post s

/-- Moves of the others, and own steps that leave the orders alone. -/
def Meanwhile : Db → Db → Prop := Relation.ReflTransGen fun a b => R a b ∨ b.orders = a.orders

/-- Why a call refunds an order: it decides a dispute, or it has just cancelled
the order itself, or it had reason to and lost a race. -/
def RefundCause (s : Db) (o : OrderId) : Prop :=
  call.decidesDispute = true ∨
    (∃ s₀ row, Meanwhile R s₀ s ∧ s₀.orders.find? o = some row ∧ row.status = .cancelled) ∨
    ∃ s₀ s₁ row fresh, R s₀ s₁ ∧ s₀.orders.find? o = some row ∧ row.status ∈ cancellableFrom ∧
      s₁.orders.find? o = some fresh ∧ fresh.status ∉ cancellableFrom

/-- The steps. -/
inductive Step : Site → Db → Db → Prop where
  /-- a read, a remote call, or a statement that failed -/
  | noop (site : Site) (s : Db) : Step site s s
  | aside {site : Site} {s s' : Db} (haside : Aside s s') : Step site s s'
  | placeOrder {s : Db} {listings : Table Listing} {orders : Table Order} (args : InsertOrderArgs)
      (hid : args.orderId = generateUlid me 0)
      (hstock : atomicDecrementInventory cfg args.dto.items args.cart.listings s
        = .ok ((), { s with listings }))
      (hnew : s.orders.insert? (newOrder { s with listings } args) = some orders) :
      Step (.placeOrder args.orderId) s { s with listings, orders }
  | createPaymentIntent {s : Db} {paymentIntents : Table PaymentIntent} (row : PaymentIntent)
      (hrow : row.orderId = generateUlid me 0)
      -- the order is new: this call created it
      (hplaced : ∃ t ∈ h, (∃ a, R a t.pre) ∧ t.pre.orders.find? row.orderId = none ∧
        (∃ order, t.post.orders.find? row.orderId = some order) ∧
        t.post.paymentIntents = t.pre.paymentIntents ∧ R t.post s)
      (hnew : s.paymentIntents.insert? row = some paymentIntents) :
      Step (.createPaymentIntent row.orderId) s
        { s with paymentIntents, stripeNext := s.stripeNext + 1 }
  | savePaymentIntent {s : Db} (o : OrderId) (pi : PaymentIntentId)
      (hpi : (cfg.development = true ∧ pi = .dev o) ∨
        ∃ s₀ row, R s₀ s ∧ s₀.paymentIntents.find? pi = some row ∧ row.orderId = o) :
      Step (.savePaymentIntent o) s
        { s with orders := s.orders.update o fun r => { r with stripePaymentIntentId := some pi } }
  | confirmPayment {s : Db} (o : OrderId)
      (hsaw : SawOrder R s o fun row => row.status = .pending ∧ SawPayment cfg R s row) :
      Step (.confirmPayment o) s { s with orders := s.orders.update o fun r =>
        { r with status := .confirmed, confirmedAt := some s.now } }
  | paymentSucceeded {s : Db} (ev : PaymentIntentEvent) (order : Order)
      (hsaw : SawEvent R true s ev order) :
      Step (.paymentSucceeded order.id) s { s with
        orders := s.orders.update order.id
          (fun r => backfill order ev.id { r with status := .confirmed, confirmedAt := some s.now })
          (fun _ => (backfill_id order ev.id _).trans rfl) }
  | paymentFailed {s : Db} (ev : PaymentIntentEvent) (order fresh : Order) (reason : Reason)
      (hsaw : SawEvent R false s ev order) (hfresh : s.orders.find? order.id = some fresh)
      (hpending : fresh.status = .pending) :
      Step (.paymentFailed order.id) s { s with
        listings := giveBack fresh.inventoryRestored fresh.items s.listings
        orders := s.orders.update order.id
          (fun r => backfill order ev.id
            (Orders.Order.cancelRestored s.now reason r))
          (fun _ => (backfill_id order ev.id _).trans rfl) }
  | startPreparing {s : Db} (o : OrderId) (hsaw : SawOrder R s o fun row => row.status = .confirmed) :
      Step (.transitionAsSeller o .preparing) s
        { s with orders := s.orders.update o fun r => { r with status := .preparing } }
  | markReady {s : Db} (o : OrderId) (choice : FulfillmentChoice) (token : String)
      {deliveries : Table Delivery}
      (hsaw : SawOrder R s o fun row => row.status = .preparing ∧ row.fulfillmentChoice = choice)
      (hnew : match choice with
        | .delivery => s.deliveries.insert? (newDelivery (generateUlid me 2) o token s.now)
            = some deliveries
        | .pickup => deliveries = s.deliveries) :
      Step (.markReady o choice) s { s with
        orders := s.orders.update o fun r => { r with status := .ready, readyAt := some s.now }
        deliveries }
  | mintPickupToken {s : Db} (d : DeliveryId) (token : String)
      (hsaw : SawDelivery R s d fun row => truthy row.pickupToken = none) :
      Step (.mintPickupToken d) s
        { s with deliveries := s.deliveries.update d fun r => { r with pickupToken := some token } }
  | mintDeliveryToken {s : Db} (d : DeliveryId) (token : String)
      (hsaw : SawDelivery R s d fun row => truthy row.deliveryToken = none) :
      Step (.mintDeliveryToken d) s
        { s with deliveries := s.deliveries.update d fun r => { r with deliveryToken := some token } }
  | noDriverTimeout {s : Db} (o : OrderId)
      (hsaw : ∃ s₀ row, R s₀ s ∧ s₀.orders.find? o = some row ∧ row.status = .ready ∧
        row.fulfillmentChoice = .delivery ∧
        ∀ d, s₀.latestDelivery o = some d → d.driverId = none ∧ d.status = .searching) :
      Step (.noDriverTimeout o) s
        { s with orders := s.orders.update o fun r => { r with status := .noDriverAvailable } }
  | switchToPickup {s s₀ : Db} (o : OrderId) {row : Order} (hR : R s₀ s)
      (hsaw : s₀.orders.find? o = some row) (hstatus : row.status = .noDriverAvailable) :
      Step (.switchToPickup o) s { s with
        orders := s.orders.update o fun r =>
          { r with status := .ready, fulfillmentChoice := .pickup }
        deliveries := match s₀.latestDelivery o with
          | none => s.deliveries
          | some d => s.deliveries.update d.id (Orders.Delivery.cancel s.now .noDriverSwitchedToPickup) }
  | cancelNoDriver {s s₀ : Db} (o : OrderId) {row : Order} (reason : Reason) (hR : R s₀ s)
      (hsaw : s₀.orders.find? o = some row)
      (hprompted : SawOrder R s₀ o fun row => row.status = .noDriverAvailable) :
      Step (.cancelNoDriver o (!row.inventoryRestored)) s { s with
        listings := giveBack row.inventoryRestored row.items s.listings
        orders := s.orders.update o (Orders.Order.cancelRestored s.now reason)
        deliveries := match s₀.latestDelivery o with
          | none => s.deliveries
          | some d => s.deliveries.update d.id (Orders.Delivery.cancel s.now reason) }
  | cancelSellerUnavailable {s s₀ : Db} (o : OrderId) {row : Order} (hR : R s₀ s)
      (hsaw : s₀.orders.find? o = some row) (hstatus : row.status ∉ resolved)
      -- the driver's report has cancelled the delivery
      (hreported : MovedDelivery R h .cancelled s o) :
      Step (.cancelSellerUnavailable o (!row.inventoryRestored)) s { s with
        listings := giveBack row.inventoryRestored row.items s.listings
        orders := s.orders.update o (Orders.Order.cancelRestored s.now .sellerUnavailable) }
  | sellerCannotProvide {s s₀ : Db} (o : OrderId) {row : Order} (hR : R s₀ s)
      (hsaw : s₀.orders.find? o = some row) (hstatus : row.status ∈ cancellableFrom)
      (hpickup : ∀ d, s₀.latestDelivery o = some d → d.pickupConfirmedAt = none) :
      Step (.sellerCannotProvide o (!row.inventoryRestored)) s { s with
        listings := giveBack row.inventoryRestored row.items s.listings
        orders := s.orders.update o (Orders.Order.cancelRestored s.now .sellerCannotProvide)
        deliveries := match cancellableDelivery (s₀.latestDelivery o) with
          | none => s.deliveries
          | some d => s.deliveries.update d.id (Orders.Delivery.cancel s.now .sellerCannotProvide) }
  | cancelAsSeller {s : Db} (o : OrderId) {fresh : Order} (reason : String)
      (hfresh : s.orders.find? o = some fresh) (hstatus : fresh.status ∈ cancellableFrom) :
      Step (.cancelAsSeller o) s { s with
        listings := giveBack fresh.inventoryRestored fresh.items s.listings
        orders := s.orders.update o (Orders.Order.cancelRestored s.now (.text reason)) }
  | driverDisappeared {s : Db} (d : DeliveryId) (o : OrderId)
      (hdelivery : SawDelivery R s d fun row => row.orderId = o ∧ row.pickupConfirmedAt.isSome ∧
        row.deliveredConfirmedAt = none ∧
        row.status ∉ [DeliveryStatus.delivered, .failed, .cancelled])
      (horder : SawOrder R s o fun row => row.status = .inDelivery) :
      Step (.driverDisappeared d o) s { s with
        deliveries := s.deliveries.update d fun r =>
          { r with
            status := .failed, failedAt := some s.now, failureReason := some .driverDisappeared }
        orders := s.orders.update o (Orders.Order.cancel s.now .driverDisappeared) }
  | reverseDriverEarning {s : Db} (o : OrderId) :
      Step (.reverseDriverEarning o) s { s with
        walletEntries := s.walletEntries.updateMany
          (fun e => e.orderId = some o && e.type = .deliveryEarning && e.status = .pending)
          fun e => { e with status := .cancelled } }
  | createRefund {s : Db} {refunds : Table StripeRefund} (o : OrderId) (pi : PaymentIntentId)
      (hsaw : SawOrder R s o fun row => row.stripeRefundId = none ∧
        row.stripePaymentIntentId = some pi)
      (hpaid : ∃ row, s.paymentIntents.find? pi = some row ∧ row.succeeded = true)
      (hnew : s.refunds.insert? ⟨⟨s.stripeNext⟩, pi, o⟩ = some refunds) :
      Step (.createRefund o) s { s with refunds, stripeNext := s.stripeNext + 1 }
  | saveRefund {s : Db} (o : OrderId) (refund : RefundId)
      (hrefund : ∃ s₀ row, R s₀ s ∧ s₀.refunds.find? refund = some row ∧ row.orderId = o)
      (hcause : RefundCause R call s o) :
      Step (.saveRefund o) s { s with orders := s.orders.update o fun r =>
        { r with stripeRefundId := some refund, refundedAt := some s.now } }
  | reversePending {s : Db} (o : OrderId) :
      Step (.reversePending o) s { s with
        walletEntries := s.walletEntries.updateMany
          (fun e => e.orderId = some o && e.status = .pending)
          fun e => { e with status := .cancelled } }
  | refundDispute {s : Db} (o : OrderId) :
      Step (.refundDispute o) s
        { s with orders := s.orders.update o fun r => { r with status := .refunded } }
  | pickedUpByBuyer {s : Db} (o : OrderId)
      (hsaw : SawOrder R s o fun row => row.status = .ready ∧ row.fulfillmentChoice = .pickup) :
      Step (.pickedUpByBuyer o) s
        { s with orders := s.orders.update o fun r => { r with status := .delivered } }
  | deliveredByDriver {s : Db} (o : OrderId)
      (hsaw : SawOrder R s o fun row => row.status ≠ .delivered ∧ row.fulfillmentChoice = .delivery)
      -- the driver's confirmation has completed the delivery
      (hdelivered : MovedDelivery R h .delivered s o) :
      Step (.deliveredByDriver o) s
        { s with orders := s.orders.update o fun r => { r with status := .delivered } }
  | creditCompleted {s s₀ : Db} (o : OrderId) {row : Order} (hR : R s₀ s)
      (hsaw : s₀.orders.find? o = some row)
      (hstatus : row.status = .delivered ∨ row.status = .completed ∨ row.status = .disputed) :
      Step (.creditCompleted o) s { s with
        walletEntries := (creditRows cfg me row (deliveredDelivery s₀ o) s₀.now).foldl
          insertSkippingDuplicate s.walletEntries }
  | compensateDriver {s : Db} (o : OrderId) (driver : UserId) (amount : Cents) :
      Step (.compensateDriver o) s { s with
        walletEntries := insertSkippingDuplicate s.walletEntries
          (newEntry (generateUlid me 8) (.user driver) o .deliveryEarning amount .available
            (some s.now) (some .compensationSellerUnavailable)) }
  | creditSeller {s : Db} (o : OrderId) (seller : UserId) (amount : Cents) :
      Step (.creditSeller o) s { s with
        walletEntries := insertSkippingDuplicate s.walletEntries
          (newEntry (generateUlid me 9) (.user seller) o .orderEarning amount .available
            (some s.now) (some .driverDisappearedSellerPaid)) }
  | driverDebt {s : Db} (o : OrderId) (driver : UserId) (amount : Cents) :
      Step (.driverDebt o) s { s with
        walletEntries := insertSkippingDuplicate s.walletEntries
          (newEntry (generateUlid me 10) (.user driver) o .driverDebt (-amount) .available
            (some s.now) (some .driverDisappearedRefundDeduction)) }
  | claim {s : Db} (d : DeliveryId) (driver : UserId) {sub : String}
      (hcall : call = .claim sub d) :
      Step (.claim d driver) s { s with
        deliveries :=
          s.deliveries.updateMany (claimable d) (Deliveries.Delivery.assign driver s.now) }
  | arriveAtPickup {s : Db} (d : DeliveryId) {sub : String}
      (hcall : call = .arriveAtPickup sub d)
      (hsaw : SawDelivery R s d fun row => row.status = .assigned ∧ row.driverId.isSome) :
      Step (.transition d .atPickup) s
        { s with deliveries := s.deliveries.update d fun r => { r with status := .atPickup } }
  | confirmPickup {s s₀ : Db} (d : DeliveryId) (driver : UserId) {sub : String}
      {dto : ConfirmPickupDto} {row : Delivery} (token : String)
      (hcall : call = .confirmPickup sub d dto)
      (huser : ∃ s₁ user, R s₁ s₀ ∧ s₁.userBySupabaseId sub = some user ∧ user.id = driver)
      (hR : R s₀ s) (hsaw : s₀.deliveries.find? d = some row) (hdriver : row.driverId = some driver)
      (hnot : row.pickupConfirmedAt = none) (hstatus : row.status ∈ prePickup)
      (htoken : truthy row.pickupToken = some dto.pickupToken) :
      Step (.confirmPickup d driver) s { s with
        deliveries := s.deliveries.update d (Deliveries.Delivery.pickUp driver dto token s.now)
        orders := s.orders.update row.orderId fun r => { r with status := .inDelivery } }
  | confirmDelivery {s : Db} (d : DeliveryId) (driver : UserId) {sub : String}
      {dto : ConfirmDeliveryDto} (hcall : call = .confirmDelivery sub d dto)
      (hsaw : ∃ s₁ s₀ user row, R s₁ s₀ ∧ R s₀ s ∧ s₁.userBySupabaseId sub = some user ∧
        user.id = driver ∧ s₀.deliveries.find? d = some row ∧ row.driverId = some driver ∧
        row.deliveredConfirmedAt = none ∧ row.status ∈ outForDelivery ∧
        truthy row.deliveryToken = some dto.deliveryToken) :
      Step (.confirmDelivery d driver) s { s with
        deliveries :=
          s.deliveries.update d (Deliveries.Delivery.deliver driver dto.lat dto.lng s.now) }
  | confirmAbsentDropoff {s : Db} (d : DeliveryId) (driver : UserId) {sub : String}
      {dto : ConfirmAbsentDropoffDto} {photo : String} {lat lng : JsNumber}
      (hcall : call = .confirmAbsentDropoff sub d dto)
      (hphoto : truthy (dto.photoUrl.map jsTrim) = some photo)
      (hgps : gps dto.lat dto.lng = some (lat, lng))
      (hsaw : ∃ s₁ s₀ user row, R s₁ s₀ ∧ R s₀ s ∧ s₁.userBySupabaseId sub = some user ∧
        user.id = driver ∧ s₀.deliveries.find? d = some row ∧ row.driverId = some driver ∧
        row.deliveredConfirmedAt = none ∧ row.status ∈ outForDelivery) :
      Step (.confirmAbsentDropoff d driver) s { s with
        deliveries := s.deliveries.update d
          (Deliveries.Delivery.dropOff driver photo lat lng dto.note s.now) }
  | reportSellerUnavailable {s : Db} (d : DeliveryId) (driver : UserId) {sub : String}
      {dto : ReportSellerUnavailableDto} {lat lng : JsNumber}
      (hcall : call = .reportSellerUnavailable sub d dto)
      (hsaw : ∃ s₀ s₁ row order, R s₀ s₁ ∧ R s₁ s ∧ R s₀ s ∧ s₀.deliveries.find? d = some row ∧
        row.driverId = some driver ∧ row.pickupConfirmedAt = none ∧
        row.status ∉ postPickup ∧ s₁.orders.find? row.orderId = some order ∧
        order.status ∉ resolved) :
      Step (.reportSellerUnavailable d driver) s { s with
        deliveries := s.deliveries.update d
          (Deliveries.Delivery.sellerUnavailable dto lat lng s.now) }
  | releaseDue {s s₀ s₁ : Db} (hR₀ : R s₀ s₁) (hR₁ : R s₁ s) (hcall : call = .releaseDuePendingEntries) :
      Step .releaseDue s { s with
        walletEntries := s.walletEntries.updateMany
          (fun e => e.id ∈ dueIds (s₀.walletEntries.rows.filter (due s₀.now))
            (s₁.orders.rows.filter fun o => o.id ∈ (s₀.walletEntries.rows.filter
              (due s₀.now)).filterMap WalletEntry.orderId) [.delivered, .completed] &&
            e.status = .pending)
          fun e => { e with status := .available, releasedAt := some s₀.now } }
  | reverseDue {s : Db} (ids : List WalletEntryId) :
      Step .reverseDue s { s with
        walletEntries := s.walletEntries.updateMany
          (fun e => e.id ∈ ids && e.status = .pending) fun e => { e with status := .cancelled } }
  | createTransfer {s : Db} {transfers : Table StripeTransfer} (transfer : StripeTransfer)
      (entries : List WalletEntry) (hid : transfer.withdrawalId = generateUlid me 11)
      (hread : ∃ t ∈ h, t.site = .readAvailable transfer.userId ∧ R t.post s ∧
        entries = availableEntries t.pre transfer.userId)
      (hamount : transfer.amount = total entries)
      (hfirst : ∀ t ∈ h, ∀ u w ids, t.site ≠ .createTransfer u w ids)
      (hnew : transfers = (s.transfers.insert? transfer).getD s.transfers) :
      Step (.createTransfer transfer.userId transfer.withdrawalId (entries.map WalletEntry.id)) s
        { s with transfers }
  | settle {s : Db} {walletEntries : Table WalletEntry} (user : UserId)
      (entries : List WalletEntry) (debit : WalletEntry)
      (htransfer : ∃ t ∈ h, ∃ s₀, R s₀ t.pre ∧ R t.post s ∧
        t.site = .createTransfer user (generateUlid me 11) (entries.map WalletEntry.id) ∧
        entries = availableEntries s₀ user ∧ t.post.walletEntries = t.pre.walletEntries)
      (hdebit : debit.orderId = none)
      (hnew : (s.walletEntries.updateMany (fun e => e.id ∈ entries.map WalletEntry.id) fun e =>
        { e with status := .paidOut, withdrawalId := some (generateUlid me 11) }).insert? debit
          = some walletEntries)
      -- there is one transfer, and it paid for these entries
      (honly : ∀ t ∈ h, ∀ u w ids, t.site = .createTransfer u w ids → ids = entries.map WalletEntry.id)
      (hpaid : debit.status = .paidOut ∧ debit.withdrawalId = some (generateUlid me 11)) :
      Step (.settle user (generateUlid me 11) (entries.map WalletEntry.id)) s
        { s with walletEntries }

/-- The contract of a handler: each of its steps is one of the above. -/
def stepContract : Contract machine where
  rely := R
  guar h site s s' := Step cfg R me call h site s s'

end

end IncaCook
