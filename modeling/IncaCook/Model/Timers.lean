import IncaCook.Library.Embedding
import IncaCook.Model.System

/-!
# Timers

Three watchdogs look after an order: no driver claims its delivery, its buyer does not answer
the prompt that follows, its driver does not deliver. Each is armed twice, as a timeout of the
process that serves the request, under a name in that process's registry, and as a delayed job
of the queue, under an id that keeps a second job from being added. A timeout is lost when its
process restarts; a job is lost when Redis did not take it.

The services are the ones of the system. The handlers that arm and disarm watchdogs are
written out here around the parts they share with it. A request is served by one of several
processes, and each has its own registry.
-/

namespace IncaCook

open Prog Orders Deliveries

/-- An API instance or a worker. -/
abbrev ProcessId := Nat

/-- What is watched. The registry and the queue know it by a string that ends in the id:
`no-driver:…` and `no_driver_timeout:…` and so on. -/
inductive TimerKey where
  | noDriver (orderId : OrderId)
  | noDriverResponse (orderId : OrderId)
  | driverDelivery (deliveryId : DeliveryId)
  deriving DecidableEq, Repr

/-- A timeout that is armed. -/
structure Timeout where
  process : ProcessId
  key : TimerKey
  dueAt : Time

instance : Keyed Timeout (ProcessId × TimerKey) := ⟨fun t => (t.process, t.key)⟩

inductive JobState where
  | delayed
  | active
  | failed
  deriving DecidableEq, Repr

/-- A job of the queue. -/
structure TimerJob where
  key : TimerKey
  dueAt : Time
  state : JobState

instance : Keyed TimerJob TimerKey := ⟨TimerJob.key⟩

structure TimerDb extends Db where
  timeouts : Table Timeout
  jobs : Table TimerJob
  /-- what a restart has left unwatched -/
  dropped : List TimerKey

/-- No timer is armed. -/
def TimerDb.unarmed (db : Db) : TimerDb := ⟨db, .empty, .empty, []⟩

/-- `NO_DRIVER_TIMEOUT_MINUTES`, `NO_DRIVER_BUYER_RESPONSE_MINUTES` and
`DRIVER_DELIVERY_TIMEOUT_MINUTES` -/
structure TimerConfig where
  noDriverMinutes : Nat := 15
  noDriverResponseMinutes : Nat := 10
  driverDeliveryMinutes : Nat := 60

def TimerConfig.delayMs (tcfg : TimerConfig) : TimerKey → Nat
  | .noDriver _ => tcfg.noDriverMinutes * 60000
  | .noDriverResponse _ => tcfg.noDriverResponseMinutes * 60000
  | .driverDelivery _ => tcfg.driverDeliveryMinutes * 60000

inductive TimerSite where
  | order (site : Site)
  | arm (process : ProcessId) (key : TimerKey)
  | clear (process : ProcessId) (key : TimerKey)
  | fire (process : ProcessId) (key : TimerKey)
  | enqueue (key : TimerKey)
  | take (key : TimerKey)
  | finish (key : TimerKey)
  deriving DecidableEq

abbrev timerMachine : Machine := ⟨TimerDb, Answer, TimerSite, Err⟩

abbrev TimerHandler (α : Type) := Prog timerMachine α

abbrev TimerTx (α : Type) := StateT TimerDb (Except Err) α

/-- The services of the system. -/
def timerOrders : Machine.Part machine timerMachine where
  get s := s.toDb
  put a s := { s with toDb := a }
  site := .order
  answer i := i
  error e := e
  get_put _ _ := rfl

namespace Timers

/-! ## The registry and the queue -/

/-- Removes an armed timeout; a no-op if there is none. -/
def clearTimer (p : ProcessId) (key : TimerKey) : TimerHandler Unit :=
  await (.clear p key) fun _ =>
    modify fun db => { db with timeouts := db.timeouts.remove (p, key) }

/-- Adds the job; the queue ignores an id that it has. A queue that cannot be reached is
logged. -/
def enqueueTimerJob (tcfg : TimerConfig) (key : TimerKey) : TimerHandler Unit :=
  await (.enqueue key) fun answer =>
    modify fun db =>
      if answer.ok then
        { db with jobs := (db.jobs.insert? ⟨key, db.now + tcfg.delayMs key, .delayed⟩).getD db.jobs }
      else db

/-- Arms the timeout, instead of one of that name, and adds its job. -/
def schedule (tcfg : TimerConfig) (p : ProcessId) (key : TimerKey) : TimerHandler Unit := do
  await (.arm p key) fun _ => modify fun db =>
    { db with timeouts := db.timeouts.put ⟨p, key, db.now + tcfg.delayMs key⟩ }
  enqueueTimerJob tcfg key

def scheduleNoDriverTimeout (tcfg : TimerConfig) (p : ProcessId) (orderId : OrderId) :
    TimerHandler Unit :=
  schedule tcfg p (.noDriver orderId)

def scheduleNoDriverResponseTimeout (tcfg : TimerConfig) (p : ProcessId) (orderId : OrderId) :
    TimerHandler Unit :=
  schedule tcfg p (.noDriverResponse orderId)

def scheduleDriverDeliveryTimeout (tcfg : TimerConfig) (p : ProcessId) (deliveryId : DeliveryId) :
    TimerHandler Unit :=
  schedule tcfg p (.driverDelivery deliveryId)

/-! ## The handlers that arm and disarm -/

variable (tcfg : TimerConfig) (p : ProcessId)

/-- PREPARING → READY; a delivery is watched until a driver claims it. -/
def markReady (me : Nat) (supabaseId : String) (orderId : OrderId) : TimerHandler Order := do
  let existing ← within timerOrders do
    let sellerId ← assertSellerUser supabaseId
    let existing ← loadOrderForSellerAction orderId sellerId
    throwIf (existing.status ≠ .preparing) (.conflict
      ("Order is in " ++ existing.status.text ++ "; mark-ready requires PREPARING"))
    await (.markReady orderId existing.fulfillmentChoice) fun answer =>
      readyOrder me orderId existing.fulfillmentChoice answer.token
    return existing
  if existing.fulfillmentChoice = .delivery then
    scheduleNoDriverTimeout tcfg p orderId
  within timerOrders (findOrderWithRelations orderId)

theorem noDriverAvailable_id (o : Order) :
    ({ o with status := .noDriverAvailable } : Order).id = o.id := rfl

/-- No-driver watchdog: the prompted buyer is watched until they answer. -/
def handleNoDriverTimeout (orderId : OrderId) : TimerHandler Unit := do
  let (order, delivery) ← read (.order .query) fun db =>
    (db.orders.find? orderId, db.latestDelivery orderId)
  match order with
  | none => return ()
  | some order =>
    if delivery.any fun d => d.driverId.isSome || d.status ≠ .searching then
      return ()
    else if order.status ≠ .ready ∨ order.fulfillmentChoice ≠ .delivery then
      return ()
    else
      within timerOrders (await (.noDriverTimeout orderId) fun _ =>
        updateOrder orderId (fun o => { o with status := .noDriverAvailable }) noDriverAvailable_id)
      scheduleNoDriverResponseTimeout tcfg p orderId

/-- The buyer's decision. Only the timeout of the process that serves it is cleared. -/
def decideNoDriver (supabaseId : String) (orderId : OrderId) (decision : NoDriverDecision) :
    TimerHandler Order := do
  let (order, delivery) ← within timerOrders do
    let userId ← assertSellerUser supabaseId
    let (order, delivery) ← read .query fun db =>
      (db.orders.find? orderId, db.latestDelivery orderId)
    let order ← orThrow order (.notFound "Order not found")
    throwIf (order.buyerId ≠ userId) (.forbidden "Seul le client de la commande peut décider")
    throwIf (order.status ≠ .noDriverAvailable)
      (.conflict "Aucune décision n'est requise pour cette commande")
    return (order, delivery)
  clearTimer p (.noDriverResponse orderId)
  within timerOrders do
    match decision with
    | .switchToPickup => switchOrderToPickup order.id (delivery.map Delivery.id)
    | .cancelAndRefund => cancelNoDriverOrder orderId .noDriverBuyerCancelled
    findOrderWithRelations orderId

/-- The driver scans the seller's QR; the driver is watched until they deliver. -/
def confirmPickup (supabaseId : String) (deliveryId : DeliveryId) (dto : ConfirmPickupDto) :
    TimerHandler Delivery := do
  within timerOrders do
    let driver ← assertDriver supabaseId
    let delivery ← loadDeliveryForDriver deliveryId driver.userId
    throwIf (delivery.pickupConfirmedAt.isSome ∨ delivery.status ∈ postPickup)
      (.conflict "Retrait déjà confirmé")
    throwIf (delivery.status ∉ prePickup) (.conflict "La commande n'est pas prête pour le retrait")
    throwIf (truthy delivery.pickupToken ≠ some dto.pickupToken) (.badRequest "QR code invalide")
    await (.confirmPickup deliveryId driver.userId) fun answer =>
      confirmPickupTx delivery driver.userId dto answer.token
  scheduleDriverDeliveryTimeout tcfg p deliveryId
  within timerOrders (loadDelivery deliveryId)

/-! ## Watchdogs -/

/-- What a watchdog does, whoever runs it. -/
def watchdog (me : Nat) : TimerKey → TimerHandler Unit
  | .noDriver orderId => handleNoDriverTimeout tcfg p orderId
  | .noDriverResponse orderId => within timerOrders (autoCancelNoResponse orderId)
  | .driverDelivery deliveryId => within timerOrders (handleDriverDeliveryTimeout me deliveryId)

/-- The callback of a timeout: it takes itself off the registry. An error is logged. -/
def onTimeout (me : Nat) (key : TimerKey) : TimerHandler Unit := do
  let due ← await (.fire p key) fun _ => do
    let db ← get
    let due := (db.timeouts.find? (p, key)).any fun t => t.dueAt ≤ db.now
    set { db with timeouts := if due then db.timeouts.remove (p, key) else db.timeouts }
    return due
  if due then
    try
      watchdog tcfg p me key
    catch _ =>
      pure ()

/-- A worker's turn at a job: a job that is done is removed, one that failed is kept. -/
def process (me : Nat) (key : TimerKey) : TimerHandler Unit := do
  let due ← await (.take key) fun _ => do
    let db ← get
    let due := (db.jobs.find? key).any fun j => j.state = .delayed && j.dueAt ≤ db.now
    set { db with jobs := if due then db.jobs.update key fun j => { j with state := .active } else db.jobs }
    return due
  if due then
    try
      watchdog tcfg p me key
      await (.finish key) fun _ => modify fun db =>
        { db with jobs := db.jobs.removeMany fun j => j.key = key && j.state = .active }
    catch e =>
      await (.finish key) fun _ => modify fun db =>
        { db with jobs := db.jobs.updateMany (fun j => j.key = key && j.state = .active) fun j =>
          { j with state := .failed } }
      throw e

end Timers

/-! ## The service -/

inductive TimerCall where
  /-- a request or a webhook, served by a process -/
  | serve (p : ProcessId) (c : Call)
  | timeout (p : ProcessId) (key : TimerKey)
  | job (p : ProcessId) (key : TimerKey)

def timerHandle (cfg : Config) (tcfg : TimerConfig) (me : Nat) : TimerCall → TimerHandler Reply
  | .serve p (.markReady sub id) => do return .order (← Timers.markReady tcfg p me sub id)
  | .serve p (.decideNoDriver sub id decision) => do
    return .order (← Timers.decideNoDriver p sub id decision)
  | .serve p (.confirmPickup sub id dto) => do
    return .delivery (← Timers.confirmPickup tcfg p sub id dto)
  | .serve _ c => within timerOrders (handle cfg me c)
  | .timeout p key => do
    Timers.onTimeout tcfg p me key
    return .nothing
  | .job p key => do
    Timers.process tcfg p me key
    return .nothing

/-- Which calls can arrive: nobody requests what a watchdog does. -/
def timerAdmits : TimerCall → TimerDb → Bool
  | .serve _ (.handleNoDriverTimeout _), _ => false
  | .serve _ (.autoCancelNoResponse _), _ => false
  | .serve _ (.handleDriverDeliveryTimeout _), _ => false
  | .serve _ c, db => admits c db.toDb
  | _, _ => true

inductive TimerEvent where
  | order (e : Event)
  /-- a process restarts, and its timeouts are gone -/
  | restart (p : ProcessId)
  /-- the queue keeps a hundred failed jobs -/
  | evict (key : TimerKey)

/-- Whether a timeout or a job is still to come. -/
def TimerDb.watched (db : TimerDb) (key : TimerKey) : Bool :=
  db.timeouts.rows.any (fun t => t.key = key) ||
    (db.jobs.find? key).any fun j => j.state = .delayed

def applyTimerEvent : TimerEvent → TimerDb → TimerDb
  | .order e, db => { db with toDb := applyEvent e db.toDb }
  | .restart p, db =>
    let kept := { db with timeouts := db.timeouts.removeMany fun t => t.process = p }
    { kept with dropped := ((db.timeouts.rows.map Timeout.key).filter fun key =>
        !kept.watched key) ++ db.dropped }
  | .evict key, db => { db with jobs := db.jobs.removeMany fun j => j.key = key && j.state = .failed }

def timerService (cfg : Config) (tcfg : TimerConfig) : Service timerMachine where
  Call := TimerCall
  Reply := Reply
  Event := TimerEvent
  handle := timerHandle cfg tcfg
  admits := timerAdmits
  event := applyTimerEvent

end IncaCook
