import IncaCook.Model.Orders

/-!
# Deliveries

The driver's side, `DeliveriesService`: claiming a delivery, and taking it from
the seller to the buyer with a token or a photo as proof.
-/

namespace IncaCook

open Prog

namespace Deliveries

/-! ## Loading -/

/-- The driver of a token: the user row with its driver profile. -/
structure Driver where
  userId : UserId
  kycStatus : KycStatus
  isSuspended : Bool

def assertDriver (supabaseId : String) : Handler Driver := do
  let (user, profile) ← read .query fun db =>
    let user := db.userBySupabaseId supabaseId
    (user, user.bind fun u => db.driverProfiles.find? u.id)
  let user ← orThrow user (.notFound "User profile not found")
  throwIf (user.role ≠ .driver) (.forbidden "Only drivers can act on deliveries")
  let profile ← orThrow profile (.forbidden "Only drivers can act on deliveries")
  return ⟨profile.userId, profile.kycStatus, user.isSuspended⟩

def loadDelivery (deliveryId : DeliveryId) : Handler Delivery := do
  let delivery ← read .query fun db => db.deliveries.find? deliveryId
  orThrow delivery (.notFound "Delivery not found")

/-- The delivery, claimed by this driver. -/
def loadDeliveryForDriver (deliveryId : DeliveryId) (driver : UserId) : Handler Delivery := do
  let delivery ← loadDelivery deliveryId
  throwIf (delivery.driverId ≠ some driver)
    (.forbidden "Cette livraison n'est pas assignée à ce livreur")
  return delivery

/-! ## Claiming -/

/-- The row as a claim leaves it. -/
def Delivery.assign (driver : UserId) (now : Time) (d : Delivery) : Delivery :=
  { d with driverId := some driver, status := .assigned, driverAssignedAt := some now }

/-- Whether the claim's `WHERE` clause matches the row. -/
def claimable (deliveryId : DeliveryId) (d : Delivery) : Bool :=
  d.id = deliveryId && d.status = .searching && d.driverId.isNone

/-- The conditional update of `claim`: the number of rows updated. -/
def claimUpdate (deliveryId : DeliveryId) (driver : UserId) : Tx Nat := do
  let db ← get
  let deliveries := db.deliveries.updateMany (claimable deliveryId) (Delivery.assign driver db.now)
  set { db with deliveries }
  return db.deliveries.rows.countP (claimable deliveryId)

/-- KYC is mandatory to claim; development approves it on the spot. -/
def requireKyc (cfg : Config) (driver : Driver) : Handler Unit :=
  if driver.kycStatus = .approved then
    return ()
  else if cfg.development then
    await (.approveDriverKyc driver.userId) fun _ =>
      updateDriverProfile driver.userId fun d => { d with kycStatus := .approved }
  else
    throw (.forbidden "Driver KYC must be APPROVED to claim deliveries")

/-- Claims a delivery for the driver, first writer wins. -/
def claim (cfg : Config) (supabaseId : String) (deliveryId : DeliveryId) : Handler Delivery := do
  let driver ← assertDriver supabaseId
  throwIf driver.isSuspended (.forbidden "Votre compte livreur est suspendu.")
  requireKyc cfg driver
  let updated ← await (.claim deliveryId driver.userId) fun _ =>
    claimUpdate deliveryId driver.userId
  -- another driver was faster, or the delivery is over
  throwIf (updated = 0) (.conflict "Delivery is no longer available")
  loadDelivery deliveryId

/-! ## On the way to the buyer -/

/-- A driver's transition: checks the source status, writes the target. -/
def transition (supabaseId : String) (deliveryId : DeliveryId) (source : List DeliveryStatus)
    (target : DeliveryStatus) : Handler Delivery := do
  let driver ← assertDriver supabaseId
  let delivery ← loadDeliveryForDriver deliveryId driver.userId
  throwIf (delivery.status ∉ source) (.conflict ("Delivery is in " ++ delivery.status.text ++
    "; transition to " ++ target.text ++ " requires one of [" ++
    ", ".intercalate (source.map DeliveryStatus.text) ++ "]"))
  await (.transition deliveryId target) fun _ =>
    updateDelivery deliveryId fun d => { d with status := target }
  loadDelivery deliveryId

/-- ASSIGNED → AT_PICKUP. -/
def arriveAtPickup (supabaseId : String) (deliveryId : DeliveryId) : Handler Delivery :=
  transition supabaseId deliveryId [.assigned] .atPickup

def postPickup : List DeliveryStatus := [.pickedUp, .enRouteToDropoff, .atDropoff, .delivered]
def prePickup : List DeliveryStatus := [.assigned, .enRouteToPickup, .atPickup]
def outForDelivery : List DeliveryStatus := [.pickedUp, .enRouteToDropoff, .atDropoff]

/-- The statuses in which a driver is told that pickup comes first. -/
def beforePickup : List DeliveryStatus :=
  [.unassigned, .searching, .assigned, .enRouteToPickup, .atPickup]

structure ConfirmPickupDto where
  pickupToken : String
  lat : Option JsNumber
  lng : Option JsNumber

/-- The row as a confirmed pickup leaves it. -/
def Delivery.pickUp (driver : UserId) (dto : ConfirmPickupDto) (deliveryToken : String) (now : Time)
    (d : Delivery) : Delivery :=
  { d with
    status := .pickedUp
    pickedUpAt := some now
    pickupConfirmedAt := some now
    pickupConfirmedByDriverId := some driver
    pickupLat := dto.lat
    pickupLng := dto.lng
    deliveryToken := some deliveryToken }

/-- The transaction of `confirmPickup`: the delivery is picked up, and the order
in delivery, whatever its status. -/
def confirmPickupTx (delivery : Delivery) (driver : UserId) (dto : ConfirmPickupDto)
    (deliveryToken : String) : Tx Unit := do
  let db ← get
  uniqueDeliveryToken delivery.id deliveryToken
  updateDelivery delivery.id (Delivery.pickUp driver dto deliveryToken db.now)
  -- no status in the `WHERE` clause
  updateOrder delivery.orderId fun o => { o with status := .inDelivery }

/-- The driver scans the seller's QR. -/
def confirmPickup (supabaseId : String) (deliveryId : DeliveryId) (dto : ConfirmPickupDto) :
    Handler Delivery := do
  let driver ← assertDriver supabaseId
  let delivery ← loadDeliveryForDriver deliveryId driver.userId
  throwIf (delivery.pickupConfirmedAt.isSome ∨ delivery.status ∈ postPickup)
    (.conflict "Retrait déjà confirmé")
  throwIf (delivery.status ∉ prePickup) (.conflict "La commande n'est pas prête pour le retrait")
  throwIf (truthy delivery.pickupToken ≠ some dto.pickupToken) (.badRequest "QR code invalide")
  await (.confirmPickup deliveryId driver.userId) fun answer =>
    confirmPickupTx delivery driver.userId dto answer.token
  loadDelivery deliveryId

/-- The guards that `confirmDelivery` and `confirmAbsentDropoff` share. -/
def checkOutForDelivery (delivery : Delivery) : Handler Unit := do
  throwIf (delivery.deliveredConfirmedAt.isSome ∨ delivery.status = .delivered)
    (.conflict "Livraison déjà confirmée")
  throwIf (delivery.status ∉ outForDelivery) (.conflict
    (if delivery.status ∈ beforePickup then
      "Le retrait vendeur doit être confirmé avant la livraison"
    else "La commande n'est pas en cours de livraison"))

structure ConfirmDeliveryDto where
  deliveryToken : String
  lat : Option JsNumber
  lng : Option JsNumber

/-- The row as a confirmed delivery leaves it. -/
def Delivery.deliver (driver : UserId) (lat lng : Option JsNumber) (now : Time) (d : Delivery) :
    Delivery :=
  { d with
    status := .delivered
    deliveredAt := some now
    deliveredConfirmedAt := some now
    deliveredConfirmedByDriverId := some driver
    deliveredLat := lat
    deliveredLng := lng }

/-- The driver scans the buyer's QR. -/
def confirmDelivery (cfg : Config) (me : Nat) (supabaseId : String) (deliveryId : DeliveryId)
    (dto : ConfirmDeliveryDto) : Handler Delivery := do
  let driver ← assertDriver supabaseId
  let delivery ← loadDeliveryForDriver deliveryId driver.userId
  checkOutForDelivery delivery
  throwIf (truthy delivery.deliveryToken ≠ some dto.deliveryToken) (.badRequest "QR code invalide")
  await (.confirmDelivery deliveryId driver.userId) fun _ => do
    let db ← get
    updateDelivery deliveryId (Delivery.deliver driver.userId dto.lat dto.lng db.now)
  -- not in one transaction with the delivery
  let _ ← Orders.confirmDeliveredByDriver cfg me delivery.orderId
  loadDelivery deliveryId

structure ConfirmAbsentDropoffDto where
  photoUrl : Option String
  lat : Option JsNumber
  lng : Option JsNumber
  note : Option String

/-- Coordinates that are numbers, and not NaN. -/
def gps (lat lng : Option JsNumber) : Option (JsNumber × JsNumber) :=
  match lat, lng with
  | some lat, some lng => if lat = .nan ∨ lng = .nan then none else some (lat, lng)
  | _, _ => none

/-- The row as a drop-off at an absent client's door leaves it. -/
def Delivery.dropOff (driver : UserId) (photoUrl : String) (lat lng : JsNumber)
    (note : Option String) (now : Time) (d : Delivery) : Delivery :=
  { Delivery.deliver driver (some lat) (some lng) now d with
    deliveredAsAbsent := true
    absentProofPhotoUrl := some photoUrl
    absentProofLat := some lat
    absentProofLng := some lng
    absentProofTakenAt := some now
    absentProofNote := truthy (note.map jsTrim) }

/-- The client is absent: the driver leaves the order with a photo and a position. -/
def confirmAbsentDropoff (cfg : Config) (me : Nat) (supabaseId : String) (deliveryId : DeliveryId)
    (dto : ConfirmAbsentDropoffDto) : Handler Delivery := do
  let driver ← assertDriver supabaseId
  let delivery ← loadDeliveryForDriver deliveryId driver.userId
  checkOutForDelivery delivery
  let photoUrl ← orThrow (truthy (dto.photoUrl.map jsTrim))
    (.badRequest "Photo obligatoire pour confirmer l'absence du client")
  let (lat, lng) ← orThrow (gps dto.lat dto.lng) (.badRequest "Position GPS obligatoire")
  await (.confirmAbsentDropoff deliveryId driver.userId) fun _ => do
    let db ← get
    updateDelivery deliveryId (Delivery.dropOff driver.userId photoUrl lat lng dto.note db.now)
  let _ ← Orders.confirmDeliveredByDriver cfg me delivery.orderId
  loadDelivery deliveryId

/-! ## Nothing to pick up -/

structure ReportSellerUnavailableDto where
  reason : SellerUnavailableReason
  lat : Option JsNumber
  lng : Option JsNumber
  note : Option String
  photoUrl : Option String

/-- The row as a report of an unavailable seller leaves it. -/
def Delivery.sellerUnavailable (dto : ReportSellerUnavailableDto) (lat lng : JsNumber) (now : Time)
    (d : Delivery) : Delivery :=
  { d with
    status := .cancelled
    failedAt := some now
    failureReason := some (.sellerUnavailableReport dto.reason)
    sellerUnavailableReason := some dto.reason
    sellerUnavailableAt := some now
    sellerUnavailableLat := some lat
    sellerUnavailableLng := some lng
    sellerUnavailableNote := truthy (dto.note.map jsTrim)
    sellerUnavailablePhotoUrl := truthy (dto.photoUrl.map jsTrim) }

/-- The driver found no seller or no food: the delivery and the order are
cancelled. -/
def reportSellerUnavailable (me : Nat) (supabaseId : String) (deliveryId : DeliveryId)
    (dto : ReportSellerUnavailableDto) : Handler Delivery := do
  let driver ← assertDriver supabaseId
  let delivery ← loadDeliveryForDriver deliveryId driver.userId
  throwIf (delivery.sellerUnavailableAt.isSome ∨ delivery.status = .cancelled ∨
    delivery.status = .failed) (.conflict "Signalement déjà enregistré")
  throwIf (delivery.pickupConfirmedAt.isSome ∨ delivery.status ∈ postPickup)
    (.conflict "Le retrait a déjà été confirmé")
  let order ← read .query fun db => db.orders.find? delivery.orderId
  let order ← orThrow order (.notFound "Order not found")
  throwIf (order.status ∈ Orders.resolved) (.conflict "Commande déjà résolue")
  let (lat, lng) ← orThrow (gps dto.lat dto.lng) (.badRequest "Position GPS obligatoire")
  await (.reportSellerUnavailable deliveryId driver.userId) fun _ => do
    let db ← get
    updateDelivery deliveryId (Delivery.sellerUnavailable dto lat lng db.now)
  Orders.cancelForSellerUnavailable me delivery.orderId driver.userId
  loadDelivery deliveryId

end Deliveries

end IncaCook
