import IncaCook.Library.Paging
import IncaCook.Model.Deliveries
import Mathlib.Data.Prod.Lex
import Mathlib.Order.WithBot

/-!
# The jobs that a driver can claim

`DeliveriesService.listAvailable`: a first query ranks the unclaimed deliveries by the
distance from the driver to the seller and cuts out a window, a second one loads these rows
by creation time, a third one what the driver's app shows beside them.

PostGIS's columns and operator are parameters, as are the columns with names that no other
part of the model reads. Rows that an `ORDER BY` leaves equal come in the order of the table.
-/

namespace IncaCook

open Prog Paging

namespace Deliveries

/-- The columns that only this listing reads, by the key of their row. -/
structure Directory (Point Distance : Type) where
  /-- `DriverProfile.lastKnownPoint` -/
  lastKnownPoint : UserId → Option Point
  /-- `SellerProfile.location` -/
  location : UserId → Option Point
  /-- `Address.point` -/
  point : AddressId → Option Point
  /-- the operator `<->` -/
  distance : Point → Point → Distance
  /-- `ST_X` and `ST_Y` of a point's geometry -/
  stX : Point → JsNumber
  stY : Point → JsNumber
  firstName : UserId → String
  lastName : UserId → String
  /-- `SellerProfile.neighborhood` -/
  neighborhood : UserId → Option String

/-! ## Rows -/

/-- `DELIVERY_INCLUDE.order`. -/
structure IncludedOrder where
  orderNumber : String
  status : OrderStatus
  fulfillmentFeeCents : Cents
  /-- `seller.neighborhood` -/
  neighborhood : Option String
  /-- `dropoffAddress.city` and `dropoffAddress.postalCode` -/
  dropoffAddress : Option (String × Option String)
  deriving DecidableEq

structure DeliveryWithRelations where
  row : Delivery
  order : IncludedOrder
  deriving DecidableEq

structure DeliveryEnrichment where
  pickupLat : Option JsNumber
  pickupLng : Option JsNumber
  pickupFullAddress : Option String
  dropoffLat : Option JsNumber
  dropoffLng : Option JsNumber
  dropoffFullAddress : String
  sellerName : Option String
  recipientName : Option String
  orderTotalCents : Cents
  placedAt : Time
  itemCount : Nat
  deriving DecidableEq

structure AvailableJobs where
  items : List (DeliveryWithRelations × DeliveryEnrichment)
  hasMore : Bool
  deriving DecidableEq

variable {Point Distance : Type} [LinearOrder Distance] (dir : Directory Point Distance)

/-! ## The ranking -/

/-- `JOIN "Order"` and `JOIN "SellerProfile"`. -/
def joinSeller (db : Db) (d : Delivery) : Option (Order × SellerProfile) := do
  let o ← db.orders.find? d.orderId
  let s ← db.sellerProfiles.find? o.sellerId
  return (o, s)

/-- The distance from the driver's `me` row to the seller; `⊤` where a point is missing, since
`NULLS LAST`. -/
def jobDistance (db : Db) (driver : UserId) (d : Delivery) : WithTop Distance :=
  (do
    let (_, s) ← joinSeller db d
    let me ← db.driverProfiles.find? driver
    let here ← dir.lastKnownPoint me.userId
    let pickup ← dir.location s.userId
    return dir.distance here pickup : Option Distance)

def isUnclaimed (d : Delivery) : Bool := d.status = .searching && d.driverId.isNone

/-- The columns of the `ORDER BY`. -/
def rankingKey (db : Db) (driver : UserId) (d : Delivery) : WithTop Distance ×ₗ Time :=
  toLex (jobDistance dir db driver d, d.createdAt)

/-- The rows of the ranking query before its `LIMIT` and `OFFSET`. -/
def rankedJobs (db : Db) (driver : UserId) : List Delivery :=
  orderBy (rankingKey dir db driver)
    (db.deliveries.rows.filter fun d => isUnclaimed d && (joinSeller db d).isSome)

/-! ## The rows of a page -/

/-- A delivery with what `DELIVERY_INCLUDE` adds to it. -/
def withRelations (db : Db) (d : Delivery) : Option DeliveryWithRelations := do
  let o ← db.orders.find? d.orderId
  let address := o.dropoffAddressId.bind fun id => db.addresses.find? id
  return ⟨d, o.orderNumber, o.status, o.fulfillmentFeeCents, dir.neighborhood o.sellerId,
    address.map fun a => (a.city, a.postalCode)⟩

/-- `[first, last].filter(Boolean).join(' ').trim()`, or null when nothing is left. -/
def displayName (first last : String) : Option String :=
  truthy (some (jsTrim (" ".intercalate ([first, last].filter (· ≠ "")))))

/-- One row of the enrichment query; no row unless the order has a dropoff address. -/
def enrichmentRow (db : Db) (d : Delivery) : Option (DeliveryId × DeliveryEnrichment) := do
  let o ← db.orders.find? d.orderId
  let u ← db.users.find? o.sellerId
  let b ← db.users.find? o.buyerId
  let addressId ← o.dropoffAddressId
  let a ← db.addresses.find? addressId
  let s ← db.sellerProfiles.find? o.sellerId
  let pickup := dir.location s.userId
  let dropoff := dir.point a.id
  return (d.id,
    { pickupLat := pickup.map dir.stY
      pickupLng := pickup.map dir.stX
      pickupFullAddress := none
      dropoffLat := dropoff.map dir.stY
      dropoffLng := dropoff.map dir.stX
      dropoffFullAddress := a.fullAddress
      sellerName := displayName (dir.firstName u.id) (dir.lastName u.id)
      recipientName := displayName (dir.firstName b.id) (dir.lastName b.id)
      orderTotalCents := o.buyerTotalCents
      placedAt := o.placedAt
      itemCount := (o.items.map OrderItem.quantity).sum })

/-- The map from delivery ids to what the app shows beside them. -/
def loadDeliveryEnrichment (ids : List DeliveryId) : Handler (List (DeliveryId × DeliveryEnrichment)) :=
  if ids = [] then
    return []
  else
    read .query fun db => (db.deliveries.rows.filter fun d => d.id ∈ ids).filterMap (enrichmentRow dir db)

/-- What a row shows when the enrichment has nothing for it. -/
def fallbackEnrichment (r : DeliveryWithRelations) : DeliveryEnrichment where
  pickupLat := none
  pickupLng := none
  pickupFullAddress := none
  dropoffLat := none
  dropoffLng := none
  dropoffFullAddress := (r.order.dropoffAddress.map Prod.fst).getD ""
  sellerName := none
  recipientName := none
  orderTotalCents := r.order.fulfillmentFeeCents
  placedAt := r.row.createdAt
  itemCount := 0

/-- The page that is cut from the rows that were loaded: `ids` may have one id more than the
page has rows. -/
def cutPage (limit : Nat) (ids : List DeliveryId) (rows : List DeliveryWithRelations)
    (enrichment : List (DeliveryId × DeliveryEnrichment)) : AvailableJobs :=
  let hasMore : Bool := ids.length > limit
  let sliced := if hasMore then rows.take limit else rows
  ⟨sliced.map fun r => (r, (enrichment.lookup r.row.id).getD (fallbackEnrichment r)), hasMore⟩

/-- One page of the deliveries that the driver can claim. -/
def listAvailable (supabaseId : String) (limit offset : Nat) : Handler AvailableJobs := do
  let driver ← assertDriver supabaseId
  let ids ← read .query fun db =>
    (window limit offset (rankedJobs dir db driver.userId)).map Delivery.id
  if ids = [] then
    return ⟨[], false⟩
  else
    let rows ← read .query fun db =>
      (orderBy Delivery.createdAt (db.deliveries.rows.filter fun d => d.id ∈ ids)).filterMap
        (withRelations dir db)
    let enrichment ← loadDeliveryEnrichment dir ids
    return cutPage limit ids rows enrichment

end Deliveries

end IncaCook
