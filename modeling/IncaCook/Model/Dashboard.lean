import IncaCook.Model.Database

/-!
# The admin dashboard

`DashboardService.overview`: counts of the users and the listings as they are, and counts
and sums over the orders placed in the window that the query asks for. An order counts as
paid by its status.

`startOfDay` is the midnight before a moment, in the time zone of the server.
-/

namespace IncaCook

open Prog

namespace Dashboard

/-- Order statuses that represent a real, paid transaction (money captured). -/
def paidStatuses : List OrderStatus :=
  [.confirmed, .preparing, .ready, .pickedUp, .inDelivery, .delivered, .completed]

def cancelledStatuses : List OrderStatus := [.cancelled, .refunded]

def dayMs : Int := 24 * 60 * 60 * 1000

/-- 1970-01-01T00:00:00.000Z -/
def epoch : Int := 0

/-- 2999-12-31T23:59:59.999Z -/
def farFuture : Int := 32503679999999

/-! ## The window -/

inductive DashboardRange where
  | today | last7Days | last30Days | all | custom
  deriving DecidableEq, Repr

/-- The date filter; its dates are the moments that `new Date` reads in them. -/
structure DashboardQueryDto where
  range : Option DashboardRange
  dateFrom : Option Int
  dateTo : Option Int

structure ResolvedRange where
  from' : Option Int
  to' : Option Int
  deriving DecidableEq

variable (startOfDay : Time → Int)

def resolveRange (now : Time) (q : DashboardQueryDto) : ResolvedRange :=
  if q.dateFrom.isSome || q.dateTo.isSome then
    ⟨q.dateFrom, q.dateTo⟩
  else match q.range with
    | some .today => ⟨some (startOfDay now), none⟩
    | some .last7Days => ⟨some (now - 7 * dayMs), none⟩
    | some .last30Days => ⟨some (now - 30 * dayMs), none⟩
    | some .all | some .custom | none => ⟨none, none⟩

/-- The condition on `placedAt`. -/
def placedAtWhere (range : ResolvedRange) (o : Order) : Bool :=
  range.from'.all (fun t => t ≤ (o.placedAt : Int)) && range.to'.all fun t => (o.placedAt : Int) ≤ t

/-! ## Users by their number of orders -/

/-- `GROUP BY` one side of the orders, `HAVING` a number of them. -/
def grouped (side : Order → UserId) (having : Nat → Bool) (orders : List Order) : List UserId :=
  (orders.map side).dedup.filter fun u => having ((orders.map side).count u)

/-- The users with such a number of paid orders in a window, as buyer or as seller. -/
def usersWith (having : Nat → Bool) (inWindow : Order → Bool) (db : Db) : Nat :=
  let orders := db.orders.rows.filter fun o => o.status ∈ paidStatuses && inWindow o
  (grouped Order.buyerId having orders ∪ grouped Order.sellerId having orders).length

/-- At least two in the last seven days. -/
def recurringUsersCount : Handler Nat :=
  read .query fun db => usersWith (2 ≤ ·) (fun o => (db.now - 7 * dayMs : Int) ≤ o.placedAt) db

/-- Exactly one in the window. -/
def monoUsersCount (range : ResolvedRange) : Handler Nat :=
  read .query (usersWith (· = 1) fun o =>
    range.from'.getD epoch ≤ o.placedAt && o.placedAt ≤ range.to'.getD farFuture)

/-! ## The overview -/

structure DashboardOverview where
  totalUsers : Nat
  totalBuyers : Nat
  totalSellers : Nat
  totalDrivers : Nat
  totalListings : Nat
  activeListings : Nat
  totalOrders : Nat
  confirmedOrders : Nat
  cancelledOrders : Nat
  totalRevenueCents : Cents
  totalCommissionCents : Cents
  totalDeliveryFeeCents : Cents
  recurringUsersCount : Nat
  monoUsersCount : Nat
  range : ResolvedRange

/-- `user.count`, which leaves out the soft-deleted. -/
def countUsers (p : User → Bool) : Handler Nat :=
  read .query fun db => db.users.rows.countP fun u => u.deletedAt.isNone && p u

def countListings (p : Listing → Bool) : Handler Nat :=
  read .query fun db => db.listings.rows.countP fun l => l.deletedAt.isNone && p l

def countOrders (p : Order → Bool) : Handler Nat := read .query fun db => db.orders.rows.countP p

/-- `_sum` of three columns; a sum over no orders counts as 0. -/
def aggregateOrders (p : Order → Bool) : Handler (Cents × Cents × Cents) :=
  read .query fun db =>
    let orders := db.orders.rows.filter p
    ((orders.map Order.buyerTotalCents).sum, (orders.map Order.commissionCents).sum,
      (orders.map Order.fulfillmentFeeCents).sum)

/-- The headline figures. The queries are sent together; here they are answered in order. -/
def overview (q : DashboardQueryDto) : Handler DashboardOverview := do
  let now ← read .query Db.now
  let range := resolveRange startOfDay now q
  let totalUsers ← countUsers fun _ => true
  let totalBuyers ← countUsers fun u => u.role = .buyer
  let totalSellers ← countUsers fun u => u.role = .seller
  let totalDrivers ← countUsers fun u => u.role = .driver
  let totalListings ← countListings fun _ => true
  let activeListings ← countListings fun l =>
    l.isAvailable && (l.expiresAt.isNone || l.expiresAt.any (now < ·))
  let totalOrders ← countOrders (placedAtWhere range)
  let confirmedOrders ← countOrders fun o => placedAtWhere range o && o.status ∈ paidStatuses
  let cancelledOrders ← countOrders fun o => placedAtWhere range o && o.status ∈ cancelledStatuses
  let (totalRevenueCents, totalCommissionCents, totalDeliveryFeeCents) ←
    aggregateOrders fun o => placedAtWhere range o && o.status ∈ paidStatuses
  let recurringUsersCount ← recurringUsersCount
  let monoUsersCount ← monoUsersCount range
  return { totalUsers, totalBuyers, totalSellers, totalDrivers, totalListings, activeListings,
           totalOrders, confirmedOrders, cancelledOrders, totalRevenueCents, totalCommissionCents,
           totalDeliveryFeeCents, recurringUsersCount, monoUsersCount, range }

end Dashboard

end IncaCook
