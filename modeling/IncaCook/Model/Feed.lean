import IncaCook.Model.Checkout

/-!
# The buyer's feed

`ListingsService.feed`: one SQL query over the listings, their sellers' profiles
and accounts. Its where clause has eight fixed conditions, the visibility rule,
and one more for each filter of the request. The order of the rows and the page
that is cut from them are not modelled.
-/

namespace IncaCook

namespace Listings

/-- A row of the query's join. -/
structure FeedRow where
  l : Listing
  sp : SellerProfile
  u : User

/-- `FROM "Listing" l JOIN "SellerProfile" sp ON sp."userId" = l."sellerId"
JOIN "User" u ON u.id = sp."userId"`, for one listing. -/
def feedRow (db : Db) (l : Listing) : Option FeedRow := do
  let sp ← db.sellerProfiles.find? l.sellerId
  let u ← db.users.find? sp.userId
  return ⟨l, sp, u⟩

/-- The fixed conditions of the where clause; `now` is the database's `now()`. -/
def visibility (now : Time) (r : FeedRow) : List Bool :=
  [r.l.deletedAt.isNone,
    r.l.isAvailable,
    r.l.expiresAt.isNone || r.l.expiresAt.any (now < ·),
    r.sp.kycStatus = .approved,
    r.sp.subscriptionStatus ∈ [SubscriptionStatus.active, SubscriptionStatus.trialing],
    r.sp.subscriptionCurrentPeriodEnd.isNone || r.sp.subscriptionCurrentPeriodEnd.any (now < ·),
    r.u.deletedAt.isNone,
    r.u.isSuspended = false]

/-- The filters of a request. `others` stands for those on columns that no other
part of the model reads: category, cuisines, dish types, dietary tags,
allergens, the text search and the distance. -/
structure ListFeedQueryDto where
  fulfillment : Option Fulfillment
  minPriceCents : Option Cents
  maxPriceCents : Option Cents
  inStockOnly : Bool
  others : List (FeedRow → Bool)

/-- The conditions that a request adds to the where clause. -/
def filters (query : ListFeedQueryDto) (r : FeedRow) : List Bool :=
  query.fulfillment.toList.map (fun f => decide (r.l.fulfillment = f)) ++
  query.minPriceCents.toList.map (fun p => decide (p ≤ r.l.priceCents)) ++
  query.maxPriceCents.toList.map (fun p => decide (r.l.priceCents ≤ p)) ++
  (if query.inStockOnly then [r.l.portionsLeft.isNone || r.l.portionsLeft.any (0 < ·)] else []) ++
  query.others.map fun f => f r

/-- The listing is in the join and meets the fixed conditions. -/
def visible (db : Db) (l : Listing) : Bool :=
  (feedRow db l).any fun r => (visibility db.now r).all id

/-- The rows that the query selects. -/
def feed (db : Db) (query : ListFeedQueryDto) : List FeedRow :=
  (db.listings.rows.filterMap (feedRow db)).filter fun r =>
    (visibility db.now r ++ filters query r).all id

end Listings

end IncaCook
