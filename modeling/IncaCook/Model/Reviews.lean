import IncaCook.Library.Embedding
import IncaCook.Library.Runs
import IncaCook.Model.Strikes
import Mathlib.Logic.Function.Basic

/-!
# Reviews

`ReviewsService`: the buyer of a delivered order reviews it, and the seller's cached rating is
computed again in the same transaction. Afterwards, outside of it, a seller with a bad rating
is suspended.

The transaction runs statement by statement under READ COMMITTED. What it has written is kept
beside the tables until it commits: it sees its own review and the committed ones. Its update
of the seller's row takes the row's lock, and so does its review the order's key. A statement
that waits for a lock runs when the lock is free; where it is scheduled before that, its
transaction gives up, which is also what it does when the database fails.
-/

namespace IncaCook

open Prog Strikes

/-! ## Rows -/

abbrev ReviewId := Ulid

inductive RatingCriterion where
  | hygiene | foodQuality | packaging
  deriving DecidableEq, Repr

def RatingCriterion.text : RatingCriterion → String
  | .hygiene => "HYGIENE"
  | .foodQuality => "FOOD_QUALITY"
  | .packaging => "PACKAGING"

inductive RatingValueType where
  | percent | score5
  deriving DecidableEq, Repr

/-- `RATING_CRITERION_VALUE_TYPE`. -/
def RatingCriterion.valueType : RatingCriterion → RatingValueType
  | .hygiene => .percent
  | .foodQuality => .score5
  | .packaging => .score5

structure Review where
  id : ReviewId
  orderId : OrderId
  authorId : UserId
  sellerId : UserId
  rating : Nat
  body : String
  createdAt : Time
  deriving DecidableEq

/-- A value has one decimal place; `tenths` is ten times the value. -/
structure ReviewCriterionRating where
  reviewId : ReviewId
  criterion : RatingCriterion
  tenths : Nat
  sampleCount : Nat
  deriving DecidableEq

/-- The columns `averageRating` and `reviewCount` of a `SellerProfile` row. -/
structure SellerRating where
  averageRating : Option Rat
  reviewCount : Nat
  deriving DecidableEq

inductive TransactionStatus where
  | active | committed | rolledBack
  deriving DecidableEq, Repr

/-- The transaction of a call: what it has written so far. -/
structure ReviewTransaction where
  call : Nat
  review : Review
  criteriaRatings : List ReviewCriterionRating
  /-- the new version of the seller's row, which is locked meanwhile -/
  sellerRating : Option SellerRating
  status : TransactionStatus
  deriving DecidableEq

instance : Keyed Review ReviewId := ⟨Review.id⟩
instance : Keyed ReviewTransaction Nat := ⟨ReviewTransaction.call⟩

/-- The database with the reviews and the sellers' cached ratings, as committed, and the
transactions. -/
structure ReviewDb where
  db : Db
  reviews : Table Review
  criteriaRatings : List ReviewCriterionRating
  ratings : UserId → SellerRating
  transactions : Table ReviewTransaction

inductive ReviewSite where
  | strikes (site : Site)
  | query
  | createReview (call : Nat)
  | createCriteria (call : Nat)
  | aggregate (call : Nat)
  | updateSeller (call : Nat)
  | commit (call : Nat)
  | rollback (call : Nat)
  deriving DecidableEq

abbrev reviewMachine : Machine := ⟨ReviewDb, Answer, ReviewSite, Err⟩

abbrev ReviewHandler (α : Type) := Prog reviewMachine α

abbrev ReviewTx (α : Type) := StateT ReviewDb (Except Err) α

/-- The part that the strikes service knows. -/
def strikesPart : Machine.Part machine reviewMachine where
  get := ReviewDb.db
  put db s := { s with db }
  site := .strikes
  answer := id
  error := id
  get_put _ _ := rfl

namespace ReviewDb

/-- The committed reviews of a seller. -/
def reviewsOf (s : ReviewDb) (sellerId : UserId) : List Review :=
  s.reviews.rows.filter fun r => r.sellerId = sellerId

/-- The reviews of a seller that a statement of the call's transaction sees. -/
def visible (s : ReviewDb) (me : Nat) (sellerId : UserId) : List Review :=
  let own := (s.transactions.find? me).filter fun t => t.status = .active && t.review.sellerId = sellerId
  own.toList.map ReviewTransaction.review ++ s.reviewsOf sellerId

end ReviewDb

/-! ## `ReviewsService` -/

namespace Reviews

/-- `RATING_SUSPENSION_THRESHOLD` -/
def ratingSuspensionThreshold : Rat := 7 / 2

/-- `RATING_MIN_REVIEWS` -/
def ratingMinReviews : Nat := 10

/-- The bounds of the rating are those of the validated body. -/
structure CreateReviewCriterionDto where
  criterion : RatingCriterion
  tenths : Nat
  sampleCount : Option Nat

structure CreateReviewDto where
  rating : Nat
  body : String
  criteriaRatings : Option (List CreateReviewCriterionDto)
  one_le_rating : 1 ≤ rating
  rating_le_five : rating ≤ 5

/-- A value as a template string shows it. -/
def CreateReviewCriterionDto.text (c : CreateReviewCriterionDto) : String :=
  toString (c.tenths / 10) ++ (if c.tenths % 10 = 0 then "" else "." ++ toString (c.tenths % 10))

def validateCriteriaValues (ratings : List CreateReviewCriterionDto) : ReviewHandler Unit :=
  ratings.forM fun r => do
    throwIf (r.criterion.valueType = .score5 ∧ 50 < r.tenths)
      (.badRequest ("Criterion " ++ r.criterion.text ++ " expects a score 0–5; got " ++ r.text))
    throwIf (r.criterion.valueType = .percent ∧ r.tenths ≠ 0 ∧ r.tenths ≠ 1000)
      (.badRequest ("Criterion " ++ r.criterion.text ++ " is binary — expects 0 or 100; got " ++ r.text))

/-- `_avg` and `_count` of reviews. -/
def aggregate (reviews : List Review) : SellerRating where
  averageRating := if reviews.isEmpty then none
    else some (((reviews.map Review.rating).sum : Rat) / (reviews.length : Rat))
  reviewCount := reviews.length

/-! ### Statements -/

/-- A statement that the database may fail to carry out. -/
def attempt {α : Type} (stmt : ReviewTx α) (answer : Answer) : ReviewTx α := do
  Stmt.throwIf (answer.ok = false) .database
  stmt

/-- `review.create`: one review per order. -/
def createReview (me : Nat) (row : Time → Review) : ReviewTx Unit := do
  let s ← get
  let review := row s.db.now
  Stmt.throwIf (s.reviews.rows.any fun r => r.orderId = review.orderId) .uniqueViolation
  -- the key of an uncommitted review makes the insert wait
  Stmt.throwIf (s.transactions.rows.any fun t => t.status = .active && t.review.orderId = review.orderId)
    .database
  let transactions ← Stmt.orThrow (s.transactions.insert? ⟨me, review, [], none, .active⟩) .uniqueViolation
  set { s with transactions }

/-- `reviewCriterionRating.createMany`: one row per review and criterion. -/
def createCriteria (me : Nat) (rows : List ReviewCriterionRating) : ReviewTx Unit := do
  let s ← get
  Stmt.throwIf (¬(rows.map ReviewCriterionRating.criterion).Nodup) .uniqueViolation
  let transactions := s.transactions.update me fun t => { t with criteriaRatings := rows }
  set { s with transactions }

/-- `sellerProfile.update` with what was aggregated. -/
def updateSeller (me : Nat) (sellerId : UserId) (rating : SellerRating) : ReviewTx Unit := do
  let s ← get
  Stmt.throwIf (s.db.sellerProfiles.find? sellerId).isNone .recordNotFound
  -- the lock of another transaction makes the update wait
  Stmt.throwIf (s.transactions.rows.any fun t => t.call ≠ me && t.status = .active &&
    t.sellerRating.isSome && t.review.sellerId = sellerId) .database
  let transactions := s.transactions.update me fun t => { t with sellerRating := some rating }
  set { s with transactions }

/-- What the transaction has written becomes visible to all. -/
def commit (me : Nat) : ReviewTx Unit := do
  let s ← get
  let t ← Stmt.orThrow (s.transactions.find? me) .database
  let reviews ← Stmt.orThrow (s.reviews.insert? t.review) .uniqueViolation
  set { s with
    reviews
    criteriaRatings := t.criteriaRatings ++ s.criteriaRatings
    ratings := match t.sellerRating with
      | some rating => Function.update s.ratings t.review.sellerId rating
      | none => s.ratings
    transactions := s.transactions.update me fun t => { t with status := .committed } }

def rollback (me : Nat) : ReviewTx Unit :=
  modify fun s => { s with
    transactions := s.transactions.update me fun t => { t with status := .rolledBack } }

/-! ### Creating a review -/

def recomputeSellerAggregates (me : Nat) (sellerId : UserId) : ReviewHandler Unit := do
  let agg ← await (.aggregate me) (attempt do return aggregate ((← get).visible me sellerId))
  await (.updateSeller me) (attempt (updateSeller me sellerId agg))

/-- The transaction of `createForOrder`. -/
def createReviewTransaction (me : Nat) (sellerId : UserId) (row : Time → Review)
    (criteria : List ReviewCriterionRating) : ReviewHandler Unit :=
  tryCatch (do
    await (.createReview me) (attempt (createReview me row))
    runIf (criteria ≠ []) (await (.createCriteria me) (attempt (createCriteria me criteria)))
    recomputeSellerAggregates me sellerId
    await (.commit me) (attempt (commit me))) fun e => do
  await (.rollback me) fun _ => rollback me
  throw e

/-- Suspends the seller when the average over at least `ratingMinReviews` reviews is too low. -/
def evaluateSellerRatingSuspension (sellerId : UserId) : ReviewHandler Unit := do
  let agg ← await .query (attempt do return aggregate ((← get).reviewsOf sellerId))
  if agg.reviewCount < ratingMinReviews ∨ agg.averageRating.all (ratingSuspensionThreshold ≤ ·) then
    return ()
  else
    let user ← await .query (attempt do return (← get).db.users.find? sellerId)
    if user.all User.isSuspended then
      return ()
    else
      (suspendUser sellerId .lowRating).within strikesPart

structure ReviewWithRelations where
  review : Review
  author : Option User
  criteriaRatings : List ReviewCriterionRating

/-- The review as it is returned, and the error of the evaluation, which is only logged. -/
structure CreateReviewResult where
  review : Option ReviewWithRelations
  logged : Option Err

def createForOrder (me : Nat) (supabaseId : String) (orderId : OrderId) (dto : CreateReviewDto) :
    ReviewHandler CreateReviewResult := do
  let author ← read .query fun s => s.db.userIdOf supabaseId
  let author ← orThrow author (.notFound "User profile not found")
  let order ← read .query fun s => s.db.orders.find? orderId
  let order ← orThrow order (.notFound "Order not found")
  throwIf (order.buyerId ≠ author) (.forbidden "You can only review your own orders")
  throwIf (order.status ≠ .delivered) (.badRequest
    ("Order must be in DELIVERED status to leave a review (currently " ++ order.status.text ++ ")"))
  let existing ← read .query fun s => s.reviews.rows.any fun r => r.orderId = orderId
  throwIf (existing = true) (.conflict "Order already reviewed")
  validateCriteriaValues (dto.criteriaRatings.getD [])
  let reviewId := generateUlid me 14
  createReviewTransaction me order.sellerId
    (fun now => ⟨reviewId, orderId, author, order.sellerId, dto.rating, dto.body, now⟩)
    ((dto.criteriaRatings.getD []).map fun c =>
      ⟨reviewId, c.criterion, c.tenths, c.sampleCount.getD 1⟩)
  let logged ← tryCatch (do
    evaluateSellerRatingSuspension order.sellerId
    return none) fun e => return some e
  let review ← read .query fun s => (s.reviews.find? reviewId).map fun r =>
    ⟨r, s.db.users.find? r.authorId, s.criteriaRatings.filter fun c => c.reviewId = reviewId⟩
  return ⟨review, logged⟩

end Reviews

/-! ## The services together -/

inductive ReviewCall where
  | addStrike (input : AddStrikeInput)
  | createForOrder (supabaseId : String) (orderId : OrderId) (dto : Reviews.CreateReviewDto)

inductive ReviewReply where
  | addStrike (result : AddStrikeResult)
  | createForOrder (result : Reviews.CreateReviewResult)

def reviewHandle (me : Nat) : ReviewCall → ReviewHandler ReviewReply
  | .addStrike input => do return .addStrike (← (addStrike me input).within strikesPart)
  | .createForOrder supabaseId orderId dto => do
    return .createForOrder (← Reviews.createForOrder me supabaseId orderId dto)

/-- Meanwhile time passes, and the other services change everything but the strikes and the
accounts. -/
structure ReviewEvent where
  elapsed : Nat
  elsewhere : Db

def ReviewDb.elsewhere (e : ReviewEvent) (s : ReviewDb) : ReviewDb :=
  { s with db := { e.elsewhere with
      now := s.db.now + e.elapsed
      users := s.db.users
      strikes := s.db.strikes } }

/-- Strikes and reviews, with every other service at work. -/
def reviewService : Service reviewMachine where
  Call := ReviewCall
  Reply := ReviewReply
  Event := ReviewEvent
  handle := reviewHandle
  admits := fun _ _ => true
  event := ReviewDb.elsewhere

end IncaCook
