import IncaCook.Library.Alarms
import IncaCook.Model.Reviews
import IncaCook.Steps.Ledger

/-!
# What the steps of a review do

Each statement of `createForOrder` writes to the transaction of its call, until the commit
moves what was written into the tables. `ReviewStep` lists the steps of a call, with what the
code knows when it takes them; the transaction of a call is its own, and committed reviews
stay.
-/

namespace IncaCook

open Prog Strikes Reviews

variable {s s' : ReviewDb} {me : Nat} {h : List (StepRecord reviewMachine)}

@[simp] theorem attempt_ok {α : Type} {stmt : ReviewTx α} {i : Answer} {a : α} :
    attempt stmt i s = .ok (a, s') ↔ i.ok = true ∧ stmt s = .ok (a, s') := by
  simp [attempt]

/-! ## Steps -/

/-- The transaction of call `me` is open, for a review of the seller. -/
structure ReviewDb.Writing (s : ReviewDb) (me : Nat) (sellerId : UserId) (t : ReviewTransaction) : Prop where
  found : s.transactions.find? me = some t
  active : t.status = .active
  seller : t.review.sellerId = sellerId

/-- The two steps before: the reviews were aggregated, and the seller's row was updated with
that. -/
def AggregatedBefore (me : Nat) (h : List (StepRecord reviewMachine)) (review : Review)
    (rating : SellerRating) : Prop :=
  ∃ update a rest, h = update :: ⟨.aggregate me, a, a⟩ :: rest ∧ update.site = .updateSeller me ∧
    rating = aggregate (review :: a.reviewsOf review.sellerId)

/-- What a step of call `me` does, after the steps `h`. -/
inductive ReviewStep (me : Nat) (h : List (StepRecord reviewMachine)) : ReviewSite → ReviewDb → ReviewDb → Prop where
  | noop (site : ReviewSite) (s : ReviewDb) : ReviewStep me h site s s
  | strikes (site : Site) (s : ReviewDb) (db : Db) : ReviewStep me h (.strikes site) s { s with db }
  | opens (s : ReviewDb) (t : ReviewTransaction) (hcall : t.call = me) {transactions : Table ReviewTransaction}
      (hnew : s.transactions.insert? t = some transactions) :
      ReviewStep me h (.createReview me) s { s with transactions }
  | writesCriteria (s : ReviewDb) (rows : List ReviewCriterionRating) : ReviewStep me h (.createCriteria me) s
      { s with transactions := s.transactions.update me fun t => { t with criteriaRatings := rows } }
  | locks (s : ReviewDb) (rating : SellerRating) : ReviewStep me h (.updateSeller me) s
      { s with transactions := s.transactions.update me fun t => { t with sellerRating := some rating } }
  | commits (s : ReviewDb) {sellerId : UserId} {t : ReviewTransaction} (hwriting : s.Writing me sellerId t)
      {rating : SellerRating} (hrating : AggregatedBefore me h t.review rating) {reviews : Table Review}
      (hnew : s.reviews.insert? t.review = some reviews) :
      ReviewStep me h (.commit me) s
        { s with
          reviews
          criteriaRatings := t.criteriaRatings ++ s.criteriaRatings
          ratings := Function.update s.ratings sellerId rating
          transactions := s.transactions.update me fun t => { t with status := .committed } }
  | rollsBack (s : ReviewDb) : ReviewStep me h (.rollback me) s
      { s with transactions := s.transactions.update me fun t => { t with status := .rolledBack } }

/-- The others leave the call's transaction alone, and remove no review. -/
def reviewContract (me : Nat) : Contract reviewMachine where
  rely s s' := s'.transactions.find? me = s.transactions.find? me ∧
    s.reviews.rows.Sublist s'.reviews.rows
  guar h site s s' := ReviewStep me h site s s'

theorem reviewContract_trans {a b c : ReviewDb} (hab : (reviewContract me).rely a b)
    (hbc : (reviewContract me).rely b c) : (reviewContract me).rely a c :=
  ⟨hbc.1.trans hab.1, hab.2.trans hbc.2⟩

/-- What one call does, another one may rely on. -/
theorem ReviewStep.rely {j : Nat} {site : ReviewSite} (hstep : ReviewStep me h site s s') (hj : me ≠ j) :
    (reviewContract j).rely s s' := by
  cases hstep with
  | noop => exact ⟨rfl, .refl _⟩
  | strikes => exact ⟨rfl, .refl _⟩
  | opens _ t hcall hnew =>
    refine ⟨?_, .refl _⟩
    rw [Table.find?_insert hnew]
    exact if_neg fun heq => hj (hcall.symm.trans heq.symm)
  | writesCriteria =>
    refine ⟨?_, .refl _⟩
    simp [hj.symm]
  | locks =>
    refine ⟨?_, .refl _⟩
    simp [hj.symm]
  | commits _ hwriting hrating hnew =>
    refine ⟨?_, ?_⟩
    · simp [hj.symm]
    · simp only [(Table.insert?_eq_some.mp hnew).2]
      exact List.sublist_cons_self _ _
  | rollsBack =>
    refine ⟨?_, .refl _⟩
    simp [hj.symm]

theorem ReviewDb.Writing.rely {sellerId : UserId} {t : ReviewTransaction} (hw : s.Writing me sellerId t)
    (hr : (reviewContract me).rely s s') : s'.Writing me sellerId t :=
  ⟨hr.1.trans hw.found, hw.active, hw.seller⟩

/-! ## Suspensions that are due -/

/-- The two rules under which an account is suspended. -/
inductive Alarm where
  | strikes (role : ActorRole)
  | rating
  deriving DecidableEq

/-- The rule applies to the user. -/
def Alarm.rings (u : UserId) (s : ReviewDb) : Alarm → Prop
  | .strikes role => suspensionThresholdPoints ≤ activeStrikePoints s.db u role
  | .rating => ratingMinReviews ≤ (aggregate (s.reviewsOf u)).reviewCount ∧
      (aggregate (s.reviewsOf u)).averageRating.any (· < ratingSuspensionThreshold) = true

/-- The user is suspended, or there is no such user. -/
def Barred (u : UserId) (db : Db) : Prop := ∀ row, db.users.find? u = some row → row.isSuspended = true

/-- The rule applies to the user, who is not suspended. -/
def Due (a : Alarm) (u : UserId) (s : ReviewDb) : Prop := ¬Barred u s.db ∧ a.rings u s

/-- The step strikes the user in the role, or adds a review of the seller. -/
def Fed (a : Alarm) (u : UserId) (t : StepRecord reviewMachine) : Prop :=
  match a with
  | .strikes role => ∃ k ∈ t.post.db.strikes.rows, k ∉ t.pre.db.strikes.rows ∧ k.userId = u ∧ k.actorRole = role
  | .rating => ∃ r ∈ t.post.reviews.rows, r ∉ t.pre.reviews.rows ∧ r.sellerId = u

/-- Nothing that the steps have raised, or fed, is left. -/
def AllSettled (h : List (StepRecord reviewMachine)) : Prop := ∀ a u, Settled (Due a u) (Fed a u) h

/-- A step that adds no strike and no review. -/
theorem not_fed_of_same {site : ReviewSite} {a : Alarm} {u : UserId} (hstrikes : s'.db.strikes = s.db.strikes)
    (hreviews : s'.reviews = s.reviews) : ¬Fed a u ⟨site, s, s'⟩ := by
  cases a with
  | strikes role =>
    rintro ⟨k, hk, hnew, -⟩
    exact hnew (hstrikes ▸ hk)
  | rating =>
    rintro ⟨r, hr, hnew, -⟩
    exact hnew (hreviews ▸ hr)

theorem Due.congr {a : Alarm} {u : UserId} (hdb : s'.db = s.db) (hreviews : s'.reviews = s.reviews) :
    Due a u s' ↔ Due a u s := by
  have hof : s'.reviewsOf u = s.reviewsOf u := by
    unfold ReviewDb.reviewsOf
    rw [hreviews]
  unfold Due Alarm.rings
  rw [hdb, hof]

/-- A step that leaves the strikes, the accounts and the reviews as they are. -/
theorem AllSettled.same {site : ReviewSite} (hh : AllSettled h) (hdb : s'.db = s.db)
    (hreviews : s'.reviews = s.reviews) : AllSettled (⟨site, s, s'⟩ :: h) :=
  fun a u => (hh a u).step (not_fed_of_same (by rw [hdb]) hreviews) (Due.congr hdb hreviews).mp

theorem AllSettled.noop {site : ReviewSite} (hh : AllSettled h) : AllSettled (⟨site, s, s⟩ :: h) :=
  hh.same rfl rfl

/-- A suspended account. -/
def suspendedAccount (now : Time) (reason : StrikeReason) (row : User) : User :=
  { row with isSuspended := true, suspendedAt := some now, suspensionReason := some reason }

/-- The database after a suspension. -/
def suspended (u : UserId) (reason : StrikeReason) (db : Db) : Db := { db with
  users := db.users.updateMany (fun row => row.id = u && !row.isSuspended) (suspendedAccount db.now reason) }

theorem suspendRow_ok {u : UserId} {reason : StrikeReason} {db db' : Db} :
    suspendRow u reason db = .ok ((), db') ↔ db' = suspended u reason db := by
  unfold suspendRow
  rw [Stmt.modify_ok]
  exact Iff.rfl

theorem suspended_barred {u : UserId} {reason : StrikeReason} {db : Db} :
    Barred u (suspended u reason db) := by
  intro row hrow
  unfold suspended at hrow
  simp only [Table.find?_updateMany] at hrow
  obtain ⟨row₀, hfound, rfl⟩ := Option.map_eq_some_iff.mp hrow
  have hid : row₀.id = u := Table.key_of_find? hfound
  cases hsusp : row₀.isSuspended with
  | true => simpa using hsusp
  | false => simp [hid, suspendedAccount]

/-- Nobody is let in by a suspension. -/
theorem barred_suspended {u v : UserId} {reason : StrikeReason} {db : Db} (hv : Barred v db) :
    Barred v (suspended u reason db) := by
  intro row hrow
  unfold suspended at hrow
  simp only [Table.find?_updateMany] at hrow
  obtain ⟨row₀, hfound, rfl⟩ := Option.map_eq_some_iff.mp hrow
  simp [hv row₀ hfound]

/-- A suspension raises nothing. -/
theorem due_suspended {a : Alarm} {u v : UserId} {reason : StrikeReason}
    (hdue : Due a v { s with db := suspended u reason s.db }) : Due a v s := by
  refine ⟨fun hv => hdue.1 (barred_suspended hv), ?_⟩
  have hrings := hdue.2
  cases a with
  | strikes role => exact hrings
  | rating => exact hrings

/-! ## The statements -/

theorem createReview_ok {row : Time → Review} {u : Unit} : createReview me row s = .ok (u, s') →
    ∃ transactions, s.transactions.insert? ⟨me, row s.db.now, [], none, .active⟩ = some transactions ∧
      s' = { s with transactions } := by
  intro hrun
  simp only [createReview, Stmt.bind_ok, Stmt.get_ok, Stmt.throwIf_ok, Stmt.orThrow_ok, Stmt.set_ok] at hrun
  obtain ⟨_, _, ⟨rfl, rfl⟩, _, _, ⟨-, rfl⟩, _, _, ⟨-, rfl⟩, transactions, _, ⟨hnew, rfl⟩, rfl⟩ := hrun
  exact ⟨transactions, hnew, rfl⟩

theorem createCriteria_ok {rows : List ReviewCriterionRating} {u : Unit} :
    createCriteria me rows s = .ok (u, s') → s' =
      { s with transactions := s.transactions.update me fun t => { t with criteriaRatings := rows } } := by
  intro hrun
  simp only [createCriteria, Stmt.bind_ok, Stmt.get_ok, Stmt.throwIf_ok, Stmt.set_ok] at hrun
  obtain ⟨_, _, ⟨rfl, rfl⟩, _, _, ⟨-, rfl⟩, rfl⟩ := hrun
  rfl

theorem updateSeller_ok {sellerId : UserId} {rating : SellerRating} {u : Unit} :
    updateSeller me sellerId rating s = .ok (u, s') → s' =
      { s with transactions := s.transactions.update me fun t => { t with sellerRating := some rating } } := by
  intro hrun
  simp only [updateSeller, Stmt.bind_ok, Stmt.get_ok, Stmt.throwIf_ok, Stmt.set_ok] at hrun
  obtain ⟨_, _, ⟨rfl, rfl⟩, _, _, ⟨-, rfl⟩, _, _, ⟨-, rfl⟩, rfl⟩ := hrun
  rfl

theorem commit_ok {u : Unit} : commit me s = .ok (u, s') → ∃ t reviews,
    s.transactions.find? me = some t ∧ s.reviews.insert? t.review = some reviews ∧
      s' = { s with
        reviews
        criteriaRatings := t.criteriaRatings ++ s.criteriaRatings
        ratings := match t.sellerRating with
          | some rating => Function.update s.ratings t.review.sellerId rating
          | none => s.ratings
        transactions := s.transactions.update me fun t => { t with status := .committed } } := by
  intro hrun
  simp only [commit, Stmt.bind_ok, Stmt.get_ok, Stmt.orThrow_ok, Stmt.set_ok] at hrun
  obtain ⟨_, _, ⟨rfl, rfl⟩, t, _, ⟨hfound, rfl⟩, reviews, _, ⟨hnew, rfl⟩, rfl⟩ := hrun
  exact ⟨t, reviews, hfound, hnew, rfl⟩

/-- What holds when a program returns; a program that fails is not asked. -/
def onOk {α : Type} (Q : α → List (StepRecord reviewMachine) → ReviewDb → Prop) : Post reviewMachine α :=
  fun h r s => ∀ a, r = .ok a → Q a h s

section

variable {α β : Type} {Q : α → List (StepRecord reviewMachine) → ReviewDb → Prop}
  {Q' : β → List (StepRecord reviewMachine) → ReviewDb → Prop} {site : ReviewSite}

theorem sat_onOk_bind {p : ReviewHandler α} {k : α → ReviewHandler β}
    (hp : Sat (reviewContract me) (onOk Q) p h s)
    (hk : ∀ a h s, Q a h s → Sat (reviewContract me) (onOk Q') (k a) h s) :
    Sat (reviewContract me) (onOk Q') (p >>= k) h s := by
  refine sat_bind (hp.post fun h r s hr => ?_)
  cases r with
  | ok a => exact hk a h s (hr a rfl)
  | error e => exact fun b hb => by cases hb

theorem sat_attempt {stmt : ReviewTx α}
    (hstep : ∀ s', (reviewContract me).rely s s' → ∀ a s'', stmt s' = .ok (a, s'') →
      ReviewStep me h site s' s'' ∧ Q a (⟨site, s', s''⟩ :: h) s'') :
    Sat (reviewContract me) (onOk Q) (await site (attempt stmt)) h s := by
  refine sat_await fun s' hr i => ⟨fun e _ => ⟨.noop site s', fun b hb => by cases hb⟩, fun a s'' hrun => ?_⟩
  obtain ⟨hg, hQ⟩ := hstep s' hr a s'' (attempt_ok.mp hrun).2
  exact ⟨hg, fun b hb => Except.ok.inj hb ▸ hQ⟩

theorem sat_review_read {f : ReviewDb → α}
    (hstep : ∀ s', (reviewContract me).rely s s' → Q (f s') (⟨site, s', s'⟩ :: h) s') :
    Sat (reviewContract me) (onOk Q) (read site f) h s :=
  sat_read fun s' hr => ⟨.noop site s', fun _ hb => Except.ok.inj hb ▸ hstep s' hr⟩

end

/-! ## The transaction -/

/-- Nothing that the steps have raised is left, except that the seller's rating may be too low. -/
def AllSettledBut (sellerId : UserId) (h : List (StepRecord reviewMachine)) : Prop :=
  ∀ a u, (a, u) ≠ (Alarm.rating, sellerId) → Settled (Due a u) (Fed a u) h

/-- The transaction is open, and nothing that was raised before is left. -/
def WritingReview (me : Nat) (sellerId : UserId) (h : List (StepRecord reviewMachine)) (s : ReviewDb) : Prop :=
  AllSettled h ∧ ∃ t, s.Writing me sellerId t

section

variable {sellerId : UserId}

theorem createReview_sat {row : Time → Review} (hrow : ∀ now, (row now).sellerId = sellerId)
    (hh : AllSettled h) : Sat (reviewContract me) (onOk fun _ => WritingReview me sellerId)
      (await (.createReview me) (attempt (createReview me row))) h s := by
  refine sat_attempt fun s' _ _ s'' hrun => ?_
  obtain ⟨transactions, hnew, rfl⟩ := createReview_ok hrun
  refine ⟨.opens s' _ rfl hnew, hh.same rfl rfl, ⟨me, row s'.db.now, [], none, .active⟩, ?_, rfl, hrow _⟩
  simp only [Table.find?_insert hnew]
  exact if_pos rfl

theorem createCriteria_sat {rows : List ReviewCriterionRating} (hw : WritingReview me sellerId h s) :
    Sat (reviewContract me) (onOk fun _ => WritingReview me sellerId)
      (await (.createCriteria me) (attempt (createCriteria me rows))) h s := by
  obtain ⟨hh, t, ht⟩ := hw
  refine sat_attempt fun s' hr _ s'' hrun => ?_
  obtain rfl := createCriteria_ok hrun
  have ht' := ht.rely hr
  refine ⟨.writesCriteria s' rows, hh.same rfl rfl, { t with criteriaRatings := rows }, ?_, ht'.active,
    ht'.seller⟩
  simp only [Table.find?_update_self]
  rw [ht'.found]
  rfl

/-- The transaction is about to store what was aggregated in the step before the last. -/
structure Storing (me : Nat) (sellerId : UserId) (h : List (StepRecord reviewMachine)) (s : ReviewDb)
    (t : ReviewTransaction) (rating : SellerRating) : Prop where
  writing : s.Writing me sellerId t
  stored : t.sellerRating = some rating
  aggregated : AggregatedBefore me h t.review rating

theorem recomputeSellerAggregates_sat (hw : WritingReview me sellerId h s) :
    Sat (reviewContract me) (onOk fun _ h s => AllSettled h ∧ ∃ t rating, Storing me sellerId h s t rating)
      (recomputeSellerAggregates me sellerId) h s := by
  obtain ⟨hh, t, ht⟩ := hw
  refine sat_onOk_bind (Q := fun rating h s => AllSettled h ∧ s.Writing me sellerId t ∧ ∃ a rest,
    h = ⟨.aggregate me, a, a⟩ :: rest ∧ rating = aggregate (t.review :: a.reviewsOf t.review.sellerId))
    (sat_attempt fun s' hr rating s'' hrun => ?_) ?_
  · simp only [Stmt.bind_ok, Stmt.get_ok, Stmt.pure_ok] at hrun
    obtain ⟨_, _, ⟨rfl, rfl⟩, rfl, rfl⟩ := hrun
    have ht' := ht.rely hr
    refine ⟨.noop _ _, hh.noop, ht', _, _, rfl, ?_⟩
    -- the transaction sees its own review beside the committed ones
    unfold ReviewDb.visible
    rw [ht'.found, ht'.seller]
    simp [Option.filter, ht'.active, ht'.seller]
  · rintro rating _ s ⟨hh, ht, a, rest, rfl, hrating⟩
    refine sat_attempt fun s' hr _ s'' hrun => ?_
    obtain rfl := updateSeller_ok hrun
    have ht' := ht.rely hr
    refine ⟨.locks s' rating, hh.same rfl rfl, { t with sellerRating := some rating }, rating,
      ⟨?_, ht'.active, ht'.seller⟩, rfl, _, a, rest, rfl, rfl, hrating⟩
    simp only [Table.find?_update_self]
    rw [ht'.found]
    rfl

/-- The commit may raise the alarm about the seller's rating, and no other. -/
theorem commit_sat (hh : AllSettled h) {t : ReviewTransaction} {rating : SellerRating}
    (hs : Storing me sellerId h s t rating) : Sat (reviewContract me) (onOk fun _ h _ => AllSettledBut sellerId h)
      (await (.commit me) (attempt (commit me))) h s := by
  refine sat_attempt fun s' hr _ s'' hrun => ?_
  have ht' := hs.writing.rely hr
  obtain ⟨t', reviews, hfound, hnew, rfl⟩ := commit_ok hrun
  obtain rfl : t' = t := Option.some.inj (hfound.symm.trans ht'.found)
  refine ⟨?_, fun a u hne => (hh a u).step (fun hfed => ?_) fun hdue => ?_⟩
  · rw [hs.stored, ht'.seller]
    exact .commits s' ht' hs.aggregated hnew
  · cases a with
    | strikes role =>
      obtain ⟨k, hk, hnot, -⟩ := hfed
      exact hnot hk
    | rating =>
      -- the one review that it adds is of the seller
      obtain ⟨r, hr, hnot, rfl⟩ := hfed
      rcases (Table.mem_insert hnew).mp hr with rfl | hold
      · exact hne (by rw [ht'.seller])
      · exact hnot hold
  · refine ⟨hdue.1, ?_⟩
    have hrings := hdue.2
    cases a with
    | strikes role => exact hrings
    | rating =>
      have hu : t'.review.sellerId ≠ u := fun heq => hne (by rw [← heq, ht'.seller])
      unfold Alarm.rings ReviewDb.reviewsOf at hrings ⊢
      simp only [(Table.insert?_eq_some.mp hnew).2] at hrings
      -- the committed review is another seller's
      rwa [List.filter_cons_of_neg (by simpa using hu)] at hrings

theorem createReviewTransaction_sat {row : Time → Review} (hrow : ∀ now, (row now).sellerId = sellerId)
    {criteria : List ReviewCriterionRating} (hh : AllSettled h) :
    Sat (reviewContract me) (onOk fun _ h _ => AllSettledBut sellerId h)
      (createReviewTransaction me sellerId row criteria) h s := by
  have hbody : Sat (reviewContract me) (onOk fun _ h _ => AllSettledBut sellerId h) (do
      await (.createReview me) (attempt (createReview me row))
      runIf (criteria ≠ []) (await (.createCriteria me) (attempt (createCriteria me criteria)))
      recomputeSellerAggregates me sellerId
      await (.commit me) (attempt (commit me))) h s := by
    refine sat_onOk_bind (createReview_sat hrow hh) fun _ h s hw => ?_
    refine sat_onOk_bind (Q := fun _ => WritingReview me sellerId) ?_ fun _ h s hw => ?_
    · unfold runIf
      split
      · exact createCriteria_sat hw
      · exact fun _ _ => hw
    refine sat_onOk_bind (recomputeSellerAggregates_sat hw) fun _ h s hw => ?_
    obtain ⟨hh, t, rating, hs⟩ := hw
    exact commit_sat hh hs
  refine sat_tryCatch (hbody.post fun h r s hr => ?_)
  cases r with
  | ok u => exact hr
  | error e =>
    -- the transaction is rolled back, and the error raised again
    refine sat_await_bind fun s' _ _ => ⟨fun _ _ => ⟨.noop _ s', fun _ hb => by cases hb⟩, fun _ s'' hrun => ?_⟩
    obtain rfl := Stmt.modify_ok.mp hrun
    exact ⟨.rollsBack s', fun _ hb => by cases hb⟩

/-! ## The evaluation -/

theorem AllSettledBut.clear {site : ReviewSite} (hh : AllSettledBut sellerId h)
    (hstrikes : s'.db.strikes = s.db.strikes) (hreviews : s'.reviews = s.reviews)
    (hraised : ∀ a u, Due a u s' → Due a u s) (hclear : ¬Due .rating sellerId s') :
    AllSettled (⟨site, s, s'⟩ :: h) := by
  intro a u
  by_cases heq : (a, u) = (Alarm.rating, sellerId)
  · obtain ⟨rfl, rfl⟩ := Prod.mk.inj heq
    exact settled_of_clear hclear
  · exact (hh a u heq).step (not_fed_of_same hstrikes hreviews) (hraised a u)

theorem AllSettledBut.noop {site : ReviewSite} (hh : AllSettledBut sellerId h) :
    AllSettledBut sellerId (⟨site, s, s⟩ :: h) :=
  fun a u hne => (hh a u hne).noop (not_fed_of_same rfl rfl)

theorem suspendUser_within_sat {u : UserId} {reason : StrikeReason} (hh : AllSettledBut u h) :
    Sat (reviewContract me) (onOk fun _ h _ => AllSettled h) ((suspendUser u reason).within strikesPart) h s := by
  intro s' _ i
  refine ⟨.strikes _ s' _, fun _ _ => hh.clear rfl rfl (fun a v hdue => due_suspended hdue) fun hdue => ?_⟩
  exact hdue.1 suspended_barred

/-- The early returns are those where no suspension is due. -/
theorem evaluateSellerRatingSuspension_sat (hh : AllSettledBut sellerId h) :
    Sat (reviewContract me) (onOk fun _ h _ => AllSettled h) (evaluateSellerRatingSuspension sellerId) h s := by
  refine sat_onOk_bind (Q := fun agg h _ => AllSettledBut sellerId h ∧
    (agg.reviewCount < ratingMinReviews ∨ agg.averageRating.all (ratingSuspensionThreshold ≤ ·) → AllSettled h))
    (sat_attempt fun s' _ agg s'' hrun => ?_) ?_
  · simp only [Stmt.bind_ok, Stmt.get_ok, Stmt.pure_ok] at hrun
    obtain ⟨_, _, ⟨rfl, rfl⟩, rfl, rfl⟩ := hrun
    refine ⟨.noop _ _, hh.noop, fun hlow => hh.clear rfl rfl (fun _ _ => id) ?_⟩
    rintro ⟨-, hmany, haverage⟩
    -- too few reviews, or a rating that is good enough
    rcases hlow with hfew | hall
    · exact absurd hmany (Nat.not_le.mpr hfew)
    · obtain ⟨average, hsome, hlt⟩ := Option.any_eq_true _ _ |>.mp haverage
      rw [hsome] at hall
      exact absurd (of_decide_eq_true hall) (not_le.mpr (of_decide_eq_true hlt))
  · rintro agg h s ⟨hh, hreturn⟩
    refine sat_ite (fun hlow => fun _ _ => hreturn hlow) fun _ => ?_
    refine sat_onOk_bind (Q := fun user h _ => AllSettledBut sellerId h ∧
      (user.all User.isSuspended → AllSettled h)) (sat_attempt fun s' _ user s'' hrun => ?_) ?_
    · simp only [Stmt.bind_ok, Stmt.get_ok, Stmt.pure_ok] at hrun
      obtain ⟨_, _, ⟨rfl, rfl⟩, rfl, rfl⟩ := hrun
      refine ⟨.noop _ _, hh.noop, fun hall => hh.clear rfl rfl (fun _ _ => id) ?_⟩
      -- whoever is suspended, or does not exist, is not due
      refine fun hdue => hdue.1 fun row hrow => ?_
      rw [hrow] at hall
      exact hall
    · rintro user h s ⟨hh, hreturn⟩
      exact sat_ite (fun hall => fun _ _ => hreturn hall) fun _ => suspendUser_within_sat hh

theorem validateCriteriaValues_sat {ratings : List CreateReviewCriterionDto} (hh : AllSettled h) :
    Sat (reviewContract me) (onOk fun _ h _ => AllSettled h) (validateCriteriaValues ratings) h s := by
  have hstepless : (validateCriteriaValues ratings).Stepless :=
    stepless_forM (fun _ => stepless_bind stepless_throwIf fun _ => stepless_throwIf) ratings
  obtain ⟨r, hr⟩ := hstepless
  rw [hr]
  exact fun _ _ => hh

/-- An error of the evaluation is logged, and only then something may be left. -/
theorem loggedEvaluation_sat (hh : AllSettledBut sellerId h) :
    Sat (reviewContract me) (onOk fun logged h _ => logged = none → AllSettled h)
      (tryCatch (do
        evaluateSellerRatingSuspension sellerId
        return none) fun e => return some e) h s := by
  have hbody : Sat (reviewContract me) (onOk fun (_ : Option Err) h _ => AllSettled h) (do
      evaluateSellerRatingSuspension sellerId
      return none) h s :=
    sat_onOk_bind (evaluateSellerRatingSuspension_sat hh) fun _ _ _ hh _ _ => hh
  refine sat_tryCatch (hbody.post fun h r s hr => ?_)
  cases r with
  | ok logged => exact fun _ ha _ => hr _ rfl
  | error e =>
    intro logged ha hnone
    cases ha
    cases hnone

/-- A review that returns without having logged an error has settled what it raised. -/
theorem createForOrder_sat {supabaseId : String} {orderId : OrderId} {dto : CreateReviewDto}
    (hh : AllSettled h) : Sat (reviewContract me) (onOk fun result h _ => result.logged = none → AllSettled h)
      (createForOrder me supabaseId orderId dto) h s := by
  unfold createForOrder
  refine sat_onOk_bind (Q := fun _ h _ => AllSettled h) (sat_review_read fun s' _ => hh.noop) fun _ h s hh => ?_
  refine sat_orThrow_bind (fun _ _ hb => by cases hb) fun author _ => ?_
  refine sat_onOk_bind (Q := fun _ h _ => AllSettled h) (sat_review_read fun s' _ => hh.noop) fun _ h s hh => ?_
  refine sat_orThrow_bind (fun _ _ hb => by cases hb) fun order _ => ?_
  refine sat_throwIf_bind (fun _ _ hb => by cases hb) fun _ => ?_
  refine sat_throwIf_bind (fun _ _ hb => by cases hb) fun _ => ?_
  refine sat_onOk_bind (Q := fun _ h _ => AllSettled h) (sat_review_read fun s' _ => hh.noop) fun _ h s hh => ?_
  refine sat_throwIf_bind (fun _ _ hb => by cases hb) fun _ => ?_
  refine sat_onOk_bind (validateCriteriaValues_sat hh) fun _ h s hh => ?_
  have hrow : ∀ now, (⟨generateUlid me 14, orderId, author, order.sellerId, dto.rating, dto.body, now⟩ :
      Review).sellerId = order.sellerId := fun _ => rfl
  refine sat_onOk_bind (createReviewTransaction_sat hrow hh) fun _ h s hh => ?_
  refine sat_onOk_bind (loggedEvaluation_sat hh) fun logged h s hh => ?_
  refine sat_onOk_bind (Q := fun _ h _ => logged = none → AllSettled h)
    (sat_review_read fun s' _ hnone => (hh hnone).noop) fun review h s hh => ?_
  intro result ha hnone
  cases ha
  exact hh hnone

end

/-! ## Strikes -/

section

variable {db db' : Db} {input : AddStrikeInput} {g : List (StepRecord machine)} {u : UserId} {role : ActorRole}

/-- The rule about strikes, on the part of the state that it reads. -/
def StrikeDue (role : ActorRole) (u : UserId) (db : Db) : Prop :=
  ¬Barred u db ∧ suspensionThresholdPoints ≤ activeStrikePoints db u role

/-- The step strikes the user in the role. -/
def StrikeFed (role : ActorRole) (u : UserId) (t : StepRecord machine) : Prop :=
  ∃ k ∈ t.post.strikes.rows, k ∉ t.pre.strikes.rows ∧ k.userId = u ∧ k.actorRole = role

/-- Nothing that the steps have raised by strikes, or fed, is left. -/
def StrikesSettled (g : List (StepRecord machine)) : Prop :=
  ∀ role u, Settled (StrikeDue role u) (StrikeFed role u) g

theorem not_strikeFed {site : Site} (hstrikes : db'.strikes = db.strikes) : ¬StrikeFed role u ⟨site, db, db'⟩ := by
  rintro ⟨k, hk, hnew, -⟩
  exact hnew (hstrikes ▸ hk)

theorem StrikesSettled.noop {site : Site} (hg : StrikesSettled g) : StrikesSettled (⟨site, db, db⟩ :: g) :=
  fun role u => (hg role u).noop (not_strikeFed rfl)

/-- The creation of a strike is about its user and role only. -/
theorem createStrike_step {site : Site} {id : StrikeId} (hg : Settled (StrikeDue role u) (StrikeFed role u) g)
    (hrun : createStrike input id db = .ok ((), db')) (hother : ¬(u = input.userId ∧ role = input.role)) :
    Settled (StrikeDue role u) (StrikeFed role u) (⟨site, db, db'⟩ :: g) := by
  obtain ⟨strikes, hnew, rfl⟩ := createStrike_ok.mp hrun
  refine hg.step ?_ fun hdue => ⟨hdue.1, ?_⟩
  · rintro ⟨k, hk, hnot, huser, hrole⟩
    rcases (Table.mem_insert hnew).mp hk with rfl | hold
    · exact hother ⟨huser.symm, hrole.symm⟩
    · exact hnot hold
  · have hpoints : activeStrikePoints { db with strikes } u role = activeStrikePoints db u role := by
      unfold activeStrikePoints
      simp only [(Table.insert?_eq_some.mp hnew).2]
      rw [List.filter_cons_of_neg]
      intro hcounts
      simp only [Bool.and_eq_true, decide_eq_true_eq] at hcounts
      exact hother ⟨hcounts.1.1.symm, hcounts.1.2.symm⟩
    rw [← hpoints]
    exact hdue.2

/-- Accounts are suspended, and never let in. -/
def strikesContract : Contract machine where
  rely _ _ := True
  guar _ _ a b := ∀ u, Barred u a → Barred u b

theorem strikes_read_sat {α : Type} {Q : Post machine α} {f : Db → α} {site : Site}
    (hQ : ∀ db', Q (⟨site, db', db'⟩ :: g) (.ok (f db')) db') :
    Sat strikesContract Q (Prog.read site f) g db :=
  sat_read fun db' _ => ⟨fun _ => id, hQ db'⟩

/-- The evaluation settles what a new strike may have raised. -/
theorem evaluateSuspension_sat {v : UserId} {r : ActorRole} {reason : StrikeReason}
    (hg : ∀ role u, ¬(u = v ∧ role = r) → Settled (StrikeDue role u) (StrikeFed role u) g) :
    Sat strikesContract (fun g _ _ => StrikesSettled g) (evaluateSuspension v r reason) g db := by
  refine sat_bind (strikes_read_sat fun db₁ => ?_)
  refine sat_ite (fun _ => ?_) fun hfew => sat_pure fun role u => ?_
  · refine sat_await_bind fun db₂ _ _ => ⟨fun e herr => (by cases herr), fun _ db₃ hrun => ?_⟩
    obtain rfl := suspendRow_ok.mp hrun
    refine ⟨fun u => barred_suspended, fun role u => ?_⟩
    by_cases hsame : u = v ∧ role = r
    · obtain ⟨rfl, rfl⟩ := hsame
      exact settled_of_clear fun hdue => hdue.1 suspended_barred
    · refine ((hg role u hsame).noop (not_strikeFed rfl)).step (not_strikeFed rfl) fun hdue => ?_
      exact ⟨fun hu => hdue.1 (barred_suspended hu), hdue.2⟩
  · by_cases hsame : u = v ∧ role = r
    · obtain ⟨rfl, rfl⟩ := hsame
      exact settled_of_clear fun hdue => hfew hdue.2
    · exact (hg role u hsame).noop (not_strikeFed rfl)

/-- Whoever adds a strike evaluates the points after it. -/
theorem addStrike_settled (me : Nat) : Sat strikesContract
    (fun g r _ => ∀ result, r = .ok result → StrikesSettled g) (addStrike me input) [] db := by
  have hnil : StrikesSettled [] := fun _ _ => settled_nil
  have hlook : Sat strikesContract (fun g _ _ => StrikesSettled g) (isDuplicate input) [] db :=
    sat_ite (fun _ => strikes_read_sat fun _ => hnil.noop) fun _ => sat_pure hnil
  refine sat_bind (hlook.post fun g r db hg => ?_)
  cases r with
  | error e => exact fun _ hb => by cases hb
  | ok duplicate =>
    refine sat_ite (fun _ => ?_) fun _ => ?_
    · exact sat_bind (strikes_read_sat fun _ _ _ => hg.noop)
    refine sat_await_bind fun db₁ _ _ => ⟨fun e _ => ⟨fun _ => id, fun _ hb => by cases hb⟩, fun _ db₂ hrun => ?_⟩
    refine ⟨fun u hu => ?_, sat_bind ((evaluateSuspension_sat fun role u hother => ?_).post fun g r _ hg => ?_)⟩
    · obtain ⟨strikes, -, rfl⟩ := createStrike_ok.mp hrun
      exact hu
    · exact createStrike_step (hg role u) hrun hother
    · cases r with
      | error e => exact fun _ hb => by cases hb
      | ok suspended => exact fun _ _ => hg

end

/-! ## The calls -/

/-- The error that a call has only logged. -/
def ReviewReply.logged : ReviewReply → Option Err
  | .addStrike _ => none
  | .createForOrder result => result.logged

/-- The part's steps so far and the whole's, which began with settled steps. -/
structure OnlyStrikes (g h₀ : List (StepRecord reviewMachine)) (h : List (StepRecord machine)) : Prop where
  steps : ∃ k, g = k ++ h₀ ∧ SeenThrough strikesPart h k
  rating : ∀ u, Settled (Due .rating u) (Fed .rating u) g

theorem addStrike_within_sat {input : AddStrikeInput} (hh : AllSettled h) :
    Sat (reviewContract me) (onOk fun _ h _ => AllSettled h) ((addStrike me input).within strikesPart) h s := by
  refine sat_within (V := fun g' g => OnlyStrikes g h g') (fun _ _ _ => trivial)
    (fun _ _ site s db _ _ => ReviewStep.strikes site s db) ?_ ?_ (addStrike_settled me)
    ⟨⟨[], rfl, List.Forall₂.nil⟩, fun u => hh .rating u⟩
  · rintro g' g site s db ⟨⟨k, rfl, hseen⟩, hrating⟩ hbarred
    refine ⟨⟨_ :: k, rfl, List.Forall₂.cons ⟨rfl, rfl⟩ hseen⟩, fun u => (hrating u).step ?_ fun hdue => ?_⟩
    · rintro ⟨r, hr, hnew, -⟩
      exact hnew hr
    · exact ⟨fun hu => hdue.1 (hbarred u hu), hdue.2⟩
  · rintro g' g r s ⟨⟨k, rfl, hseen⟩, hrating⟩ hsettled result hok a u
    cases a with
    | rating => exact hrating u
    | strikes role =>
      cases r with
      | error e => cases hok
      | ok result' =>
        refine (hsettled result' rfl role u).within (fun _ => Iff.rfl) (fun t t' hpre hpost hfed => ?_) hseen (hh _ u)
        obtain ⟨k, hk, hnew, hof⟩ := hfed
        refine ⟨k, ?_, ?_, hof⟩
        · rwa [hpost]
        · rwa [hpre]

/-- **A call that returns without having logged an error leaves nothing that it has raised.** -/
theorem reviewHandle_sat (c : ReviewCall) (hh : AllSettled h) :
    Sat (reviewContract me) (onOk fun reply h _ => reply.logged = none → AllSettled h) (reviewHandle me c) h s := by
  cases c with
  | addStrike input => exact sat_onOk_bind (addStrike_within_sat hh) fun _ _ _ hh _ _ _ => hh
  | createForOrder supabaseId orderId dto =>
    refine sat_onOk_bind (createForOrder_sat hh) fun result h s hh => ?_
    intro reply ha hnone
    cases ha
    exact hh hnone

/-- **Soundness of the service**: what each step of a run does, and what each finished call
has left. -/
theorem review_sound (s₀ : ReviewDb) (actions : List (Pool.Action reviewService)) :
    Pool.Sound reviewContract
      (fun _ _ h r _ => ∀ reply, r = .ok reply → ReviewReply.logged reply = none → AllSettled h)
      (fun _ => True) s₀ (poolRun s₀ actions) := by
  have hsame : ∀ j s s', s'.transactions = s.transactions → s'.reviews = s.reviews →
      (reviewContract j).rely s s' := fun j s s' htx hreviews =>
    ⟨by rw [htx], by rw [hreviews]⟩
  have hsteps : (poolRun s₀ actions).Steps fun _ _ => True := fun _ _ => trivial
  refine Pool.sound trivial (fun j s _ => hsame j s s rfl rfl) (fun _ _ _ _ => reviewContract_trans)
    (fun _ _ _ _ _ _ _ hQ => hQ) (fun _ _ _ _ _ _ _ _ => trivial)
    (fun i j _ site s s' hij _ _ hstep => hstep.rely hij) (fun e s _ => ⟨trivial, fun j => hsame j _ _ rfl rfl⟩)
    (fun j c s _ _ _ => reviewHandle_sat c fun _ _ => settled_nil) actions hsteps

end IncaCook
