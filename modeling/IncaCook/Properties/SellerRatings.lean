import IncaCook.Properties.Conversations
import IncaCook.Properties.Suspensions

/-!
# The cached rating of a seller

A review is written, the seller's reviews are aggregated and the seller's row is updated in one
transaction. The row is locked by the update only: the reviews that others commit between the
aggregation and the update are missing in what is stored.

Main results:

* `exact_commit`: what a commit stores is exact if and only if no review was committed between
  the aggregation and the commit;
* `cached_rating_iff`: in every state of every run, the cached rating is exact if and only if
  the last transaction that has stored it had seen every review committed by then.
-/

namespace IncaCook

open Prog Strikes Reviews

/-- The cached rating is that of the seller's reviews. -/
def Exact (u : UserId) (s : ReviewDb) : Prop := s.ratings u = aggregate (s.reviewsOf u)

instance (u : UserId) (s : ReviewDb) : Decidable (Exact u s) :=
  inferInstanceAs (Decidable (s.ratings u = aggregate (s.reviewsOf u)))

/-- The step commits a review of the seller. -/
def Commits (u : UserId) (e : Entry reviewMachine) : Bool :=
  e.site = .commit e.thread && e.post.reviewsOf u ≠ e.pre.reviewsOf u

/-- The steps since call `j` has aggregated the reviews, newest first. -/
def sinceAggregate (j : Nat) (trace : List (Entry reviewMachine)) : List (Entry reviewMachine) :=
  trace.takeWhile fun x => !(x.thread = j && x.site = .aggregate j)

/-- No review of the seller was committed between the aggregation and the commit of the last
transaction that has committed one. -/
def LastSawAll (u : UserId) : List (Entry reviewMachine) → Prop
  | [] => True
  | e :: earlier =>
    if Commits u e then ∀ x ∈ sinceAggregate e.thread earlier, Commits u x = false
    else LastSawAll u earlier

section

variable {s s' s₀ : ReviewDb} {u : UserId} {me j : Nat} {h : List (StepRecord reviewMachine)}
  {site : ReviewSite} {trace : List (Entry reviewMachine)}

/-- What a step means to a seller. -/
theorem ReviewStep.of_seller (hstep : ReviewStep me h site s s') (u : UserId) :
    (s'.reviewsOf u = s.reviewsOf u ∧ s'.ratings u = s.ratings u) ∨
    (site = .commit me ∧ ∃ review, s'.reviewsOf u = review :: s.reviewsOf u ∧ review.sellerId = u ∧
      AggregatedBefore me h review (s'.ratings u)) := by
  cases hstep with
  | commits _ hwriting hrating hnew =>
    rename_i sellerId t rating reviews
    have hrows := (Table.insert?_eq_some.mp hnew).2
    -- the commit stores a rating for the seller of its transaction, and for nobody else
    by_cases hu : sellerId = u
    · subst hu
      refine .inr ⟨rfl, t.review, ?_, hwriting.seller, ?_⟩
      · unfold ReviewDb.reviewsOf
        simp only [hrows]
        exact List.filter_cons_of_pos (decide_eq_true hwriting.seller)
      · simpa using hrating
    · refine .inl ⟨?_, Function.update_of_ne (Ne.symm hu) _ _⟩
      have hne : t.review.sellerId ≠ u := fun heq => hu (hwriting.seller.symm.trans heq)
      unfold ReviewDb.reviewsOf
      simp only [hrows]
      exact List.filter_cons_of_neg (by simpa using hne)
  | noop => exact .inl ⟨rfl, rfl⟩
  | strikes => exact .inl ⟨rfl, rfl⟩
  | opens => exact .inl ⟨rfl, rfl⟩
  | writesCriteria => exact .inl ⟨rfl, rfl⟩
  | locks => exact .inl ⟨rfl, rfl⟩
  | rollsBack => exact .inl ⟨rfl, rfl⟩

/-! ## What became visible -/

/-- As many reviews became visible between the two states as the steps have committed. -/
def NewReviews (u : UserId) (steps : List (Entry reviewMachine)) (s s' : ReviewDb) : Prop :=
  ∃ new, s'.reviewsOf u = new ++ s.reviewsOf u ∧ new.length = steps.countP (Commits u)

theorem commits_of_cons {e : Entry reviewMachine} {review : Review} (hsite : e.site = .commit e.thread)
    (hpost : e.post.reviewsOf u = review :: e.pre.reviewsOf u) : Commits u e = true := by
  unfold Commits
  simp [hsite, hpost]

theorem not_commits_of_eq {e : Entry reviewMachine} (hpost : e.post.reviewsOf u = e.pre.reviewsOf u) :
    Commits u e = false := by
  unfold Commits
  simp [hpost]

theorem NewReviews.step {e : Entry reviewMachine} {later : List (Entry reviewMachine)}
    (hlater : NewReviews u later s e.pre) (hstep : ReviewStep e.thread h e.site e.pre e.post) :
    NewReviews u (e :: later) s e.post := by
  obtain ⟨new, hpre, hlength⟩ := hlater
  rcases hstep.of_seller u with ⟨hsame, -⟩ | ⟨hsite, review, hpost, -, -⟩
  · refine ⟨new, hsame.trans hpre, ?_⟩
    rw [List.countP_cons_of_neg (by simp [not_commits_of_eq hsame])]
    exact hlength
  · refine ⟨review :: new, by rw [hpost, hpre]; rfl, ?_⟩
    rw [List.countP_cons_of_pos (commits_of_cons hsite hpost), List.length_cons, hlength]

/-- What a reader has missed: as many reviews as were committed since. -/
def Counted (u : UserId) (s : ReviewDb) (trace : List (Entry reviewMachine)) : Prop :=
  ∀ later e earlier, trace = later ++ e :: earlier → NewReviews u later e.post s

theorem Counted.step {e : Entry reviewMachine} (htrace : Counted u e.pre trace)
    (hstep : ReviewStep e.thread h e.site e.pre e.post) : Counted u e.post (e :: trace) := by
  intro later x before hsplit
  cases later with
  | nil =>
    obtain ⟨rfl, rfl⟩ := List.cons.inj hsplit
    exact ⟨[], rfl, rfl⟩
  | cons y later =>
    obtain ⟨rfl, hrest⟩ := List.cons.inj hsplit
    exact (htrace later x before hrest).step hstep

/-! ## What is stored -/

/-- The steps since the aggregation, when the update was the only one of the call's own. -/
theorem sinceAggregate_eq {update : StepRecord reviewMachine} {a : ReviewDb} {rest : List (StepRecord reviewMachine)}
    (hown : Pool.ownSteps j trace = update :: ⟨.aggregate j, a, a⟩ :: rest) (hupdate : update.site = .updateSeller j) :
    ∃ before, trace = sinceAggregate j trace ++ ⟨⟨.aggregate j, a, a⟩, j⟩ :: before := by
  have hsplit : Pool.ownSteps j trace = [update] ++ ⟨.aggregate j, a, a⟩ :: rest := hown
  obtain ⟨after, ⟨record, thread⟩, before, htrace, hj, hrecord, hbefore⟩ := Pool.ownSteps_split hsplit
  dsimp only at hj hrecord
  subst thread record
  have hafter : Pool.ownSteps j after = [update] := by
    rw [htrace, Pool.ownSteps, List.filter_append, List.map_append] at hown
    refine List.append_cancel_right (hown.trans ?_)
    rw [← Pool.ownSteps, Pool.ownSteps_cons_self, hbefore]
    rfl
  -- none of the steps after it is another aggregation of the call
  have hnone : ∀ x ∈ after, (!(x.thread = j && x.site = .aggregate j)) = true := by
    intro x hx
    by_cases hthread : x.thread = j
    · have hmem : x.toStepRecord ∈ Pool.ownSteps j after :=
        List.mem_map_of_mem (List.mem_filter.mpr ⟨hx, decide_eq_true hthread⟩)
      rw [hafter, List.mem_singleton] at hmem
      have hsite : x.site = .updateSeller j := by rw [hmem, hupdate]
      simp [hsite]
    · simp [hthread]
  refine ⟨before, ?_⟩
  unfold sinceAggregate
  conv_rhs => rw [htrace, List.takeWhile_append_of_pos hnone, List.takeWhile_cons_of_neg (by simp)]
  rw [List.append_nil]
  exact htrace

/-- What was aggregated is exact if no review is missing. -/
theorem aggregate_eq_iff {review : Review} {old new : List Review} :
    aggregate (review :: old) = aggregate (review :: (new ++ old)) ↔ new.length = 0 := by
  constructor
  · intro heq
    have hcount : (review :: old).length = (review :: (new ++ old)).length :=
      congrArg SellerRating.reviewCount heq
    simp only [List.length_cons, List.length_append] at hcount
    omega
  · intro hnil
    rw [List.length_eq_zero_iff.mp hnil]
    rfl

theorem Exact.congr (hreviews : s'.reviewsOf u = s.reviewsOf u) (hratings : s'.ratings u = s.ratings u) :
    Exact u s' ↔ Exact u s := by
  unfold Exact
  rw [hreviews, hratings]

/-- A commit stores an exact rating if and only if none was committed since the aggregation. -/
theorem exact_commit {e : Entry reviewMachine} {earlier : List (Entry reviewMachine)} {review : Review}
    (hpost : e.post.reviewsOf u = review :: e.pre.reviewsOf u) (hseller : review.sellerId = u)
    (hstored : AggregatedBefore e.thread (Pool.ownSteps e.thread earlier) review (e.post.ratings u))
    (hcounted : Counted u e.pre earlier) :
    Exact u e.post ↔ ∀ x ∈ sinceAggregate e.thread earlier, Commits u x = false := by
  obtain ⟨update, a, rest, hown, hupdate, hrating⟩ := hstored
  obtain ⟨before, hearlier⟩ := sinceAggregate_eq hown hupdate
  obtain ⟨new, hpre, hlength⟩ := hcounted _ _ _ hearlier
  unfold Exact
  rw [hrating, hseller, hpost, hpre, aggregate_eq_iff, hlength, List.countP_eq_zero]
  simp only [Bool.not_eq_true]

/-- **The cached rating of a seller is exact if and only if the last transaction to commit had
seen all that was committed**, in every state of every run. -/
theorem cached_rating_iff (hexact : Exact u s₀) (actions : List (Pool.Action reviewService)) :
    Exact u (poolRun s₀ actions).state ↔ LastSawAll u (poolRun s₀ actions).trace := by
  have hsound := review_sound s₀ actions
  have hcounted : Counted u s₀ [] := fun _ _ _ hsplit => absurd hsplit.symm (by simp)
  suffices hboth : Counted u (poolRun s₀ actions).state (poolRun s₀ actions).trace ∧
      (Exact u (poolRun s₀ actions).state ↔ LastSawAll u (poolRun s₀ actions).trace) from hboth.2
  refine Pool.history (I := fun s trace => Counted u s trace ∧ (Exact u s ↔ LastSawAll u trace))
    ⟨hcounted, iff_of_true hexact trivial⟩ (fun _ _ _ hs => hs) actions ?_
  rintro later e earlier htrace ⟨hcounted, ih⟩
  obtain ⟨-, -, hstep⟩ := hsound.guar later e earlier htrace
  refine ⟨hcounted.step hstep, ?_⟩
  -- a step without a commit leaves both sides as they are
  unfold LastSawAll
  rcases hstep.of_seller u with ⟨hsame, hratings⟩ | ⟨hsite, review, hpost, hseller, hstored⟩
  · rw [not_commits_of_eq hsame, if_neg Bool.false_ne_true, ← ih]
    exact Exact.congr hsame hratings
  · rw [if_pos (commits_of_cons hsite hpost)]
    exact exact_commit hpost hseller hstored hcounted

end

/-! ## Two reviews at once -/

/-- The small marketplace with two delivered orders of one seller, not yet reviewed. -/
def deliveredTown : ReviewDb := { quietTown with
  db := { smallTown with orders := ⟨[{ townOrder with status := .delivered },
    { townOrder with
      id := ⟨0, 131⟩
      status := .delivered }], by decide⟩ } }

theorem five_stars : 1 ≤ 5 ∧ 5 ≤ 5 := ⟨by decide, Nat.le_refl 5⟩

def fiveStars : CreateReviewDto := ⟨5, "Perfect", none, five_stars.1, five_stars.2⟩

/-- Both orders are reviewed, and the calls take their steps in these turns. -/
def reviewsInTurn (turns : List Nat) : List (Pool.Action reviewService) :=
  [.arrive (.createForOrder "buyer" ⟨0, 130⟩ fiveStars), .arrive (.createForOrder "buyer" ⟨0, 131⟩ fiveStars)] ++
    turns.map (.run · ⟨true, "", ""⟩)

/-- Each call has aggregated before either one updates the seller's row. -/
def twoReviews : List (Pool.Action reviewService) :=
  reviewsInTurn (List.replicate 5 0 ++ List.replicate 5 1 ++ List.replicate 4 0 ++ List.replicate 4 1)

theorem deliveredTown_exact : Exact ⟨0, 101⟩ deliveredTown := by decide +kernel

/-- Two reviews, of which the seller's row counts one. -/
theorem review_lost : Exact ⟨0, 101⟩ deliveredTown ∧ FinishedWithoutError (poolRun deliveredTown twoReviews) ∧
    ((poolRun deliveredTown twoReviews).state.reviewsOf ⟨0, 101⟩).length = 2 ∧
    ((poolRun deliveredTown twoReviews).state.ratings ⟨0, 101⟩).reviewCount = 1 ∧
    ¬Exact ⟨0, 101⟩ (poolRun deliveredTown twoReviews).state := by
  decide +kernel

theorem twoReviews_exact_iff : Exact ⟨0, 101⟩ (poolRun deliveredTown twoReviews).state ↔
    LastSawAll ⟨0, 101⟩ (poolRun deliveredTown twoReviews).trace :=
  cached_rating_iff deliveredTown_exact twoReviews

/-- One after the other, both are counted. -/
example : Exact ⟨0, 101⟩ (poolRun deliveredTown (reviewsInTurn (List.replicate 9 0 ++ List.replicate 9 1))).state := by
  decide +kernel

end IncaCook
