import IncaCook.Model.System
import IncaCook.Steps.Reviews
import Mathlib.Algebra.Order.BigOperators.Group.List

/-!
# No suspension is missed

A strike, and a review, is written first and the rule evaluated afterwards, while others write
theirs. Whoever writes last evaluates last, and sees all that was written.

Main results:

* `noneMissed_iff`: what it means that no suspension is due;
* `suspension_never_missed`: when all calls have returned without an error, none is, unless it was
  before and the run has added nothing to it.
-/

namespace IncaCook

open Prog Strikes Reviews

variable {s s₀ : ReviewDb} {a : Alarm} {u : UserId} {p : Pool reviewService}

/-- The rule did not call for a suspension of the user before the run, or the run has struck the
user, or reviewed the seller. -/
def Concerns (s₀ : ReviewDb) (p : Pool reviewService) (a : Alarm) (u : UserId) : Prop :=
  Pool.Watches (Due a u) (Fed a u) s₀ p.trace

/-- Whoever has three active points in a role is suspended, and so is a seller with at least
ten reviews and an average below 3.5, where the run is concerned. -/
structure NoneMissed (s₀ : ReviewDb) (p : Pool reviewService) : Prop where
  strikes : ∀ u ∈ p.state.db.users.rows, ∀ role, Concerns s₀ p (.strikes role) u.id →
    suspensionThresholdPoints ≤ activeStrikePoints p.state.db u.id role → u.isSuspended = true
  rating : ∀ u ∈ p.state.db.users.rows, Concerns s₀ p .rating u.id →
    ratingMinReviews ≤ (p.state.reviewsOf u.id).length →
    ∀ average, (aggregate (p.state.reviewsOf u.id)).averageRating = some average →
      average < ratingSuspensionThreshold → u.isSuspended = true

theorem noneMissed_iff : NoneMissed s₀ p ↔ ∀ a u, Concerns s₀ p a u → ¬Due a u p.state := by
  constructor
  · rintro h a u h₀ ⟨hfree, hrings⟩
    refine hfree fun row hrow => ?_
    have hmem := Table.mem_of_find? hrow
    obtain rfl : row.id = u := Table.key_of_find? hrow
    -- the alarm rings for a row of the table: it is the rule of the structure
    cases a with
    | strikes role => exact h.strikes row hmem role h₀ hrings
    | rating =>
      obtain ⟨average, haverage, hlt⟩ := (Option.any_eq_true _ _).mp hrings.2
      exact h.rating row hmem h₀ hrings.1 average haverage (of_decide_eq_true hlt)
  · intro h
    have hsuspended : ∀ row ∈ p.state.db.users.rows, ∀ a : Alarm, Concerns s₀ p a row.id →
        a.rings row.id p.state → row.isSuspended = true := by
      intro row hmem a h₀ hrings
      by_contra hfree
      refine h a row.id h₀ ⟨fun hbarred => hfree (hbarred row ?_), hrings⟩
      exact Table.find?_of_mem hmem
    constructor
    · exact fun row hmem role h₀ hrings => hsuspended row hmem (.strikes role) h₀ hrings
    · intro row hmem h₀ hmany average haverage hlt
      refine hsuspended row hmem .rating h₀ ⟨hmany, ?_⟩
      rw [haverage]
      exact decide_eq_true hlt

/-- As time passes, points only expire. -/
theorem activeStrikePoints_elapsed {db db' : Db} {role : ActorRole} (hstrikes : db'.strikes = db.strikes)
    (hnow : db.now ≤ db'.now) : activeStrikePoints db' u role ≤ activeStrikePoints db u role := by
  unfold activeStrikePoints
  rw [hstrikes]
  -- later, fewer strikes are inside the window
  refine List.Sublist.sum_le_sum (List.Sublist.map _ ?_) fun _ _ => Nat.zero_le _
  refine List.monotone_filter_right _ fun k hk => ?_
  simp only [Bool.and_eq_true, decide_eq_true_eq] at hk ⊢
  exact ⟨hk.1, le_trans (Nat.sub_le_sub_right hnow _) hk.2⟩

/-- The other services raise nothing. -/
theorem due_elsewhere {e : ReviewEvent} (hdue : Due a u (s.elsewhere e)) : Due a u s := by
  refine ⟨hdue.1, ?_⟩
  have hrings := hdue.2
  cases a with
  | strikes role => exact le_trans hrings (activeStrikePoints_elapsed rfl (Nat.le_add_right _ _))
  | rating => exact hrings

/-- Every call has returned, and none has logged an error. -/
def FinishedWithoutError (p : Pool reviewService) : Prop :=
  ∀ j < p.threads.length, (p.result? j).any (fun r => r.toOption.any fun reply =>
    (ReviewReply.logged reply).isNone) = true

instance (p : Pool reviewService) : Decidable (FinishedWithoutError p) :=
  inferInstanceAs (Decidable (∀ j < p.threads.length, (p.result? j).any (fun r => r.toOption.any fun reply =>
    (ReviewReply.logged reply).isNone) = true))

/-- **No suspension is missed.** In every interleaving of strikes and reviews, statement by
statement, with the other services at work and time passing meanwhile: when all calls have returned
without an error, no suspension is due that was not due before them, nor any to which one of them
has added a strike or a review. -/
theorem suspension_never_missed (actions : List (Pool.Action reviewService))
    (hdone : FinishedWithoutError (poolRun s₀ actions)) : NoneMissed s₀ (poolRun s₀ actions) := by
  rw [noneMissed_iff]
  intro a u h₀
  have hevent : ∀ (e : ReviewEvent) (s : ReviewDb), ¬Due a u s → ¬Due a u (s.elsewhere e) :=
    fun e s hs hdue => hs (due_elsewhere hdue)
  refine Pool.settled (S := reviewService) hevent actions h₀ fun e he => ?_
  have hsound := review_sound s₀ actions
  -- the call of the step is over, and has settled what it raised
  have hresult := hdone e.thread (hsound.arrived e he)
  obtain ⟨r, hr, hok⟩ := (Option.any_eq_true _ _).mp hresult
  obtain ⟨reply, hreply, hlogged⟩ := (Option.any_eq_true _ _).mp hok
  obtain ⟨_, -, hQ⟩ := hsound.result hr
  cases r with
  | error err => cases hreply
  | ok reply' =>
    obtain rfl : reply' = reply := Option.some.inj hreply
    exact hQ reply' rfl (Option.isNone_iff_eq_none.mp hlogged) a u

/-- The small marketplace, without reviews. -/
def quietTown : ReviewDb := ⟨smallTown, .empty, [], fun _ => ⟨none, 0⟩, .empty⟩

def lateStrike (d : DeliveryId) : AddStrikeInput :=
  ⟨⟨0, 102⟩, .driver, 2, .driverDisappearedAfterPickup, .serious, .delivery, none, none, some d, none⟩

/-- Two strikes of two points for the driver, both created before either call evaluates. -/
def twoStrikes : List (Pool.Action reviewService) :=
  [.arrive (.addStrike (lateStrike ⟨3, 2⟩)), .arrive (.addStrike (lateStrike ⟨4, 2⟩))] ++
    (List.replicate 4 [.run 0 ⟨true, "", ""⟩, .run 1 ⟨true, "", ""⟩]).flatten

/-- The driver is suspended. -/
theorem twoStrikes_noneMissed : NoneMissed quietTown (poolRun quietTown twoStrikes) ∧
    ((poolRun quietTown twoStrikes).state.db.users.find? ⟨0, 102⟩).map User.isSuspended = some true :=
  ⟨suspension_never_missed twoStrikes (by decide +kernel), by decide +kernel⟩

end IncaCook
