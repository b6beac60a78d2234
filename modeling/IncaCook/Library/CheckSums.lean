import Mathlib.Algebra.BigOperators.Group.List.Basic
import Mathlib.Tactic.Abel

/-!
# Check sums

Each letter of a word has a share, which depends on its place, and a word is accepted when
its shares add up to zero. What such a check notices is a matter of the shares alone.

Main results:

* `total_set_eq_iff`: when a changed letter goes unnoticed;
* `total_swapAt_eq_iff`: when two neighbours that change places do;
* `total_concat_eq_zero_iff`: which last letter completes a word.
-/

namespace CheckSum

variable {α G : Type} [AddCommGroup G] {f : ℕ → α → G} {word : List α} {i : ℕ}

/-- The shares of the letters added up; the share of a letter depends on its place. -/
def total (f : ℕ → α → G) (word : List α) : G := (word.mapIdx f).sum

theorem total_cons (f : ℕ → α → G) (a : α) (word : List α) :
    total f (a :: word) = f 0 a + total (fun i => f (i + 1)) word := by
  rw [total, List.mapIdx_cons, List.sum_cons, total]

theorem total_concat (f : ℕ → α → G) (word : List α) (a : α) :
    total f (word ++ [a]) = total f word + f word.length a := by
  rw [total, List.mapIdx_concat, List.sum_append, List.sum_singleton, total]

/-! ## One letter changed -/

theorem total_set (hi : i < word.length) (a : α) :
    total f (word.set i a) + f i word[i] = total f word + f i a := by
  induction word generalizing f i with
  | nil => cases hi
  | cons b rest ih =>
    cases i with
    | zero =>
      rw [List.set_cons_zero, total_cons, total_cons, List.getElem_cons_zero]
      abel
    | succ i =>
      -- in the rest every letter is one place further on
      have hrest := ih (f := fun i => f (i + 1)) (i := i) (Nat.lt_of_succ_lt_succ hi)
      rw [List.set_cons_succ, total_cons, total_cons, List.getElem_cons_succ, add_assoc, hrest, add_assoc]

/-- **A changed letter is seen exactly when its share changes.** -/
theorem total_set_eq_iff (hi : i < word.length) (a : α) :
    total f (word.set i a) = total f word ↔ f i a = f i word[i] := by
  have hset := total_set (f := f) hi a
  constructor
  · intro heq
    rw [heq] at hset
    exact (add_left_cancel hset).symm
  · intro heq
    rw [heq] at hset
    exact add_right_cancel hset

/-! ## Two letters swapped -/

/-- The letter at `i` and the next one change places. -/
def swapAt : ℕ → List α → List α
  | 0, a :: b :: word => b :: a :: word
  | i + 1, a :: word => a :: swapAt i word
  | _, word => word

theorem total_swapAt (hi : i + 1 < word.length) :
    total f (swapAt i word) + (f i word[i] + f (i + 1) word[i + 1]) =
      total f word + (f i word[i + 1] + f (i + 1) word[i]) := by
  induction i generalizing f word with
  | zero =>
    obtain ⟨a, b, rest, rfl⟩ : ∃ a b rest, word = a :: b :: rest := by
      match word, hi with
      | a :: b :: rest, _ => exact ⟨a, b, rest, rfl⟩
    simp only [swapAt, total_cons, List.getElem_cons_zero, List.getElem_cons_succ]
    abel
  | succ i ih =>
    obtain ⟨a, rest, rfl⟩ : ∃ a rest, word = a :: rest := by
      match word, hi with
      | a :: rest, _ => exact ⟨a, rest, rfl⟩
    have hi' : i + 1 < rest.length := Nat.lt_of_succ_lt_succ hi
    have hrest := ih (f := fun i => f (i + 1)) hi'
    simp only [swapAt, total_cons, List.getElem_cons_succ, add_assoc]
    exact congrArg (f 0 a + ·) hrest

/-- **Two swapped letters are seen exactly when their two shares change.** -/
theorem total_swapAt_eq_iff (hi : i + 1 < word.length) :
    total f (swapAt i word) = total f word ↔
      f i word[i] + f (i + 1) word[i + 1] = f i word[i + 1] + f (i + 1) word[i] := by
  have hswap := total_swapAt (f := f) hi
  constructor
  · intro heq
    rw [heq] at hswap
    exact add_left_cancel hswap
  · intro heq
    rw [heq] at hswap
    exact add_right_cancel hswap

/-- A last letter completes a word when its share makes up for the others. -/
theorem total_concat_eq_zero_iff (word : List α) (a : α) :
    total f (word ++ [a]) = 0 ↔ f word.length a = -total f word := by
  rw [total_concat, add_comm, add_eq_zero_iff_eq_neg]

end CheckSum
