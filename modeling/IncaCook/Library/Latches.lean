import IncaCook.Library.Runs

/-!
# Latches

A latch is a property of the shared state that no step undoes and that no event brings
about or undoes. One that is open when a run starts is shut by at most one step of the
run, and every step that finds it shut comes after that one.

Main results:

* `Latch.unique`: no two steps shut the latch;
* `Latch.exists_shuts`: a step that finds the latch shut has one before it that shut it.
-/

open Prog

variable {M : Machine} {S : Service M}

/-- What holds of no two elements of a list holds of at most one. -/
theorem countP_le_one_of_split {α : Type} {p : α → Bool} {l : List α}
    (h : ∀ later a earlier, l = later ++ a :: earlier → p a = true → ∀ b ∈ earlier, ¬p b = true) :
    l.countP p ≤ 1 := by
  induction l with
  | nil => exact Nat.zero_le 1
  | cons a rest ih =>
    have hrest := ih fun later b earlier hsplit => h (a :: later) b earlier (by rw [hsplit]; rfl)
    by_cases ha : p a = true
    · have hnone : rest.countP p = 0 := List.countP_eq_zero.mpr (h [] a rest rfl ha)
      rw [List.countP_cons_of_pos ha]
      omega
    · rwa [List.countP_cons_of_neg ha]

/-- What `a` is marked with, so is `b`. -/
def KeepsMarks {α : Type} (marks : List (α → Bool)) (a b : α) : Prop :=
  ∀ mark ∈ marks, mark a = true → mark b = true

theorem KeepsMarks.refl {α : Type} (marks : List (α → Bool)) (a : α) : KeepsMarks marks a a :=
  fun _ _ h => h

theorem KeepsMarks.trans {α : Type} {marks : List (α → Bool)} {a b c : α} (hab : KeepsMarks marks a b)
    (hbc : KeepsMarks marks b c) : KeepsMarks marks a c :=
  fun mark hmark h => hbc mark hmark (hab mark hmark h)

namespace Pool

/-- No step of the run opens the latch, and no event turns it. -/
structure Latch (shut : M.State → Prop) (p : Pool S) : Prop where
  event : ∀ e s, shut (S.event e s) ↔ shut s
  step : ∀ e ∈ p.trace, shut e.pre → shut e.post

/-- The step finds the latch open and shuts it. -/
def Shuts (shut : M.State → Prop) (e : Entry M) : Prop := ¬shut e.pre ∧ shut e.post

variable {shut : M.State → Prop} {s₀ : M.State} {actions : List (Action S)}
  {later earlier : List (Entry M)} {e e' : Entry M}

theorem Latch.chain (h : Latch shut (poolRun s₀ actions)) :
    Chain (fun s s' => shut s → shut s') s₀ (poolRun s₀ actions) :=
  Pool.chain (fun _ hs => hs) (fun _ _ _ hab hbc ha => hbc (hab ha))
    (fun ev s hs => (h.event ev s).mpr hs) actions h.step

/-- After a step that leaves the latch shut, no step shuts it. -/
theorem Latch.not_shuts (h : Latch shut (poolRun s₀ actions))
    (hsplit : (poolRun s₀ actions).trace = later ++ e :: earlier) (he' : e' ∈ earlier)
    (hshut : shut e'.post) : ¬Shuts shut e :=
  fun he => he.1 (h.chain.between later e earlier hsplit e' he' hshut)

/-- **A latch is shut once.** -/
theorem Latch.unique (h : Latch shut (poolRun s₀ actions)) (he : e ∈ (poolRun s₀ actions).trace)
    (he' : e' ∈ (poolRun s₀ actions).trace) (hshuts : Shuts shut e) (hshuts' : Shuts shut e') :
    e = e' := by
  obtain ⟨later, earlier, hsplit⟩ := List.append_of_mem he
  have hplace := he'
  rw [hsplit, List.mem_append, List.mem_cons] at hplace
  rcases hplace with hlater | rfl | hearlier
  · obtain ⟨after, between, rfl⟩ := List.append_of_mem hlater
    have hsplit' : (poolRun s₀ actions).trace = after ++ e' :: (between ++ e :: earlier) := by
      rw [hsplit, List.append_assoc, List.cons_append]
    exact absurd hshuts' (h.not_shuts hsplit' (by simp) hshuts.2)
  · rfl
  · exact absurd hshuts (h.not_shuts hsplit hearlier hshuts'.2)

/-- A latch that was open, and is found shut, was shut by a step. -/
theorem Latch.exists_shuts (h : Latch shut (poolRun s₀ actions)) (hopen : ¬shut s₀)
    (he : e ∈ (poolRun s₀ actions).trace) (hshut : shut e.pre) :
    ∃ e' ∈ (poolRun s₀ actions).trace, Shuts shut e' := by
  by_contra hnone
  push Not at hnone
  -- no step shuts it, so it is open all along
  have hchain : Chain (fun s s' => ¬shut s → ¬shut s') s₀ (poolRun s₀ actions) := by
    refine Pool.chain (fun _ hs => hs) (fun _ _ _ hab hbc ha => hbc (hab ha))
      (fun ev s hs => mt (h.event ev s).mp hs) actions fun e' he' hpre hpost => ?_
    exact hnone e' he' ⟨hpre, hpost⟩
  exact (hchain.last e he).1 hopen hshut

end Pool
