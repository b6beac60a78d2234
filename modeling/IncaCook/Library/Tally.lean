import Mathlib.Algebra.BigOperators.Group.List.Basic
import Mathlib.Algebra.GroupWithZero.Nat
import Mathlib.Data.List.Induction
import Mathlib.Data.List.Nodup
import Mathlib.Tactic.Common

/-!
# Tallies

A list of quantities under keys, added up key by key: `tally` goes through the
list once and keeps, in the order in which the keys first occur, the sum so far
of each. `sumAt k` is what it should be: the sum of the quantities under `k`.

Main results:

* `tally_tallies`: the tally of a list has each of its keys once, with its total;
* `sumAt_tally`: a tally has the totals of the list it was made from.
-/

variable {κ : Type} [DecidableEq κ]

/-- The sum of the quantities under `k`. -/
def sumAt (k : κ) (items : List (κ × ℕ)) : ℕ := ((items.filter fun p => p.1 = k).map Prod.snd).sum

/-- Adds one item to a tally. -/
def Tally.add (acc : List (κ × ℕ)) (item : κ × ℕ) : List (κ × ℕ) :=
  if acc.any fun p => p.1 = item.1 then
    acc.map fun p => if p.1 = item.1 then (p.1, p.2 + item.2) else p
  else acc ++ [item]

def tally (items : List (κ × ℕ)) : List (κ × ℕ) := items.foldl Tally.add []

@[simp] theorem sumAt_nil (k : κ) : sumAt k [] = 0 := rfl

@[simp] theorem sumAt_cons (k : κ) (item : κ × ℕ) (items : List (κ × ℕ)) :
    sumAt k (item :: items) = (if item.1 = k then item.2 else 0) + sumAt k items := by
  unfold sumAt
  by_cases h : item.1 = k
  · simp [h]
  · simp [h]

@[simp] theorem sumAt_append (k : κ) (items items' : List (κ × ℕ)) :
    sumAt k (items ++ items') = sumAt k items + sumAt k items' := by
  simp [sumAt]

theorem sumAt_eq_zero {k : κ} {items : List (κ × ℕ)} (hk : k ∉ items.map Prod.fst) :
    sumAt k items = 0 := by
  induction items with
  | nil => rfl
  | cons item rest ih =>
    rw [List.map_cons, List.mem_cons, not_or] at hk
    rw [sumAt_cons, if_neg (Ne.symm hk.1), ih hk.2]

/-- Under distinct keys, a total is the one quantity there is. -/
theorem sumAt_of_mem {p : κ × ℕ} {items : List (κ × ℕ)} (hnodup : (items.map Prod.fst).Nodup)
    (hp : p ∈ items) : sumAt p.1 items = p.2 := by
  induction items with
  | nil => cases hp
  | cons item rest ih =>
    rw [List.map_cons, List.nodup_cons] at hnodup
    rw [sumAt_cons]
    rcases List.mem_cons.mp hp with rfl | hp
    · rw [if_pos rfl, sumAt_eq_zero hnodup.1, Nat.add_zero]
    · have hne : item.1 ≠ p.1 := by
        intro h
        exact hnodup.1 (h ▸ List.mem_map_of_mem hp)
      rw [if_neg hne, ih hnodup.2 hp, Nat.zero_add]

/-- `acc` has the keys of `items`, each once and with its total. -/
structure Tallies (items acc : List (κ × ℕ)) : Prop where
  nodup : (acc.map Prod.fst).Nodup
  keys : ∀ k, k ∈ acc.map Prod.fst ↔ k ∈ items.map Prod.fst
  value : ∀ p ∈ acc, p.2 = sumAt p.1 items

/-- One more item in the list, one more item in the tally. -/
theorem Tallies.add {items acc : List (κ × ℕ)} (h : Tallies items acc) (item : κ × ℕ) :
    Tallies (items ++ [item]) (Tally.add acc item) := by
  have hone : ∀ k, sumAt k (items ++ [item]) = sumAt k items + if item.1 = k then item.2 else 0 := by
    intro k
    rw [sumAt_append, sumAt_cons, sumAt_nil, Nat.add_zero]
  unfold Tally.add
  by_cases hmem : (acc.any fun p => decide (p.1 = item.1)) = true
  · -- the key is known: its quantity grows, the keys stay
    rw [if_pos hmem]
    have hfst : (acc.map fun p => if p.1 = item.1 then (p.1, p.2 + item.2) else p).map Prod.fst =
        acc.map Prod.fst := by
      rw [List.map_map]
      apply List.map_congr_left
      intro p _
      simp only [Function.comp_apply]
      split
      · rfl
      · rfl
    obtain ⟨q, hq, hqk⟩ := List.any_eq_true.mp hmem
    have hknown : item.1 ∈ items.map Prod.fst :=
      (h.keys item.1).mp (of_decide_eq_true hqk ▸ List.mem_map_of_mem hq)
    refine ⟨hfst ▸ h.nodup, fun k => ?_, fun p hp => ?_⟩
    · rw [hfst, h.keys k, List.map_append, List.mem_append]
      constructor
      · exact Or.inl
      · rintro (hk | hk)
        · exact hk
        · rwa [List.mem_singleton.mp hk]
    · obtain ⟨p₀, hp₀, rfl⟩ := List.mem_map.mp hp
      have hvalue := h.value p₀ hp₀
      by_cases hk : p₀.1 = item.1
      · simp only [hk, if_true]
        rw [hone, if_pos rfl, ← hk, ← hvalue]
      · simp only [hk, if_false]
        rw [hone, if_neg (Ne.symm hk), Nat.add_zero, hvalue]
  · rw [if_neg hmem]
    have hnew : item.1 ∉ acc.map Prod.fst := by
      intro hin
      obtain ⟨p, hp, hpk⟩ := List.mem_map.mp hin
      exact hmem (List.any_eq_true.mpr ⟨p, hp, decide_eq_true hpk⟩)
    refine ⟨?_, fun k => ?_, fun p hp => ?_⟩
    · rw [List.map_append, List.map_singleton]
      exact List.nodup_append.mpr ⟨h.nodup, List.nodup_singleton _,
        fun k hk k' hk' heq => hnew (List.mem_singleton.mp hk' ▸ heq ▸ hk)⟩
    · rw [List.map_append, List.map_append, List.mem_append, List.mem_append, h.keys k]
    · rw [hone]
      rcases List.mem_append.mp hp with hp | hp
      · have hne : item.1 ≠ p.1 := by
          intro heq
          exact hnew (heq ▸ List.mem_map_of_mem hp)
        rw [if_neg hne, Nat.add_zero, h.value p hp]
      · obtain rfl := List.mem_singleton.mp hp
        have hzero : sumAt p.1 items = 0 := sumAt_eq_zero fun hin => hnew ((h.keys p.1).mpr hin)
        rw [if_pos rfl, hzero, Nat.zero_add]

theorem tally_tallies (items : List (κ × ℕ)) : Tallies items (tally items) := by
  induction items using List.reverseRecOn with
  | nil => exact ⟨List.nodup_nil, fun _ => Iff.rfl, fun p hp => by cases hp⟩
  | append_singleton items item ih =>
    unfold tally at ih ⊢
    rw [List.foldl_append]
    exact ih.add item

theorem sumAt_tally (k : κ) (items : List (κ × ℕ)) : sumAt k (tally items) = sumAt k items := by
  have h := tally_tallies items
  by_cases hk : k ∈ (tally items).map Prod.fst
  · obtain ⟨p, hp, rfl⟩ := List.mem_map.mp hk
    rw [sumAt_of_mem h.nodup hp, h.value p hp]
  · rw [sumAt_eq_zero hk, sumAt_eq_zero fun hin => hk ((h.keys k).mpr hin)]
