import Mathlib.Data.List.Infix

/-!
# Glob-style patterns

In a pattern `*` stands for any text and `?` for any one character; a bracket opens a set of
characters and a backslash escapes one. The patterns of a subscription are often no more
than a fixed beginning, a `*` and a fixed end, and all that such a subscription relies on is
`GlobStyle`.

Main results:

* `accepts_append_iff`, `accepts_star_iff`: what the two parts of such a pattern accept;
* `globStyle_accepts`: the matcher by recursion on the pattern is glob-style.
-/

namespace Glob

/-- The characters that do not stand for themselves. -/
def special : List Char := ['*', '?', '[', '\\']

/-- The text stands for itself. -/
def Plain (text : String) : Prop := ∀ c ∈ text.toList, c ∉ special

instance (text : String) : Decidable (Plain text) :=
  List.decidableBAll (fun c => c ∉ special) text.toList

/-- Between a fixed beginning and a fixed end, a `*` stands for any text. -/
structure GlobStyle (accepts : String → String → Bool) : Prop where
  star : ∀ {front back : String}, Plain front → Plain back → ∀ text : String,
    accepts (front ++ "*" ++ back) text = true ↔ ∃ middle, text = front ++ middle ++ back

/-! ## A matcher -/

/-- Matching by recursion on the pattern, of `*`, `?` and characters that stand for themselves. -/
def accepts : List Char → List Char → Bool
  | [], text => text.isEmpty
  | '*' :: pattern, text => text.tails.any fun rest => accepts pattern rest
  | '?' :: pattern, text => match text with
    | [] => false
    | _ :: rest => accepts pattern rest
  | c :: pattern, text => match text with
    | [] => false
    | d :: rest => c == d && accepts pattern rest

variable {c : Char} {front pattern text : List Char}

theorem accepts_nil_iff : accepts [] text = true ↔ text = [] := by
  rw [accepts, List.isEmpty_iff]

theorem accepts_cons_iff (hc : c ∉ special) :
    accepts (c :: pattern) text = true ↔ ∃ rest, text = c :: rest ∧ accepts pattern rest = true := by
  have hstar : c ≠ '*' := by
    rintro rfl
    exact hc (by decide)
  have hone : c ≠ '?' := by
    rintro rfl
    exact hc (by decide)
  cases text with
  | nil => simp [accepts]
  | cons d rest =>
    simp only [accepts, Bool.and_eq_true, beq_iff_eq, List.cons.injEq]
    constructor
    · rintro ⟨rfl, haccepts⟩
      exact ⟨rest, ⟨rfl, rfl⟩, haccepts⟩
    · rintro ⟨_, ⟨rfl, rfl⟩, haccepts⟩
      exact ⟨rfl, haccepts⟩

theorem accepts_star_iff :
    accepts ('*' :: pattern) text = true ↔
      ∃ front back, text = front ++ back ∧ accepts pattern back = true := by
  rw [accepts, List.any_eq_true]
  constructor
  · rintro ⟨back, hback, haccepts⟩
    obtain ⟨front, rfl⟩ := (List.mem_tails _ _).mp hback
    exact ⟨front, back, rfl, haccepts⟩
  · rintro ⟨front, back, rfl, haccepts⟩
    exact ⟨back, (List.mem_tails _ _).mpr ⟨front, rfl⟩, haccepts⟩

theorem accepts_append_iff (hfront : ∀ c ∈ front, c ∉ special) :
    accepts (front ++ pattern) text = true ↔
      ∃ rest, text = front ++ rest ∧ accepts pattern rest = true := by
  induction front generalizing text with
  | nil => simp
  | cons c front ih =>
    rw [List.cons_append, accepts_cons_iff (hfront c List.mem_cons_self)]
    simp only [ih fun d hd => hfront d (List.mem_cons_of_mem c hd)]
    constructor
    · rintro ⟨_, rfl, rest, rfl, haccepts⟩
      exact ⟨rest, rfl, haccepts⟩
    · rintro ⟨rest, rfl, haccepts⟩
      exact ⟨front ++ rest, rfl, rest, rfl, haccepts⟩

/-- **The matcher is glob-style.** -/
theorem globStyle_accepts : GlobStyle fun pattern text => accepts pattern.toList text.toList where
  star := by
    intro front back hfront hback text
    have hend : ∀ rest, accepts back.toList rest = true ↔ rest = back.toList := by
      intro rest
      rw [← List.append_nil back.toList, accepts_append_iff hback]
      simp [accepts_nil_iff]
    simp only [String.toList_append, List.append_assoc, accepts_append_iff hfront]
    change (∃ rest, _ ∧ accepts ('*' :: back.toList) rest = true) ↔ _
    simp only [accepts_star_iff, hend]
    constructor
    · rintro ⟨_, htext, middle, _, rfl, rfl⟩
      refine ⟨String.ofList middle, String.toList_inj.mp ?_⟩
      rw [htext, String.toList_append, String.toList_append, String.toList_ofList, List.append_assoc]
    · rintro ⟨middle, rfl⟩
      exact ⟨_, by rw [String.toList_append, String.toList_append, List.append_assoc],
        middle.toList, _, rfl, rfl⟩

end Glob
