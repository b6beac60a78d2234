import Mathlib.Algebra.BigOperators.Ring.Finset
import Mathlib.Data.ZMod.Basic
import IncaCook.Library.CheckSums
import IncaCook.Model.Businesses

/-!
# What the SIRET check notices

`isValidSiret` adds up the digits, every other one doubled with its own digits added up.
Doubling permutes the ten digits, so a changed digit changes its share modulo 10, and two
neighbours that change places change theirs, unless they are 0 and 9.

Main results:

* `isValidSiret_iff`: 14 decimal digits whose shares add up to zero modulo 10;
* `isValidSiret_detects_errors`: no single error in an accepted SIRET is accepted, and
  thirteen digits have one check digit.
-/

namespace IncaCook

namespace Sellers

open CheckSum

/-- The digit that a character stands for. -/
def digitOf (c : Char) : Nat := c.toNat - '0'.toNat

/-- The share of a character in the Luhn sum of a SIRET. -/
def luhnShare (i : Nat) (c : Char) : ZMod 10 := luhnDigit ((13 - i) % 2 = 1) (digitOf c)

variable {c c' : Char} {i : Nat}

theorem digitOf_lt (hc : c.isDigit = true) : digitOf c < 10 := by
  rw [Char.isDigit, Bool.and_eq_true, decide_eq_true_eq, decide_eq_true_eq] at hc
  have hle : c.toNat ≤ 57 := hc.2
  have hzero : '0'.toNat = 48 := rfl
  rw [digitOf, hzero]
  omega

theorem eq_of_digitOf_eq (hc : c.isDigit = true) (hc' : c'.isDigit = true)
    (heq : digitOf c = digitOf c') : c = c' := by
  rw [Char.isDigit, Bool.and_eq_true, decide_eq_true_eq, decide_eq_true_eq] at hc hc'
  have hge : 48 ≤ c.toNat := hc.1
  have hge' : 48 ≤ c'.toNat := hc'.1
  have hzero : '0'.toNat = 48 := rfl
  rw [digitOf, digitOf, hzero] at heq
  exact Char.toNat_inj.mp (by omega)

theorem exists_digit {d : Nat} (hd : d < 10) : ∃ c : Char, c.isDigit = true ∧ digitOf c = d := by
  have hall : ∀ d < 10, (Nat.digitChar d).isDigit = true ∧ digitOf (Nat.digitChar d) = d := by decide
  exact ⟨_, hall d hd⟩

/-- Doubling and adding up permutes the digits. -/
theorem luhnDigit_injective {twice : Bool} {a b : Nat} (ha : a < 10) (hb : b < 10)
    (heq : (luhnDigit twice a : ZMod 10) = luhnDigit twice b) : a = b := by
  rw [ZMod.natCast_eq_natCast_iff'] at heq
  have hall : ∀ twice, ∀ a < 10, ∀ b < 10,
      luhnDigit twice a % 10 = luhnDigit twice b % 10 → a = b := by decide
  exact hall twice a ha b hb heq

/-- Of two digits next to each other, one counted twice, only 0 and 9 can change places. -/
theorem luhnDigit_swap {twice : Bool} {a b : Nat} (ha : a < 10) (hb : b < 10)
    (heq : (luhnDigit twice a : ZMod 10) + luhnDigit (!twice) b =
      luhnDigit twice b + luhnDigit (!twice) a) : a = b ∨ (a = 0 ∧ b = 9) ∨ (a = 9 ∧ b = 0) := by
  rw [← Nat.cast_add, ← Nat.cast_add, ZMod.natCast_eq_natCast_iff'] at heq
  have hall : ∀ twice, ∀ a < 10, ∀ b < 10,
      (luhnDigit twice a + luhnDigit (!twice) b) % 10 =
        (luhnDigit twice b + luhnDigit (!twice) a) % 10 →
      a = b ∨ (a = 0 ∧ b = 9) ∨ (a = 9 ∧ b = 0) := by decide
  exact hall twice a ha b hb heq

theorem luhnSum_eq_total (siret : List Char) : (luhnSum siret : ZMod 10) = total luhnShare siret := by
  rw [luhnSum, total, Nat.cast_list_sum, List.mapIdx_eq_zipIdx_map, List.mapIdx_eq_zipIdx_map, List.map_map]
  rfl

theorem isValidSiret_ofList (siret : List Char) : isValidSiret (String.ofList siret) = true ↔
    (siret.length = 14 ∧ ∀ c ∈ siret, c.isDigit = true) ∧ total luhnShare siret = 0 := by
  rw [← luhnSum_eq_total, ZMod.natCast_eq_zero_iff, Nat.dvd_iff_mod_eq_zero]
  simp [isValidSiret, isFourteenDigits]

/-- The two errors that the check is for, made once on an accepted SIRET. -/
structure DetectsErrors (siret : String) : Prop where
  /-- one digit is another one -/
  changed : ∀ (i : Nat) (hi : i < siret.toList.length) (c : Char), c.isDigit = true →
    c ≠ siret.toList[i] → isValidSiret (String.ofList (siret.toList.set i c)) = false
  /-- two different neighbours, which are not 0 and 9, have changed places -/
  swapped : ∀ (i : Nat) (hi : i + 1 < siret.toList.length), siret.toList[i] ≠ siret.toList[i + 1] →
    ¬(siret.toList[i] = '0' ∧ siret.toList[i + 1] = '9') →
    ¬(siret.toList[i] = '9' ∧ siret.toList[i + 1] = '0') →
      isValidSiret (String.ofList (swapAt i siret.toList)) = false

theorem isValidSiret_iff {siret : String} : isValidSiret siret = true ↔
    (siret.toList.length = 14 ∧ ∀ c ∈ siret.toList, c.isDigit = true) ∧ total luhnShare siret.toList = 0 := by
  rw [← isValidSiret_ofList, String.ofList_toList]

theorem detectsErrors {siret : String} (hvalid : isValidSiret siret = true) : DetectsErrors siret := by
  obtain ⟨⟨hlength, hdigits⟩, hzero⟩ := isValidSiret_iff.mp hvalid
  refine ⟨fun i hi c hc hne => ?_, fun i hi hne hup hdown => ?_⟩
  · -- the sum of the changed number is not zero
    have hold : siret.toList[i].isDigit = true := hdigits _ (List.getElem_mem hi)
    rw [← Bool.not_eq_true, isValidSiret_ofList]
    rintro ⟨-, hzero'⟩
    have hshare := (total_set_eq_iff hi c).mp (hzero'.trans hzero.symm)
    exact hne (eq_of_digitOf_eq hc hold (luhnDigit_injective (digitOf_lt hc) (digitOf_lt hold) hshare))
  · have ha : siret.toList[i].isDigit = true := hdigits _ (List.getElem_mem (Nat.lt_of_succ_lt hi))
    have hb : siret.toList[i + 1].isDigit = true := hdigits _ (List.getElem_mem hi)
    rw [← Bool.not_eq_true, isValidSiret_ofList]
    rintro ⟨-, hzero'⟩
    have hshare := (total_swapAt_eq_iff hi).mp (hzero'.trans hzero.symm)
    -- one of the two places counts twice
    have hplace : decide ((13 - (i + 1)) % 2 = 1) = !decide ((13 - i) % 2 = 1) := by
      rw [← decide_not, decide_eq_decide]
      omega
    unfold luhnShare at hshare
    rw [hplace] at hshare
    rcases luhnDigit_swap (digitOf_lt ha) (digitOf_lt hb) hshare with heq | ⟨h0, h9⟩ | ⟨h9, h0⟩
    · exact hne (eq_of_digitOf_eq ha hb heq)
    · exact hup ⟨eq_of_digitOf_eq ha rfl h0, eq_of_digitOf_eq hb rfl h9⟩
    · exact hdown ⟨eq_of_digitOf_eq ha rfl h9, eq_of_digitOf_eq hb rfl h0⟩

theorem existsUnique_last {start : String} (hlength : start.toList.length = 13)
    (hdigits : ∀ c ∈ start.toList, c.isDigit = true) : ∃! c, isValidSiret (start.push c) = true := by
  have hiff : ∀ c, isValidSiret (start.push c) = true ↔
      c.isDigit = true ∧ (digitOf c : ZMod 10) = -total luhnShare start.toList := by
    intro c
    have hlast : luhnShare start.toList.length c = digitOf c := by
      rw [hlength]
      rfl
    rw [isValidSiret_iff, String.toList_push, total_concat_eq_zero_iff, hlast, List.length_append, hlength]
    refine and_congr_left fun _ => ?_
    rw [List.forall_mem_append, List.forall_mem_singleton, List.length_singleton,
      and_iff_right (Nat.add_comm 13 1)]
    exact and_iff_right hdigits
  -- the digit that makes up for the other thirteen
  obtain ⟨c, hc, hdigit⟩ := exists_digit (ZMod.val_lt (-total luhnShare start.toList))
  have hcheck : (digitOf c : ZMod 10) = -total luhnShare start.toList := by
    rw [hdigit, ZMod.natCast_zmod_val]
  refine ⟨c, (hiff c).mpr ⟨hc, hcheck⟩, fun c' hc' => ?_⟩
  obtain ⟨hdig', hcheck'⟩ := (hiff c').mp hc'
  have hsame := (ZMod.natCast_eq_natCast_iff' _ _ _).mp (hcheck'.trans hcheck.symm)
  rw [Nat.mod_eq_of_lt (digitOf_lt hdig'), Nat.mod_eq_of_lt (digitOf_lt hc)] at hsame
  exact eq_of_digitOf_eq hdig' hc hsame

/-- **The SIRET check notices single errors.** What is accepted has exactly 14 decimal
digits; with one digit changed, or with two different neighbours swapped that are not 0
and 9, it is not accepted any more; and thirteen digits are completed by one last character. -/
theorem isValidSiret_detects_errors :
    (∀ siret, isValidSiret siret = true →
      (siret.toList.length = 14 ∧ ∀ c ∈ siret.toList, c.isDigit = true) ∧ DetectsErrors siret) ∧
    ∀ start : String, start.toList.length = 13 → (∀ c ∈ start.toList, c.isDigit = true) →
      ∃! c, isValidSiret (start.push c) = true :=
  ⟨fun _ hvalid => ⟨(isValidSiret_iff.mp hvalid).1, detectsErrors hvalid⟩,
    fun _ hlength hdigits => existsUnique_last hlength hdigits⟩

theorem siret_detects_errors : DetectsErrors "73282932000074" ∧
    ∃! c, isValidSiret ("7328293200007".push c) = true :=
  ⟨(isValidSiret_detects_errors.1 "73282932000074" (by decide +kernel)).2,
    isValidSiret_detects_errors.2 "7328293200007" rfl
      (List.all_eq_true.mp (show "7328293200007".toList.all Char.isDigit = true by decide))⟩

/-- 0 and 9 may change places. -/
example : isValidSiret "73282932090075" = true ∧ isValidSiret "73282932900075" = true := by
  decide +kernel

end Sellers

end IncaCook
