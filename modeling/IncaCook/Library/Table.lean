import Mathlib.Algebra.BigOperators.Group.List.Basic
import Mathlib.Data.Fintype.EquivFin
import Mathlib.Data.List.Nodup
import Mathlib.Tactic.Common
import Mathlib.Tactic.Ring

/-!
# Keyed tables

A relational table whose rows carry their primary key. The key is read off the
row by the `Keyed` class, and the table carries the proof that no key occurs
twice, so a lookup by key and a membership test say the same thing
(`Table.find?_eq_some`).

Rows are kept newest first: `insert?` puts the new row at the head, so the
first row of a scan that matches a condition is the one created last.

Main results:

* `Table.find?_update`, `Table.find?_updateMany`: lookups after an update;
* `Table.mem_update`, `Table.mem_updateMany`: membership after an update;
* `Table.carries_update`, `Table.carries_insert`: rows that survive a statement;
* `Table.find?_removeMany`, `Table.find?_remove`, `Table.find?_put`: lookups after a removal
  and after an upsert;
* `Table.sumBy_update`, `Table.sumBy_insert`: totals over the rows.
-/

/-- A row type with a primary key. -/
class Keyed (ρ : Type) (κ : outParam Type) where
  key : ρ → κ

/-- Rows, newest first, no two with the same key. -/
structure Table (ρ : Type) {κ : Type} [Keyed ρ κ] where
  rows : List ρ
  nodup : (rows.map Keyed.key).Nodup

namespace Table

open Keyed

variable {ρ κ : Type} [Keyed ρ κ]

theorem ext_rows {t t' : Table ρ} (h : t.rows = t'.rows) : t = t' := by
  cases t
  cases t'
  simp_all

def empty : Table ρ := ⟨[], List.nodup_nil⟩

@[simp] theorem rows_empty : (empty : Table ρ).rows = [] := rfl

/-- What a rewrite keeps of each row, it keeps of all of them. -/
theorem map_rewritten {γ : Type} (rows : List ρ) (p : ρ → Bool) {f : ρ → ρ} {g : ρ → γ}
    (hg : ∀ r, g (f r) = g r) :
    (rows.map fun r => if p r then f r else r).map g = rows.map g := by
  rw [List.map_map]
  apply List.map_congr_left
  intro r _
  simp only [Function.comp_apply]
  split
  · exact hg r
  · rfl

/-- Rewrites every row that meets `p`. The rewrite keeps the key. -/
def updateMany (t : Table ρ) (p : ρ → Bool) (f : ρ → ρ)
    (hf : ∀ r, key (f r) = key r := by intro _; exact Eq.symm rfl) : Table ρ where
  rows := t.rows.map fun r => if p r then f r else r
  nodup := by
    rw [map_rewritten t.rows p hf]
    exact t.nodup

/-- Where no row meets `p`, nothing is rewritten. -/
theorem rewritten_of_none {rows : List ρ} {p : ρ → Bool} {f : ρ → ρ} (hnone : ∀ r ∈ rows, p r = false) :
    (rows.map fun r => if p r then f r else r) = rows :=
  calc rows.map (fun r => if p r then f r else r)
      = rows.map id := by
        apply List.map_congr_left
        intro r hr
        rw [hnone r hr, if_neg Bool.false_ne_true, id]
    _ = rows := List.map_id _

theorem mem_updateMany {t : Table ρ} {p : ρ → Bool} {f : ρ → ρ}
    {hf : ∀ r, key (f r) = key r} {r : ρ} :
    r ∈ (t.updateMany p f hf).rows ↔ ∃ r₀ ∈ t.rows, (if p r₀ then f r₀ else r₀) = r := by
  simp [updateMany]

/-- A row of an updated table, traced back to the row it came from. -/
theorem mem_rewritten {rows : List ρ} {p : ρ → Bool} {f : ρ → ρ} {r : ρ}
    (h : r ∈ rows.map fun r => if p r then f r else r) :
    ∃ r₀ ∈ rows, p r₀ = true ∧ r = f r₀ ∨ p r₀ = false ∧ r = r₀ := by
  obtain ⟨r₀, hr₀, rfl⟩ := List.mem_map.mp h
  refine ⟨r₀, hr₀, ?_⟩
  by_cases hp : p r₀ = true
  · exact .inl ⟨hp, if_pos hp⟩
  · exact .inr ⟨Bool.eq_false_iff.mpr hp, if_neg hp⟩

variable [DecidableEq κ]

/-- The row with key `k`. -/
def find? (t : Table ρ) (k : κ) : Option ρ := t.rows.find? fun r => key r = k

/-- Adds a row at the head; refused when its key is taken. -/
def insert? (t : Table ρ) (r : ρ) : Option (Table ρ) :=
  if h : key r ∈ t.rows.map key then none
  else some ⟨r :: t.rows, by rw [List.map_cons]; exact List.nodup_cons.mpr ⟨h, t.nodup⟩⟩

/-- Rewrites the row with key `k`, if there is one. -/
def update (t : Table ρ) (k : κ) (f : ρ → ρ)
    (hf : ∀ r, key (f r) = key r := by intro _; exact Eq.symm rfl) : Table ρ :=
  t.updateMany (fun r => key r = k) f hf

/-- As `update`, refused when no row has the key. -/
def update? (t : Table ρ) (k : κ) (f : ρ → ρ)
    (hf : ∀ r, key (f r) = key r := by intro _; exact Eq.symm rfl) : Option (Table ρ) :=
  match t.find? k with
  | none => none
  | some _ => some (t.update k f hf)

theorem update?_eq_some {t t' : Table ρ} {k : κ} {f : ρ → ρ} {hf : ∀ r, key (f r) = key r} :
    t.update? k f hf = some t' ↔ (∃ r, t.find? k = some r) ∧ t' = t.update k f hf := by
  unfold update?
  cases t.find? k with
  | none => simp
  | some r => simp [eq_comm]

/-! ## Lookups -/

theorem find?_eq_some {t : Table ρ} {k : κ} {r : ρ} :
    t.find? k = some r ↔ r ∈ t.rows ∧ key r = k := by
  obtain ⟨rows, hnd⟩ := t
  simp only [find?]
  constructor
  · intro h
    exact ⟨List.mem_of_find?_eq_some h, by simpa using List.find?_some h⟩
  · rintro ⟨hr, rfl⟩
    induction rows with
    | nil => cases hr
    | cons a rest ih =>
      rw [List.map_cons, List.nodup_cons] at hnd
      rcases List.mem_cons.mp hr with rfl | hr
      · simp
      · have hne : key a ≠ key r := by
          intro h
          exact hnd.1 (h ▸ List.mem_map_of_mem hr)
        rw [List.find?_cons_of_neg (by simpa using hne)]
        exact ih hnd.2 hr

theorem find?_of_mem {t : Table ρ} {r : ρ} (h : r ∈ t.rows) : t.find? (key r) = some r :=
  find?_eq_some.mpr ⟨h, rfl⟩

theorem mem_of_find? {t : Table ρ} {k : κ} {r : ρ} (h : t.find? k = some r) : r ∈ t.rows :=
  (find?_eq_some.mp h).1

theorem key_of_find? {t : Table ρ} {k : κ} {r : ρ} (h : t.find? k = some r) : key r = k :=
  (find?_eq_some.mp h).2

theorem eq_of_key_eq {t : Table ρ} {r r' : ρ} (hr : r ∈ t.rows) (hr' : r' ∈ t.rows)
    (hk : key r = key r') : r = r' := by
  have h := find?_of_mem hr
  rw [hk, find?_of_mem hr'] at h
  exact (Option.some.inj h).symm

theorem find?_eq_none {t : Table ρ} {k : κ} : t.find? k = none ↔ ∀ r ∈ t.rows, key r ≠ k := by
  simp [find?, List.find?_eq_none]

/-- Scanning for a key finds the row with that key, and no other. -/
theorem filter_key (t : Table ρ) (k : κ) (p : ρ → Bool) :
    (t.rows.filter fun r => key r = k && p r) = ((t.find? k).filter p).toList := by
  obtain ⟨rows, hnd⟩ := t
  simp only [find?]
  induction rows with
  | nil => rfl
  | cons a rest ih =>
    rw [List.map_cons, List.nodup_cons] at hnd
    by_cases ha : key a = k
    · -- the other rows have other keys
      have hrest : (rest.filter fun r => key r = k && p r) = [] := by
        rw [List.filter_eq_nil_iff]
        intro r hr hrk
        rw [Bool.and_eq_true, decide_eq_true_eq] at hrk
        have hk : key r = k := hrk.1
        exact hnd.1 (ha ▸ hk ▸ List.mem_map_of_mem hr)
      rw [List.filter_cons, List.find?_cons_of_pos (by simpa using ha), hrest]
      by_cases hp : p a = true
      · simp [ha, hp, Option.filter]
      · simp [ha, hp, Option.filter]
    · rw [List.filter_cons_of_neg (by simp [ha]), List.find?_cons_of_neg (by simpa using ha)]
      exact ih hnd.2

@[simp] theorem find?_updateMany (t : Table ρ) (p : ρ → Bool) (f : ρ → ρ)
    (hf : ∀ r, key (f r) = key r) (k : κ) :
    (t.updateMany p f hf).find? k = (t.find? k).map fun r => if p r then f r else r := by
  have hkey : ∀ r, key (if p r then f r else r) = key r := by
    intro r
    split
    · exact hf r
    · rfl
  simp only [find?, updateMany, List.find?_map]
  congr 2
  funext r
  simp [hkey]

theorem find?_update (t : Table ρ) (k k' : κ) (f : ρ → ρ) (hf : ∀ r, key (f r) = key r) :
    (t.update k f hf).find? k' = if k' = k then (t.find? k').map f else t.find? k' := by
  rw [update, find?_updateMany]
  cases h : t.find? k' with
  | none => simp
  | some r =>
    have hk := key_of_find? h
    by_cases hkk : k' = k
    · simp [hk, hkk]
    · simp [hk, hkk]

@[simp] theorem find?_update_self (t : Table ρ) (k : κ) (f : ρ → ρ)
    (hf : ∀ r, key (f r) = key r) : (t.update k f hf).find? k = (t.find? k).map f := by
  simp [find?_update]

theorem find?_update_of_eq {t : Table ρ} {k : κ} {r : ρ} {f : ρ → ρ} (h : t.find? k = some r)
    (hf : ∀ r, key (f r) = key r := by intro _; exact Eq.symm rfl) :
    (t.update k f hf).find? k = some (f r) := by
  rw [find?_update_self, h]
  rfl

@[simp] theorem find?_update_of_ne (t : Table ρ) {k k' : κ} (f : ρ → ρ)
    (hf : ∀ r, key (f r) = key r) (hne : k' ≠ k) :
    (t.update k f hf).find? k' = t.find? k' := by
  simp [find?_update, hne]

/-- A lookup in an updated table, traced back to the row it came from. -/
theorem find?_update_some {t : Table ρ} {k k' : κ} {f : ρ → ρ} {hf : ∀ r, key (f r) = key r}
    {r : ρ} (h : (t.update k f hf).find? k' = some r) :
    ∃ r₀, t.find? k' = some r₀ ∧ (k' = k ∧ r = f r₀ ∨ k' ≠ k ∧ r = r₀) := by
  rw [find?_update] at h
  by_cases hk : k' = k
  · rw [if_pos hk, Option.map_eq_some_iff] at h
    obtain ⟨r₀, h₀, rfl⟩ := h
    exact ⟨r₀, h₀, Or.inl ⟨hk, rfl⟩⟩
  · rw [if_neg hk] at h
    exact ⟨r, h, Or.inr ⟨hk, rfl⟩⟩

/-- A lookup in an updated table, related to the row it came from. -/
theorem find?_update_rel {t : Table ρ} {k k' : κ} {f : ρ → ρ} {hf : ∀ r, key (f r) = key r}
    {r : ρ} {M : ρ → ρ → Prop} (h : (t.update k f hf).find? k' = some r) (hstay : ∀ r₀, M r₀ r₀)
    (hmove : ∀ r₀, t.find? k = some r₀ → k' = k → M r₀ (f r₀)) :
    ∃ r₀, t.find? k' = some r₀ ∧ M r₀ r := by
  obtain ⟨r₀, h₀, ⟨rfl, rfl⟩ | ⟨-, rfl⟩⟩ := find?_update_some h
  · exact ⟨r₀, h₀, hmove r₀ h₀ rfl⟩
  · exact ⟨r, h₀, hstay r⟩

theorem mem_update {t : Table ρ} {k : κ} {f : ρ → ρ} {hf : ∀ r, key (f r) = key r} {r : ρ} :
    r ∈ (t.update k f hf).rows ↔ ∃ r₀ ∈ t.rows, (if key r₀ = k then f r₀ else r₀) = r := by
  simp [update, mem_updateMany]

theorem mem_update_cases {t : Table ρ} {k : κ} {f : ρ → ρ} {hf : ∀ r, key (f r) = key r} {r : ρ}
    (h : r ∈ (t.update k f hf).rows) :
    ∃ r₀ ∈ t.rows, key r₀ = k ∧ r = f r₀ ∨ key r₀ ≠ k ∧ r = r₀ := by
  obtain ⟨r₀, hr₀, rfl⟩ := mem_update.mp h
  refine ⟨r₀, hr₀, ?_⟩
  split
  · rename_i hk
    exact .inl ⟨hk, rfl⟩
  · rename_i hk
    exact .inr ⟨hk, rfl⟩

/-! ## Insertion -/

theorem insert?_eq_some {t t' : Table ρ} {r : ρ} :
    t.insert? r = some t' ↔ t.find? (key r) = none ∧ t'.rows = r :: t.rows := by
  unfold insert?
  constructor
  · intro h
    split at h
    · cases h
    · rename_i hn
      cases h
      refine ⟨find?_eq_none.mpr fun r' hr' hk => hn ?_, rfl⟩
      exact hk ▸ List.mem_map_of_mem hr'
  · rintro ⟨hn, hrows⟩
    have hfresh : key r ∉ t.rows.map key := by
      intro hmem
      obtain ⟨r', hr', hk⟩ := List.mem_map.mp hmem
      exact find?_eq_none.mp hn r' hr' hk
    rw [dif_neg hfresh]
    exact congrArg some (ext_rows hrows.symm)

/-- A row with a new key goes in. -/
theorem exists_insert {t : Table ρ} {r : ρ} (h : t.find? (key r) = none) :
    ∃ t', t.insert? r = some t' := by
  cases hi : t.insert? r with
  | some t' => exact ⟨t', rfl⟩
  | none =>
    unfold insert? at hi
    split at hi
    · rename_i hmem
      obtain ⟨r', hr', hk⟩ := List.mem_map.mp hmem
      exact absurd hk (find?_eq_none.mp h r' hr')
    · cases hi

/-- Some key is not taken. -/
theorem exists_unused [Infinite κ] (t : Table ρ) : ∃ k, t.find? k = none := by
  obtain ⟨k, hk⟩ := Infinite.exists_notMem_finset (t.rows.map key).toFinset
  refine ⟨k, find?_eq_none.mpr fun r hr hkey => hk ?_⟩
  rw [List.mem_toFinset, ← hkey]
  exact List.mem_map_of_mem hr

theorem find?_insert {t t' : Table ρ} {r : ρ} (h : t.insert? r = some t') (k : κ) :
    t'.find? k = if k = key r then some r else t.find? k := by
  obtain ⟨-, hrows⟩ := insert?_eq_some.mp h
  simp only [find?, hrows]
  by_cases hk : k = key r
  · simp [hk]
  · rw [if_neg hk, List.find?_cons_of_neg (by simpa using Ne.symm hk)]

/-- A new row that reads like a missing one goes unnoticed. -/
theorem find?_insert_fresh {γ : Type} {t : Table ρ} {r : ρ} (f : Option ρ → γ) (hf : f (some r) = f none)
    (k : κ) : f (((t.insert? r).getD t).find? k) = f (t.find? k) := by
  cases hnew : t.insert? r with
  | none => rfl
  | some t' =>
    rw [Option.getD_some, find?_insert hnew]
    split
    · rename_i hk
      rw [hk, (insert?_eq_some.mp hnew).1]
      exact hf
    · rfl

/-- The row that an insertion adds is the inserted one. -/
theorem eq_of_insert {t t' : Table ρ} {r r₁ : ρ} {k : κ} (h : t.insert? r = some t')
    (habsent : t.find? k = none) (hfound : t'.find? k = some r₁) : r₁ = r := by
  rw [find?_insert h] at hfound
  split at hfound
  · exact (Option.some.inj hfound).symm
  · cases habsent.symm.trans hfound

/-- A new row hides no other. -/
theorem find?_insert_of_some {t t' : Table ρ} {r r₀ : ρ} {k : κ} (h : t.insert? r = some t')
    (hk : t.find? k = some r₀) : t'.find? k = some r₀ := by
  have hne : k ≠ key r := by
    intro heq
    rw [heq, (insert?_eq_some.mp h).1] at hk
    cases hk
  rw [find?_insert h, if_neg hne, hk]

theorem mem_insert {t t' : Table ρ} {r r' : ρ} (h : t.insert? r = some t') :
    r' ∈ t'.rows ↔ r' = r ∨ r' ∈ t.rows := by
  rw [(insert?_eq_some.mp h).2, List.mem_cons]

/-! ## Rows that stay -/

/-- Every row is still there, as `R` allows it to have changed. -/
def Carries (R : ρ → ρ → Prop) (t t' : Table ρ) : Prop :=
  ∀ r ∈ t.rows, ∃ r', t'.find? (key r) = some r' ∧ R r r'

theorem Carries.refl {R : ρ → ρ → Prop} (hR : ∀ r, R r r) (t : Table ρ) : t.Carries R t :=
  fun r hr => ⟨r, find?_of_mem hr, hR r⟩

theorem Carries.trans {R : ρ → ρ → Prop} (hR : ∀ a b c, R a b → R b c → R a c) {t t' t'' : Table ρ}
    (h : t.Carries R t') (h' : t'.Carries R t'') : t.Carries R t'' := by
  intro r hr
  obtain ⟨r', hr', hrel⟩ := h r hr
  obtain ⟨r'', hr'', hrel'⟩ := h' r' (mem_of_find? hr')
  exact ⟨r'', key_of_find? hr' ▸ hr'', hR r r' r'' hrel hrel'⟩

/-- The row under a key is carried along. -/
theorem Carries.find? {R : ρ → ρ → Prop} {t t' : Table ρ} (h : t.Carries R t') {k : κ} {r : ρ}
    (hr : t.find? k = some r) : ∃ r', t'.find? k = some r' ∧ R r r' := by
  obtain ⟨r', hr', hrel⟩ := h r (mem_of_find? hr)
  exact ⟨r', key_of_find? hr ▸ hr', hrel⟩

/-- Where no key is new, the row under a key was carried along. -/
theorem Carries.back {R : ρ → ρ → Prop} {t t' : Table ρ} (h : t.Carries R t')
    (hknown : ∀ r' ∈ t'.rows, ∃ r ∈ t.rows, key r = key r') {k : κ} {r' : ρ} (hr' : t'.find? k = some r') :
    ∃ r, t.find? k = some r ∧ R r r' := by
  obtain ⟨r, hr, hkey⟩ := hknown r' (mem_of_find? hr')
  have hk : key r = k := hkey.trans (key_of_find? hr')
  obtain ⟨r'', hr'', hrel⟩ := h r hr
  rw [hk, hr'] at hr''
  exact ⟨r, hk ▸ find?_of_mem hr, Option.some.inj hr'' ▸ hrel⟩

theorem carries_updateMany_of_mem {R : ρ → ρ → Prop} (hR : ∀ r, R r r) {t : Table ρ} {p : ρ → Bool}
    {f : ρ → ρ} (hchange : ∀ r ∈ t.rows, p r = true → R r (f r)) (hf : ∀ r, key (f r) = key r) :
    t.Carries R (t.updateMany p f hf) := by
  intro r hr
  refine ⟨if p r then f r else r, by rw [find?_updateMany, find?_of_mem hr]; rfl, ?_⟩
  split
  · rename_i hp
    exact hchange r hr hp
  · exact hR r

theorem carries_updateMany {R : ρ → ρ → Prop} (hR : ∀ r, R r r) {t : Table ρ} {p : ρ → Bool} {f : ρ → ρ}
    (hchange : ∀ r, p r = true → R r (f r)) (hf : ∀ r, key (f r) = key r) :
    t.Carries R (t.updateMany p f hf) :=
  carries_updateMany_of_mem hR (fun r _ => hchange r) hf

theorem carries_update {R : ρ → ρ → Prop} (hR : ∀ r, R r r) {t : Table ρ} {k : κ} {f : ρ → ρ}
    (hchange : ∀ r, R r (f r)) (hf : ∀ r, key (f r) = key r) : t.Carries R (t.update k f hf) :=
  carries_updateMany hR (fun r _ => hchange r) hf

theorem carries_update_of_eq {R : ρ → ρ → Prop} (hR : ∀ r, R r r) {t : Table ρ} {k : κ} {r : ρ}
    {f : ρ → ρ} (h : t.find? k = some r) (hchange : R r (f r)) (hf : ∀ r, key (f r) = key r) :
    t.Carries R (t.update k f hf) := by
  refine carries_updateMany_of_mem hR (fun r' hr' hk => ?_) hf
  obtain rfl := eq_of_key_eq hr' (mem_of_find? h) ((of_decide_eq_true hk).trans (key_of_find? h).symm)
  exact hchange

/-- An update adds no key. -/
theorem known_of_mem_update {t : Table ρ} {k : κ} {f : ρ → ρ} (hf : ∀ r, key (f r) = key r) {r' : ρ}
    (h : r' ∈ (t.update k f hf).rows) : ∃ r ∈ t.rows, key r = key r' := by
  obtain ⟨r, hr, rfl⟩ := mem_update.mp h
  refine ⟨r, hr, ?_⟩
  split
  · exact (hf r).symm
  · rfl

theorem carries_insert {R : ρ → ρ → Prop} (hR : ∀ r, R r r) {t t' : Table ρ} {r : ρ}
    (h : t.insert? r = some t') : t.Carries R t' :=
  fun r₀ hr₀ => ⟨r₀, find?_insert_of_some h (find?_of_mem hr₀), hR r₀⟩

/-! ## Removal -/

/-- Removes every row that meets `p`. -/
def removeMany (t : Table ρ) (p : ρ → Bool) : Table ρ where
  rows := t.rows.filter fun r => !p r
  nodup := (List.filter_sublist.map key).nodup t.nodup

omit [DecidableEq κ] in
theorem mem_removeMany {t : Table ρ} {p : ρ → Bool} {r : ρ} :
    r ∈ (t.removeMany p).rows ↔ r ∈ t.rows ∧ p r = false := by
  simp [removeMany]

/-- A row is found when it was there and stays. -/
theorem find?_removeMany (t : Table ρ) (p : ρ → Bool) (k : κ) :
    (t.removeMany p).find? k = (t.find? k).filter fun r => !p r := by
  ext r
  rw [Option.filter_eq_some_iff, find?_eq_some, find?_eq_some, mem_removeMany, Bool.not_eq_true']
  tauto

/-- Removes the row with key `k`, if there is one. -/
def remove (t : Table ρ) (k : κ) : Table ρ := t.removeMany fun r => key r = k

theorem mem_remove {t : Table ρ} {k : κ} {r : ρ} : r ∈ (t.remove k).rows ↔ r ∈ t.rows ∧ key r ≠ k := by
  rw [remove, mem_removeMany, decide_eq_false_iff_not]

theorem find?_remove (t : Table ρ) (k k' : κ) :
    (t.remove k).find? k' = if k' = k then none else t.find? k' := by
  ext r
  rw [find?_eq_some, mem_remove]
  split
  · rename_i hk
    simp [hk]
  · rename_i hk
    rw [find?_eq_some]
    constructor
    · exact fun h => ⟨h.1.1, h.2⟩
    · exact fun h => ⟨⟨h.1, h.2 ▸ hk⟩, h.2⟩

/-- Adds a row, instead of the one with its key. -/
def put (t : Table ρ) (r : ρ) : Table ρ where
  rows := r :: (t.remove (key r)).rows
  nodup := by
    rw [List.map_cons]
    refine List.nodup_cons.mpr ⟨fun hmem => ?_, (t.remove (key r)).nodup⟩
    obtain ⟨r', hr', hk⟩ := List.mem_map.mp hmem
    exact (mem_remove.mp hr').2 hk

theorem mem_put {t : Table ρ} {r r' : ρ} :
    r' ∈ (t.put r).rows ↔ r' = r ∨ r' ∈ t.rows ∧ key r' ≠ key r := by
  rw [put, List.mem_cons, mem_remove]

theorem find?_put (t : Table ρ) (r : ρ) (k : κ) :
    (t.put r).find? k = if k = key r then some r else t.find? k := by
  ext r'
  rw [find?_eq_some, mem_put]
  split
  · rename_i hk
    subst hk
    rw [Option.some.injEq]
    constructor
    · rintro ⟨rfl | ⟨-, hne⟩, hkey⟩
      · rfl
      · exact absurd hkey hne
    · rintro rfl
      exact ⟨.inl rfl, rfl⟩
  · rename_i hk
    rw [find?_eq_some]
    constructor
    · rintro ⟨rfl | ⟨hr', -⟩, hkey⟩
      · exact absurd hkey.symm hk
      · exact ⟨hr', hkey⟩
    · rintro ⟨hr', rfl⟩
      exact ⟨.inr ⟨hr', hk⟩, rfl⟩

/-! ## Totals -/

/-- The total of `g` over the rows. -/
def sumBy (t : Table ρ) (g : ρ → ℤ) : ℤ := (t.rows.map g).sum

theorem sumBy_insert {t t' : Table ρ} {r : ρ} (h : t.insert? r = some t') (g : ρ → ℤ) :
    t'.sumBy g = g r + t.sumBy g := by
  simp [sumBy, (insert?_eq_some.mp h).2]

/-- An update that leaves `g` alone leaves its total alone. -/
theorem sumBy_update_of_same {t : Table ρ} {k : κ} {f : ρ → ρ} {g : ρ → ℤ} (hg : ∀ r, g (f r) = g r)
    (hf : ∀ r, key (f r) = key r) : (t.update k f hf).sumBy g = t.sumBy g := by
  unfold sumBy update updateMany
  rw [map_rewritten t.rows _ hg]

/-- Updating one row changes the total by the change in that row. -/
theorem sumBy_update {t : Table ρ} {k : κ} {r : ρ} (h : t.find? k = some r) (f : ρ → ρ)
    (hf : ∀ r, key (f r) = key r) (g : ρ → ℤ) :
    (t.update k f hf).sumBy g = t.sumBy g + (g (f r) - g r) := by
  obtain ⟨rows, hnd⟩ := t
  obtain ⟨hmem, hk⟩ := find?_eq_some.mp h
  simp only [sumBy, update, updateMany] at *
  clear h
  induction rows with
  | nil => cases hmem
  | cons a rest ih =>
    rw [List.map_cons, List.nodup_cons] at hnd
    rcases List.mem_cons.mp hmem with rfl | hmem
    · -- the rest of the rows have other keys, so the update leaves them alone
      have hrest : rest.map (fun r => if key r = k then f r else r) = rest := by
        conv_rhs => rw [← List.map_id rest]
        apply List.map_congr_left
        intro r' hr'
        rw [if_neg]
        · rfl
        · intro hk'
          exact hnd.1 (hk ▸ hk' ▸ List.mem_map_of_mem hr')
      simp only [decide_eq_true_eq] at *
      rw [List.map_cons, if_pos hk, hrest]
      simp only [List.map_cons, List.sum_cons]
      ring
    · have hne : key a ≠ k := by
        intro ha
        exact hnd.1 (ha ▸ hk ▸ List.mem_map_of_mem hmem)
      have ih' := ih hnd.2 hmem
      simp only [decide_eq_true_eq] at *
      rw [List.map_cons, if_neg hne, List.map_cons, List.sum_cons, ih']
      simp only [List.map_cons, List.sum_cons]
      ring

end Table
