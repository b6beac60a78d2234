import IncaCook.Library.Table
import Mathlib.Logic.Function.Basic

/-!
# Row locks

Transactions made of guarded row updates, interleaved statement by statement. An
update that goes through locks its row: the transaction keeps a new version of the
row, which only it sees, until it commits or aborts. While a row is locked, the
updates of other transactions wait for it. An update that finds no row meeting its
guard aborts its transaction. Nothing makes a transaction go on: it may wait, or be
aborted, at any time.

The state holds at most one pending version of each row, with the number of its
transaction, so two transactions never hold one row.

Main results:

* `Inv.begin`, `Inv.exec`, `Inv.commit`, `Inv.abort`: the invariant of the locks is
  kept by every statement;
* `Inv.runAll_view`: what a transaction sees is what its updates make, run alone, of
  the rows as they are committed now: **transactions are serialized by their commits**;
* `Holds.exec`, `Holds.commit`: what every update keeps holds of every version.
-/

open Keyed

variable {ρ κ τ : Type} [Keyed ρ κ] [DecidableEq κ]

namespace Table

/-- Replaces the rows that have a newer version. -/
def overlay (own : κ → Option ρ) (hown : ∀ k r, own k = some r → key r = k) (t : Table ρ) :
    Table ρ :=
  t.updateMany (fun _ => true) (fun r => (own (key r)).getD r) fun r => by
    cases h : own (key r) with
    | none => rfl
    | some r' => exact hown _ _ h

theorem find?_overlay {own : κ → Option ρ} {hown : ∀ k r, own k = some r → key r = k} {t : Table ρ}
    (k : κ) : (t.overlay own hown).find? k = (t.find? k).map fun r => (own k).getD r := by
  unfold overlay
  rw [find?_updateMany]
  cases h : t.find? k with
  | none => rfl
  | some r =>
    have hk : key r = k := key_of_find? h
    rw [Option.map_some, Option.map_some, if_pos rfl, hk]

omit [DecidableEq κ] in
theorem overlay_of_none {own : κ → Option ρ} {hown : ∀ k r, own k = some r → key r = k} {t : Table ρ}
    (hnone : ∀ k, own k = none) : t.overlay own hown = t := by
  apply ext_rows
  unfold overlay updateMany
  simp [hnone]

end Table

/-! ## Updates -/

/-- `UPDATE … WHERE key = … AND …`: the new row, or `none` when the row does not
meet the guard. -/
structure RowUpdate (ρ : Type) {κ : Type} [Keyed ρ κ] where
  key : κ
  apply : ρ → Option ρ
  keeps : ∀ r r', apply r = some r' → Keyed.key r' = Keyed.key r

namespace RowUpdate

/-- The update alone; `none` when it updates no row. -/
def run (u : RowUpdate ρ) (t : Table ρ) : Option (Table ρ) :=
  if ((t.find? u.key).bind u.apply).isSome then
    some (t.update u.key (fun r => (u.apply r).getD r) fun r => by
      cases h : u.apply r with
      | none => rfl
      | some r' => exact u.keeps r r' h)
  else none

/-- What the update does to the row that it finds is what it does to the table. -/
theorem run_eq {u : RowUpdate ρ} {t : Table ρ} {r : ρ} {f : ρ → ρ} {hf : ∀ r, Keyed.key (f r) = Keyed.key r}
    (hfind : t.find? u.key = some r) (happly : u.apply r = some (f r)) :
    u.run t = some (t.update u.key f hf) := by
  unfold run
  rw [if_pos (by rw [hfind, Option.bind_some, happly]; rfl)]
  congr 1
  apply Table.ext_rows
  apply List.map_congr_left
  intro row hrow
  by_cases hk : Keyed.key row = u.key
  · obtain rfl : row = r := Table.eq_of_key_eq hrow (Table.mem_of_find? hfind)
      (hk.trans (Table.key_of_find? hfind).symm)
    simp only [hk, decide_true, if_true, happly, Option.getD_some]
  · simp only [hk, decide_false, Bool.false_eq_true, if_false]

theorem run_none {u : RowUpdate ρ} {t : Table ρ} (h : (t.find? u.key).bind u.apply = none) :
    u.run t = none := by
  unfold run
  rw [h]
  rfl

/-- The updates one after the other. -/
def runAll (us : List (RowUpdate ρ)) (t : Table ρ) : Option (Table ρ) :=
  us.foldlM (fun t u => u.run t) t

theorem runAll_concat (us : List (RowUpdate ρ)) (u : RowUpdate ρ) (t : Table ρ) :
    runAll (us ++ [u]) t = (runAll us t).bind u.run := by
  unfold runAll
  rw [List.foldlM_append]
  cases us.foldlM (fun t u => u.run t) t with
  | none => rfl
  | some t' =>
    show (u.run t' >>= fun t => pure t) = u.run t'
    exact bind_pure _

/-- A row with `P` still has it after the update. -/
def Keeps (P : ρ → Prop) (u : RowUpdate ρ) : Prop := ∀ r r', P r → u.apply r = some r' → P r'

/-- An update that finds its row writes a newer version over it. -/
theorem run_overlay {u : RowUpdate ρ} {own own' : κ → Option ρ}
    {hown : ∀ k r, own k = some r → Keyed.key r = k} {hown' : ∀ k r, own' k = some r → Keyed.key r = k}
    {t : Table ρ} {r : ρ} (hfind : ((t.overlay own hown).find? u.key).bind u.apply = some r)
    (hself : own' u.key = some r) (hothers : ∀ k, k ≠ u.key → own' k = own k) :
    u.run (t.overlay own hown) = some (t.overlay own' hown') := by
  unfold run
  rw [if_pos (by rw [hfind]; rfl)]
  congr 1
  apply Table.ext_rows
  unfold Table.update Table.updateMany Table.overlay Table.updateMany
  simp only [List.map_map, if_true]
  apply List.map_congr_left
  intro row hrow
  have hkey : Keyed.key ((own (Keyed.key row)).getD row) = Keyed.key row := by
    cases h : own (Keyed.key row) with
    | none => rfl
    | some r' => exact hown _ _ h
  simp only [Function.comp_apply, hkey, decide_eq_true_eq]
  by_cases hk : Keyed.key row = u.key
  · -- the row that the update found
    have hrowFind : t.find? u.key = some row := hk ▸ Table.find?_of_mem hrow
    rw [Table.find?_overlay, hrowFind, Option.map_some, Option.bind_some] at hfind
    rw [if_pos hk, hk, hfind, hself]
    rfl
  · rw [if_neg hk, hothers _ hk]

end RowUpdate

/-! ## The locks -/

/-- An open transaction: its updates so far, those to come, and what else belongs to it. -/
structure LockTxn (ρ : Type) {κ : Type} [Keyed ρ κ] (τ : Type) where
  done : List (RowUpdate ρ)
  todo : List (RowUpdate ρ)
  label : τ

/-- The committed rows, the pending versions with their transactions, and the open
transactions. -/
structure RowLocks (ρ : Type) {κ : Type} [Keyed ρ κ] (τ : Type) where
  rows : Table ρ
  pending : κ → Option (ℕ × ρ)
  live : ℕ → Option (LockTxn ρ τ)
  keyed : ∀ k i r, pending k = some (i, r) → Keyed.key r = k

namespace RowLocks

/-- The versions that transaction `i` holds. -/
def own (s : RowLocks ρ τ) (i : ℕ) (k : κ) : Option ρ :=
  ((s.pending k).filter fun p => p.1 = i).map Prod.snd

omit [DecidableEq κ] in
theorem own_eq_some {s : RowLocks ρ τ} {i : ℕ} {k : κ} {r : ρ} :
    s.own i k = some r ↔ s.pending k = some (i, r) := by
  unfold own
  rw [Option.map_eq_some_iff]
  constructor
  · rintro ⟨⟨j, r'⟩, hp, rfl⟩
    obtain ⟨hp, hj⟩ := Option.filter_eq_some_iff.mp hp
    rw [hp, ← of_decide_eq_true hj]
  · intro hp
    exact ⟨(i, r), Option.filter_eq_some_iff.mpr ⟨hp, decide_eq_true rfl⟩, rfl⟩

omit [DecidableEq κ] in
theorem own_keyed (s : RowLocks ρ τ) (i : ℕ) : ∀ k r, s.own i k = some r → key r = k :=
  fun k r h => s.keyed k i r (own_eq_some.mp h)

/-- What transaction `i` sees: its own versions over the committed rows. -/
def view (s : RowLocks ρ τ) (i : ℕ) : Table ρ := s.rows.overlay (s.own i) (s.own_keyed i)

/-- No transaction is open. -/
def start (rows : Table ρ) : RowLocks ρ τ := ⟨rows, fun _ => none, fun _ => none, nofun⟩

/-- Opens a transaction under a free number. -/
def begin (s : RowLocks ρ τ) (i : ℕ) (updates : List (RowUpdate ρ)) (label : τ) : RowLocks ρ τ :=
  match s.live i with
  | some _ => s
  | none => { s with live := Function.update s.live i (some ⟨[], updates, label⟩) }

/-- The pending versions without those of transaction `i`. -/
def release (s : RowLocks ρ τ) (i : ℕ) (k : κ) : Option (ℕ × ρ) :=
  (s.pending k).filter fun p => p.1 ≠ i

omit [DecidableEq κ] in
theorem release_eq_some {s : RowLocks ρ τ} {i j : ℕ} {k : κ} {r : ρ} :
    s.release i k = some (j, r) ↔ s.pending k = some (j, r) ∧ j ≠ i := by
  unfold release
  rw [Option.filter_eq_some_iff, decide_eq_true_eq]

/-- Closes transaction `i` and drops its versions. -/
def abort (s : RowLocks ρ τ) (i : ℕ) : RowLocks ρ τ where
  rows := s.rows
  pending := s.release i
  live := Function.update s.live i none
  keyed k j r h := s.keyed k j r (release_eq_some.mp h).1

/-- Closes transaction `i` and makes its versions the committed ones. -/
def commit (s : RowLocks ρ τ) (i : ℕ) : RowLocks ρ τ where
  rows := s.view i
  pending := s.release i
  live := Function.update s.live i none
  keyed k j r h := s.keyed k j r (release_eq_some.mp h).1

/-- Transaction `i` gets a version of the row `k`. -/
def lock (s : RowLocks ρ τ) (i : ℕ) (k : κ) (r : ρ) (hr : key r = k) (t : LockTxn ρ τ) :
    RowLocks ρ τ where
  rows := s.rows
  pending := Function.update s.pending k (some (i, r))
  live := Function.update s.live i (some t)
  keyed k' j r' h := by
    by_cases hk : k' = k
    · subst hk
      rw [Function.update_self, Option.some.injEq, Prod.mk.injEq] at h
      rw [← h.2, hr]
    · rw [Function.update_of_ne hk] at h
      exact s.keyed k' j r' h

/-- The row that an update of transaction `i` leaves, if there is one. -/
def updated (s : RowLocks ρ τ) (i : ℕ) (u : RowUpdate ρ) : Option ρ :=
  ((s.view i).find? u.key).bind u.apply

theorem updated_keyed {s : RowLocks ρ τ} {i : ℕ} {u : RowUpdate ρ} {r : ρ}
    (h : s.updated i u = some r) : key r = u.key := by
  obtain ⟨r₀, hr₀, hr⟩ := Option.bind_eq_some_iff.mp h
  rw [u.keeps r₀ r hr, Table.key_of_find? hr₀]

/-- The next update of transaction `i`. -/
def exec (s : RowLocks ρ τ) (i : ℕ) : RowLocks ρ τ :=
  match s.live i with
  | some ⟨done, u :: todo, label⟩ =>
    -- a row that another transaction has locked is waited for
    if (s.pending u.key).any fun p => p.1 ≠ i then s
    else match h : s.updated i u with
      | some r => s.lock i u.key r (updated_keyed h) ⟨done ++ [u], todo, label⟩
      | none => s.abort i
  | _ => s

/-- Changes what belongs to transaction `i` besides its rows. -/
def note (s : RowLocks ρ τ) (i : ℕ) (label : τ) : RowLocks ρ τ :=
  match s.live i with
  | some t => { s with live := Function.update s.live i (some { t with label }) }
  | none => s

/-! ## The invariant -/

/-- On any rows that agree with the committed ones where the transaction has locks,
its updates so far make its versions. -/
def Serializes (s : RowLocks ρ τ) (i : ℕ) (t : LockTxn ρ τ) : Prop :=
  ∀ rows : Table ρ, (∀ k, s.own i k ≠ none → rows.find? k = s.rows.find? k) →
    RowUpdate.runAll t.done rows = some (rows.overlay (s.own i) (s.own_keyed i))

structure Inv (s : RowLocks ρ τ) : Prop where
  serializes : ∀ i t, s.live i = some t → Serializes s i t
  holder : ∀ k i r, s.pending k = some (i, r) → ∃ t, s.live i = some t

variable {s s' : RowLocks ρ τ} {i j : ℕ} {t : LockTxn ρ τ}

/-- **Commit order.** What a transaction sees is what its updates make, alone, of the
rows committed now. -/
theorem Inv.runAll_view (hs : s.Inv) (ht : s.live i = some t) :
    RowUpdate.runAll t.done s.rows = some (s.view i) :=
  hs.serializes i t ht s.rows fun _ _ => rfl

/-- A transaction keeps its guarantee when its versions stay and the rows it has
locked do not change. -/
theorem Serializes.of_own (h : Serializes s i t) {t' : LockTxn ρ τ} (hdone : t'.done = t.done)
    (hown : s'.own i = s.own i)
    (hrows : ∀ k, s.own i k ≠ none → s'.rows.find? k = s.rows.find? k) : Serializes s' i t' := by
  intro rows hagree
  have hsame : RowUpdate.runAll t.done rows = some (rows.overlay (s.own i) (s.own_keyed i)) := by
    apply h
    intro k hk
    rw [← hrows k hk]
    exact hagree k (hown ▸ hk)
  rw [hdone, hsame]
  congr 1
  apply Table.ext_rows
  unfold Table.overlay Table.updateMany
  simp only [hown]

theorem Inv.start (rows : Table ρ) : (start rows : RowLocks ρ τ).Inv :=
  ⟨nofun, nofun⟩

/-- A number without an open transaction holds nothing. -/
theorem Inv.own_none (hs : s.Inv) (hlive : s.live i = none) (k : κ) : s.own i k = none := by
  by_contra hsome
  obtain ⟨r, hr⟩ := Option.ne_none_iff_exists'.mp hsome
  obtain ⟨t, ht⟩ := hs.holder k i r (own_eq_some.mp hr)
  rw [hlive] at ht
  cases ht

theorem Inv.begin (hs : s.Inv) (updates : List (RowUpdate ρ)) (label : τ) :
    (s.begin i updates label).Inv := by
  unfold RowLocks.begin
  cases hlive : s.live i with
  | some t => exact hs
  | none =>
    dsimp only
    refine ⟨fun j t ht => ?_, fun k j r hp => ?_⟩
    · dsimp only at ht
      by_cases hj : j = i
      · subst hj
        rw [Function.update_self, Option.some.injEq] at ht
        subst ht
        intro rows _
        -- nothing done, nothing held
        exact congrArg some (Table.overlay_of_none fun k => hs.own_none hlive k).symm
      · rw [Function.update_of_ne hj] at ht
        exact (hs.serializes j t ht).of_own rfl rfl fun _ _ => rfl
    · obtain ⟨t, ht⟩ := hs.holder k j r hp
      have hj : j ≠ i := by
        rintro rfl
        rw [hlive] at ht
        cases ht
      exact ⟨t, (Function.update_of_ne hj _ _).trans ht⟩

omit [DecidableEq κ] in
/-- Closing transaction `i` takes nothing from the others. -/
theorem own_release {rows : Table ρ} {live : ℕ → Option (LockTxn ρ τ)}
    {hkey : ∀ k j r, s.release i k = some (j, r) → key r = k} (hj : j ≠ i) :
    (⟨rows, s.release i, live, hkey⟩ : RowLocks ρ τ).own j = s.own j := by
  funext k
  apply Option.ext
  intro r
  rw [own_eq_some, own_eq_some]
  show s.release i k = some (j, r) ↔ _
  rw [release_eq_some]
  exact and_iff_left hj

/-- A transaction that stays open holds what it held after another one has closed. -/
theorem Inv.close (hs : s.Inv) {rows : Table ρ}
    {hkey : ∀ k j r, s.release i k = some (j, r) → key r = k}
    (hrows : ∀ j k, j ≠ i → s.own j k ≠ none → rows.find? k = s.rows.find? k) :
    (⟨rows, s.release i, Function.update s.live i none, hkey⟩ : RowLocks ρ τ).Inv := by
  refine ⟨fun j t ht => ?_, fun k j r hp => ?_⟩
  · have hj : j ≠ i := by
      rintro rfl
      simp at ht
    dsimp only at ht
    rw [Function.update_of_ne hj] at ht
    exact (hs.serializes j t ht).of_own rfl (own_release hj) (hrows j · hj)
  · obtain ⟨hp, hj⟩ := release_eq_some.mp hp
    obtain ⟨t, ht⟩ := hs.holder k j r hp
    exact ⟨t, (Function.update_of_ne hj _ _).trans ht⟩

theorem Inv.abort (hs : s.Inv) : (s.abort i).Inv := hs.close fun _ _ _ _ => rfl

/-- A row that one transaction holds looks to the others as it is committed. -/
theorem find?_view_of_held {k : κ} (hj : j ≠ i) (hheld : s.own j k ≠ none) :
    (s.view i).find? k = s.rows.find? k := by
  obtain ⟨r, hr⟩ := Option.ne_none_iff_exists'.mp hheld
  have hnone : s.own i k = none := by
    by_contra hsome
    obtain ⟨r', hr'⟩ := Option.ne_none_iff_exists'.mp hsome
    rw [own_eq_some, own_eq_some.mp hr, Option.some.injEq, Prod.mk.injEq] at hr'
    exact hj hr'.1
  unfold view
  rw [Table.find?_overlay, hnone]
  simp

theorem Inv.commit (hs : s.Inv) : (s.commit i).Inv :=
  hs.close fun _ _ hj hheld => find?_view_of_held hj hheld

theorem Inv.note (hs : s.Inv) (label : τ) : (s.note i label).Inv := by
  unfold RowLocks.note
  cases hlive : s.live i with
  | none => exact hs
  | some t₀ =>
    refine ⟨fun j t ht => ?_, fun k j r hp => ?_⟩
    · dsimp only at ht
      by_cases hj : j = i
      · subst hj
        rw [Function.update_self, Option.some.injEq] at ht
        subst ht
        exact (hs.serializes j t₀ hlive).of_own rfl rfl fun _ _ => rfl
      · rw [Function.update_of_ne hj] at ht
        exact (hs.serializes j t ht).of_own rfl rfl fun _ _ => rfl
    · obtain ⟨t, ht⟩ := hs.holder k j r hp
      by_cases hj : j = i
      · subst hj
        exact ⟨_, Function.update_self ..⟩
      · exact ⟨t, (Function.update_of_ne hj _ _).trans ht⟩

/-! ### The next update -/

theorem own_lock_self {k : κ} {r : ρ} {hr : key r = k} : (s.lock i k r hr t).own i k = some r :=
  own_eq_some.mpr (Function.update_self ..)

theorem own_lock_of_ne {k k' : κ} {r : ρ} {hr : key r = k} (hk : k' ≠ k) :
    (s.lock i k r hr t).own j k' = s.own j k' := by
  apply Option.ext
  intro r'
  rw [own_eq_some, own_eq_some]
  show Function.update s.pending k (some (i, r)) k' = _ ↔ _
  rw [Function.update_of_ne hk]

/-- A row that is free, or its own, is nobody else's before and after. -/
theorem own_lock_other {k : κ} {r : ρ} {hr : key r = k} (hj : j ≠ i)
    (hfree : ∀ p, s.pending k = some p → p.1 = i) : (s.lock i k r hr t).own j = s.own j := by
  funext k'
  by_cases hk : k' = k
  · subst hk
    have hbefore : s.own j k' = none := by
      by_contra hsome
      obtain ⟨r', hr'⟩ := Option.ne_none_iff_exists'.mp hsome
      exact hj (hfree _ (own_eq_some.mp hr'))
    have hafter : (s.lock i k' r hr t).own j k' = none := by
      by_contra hsome
      obtain ⟨r', hr'⟩ := Option.ne_none_iff_exists'.mp hsome
      have hp : Function.update s.pending k' (some (i, r)) k' = some (j, r') := own_eq_some.mp hr'
      rw [Function.update_self, Option.some.injEq, Prod.mk.injEq] at hp
      exact hj hp.1.symm
    rw [hbefore, hafter]
  · exact own_lock_of_ne hk

/-- The update of the transaction goes on top of what it has. -/
theorem Serializes.lock {u : RowUpdate ρ} {done todo : List (RowUpdate ρ)} {label : τ} {r : ρ}
    (h : Serializes s i ⟨done, u :: todo, label⟩) (hr : s.updated i u = some r) :
    Serializes (s.lock i u.key r (updated_keyed hr) ⟨done ++ [u], todo, label⟩) i
      ⟨done ++ [u], todo, label⟩ := by
  intro rows hagree
  have hbefore : RowUpdate.runAll done rows = some (rows.overlay (s.own i) (s.own_keyed i)) := by
    apply h
    intro k hk
    apply hagree
    by_cases hku : k = u.key
    · rw [hku, own_lock_self]
      exact Option.some_ne_none r
    · rw [own_lock_of_ne hku]
      exact hk
  have hrow : rows.find? u.key = s.rows.find? u.key := by
    apply hagree
    rw [own_lock_self]
    exact Option.some_ne_none r
  show RowUpdate.runAll (done ++ [u]) rows = _
  rw [RowUpdate.runAll_concat, hbefore, Option.bind_some]
  apply RowUpdate.run_overlay ?_ own_lock_self fun k hk => own_lock_of_ne hk
  -- the update sees there the row that it saw here
  rw [Table.find?_overlay, hrow, ← Table.find?_overlay]
  exact hr

theorem Inv.lock (hs : s.Inv) {u : RowUpdate ρ} {done todo : List (RowUpdate ρ)} {label : τ} {r : ρ}
    (hlive : s.live i = some ⟨done, u :: todo, label⟩) (hr : s.updated i u = some r)
    (hfree : ∀ p, s.pending u.key = some p → p.1 = i) :
    (s.lock i u.key r (updated_keyed hr) ⟨done ++ [u], todo, label⟩).Inv := by
  refine ⟨fun j t ht => ?_, fun k j r' hp => ?_⟩
  · by_cases hj : j = i
    · subst hj
      have hnew : Function.update s.live j (some ⟨done ++ [u], todo, label⟩) j = some t := ht
      rw [Function.update_self, Option.some.injEq] at hnew
      subst hnew
      exact (hs.serializes j _ hlive).lock hr
    · have ht' : s.live j = some t := (Function.update_of_ne hj _ _).symm.trans ht
      exact (hs.serializes j t ht').of_own rfl (own_lock_other hj hfree) fun _ _ => rfl
  · by_cases hj : j = i
    · subst hj
      exact ⟨_, Function.update_self ..⟩
    · have hk : k ≠ u.key := by
        rintro rfl
        obtain ⟨rfl, -⟩ : i = j ∧ r = r' := by
          simpa using (Function.update_self ..).symm.trans hp
        exact hj rfl
      obtain ⟨t, ht⟩ := hs.holder k j r' ((Function.update_of_ne hk _ _).symm.trans hp)
      exact ⟨t, (Function.update_of_ne hj _ _).trans ht⟩

/-- What the next update can do: nothing, lock its row, or end its transaction. -/
theorem exec_cases (s : RowLocks ρ τ) (i : ℕ) : s.exec i = s ∨ s.exec i = s.abort i ∨
    ∃ done u todo label r, ∃ hr : s.updated i u = some r,
      s.live i = some ⟨done, u :: todo, label⟩ ∧ (∀ p, s.pending u.key = some p → p.1 = i) ∧
      s.exec i = s.lock i u.key r (updated_keyed hr) ⟨done ++ [u], todo, label⟩ := by
  unfold exec
  split
  case h_2 => exact .inl rfl
  case h_1 done u todo label hlive =>
    by_cases hblocked : ((s.pending u.key).any fun p => decide (p.1 ≠ i)) = true
    · exact .inl (if_pos hblocked)
    · rw [if_neg hblocked]
      right
      split
      case h_2 => exact .inl rfl
      case h_1 r hr =>
        refine .inr ⟨done, u, todo, label, r, hr, hlive, fun p hp => ?_, rfl⟩
        simpa [hp] using hblocked

theorem Inv.exec (hs : s.Inv) : (s.exec i).Inv := by
  obtain h | h | ⟨done, u, todo, label, r, hr, hlive, hfree, h⟩ := exec_cases s i
  · rw [h]
    exact hs
  · rw [h]
    exact hs.abort
  · rw [h]
    exact hs.lock hlive hr hfree

/-! ## What a statement does to a transaction -/

omit [DecidableEq κ] in
theorem live_begin {updates : List (RowUpdate ρ)} {label : τ} {t' : LockTxn ρ τ}
    (h : (s.begin i updates label).live j = some t') :
    s.live j = some t' ∨ t' = ⟨[], updates, label⟩ := by
  unfold RowLocks.begin at h
  cases hlive : s.live i with
  | some t =>
    rw [hlive] at h
    exact .inl h
  | none =>
    rw [hlive] at h
    have hupdate : Function.update s.live i (some ⟨[], updates, label⟩) j = some t' := h
    by_cases hj : j = i
    · subst hj
      rw [Function.update_self, Option.some.injEq] at hupdate
      exact .inr hupdate.symm
    · rw [Function.update_of_ne hj] at hupdate
      exact .inl hupdate

omit [DecidableEq κ] in
theorem live_abort {t' : LockTxn ρ τ} (h : (s.abort i).live j = some t') : s.live j = some t' := by
  have hupdate : Function.update s.live i none j = some t' := h
  by_cases hj : j = i
  · subst hj
    rw [Function.update_self] at hupdate
    cases hupdate
  · rwa [Function.update_of_ne hj] at hupdate

omit [DecidableEq κ] in
theorem live_commit {t' : LockTxn ρ τ} (h : (s.commit i).live j = some t') : s.live j = some t' :=
  live_abort h

omit [DecidableEq κ] in
theorem live_note {label : τ} {t' : LockTxn ρ τ} (h : (s.note i label).live j = some t') :
    s.live j = some t' ∨ ∃ t, s.live i = some t ∧ t' = { t with label } := by
  unfold RowLocks.note at h
  cases hlive : s.live i with
  | none =>
    rw [hlive] at h
    exact .inl h
  | some t =>
    rw [hlive] at h
    have hupdate : Function.update s.live i (some { t with label }) j = some t' := h
    by_cases hj : j = i
    · subst hj
      rw [Function.update_self, Option.some.injEq] at hupdate
      exact .inr ⟨t, rfl, hupdate.symm⟩
    · rw [Function.update_of_ne hj] at hupdate
      exact .inl hupdate

/-- The updates of a transaction stay the same; the next one moves to those done. -/
theorem live_exec {t' : LockTxn ρ τ} (h : (s.exec i).live j = some t') :
    s.live j = some t' ∨ ∃ done u todo label, s.live j = some ⟨done, u :: todo, label⟩ ∧
      t' = ⟨done ++ [u], todo, label⟩ := by
  obtain hsame | habort | ⟨done, u, todo, label, r, hr, hlive, -, hlock⟩ := exec_cases s i
  · rw [hsame] at h
    exact .inl h
  · rw [habort] at h
    exact .inl (live_abort h)
  · rw [hlock] at h
    have hupdate : Function.update s.live i (some ⟨done ++ [u], todo, label⟩) j = some t' := h
    by_cases hj : j = i
    · subst hj
      rw [Function.update_self, Option.some.injEq] at hupdate
      exact .inr ⟨done, u, todo, label, hlive, hupdate.symm⟩
    · rw [Function.update_of_ne hj] at hupdate
      exact .inl hupdate

omit [DecidableEq κ] in
theorem rows_begin {updates : List (RowUpdate ρ)} {label : τ} :
    (s.begin i updates label).rows = s.rows := by
  unfold RowLocks.begin
  split
  · rfl
  · rfl

omit [DecidableEq κ] in
theorem rows_note {label : τ} : (s.note i label).rows = s.rows := by
  unfold RowLocks.note
  split
  · rfl
  · rfl

theorem rows_exec : (s.exec i).rows = s.rows := by
  obtain h | h | ⟨done, u, todo, label, r, hr, hlive, -, h⟩ := exec_cases s i
  · rw [h]
  · rw [h]
    rfl
  · rw [h]
    rfl

/-! ## What every version keeps -/

/-- Committed and pending versions have `P`, and the updates to come keep it. -/
structure Holds (P : ρ → Prop) (s : RowLocks ρ τ) : Prop where
  rows : ∀ r ∈ s.rows.rows, P r
  pending : ∀ k i r, s.pending k = some (i, r) → P r
  todo : ∀ i t, s.live i = some t → ∀ u ∈ t.todo, u.Keeps P

variable {P : ρ → Prop}

omit [DecidableEq κ] in
/-- Every row that a transaction sees has `P`. -/
theorem Holds.view (hs : s.Holds P) : ∀ r ∈ (s.view i).rows, P r := by
  intro r hr
  obtain ⟨r₀, hr₀, rfl⟩ := List.mem_map.mp hr
  show P ((s.own i (key r₀)).getD r₀)
  cases hown : s.own i (key r₀) with
  | none => exact hs.rows r₀ hr₀
  | some r' => exact hs.pending _ i r' (own_eq_some.mp hown)

omit [DecidableEq κ] in
theorem Holds.start {rows : Table ρ} (h : ∀ r ∈ rows.rows, P r) :
    (start rows : RowLocks ρ τ).Holds P :=
  ⟨h, nofun, nofun⟩

omit [DecidableEq κ] in
/-- An open transaction may be replaced by one with no more to do. -/
theorem todo_update (hs : s.Holds P) {o : Option (LockTxn ρ τ)}
    (ho : ∀ t, o = some t → ∀ u ∈ t.todo, u.Keeps P) :
    ∀ j t, Function.update s.live i o j = some t → ∀ u ∈ t.todo, u.Keeps P := by
  intro j t ht
  by_cases hj : j = i
  · subst hj
    rw [Function.update_self] at ht
    exact ho t ht
  · rw [Function.update_of_ne hj] at ht
    exact hs.todo j t ht

omit [DecidableEq κ] in
theorem Holds.begin (hs : s.Holds P) {updates : List (RowUpdate ρ)} {label : τ}
    (hkeeps : ∀ u ∈ updates, u.Keeps P) : (s.begin i updates label).Holds P := by
  unfold RowLocks.begin
  cases s.live i with
  | some t => exact hs
  | none =>
    exact ⟨hs.rows, hs.pending, todo_update hs fun t ht => Option.some.inj ht ▸ hkeeps⟩

omit [DecidableEq κ] in
theorem Holds.abort (hs : s.Holds P) : (s.abort i).Holds P :=
  ⟨hs.rows, fun k j r hp => hs.pending k j r (release_eq_some.mp hp).1, todo_update hs nofun⟩

omit [DecidableEq κ] in
theorem Holds.commit (hs : s.Holds P) : (s.commit i).Holds P :=
  ⟨hs.view, fun k j r hp => hs.pending k j r (release_eq_some.mp hp).1, todo_update hs nofun⟩

omit [DecidableEq κ] in
theorem Holds.note (hs : s.Holds P) {label : τ} : (s.note i label).Holds P := by
  unfold RowLocks.note
  cases hlive : s.live i with
  | none => exact hs
  | some t =>
    exact ⟨hs.rows, hs.pending, todo_update hs fun t' ht' => Option.some.inj ht' ▸ hs.todo i t hlive⟩

theorem Holds.exec (hs : s.Holds P) : (s.exec i).Holds P := by
  obtain h | h | ⟨done, u, todo, label, r, hr, hlive, -, h⟩ := exec_cases s i
  · rw [h]
    exact hs
  · rw [h]
    exact hs.abort
  · rw [h]
    have htodo := hs.todo i _ hlive
    obtain ⟨r₀, hr₀, happly⟩ := Option.bind_eq_some_iff.mp hr
    -- the new version comes from one that the transaction saw
    have hP : P r := htodo u List.mem_cons_self r₀ r (hs.view r₀ (Table.mem_of_find? hr₀)) happly
    refine ⟨hs.rows, fun k j r' hp => ?_, todo_update hs fun t ht => ?_⟩
    · by_cases hk : k = u.key
      · subst hk
        have hnew : Function.update s.pending u.key (some (i, r)) u.key = some (j, r') := hp
        rw [Function.update_self, Option.some.injEq, Prod.mk.injEq] at hnew
        exact hnew.2 ▸ hP
      · exact hs.pending k j r' ((Function.update_of_ne hk _ _).symm.trans hp)
    · exact Option.some.inj ht ▸ fun u' hu' => htodo u' (List.mem_cons_of_mem u hu')

end RowLocks
