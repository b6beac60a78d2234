import Mathlib.Data.List.Chain
import Mathlib.Data.List.Sort

/-!
# Pages of a ranked table

A listing ranks the rows of a table by one key, cuts a window of `limit + 1` rows out of
the ranking, loads these rows again in the order of another key, and shows the first
`limit` of them. A row beyond the limit only says that there is more.

Main results:

* `take_reload_iff`: a page is the first `limit` rows of its window, in their order, if and
  only if the second order agrees with the ranking on the window;
* `windows_pairwise_iff`: it does so on every window if and only if it does on the ranking;
* `flatMap_pages_perm_iff`, `take_reload_perm_iff`: the pages from offsets `0`, `limit`,
  `2 * limit`, … list every row exactly once if and only if each shows the rows of its window
  but the last, and that is the case when the last is also the last that was loaded.
-/

namespace Paging

open List

variable {α κ : Type} [LinearOrder κ] {key : α → κ} {rows l w r : List α} {a b c : α}

/-- `ORDER BY key`: rows with equal keys stay in the order of the table. -/
def orderBy (key : α → κ) (rows : List α) : List α := rows.insertionSort fun a b => key a ≤ key b

/-- `a` comes before `b` in that order. -/
def Before (key : α → κ) (rows : List α) (a b : α) : Prop :=
  key a < key b ∨ key a = key b ∧ [a, b] <+ rows

instance [DecidableEq α] : Decidable (Before key rows a b) :=
  inferInstanceAs (Decidable (key a < key b ∨ key a = key b ∧ [a, b] <+ rows))

theorem orderBy_perm (key : α → κ) (rows : List α) : orderBy key rows ~ rows :=
  perm_insertionSort ..

@[simp] theorem mem_orderBy : a ∈ orderBy key rows ↔ a ∈ rows := (orderBy_perm key rows).mem_iff

@[simp] theorem length_orderBy : (orderBy key rows).length = rows.length :=
  (orderBy_perm key rows).length_eq

/-! ## The order of the rows -/

/-- Of two rows of a table one stands before the other. -/
theorem pair_sublist_or (ha : a ∈ l) (hb : b ∈ l) (hne : a ≠ b) : [a, b] <+ l ∨ [b, a] <+ l := by
  obtain ⟨before, after, rfl⟩ := append_of_mem ha
  rcases mem_append.mp hb with hb | hb
  · right
    exact (singleton_sublist.mpr hb).append (singleton_sublist.mpr mem_cons_self)
  · left
    have hb := (mem_cons.mp hb).resolve_left hne.symm
    exact (((singleton_sublist.mpr hb).cons_cons a)).trans (sublist_append_right _ _)

theorem not_pair_sublist_both (hl : l.Nodup) (hab : [a, b] <+ l) (hba : [b, a] <+ l) : False := by
  have hne : ∀ {x y}, [x, y] <+ l → x ≠ y := fun h => pairwise_iff_forall_sublist.mp hl h
  -- where the pair starts, in each of the two orders
  induction l with
  | nil => cases hab
  | cons x l ih =>
    have hx := (nodup_cons.mp hl).1
    cases hab with
    | cons _ hab =>
      cases hba with
      | cons _ hba => exact ih (nodup_cons.mp hl).2 hab hba fun h => hne (h.cons x)
      | cons_cons _ hba => exact hx (hab.subset (mem_cons_of_mem _ mem_cons_self))
    | cons_cons _ hab =>
      cases hba with
      | cons _ hba => exact hx (hba.subset (mem_cons_of_mem _ mem_cons_self))
      | cons_cons _ hba => exact hx (hab.subset mem_cons_self)

theorem pair_sublist_trans (hl : l.Nodup) (hab : [a, b] <+ l) (hbc : [b, c] <+ l) : [a, c] <+ l := by
  -- the head of the list can be `a` only: the other two come later
  induction l with
  | nil => cases hab
  | cons x l ih =>
    obtain ⟨hx, hl⟩ := nodup_cons.mp hl
    cases hab with
    | cons _ hab =>
      cases hbc with
      | cons _ hbc => exact (ih hl hab hbc).cons x
      | cons_cons _ hbc => exact absurd (hab.subset (mem_cons_of_mem _ mem_cons_self)) hx
    | cons_cons _ hab =>
      cases hbc with
      | cons _ hbc =>
        exact (singleton_sublist.mpr (hbc.subset (mem_cons_of_mem _ mem_cons_self))).cons_cons a
      | cons_cons _ hbc => exact absurd (hab.subset mem_cons_self) hx

theorem Before.trans (hrows : rows.Nodup) (hab : Before key rows a b) (hbc : Before key rows b c) :
    Before key rows a c := by
  rcases hab with hlt | ⟨heq, hab⟩
  · rcases hbc with hlt' | ⟨heq', -⟩
    · exact .inl (hlt.trans hlt')
    · exact .inl (heq' ▸ hlt)
  · rcases hbc with hlt' | ⟨heq', hbc⟩
    · exact .inl (heq ▸ hlt')
    · exact .inr ⟨heq.trans heq', pair_sublist_trans hrows hab hbc⟩

theorem Before.asymm (hrows : rows.Nodup) (hab : Before key rows a b) : ¬Before key rows b a := by
  rcases hab with hlt | ⟨heq, hab⟩
  · rintro (hlt' | ⟨heq, -⟩)
    · exact lt_asymm hlt hlt'
    · exact hlt.ne heq.symm
  · rintro (hlt | ⟨-, hba⟩)
    · exact hlt.ne heq.symm
    · exact not_pair_sublist_both hrows hab hba

/-- Among the selected rows the order is that of the table. -/
theorem before_filter {p : α → Bool} (ha : p a = true) (hb : p b = true) :
    Before key (rows.filter p) a b ↔ Before key rows a b := by
  have hpair : [a, b] <+ rows.filter p ↔ [a, b] <+ rows := by
    constructor
    · exact fun h => h.trans filter_sublist
    · intro h
      have hfilter := h.filter p
      rwa [filter_cons_of_pos ha, filter_cons_of_pos hb, filter_nil] at hfilter
  unfold Before
  rw [hpair]

theorem orderBy_pairwise (hrows : rows.Nodup) : (orderBy key rows).Pairwise (Before key rows) := by
  have : Std.Total fun a b => key a ≤ key b := ⟨fun a b => le_total (key a) (key b)⟩
  have : IsTrans α fun a b => key a ≤ key b := ⟨fun _ _ _ => le_trans⟩
  have hsorted := pairwise_insertionSort (fun a b => key a ≤ key b) rows
  have hnodup : (orderBy key rows).Nodup := (orderBy_perm key rows).nodup_iff.mpr hrows
  rw [pairwise_iff_forall_sublist]
  intro a b hab
  rcases lt_or_eq_of_le (pairwise_iff_forall_sublist.mp hsorted hab) with hlt | heq
  · exact .inl hlt
  · -- the sort keeps the order of rows with equal keys
    have hne : a ≠ b := pairwise_iff_forall_sublist.mp hnodup hab
    have hmem := hab.subset
    simp only [cons_subset, mem_orderBy] at hmem
    refine .inr ⟨heq, (pair_sublist_or hmem.1 hmem.2.1 hne).resolve_right fun hba => ?_⟩
    exact not_pair_sublist_both hnodup hab (pair_sublist_insertionSort heq.ge hba)

/-- There is one arrangement of the rows in that order. -/
theorem eq_of_pairwise_before (hrows : rows.Nodup) (hperm : r ~ w) (hr : r.Pairwise (Before key rows))
    (hw : w.Pairwise (Before key rows)) : r = w :=
  hperm.eq_of_pairwise (fun _ _ _ _ hab hba => absurd hba (hab.asymm hrows)) hr hw

/-! ## Windows -/

/-- The rows that a query with `LIMIT limit + 1 OFFSET offset` returns. -/
def window (limit offset : Nat) (l : List α) : List α := (l.drop offset).take (limit + 1)

theorem length_window (limit offset : Nat) : (window limit offset l).length ≤ limit + 1 :=
  length_take_le _ _

theorem window_sublist (limit offset : Nat) : window limit offset l <+ l :=
  (take_sublist _ _).trans (drop_sublist _ _)

theorem take_window (limit offset : Nat) :
    (window limit offset l).take limit = (l.drop offset).take limit := by
  rw [window, take_take, Nat.min_eq_left (Nat.le_succ limit)]

/-- The selected rows of the table, loaded in the order of the key. -/
theorem reload_perm {p : α → Bool} (hrows : rows.Nodup) (hw : w.Nodup) (hsub : w ⊆ rows)
    (hp : ∀ a ∈ rows, p a = true ↔ a ∈ w) : orderBy key (rows.filter p) ~ w := by
  refine (orderBy_perm key _).trans ((perm_ext_iff_of_nodup (hrows.filter p) hw).mpr fun a => ?_)
  rw [mem_filter]
  exact ⟨fun h => (hp a h.1).mp h.2, fun h => ⟨hsub h, (hp a (hsub h)).mpr h⟩⟩

theorem reload_pairwise {p : α → Bool} (hrows : rows.Nodup) :
    (orderBy key (rows.filter p)).Pairwise (Before key rows) := by
  refine (orderBy_pairwise (hrows.filter p)).imp_of_mem fun ha hb hab => ?_
  rw [mem_orderBy, mem_filter] at ha hb
  exact (before_filter ha.2 hb.2).mp hab

/-- What is left of two arrangements when their first rows agree. -/
theorem drop_perm {n : Nat} (hperm : r ~ w) (htake : r.take n ~ w.take n) : r.drop n ~ w.drop n := by
  have h : r.take n ++ r.drop n ~ r.take n ++ w.drop n := by
    rw [take_append_drop]
    refine hperm.trans ?_
    conv_lhs => rw [← take_append_drop n w]
    exact htake.symm.append_right _
  exact (perm_append_left_iff _).mp h

/-- **When a page shows the rows of its window in their order.** -/
theorem take_reload_iff {limit : Nat} (hrows : rows.Nodup) (hperm : r ~ w) (hlen : w.length ≤ limit + 1)
    (hr : r.Pairwise (Before key rows)) :
    r.take limit = w.take limit ↔ w.Pairwise (Before key rows) := by
  constructor
  · intro htake
    -- one row is left at most, and it is the same one
    have hrest := drop_perm hperm (.of_eq htake)
    have hdrop : r.drop limit = w.drop limit := by
      have hone : (w.drop limit).length ≤ 1 := by
        rw [length_drop]
        omega
      cases hd : w.drop limit with
      | nil => exact perm_nil.mp (hd ▸ hrest)
      | cons x rest =>
        rw [hd, length_cons] at hone
        obtain rfl : rest = [] := length_eq_zero_iff.mp (by omega)
        exact perm_singleton.mp (hd ▸ hrest)
    have heq : r = w := by rw [← take_append_drop limit r, ← take_append_drop limit w, htake, hdrop]
    exact heq ▸ hr
  · intro hw
    rw [eq_of_pairwise_before hrows hperm hr hw]

/-- When a page shows the rows of its window, in whatever order: the row that is left out
comes after all others. -/
theorem take_reload_perm_iff {limit : Nat} (hrows : rows.Nodup) (hperm : r ~ w)
    (hlen : w.length ≤ limit + 1) (hr : r.Pairwise (Before key rows)) :
    r.take limit ~ w.take limit ↔ ∀ a ∈ w.take limit, ∀ b ∈ w.drop limit, Before key rows a b := by
  have hsplit := hr
  rw [← take_append_drop limit r, pairwise_append] at hsplit
  constructor
  · intro htake a ha b hb
    exact hsplit.2.2 a (htake.mem_iff.mpr ha) b ((drop_perm hperm htake).mem_iff.mpr hb)
  · intro hlast
    cases hd : w.drop limit with
    | nil =>
      have hle : w.length ≤ limit := drop_eq_nil_iff.mp hd
      rw [take_of_length_le hle, take_of_length_le (hperm.length_eq ▸ hle)]
      exact hperm
    | cons b rest =>
      -- the row that is left out of the window is the last one that was loaded
      have hlen' : (w.drop limit).length = 1 := by
        have hpos : 0 < (w.drop limit).length := by
          rw [hd]
          exact Nat.succ_pos _
        rw [length_drop] at hpos ⊢
        omega
      obtain rfl : rest = [] := by simpa [hd] using hlen'
      obtain ⟨c, hc⟩ : ∃ c, r.drop limit = [c] := by
        rw [← length_eq_one_iff, length_drop, hperm.length_eq, ← length_drop, hlen']
      have hbr : b ∈ r := hperm.mem_iff.mpr (mem_of_mem_drop (hd ▸ mem_singleton_self b))
      have hcw : c ∈ w := hperm.mem_iff.mp (mem_of_mem_drop (hc ▸ mem_singleton_self c))
      rw [← take_append_drop limit r, hc, mem_append, mem_singleton] at hbr
      rw [← take_append_drop limit w, hd, mem_append, mem_singleton] at hcw
      have hsame : b = c := by
        refine hbr.resolve_left fun hb => ?_
        have hbc := hsplit.2.2 b hb c (hc ▸ mem_singleton_self c)
        rcases hcw with hcw | rfl
        · exact hbc.asymm hrows (hlast c hcw b (hd ▸ mem_singleton_self b))
        · exact hbc.asymm hrows hbc
      have hboth : r.take limit ++ [b] ~ w.take limit ++ [b] := by
        conv_lhs => rw [hsame, ← hc, take_append_drop]
        rw [← hd, take_append_drop]
        exact hperm
      exact (perm_append_right_iff _).mp hboth

/-- **Every window is in order exactly when the ranking is.** -/
theorem windows_pairwise_iff {limit : Nat} {R : α → α → Prop} (htrans : ∀ a b c, R a b → R b c → R a c)
    (hlimit : 1 ≤ limit) : (∀ offset, (window limit offset l).Pairwise R) ↔ l.Pairwise R := by
  constructor
  · intro hwindows
    have : Trans R R R := ⟨htrans _ _ _⟩
    refine (isChain_iff_getElem.mpr fun i hi => ?_).pairwise
    -- two neighbours lie in one window
    have hpair : [l[i], l[i + 1]] <+ window limit i l := by
      rw [window, drop_eq_getElem_cons (by omega), drop_eq_getElem_cons hi]
      obtain ⟨n, rfl⟩ : ∃ n, limit = n + 1 := ⟨limit - 1, by omega⟩
      rw [take_succ_cons, take_succ_cons]
      exact ((nil_sublist _).cons_cons _).cons_cons _
    exact pairwise_iff_forall_sublist.mp (hwindows i) hpair
  · exact fun hl offset => hl.sublist (window_sublist limit offset)

/-! ## Following the pages -/

/-- Two halves of a list of different rows: what the second half does not show, the first does. -/
theorem append_perm_append_iff {p q a b : List α} (hnodup : (a ++ b).Nodup) (hlen : p.length = a.length)
    (hq : q ⊆ b) : p ++ q ~ a ++ b ↔ p ~ a ∧ q ~ b := by
  constructor
  · intro hall
    have hsub : a ⊆ p := by
      intro x hx
      refine (mem_append.mp (hall.mem_iff.mpr (mem_append_left _ hx))).resolve_right fun hxq => ?_
      exact (nodup_append.mp hnodup).2.2 x hx x (hq hxq) rfl
    have hp : a ~ p := (subperm_of_subset hnodup.of_append_left hsub).perm_of_length_le hlen.le
    exact ⟨hp.symm, (perm_append_left_iff p).mp (hall.trans (hp.append_right b))⟩
  · rintro ⟨hp, hq⟩
    exact hp.append hq

/-- Pages of the right length list every row once exactly when each shows the right rows: a
row that its page misses, no later page shows. -/
theorem flatMap_pages_perm_iff {limit n : Nat} {l : List α} {page : Nat → List α} (hl : l.Nodup)
    (hn : l.length ≤ n * limit)
    (hlen : ∀ k, (page k).length = ((l.drop (k * limit)).take limit).length)
    (hsub : ∀ k, page k ⊆ l.drop (k * limit)) :
    (range n).flatMap page ~ l ↔ ∀ k < n, page k ~ (l.drop (k * limit)).take limit := by
  induction n generalizing l page with
  | zero =>
    obtain rfl : l = [] := length_eq_zero_iff.mp (by omega)
    simp
  | succ n ih =>
    have hnext : ∀ k, l.drop ((k + 1) * limit) = (l.drop limit).drop (k * limit) := by
      intro k
      rw [drop_drop, Nat.succ_mul, Nat.add_comm]
    -- the pages after the first are those of the rest of the list
    have hrest : (range n).flatMap (fun k => page (k + 1)) ~ l.drop limit ↔
        ∀ k < n, page (k + 1) ~ ((l.drop limit).drop (k * limit)).take limit :=
      ih (hl.sublist (drop_sublist ..)) (by rw [length_drop, Nat.succ_mul] at *; omega)
        (fun k => hnext k ▸ hlen (k + 1)) fun k => hnext k ▸ hsub (k + 1)
    have hlater : (range n).flatMap (fun k => page (k + 1)) ⊆ l.drop limit := by
      intro x hx
      obtain ⟨k, -, hx⟩ := mem_flatMap.mp hx
      exact drop_subset _ _ (hnext k ▸ hsub (k + 1) hx)
    have hfirst : (page 0).length = (l.take limit).length := by
      rw [hlen 0, Nat.zero_mul, drop_zero]
    rw [range_succ_eq_map, flatMap_cons, flatMap_map]
    conv_lhs => rw [← take_append_drop limit l]
    -- what the first page misses is not in the rest, so it has to be right by itself
    rw [append_perm_append_iff (by rwa [take_append_drop]) hfirst hlater, hrest, Nat.forall_lt_succ_left,
      Nat.zero_mul, drop_zero]
    refine and_congr_right fun _ => forall₂_congr fun k _ => ?_
    rw [hnext]

end Paging
