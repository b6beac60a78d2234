import IncaCook.Library.Paging

/-!
# Reading a table backwards, page by page

A page is the `limit` rows with the largest keys below a cursor, largest first. A reader
starts without a cursor, goes on from the last row of each page, and stops at a page that is
not full. Meanwhile rows with larger keys may be added: the reader never sees them, because
they lie above every cursor.

Main results:

* `page_eq`: after the rows `front`, the page is the next ones of the rows there were at first;
* `readPages_eq`: the reader stops, having read each of these rows once, largest key first.
-/

namespace Cursors

open List Paging

variable {α κ ε : Type} [LinearOrder κ] (key : α → κ)

/-- The rows, largest key first. -/
def descending (rows : List α) : List α := orderBy (fun a => OrderDual.toDual (key a)) rows

/-- The row lies below the cursor, if there is one. -/
def below (cursor : Option κ) (a : α) : Bool := cursor.all fun c => key a < c

/-- The page that follows the cursor. -/
def page (limit : Nat) (cursor : Option κ) (rows : List α) : List α :=
  (descending key (rows.filter (below key cursor))).take limit

/-- The cursor behind the rows of a page. -/
def cursorOf (rows : List α) : Option κ := rows.getLast?.map key

/-- Reads pages until one is not full; `request n cursor` is the answer to the `n`-th
request. No result means that the fuel ran out. -/
def readPages (request : Nat → Option κ → Except ε (List α)) (limit : Nat) :
    Nat → Nat → Option κ → Except ε (Option (List (List α)))
  | 0, _, _ => .ok none
  | fuel + 1, n, cursor => do
    let rows ← request n cursor
    if rows.length < limit then
      return some [rows]
    else
      let pages ← readPages request limit fuel (n + 1) (cursorOf key rows)
      return pages.map fun pages => rows :: pages

variable {key} {rows front rest fresh l : List α} {limit fuel n : Nat} {cursor : Option κ}

/-! ## One page -/

/-- Largest key first, and no key twice. -/
def Descends (key : α → κ) (l : List α) : Prop := l.Pairwise fun a b => key b < key a

theorem descending_perm (key : α → κ) (rows : List α) : descending key rows ~ rows := orderBy_perm ..

theorem descends_descending (hkeys : (rows.map key).Nodup) : Descends key (descending key rows) := by
  have hdistinct : ∀ {a b}, [a, b] <+ rows → key a ≠ key b := fun hab =>
    pairwise_iff_forall_sublist.mp hkeys (hab.map key)
  refine (orderBy_pairwise hkeys.of_map).imp ?_
  rintro a b (hlt | ⟨heq, hab⟩)
  · exact hlt
  · exact absurd (OrderDual.toDual_inj.mp heq) (hdistinct hab)

/-- There is one arrangement of the rows that descends. -/
theorem descending_eq (hl : Descends key l) (hperm : l ~ rows) : descending key rows = l := by
  have hkeys : (l.map key).Nodup := pairwise_map.mpr (hl.imp fun hab => hab.ne')
  have hsorted := descends_descending ((hperm.map key).nodup_iff.mp hkeys)
  exact ((descending_perm key rows).trans hperm.symm).eq_of_pairwise
    (fun a b _ _ hab hba => absurd hab hba.asymm) hsorted hl

/-- Rows may be cut into pages before or after they are made into what is shown of them. -/
theorem page_map {β : Type} {key : β → κ} (f : α → β) (limit : Nat) (cursor : Option κ)
    (rows : List α) : page key limit cursor (rows.map f) = (page (fun a => key (f a)) limit cursor rows).map f := by
  have hfilter : (rows.map f).filter (below key cursor) =
      (rows.filter (below (fun a => key (f a)) cursor)).map f := filter_map
  have hsort : ∀ l : List α, descending key (l.map f) = (descending (fun a => key (f a)) l).map f :=
    fun l => (map_insertionSort _ _ f l fun _ _ _ _ => Iff.rfl).symm
  rw [page, hfilter, hsort, ← map_take, page]

/-- Of rows that descend, those after `front` are the ones below its cursor. -/
theorem filter_below (hdesc : Descends key (front ++ rest)) (hfront : front ≠ []) :
    (front ++ rest).filter (below key (cursorOf key front)) = rest := by
  obtain ⟨init, last, rfl⟩ := (eq_nil_or_concat front).resolve_left hfront
  obtain ⟨hinit, -, hrest⟩ := pairwise_append.mp hdesc
  have hlast : ∀ a ∈ init.concat last, ¬key a < key last := by
    intro a ha
    rw [concat_eq_append, mem_append, mem_singleton] at ha
    rcases ha with ha | rfl
    · rw [concat_eq_append] at hinit
      exact ((pairwise_append.mp hinit).2.2 a ha last mem_cons_self).asymm
    · exact lt_irrefl _
  have hbelow : ∀ a, below key (cursorOf key (init.concat last)) a = decide (key a < key last) := by
    intro a
    simp [below, cursorOf]
  rw [filter_append, filter_eq_nil_iff.mpr, filter_eq_self.mpr, nil_append]
  · intro a ha
    rw [hbelow, decide_eq_true_eq]
    exact hrest last (by simp) a ha
  · intro a ha
    rw [hbelow, decide_eq_true_eq]
    exact hlast a ha

/-- **The page behind `front`** is what comes next of the rows there were at first, whatever
lies above. -/
theorem page_eq (hdesc : Descends key (front ++ rest)) (hrows : front ++ rest ++ fresh ~ rows)
    (hfresh : ∀ a ∈ fresh, ∀ b ∈ front ++ rest, key b < key a) (hfirst : front = [] → fresh = []) :
    page key limit (cursorOf key front) rows = rest.take limit := by
  have hbelow : rest ~ rows.filter (below key (cursorOf key front)) := by
    refine Perm.trans ?_ (hrows.filter _)
    by_cases hfront : front = []
    · rw [hfirst hfront, hfront, append_nil, nil_append]
      exact (filter_eq_self.mpr fun a _ => rfl).symm ▸ .rfl
    · rw [filter_append, filter_below hdesc hfront, filter_eq_nil_iff.mpr, append_nil]
      intro a ha
      -- the cursor is the key of a row that was there at first
      have hlast := hfresh a ha (front.getLast hfront) (mem_append_left _ (getLast_mem hfront))
      simpa [below, cursorOf, getLast?_eq_some_getLast hfront] using hlast.le
  rw [page, descending_eq (pairwise_append.mp hdesc).2.1 hbelow]

/-! ## All pages -/

variable {request : Nat → Option κ → Except ε (List α)} {snapshot : Nat → List α}

/-- Every snapshot has the rows of the first one, and besides them only rows with larger keys. -/
def GrowsAbove (key : α → κ) (snapshot : Nat → List α) : Prop :=
  ∀ n, ∃ fresh, snapshot 0 ++ fresh ~ snapshot n ∧ ∀ a ∈ fresh, ∀ b ∈ snapshot 0, key b < key a

/-- The reader who has read `front` goes on to read `rest`. -/
theorem readPages_from (hlimit : 1 ≤ limit)
    (hrequest : ∀ n front, request n (cursorOf key front) =
      .ok (page key limit (cursorOf key front) (snapshot n)))
    (hgrows : GrowsAbove key snapshot) (hdesc : Descends key (front ++ rest))
    (hrows : front ++ rest ~ snapshot 0) (hfirst : front = [] → n = 0)
    (hfuel : rest.length / limit < fuel) :
    ∃ pages, readPages key request limit fuel n (cursorOf key front) = .ok (some pages) ∧
      pages.flatten = rest := by
  induction fuel generalizing front rest n with
  | zero => exact absurd hfuel (Nat.not_lt_zero _)
  | succ fuel ih =>
    have hpage : request n (cursorOf key front) = .ok (rest.take limit) := by
      rw [hrequest]
      by_cases hfront : front = []
      · obtain rfl := hfirst hfront
        have hnone : ∀ a ∈ ([] : List α), ∀ b ∈ front ++ rest, key b < key a :=
          fun a ha => absurd ha not_mem_nil
        exact congrArg _ (page_eq hdesc (by rwa [append_nil]) hnone fun _ => rfl)
      · obtain ⟨fresh, hperm, hfresh⟩ := hgrows n
        have habove : ∀ a ∈ fresh, ∀ b ∈ front ++ rest, key b < key a :=
          fun a ha b hb => hfresh a ha b (hrows.subset hb)
        exact congrArg _ (page_eq hdesc ((hrows.append_right fresh).trans hperm) habove
          fun hnil => absurd hnil hfront)
    rw [readPages, hpage]
    dsimp only [bind, Except.bind]
    split
    · rename_i hshort
      refine ⟨[rest.take limit], rfl, ?_⟩
      rw [length_take] at hshort
      rw [flatten_singleton, take_of_length_le (by omega)]
    · rename_i hfull
      rw [length_take] at hfull
      have hlong : limit ≤ rest.length := by omega
      have hne : rest.take limit ≠ [] := by
        rw [ne_eq, take_eq_nil_iff, ← length_eq_zero_iff (l := rest)]
        omega
      have hcursor : cursorOf key (front ++ rest.take limit) = cursorOf key (rest.take limit) := by
        rw [cursorOf, getLast?_append_of_ne_nil _ hne, cursorOf]
      have hsplit : front ++ rest.take limit ++ rest.drop limit = front ++ rest := by
        rw [append_assoc, take_append_drop]
      have hless : (rest.drop limit).length / limit < fuel := by
        rw [Nat.div_eq_sub_div hlimit hlong] at hfuel
        rw [length_drop]
        omega
      obtain ⟨pages, hread, hpages⟩ := ih (n := n + 1) (hsplit ▸ hdesc) (hsplit ▸ hrows)
        (fun hnil => absurd (append_eq_nil_iff.mp hnil).2 hne) hless
      rw [hcursor] at hread
      refine ⟨rest.take limit :: pages, ?_, ?_⟩
      · rw [hread]
        rfl
      · rw [flatten_cons, hpages, take_append_drop]

/-- **Reading page by page** ends, and lists the rows that there were at first, largest key
first. -/
theorem readPages_eq (hlimit : 1 ≤ limit)
    (hrequest : ∀ n front, request n (cursorOf key front) =
      .ok (page key limit (cursorOf key front) (snapshot n)))
    (hgrows : GrowsAbove key snapshot) (hkeys : ((snapshot 0).map key).Nodup)
    (hfuel : (snapshot 0).length / limit < fuel) :
    ∃ pages, readPages key request limit fuel 0 none = .ok (some pages) ∧
      pages.flatten = descending key (snapshot 0) := by
  have hdesc : Descends key ([] ++ descending key (snapshot 0)) := descends_descending hkeys
  have hperm := descending_perm key (snapshot 0)
  exact readPages_from hlimit hrequest hgrows hdesc hperm (fun _ => rfl) (by rwa [hperm.length_eq])

end Cursors
