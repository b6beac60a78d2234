import IncaCook.Library.Tally
import IncaCook.Steps.Statements

/-!
# The stock that a cart takes

`atomicDecrementInventory` adds up the cart's lines by listing and takes each sum
with one guarded `UPDATE`. The lemmas say when the updates all find their row and
what they leave; they are about production, where an empty listing is not refilled.
-/

namespace IncaCook

open Prog Orders

variable {cfg : Config} {s s' : Db} {id : ListingId} {q : Nat} {u : Unit}

/-- The row that `UPDATE … SET "portionsLeft" = "portionsLeft" - q` leaves. -/
def Listing.take (q : Nat) (l : Listing) : Listing :=
  { l with portionsLeft := l.portionsLeft.map fun n => n - q }

/-- `"portionsLeft" >= q`: not true of a NULL. -/
def Listing.covers (q : Nat) (l : Listing) : Bool := l.portionsLeft.any fun n => decide ((q : Int) ≤ n)

theorem Listing.covers_iff {l : Listing} :
    l.covers q = true ↔ ∃ n, l.portionsLeft = some n ∧ (q : Int) ≤ n := by
  simp [Listing.covers, Option.any_eq_true]

theorem Listing.take_take {q' : Nat} (l : Listing) : (l.take q).take q' = l.take (q + q') := by
  unfold Listing.take
  cases h : l.portionsLeft with
  | none => simp
  | some n =>
    simp only [Option.map_some, Listing.mk.injEq, Option.some.injEq, true_and, and_true]
    omega

theorem Listing.take_zero (l : Listing) : l.take 0 = l := by
  unfold Listing.take
  cases h : l.portionsLeft with
  | none => cases l; simp_all
  | some n => cases l; simp_all

/-- The guarded update counts the row that it changes. -/
theorem decrement_eq : decrement id q s =
    .ok (((s.listings.find? id).filter fun l => l.covers q).toList.length,
      { s with
        listings := s.listings.updateMany (fun l => l.id = id && l.covers q) (Listing.take q) }) := by
  have hscan := s.listings.filter_key id fun l => l.covers q
  rw [← hscan, ← List.countP_eq_length_filter]
  rfl

/-- With a row that covers the quantity, the guard is only about the key. -/
theorem updateMany_covers {l : Listing} (hl : s.listings.find? id = some l) (hcovers : l.covers q) :
    s.listings.updateMany (fun l => l.id = id && l.covers q) (Listing.take q) =
      s.listings.update id (Listing.take q) := by
  apply Table.ext_rows
  apply List.map_congr_left
  intro r hr
  by_cases hid : r.id = id
  · -- the only row with this key is the one that was found
    obtain rfl : r = l := Table.eq_of_key_eq hr (Table.mem_of_find? hl)
      (hid.trans (Table.key_of_find? hl).symm)
    simp [hid, hcovers, Keyed.key]
  · simp [hid, Keyed.key]

/-- One listing's share of a cart is taken exactly when its row covers it. -/
theorem decrementListing_ok (hprod : cfg.development = false) {listings : List Listing} :
    decrementListing cfg listings id q s = .ok (u, s') ↔
      (∃ l, s.listings.find? id = some l ∧ l.covers q = true) ∧
        s' = { s with listings := s.listings.update id (Listing.take q) } := by
  -- the development build lets an empty shelf pass; production does not
  have hdev : ∀ n : Nat, ¬(n = 0 ∧ cfg.development = true) := by
    intro n h
    rw [hprod] at h
    exact Bool.noConfusion h.2
  unfold decrementListing
  simp only [hdev, if_false, pure_bind]
  rw [Stmt.bind_ok]
  simp only [decrement_eq, Except.ok.injEq, Prod.mk.injEq, Tx.throwIf_ok]
  constructor
  · rintro ⟨n, s₁, ⟨rfl, rfl⟩, hcount, rfl⟩
    have hfound : ∃ l, (s.listings.find? id).filter (fun l => l.covers q) = some l := by
      apply Option.isSome_iff_exists.mp
      by_contra hnone
      rw [Option.not_isSome_iff_eq_none] at hnone
      rw [hnone] at hcount
      exact hcount rfl
    obtain ⟨l, hfiltered⟩ := hfound
    obtain ⟨hl, hcovers⟩ := Option.filter_eq_some_iff.mp hfiltered
    exact ⟨⟨l, hl, hcovers⟩, by rw [updateMany_covers hl hcovers]⟩
  · rintro ⟨⟨l, hl, hcovers⟩, rfl⟩
    have hfiltered : (s.listings.find? id).filter (fun l => l.covers q) = some l :=
      Option.filter_eq_some_iff.mpr ⟨hl, hcovers⟩
    refine ⟨_, _, ⟨rfl, rfl⟩, ?_, by rw [updateMany_covers hl hcovers]⟩
    rw [hfiltered]
    exact Nat.one_ne_zero

/-- Takes from every listing its total in `wanted`. -/
def takeStock (wanted : List (ListingId × Nat)) (t : Table Listing) : Table Listing :=
  t.updateMany (fun _ => true) fun l => l.take (sumAt l.id wanted)

theorem takeStock_nil (t : Table Listing) : takeStock [] t = t := by
  apply Table.ext_rows
  unfold takeStock Table.updateMany
  simp [Listing.take_zero]

theorem takeStock_cons (p : ListingId × Nat) (wanted : List (ListingId × Nat)) (t : Table Listing) :
    takeStock wanted (t.update p.1 (Listing.take p.2)) = takeStock (p :: wanted) t := by
  apply Table.ext_rows
  unfold takeStock Table.update Table.updateMany
  simp only [List.map_map, if_true]
  apply List.map_congr_left
  intro l _
  simp only [Function.comp_apply, sumAt_cons]
  by_cases h : l.id = p.1
  · have hmoved : (if decide (Keyed.key l = p.1) = true then l.take p.2 else l) = l.take p.2 :=
      if_pos (decide_eq_true h)
    rw [hmoved, if_pos h.symm]
    exact Listing.take_take l
  · have hkept : (if decide (Keyed.key l = p.1) = true then l.take p.2 else l) = l :=
      if_neg (by simpa [Keyed.key] using h)
    rw [hkept, if_neg (Ne.symm h), Nat.zero_add]

/-- The loop over distinct listings takes everything or refuses. -/
theorem forM_decrementListing_ok (hprod : cfg.development = false) {listings : List Listing}
    {wanted : List (ListingId × Nat)} (hnodup : (wanted.map Prod.fst).Nodup) :
    (wanted.forM fun p => decrementListing cfg listings p.1 p.2) s = .ok (u, s') ↔
      (∀ p ∈ wanted, ∃ l, s.listings.find? p.1 = some l ∧ l.covers p.2 = true) ∧
        s' = { s with listings := takeStock wanted s.listings } := by
  induction wanted generalizing s with
  | nil =>
    show (pure PUnit.unit : Tx Unit) s = .ok (u, s') ↔ _
    rw [Stmt.pure_ok, takeStock_nil]
    simp
  | cons p rest ih =>
    rw [List.map_cons, List.nodup_cons] at hnodup
    show (decrementListing cfg listings p.1 p.2 >>= fun _ => rest.forM _) s = .ok (u, s') ↔ _
    -- taking the first share leaves the rows of the others as they were
    have hothers : ∀ p' ∈ rest, (s.listings.update p.1 (Listing.take p.2)).find? p'.1 =
        s.listings.find? p'.1 := by
      intro p' hp'
      refine Table.find?_update_of_ne _ _ _ fun heq => hnodup.1 ?_
      exact heq ▸ List.mem_map_of_mem hp'
    rw [Stmt.bind_ok]
    simp only [decrementListing_ok hprod, ih hnodup.2, List.forall_mem_cons]
    constructor
    · rintro ⟨_, _, ⟨hfirst, rfl⟩, hrest, rfl⟩
      refine ⟨⟨hfirst, fun p' hp' => ?_⟩, by rw [takeStock_cons]⟩
      rw [← hothers p' hp']
      exact hrest p' hp'
    · rintro ⟨⟨hfirst, hrest⟩, rfl⟩
      refine ⟨(), _, ⟨hfirst, rfl⟩, fun p' hp' => ?_, by rw [takeStock_cons]⟩
      rw [hothers p' hp']
      exact hrest p' hp'

/-! ## A cart -/

/-- The lines of a cart as quantities under listings. -/
def cartLines (items : List CreateOrderItemDto) : List (ListingId × Nat) :=
  items.map fun i => (i.listingId, i.quantity)

theorem takeStock_congr {wanted wanted' : List (ListingId × Nat)}
    (h : ∀ id, sumAt id wanted = sumAt id wanted') (t : Table Listing) :
    takeStock wanted t = takeStock wanted' t := by
  unfold takeStock
  simp only [h]

theorem mem_cartLines {items : List CreateOrderItemDto} :
    id ∈ (cartLines items).map Prod.fst ↔ ∃ item ∈ items, item.listingId = id := by
  unfold cartLines
  rw [List.map_map, List.mem_map]
  rfl

/-- A cart's stock is taken exactly when every listing of the cart covers the total
of its lines; then every listing loses its total. -/
theorem atomicDecrementInventory_ok (hprod : cfg.development = false) {listings : List Listing}
    {items : List CreateOrderItemDto} :
    atomicDecrementInventory cfg items listings s = .ok (u, s') ↔
      (∀ item ∈ items, ∃ l, s.listings.find? item.listingId = some l ∧
        l.covers (sumAt item.listingId (cartLines items)) = true) ∧
        s' = { s with listings := takeStock (cartLines items) s.listings } := by
  have htally : Tallies (cartLines items) (quantityByListing (cartLines items)) :=
    tally_tallies (cartLines items)
  have htotal : ∀ id, sumAt id (quantityByListing (cartLines items)) = sumAt id (cartLines items) :=
    fun id => sumAt_tally id (cartLines items)
  show (List.forM (quantityByListing (cartLines items)) fun p =>
    decrementListing cfg listings p.1 p.2) s = _ ↔ _
  rw [forM_decrementListing_ok hprod htally.nodup, takeStock_congr htotal]
  apply and_congr_left
  intro _
  constructor
  · intro h item hitem
    have hkey : item.listingId ∈ (quantityByListing (cartLines items)).map Prod.fst :=
      (htally.keys _).mpr (mem_cartLines.mpr ⟨item, hitem, rfl⟩)
    obtain ⟨p, hp, hpk⟩ := List.mem_map.mp hkey
    rw [← hpk, ← htally.value p hp]
    exact h p hp
  · intro h p hp
    obtain ⟨item, hitem, hid⟩ :=
      mem_cartLines.mp ((htally.keys _).mp (List.mem_map_of_mem hp))
    rw [htally.value p hp, ← hid]
    exact h item hitem

end IncaCook
