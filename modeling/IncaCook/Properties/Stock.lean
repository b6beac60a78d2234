import IncaCook.Library.Crash
import IncaCook.Model.System
import IncaCook.Steps.Inventory

/-!
# Taking the stock of a cart

`portionsLeft` is NULL for a dish that is cooked to order: nothing is counted, and
the feed shows it as in stock. The guarded update compares the column with the
wanted quantity, and a comparison with NULL is not true.

Main results:

* `atomicDecrementInventory_exec`: when the stock of a cart is taken, and what is left;
* `stock_law_iff`: the stock check does what it should for a cart without
  cook-to-order dishes, and for one that fails for another reason.
-/

namespace IncaCook

open Prog Orders

variable {cfg : Config} {s : Db} {items : List CreateOrderItemDto} {listings : List Listing}
  {o : OrderId} {w : Nat → Answer}

/-- The listing is there, and it is cooked to order or has what the cart wants of it. -/
def Enough (s : Db) (items : List CreateOrderItemDto) (id : ListingId) : Prop :=
  ∃ l, s.listings.find? id = some l ∧
    ∀ n, l.portionsLeft = some n → (sumAt id (cartLines items) : Int) ≤ n

/-- The listing is there, and its portions are counted. -/
def Tracked (s : Db) (id : ListingId) : Prop :=
  ∃ l n, s.listings.find? id = some l ∧ l.portionsLeft = some n

/-- What the stock check of a cart should do: it goes through exactly when there is
enough of everything; then every counted listing loses what the cart wants of it,
and the others stay uncounted; and when it does not go through nothing changes. -/
structure StockLaw (s : Db) (items : List CreateOrderItemDto) (out : Outcome machine Unit) :
    Prop where
  succeeds : out.result = .ok () ↔ ∀ item ∈ items, Enough s items item.listingId
  taken : out.result = .ok () → ∀ id, (out.state.listings.find? id).map Listing.portionsLeft =
    (s.listings.find? id).map fun l =>
      l.portionsLeft.map fun n : Int => n - sumAt id (cartLines items)
  untouched : ∀ e, out.result = .error e → out.state.listings = s.listings

/-- The transaction's stock check, run alone. -/
def takeStockOf (cfg : Config) (o : OrderId) (items : List CreateOrderItemDto)
    (listings : List Listing) : Handler Unit :=
  await (.placeOrder o) fun _ => atomicDecrementInventory cfg items listings

theorem find?_takeStock {wanted : List (ListingId × Nat)} {t : Table Listing} {id : ListingId} :
    (takeStock wanted t).find? id = (t.find? id).map fun l => l.take (sumAt id wanted) := by
  unfold takeStock
  rw [Table.find?_updateMany]
  cases h : t.find? id with
  | none => rfl
  | some l =>
    have hid : l.id = id := Table.key_of_find? h
    rw [Option.map_some, Option.map_some, if_pos rfl, hid]

/-- Going through or not: the state after the stock check. -/
theorem atomicDecrementInventory_exec (hprod : cfg.development = false) :
    let out := (takeStockOf cfg o items listings).exec w s
    (out.result = .ok () ↔ ∀ item ∈ items, ∃ l, s.listings.find? item.listingId = some l ∧
      l.covers (sumAt item.listingId (cartLines items)) = true) ∧
    (out.result = .ok () → out.state.listings = takeStock (cartLines items) s.listings) ∧
    (∀ e, out.result = .error e → out.state = s) := by
  have hok : ∀ s', atomicDecrementInventory cfg items listings s = .ok ((), s') ↔ _ :=
    fun s' => atomicDecrementInventory_ok hprod
  cases hrun : atomicDecrementInventory cfg items listings s with
  | error e =>
    have hexec : (takeStockOf cfg o items listings).exec w s = _ := exec_await_error hrun
    rw [hexec]
    have hrefused : ¬∀ item ∈ items, ∃ l, s.listings.find? item.listingId = some l ∧
        l.covers (sumAt item.listingId (cartLines items)) = true := by
      intro hall
      have hgoes := (hok _).mpr ⟨hall, rfl⟩
      rw [hrun] at hgoes
      cases hgoes
    exact ⟨⟨nofun, fun hall => absurd hall hrefused⟩, nofun, fun _ _ => rfl⟩
  | ok r =>
    obtain ⟨⟨⟩, s'⟩ := r
    have hexec : (takeStockOf cfg o items listings).exec w s = _ := exec_await_ok hrun
    obtain ⟨hall, rfl⟩ := (hok s').mp hrun
    rw [hexec]
    exact ⟨⟨fun _ => hall, fun _ => rfl⟩, fun _ => rfl, nofun⟩

/-- A row covers what is wanted of it when there is enough and it is counted. -/
theorem covers_iff_enough {id : ListingId} :
    (∃ l, s.listings.find? id = some l ∧ l.covers (sumAt id (cartLines items)) = true) ↔
      Enough s items id ∧ Tracked s id := by
  constructor
  · rintro ⟨l, hl, hcovers⟩
    obtain ⟨n, hn, hle⟩ := Listing.covers_iff.mp hcovers
    refine ⟨⟨l, hl, fun m hm => ?_⟩, l, n, hl, hn⟩
    rw [hn] at hm
    cases hm
    exact hle
  · rintro ⟨⟨l, hl, hle⟩, l', n, hl', hn⟩
    obtain rfl : l = l' := Option.some.inj (hl.symm.trans hl')
    exact ⟨l, hl, Listing.covers_iff.mpr ⟨n, hn, hle n hn⟩⟩

/-- **The stock check is right exactly when no cook-to-order dish is in its way.** In
production, for every set of listings and every cart, `atomicDecrementInventory`
obeys the stock law if and only if every listing of the cart is counted, or there
is not enough of one of them. -/
theorem stock_law_iff (hprod : cfg.development = false) :
    StockLaw s items ((takeStockOf cfg o items listings).exec w s) ↔
      (∀ item ∈ items, Tracked s item.listingId) ∨
        ∃ item ∈ items, ¬Enough s items item.listingId := by
  obtain ⟨hsucceeds, htaken, huntouched⟩ :=
    @atomicDecrementInventory_exec cfg s items listings o w hprod
  simp only [covers_iff_enough] at hsucceeds
  -- a cart that goes through has only counted listings, so the law cannot hold
  -- where there is enough and one of them is not counted
  constructor
  · intro hlaw
    by_cases henough : ∀ item ∈ items, Enough s items item.listingId
    · left
      intro item hitem
      exact (hsucceeds.mp (hlaw.succeeds.mpr henough) item hitem).2
    · right
      simpa only [not_forall, exists_prop] using henough
  · intro hcond
    refine ⟨hsucceeds.trans ?_, fun hok id => ?_, fun e herr => by rw [huntouched e herr]⟩
    · constructor
      · exact fun h item hitem => (h item hitem).1
      · intro henough item hitem
        rcases hcond with htracked | ⟨short, hshort, hnot⟩
        · exact ⟨henough item hitem, htracked item hitem⟩
        · exact absurd (henough short hshort) hnot
    · rw [htaken hok, find?_takeStock, Option.map_map]
      rfl

/-- Two lines of the small marketplace's couscous, three portions in all. -/
def couscousCart : List CreateOrderItemDto :=
  [⟨⟨0, 110⟩, 1, none, none, one_portion⟩, ⟨⟨0, 110⟩, 2, some "spicy", none, two_portions⟩]

theorem couscousCart_stock_law :
    StockLaw smallTown couscousCart
        ((takeStockOf smallTownConfig ⟨0, 0⟩ couscousCart []).exec (fun _ => ⟨true, "token", ""⟩)
          smallTown) ↔
      (∀ item ∈ couscousCart, Tracked smallTown item.listingId) ∨
        ∃ item ∈ couscousCart, ¬Enough smallTown couscousCart item.listingId :=
  stock_law_iff rfl

/-- The small marketplace, with a dish that is cooked to order. -/
def traiteurTown : Db :=
  { smallTown with
    listings := ⟨[⟨⟨0, 110⟩, ⟨0, 101⟩, "Tajine", [], 1200, none, true, none, .both, none⟩], by decide⟩ }

/-- One portion of a dish that is cooked to order is refused as sold out. -/
theorem cook_to_order_refused :
    let out := (takeStockOf smallTownConfig ⟨0, 0⟩ couscousCart traiteurTown.listings.rows).exec
      (fun _ => ⟨true, "token", ""⟩) traiteurTown
    (∀ item ∈ couscousCart, Enough traiteurTown couscousCart item.listingId) ∧
      out.result = .error (.conflict "Tajine is no longer available in the requested quantity") ∧
      ¬StockLaw traiteurTown couscousCart out := by
  have henough : ∀ item ∈ couscousCart, Enough traiteurTown couscousCart item.listingId := by
    intro item hitem
    have hid : item.listingId = ⟨0, 110⟩ := by
      revert item
      decide
    rw [hid]
    exact ⟨_, rfl, nofun⟩
  refine ⟨henough, by decide, fun hlaw => ?_⟩
  exact absurd (hlaw.succeeds.mpr henough) (by decide)

end IncaCook
