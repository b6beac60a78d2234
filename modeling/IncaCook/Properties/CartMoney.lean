import IncaCook.Model.System
import Mathlib.Data.List.Dedup

/-!
# The money of a cart

The checks of `loadAndValidateCart` decide which carts are priced, and the split
of `priceOrder` what is charged. The checks bound neither a price nor an add-on
delta from below, and the seller's commission has a floor of one euro.

Main results:

* `accepted_listing`, `accepted_addOn`: an accepted cart prices its lines with the
  rows of the database;
* `priceOrder_split`: when the split of a subtotal is non-negative;
* `accepted_cart_money`: the money of every accepted cart.
-/

namespace IncaCook

open Prog Orders Pricing

/-! ## What a cart is worth -/

/-- One cart line at the prices of the database: the dish and its add-ons, times
the quantity. -/
def lineCents (db : Db) (item : CreateOrderItemDto) : Cents :=
  (((db.listings.find? item.listingId).map Listing.priceCents).getD 0 +
    ((item.addOnIds.getD []).map fun id =>
      ((db.addOns.find? id).map ListingAddOn.priceDeltaCents).getD 0).sum) * item.quantity

def cartValue (db : Db) (items : List CreateOrderItemDto) : Cents := (items.map (lineCents db)).sum

/-! ## What the checks of a cart establish -/

/-- Distinct keys, all wanted and as many as there are wanted, are the wanted ones. -/
theorem mem_keys_of_length_eq {α κ : Type} {rows : List α} {f : α → κ} {wanted : List κ} {k : κ}
    (hnodup : (rows.map f).Nodup) (hsub : ∀ r ∈ rows, f r ∈ wanted)
    (hlen : rows.length = wanted.length) (hk : k ∈ wanted) : ∃ r ∈ rows, f r = k := by
  have hsubset : rows.map f ⊆ wanted := by
    intro k' hk'
    obtain ⟨r, hr, rfl⟩ := List.mem_map.mp hk'
    exact hsub r hr
  have hperm : (rows.map f).Perm wanted := by
    apply (List.subperm_of_subset hnodup hsubset).perm_of_length_le
    rw [List.length_map, hlen]
  exact List.mem_map.mp (hperm.mem_iff.mpr hk)

variable {cfg : Config} {db : Db} {items : List CreateOrderItemDto} {cart : Cart}
  {w : Nat → Answer}

/-- The rows that an accepted cart holds. -/
structure CartRows (db : Db) (items : List CreateOrderItemDto) (cart : Cart) : Prop where
  listings : cart.listings = db.listings.rows.filter fun l =>
    l.id ∈ (items.map CreateOrderItemDto.listingId).dedup && l.deletedAt.isNone
  found : cart.listings.length = (items.map CreateOrderItemDto.listingId).dedup.length
  addOns : ∀ a, a ∈ (items.flatMap fun i => i.addOnIds.getD []).dedup →
    cart.addOns.find? (fun row => row.id = a) = db.addOns.find? a

theorem stepless_checkListing {now : Time} (l : Listing) : (checkListing now l).Stepless :=
  stepless_bind stepless_throwIf fun _ => stepless_bind stepless_throwIf fun _ => stepless_throwIf

theorem stepless_checkAddOns {addOns : List ListingAddOn} (item : CreateOrderItemDto) :
    ((item.addOnIds.getD []).forM (checkAddOn addOns item.listingId)).Stepless :=
  stepless_forM (fun _ => stepless_bind stepless_orThrow fun _ => stepless_throwIf) _

/-- Scanning the selected add-ons for one of them finds the database's row. -/
theorem find?_loadedAddOns {ids : List AddOnId} {a : AddOnId} (ha : a ∈ ids) :
    (db.addOns.rows.filter fun row => row.id ∈ ids).find? (fun row => row.id = a) =
      db.addOns.find? a := by
  rw [List.find?_filter]
  show List.find? _ _ = List.find? _ _
  congr 1
  funext row
  by_cases hrow : row.id = a
  · simp [hrow, ha, Keyed.key]
  · simp [hrow, Keyed.key]

theorem accepted_rows (hacc : (loadAndValidateCart items).Returns w db cart) :
    CartRows db items cart := by
  unfold loadAndValidateCart at hacc
  simp only [returns_read_bind, returns_throwIf_bind, returns_orThrow_bind] at hacc
  obtain ⟨hlen, -, sellerId, -, profile, -, account, -, -, -, -, -, -, hacc⟩ := hacc
  rw [returns_stepless_bind (stepless_forM stepless_checkListing _)] at hacc
  obtain ⟨-, -, hacc⟩ := hacc
  -- the add-ons are read only when the cart asks for some
  unfold loadAddOns at hacc
  by_cases hempty : (items.flatMap fun i => i.addOnIds.getD []).dedup.isEmpty = true
  · rw [if_pos hempty, pure_bind, returns_stepless_bind (stepless_forM stepless_checkAddOns _)]
      at hacc
    obtain ⟨-, -, hacc⟩ := hacc
    obtain rfl := returns_pure.mp hacc
    have hnone := List.isEmpty_iff.mp hempty
    exact ⟨rfl, not_not.mp hlen, fun a ha => by rw [hnone] at ha; cases ha⟩
  · rw [if_neg hempty, returns_read_bind,
      returns_stepless_bind (stepless_forM stepless_checkAddOns _)] at hacc
    obtain ⟨-, -, hacc⟩ := hacc
    obtain rfl := returns_pure.mp hacc
    exact ⟨rfl, not_not.mp hlen, fun a ha => find?_loadedAddOns ha⟩

/-- Every line of an accepted cart is about a listing of the database that is not
deleted, and the cart holds that row. -/
theorem accepted_listing (hrows : CartRows db items cart) {item : CreateOrderItemDto}
    (hitem : item ∈ items) : ∃ l, db.listings.find? item.listingId = some l ∧ l.deletedAt = none ∧
      cart.listings.find? (fun row => row.id = item.listingId) = some l := by
  have hwanted : item.listingId ∈ (items.map CreateOrderItemDto.listingId).dedup :=
    List.mem_dedup.mpr (List.mem_map_of_mem hitem)
  have hsub : ∀ l ∈ cart.listings, l ∈ db.listings.rows ∧
      l.id ∈ (items.map CreateOrderItemDto.listingId).dedup ∧ l.deletedAt = none := by
    intro l hl
    rw [hrows.listings, List.mem_filter] at hl
    simpa using hl
  have hnodup : (cart.listings.map Listing.id).Nodup := by
    rw [hrows.listings]
    exact db.listings.nodup.sublist (List.filter_sublist.map _)
  obtain ⟨l, hl, hid⟩ :=
    mem_keys_of_length_eq hnodup (fun l hl => (hsub l hl).2.1) hrows.found hwanted
  obtain ⟨hmem, -, hdel⟩ := hsub l hl
  refine ⟨l, Table.find?_eq_some.mpr ⟨hmem, hid⟩, hdel, ?_⟩
  have hcart : (⟨cart.listings, hnodup⟩ : Table Listing).find? item.listingId = some l :=
    Table.find?_eq_some.mpr ⟨hl, hid⟩
  exact hcart

/-- Every add-on of an accepted cart is a row of the database. -/
theorem accepted_addOn (hrows : CartRows db items cart) {item : CreateOrderItemDto}
    (hitem : item ∈ items) {a : AddOnId} (ha : a ∈ item.addOnIds.getD []) :
    cart.addOns.find? (fun row => row.id = a) = db.addOns.find? a :=
  hrows.addOns a (List.mem_dedup.mpr (List.mem_flatMap.mpr ⟨item, hitem, ha⟩))

/-- The subtotal of an accepted cart is its value at the database's prices. -/
theorem computeTotals_accepted (hrows : CartRows db items cart) (choice : FulfillmentChoice) :
    computeTotals cfg items cart choice =
      priceOrder cfg (cartValue db items) cart.isPremium (choice = .delivery) := by
  unfold computeTotals cartValue
  dsimp only
  congr 2
  apply List.map_congr_left
  intro item hitem
  obtain ⟨l, hdb, -, hcart⟩ := accepted_listing hrows hitem
  have haddOns : ((item.addOnIds.getD []).map fun id =>
      ((cart.addOns.find? fun a => a.id = id).map ListingAddOn.priceDeltaCents).getD 0) =
      (item.addOnIds.getD []).map fun id =>
        ((db.addOns.find? id).map ListingAddOn.priceDeltaCents).getD 0 := by
    apply List.map_congr_left
    intro a ha
    rw [accepted_addOn hrows hitem ha]
  rw [lineCents, hcart, hdb, haddOns]

/-! ## The split -/

/-- Nobody is charged or paid a negative amount, and the commission comes out of
the subtotal. -/
structure NonNegative (totals : OrderTotals) : Prop where
  subtotal : 0 ≤ totals.subtotalCents
  sellerEarnings : 0 ≤ totals.sellerEarningsCents
  platformBuyerFee : 0 ≤ totals.platformBuyerFeeCents
  buyerTotal : 0 ≤ totals.buyerTotalCents
  commission : totals.commissionCents ≤ totals.subtotalCents

theorem mathRound_nonneg {n d : Int} (hn : 0 ≤ n) (hd : 0 < d) : 0 ≤ mathRound n d := by
  unfold mathRound
  apply Int.ediv_nonneg
  · omega
  · omega

/-- A share of at most the whole rounds to at most the whole. -/
theorem mathRound_share_le {n rate : Int} (hn : 0 ≤ n) (hrate : rate ≤ 10000) :
    mathRound (n * rate) 10000 ≤ n := by
  have hshare : n * rate ≤ n * 10000 := Int.mul_le_mul_of_nonneg_left hrate hn
  unfold mathRound
  omega

/-- The split of a non-negative subtotal: the buyer's side is never negative, and
the seller's side is not exactly when the subtotal covers the commission's floor. -/
theorem priceOrder_split {subtotal : Cents} {isPremium isDelivery : Bool} {totals : OrderTotals}
    (htotals : priceOrder cfg subtotal isPremium isDelivery = .ok totals) (hpos : 0 ≤ subtotal) :
    totals.subtotalCents = subtotal ∧ 0 ≤ totals.platformBuyerFeeCents ∧
      0 ≤ totals.buyerTotalCents ∧ commissionMinCents ≤ totals.commissionCents ∧
      totals.sellerEarningsCents = subtotal - totals.commissionCents ∧
      (totals.commissionCents ≤ subtotal ↔ commissionMinCents ≤ subtotal) := by
  have hrate : ∀ premium : Bool,
      (if premium then commissionRateBpsPremium else commissionRateBpsStandard) ≤ 10000 := by
    decide
  have hshare := mathRound_share_le hpos (hrate isPremium)
  have hfulfillment : 0 ≤ (if isDelivery then (cfg.deliveryFeeCents : Cents) else 0) := by
    split
    · exact Int.natCast_nonneg _
    · exact Int.le_refl 0
  have hfee : 0 ≤ mathRound ((subtotal + if isDelivery then (cfg.deliveryFeeCents : Cents) else 0) *
      cfg.platformBuyerFeeBps) 10000 :=
    mathRound_nonneg (Int.mul_nonneg (add_nonneg hpos hfulfillment) (Int.natCast_nonneg _))
      (by decide)
  rw [priceOrder_eq] at htotals
  cases htotals
  refine ⟨rfl, hfee, add_nonneg (add_nonneg hpos hfulfillment) hfee, le_max_right _ _, rfl, ?_⟩
  rw [max_le_iff]
  exact and_iff_right hshare

/-! ## The result -/

/-- **The money of an accepted cart.** For every cart that `loadAndValidateCart`
accepts and whose lines are together worth at least nothing, what the buyer pays
is not negative; and the seller's side is not negative either, with the commission
inside the subtotal, exactly when the lines are worth the commission's floor of
one euro. -/
theorem accepted_cart_money (hacc : (loadAndValidateCart items).Returns w db cart)
    (hvalue : 0 ≤ cartValue db items) (choice : FulfillmentChoice) :
    ∃ totals, computeTotals cfg items cart choice = .ok totals ∧
      totals.subtotalCents = cartValue db items ∧ 0 ≤ totals.platformBuyerFeeCents ∧
      0 ≤ totals.buyerTotalCents ∧ commissionMinCents ≤ totals.commissionCents ∧
      (NonNegative totals ↔ commissionMinCents ≤ cartValue db items) := by
  obtain ⟨totals, htotals, -⟩ :=
    priceOrder_ok cfg (cartValue db items) cart.isPremium (choice = .delivery)
  obtain ⟨hsubtotal, hfee, htotal, hfloor, hearnings, hcommission⟩ := priceOrder_split htotals hvalue
  refine ⟨totals, (computeTotals_accepted (accepted_rows hacc) choice).trans htotals, hsubtotal,
    hfee, htotal, hfloor, ?_⟩
  constructor
  · intro h
    rw [← hcommission, ← hsubtotal]
    exact h.commission
  · intro h
    have hle : totals.commissionCents ≤ cartValue db items := hcommission.mpr h
    have hpaid : 0 ≤ totals.sellerEarningsCents := by
      rw [hearnings]
      exact Int.sub_nonneg_of_le hle
    exact ⟨hsubtotal ▸ hvalue, hpaid, hfee, htotal, hsubtotal ▸ hle⟩

/-- The small marketplace, with a dish of 50 cents. -/
def snackTown : Db :=
  { smallTown with listings := ⟨[⟨⟨0, 110⟩, ⟨0, 101⟩, "Biscuit", [], 50, some 5, true, none, .both, none⟩],
      by decide⟩ }

def snackCart : List CreateOrderItemDto := [⟨⟨0, 110⟩, 1, none, none, one_portion⟩]

theorem snackCart_accepted :
    (loadAndValidateCart snackCart).Returns (fun _ => ⟨true, "token", ""⟩) snackTown
      ⟨snackTown.listings.rows, [], ⟨0, 101⟩, false⟩ := rfl

theorem snackCart_money : ∃ totals, computeTotals smallTownConfig snackCart
      ⟨snackTown.listings.rows, [], ⟨0, 101⟩, false⟩ .pickup = .ok totals ∧
    totals.subtotalCents = cartValue snackTown snackCart ∧ 0 ≤ totals.platformBuyerFeeCents ∧
    0 ≤ totals.buyerTotalCents ∧ commissionMinCents ≤ totals.commissionCents ∧
    (NonNegative totals ↔ commissionMinCents ≤ cartValue snackTown snackCart) :=
  accepted_cart_money snackCart_accepted (by decide) .pickup

/-- A cart of one dish of 50 cents is accepted, and its commission of one euro
leaves the seller with less than nothing. -/
theorem snackCart_negative : (∀ l ∈ snackTown.listings.rows, 0 ≤ l.priceCents) ∧
    ∃ cart totals, (loadAndValidateCart snackCart).Returns (fun _ => ⟨true, "token", ""⟩) snackTown
        cart ∧
      computeTotals smallTownConfig snackCart cart .pickup = .ok totals ∧
      totals.commissionCents = 100 ∧ totals.sellerEarningsCents = -50 ∧ ¬NonNegative totals := by
  refine ⟨by decide, _, ⟨50, 0, 3000, 100, -50, 3, 53⟩, snackCart_accepted, by decide, rfl, rfl, ?_⟩
  intro h
  exact absurd h.sellerEarnings (by decide)

end IncaCook
