import IncaCook.Model.Feed
import IncaCook.Model.System
import Mathlib.Data.List.Dedup

/-!
# What the feed shows can be bought

The rule that says which listings are live is written twice: as the where clause
of the feed, and as the checks that a cart goes through before an order.

Main results:

* `visible_iff_buyable`: for a listing whose seller has set a delivery fee, the
  two agree in every state;
* `feed_buyable`: whatever its filters, the feed selects nothing that a cart
  would refuse.
-/

namespace IncaCook

open Prog Orders Listings

/-! ## The cart of one listing -/

/-- One portion, without add-ons. -/
def OnePortion (l : Listing) (item : CreateOrderItemDto) : Prop :=
  item.listingId = l.id ∧ item.quantity = 1 ∧ item.addOnIds.getD [] = []

/-- What `loadAndValidateCart` asks of the seller of a listing and of the listing. -/
structure Buyable (now : Time) (l : Listing) (sp : SellerProfile) (u : User) : Prop where
  notDeleted : l.deletedAt = none
  available : l.isAvailable = true
  unexpired : ¬l.expiresAt.any (· ≤ now)
  approved : sp.kycStatus = .approved
  account : u.deletedAt = none
  notSuspended : u.isSuspended = false
  subscribed : isSubscriptionActive sp.subscriptionStatus sp.subscriptionCurrentPeriodEnd now = true
  fee : sp.deliveryFeeCents ≠ none

variable {db : Db} {l : Listing}

theorem succeeds_checkListing_bind {now : Time} {β : Type} {k : Unit → Handler β}
    {w : Nat → Answer} :
    (checkListing now l >>= k).Succeeds w db ↔
      l.deletedAt = none ∧ l.isAvailable = true ∧ ¬l.expiresAt.any (· ≤ now) ∧
        (k ()).Succeeds w db := by
  unfold checkListing
  simp only [bind_assoc]
  rw [succeeds_throwIf_bind, succeeds_throwIf_bind, succeeds_throwIf_bind]
  simp

/-- The cart's query finds the listing unless it is soft-deleted. -/
theorem cart_listings (hl : l ∈ db.listings.rows) :
    (db.listings.rows.filter fun l' => l'.id ∈ [l.id] && l'.deletedAt.isNone) =
      if l.deletedAt = none then [l] else [] := by
  have hscan : (db.listings.rows.filter fun l' => l'.id = l.id && l'.deletedAt.isNone) =
      ((db.listings.find? l.id).filter fun l' => l'.deletedAt.isNone).toList :=
    db.listings.filter_key l.id fun l' => l'.deletedAt.isNone
  have hfound : db.listings.find? l.id = some l := Table.find?_of_mem hl
  rw [hfound] at hscan
  simp only [List.mem_singleton]
  rw [hscan]
  by_cases hdel : l.deletedAt = none
  · simp [hdel, Option.filter]
  · simp [hdel, Option.filter]

theorem dedup_singleton {α : Type} [DecidableEq α] (a : α) : [a].dedup = [a] :=
  List.dedup_eq_self.mpr (List.nodup_singleton a)

theorem forM_singleton {α : Type} (f : α → Handler Unit) (a : α) : [a].forM f = f a := by
  show (f a >>= fun _ => pure ()) = f a
  exact bind_pure_unit

/-- Without add-ons, the checks that follow the seller's are those of the listing. -/
theorem succeeds_checks {item : CreateOrderItemDto} (hadd : item.addOnIds.getD [] = [])
    {now : Time} {c : List ListingAddOn → Cart} {w : Nat → Answer} :
    Succeeds (do
      [l].forM (checkListing now)
      let addOns ← loadAddOns (List.flatMap (fun i => i.addOnIds.getD []) [item]).dedup
      [item].forM fun i => (i.addOnIds.getD []).forM (checkAddOn addOns i.listingId)
      pure (c addOns)) w db ↔
      l.deletedAt = none ∧ l.isAvailable = true ∧ ¬l.expiresAt.any (· ≤ now) := by
  have hnone : loadAddOns (List.flatMap (fun i => i.addOnIds.getD []) [item]).dedup = pure [] := by
    rw [List.flatMap_cons, hadd]
    rfl
  have hlines : ∀ addOns, ([item].forM fun i =>
      (i.addOnIds.getD []).forM (checkAddOn addOns i.listingId)) = pure () := by
    intro addOns
    rw [forM_singleton, hadd]
    rfl
  rw [forM_singleton, succeeds_checkListing_bind, hnone]
  simp only [pure_bind, hlines]
  have hdone : (pure (c []) : Handler Cart).Succeeds w db := succeeds_pure _
  simp only [hdone, and_true]

theorem succeeds_loadAndValidateCart {item : CreateOrderItemDto} (hl : l ∈ db.listings.rows)
    (hitem : OnePortion l item) {w : Nat → Answer} :
    (loadAndValidateCart [item]).Succeeds w db ↔
      ∃ sp u, db.sellerProfiles.find? l.sellerId = some sp ∧ db.users.find? l.sellerId = some u ∧
        Buyable db.now l sp u := by
  obtain ⟨hid, -, hadd⟩ := hitem
  unfold loadAndValidateCart
  rw [succeeds_read_bind]
  simp only [List.map_cons, List.map_nil, hid, dedup_singleton]
  rw [cart_listings hl, succeeds_throwIf_bind]
  by_cases hdel : l.deletedAt = none
  · rw [if_pos hdel]
    simp only [List.map_cons, List.map_nil, dedup_singleton]
    rw [succeeds_throwIf_bind, succeeds_orThrow_bind]
    simp only [List.head?_cons, succeeds_read_bind, succeeds_orThrow_bind, succeeds_throwIf_bind,
      succeeds_checks hadd]
    constructor
    · rintro ⟨-, -, sellerId, hsid, sp, hsp, u, hu, hkyc, hdeleted, hsusp, hsub, hfee, hchecks⟩
      cases hsid
      exact ⟨sp, u, hsp, hu, hdel, hchecks.2.1, hchecks.2.2, not_not.mp hkyc,
        by simpa using hdeleted, by simpa using hsusp, by simpa using hsub, hfee⟩
    · rintro ⟨sp, u, hsp, hu, h⟩
      exact ⟨by simp, by simp, l.sellerId, rfl, sp, hsp, u, hu, not_not.mpr h.approved,
        by simp [h.account], by simp [h.notSuspended], by simp [h.subscribed], h.fee,
        hdel, h.available, h.unexpired⟩
  · -- a soft-deleted listing is not found
    rw [if_neg hdel]
    constructor
    · rintro ⟨hfound, -⟩
      exact absurd (by simp) hfound
    · rintro ⟨sp, u, -, -, h⟩
      exact absurd h.notDeleted hdel
/-! ## The feed -/

/-- The two spellings of "not expired yet". -/
theorem after_iff {o : Option Time} {now : Time} :
    (o.isNone || o.any (now < ·)) = true ↔ ¬o.any (· ≤ now) := by
  cases o with
  | none => simp
  | some t => simp

theorem subscription_iff {status : SubscriptionStatus} {periodEnd : Option Time} {now : Time} :
    isSubscriptionActive status periodEnd now = true ↔
      status ∈ [SubscriptionStatus.active, SubscriptionStatus.trialing] ∧
        (periodEnd.isNone || periodEnd.any (now < ·)) = true := by
  rw [after_iff]
  simp [isSubscriptionActive]

/-- The where clause, as what a cart asks without the delivery fee. -/
theorem visibility_iff {now : Time} {r : FeedRow} (hfee : r.sp.deliveryFeeCents ≠ none) :
    (visibility now r).all id = true ↔ Buyable now r.l r.sp r.u := by
  simp only [visibility, List.all_cons, List.all_nil, id_eq, Bool.and_true, Bool.and_eq_true,
    decide_eq_true_eq, after_iff, Option.isNone_iff_eq_none]
  constructor
  · rintro ⟨hdel, havail, hexp, hkyc, hstatus, hperiod, hacct, hsusp⟩
    exact ⟨hdel, havail, hexp, hkyc, hacct, hsusp,
      subscription_iff.mpr ⟨hstatus, after_iff.mpr hperiod⟩, hfee⟩
  · intro h
    obtain ⟨hstatus, hperiod⟩ := subscription_iff.mp h.subscribed
    exact ⟨h.notDeleted, h.available, h.unexpired, h.approved, hstatus, after_iff.mp hperiod,
      h.account, h.notSuspended⟩

/-- The join pairs a listing with its seller's profile and account. -/
theorem feedRow_eq_some {r : FeedRow} : feedRow db l = some r ↔
    r.l = l ∧ db.sellerProfiles.find? l.sellerId = some r.sp ∧
      db.users.find? l.sellerId = some r.u := by
  have hkey : ∀ sp, db.sellerProfiles.find? l.sellerId = some sp → sp.userId = l.sellerId :=
    fun sp hsp => Table.key_of_find? hsp
  obtain ⟨l', sp', u'⟩ := r
  unfold feedRow
  simp only [Option.bind_eq_bind, Option.bind_eq_some_iff, Option.pure_def, Option.some.injEq,
    FeedRow.mk.injEq]
  constructor
  · rintro ⟨sp, hsp, u, hu, rfl, rfl, rfl⟩
    rw [hkey sp hsp] at hu
    exact ⟨rfl, hsp, hu⟩
  · rintro ⟨rfl, hsp, hu⟩
    exact ⟨sp', hsp, u', by rw [hkey sp' hsp]; exact hu, rfl, rfl, rfl⟩

/-- **What the feed shows can be bought, and what can be bought is shown.** For a
listing whose seller has set a delivery fee, the fixed conditions of the feed's
where clause hold exactly when a cart of one portion of it, without add-ons,
passes `loadAndValidateCart` at the same time. -/
theorem visible_iff_buyable {sp : SellerProfile} {item : CreateOrderItemDto}
    (hl : l ∈ db.listings.rows) (hsp : db.sellerProfiles.find? l.sellerId = some sp)
    (hfee : sp.deliveryFeeCents ≠ none) (hitem : OnePortion l item) (w : Nat → Answer) :
    visible db l = true ↔ ∃ cart, ((loadAndValidateCart [item]).exec w db).result = .ok cart := by
  have hcart : (∃ cart, ((loadAndValidateCart [item]).exec w db).result = .ok cart) ↔ _ :=
    succeeds_loadAndValidateCart hl hitem
  rw [hcart, visible, Option.any_eq_true]
  constructor
  · rintro ⟨⟨l', sp', u⟩, hrow, hvis⟩
    obtain ⟨rfl, hsp', hu⟩ := feedRow_eq_some.mp hrow
    have heq : sp' = sp := Option.some.inj (hsp'.symm.trans hsp)
    exact ⟨sp', u, hsp', hu, (visibility_iff (heq ▸ hfee)).mp hvis⟩
  · rintro ⟨sp', u, hsp', hu, h⟩
    exact ⟨⟨l, sp', u⟩, feedRow_eq_some.mpr ⟨rfl, hsp', hu⟩, (visibility_iff h.fee).mpr h⟩

/-- The dish of the small marketplace is shown and can be bought. -/
theorem couscous_visible_iff_buyable :
    visible smallTown ⟨⟨0, 110⟩, ⟨0, 101⟩, "Couscous", [], 10000, some 5, true, none, .both, none⟩ =
        true ↔
      ∃ cart, ((loadAndValidateCart [⟨⟨0, 110⟩, 1, none, none, by decide⟩]).exec
        (fun _ => ⟨true, "token", ""⟩) smallTown).result = .ok cart :=
  visible_iff_buyable (by decide) rfl (by decide) ⟨rfl, rfl, rfl⟩ _

/-- Whatever its filters, the feed selects only dishes that a cart accepts. -/
theorem feed_buyable {query : ListFeedQueryDto} {r : FeedRow} {item : CreateOrderItemDto}
    (hr : r ∈ feed db query) (hfee : r.sp.deliveryFeeCents ≠ none) (hitem : OnePortion r.l item)
    (w : Nat → Answer) : (loadAndValidateCart [item]).Succeeds w db := by
  unfold feed at hr
  rw [List.mem_filter, List.mem_filterMap] at hr
  obtain ⟨⟨l, hl, hrow⟩, hcond⟩ := hr
  obtain ⟨rfl, hsp, hu⟩ := feedRow_eq_some.mp hrow
  have hvis : (visibility db.now r).all id = true := by
    rw [List.all_append, Bool.and_eq_true] at hcond
    exact hcond.1
  exact (succeeds_loadAndValidateCart hl hitem).mpr
    ⟨r.sp, r.u, hsp, hu, (visibility_iff hfee).mp hvis⟩

end IncaCook
