import IncaCook.Library.Outcomes
import IncaCook.Model.Listings

/-!
# What the listing calls do

`KycDb.gate` is what `assertSeller` asks of the caller, `EditAccepted` what `update` asks of
a body, and `Published` what `create` does. Each call, run alone, is reduced to the listings
that it leaves: `ListingMove` has one case for each way of writing a row.
-/

namespace IncaCook

open Prog Listings

variable {db db' : ListingDb} {kyc : KycDb} {w : Nat → Answer} {me : Nat} {supabaseId : String}
  {id : ListingId} {sellerId : UserId} {l : ListingRecord} {opts : AssertSellerOptions}

/-! ## The gate -/

/-- The seller behind a token, if they may edit listings. -/
def KycDb.gate (kyc : KycDb) (supabaseId : String) (opts : AssertSellerOptions) : Option AssertedSeller :=
  (kyc.userBySupabaseId supabaseId).bind fun user =>
    ((kyc.sellerProfiles.find? user.id).filter fun p =>
      user.role = .seller && (!opts.requireKycApproved || p.kycStatus = .approved) &&
        (!opts.requireActiveSubscription ||
          Orders.isSubscriptionActive p.subscriptionStatus p.subscriptionCurrentPeriodEnd kyc.now)).map
      fun p => ⟨user.id, p, user.isSuspended⟩

theorem KycDb.gate_eq_some {s : AssertedSeller} : kyc.gate supabaseId opts = some s ↔
    ∃ user, kyc.userBySupabaseId supabaseId = some user ∧ user.role = .seller ∧
      kyc.sellerProfiles.find? user.id = some s.profile ∧ s.sellerId = user.id ∧
      s.isSuspended = user.isSuspended ∧ (opts.requireKycApproved = true → s.profile.kycStatus = .approved) ∧
      (opts.requireActiveSubscription = true → Orders.isSubscriptionActive s.profile.subscriptionStatus
        s.profile.subscriptionCurrentPeriodEnd kyc.now = true) := by
  unfold gate
  simp only [Option.bind_eq_some_iff, Option.map_eq_some_iff, Option.filter_eq_some_iff, Bool.and_eq_true,
    Bool.or_eq_true, Bool.not_eq_true', decide_eq_true_eq]
  have himp : ∀ (b : Bool) (c : Prop), (b = false ∨ c) ↔ (b = true → c) := by
    intro b c
    cases b <;> simp
  simp only [himp]
  constructor
  · rintro ⟨user, huser, p, ⟨hp, ⟨hrole, hkyc⟩, hactive⟩, rfl⟩
    exact ⟨user, huser, hrole, hp, rfl, rfl, hkyc, hactive⟩
  · rintro ⟨user, huser, hrole, hp, hid, hsuspended, hkyc, hactive⟩
    refine ⟨user, huser, s.profile, ⟨hp, ⟨hrole, hkyc⟩, hactive⟩, ?_⟩
    rw [← hid, ← hsuspended]

/-- **Whom `assertSeller` lets through**: it only reads. -/
theorem assertSeller_ends {s : AssertedSeller} {kyc' : KycDb} :
    (assertSeller supabaseId opts).Ends w kyc s kyc' ↔ kyc.gate supabaseId opts = some s ∧ kyc' = kyc := by
  unfold assertSeller Kyc.accountBySupabaseId
  simp only [ends_read_bind, ends_orThrow_bind, ends_throwIf_bind, ends_pure, KycDb.gate_eq_some,
    Option.map_eq_some_iff]
  constructor
  · rintro ⟨_, ⟨user, huser, rfl⟩, hrole, p, hp, hkyc, hactive, rfl, rfl⟩
    refine ⟨⟨user, huser, not_not.mp hrole, hp, rfl, rfl, ?_, ?_⟩, rfl⟩
    · exact fun h => not_not.mp fun hne => hkyc ⟨h, hne⟩
    · exact fun h => Bool.eq_true_of_not_eq_false fun hne => hactive ⟨h, hne⟩
  · rintro ⟨⟨user, huser, hrole, hp, hid, hsuspended, hkyc, hactive⟩, rfl⟩
    refine ⟨_, ⟨user, huser, rfl⟩, not_not.mpr hrole, s.profile, hp, ?_, ?_, ?_, rfl⟩
    · rintro ⟨h, hne⟩
      exact hne (hkyc h)
    · rintro ⟨h, hne⟩
      rw [hactive h] at hne
      cases hne
    · rw [← hid, ← hsuspended]

theorem assertSeller_state : ((assertSeller supabaseId opts).exec w kyc).state = kyc := by
  unfold assertSeller
  -- one read, then checks
  rw [state_read_bind]
  refine state_of_stepless (stepless_bind stepless_orThrow fun account => ?_)
  refine stepless_bind stepless_throwIf fun _ => stepless_bind stepless_orThrow fun p => ?_
  exact stepless_bind stepless_throwIf fun _ => stepless_bind stepless_throwIf fun _ => ⟨_, rfl⟩

theorem gate_ends {s : AssertedSeller} :
    ((assertSeller supabaseId opts).within listingKycPart).Ends w db s db' ↔
      db.kyc.gate supabaseId opts = some s ∧ db' = db := by
  rw [ends_within (fun _ => rfl) (fun _ _ _ => rfl)]
  simp only [assertSeller_ends]
  constructor
  · rintro ⟨kyc', ⟨hgate, rfl⟩, rfl⟩
    exact ⟨hgate, rfl⟩
  · rintro ⟨hgate, rfl⟩
    exact ⟨db'.kyc, ⟨hgate, rfl⟩, rfl⟩

theorem gate_state : (((assertSeller supabaseId opts).within listingKycPart).exec w db).state = db :=
  state_within_of_same (fun _ => rfl) (fun _ _ _ => rfl) fun _ => assertSeller_state

/-- The seller's listing, if it is not deleted. -/
def ListingDb.own (db : ListingDb) (sellerId : UserId) (id : ListingId) : Option ListingRecord :=
  (db.listings.find? id).filter fun l => l.deletedAt = none && l.sellerId = sellerId

theorem ListingDb.own_eq_some : db.own sellerId id = some l ↔
    db.listings.find? id = some l ∧ l.deletedAt = none ∧ l.sellerId = sellerId := by
  simp [own, Option.filter_eq_some_iff]

theorem ownListing_ends {refusal : String} :
    (ownListing sellerId id refusal).Ends w db l db' ↔ db.own sellerId id = some l ∧ db' = db := by
  unfold ownListing
  simp only [ends_read_bind, ends_orThrow_bind, ends_throwIf_bind, ends_pure,
    ListingDb.own_eq_some, Option.filter_eq_some_iff, decide_eq_true_eq, not_not]
  constructor
  · rintro ⟨_, ⟨hfound, hlive⟩, hseller, rfl, rfl⟩
    exact ⟨⟨hfound, hlive, hseller⟩, rfl⟩
  · rintro ⟨⟨hfound, hlive, hseller⟩, rfl⟩
    exact ⟨l, ⟨hfound, hlive⟩, hseller, rfl, rfl⟩

theorem ownListing_state {refusal : String} : ((ownListing sellerId id refusal).exec w db).state = db := by
  unfold ownListing
  rw [state_read_bind]
  exact state_of_stepless (stepless_bind stepless_orThrow fun _ => stepless_bind stepless_throwIf fun _ => ⟨_, rfl⟩)

/-! ## Rules -/

/-- What a listing declares about allergens: one of the list, or a text. -/
def DeclaresAllergens (allergens : List Allergen) (otherAllergens : Option String) : Prop :=
  allergens ≠ [] ∨ hasOther otherAllergens = true

instance (allergens : List Allergen) (otherAllergens : Option String) :
    Decidable (DeclaresAllergens allergens otherAllergens) :=
  inferInstanceAs (Decidable (_ ∨ _))

def ListingRecord.Declares (l : ListingRecord) : Prop := DeclaresAllergens l.allergens l.otherAllergens

instance (l : ListingRecord) : Decidable l.Declares :=
  inferInstanceAs (Decidable (DeclaresAllergens l.allergens l.otherAllergens))

/-- The rules of publication, but for the allergens. -/
structure ListingRecord.FollowsRules (l : ListingRecord) : Prop where
  images : l.imageUrls.length ≤ 4
  price : ∀ original, l.originalPriceCents = some original → l.priceCents ≤ original
  faitMaison : l.category = .faitMaison →
    l.priceCents ≤ faitMaisonPriceCapCents ∧ l.portionsLeft.isSome ∧ l.expiresAt.isSome
  dishTypes : ∀ t ∈ l.dishTypes, t ∈ dishTypesByCategory l.category

/-! ## Checks -/

theorem except_bind_ok {ε α β : Type} {x : Except ε α} {f : α → Except ε β} {b : β} :
    (x >>= f) = .ok b ↔ ∃ a, x = .ok a ∧ f a = .ok b := by
  cases x with
  | ok a => simp [bind, Except.bind]
  | error e => simp [bind, Except.bind]

theorem except_seq_ok {ε β : Type} {x : Except ε Unit} {f : Unit → Except ε β} {b : β} :
    (x >>= f) = .ok b ↔ x = .ok () ∧ f () = .ok b := by
  rw [except_bind_ok]
  exact ⟨fun ⟨_, hx, hf⟩ => ⟨hx, hf⟩, fun ⟨hx, hf⟩ => ⟨(), hx, hf⟩⟩

/-- A check that fails when the condition holds, and goes on otherwise. -/
theorem check_ok {ε : Type} {c : Prop} [Decidable c] {e : ε} {x : Except ε Unit} :
    (if c then .error e else x) = .ok () ↔ ¬c ∧ x = .ok () := by
  split
  · rename_i hc
    exact iff_of_false (fun h => by cases h) fun h => h.1 hc
  · rename_i hc
    exact (and_iff_right hc).symm

theorem validateListingShape_ok {urls : List String} {price : Cents} {original : Option Cents}
    {discount : Option Int} {category : Option SellerCategory} :
    validateListingShape ⟨some urls, some price, original, discount, category⟩ = .ok () ↔
      urls.length ≤ 4 ∧ ∀ o, original = some o → price ≤ o := by
  unfold validateListingShape
  rw [check_ok, check_ok]
  cases original with
  | none => simp
  | some o => simp

theorem validateCategoryShape_ok {δ : Type} {price : Cents} {portions : Option Int} {expiresAt : Option δ}
    {dishTypes : Option (List DishType)} {category : SellerCategory} :
    validateCategoryShape ⟨some price, portions, expiresAt, dishTypes⟩ category = .ok () ↔
      (category = .faitMaison → price ≤ faitMaisonPriceCapCents ∧ portions.isSome ∧ expiresAt.isSome) ∧
        ∀ t ∈ dishTypes.getD [], t ∈ dishTypesByCategory category := by
  unfold validateCategoryShape
  dsimp only
  rw [check_ok, check_ok, check_ok, check_ok]
  have hinvalid : ¬0 < ((dishTypes.getD []).filter (· ∉ dishTypesByCategory category)).length ↔
      ∀ t ∈ dishTypes.getD [], t ∈ dishTypesByCategory category := by
    simp [List.length_pos_iff_exists_mem]
  rw [hinvalid]
  by_cases hfait : category = .faitMaison
  · simp [hfait, Option.isSome_iff_ne_none, and_assoc]
  · simp [hfait]

theorem validateAllergens_ok {allergens : Option (List Allergen)} {other : Option String} {declaresNone : Option Bool} :
    validateAllergens allergens other declaresNone = .ok () ↔
      (declaresNone = some true ↔ ¬DeclaresAllergens (allergens.getD []) other) := by
  unfold validateAllergens DeclaresAllergens
  have hreal : (decide (0 < (allergens.getD []).length) = true) ↔ allergens.getD [] ≠ [] := by
    rw [decide_eq_true_eq, List.length_pos_iff]
  dsimp only
  split
  · rename_i hnone
    rw [check_ok, Bool.or_eq_true, hreal]
    simp [hnone]
  · rename_i hnone
    rw [check_ok, Bool.and_eq_true, Bool.not_eq_true', Bool.not_eq_true', ← Bool.not_eq_true, ← Bool.not_eq_true, hreal]
    simp only [hnone, false_iff, not_not, and_true]
    exact not_and_or.trans (by rw [not_not])

/-- The expiry that a body asks for, if it parses. -/
def parsedExpiresAt (expiresAt : Sent (Option ℤ)) (now : Time) : Sent Time :=
  match parseExpiresAt expiresAt now with
  | .ok expiresAt => expiresAt
  | .error _ => .missing

@[simp] theorem parsedExpiresAt_missing (now : Time) : parsedExpiresAt .missing now = .missing := rfl

/-- The listing that an update leaves. -/
def ListingRecord.edited (l : ListingRecord) (dto : UpdateListingDto) (now : Time) : ListingRecord :=
  patched dto (parsedExpiresAt dto.expiresAt now) l

/-- The listings that an update leaves. -/
def ListingDb.edited (db : ListingDb) (id : ListingId) (dto : UpdateListingDto) : Table ListingRecord :=
  db.listings.update id fun l => l.edited dto db.kyc.now

/-- **What an update is validated on**: the listing that it leaves, but for a text that it
takes away. -/
theorem validateUpdate_ok {dto : UpdateListingDto} {now : Time} (hdishTypes : dto.dishTypes.isNull = false) :
    validateUpdate l dto now = .ok () ↔
      parseExpiresAt dto.expiresAt now = .ok (parsedExpiresAt dto.expiresAt now) ∧
        (l.edited dto now).FollowsRules ∧ (dto.declaresNoAllergens.orNull = some true ↔
          ¬DeclaresAllergens (dto.allergens.getD l.allergens) (dto.otherAllergens.orNull <|> l.otherAllergens)) := by
  have hdish : (dto.dishTypes.written (some l.dishTypes)).getD [] = dto.dishTypes.getD l.dishTypes := by
    cases hd : dto.dishTypes with
    | missing => rfl
    | null =>
      rw [hd] at hdishTypes
      cases hdishTypes
    | value dishTypes => rfl
  unfold validateUpdate mergeForValidation ListingRecord.edited parsedExpiresAt
  cases hparse : parseExpiresAt dto.expiresAt now with
  | error e => exact iff_of_false (fun h => by cases h) fun h => by cases h.1
  | ok expiresAt =>
    change (validateListingShape _ >>= fun _ => validateCategoryShape _ _ >>= fun _ => validateAllergens _ _ _) =
      .ok () ↔ _
    rw [except_seq_ok, except_seq_ok, validateListingShape_ok, validateCategoryShape_ok, validateAllergens_ok, hdish]
    constructor
    · rintro ⟨⟨himages, hprice⟩, ⟨hfait, htypes⟩, hallergens⟩
      exact ⟨rfl, ⟨himages, hprice, hfait, htypes⟩, hallergens⟩
    · rintro ⟨-, ⟨himages, hprice, hfait, htypes⟩, hallergens⟩
      exact ⟨⟨himages, hprice⟩, ⟨hfait, htypes⟩, hallergens⟩

/-! ## Updates -/

/-- The extras of a body can be written. -/
def Listings.UpdateListingDto.extrasFit (dto : UpdateListingDto) : Bool :=
  match dto.extras with
  | .missing => true
  | .null => false
  | .value extras => extras.all fun e => fitsInt e.priceDeltaCents

/-- The body is accepted as an update of `l`: it comes from the seller, whom the gate lets
through, the result is valid, and the database can store it. -/
structure EditAccepted (db : ListingDb) (supabaseId : String) (id : ListingId) (dto : UpdateListingDto)
    (l : ListingRecord) : Prop where
  own : ∃ s, db.kyc.gate supabaseId ⟨true, true⟩ = some s ∧ db.own s.sellerId id = some l
  valid : validateUpdate l dto db.kyc.now = .ok ()
  sets : dto.unsets = false
  storable : (l.edited dto db.kyc.now).storable = true
  extras : dto.extrasFit = true

theorem EditAccepted.found {dto : UpdateListingDto} (h : EditAccepted db supabaseId id dto l) :
    db.listings.find? id = some l := by
  obtain ⟨s, -, hown⟩ := h.own
  exact (ListingDb.own_eq_some.mp hown).1

theorem dishTypes_of_sets {dto : UpdateListingDto} (hsets : dto.unsets = false) : dto.dishTypes.isNull = false := by
  simp only [UpdateListingDto.unsets, Bool.or_eq_false_iff] at hsets
  exact hsets.1.1.1.1.1.1.2

theorem updateListing_ok {f : ListingRecord → ListingRecord} {hf : ∀ l, (f l).id = l.id} {u : Unit} :
    Listings.updateListing id f hf db = .ok (u, db') ↔ ∃ l, db.listings.find? id = some l ∧ (f l).storable = true ∧
      db' = { db with listings := db.listings.update id f hf } := by
  unfold Listings.updateListing
  simp only [Stmt.bind_ok, Stmt.get_ok, Stmt.orThrow_ok, Stmt.throwIf_ok, Stmt.set_ok, Bool.not_eq_false]
  constructor
  · rintro ⟨_, _, ⟨rfl, rfl⟩, l, _, ⟨hfound, rfl⟩, _, _, ⟨hstorable, rfl⟩, rfl⟩
    exact ⟨l, hfound, hstorable, rfl⟩
  · rintro ⟨l, hfound, hstorable, rfl⟩
    exact ⟨db, db, ⟨rfl, rfl⟩, l, db, ⟨hfound, rfl⟩, (), db, ⟨hstorable, rfl⟩, rfl⟩

theorem replaceExtras_ok {extras : List CreateListingAddOnDto} {u : Unit} :
    replaceExtras me id extras db = .ok (u, db') ↔ (extras.all fun e => fitsInt e.priceDeltaCents) = true ∧
      db' = { db with
        addOns := db.addOns ++ extras.zipIdx.map fun (e, idx) =>
          ⟨⟨⟨me, idx + 1⟩, id, e.label, e.priceDeltaCents⟩, e.isSelectedByDefault.getD false, idx⟩ } := by
  unfold replaceExtras
  simp only [Stmt.bind_ok, Stmt.throwIf_ok, Stmt.modify_ok, Bool.not_eq_true, List.any_eq_false,
    Bool.not_eq_true', Bool.not_eq_false, List.all_eq_true]
  constructor
  · rintro ⟨_, _, ⟨hfit, rfl⟩, rfl⟩
    exact ⟨hfit, rfl⟩
  · rintro ⟨hfit, rfl⟩
    exact ⟨(), db, ⟨hfit, rfl⟩, rfl⟩

theorem loadWithAddOns_ok {r : ListingWithAddOns} :
    loadWithAddOns id db = .ok (r, db') ↔
      (∃ l, db.listings.find? id = some l ∧ r = (l, db.addOns.filter (·.listingId = id))) ∧ db' = db := by
  unfold loadWithAddOns
  simp only [Stmt.bind_ok, Stmt.get_ok, Stmt.orThrow_ok, Stmt.pure_ok]
  constructor
  · rintro ⟨_, _, ⟨rfl, rfl⟩, l, _, ⟨hfound, rfl⟩, rfl, rfl⟩
    exact ⟨⟨l, hfound, rfl⟩, rfl⟩
  · rintro ⟨⟨l, hfound, rfl⟩, rfl⟩
    exact ⟨db', db', ⟨rfl, rfl⟩, l, db', ⟨hfound, rfl⟩, rfl, rfl⟩

/-- The extras that a body sends, in their place. -/
def extrasTx (me : Nat) (id : ListingId) (dto : UpdateListingDto) : ListingTx Unit :=
  match dto.extras with
  | .missing => pure ()
  | .null => throw (.http (.internal "Cannot read properties of null (reading 'length')"))
  | .value extras => do
    clearExtras id
    replaceExtras me id extras

theorem extrasTx_ok {dto : UpdateListingDto} {u : Unit} (hrun : extrasTx me id dto db = .ok (u, db')) :
    dto.extrasFit = true ∧ ∃ addOns, db' = { db with addOns } := by
  unfold extrasTx at hrun
  unfold UpdateListingDto.extrasFit
  cases hextras : dto.extras with
  | missing =>
    rw [hextras] at hrun
    obtain ⟨-, rfl⟩ := Stmt.pure_ok.mp hrun
    exact ⟨rfl, db'.addOns, rfl⟩
  | null =>
    rw [hextras] at hrun
    cases hrun
  | value extras =>
    rw [hextras] at hrun
    obtain ⟨_, _, hclear, hrun⟩ := Stmt.bind_ok.mp hrun
    obtain rfl := Stmt.modify_ok.mp hclear
    obtain ⟨hfit, rfl⟩ := replaceExtras_ok.mp hrun
    exact ⟨hfit, _, rfl⟩

theorem exists_extrasTx {dto : UpdateListingDto} (hfit : dto.extrasFit = true) :
    ∃ db', extrasTx me id dto db = .ok ((), db') := by
  unfold UpdateListingDto.extrasFit at hfit
  unfold extrasTx
  cases hextras : dto.extras with
  | missing => exact ⟨db, rfl⟩
  | null =>
    rw [hextras] at hfit
    cases hfit
  | value extras =>
    rw [hextras] at hfit
    exact ⟨_, Stmt.bind_ok.mpr ⟨_, _, rfl, replaceExtras_ok.mpr ⟨hfit, rfl⟩⟩⟩

theorem patchWithExtras_ok {dto : UpdateListingDto} {expiresAt : Sent Time} {r : ListingWithAddOns} :
    patchWithExtras me id dto expiresAt db = .ok (r, db') ↔
      dto.unsets = false ∧ (∃ l, db.listings.find? id = some l ∧ (patched dto expiresAt l).storable = true) ∧
        ∃ db₁, extrasTx me id dto { db with
            listings := db.listings.update id (patched dto expiresAt) } = .ok ((), db₁) ∧
          loadWithAddOns id db₁ = .ok (r, db') := by
  have hpatch : patchWithExtras me id dto expiresAt db =
      (do
        Stmt.throwIf (dto.unsets = true) (.http .database)
        Listings.updateListing id (patched dto expiresAt)
        extrasTx me id dto
        loadWithAddOns id : ListingTx ListingWithAddOns) db := by
    unfold patchWithExtras extrasTx
    cases dto.extras with
    | missing => rfl
    | null => rfl
    | value extras => rfl
  rw [hpatch]
  simp only [Stmt.bind_ok, Stmt.throwIf_ok, updateListing_ok, Bool.not_eq_true]
  constructor
  · rintro ⟨_, _, ⟨hsets, rfl⟩, _, _, ⟨l, hfound, hstorable, rfl⟩, _, db₁, hextras, hload⟩
    exact ⟨hsets, ⟨l, hfound, hstorable⟩, db₁, hextras, hload⟩
  · rintro ⟨hsets, ⟨l, hfound, hstorable⟩, db₁, hextras, hload⟩
    exact ⟨(), db, ⟨hsets, rfl⟩, (), _, ⟨l, hfound, hstorable, rfl⟩, (), db₁, hextras, hload⟩

theorem update_ends {dto : UpdateListingDto} {r : ListingWithAddOns} :
    (update me supabaseId id dto).Ends w db r db' ↔
      ∃ s l, db.kyc.gate supabaseId ⟨true, true⟩ = some s ∧ db.own s.sellerId id = some l ∧
        validateUpdate l dto db.kyc.now = .ok () ∧ ∃ expiresAt, parseExpiresAt dto.expiresAt db.kyc.now = .ok expiresAt ∧
          patchWithExtras me id dto expiresAt db = .ok (r, db') := by
  unfold update
  rw [ends_bind]
  constructor
  · rintro ⟨s, db₁, hgate, hrest⟩
    obtain ⟨hgate, rfl⟩ := gate_ends.mp hgate
    obtain ⟨l, db₁, hown, hrest⟩ := ends_bind.mp hrest
    obtain ⟨hown, rfl⟩ := ownListing_ends.mp hown
    rw [ends_read_bind, ends_done_bind] at hrest
    obtain ⟨_, hvalid, hrest⟩ := hrest
    obtain ⟨expiresAt, hparse, hrest⟩ := ends_done_bind.mp hrest
    exact ⟨s, l, hgate, hown, hvalid, expiresAt, hparse, ends_await.mp hrest⟩
  · rintro ⟨s, l, hgate, hown, hvalid, expiresAt, hparse, hrun⟩
    refine ⟨s, db, gate_ends.mpr ⟨hgate, rfl⟩, ends_bind.mpr ⟨l, db, ownListing_ends.mpr ⟨hown, rfl⟩, ?_⟩⟩
    rw [ends_read_bind]
    exact ends_done_bind.mpr ⟨(), hvalid, ends_done_bind.mpr ⟨expiresAt, hparse, ends_await.mpr hrun⟩⟩

/-- Before its transaction, an update only reads. -/
theorem update_clean {dto : UpdateListingDto} : (update me supabaseId id dto).FailsClean db := by
  unfold update
  refine failsClean_bind (fun _ => gate_state) fun s => failsClean_bind (fun _ => ownListing_state) fun l => ?_
  refine failsClean_bind (fun _ => rfl) fun now => failsClean_bind (fun _ => rfl) fun _ => ?_
  exact failsClean_bind (fun _ => rfl) fun expiresAt => failsClean_await

/-- **What `update` does.** It goes through exactly for an accepted edit, and leaves the
listing edited; otherwise it leaves everything as it was. -/
theorem update_cases (me : Nat) (w : Nat → Answer) (db : ListingDb) (supabaseId : String) (id : ListingId)
    (dto : UpdateListingDto) :
    (∃ l, EditAccepted db supabaseId id dto l ∧ ∃ r addOns,
        (update me supabaseId id dto).Ends w db r { db with listings := db.edited id dto, addOns }) ∨
      (∀ l, ¬EditAccepted db supabaseId id dto l) ∧ ((update me supabaseId id dto).exec w db).state = db := by
  by_cases haccepted : ∃ l, EditAccepted db supabaseId id dto l
  · obtain ⟨l, h⟩ := haccepted
    obtain ⟨s, hgate, hown⟩ := h.own
    obtain ⟨hfound, -, -⟩ := ListingDb.own_eq_some.mp hown
    have hparse := ((validateUpdate_ok (dishTypes_of_sets h.sets)).mp h.valid).1
    obtain ⟨db₁, hextras⟩ := @exists_extrasTx { db with listings := db.edited id dto } me id dto h.extras
    obtain ⟨-, addOns, rfl⟩ := extrasTx_ok hextras
    have hedited : (db.edited id dto).find? id = some (l.edited dto db.kyc.now) :=
      Table.find?_update_of_eq hfound
    have hload : loadWithAddOns id { db with listings := db.edited id dto, addOns } =
        .ok ((l.edited dto db.kyc.now, addOns.filter (·.listingId = id)), _) :=
      loadWithAddOns_ok.mpr ⟨⟨_, hedited, rfl⟩, rfl⟩
    have hpatched := patchWithExtras_ok.mpr ⟨h.sets, ⟨l, hfound, h.storable⟩, _, hextras, hload⟩
    have hends := (@update_ends _ _ w me supabaseId id dto _).mpr
      ⟨s, l, hgate, hown, h.valid, _, hparse, hpatched⟩
    exact .inl ⟨l, h, _, addOns, hends⟩
  · refine .inr ⟨fun l h => haccepted ⟨l, h⟩, ?_⟩
    cases hresult : ((update me supabaseId id dto).exec w db).result with
    | error e => exact update_clean w e hresult
    | ok r =>
      exfalso
      obtain ⟨s, l, hgate, hown, hvalid, expiresAt, hparse, hrun⟩ := update_ends.mp ⟨hresult, rfl⟩
      obtain ⟨hfound, -, -⟩ := ListingDb.own_eq_some.mp hown
      obtain ⟨hsets, ⟨l', hfound', hstorable⟩, db₁, hextras, -⟩ := patchWithExtras_ok.mp hrun
      obtain rfl := Option.some.inj (hfound.symm.trans hfound')
      have hsame : parsedExpiresAt dto.expiresAt db.kyc.now = expiresAt := by
        unfold parsedExpiresAt
        rw [hparse]
      rw [← hsame] at hstorable
      exact haccepted ⟨l, ⟨s, hgate, hown⟩, hvalid, hsets, hstorable, (extrasTx_ok hextras).1⟩

/-! ## Publications -/

/-- Nothing changes but the consents to the CGU and the CGV. -/
def ListingDb.TermsOnly (db db' : ListingDb) : Prop :=
  ∃ charters : Table UserCharter, db' = { db with wizard.userCharters := charters } ∧
    ∀ r, r.charter ≠ .cgu → r.charter ≠ .cgv → (r ∈ charters.rows ↔ r ∈ db.wizard.userCharters.rows)

theorem ListingDb.TermsOnly.refl (db : ListingDb) : db.TermsOnly db :=
  ⟨db.wizard.userCharters, rfl, fun _ _ _ => Iff.rfl⟩

theorem ListingDb.TermsOnly.trans (a b c : ListingDb) (hab : a.TermsOnly b) (hbc : b.TermsOnly c) :
    a.TermsOnly c := by
  obtain ⟨charters, rfl, h⟩ := hab
  obtain ⟨charters', rfl, h'⟩ := hbc
  exact ⟨charters', rfl, fun r hcgu hcgv => (h' r hcgu hcgv).trans (h r hcgu hcgv)⟩

theorem upsertCharter_terms {row : UserCharter} {answer : Answer} {u : Unit}
    (hkind : row.charter = .cgu ∨ row.charter = .cgv) (hrun : upsertCharter row answer db = .ok (u, db')) :
    db.TermsOnly db' := by
  unfold upsertCharter at hrun
  simp only [Stmt.bind_ok, Stmt.throwIf_ok, Stmt.get_ok] at hrun
  obtain ⟨_, _, ⟨-, rfl⟩, _, db, ⟨rfl, rfl⟩, hrun⟩ := hrun
  cases hfound : db.wizard.userCharters.find? (row.userId, row.charter, row.version) with
  | some r =>
    rw [hfound] at hrun
    obtain ⟨-, rfl⟩ := Stmt.pure_ok.mp hrun
    exact .refl _
  | none =>
    rw [hfound] at hrun
    simp only [Stmt.bind_ok, Stmt.orThrow_ok, Stmt.set_ok] at hrun
    obtain ⟨charters, _, ⟨hinsert, rfl⟩, rfl⟩ := hrun
    refine ⟨charters, rfl, fun r hcgu hcgv => ?_⟩
    have hother : r ≠ row := by
      rintro rfl
      exact hkind.elim hcgu hcgv
    rw [Table.mem_insert hinsert, or_iff_right hother]

/-- Recording the consent never fails. -/
theorem recordTermsAcceptance_settles {u : UserId} : (recordTermsAcceptance u).Settles ListingDb.TermsOnly := by
  unfold recordTermsAcceptance resolveActiveTermsVersions
  refine settles_bind ListingDb.TermsOnly.trans (settles_ask ListingDb.TermsOnly.refl) fun versions => ?_
  refine settles_bind ListingDb.TermsOnly.trans ?_ fun _ => ?_
  · exact settles_tryCatch_await ListingDb.TermsOnly.refl fun _ _ _ hrun => upsertCharter_terms (.inl rfl) hrun
  · exact settles_tryCatch_await ListingDb.TermsOnly.refl fun _ _ _ hrun => upsertCharter_terms (.inr rfl) hrun

/-- What `create` has checked of a listing that it publishes. -/
structure Published (db : ListingDb) (supabaseId : String) (dto : CreateListingDto) (row : ListingRecord) :
    Prop where
  seller : ∃ s, db.kyc.gate supabaseId ⟨true, true⟩ = some s ∧ s.isSuspended = false ∧
    s.profile.category = some row.category
  rules : row.FollowsRules
  allergens : dto.declaresNoAllergens = some true ↔ ¬row.Declares

theorem insertWithExtras_ok {row : ListingRecord} {extras : List CreateListingAddOnDto} {r : ListingWithAddOns}
    (hrun : insertWithExtras me row extras db = .ok (r, db')) :
    ∃ listings addOns, db.listings.insert? row = some listings ∧ db' = { db with listings, addOns } := by
  unfold insertWithExtras insertListing at hrun
  simp only [Stmt.bind_ok, Stmt.throwIf_ok, Stmt.get_ok, Stmt.orThrow_ok, Stmt.set_ok, replaceExtras_ok,
    loadWithAddOns_ok] at hrun
  obtain ⟨_, _, ⟨_, _, ⟨-, rfl⟩, _, _, ⟨rfl, rfl⟩, listings, _, ⟨hinsert, rfl⟩, rfl⟩, _, _, ⟨-, rfl⟩, -, rfl⟩ := hrun
  exact ⟨listings, _, hinsert, rfl⟩

/-- A listing that passes the checks of a publication follows the rules. -/
theorem newListing_follows {dto : CreateListingDto} {category : SellerCategory} {expiresAt : Sent Time} {now : Time}
    (hshape : validateListingShape
      ⟨some dto.imageUrls, some dto.priceCents, dto.originalPriceCents, dto.discountPercent, some category⟩ = .ok ())
    (hcategory : validateCategoryShape
      ⟨some dto.priceCents, dto.portionsLeft, dto.expiresAt.orNull, dto.dishTypes⟩ category = .ok ())
    (hparse : parseExpiresAt dto.expiresAt now = .ok expiresAt) :
    (newListing id sellerId category dto expiresAt.orNull).FollowsRules := by
  obtain ⟨himages, hprice⟩ := validateListingShape_ok.mp hshape
  obtain ⟨hfait, htypes⟩ := validateCategoryShape_ok.mp hcategory
  refine ⟨himages, hprice, fun hcat => ?_, htypes⟩
  obtain ⟨hcap, hportions, hexpires⟩ := hfait hcat
  refine ⟨hcap, hportions, ?_⟩
  -- a date that is sent and parses is written
  cases hsent : dto.expiresAt with
  | missing =>
    rw [hsent] at hexpires
    cases hexpires
  | null =>
    rw [hsent] at hexpires
    cases hexpires
  | value date =>
    rw [hsent] at hparse
    change (parseFutureDate date "expiresAt" now).map Sent.value = .ok expiresAt at hparse
    cases hdate : parseFutureDate date "expiresAt" now with
    | error e =>
      rw [hdate] at hparse
      cases hparse
    | ok t =>
      rw [hdate] at hparse
      cases hparse
      rfl

/-- Before its transaction, `create` only reads, and nothing fails after it. -/
theorem create_clean {dto : CreateListingDto} : (create me supabaseId dto).FailsClean db := by
  unfold create
  refine failsClean_bind (fun _ => gate_state) fun s => ?_
  refine failsClean_bind (fun _ => state_of_stepless stepless_throwIf) fun _ => ?_
  refine failsClean_bind (fun _ => state_of_stepless stepless_orThrow) fun category => ?_
  refine failsClean_bind (fun _ => state_of_stepless stepless_throwIf) fun _ => ?_
  -- the three validations, the clock and the date
  refine failsClean_bind (fun _ => rfl) fun _ => failsClean_bind (fun _ => rfl) fun _ => ?_
  refine failsClean_bind (fun _ => rfl) fun _ => failsClean_bind (fun _ => rfl) fun now => ?_
  refine failsClean_bind (fun _ => rfl) fun expiresAt => ?_
  refine failsClean_bind_settles (R := ListingDb.TermsOnly) failsClean_await fun created => ?_
  exact settles_bind ListingDb.TermsOnly.trans recordTermsAcceptance_settles fun _ =>
    settles_pure ListingDb.TermsOnly.refl

/-- **What `create` does** when it succeeds: it publishes one listing, and records the
consent. -/
theorem create_ends {dto : CreateListingDto} {r : ListingWithAddOns}
    (hends : (create me supabaseId dto).Ends w db r db') :
    ∃ row listings addOns, Published db supabaseId dto row ∧ db.listings.insert? row = some listings ∧
      ListingDb.TermsOnly { db with listings, addOns } db' := by
  unfold create at hends
  obtain ⟨s, _, hgate, hrest⟩ := ends_bind.mp hends
  obtain ⟨hgate, rfl⟩ := gate_ends.mp hgate
  obtain ⟨hlive, hrest⟩ := ends_throwIf_bind.mp hrest
  obtain ⟨category, hcategory, hrest⟩ := ends_orThrow_bind.mp hrest
  obtain ⟨-, hrest⟩ := ends_throwIf_bind.mp hrest
  obtain ⟨_, hshape, hrest⟩ := ends_done_bind.mp hrest
  obtain ⟨_, hcategoryShape, hrest⟩ := ends_done_bind.mp hrest
  obtain ⟨_, hallergens, hrest⟩ := ends_done_bind.mp hrest
  rw [ends_read_bind, ends_done_bind] at hrest
  obtain ⟨expiresAt, hparse, hrest⟩ := hrest
  obtain ⟨created, db₁, hinsert, hrest⟩ := ends_bind.mp hrest
  obtain ⟨listings, addOns, hlistings, rfl⟩ := insertWithExtras_ok (ends_await.mp hinsert)
  obtain ⟨_, _, hterms, hrest⟩ := ends_bind.mp hrest
  obtain ⟨-, rfl⟩ := ends_pure.mp hrest
  have hfollows : (newListing ⟨me, 0⟩ s.sellerId category dto expiresAt.orNull).FollowsRules :=
    newListing_follows hshape hcategoryShape hparse
  have hpublished : Published _ supabaseId dto (newListing ⟨me, 0⟩ s.sellerId category dto expiresAt.orNull) :=
    ⟨⟨s, hgate, Bool.eq_false_of_not_eq_true hlive, hcategory⟩, hfollows, validateAllergens_ok.mp hallergens⟩
  exact ⟨_, listings, addOns, hpublished, hlistings, recordTermsAcceptance_settles.rel hterms⟩

/-! ## Every call -/

/-- The row stays, but for what `setAvailability` and `softDelete` write. -/
def ListingRecord.Switched (l l' : ListingRecord) : Prop :=
  l' = { l with
    isAvailable := l'.isAvailable
    deletedAt := l'.deletedAt }

/-- How a call leaves the listings. -/
inductive ListingMove (db : ListingDb) : ListingCall → Table ListingRecord → Prop where
  | stays (c : ListingCall)
      (hrefused : ∀ supabaseId id dto l, c = .update supabaseId id dto → ¬EditAccepted db supabaseId id dto l) :
      ListingMove db c db.listings
  | publishes (supabaseId : String) (dto : CreateListingDto) (row : ListingRecord) (listings : Table ListingRecord)
      (hpublished : Published db supabaseId dto row) (hinsert : db.listings.insert? row = some listings) :
      ListingMove db (.create supabaseId dto) listings
  | edits (supabaseId : String) (id : ListingId) (dto : UpdateListingDto) (l : ListingRecord)
      (haccepted : EditAccepted db supabaseId id dto l) :
      ListingMove db (.update supabaseId id dto) (db.edited id dto)
  | switches (c : ListingCall) (id : ListingId) (f : ListingRecord → ListingRecord) (hf : ∀ l, (f l).id = l.id)
      (hcall : ∀ supabaseId id dto, c ≠ .update supabaseId id dto) (hswitched : ∀ l : ListingRecord, l.Switched (f l)) :
      ListingMove db c (db.listings.update id f hf)

theorem create_moves {dto : CreateListingDto} :
    ListingMove db (.create supabaseId dto) ((create me supabaseId dto).exec w db).state.listings := by
  cases hresult : ((create me supabaseId dto).exec w db).result with
  | error e =>
    rw [create_clean w e hresult]
    refine .stays _ fun _ _ _ _ hcall => ?_
    cases hcall
  | ok r =>
    obtain ⟨row, listings, addOns, hpublished, hinsert, charters, hstate, -⟩ := create_ends ⟨hresult, rfl⟩
    rw [hstate]
    exact .publishes supabaseId dto row listings hpublished hinsert

theorem update_moves {dto : UpdateListingDto} :
    ListingMove db (.update supabaseId id dto) ((update me supabaseId id dto).exec w db).state.listings := by
  obtain ⟨l, haccepted, r, addOns, -, hstate⟩ | ⟨hrefused, hstate⟩ := update_cases me w db supabaseId id dto
  · rw [hstate]
    exact .edits supabaseId id dto l haccepted
  · rw [hstate]
    refine .stays _ fun _ _ _ l hcall => ?_
    cases hcall
    exact hrefused l

/-- The seller's own listing is looked up before it is switched. -/
theorem switch_moves {c : ListingCall} {refusal : String} {α : Type} {tx : ListingTx α}
    {f : ListingRecord → ListingRecord} (hf : ∀ l, (f l).id = l.id)
    (hcall : ∀ supabaseId id dto, c ≠ .update supabaseId id dto) (hswitched : ∀ l : ListingRecord, l.Switched (f l))
    (htx : ∀ r db', tx db = .ok (r, db') → db'.listings = db.listings.update id f hf) :
    ListingMove db c ((do
      let seller ← (assertSeller supabaseId opts).within listingKycPart
      let _ ← ownListing seller.sellerId id refusal
      await (.update id) fun _ => tx : ListingHandler α).exec w db).state.listings := by
  generalize hp : (do
    let seller ← (assertSeller supabaseId opts).within listingKycPart
    let _ ← ownListing seller.sellerId id refusal
    await (.update id) fun _ => tx : ListingHandler α) = p
  have hclean : p.FailsClean db := by
    rw [← hp]
    refine failsClean_bind (fun _ => gate_state) fun s => failsClean_bind (fun _ => ownListing_state) fun _ => ?_
    exact failsClean_await
  cases hresult : (p.exec w db).result with
  | error e =>
    rw [hclean w e hresult]
    exact .stays c fun supabaseId id dto _ h => absurd h (hcall supabaseId id dto)
  | ok r =>
    have hends : p.Ends w db r (p.exec w db).state := ⟨hresult, rfl⟩
    generalize (p.exec w db).state = db' at hends ⊢
    rw [← hp] at hends
    obtain ⟨s, _, hgate, hends⟩ := ends_bind.mp hends
    obtain ⟨-, rfl⟩ := gate_ends.mp hgate
    obtain ⟨l, _, hown, hends⟩ := ends_bind.mp hends
    obtain ⟨-, rfl⟩ := ownListing_ends.mp hown
    rw [htx r db' (ends_await.mp hends)]
    exact .switches c id f hf hcall hswitched

theorem setAvailability_moves {isAvailable : Bool} :
    ListingMove db (.setAvailability supabaseId id isAvailable)
      ((setAvailability supabaseId id isAvailable).exec w db).state.listings := by
  refine switch_moves (f := fun l => { l with isAvailable }) (fun _ => rfl) (by simp) (fun _ => rfl)
    fun r db' hrun => ?_
  obtain ⟨_, db₁, hupdate, hload⟩ := Stmt.bind_ok.mp hrun
  obtain ⟨-, -, -, rfl⟩ := updateListing_ok.mp hupdate
  obtain ⟨-, rfl⟩ := loadWithAddOns_ok.mp hload
  rfl

theorem softDelete_moves :
    ListingMove db (.softDelete supabaseId id) ((softDelete supabaseId id).exec w db).state.listings := by
  refine switch_moves (f := fun l => { l with deletedAt := some db.kyc.now, isAvailable := false }) (fun _ => rfl)
    (by simp) (fun _ => rfl) fun r db' hrun => ?_
  obtain ⟨_, _, hget, hupdate⟩ := Stmt.bind_ok.mp hrun
  obtain ⟨rfl, rfl⟩ := Stmt.get_ok.mp hget
  obtain ⟨-, -, -, rfl⟩ := updateListing_ok.mp hupdate
  rfl

/-- **What a call does to the listings.** -/
theorem listingHandle_moves (c : ListingCall) :
    ListingMove db c ((listingHandle me c).exec w db).state.listings := by
  cases c with
  | create supabaseId dto =>
    unfold listingHandle
    rw [exec_bind_pure.1]
    exact create_moves
  | update supabaseId id dto =>
    unfold listingHandle
    rw [exec_bind_pure.1]
    exact update_moves
  | setAvailability supabaseId id isAvailable =>
    unfold listingHandle
    rw [exec_bind_pure.1]
    exact setAvailability_moves
  | softDelete supabaseId id =>
    unfold listingHandle
    rw [exec_bind_pure.1]
    exact softDelete_moves

end IncaCook
