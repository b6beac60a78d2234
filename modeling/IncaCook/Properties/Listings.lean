import IncaCook.Library.Runs
import IncaCook.Steps.Listings

/-!
# Listings and their edits

An update is validated on the stored listing with the body merged into it, and writes the
body. The two part in the other allergens: `null` is validated as the stored text, and takes
it away. What a seller declares by "Aucun" is validated, and stored nowhere.

Main results:

* `inOrder_throughout_iff`: along a run, published listings follow the rules and declare
  their allergens until an update takes away a text that was all it had;
* `staysEditable_iff`: a listing accepts the edits that leave the validated fields alone if
  and only if it has an allergen or a text.
-/

namespace IncaCook

open Prog Listings

variable {s₀ db : ListingDb} {calls : List (CallRecord listingService)} {c : CallRecord listingService}
  {id : ListingId} {l l' : ListingRecord} {supabaseId : String}

/-! ## What a run should keep -/

/-- The body declares that there are no allergens. -/
def ListingCall.declaresNone : ListingCall → Bool
  | .create _ dto => dto.declaresNoAllergens = some true
  | .update _ _ dto => dto.declaresNoAllergens = .value true
  | .setAvailability .. => false
  | .softDelete .. => false

/-- The call leaves the listing without allergens, and found it with some, or not at all. -/
def empties (id : ListingId) (c : CallRecord listingService) : Bool :=
  (c.outcome.state.listings.find? id).any (fun l => ¬l.Declares) &&
    (c.pre.listings.find? id).all fun l => l.Declares

/-- The last call that emptied the allergens declared none. -/
def DeclaredNone (calls : List (CallRecord listingService)) (id : ListingId) : Prop :=
  ∃ c, calls.find? (empties id) = some c ∧ c.call.declaresNone = true

/-- The listings published since `s₀` follow the rules, and their allergens are declared. -/
def InOrder (s₀ db : ListingDb) (calls : List (CallRecord listingService)) : Prop :=
  ∀ id l, s₀.listings.find? id = none → db.listings.find? id = some l →
    l.FollowsRules ∧ (l.Declares ∨ DeclaredNone calls id)

/-- The body takes away the text, and no allergen is left. -/
def Listings.UpdateListingDto.Strips (dto : UpdateListingDto) (l : ListingRecord) : Prop :=
  dto.otherAllergens = .null ∧ hasOther l.otherAllergens = true ∧ dto.allergens.getD l.allergens = []

/-- The call is an accepted update of a listing published since `s₀`, and strips it. -/
def ListingCall.Strips (s₀ : ListingDb) (c : ListingCall) (db : ListingDb) : Prop :=
  ∃ supabaseId id dto l, c = .update supabaseId id dto ∧ s₀.listings.find? id = none ∧
    EditAccepted db supabaseId id dto l ∧ dto.Strips l

/-! ## One call -/

theorem empties_iff : empties id c = true ↔
    (∃ l', c.outcome.state.listings.find? id = some l' ∧ ¬l'.Declares) ∧
      ∀ l, c.pre.listings.find? id = some l → l.Declares := by
  simp [empties, Option.any_eq_true, Option.all_eq_true]

theorem declaredNone_cons_of_empties (h : empties id c = true) :
    DeclaredNone (c :: calls) id ↔ c.call.declaresNone = true := by
  simp [DeclaredNone, h]

theorem declaredNone_cons_of_not_empties (h : ¬empties id c = true) :
    DeclaredNone (c :: calls) id ↔ DeclaredNone calls id := by
  simp [DeclaredNone, h]

/-- The rules do not read what a switch writes. -/
theorem ListingRecord.Switched.follows (h : l.Switched l') (hrules : l.FollowsRules) : l'.FollowsRules := by
  unfold Switched at h
  rw [h]
  exact ⟨hrules.images, hrules.price, hrules.faitMaison, hrules.dishTypes⟩

theorem ListingRecord.Switched.declares_iff (h : l.Switched l') : l'.Declares ↔ l.Declares := by
  unfold Switched at h
  rw [h]
  exact Iff.rfl

theorem EditAccepted.follows {dto : UpdateListingDto} (h : EditAccepted db supabaseId id dto l) :
    (l.edited dto db.kyc.now).FollowsRules :=
  ((validateUpdate_ok (dishTypes_of_sets h.sets)).mp h.valid).2.1

/-- **What an accepted edit leaves declared**: something, unless it strips the listing or
declares none. -/
theorem EditAccepted.declares_iff {dto : UpdateListingDto} (h : EditAccepted db supabaseId id dto l) :
    (l.edited dto db.kyc.now).Declares ↔ ¬dto.Strips l ∧ dto.declaresNoAllergens ≠ .value true := by
  obtain ⟨-, -, hvalid⟩ := (validateUpdate_ok (dishTypes_of_sets h.sets)).mp h.valid
  have hnone : dto.declaresNoAllergens.orNull = some true ↔ dto.declaresNoAllergens = .value true := by
    cases dto.declaresNoAllergens with
    | missing => simp [Sent.orNull]
    | null => simp [Sent.orNull]
    | value b => simp [Sent.orNull]
  rw [hnone] at hvalid
  have hedited : (l.edited dto db.kyc.now).Declares ↔
      DeclaresAllergens (dto.allergens.getD l.allergens) (dto.otherAllergens.written l.otherAllergens) := Iff.rfl
  rw [hedited]
  unfold UpdateListingDto.Strips
  -- what is written is what was validated, but for null
  cases hother : dto.otherAllergens with
  | missing =>
    rw [hother] at hvalid
    change dto.declaresNoAllergens = .value true ↔
      ¬DeclaresAllergens (dto.allergens.getD l.allergens) l.otherAllergens at hvalid
    change DeclaresAllergens (dto.allergens.getD l.allergens) l.otherAllergens ↔ _
    rw [Ne, hvalid]
    simp
  | null =>
    rw [hother] at hvalid
    change dto.declaresNoAllergens = .value true ↔
      ¬DeclaresAllergens (dto.allergens.getD l.allergens) l.otherAllergens at hvalid
    change DeclaresAllergens (dto.allergens.getD l.allergens) none ↔ _
    rw [Ne, hvalid]
    simp only [DeclaresAllergens]
    by_cases hempty : dto.allergens.getD l.allergens = []
    · simp [hempty, hasOther]
    · simp [hempty]
  | value s =>
    rw [hother] at hvalid
    change dto.declaresNoAllergens = .value true ↔
      ¬DeclaresAllergens (dto.allergens.getD l.allergens) (some s) at hvalid
    change DeclaresAllergens (dto.allergens.getD l.allergens) (some s) ↔ _
    rw [Ne, hvalid]
    simp

/-- An edit that strips a listing found a text there, and did not declare that there is none. -/
theorem EditAccepted.not_declaresNone {dto : UpdateListingDto} (h : EditAccepted db supabaseId id dto l)
    (hstrips : dto.Strips l) : l.Declares ∧ dto.declaresNoAllergens ≠ .value true := by
  obtain ⟨hnull, htext, -⟩ := hstrips
  obtain ⟨-, -, hvalid⟩ := (validateUpdate_ok (dishTypes_of_sets h.sets)).mp h.valid
  refine ⟨.inr htext, fun hnone => ?_⟩
  rw [hnone, hnull] at hvalid
  exact hvalid.mp rfl (.inr htext)

/-- A listing that the call leaves as it is, as far as the rules go, stays in order. -/
theorem InOrder.carried (h : InOrder s₀ c.pre calls) (hnew : s₀.listings.find? id = none)
    (hl : c.pre.listings.find? id = some l) (hl' : c.outcome.state.listings.find? id = some l')
    (hrules : l.FollowsRules → l'.FollowsRules) (hdeclares : l'.Declares ↔ l.Declares) :
    l'.FollowsRules ∧ (l'.Declares ∨ DeclaredNone (c :: calls) id) := by
  obtain ⟨hfollows, hdeclared⟩ := h id l hnew hl
  have hkept : ¬empties id c = true := by
    rw [empties_iff]
    rintro ⟨⟨l₁, hl₁, hbare⟩, hbefore⟩
    obtain rfl := Option.some.inj (hl'.symm.trans hl₁)
    exact hbare (hdeclares.mpr (hbefore l hl))
  rw [declaredNone_cons_of_not_empties hkept, hdeclares]
  exact ⟨hrules hfollows, hdeclared⟩

/-- A publication is in order. -/
theorem Published.inOrder {dto : CreateListingDto} {row : ListingRecord} {listings : Table ListingRecord}
    (h : InOrder s₀ c.pre calls) (hcall : c.call = .create supabaseId dto)
    (hlistings : c.outcome.state.listings = listings) (hpublished : Published c.pre supabaseId dto row)
    (hinsert : c.pre.listings.insert? row = some listings) : InOrder s₀ c.outcome.state (c :: calls) := by
  intro id l hnew hl
  have hfound := Table.find?_insert hinsert id
  rw [← hlistings, hl] at hfound
  split at hfound
  · rename_i hid
    obtain rfl := Option.some.inj hfound
    refine ⟨hpublished.rules, or_iff_not_imp_left.mpr fun hbare => ?_⟩
    have hempties : empties id c = true := by
      refine empties_iff.mpr ⟨⟨l, hl, hbare⟩, fun l₀ hl₀ => ?_⟩
      rw [hid, (Table.insert?_eq_some.mp hinsert).1] at hl₀
      cases hl₀
    rw [declaredNone_cons_of_empties hempties, hcall]
    exact decide_eq_true (hpublished.allergens.mpr hbare)
  · exact h.carried hnew hfound.symm hl (fun hrules => hrules) Iff.rfl

/-- An accepted edit leaves the listings in order unless it strips its own. -/
theorem EditAccepted.inOrder_iff {dto : UpdateListingDto} (h : InOrder s₀ c.pre calls)
    (hcall : c.call = .update supabaseId id dto) (hlistings : c.outcome.state.listings = c.pre.edited id dto)
    (haccepted : EditAccepted c.pre supabaseId id dto l) :
    InOrder s₀ c.outcome.state (c :: calls) ↔ ¬(s₀.listings.find? id = none ∧ dto.Strips l) := by
  have hl := haccepted.found
  have hl' : c.outcome.state.listings.find? id = some (l.edited dto c.pre.kyc.now) := by
    rw [hlistings]
    exact Table.find?_update_of_eq hl
  constructor
  · rintro hafter ⟨hnew, hstrips⟩
    obtain ⟨hbefore, hsome⟩ := haccepted.not_declaresNone hstrips
    have hbare : ¬(l.edited dto c.pre.kyc.now).Declares :=
      fun hdeclares => (haccepted.declares_iff.mp hdeclares).1 hstrips
    have hempties : empties id c = true := by
      refine empties_iff.mpr ⟨⟨_, hl', hbare⟩, fun l₀ hl₀ => ?_⟩
      obtain rfl := Option.some.inj (hl.symm.trans hl₀)
      exact hbefore
    have hdeclared := (hafter id _ hnew hl').2.resolve_left hbare
    rw [declaredNone_cons_of_empties hempties, hcall] at hdeclared
    exact hsome (of_decide_eq_true hdeclared)
  · intro hkeeps id' l' hnew hfound
    rw [hlistings] at hfound
    obtain ⟨l₀, hl₀, ⟨rfl, rfl⟩ | ⟨hne, rfl⟩⟩ := Table.find?_update_some hfound
    · obtain rfl := Option.some.inj (hl.symm.trans hl₀)
      refine ⟨haccepted.follows, or_iff_not_imp_left.mpr fun hbare => ?_⟩
      have hnone : dto.declaresNoAllergens = .value true := by
        by_contra hsome
        exact hbare (haccepted.declares_iff.mpr ⟨fun hstrips => hkeeps ⟨hnew, hstrips⟩, hsome⟩)
      -- it empties the listing itself, or an earlier call did
      by_cases hempties : empties id' c = true
      · rw [declaredNone_cons_of_empties hempties, hcall]
        exact decide_eq_true hnone
      · rw [declaredNone_cons_of_not_empties hempties]
        refine (h id' l hnew hl).2.resolve_left fun hbefore => hempties ?_
        refine empties_iff.mpr ⟨⟨_, hl', hbare⟩, fun l₁ hl₁ => ?_⟩
        obtain rfl := Option.some.inj (hl.symm.trans hl₁)
        exact hbefore
    · refine h.carried hnew hl₀ ?_ (fun hrules => hrules) Iff.rfl
      rw [hlistings]
      exact hfound

/-- **One call** keeps the listings in order unless it strips one of them. -/
theorem ListingMove.inOrder_iff (h : InOrder s₀ c.pre calls)
    (hmove : ListingMove c.pre c.call c.outcome.state.listings) :
    InOrder s₀ c.outcome.state (c :: calls) ↔ ¬c.call.Strips s₀ c.pre := by
  generalize hcall : c.call = call at hmove ⊢
  generalize hlistings : c.outcome.state.listings = listings at hmove
  cases hmove with
  | stays call hrefused =>
    refine iff_of_true (fun id l hnew hl => ?_) ?_
    · refine h.carried hnew ?_ hl (fun hrules => hrules) Iff.rfl
      rw [← hlistings]
      exact hl
    · rintro ⟨supabaseId, id, dto, l, hupdate, -, haccepted, -⟩
      exact hrefused supabaseId id dto l hupdate haccepted
  | publishes supabaseId dto row listings hpublished hinsert =>
    refine iff_of_true (hpublished.inOrder h hcall hlistings hinsert) ?_
    rintro ⟨_, _, _, _, hupdate, -⟩
    cases hupdate
  | edits supabaseId id dto l haccepted =>
    refine (haccepted.inOrder_iff h hcall hlistings).trans (not_congr ⟨?_, ?_⟩)
    · rintro ⟨hnew, hstrips⟩
      exact ⟨supabaseId, id, dto, l, rfl, hnew, haccepted, hstrips⟩
    · rintro ⟨supabaseId', id', dto', l', hupdate, hnew, haccepted', hstrips⟩
      cases hupdate
      obtain rfl := Option.some.inj (haccepted.found.symm.trans haccepted'.found)
      exact ⟨hnew, hstrips⟩
  | switches call id f hf hother hswitched =>
    refine iff_of_true (fun id' l' hnew hl' => ?_) ?_
    · have hfound := hl'
      rw [hlistings] at hfound
      obtain ⟨l, hl, ⟨-, rfl⟩ | ⟨-, rfl⟩⟩ := Table.find?_update_some hfound
      · exact h.carried hnew hl hl' (hswitched l).follows (hswitched l).declares_iff
      · exact h.carried hnew hl hl' (fun hrules => hrules) Iff.rfl
    · rintro ⟨supabaseId, id, dto, l, hupdate, -⟩
      exact hother supabaseId id dto hupdate

/-! ## Runs -/

/-- **The rules of publication along a run.** From any database, in every sequence of calls
with any bodies, the listings published on the way have at most 4 images, a former price
that is no lower, dish types of their category, and a price within the cap, portions and an
expiry if they are fait maison; and an allergen, a text, or the word of the last request that
emptied them that there is none; all along if and only if no accepted update takes away a
text by `null` that was all that was declared. -/
theorem inOrder_throughout_iff (s₀ : ListingDb) (inputs : List (Input listingService)) :
    Serial.Throughout (InOrder s₀) s₀ inputs ↔ Serial.Unbroken (ListingCall.Strips s₀) s₀ inputs := by
  have hstart : InOrder s₀ s₀ [] := by
    intro id l hnew hl
    cases hnew.symm.trans hl
  refine serial_throughout_iff (I := fun _ _ => True) trivial hstart (fun _ _ _ _ => trivial) (fun e s calls _ h => ?_)
    (fun _ _ => rfl) (fun _ _ _ _ _ _ => trivial) (fun n c w s calls _ h => ?_) inputs
  · -- time and accounts are not listings
    cases e with
    | pass ms => exact h
    | accounts kyc wizard => exact h
  · exact ListingMove.inOrder_iff (c := ⟨c, s, (listingHandle n c).exec w s⟩) h (listingHandle_moves c)

/-- Whatever the calls, the listings published on the way follow the rules. -/
theorem newListings_follow (s₀ : ListingDb) (inputs : List (Input listingService)) :
    ∀ id l, s₀.listings.find? id = none → (serialRun s₀ inputs).state.listings.find? id = some l →
      l.FollowsRules := by
  let Follow (db : ListingDb) : Prop :=
    ∀ id l, s₀.listings.find? id = none → db.listings.find? id = some l → l.FollowsRules
  have hstart : Follow s₀ := by
    intro id l hnew hl
    cases hnew.symm.trans hl
  have hcall : ∀ n c w db, Follow db → listingService.admits c db = true → ¬False →
      Follow ((listingHandle n c).exec w db).state := by
    intro n c w db h _ _ id l hnew hl
    have hmove := @listingHandle_moves db w n c
    generalize ((listingHandle n c).exec w db).state.listings = listings at hmove hl
    cases hmove with
    | stays c hrefused => exact h id l hnew hl
    | publishes supabaseId dto row listings hpublished hinsert =>
      rw [Table.find?_insert hinsert] at hl
      split at hl
      · obtain rfl := Option.some.inj hl
        exact hpublished.rules
      · exact h id l hnew hl
    | edits supabaseId id' dto l' haccepted =>
      obtain ⟨l₀, hl₀, ⟨rfl, rfl⟩ | ⟨-, rfl⟩⟩ := Table.find?_update_some hl
      · obtain rfl := Option.some.inj (haccepted.found.symm.trans hl₀)
        exact haccepted.follows
      · exact h id l hnew hl₀
    | switches c id' f hf hother hswitched =>
      obtain ⟨l₀, hl₀, ⟨-, rfl⟩ | ⟨-, rfl⟩⟩ := Table.find?_update_some hl
      · exact (hswitched l₀).follows (h id l₀ hnew hl₀)
      · exact h id l hnew hl₀
  have hevent : ∀ e db, Follow db → Follow (listingService.event e db) := by
    intro e db h
    cases e with
    | pass ms => exact h
    | accounts kyc wizard => exact h
  have hany : Serial.Unbroken (S := listingService) (fun _ _ => False) s₀ inputs :=
    Serial.unbroken_of_forall fun _ _ _ _ h => h
  exact serial_invariant_unbroken (I := Follow) hstart hevent hcall hany

/-! ## Edits that touch nothing -/

/-- The body leaves alone what the validation reads. -/
structure Listings.UpdateListingDto.Untouched (dto : UpdateListingDto) : Prop where
  imageUrls : dto.imageUrls = .missing
  priceCents : dto.priceCents = .missing
  originalPriceCents : dto.originalPriceCents = .missing
  portionsLeft : dto.portionsLeft = .missing
  expiresAt : dto.expiresAt = .missing
  dishTypes : dto.dishTypes = .missing
  allergens : dto.allergens = .missing
  otherAllergens : dto.otherAllergens = .missing
  declaresNoAllergens : dto.declaresNoAllergens = .missing

/-- Every such body passes the validation of an update, at any time. -/
def ListingRecord.StaysEditable (l : ListingRecord) : Prop :=
  ∀ (dto : UpdateListingDto) (now : Time), dto.Untouched → validateUpdate l dto now = .ok ()

/-- The validation of an untouched listing comes down to its allergens. -/
theorem validateUpdate_untouched {dto : UpdateListingDto} {now : Time} (hrules : l.FollowsRules)
    (hdto : dto.Untouched) : validateUpdate l dto now = .ok () ↔ l.Declares := by
  have hdish : dto.dishTypes.isNull = false := by rw [hdto.dishTypes]; rfl
  have hparse : parseExpiresAt dto.expiresAt now = .ok (parsedExpiresAt dto.expiresAt now) := by
    rw [hdto.expiresAt]
    rfl
  have hsame : (l.edited dto now).FollowsRules := by
    constructor
    · simpa [ListingRecord.edited, patched, hdto.imageUrls] using hrules.images
    · simpa [ListingRecord.edited, patched, hdto.originalPriceCents, hdto.priceCents] using hrules.price
    · simpa [ListingRecord.edited, patched, hdto.priceCents, hdto.portionsLeft, hdto.expiresAt] using hrules.faitMaison
    · simpa [ListingRecord.edited, patched, hdto.dishTypes] using hrules.dishTypes
  rw [validateUpdate_ok hdish, hdto.allergens, hdto.otherAllergens, hdto.declaresNoAllergens]
  simp [hparse, hsame, ListingRecord.Declares]

/-- **Editing the rest.** A listing that a run has published, and edited in any way, accepts at
any later time the bodies that leave the validated fields alone if and only if it is stored
with an allergen or with a text. -/
theorem staysEditable_iff {s₀ : ListingDb} {inputs : List (Input listingService)} {id : ListingId}
    {l : ListingRecord} (hnew : s₀.listings.find? id = none)
    (hl : (serialRun s₀ inputs).state.listings.find? id = some l) : l.StaysEditable ↔ l.Declares := by
  have hrules := newListings_follow s₀ inputs id l hnew hl
  constructor
  · intro h
    -- the empty body will do
    have hempty : ({} : UpdateListingDto).Untouched := ⟨rfl, rfl, rfl, rfl, rfl, rfl, rfl, rfl, rfl⟩
    exact (validateUpdate_untouched hrules hempty).mp (h {} 0 hempty)
  · intro hdeclares dto now hdto
    exact (validateUpdate_untouched hrules hdto).mpr hdeclares

/-! ## A caterer's kitchen -/

/-- A caterer whose account is approved, and whose subscription runs. -/
def kitchenProfile : SellerSetup where
  userId := ⟨0, 1⟩
  kycStatus := .approved
  deliveryFeeCents := none
  isPremium := false
  subscriptionStatus := .active
  subscriptionCurrentPeriodEnd := none
  stripeConnectAccountId := none
  stripeOnboardingCompleted := false
  category := some .traiteur
  displayName := some "Chez Amel"
  bio := none
  profilePhotoUrl := some "amel.jpg"
  dateOfBirth := some "1990-01-01"
  neighborhood := none
  deliveryRadiusKm := none
  prepMinMinutes := none
  prepMaxMinutes := none
  hygieneCommitment := some true
  faitMaisonCommitment := none

/-- The caterer's papers are approved, and the rest of the wizard is still to do. -/
def papersOnly : WizardTables where
  buyerProfiles := .empty
  driverProfiles := .empty
  businesses := .empty
  cuisines := .empty
  zones := .empty
  addresses := .empty
  kycDocuments := ⟨[⟨⟨0, 1⟩, .idFront, .approved, .object [("idDocumentType", .string "PASSEPORT")]⟩,
    ⟨⟨0, 1⟩, .selfie, .approved, .null⟩], by decide⟩
  userCharters := .empty

def kitchen (wizard : WizardTables) : ListingDb where
  kyc := ⟨1000, ⟨[⟨⟨0, 1⟩, "chef", "chef@town", .seller, false, none, none, false, none, none⟩], by decide⟩,
    ⟨[kitchenProfile], by decide⟩, .empty, .empty⟩
  wizard := wizard
  legalDocuments := .empty
  listings := .empty
  addOns := []

/-- A stew, with what the body says about allergens. -/
def stew (otherAllergens : Option String) (declaresNone : Option Bool) : CreateListingDto where
  name := "Daube"
  description := none
  imageUrls := ["daube.jpg"]
  priceCents := 1200
  originalPriceCents := none
  discountPercent := none
  portionsLeft := none
  cuisineTypes := none
  dishTypes := some [.plat]
  dietaryTags := none
  allergens := none
  otherAllergens := otherAllergens
  declaresNoAllergens := declaresNone
  isAvailable := none
  isVeg := none
  menuCategory := none
  fulfillment := .pickup
  prepMinutes := 30
  expiresAt := .missing
  extras := none
  termsAccepted := some true

/-- The caterer publishes the stew. -/
def publishes (otherAllergens : Option String) (declaresNone : Option Bool) : List (Input listingService) :=
  [.call (.create "chef" (stew otherAllergens declaresNone)) fun _ => ⟨true, "", ""⟩]

/-- The row of the stew. -/
def stewRow (otherAllergens : Option String) (declaresNone : Option Bool) : ListingRecord :=
  newListing ⟨0, 0⟩ ⟨0, 1⟩ .traiteur (stew otherAllergens declaresNone) none

/-- The caterer publishes it with nuts, and takes the nuts away. -/
def strippedInputs : List (Input listingService) :=
  publishes (some "noix") none ++ [.call (.update "chef" ⟨0, 0⟩ { otherAllergens := .null }) fun _ => ⟨true, "", ""⟩]

/-- The stew is left without allergens, and nobody said that it has none. -/
theorem stripped_stew : ¬Serial.Throughout (InOrder (kitchen papersOnly)) (kitchen papersOnly) strippedInputs := by
  intro hthroughout
  let last := serialRun (kitchen papersOnly) strippedInputs
  have hend : InOrder (kitchen papersOnly) last.state last.calls :=
    hthroughout strippedInputs [] (List.append_nil _).symm
  have hbare : (last.state.listings.find? ⟨0, 0⟩).any (fun l => ¬l.Declares) = true := by decide +kernel
  have hsilent : (last.calls.find? (empties ⟨0, 0⟩)).all (fun c => c.call.declaresNone = false) = true := by
    decide +kernel
  obtain ⟨l, hl, hbare⟩ := (Option.any_eq_true _ _).mp hbare
  obtain hdeclares | ⟨c, hc, hnone⟩ := (hend ⟨0, 0⟩ l rfl hl).2
  · exact of_decide_eq_true hbare hdeclares
  · rw [hc] at hsilent
    cases hnone.symm.trans (of_decide_eq_true hsilent)

theorem nutStew_published :
    (serialRun (kitchen papersOnly) (publishes (some "noix") none)).state.listings.find? ⟨0, 0⟩ =
      some (stewRow (some "noix") none) := by decide +kernel

theorem plainStew_published :
    (serialRun (kitchen papersOnly) (publishes none (some true))).state.listings.find? ⟨0, 0⟩ =
      some (stewRow none (some true)) := by decide +kernel

/-- A stew with nuts can be edited. -/
theorem nutStew_editable_iff : (stewRow (some "noix") none).StaysEditable ↔ (stewRow (some "noix") none).Declares :=
  @staysEditable_iff (kitchen papersOnly) (publishes (some "noix") none) ⟨0, 0⟩ _ rfl nutStew_published

/-- The stew that is published with "Aucun" cannot even be renamed. -/
theorem plainStew_frozen :
    (∃ l, (serialRun (kitchen papersOnly) (publishes none (some true))).state.listings.find? ⟨0, 0⟩ = some l ∧
      ¬l.StaysEditable) ∧
    ((update 1 "chef" ⟨0, 0⟩ { name := .value "Daube maison" }).exec (fun _ => ⟨true, "", ""⟩)
      (serialRun (kitchen papersOnly) (publishes none (some true))).state).result =
        .error (.badRequest "Déclarez au moins un allergène, \"Autres\" (avec précision), ou \"Aucun\"") := by
  constructor
  · refine ⟨stewRow none (some true), plainStew_published, fun h => ?_⟩
    have hrefused : (validateUpdate (stewRow none (some true)) {} 0).isOk = false := by decide +kernel
    rw [h {} 0 ⟨rfl, rfl, rfl, rfl, rfl, rfl, rfl, rfl, rfl⟩] at hrefused
    cases hrefused
  · rfl

end IncaCook
