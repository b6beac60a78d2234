import IncaCook.Library.Embedding
import IncaCook.Model.Onboarding

/-!
# Listings

`ListingsService.create`, `update`, `setAvailability` and `softDelete`: how sellers
publish dishes and edit them. An update is validated on the stored listing with the body
merged into it, and writes the fields that the body sends.

A body's date is the time that it parses to. Extras have no ids that could clash.
-/

namespace IncaCook

open Prog

/-! ## Rows -/

inductive CuisineType where
  | orientale | francaise | africaine | portugaise | italienne | espagnole | latine
  deriving DecidableEq, Repr

inductive DishType where
  | entree | plat | dessert | cocktailDinatoire | boisson
  deriving DecidableEq, Repr

inductive DietaryTag where
  | halal | vegan | glutenFree | casher
  deriving DecidableEq, Repr

inductive Allergen where
  | gluten | crustaces | oeufs | poissons | arachides | soja | lait | fruitsACoque | celeri | moutarde
  | sesame | sulfites | lupin | mollusques
  deriving DecidableEq, Repr

/-- The type as the error texts spell it. -/
def DishType.text : DishType → String
  | .entree => "ENTREE"
  | .plat => "PLAT"
  | .dessert => "DESSERT"
  | .cocktailDinatoire => "COCKTAIL_DINATOIRE"
  | .boisson => "BOISSON"

@[inherit_doc DishType.text]
def SellerCategory.text : SellerCategory → String
  | .faitMaison => "FAIT_MAISON"
  | .traiteur => "TRAITEUR"
  | .restaurant => "RESTAURANT"

structure ListingRecord extends Listing where
  category : SellerCategory
  description : Option String
  originalPriceCents : Option Cents
  discountPercent : Option Int
  cuisineTypes : List CuisineType
  dishTypes : List DishType
  dietaryTags : List DietaryTag
  allergens : List Allergen
  otherAllergens : Option String
  isVeg : Bool
  menuCategory : Option String
  prepMinutes : Int
  deriving DecidableEq

structure ListingExtra extends ListingAddOn where
  isSelectedByDefault : Bool
  sortOrder : Nat
  deriving DecidableEq

instance : Keyed ListingRecord ListingId := ⟨fun l => l.id⟩

/-- The tables that only the onboarding reads. -/
structure WizardTables where
  buyerProfiles : Table BuyerProfile
  driverProfiles : Table DriverRecord
  businesses : Table SellerBusiness
  cuisines : Table SellerCuisine
  zones : Table DriverZone
  addresses : Table SavedAddress
  kycDocuments : Table KycSlot
  userCharters : Table UserCharter

structure ListingDb where
  kyc : KycDb
  wizard : WizardTables
  legalDocuments : Table LegalDocument
  listings : Table ListingRecord
  addOns : List ListingExtra

inductive ListingSite where
  | query
  | kyc (site : KycSite)
  | create (id : ListingId)
  | update (id : ListingId)
  | recordTerms (u : UserId) (charter : CharterKind)
  deriving DecidableEq

/-- The errors of the other services, and `BusinessRuleException`, status 422. -/
inductive ListingErr where
  | http (e : Err)
  | businessRule (code message : String)
  deriving DecidableEq, Repr

abbrev listingMachine : Machine := ⟨ListingDb, Answer, ListingSite, ListingErr⟩

abbrev ListingHandler (α : Type) := Prog listingMachine α

abbrev ListingTx (α : Type) := StateT ListingDb (Except ListingErr) α

/-- The profiles and accounts. -/
def listingKycPart : Machine.Part kycMachine listingMachine where
  get db := db.kyc
  put kyc db := { db with kyc }
  site := .kyc
  answer := id
  error := .http
  get_put _ _ := rfl

/-- What the onboarding reads. -/
def ListingDb.onboarding (db : ListingDb) : OnboardingDb where
  users := db.kyc.users
  sellerProfiles := db.kyc.sellerProfiles
  buyerProfiles := db.wizard.buyerProfiles
  driverProfiles := db.wizard.driverProfiles
  businesses := db.wizard.businesses
  cuisines := db.wizard.cuisines
  zones := db.wizard.zones
  addresses := db.wizard.addresses
  kycDocuments := db.wizard.kycDocuments
  userCharters := db.wizard.userCharters

def ListingErr.badRequest (message : String) : ListingErr := .http (.badRequest message)

def ListingErr.forbidden (message : String) : ListingErr := .http (.forbidden message)

namespace Listings

/-! ## Bodies -/

structure CreateListingAddOnDto where
  label : String
  priceDeltaCents : Cents
  isSelectedByDefault : Option Bool

/-- `null` in an optional field is as good as none, but for `expiresAt`. A date is the time
in milliseconds, and `none` when it does not parse. -/
structure CreateListingDto where
  name : String
  description : Option String
  imageUrls : List String
  priceCents : Cents
  originalPriceCents : Option Cents
  discountPercent : Option Int
  portionsLeft : Option Int
  cuisineTypes : Option (List CuisineType)
  dishTypes : Option (List DishType)
  dietaryTags : Option (List DietaryTag)
  allergens : Option (List Allergen)
  otherAllergens : Option String
  declaresNoAllergens : Option Bool
  isAvailable : Option Bool
  isVeg : Option Bool
  menuCategory : Option String
  fulfillment : Fulfillment
  prepMinutes : Int
  expiresAt : Sent (Option ℤ)
  extras : Option (List CreateListingAddOnDto)
  termsAccepted : Option Bool

structure UpdateListingDto where
  name : Sent String := .missing
  description : Sent String := .missing
  imageUrls : Sent (List String) := .missing
  priceCents : Sent Cents := .missing
  originalPriceCents : Sent Cents := .missing
  discountPercent : Sent Int := .missing
  portionsLeft : Sent Int := .missing
  cuisineTypes : Sent (List CuisineType) := .missing
  dishTypes : Sent (List DishType) := .missing
  dietaryTags : Sent (List DietaryTag) := .missing
  allergens : Sent (List Allergen) := .missing
  otherAllergens : Sent String := .missing
  declaresNoAllergens : Sent Bool := .missing
  isAvailable : Sent Bool := .missing
  isVeg : Sent Bool := .missing
  menuCategory : Sent String := .missing
  fulfillment : Sent Fulfillment := .missing
  prepMinutes : Sent Int := .missing
  expiresAt : Sent (Option ℤ) := .missing
  extras : Sent (List CreateListingAddOnDto) := .missing

/-! ## Validation -/

def faitMaisonPriceCapCents : Cents := 450

def dishTypesByCategory : SellerCategory → List DishType
  | .faitMaison => []
  | .restaurant => [.entree, .plat, .dessert, .boisson]
  | .traiteur => [.entree, .plat, .dessert, .boisson, .cocktailDinatoire]

structure ListingShape where
  imageUrls : Option (List String)
  priceCents : Option Cents
  originalPriceCents : Option Cents
  discountPercent : Option Int
  category : Option SellerCategory

def validateListingShape (s : ListingShape) : Except ListingErr Unit :=
  if s.imageUrls.any fun urls => 4 < urls.length then
    .error (.badRequest "imageUrls cannot have more than 4 entries")
  else if s.originalPriceCents.any fun original => s.priceCents.any fun price => original < price then
    .error (.badRequest "originalPriceCents must be >= priceCents")
  else .ok ()

/-- The expiry is a text in a body and a date in a row. -/
structure CategoryShape (δ : Type) where
  priceCents : Option Cents
  portionsLeft : Option Int
  expiresAt : Option δ
  dishTypes : Option (List DishType)

/-- `JSON.stringify` of dish types. -/
def dishTypesText (dishTypes : List DishType) : String :=
  "[" ++ ",".intercalate (dishTypes.map fun dt => "\"" ++ dt.text ++ "\"") ++ "]"

/-- Category-conditional rules. -/
def validateCategoryShape {δ : Type} (s : CategoryShape δ) (category : SellerCategory) :
    Except ListingErr Unit :=
  let isFaitMaison := category = .faitMaison
  let allowed := dishTypesByCategory category
  let invalid := (s.dishTypes.getD []).filter (· ∉ allowed)
  if isFaitMaison && s.priceCents.any fun price => faitMaisonPriceCapCents < price then
    .error (.businessRule "INCACOOK_PRICE_CAP_EXCEEDED" "Fait-maison listings are capped at 4.50€")
  else if isFaitMaison && s.portionsLeft.isNone then
    .error (.badRequest "fait_maison listings require portionsLeft")
  else if isFaitMaison && s.expiresAt.isNone then
    .error (.badRequest "fait_maison listings require expiresAt")
  else if 0 < invalid.length then
    .error (.badRequest ("dishTypes " ++ dishTypesText invalid ++ " not allowed for " ++ category.text ++
      (if allowed.length = 0 then " (no dish types are allowed for this category)"
        else " — allowed: " ++ dishTypesText allowed)))
  else .ok ()

/-- The text is given, and not only of white space. -/
def hasOther (otherAllergens : Option String) : Bool := otherAllergens.any fun s => jsTrim s ≠ ""

/-- Allergen declaration is mandatory at publication: one of the 14, a text, or an explicit
"Aucun" with neither. -/
def validateAllergens (allergens : Option (List Allergen)) (otherAllergens : Option String)
    (declaresNone : Option Bool) : Except ListingErr Unit :=
  let hasReal := 0 < (allergens.getD []).length
  if declaresNone = some true then
    if hasReal || hasOther otherAllergens then
      .error (.badRequest "\"Aucun\" ne peut pas être combiné avec d'autres allergènes")
    else .ok ()
  else if !hasReal && !hasOther otherAllergens then
    .error (.badRequest "Déclarez au moins un allergène, \"Autres\" (avec précision), ou \"Aucun\"")
  else .ok ()

def parseFutureDate (date : Option ℤ) (field : String) (now : Time) : Except ListingErr Time :=
  match date with
  | none => .error (.badRequest (field ++ " must be a valid ISO date"))
  | some t =>
    if t ≤ now then .error (.badRequest (field ++ " must be in the future"))
    else .ok t.toNat

/-- A date that is sent must be in the future. `new Date(null)` is the epoch. -/
def parseExpiresAt (expiresAt : Sent (Option ℤ)) (now : Time) : Except ListingErr (Sent Time) :=
  match expiresAt with
  | .missing => .ok .missing
  | .null => (parseFutureDate (some 0) "expiresAt" now).map .value
  | .value date => (parseFutureDate date "expiresAt" now).map .value

/-- The fields of a listing that are validated. -/
structure MergedShape extends ListingShape where
  portionsLeft : Option Int
  expiresAt : Option Time
  dishTypes : Option (List DishType)

/-- `existing` with the body: `null` leaves the images and the price, and takes the rest away. -/
def mergeForValidation (existing : ListingRecord) (dto : UpdateListingDto) (now : Time) :
    Except ListingErr MergedShape := do
  let expiresAt ← parseExpiresAt dto.expiresAt now
  return {
    imageUrls := some (dto.imageUrls.getD existing.imageUrls)
    priceCents := some (dto.priceCents.getD existing.priceCents)
    originalPriceCents := dto.originalPriceCents.written existing.originalPriceCents
    discountPercent := dto.discountPercent.written existing.discountPercent
    category := some existing.category
    portionsLeft := dto.portionsLeft.written existing.portionsLeft
    expiresAt := expiresAt.written existing.expiresAt
    dishTypes := dto.dishTypes.written (some existing.dishTypes) }

/-- What `update` checks before it writes. -/
def validateUpdate (existing : ListingRecord) (dto : UpdateListingDto) (now : Time) :
    Except ListingErr Unit := do
  let merged ← mergeForValidation existing dto now
  validateListingShape merged.toListingShape
  validateCategoryShape ⟨merged.priceCents, merged.portionsLeft, merged.expiresAt, merged.dishTypes⟩
    existing.category
  validateAllergens (some (dto.allergens.getD existing.allergens))
    (dto.otherAllergens.orNull <|> existing.otherAllergens) dto.declaresNoAllergens.orNull

/-! ## Statements -/

/-- The range of an `Int` column. -/
def fitsInt (n : Int) : Bool := -2147483648 ≤ n && n ≤ 2147483647

end Listings

open Listings in
/-- The row fits its columns and the CHECK constraints. -/
def ListingRecord.storable (l : ListingRecord) : Bool :=
  fitsInt l.priceCents && l.originalPriceCents.all fitsInt && l.discountPercent.all fitsInt &&
    l.portionsLeft.all fitsInt && fitsInt l.prepMinutes &&
    l.imageUrls.length ≤ 4 && l.discountPercent.all (fun d => 0 ≤ d && d ≤ 100) &&
    l.originalPriceCents.all (fun original => l.priceCents ≤ original) &&
    l.portionsLeft.all (fun portions => 0 ≤ portions) && 0 ≤ l.prepMinutes

namespace Listings

/-- The columns that a body sends `null` for, though they are required, or lists. -/
def UpdateListingDto.unsets (dto : UpdateListingDto) : Bool :=
  dto.name.isNull || dto.imageUrls.isNull || dto.priceCents.isNull || dto.cuisineTypes.isNull ||
    dto.dishTypes.isNull || dto.dietaryTags.isNull || dto.allergens.isNull || dto.isAvailable.isNull ||
    dto.isVeg.isNull || dto.fulfillment.isNull || dto.prepMinutes.isNull

/-- The row that `create` inserts. -/
def newListing (id : ListingId) (sellerId : UserId) (category : SellerCategory) (dto : CreateListingDto)
    (expiresAt : Option Time) : ListingRecord where
  id := id
  sellerId := sellerId
  -- category is server-set from the seller's profile
  category := category
  name := dto.name
  description := dto.description
  imageUrls := dto.imageUrls
  priceCents := dto.priceCents
  originalPriceCents := dto.originalPriceCents
  discountPercent := dto.discountPercent
  portionsLeft := dto.portionsLeft
  cuisineTypes := dto.cuisineTypes.getD []
  dishTypes := dto.dishTypes.getD []
  dietaryTags := dto.dietaryTags.getD []
  allergens := dto.allergens.getD []
  otherAllergens := dto.otherAllergens
  isAvailable := dto.isAvailable.getD true
  isVeg := dto.isVeg.getD false
  menuCategory := dto.menuCategory
  fulfillment := dto.fulfillment
  prepMinutes := dto.prepMinutes
  expiresAt := expiresAt
  deletedAt := none

/-- The row after an update: what the body leaves out stays. -/
def patched (dto : UpdateListingDto) (expiresAt : Sent Time) (l : ListingRecord) : ListingRecord :=
  { l with
    name := dto.name.getD l.name
    description := dto.description.written l.description
    imageUrls := dto.imageUrls.getD l.imageUrls
    priceCents := dto.priceCents.getD l.priceCents
    originalPriceCents := dto.originalPriceCents.written l.originalPriceCents
    discountPercent := dto.discountPercent.written l.discountPercent
    portionsLeft := dto.portionsLeft.written l.portionsLeft
    cuisineTypes := dto.cuisineTypes.getD l.cuisineTypes
    dishTypes := dto.dishTypes.getD l.dishTypes
    dietaryTags := dto.dietaryTags.getD l.dietaryTags
    allergens := dto.allergens.getD l.allergens
    otherAllergens := dto.otherAllergens.written l.otherAllergens
    isAvailable := dto.isAvailable.getD l.isAvailable
    isVeg := dto.isVeg.getD l.isVeg
    menuCategory := dto.menuCategory.written l.menuCategory
    fulfillment := dto.fulfillment.getD l.fulfillment
    prepMinutes := dto.prepMinutes.getD l.prepMinutes
    expiresAt := expiresAt.written l.expiresAt }

def insertListing (row : ListingRecord) : ListingTx Unit := do
  Stmt.throwIf (row.storable = false) (.http .database)
  let db ← get
  let listings ← Stmt.orThrow (db.listings.insert? row) (.http .uniqueViolation)
  set { db with listings }

/-- `listing.update`. -/
def updateListing (id : ListingId) (f : ListingRecord → ListingRecord)
    (hf : ∀ l, (f l).id = l.id := by intro _; exact Eq.symm rfl) : ListingTx Unit := do
  let db ← get
  let l ← Stmt.orThrow (db.listings.find? id) (.http .recordNotFound)
  Stmt.throwIf ((f l).storable = false) (.http .database)
  set { db with listings := db.listings.update id f hf }

/-- The extras of a listing, in the order of the body. -/
def replaceExtras (me : Nat) (listingId : ListingId) (extras : List CreateListingAddOnDto) : ListingTx Unit := do
  Stmt.throwIf (extras.any fun e => !fitsInt e.priceDeltaCents) (.http .database)
  modify fun db => { db with
    addOns := db.addOns ++ extras.zipIdx.map fun (e, idx) =>
      ⟨⟨⟨me, idx + 1⟩, listingId, e.label, e.priceDeltaCents⟩, e.isSelectedByDefault.getD false, idx⟩ }

def clearExtras (listingId : ListingId) : ListingTx Unit :=
  modify fun db => { db with addOns := db.addOns.filter (·.listingId ≠ listingId) }

abbrev ListingWithAddOns := ListingRecord × List ListingExtra

def loadWithAddOns (id : ListingId) : ListingTx ListingWithAddOns := do
  let db ← get
  let l ← Stmt.orThrow (db.listings.find? id) (.http (.notFound "Listing not found"))
  return (l, db.addOns.filter (·.listingId = id))

/-! ## The consent -/

/-- The version of a legal document that is published, or the code's own. -/
def activeTermsVersion (db : ListingDb) (kind : CharterKind) : String :=
  let active := db.legalDocuments.rows.filter fun d => d.kind = kind && d.isActive
  (active.getLast?.map LegalDocument.version).getD (Onboarding.activeCharterVersions kind)

/-- The code's own versions when the query fails. -/
def resolveActiveTermsVersions : ListingHandler (CharterKind → String) :=
  ask .query fun answer db =>
    if answer.ok then activeTermsVersion db else Onboarding.activeCharterVersions

def upsertCharter (row : UserCharter) (answer : Answer) : ListingTx Unit := do
  Stmt.throwIf (¬answer.ok) (.http .database)
  let db ← get
  match db.wizard.userCharters.find? (row.userId, row.charter, row.version) with
  | some _ => return ()
  | none =>
    let userCharters ← Stmt.orThrow (db.wizard.userCharters.insert? row) (.http .uniqueViolation)
    set { db with wizard.userCharters := userCharters }

/-- Records the acceptance of the CGU and the CGV. Best-effort: every error is swallowed. -/
def recordTermsAcceptance (userId : UserId) : ListingHandler Unit := do
  let versions ← resolveActiveTermsVersions
  let record (charter : CharterKind) : ListingHandler Unit :=
    tryCatch (await (.recordTerms userId charter) (upsertCharter ⟨userId, charter, versions charter⟩))
      fun _ => pure ()
  record .cgu
  record .cgv

/-! ## Create, update and delete -/

/-- The transaction of `create`. -/
def insertWithExtras (me : Nat) (row : ListingRecord) (extras : List CreateListingAddOnDto) :
    ListingTx ListingWithAddOns := do
  insertListing row
  replaceExtras me row.id extras
  loadWithAddOns row.id

/-- The transaction of `update`. The extras that are sent replace the others. -/
def patchWithExtras (me : Nat) (id : ListingId) (dto : UpdateListingDto) (expiresAt : Sent Time) :
    ListingTx ListingWithAddOns := do
  -- the client refuses null for a required column, and for a list
  Stmt.throwIf (dto.unsets = true) (.http .database)
  updateListing id (patched dto expiresAt)
  match dto.extras with
  | .missing => pure ()
  | .null => throw (.http (.internal "Cannot read properties of null (reading 'length')"))
  | .value extras =>
    clearExtras id
    replaceExtras me id extras
  loadWithAddOns id

def create (me : Nat) (supabaseId : String) (dto : CreateListingDto) : ListingHandler ListingWithAddOns := do
  let seller ← (assertSeller supabaseId ⟨true, true⟩).within listingKycPart
  throwIf (seller.isSuspended = true) (.forbidden "Votre compte vendeur est suspendu.")
  let category ← orThrow seller.profile.category
    (.forbidden "Complete your seller profile before creating listings")
  throwIf (dto.termsAccepted ≠ some true) (.badRequest "Vous devez accepter les CGU/CGV avant de publier.")
  Prog.done (validateListingShape
    ⟨some dto.imageUrls, some dto.priceCents, dto.originalPriceCents, dto.discountPercent, some category⟩)
  Prog.done (validateCategoryShape
    ⟨some dto.priceCents, dto.portionsLeft, dto.expiresAt.orNull, dto.dishTypes⟩ category)
  Prog.done (validateAllergens dto.allergens dto.otherAllergens dto.declaresNoAllergens)
  let now ← read .query fun db => db.kyc.now
  let expiresAt ← Prog.done (parseExpiresAt dto.expiresAt now)
  let id : ListingId := ⟨me, 0⟩
  let created ← await (.create id) fun _ =>
    insertWithExtras me (newListing id seller.sellerId category dto expiresAt.orNull) (dto.extras.getD [])
  recordTermsAcceptance seller.sellerId
  return created

/-- The seller's listing, if it is not deleted. -/
def ownListing (sellerId : UserId) (id : ListingId) (refusal : String) : ListingHandler ListingRecord := do
  let existing ← read .query fun db => db.listings.find? id
  let existing ← orThrow (existing.filter (·.deletedAt = none)) (.http (.notFound "Listing not found"))
  throwIf (existing.sellerId ≠ sellerId) (.forbidden refusal)
  return existing

def update (me : Nat) (supabaseId : String) (id : ListingId) (dto : UpdateListingDto) :
    ListingHandler ListingWithAddOns := do
  let seller ← (assertSeller supabaseId ⟨true, true⟩).within listingKycPart
  let existing ← ownListing seller.sellerId id "Cannot edit another seller's listing"
  let now ← read .query fun db => db.kyc.now
  Prog.done (validateUpdate existing dto now)
  let expiresAt ← Prog.done (parseExpiresAt dto.expiresAt now)
  await (.update id) fun _ => patchWithExtras me id dto expiresAt

def setAvailability (supabaseId : String) (id : ListingId) (isAvailable : Bool) :
    ListingHandler ListingWithAddOns := do
  let seller ← (assertSeller supabaseId ⟨false, true⟩).within listingKycPart
  let _ ← ownListing seller.sellerId id "Cannot edit another seller's listing"
  await (.update id) fun _ => do
    updateListing id fun l => { l with isAvailable }
    loadWithAddOns id

def softDelete (supabaseId : String) (id : ListingId) : ListingHandler Unit := do
  let seller ← (assertSeller supabaseId ⟨false, false⟩).within listingKycPart
  let _ ← ownListing seller.sellerId id "Cannot delete another seller's listing"
  await (.update id) fun _ => do
    let now := (← get).kyc.now
    updateListing id fun l => { l with deletedAt := some now, isAvailable := false }

end Listings

/-! ## The service -/

inductive ListingCall where
  | create (supabaseId : String) (dto : Listings.CreateListingDto)
  | update (supabaseId : String) (id : ListingId) (dto : Listings.UpdateListingDto)
  | setAvailability (supabaseId : String) (id : ListingId) (isAvailable : Bool)
  | softDelete (supabaseId : String) (id : ListingId)

/-- A deletion has no reply. -/
def listingHandle (me : Nat) : ListingCall → ListingHandler (Option Listings.ListingWithAddOns)
  | .create sub dto => do return some (← Listings.create me sub dto)
  | .update sub id dto => do return some (← Listings.update me sub id dto)
  | .setAvailability sub id isAvailable => do return some (← Listings.setAvailability sub id isAvailable)
  | .softDelete sub id => do
    Listings.softDelete sub id
    return none

/-- Time passes, in milliseconds, and other services edit the accounts. -/
inductive ListingEvent where
  | pass (ms : Nat)
  | accounts (kyc : KycDb) (wizard : WizardTables)

def listingService : Service listingMachine where
  Call := ListingCall
  Reply := Option Listings.ListingWithAddOns
  Event := ListingEvent
  handle := listingHandle
  admits := fun _ _ => true
  event := fun
    | .pass ms, db => { db with kyc.now := db.kyc.now + ms }
    | .accounts kyc wizard, db => { db with
        kyc := { kyc with now := db.kyc.now }
        wizard }

end IncaCook
