import IncaCook.Model.Kyc
import IncaCook.Model.LegalDocuments

/-!
# Onboarding

`OnboardingService.getOnboardingState`: the steps of a role's sign-up wizard, derived from
the profile, the addresses, the uploaded documents and the accepted charters, the step to
resume at, and whether a seller may list and a driver deliver.

The rows hold the columns that the state is derived from. A user has at most one document
of a type: the documents are keyed by both.
-/

namespace IncaCook

/-! ## Rows -/

inductive AddressKind where
  | buyerDelivery | sellerPickup | driverHome
  deriving DecidableEq, Repr

/-- A JSON value, as a `Json?` column holds it. -/
inductive JsonValue where
  | null
  | bool (b : Bool)
  | number (n : JsNumber)
  | string (s : String)
  | array (items : List JsonValue)
  | object (fields : List (String × JsonValue))

structure BuyerProfile where
  userId : UserId
  dietaryPreferences : List String
  allergies : List String
  createdAt : Time
  updatedAt : Time
  deriving DecidableEq

structure DriverRecord extends DriverSetup where
  dateOfBirth : Option String
  deriving DecidableEq

structure SellerBusiness where
  userId : UserId
  businessName : String
  deriving DecidableEq

structure SellerCuisine where
  userId : UserId
  cuisineType : String
  deriving DecidableEq

structure DriverZone where
  userId : UserId
  zoneId : String
  deriving DecidableEq

structure SavedAddress where
  id : AddressId
  userId : UserId
  kind : AddressKind
  deletedAt : Option Time
  deriving DecidableEq

/-- An uploaded document. -/
structure KycSlot where
  userId : UserId
  type : KycDocType
  reviewState : KycStatus
  metadata : JsonValue

structure UserCharter where
  userId : UserId
  charter : CharterKind
  version : String
  deriving DecidableEq

instance : Keyed BuyerProfile UserId := ⟨BuyerProfile.userId⟩
instance : Keyed DriverRecord UserId := ⟨fun p => p.userId⟩
instance : Keyed SellerBusiness UserId := ⟨SellerBusiness.userId⟩
instance : Keyed SellerCuisine (UserId × String) := ⟨fun c => (c.userId, c.cuisineType)⟩
instance : Keyed DriverZone (UserId × String) := ⟨fun z => (z.userId, z.zoneId)⟩
instance : Keyed SavedAddress AddressId := ⟨SavedAddress.id⟩
instance : Keyed KycSlot (UserId × KycDocType) := ⟨fun d => (d.userId, d.type)⟩
instance : Keyed UserCharter (UserId × CharterKind × String) := ⟨fun c => (c.userId, c.charter, c.version)⟩

structure OnboardingDb where
  users : Table User
  buyerProfiles : Table BuyerProfile
  sellerProfiles : Table SellerSetup
  driverProfiles : Table DriverRecord
  businesses : Table SellerBusiness
  cuisines : Table SellerCuisine
  zones : Table DriverZone
  addresses : Table SavedAddress
  kycDocuments : Table KycSlot
  userCharters : Table UserCharter

/-! ## Steps -/

inductive StepStatus where
  | complete | incomplete | skipped | pendingReview
  deriving DecidableEq, Repr

/-- `s === 'complete' || s === 'skipped'` -/
def StepStatus.isDone (s : StepStatus) : Bool := s = .complete || s = .skipped

inductive BuyerStepKey where
  | addresses | preferences
  deriving DecidableEq, Repr

inductive SellerStepKey where
  | profile | addresses | business | cuisines | kycId | kycSelfie | charter
  deriving DecidableEq, Repr

inductive DriverStepKey where
  | addresses | vehicle | zones | kycId | kycSelfie | documents | charter
  deriving DecidableEq, Repr

namespace Onboarding

/-- Wizard step order per role. `next` is the first incomplete step here. -/
def buyerOrder : List BuyerStepKey := [.addresses, .preferences]

@[inherit_doc buyerOrder]
def sellerOrder : List SellerStepKey :=
  [.profile, .addresses, .business, .cuisines, .kycId, .kycSelfie, .charter]

@[inherit_doc buyerOrder]
def driverOrder : List DriverStepKey :=
  [.addresses, .vehicle, .zones, .kycId, .kycSelfie, .documents, .charter]

inductive OnboardingStateDto where
  | buyer (next : Option BuyerStepKey) (steps : BuyerStepKey → StepStatus)
  | seller (next : Option SellerStepKey) (steps : SellerStepKey → StepStatus)
      (kycReviewState : KycStatus) (canList : Bool)
  | driver (next : Option DriverStepKey) (steps : DriverStepKey → StepStatus)
      (kycReviewState : KycStatus) (canDeliver : Bool)

/-! ## Helpers -/

def firstIncomplete {K : Type} (order : List K) (steps : K → StepStatus) : Option K :=
  order.find? fun step => steps step = .incomplete

/-- Complete when the condition holds. -/
def completeIf (c : Bool) : StepStatus := if c then .complete else .incomplete

/-- Status of a single document slot: missing or rejected is incomplete, the user needs to
upload; pending awaits the review. -/
def derivSlotStatus (docs : List KycSlot) (slot : KycDocType) : StepStatus :=
  match docs.find? fun d => d.type = slot with
  | none => .incomplete
  | some doc =>
    if doc.reviewState = .rejected then .incomplete
    else if doc.reviewState = .pending then .pendingReview
    else .complete

/-- Aggregate status of multiple slots that make up one step. -/
def aggregateStepStatuses (slots : List StepStatus) : StepStatus :=
  if slots.any (· = .incomplete) then .incomplete
  else if slots.any (· = .pendingReview) then .pendingReview
  else .complete

/-- The values of the enum `IdDocumentType`. -/
def idDocumentType? (value : String) : Option IdDocumentType :=
  if value = "CARTE_IDENTITE" then some .carteIdentite
  else if value = "PASSEPORT" then some .passeport
  else if value = "TITRE_SEJOUR" then some .titreSejour
  else none

/-- The kind of identity document that the upload has stashed in the metadata. -/
def readIdDocumentType (metadata : JsonValue) : Option IdDocumentType :=
  match metadata with
  | .object fields =>
    match fields.lookup "idDocumentType" with
    | some (.string value) => idDocumentType? value
    | _ => none
  | _ => none

/-- Document types whose verso must also be photographed. -/
def idDocumentTypesRequiringVerso : List IdDocumentType := [.carteIdentite, .titreSejour]

/-- ID_FRONT, and ID_BACK if the chosen document type requires the verso. -/
def derivKycIdStatus (docs : List KycSlot) : StepStatus :=
  match docs.find? fun d => d.type = .idFront with
  | none => .incomplete
  | some front =>
    if front.reviewState = .rejected then .incomplete
    else
      let requiresVerso := (readIdDocumentType front.metadata).any (· ∈ idDocumentTypesRequiringVerso)
      let slot := if front.reviewState = .pending then StepStatus.pendingReview else .complete
      if requiresVerso then
        match docs.find? fun d => d.type = .idBack with
        | none => .incomplete
        | some back =>
          if back.reviewState = .rejected then .incomplete
          else aggregateStepStatuses
            [slot, if back.reviewState = .pending then StepStatus.pendingReview else .complete]
      else aggregateStepStatuses [slot]

/-- SCOOTER and CAR require a driving licence and a carte grise. -/
def motorizedVehicles : List DriverVehicleType := [.scooter, .car]

/-- Currently-active charter versions. -/
def activeCharterVersions : CharterKind → String
  | .cgu | .cgv | .hygiene | .faitMaison | .punctuality | .care => "v1.0"

/-! ## Reads -/

def hasLiveAddress (db : OnboardingDb) (userId : UserId) (kind : AddressKind) : Bool :=
  db.addresses.rows.any fun a => a.userId = userId && a.kind = kind && a.deletedAt.isNone

def documentsOf (db : OnboardingDb) (userId : UserId) : List KycSlot :=
  db.kycDocuments.rows.filter fun d => d.userId = userId

/-- Complete when the active version of every required charter is accepted. -/
def charterStatus (db : OnboardingDb) (userId : UserId) (required : List CharterKind) : StepStatus :=
  if required.length = 0 then .complete
  else
    let rows := db.userCharters.rows.filter fun r =>
      r.userId = userId && required.any fun c => r.charter = c && r.version = activeCharterVersions c
    let accepted := rows.map UserCharter.charter
    completeIf (required.all (· ∈ accepted))

/-! ## The three roles -/

def buyerState (db : OnboardingDb) (userId : UserId) : OnboardingStateDto :=
  let preferencesTouched := (db.buyerProfiles.find? userId).any fun p =>
    p.createdAt < p.updatedAt || 0 < p.dietaryPreferences.length || 0 < p.allergies.length
  let steps : BuyerStepKey → StepStatus
    | .addresses => completeIf (hasLiveAddress db userId .buyerDelivery)
    | .preferences => completeIf preferencesTouched
  .buyer (firstIncomplete buyerOrder steps) steps

structure SellerSummary where
  category : Option SellerCategory
  kycStatus : KycStatus
  hasBusiness : Bool
  cuisineCount : Nat

def sellerState (db : OnboardingDb) (userId : UserId) (summary : SellerSummary) : OnboardingStateDto :=
  let kycDocs := documentsOf db userId
  let profileComplete := (db.sellerProfiles.find? userId).any fun p =>
    (truthy p.displayName).isSome && (truthy p.profilePhotoUrl).isSome && p.dateOfBirth.isSome &&
      summary.category.isSome
  let isFaitMaison := summary.category = some .faitMaison
  let requiredCharters := if isFaitMaison then [CharterKind.hygiene, .faitMaison] else [.hygiene]
  let steps : SellerStepKey → StepStatus
    | .profile => completeIf profileComplete
    | .addresses => completeIf (hasLiveAddress db userId .sellerPickup)
    | .business => if isFaitMaison then .skipped else completeIf summary.hasBusiness
    | .cuisines => completeIf (0 < summary.cuisineCount)
    | .kycId => if isFaitMaison then .skipped else derivKycIdStatus kycDocs
    | .kycSelfie => if isFaitMaison then .skipped else derivSlotStatus kycDocs .selfie
    | .charter => charterStatus db userId requiredCharters
  let allDone := sellerOrder.all fun step => (steps step).isDone
  let canList := allDone && summary.kycStatus = .approved
  .seller (firstIncomplete sellerOrder steps) steps summary.kycStatus canList

structure DriverSummary where
  kycStatus : KycStatus
  vehicleType : Option DriverVehicleType
  zoneCount : Nat

/-- Skipped for a bicycle; a motorised driver uploads the licence and the carte grise. -/
def documentsStatus (kycDocs : List KycSlot) (vehicleType : Option DriverVehicleType) : StepStatus :=
  match vehicleType with
  | none => .incomplete
  | some vehicle =>
    if vehicle ∈ motorizedVehicles then
      aggregateStepStatuses [derivSlotStatus kycDocs .drivingLicense, derivSlotStatus kycDocs .carteGrise]
    else .skipped

def driverState (db : OnboardingDb) (userId : UserId) (summary : DriverSummary) : OnboardingStateDto :=
  let kycDocs := documentsOf db userId
  let hasDateOfBirth := (db.driverProfiles.find? userId).any fun p => p.dateOfBirth.isSome
  let steps : DriverStepKey → StepStatus
    | .addresses => completeIf (hasLiveAddress db userId .driverHome)
    | .vehicle => completeIf (summary.vehicleType.isSome && hasDateOfBirth)
    | .zones => completeIf (0 < summary.zoneCount)
    | .kycId => derivKycIdStatus kycDocs
    | .kycSelfie => derivSlotStatus kycDocs .selfie
    | .documents => documentsStatus kycDocs summary.vehicleType
    | .charter => charterStatus db userId [.punctuality, .care]
  let allDone := driverOrder.all fun step => (steps step).isDone
  let canDeliver := allDone && summary.kycStatus = .approved
  .driver (firstIncomplete driverOrder steps) steps summary.kycStatus canDeliver

def getOnboardingState (db : OnboardingDb) (supabaseId : String) : Except Err OnboardingStateDto :=
  match db.users.rows.find? fun u => u.supabaseId = supabaseId with
  | none => .error (.notFound "User profile not found")
  | some user =>
    let missing : Except Err OnboardingStateDto :=
      .error (.forbidden "Role profile missing — re-call POST /v1/users")
    match user.role with
    | .admin | .moderator =>
      .error (.forbidden "Onboarding state is only for buyer / seller / driver roles")
    | .buyer => .ok (buyerState db user.id)
    | .seller =>
      match db.sellerProfiles.find? user.id with
      | none => missing
      | some p => .ok (sellerState db user.id ⟨p.category, p.kycStatus, (db.businesses.find? user.id).isSome,
          (db.cuisines.rows.filter fun c => c.userId = user.id).length⟩)
    | .driver =>
      match db.driverProfiles.find? user.id with
      | none => missing
      | some p => .ok (driverState db user.id ⟨p.kycStatus, p.vehicleType,
          (db.zones.rows.filter fun z => z.userId = user.id).length⟩)

end Onboarding

end IncaCook
