import IncaCook.Library.Runs
import IncaCook.Model.Checkout

/-!
# Seller verification

The three services that write a seller's `kycStatus`: the profile edit of
`SellersService`, the document upload of `KycDocumentsService` and the review of
`AdminKycDocumentsService`; and the gate in front of the listing mutations that
reads it. They share the tables of this module; an order touches none of them,
so they have a machine of their own.
-/

namespace IncaCook

open Prog

abbrev KycDocumentId := Ulid

inductive SellerCategory where
  | faitMaison | traiteur | restaurant
  deriving DecidableEq, Repr

inductive KycDocType where
  | idFront | idBack | selfie | drivingLicense | carteGrise | insurance
  deriving DecidableEq, Repr

/-- The type as the error texts spell it. -/
def KycDocType.text : KycDocType → String
  | .idFront => "ID_FRONT"
  | .idBack => "ID_BACK"
  | .selfie => "SELFIE"
  | .drivingLicense => "DRIVING_LICENSE"
  | .carteGrise => "CARTE_GRISE"
  | .insurance => "INSURANCE"

@[inherit_doc KycDocType.text]
def KycStatus.text : KycStatus → String
  | .pending => "PENDING"
  | .approved => "APPROVED"
  | .rejected => "REJECTED"

inductive IdDocumentType where
  | carteIdentite | passeport | titreSejour
  deriving DecidableEq, Repr

inductive DriverVehicleType where
  | bicycle | scooter | car
  deriving DecidableEq, Repr

/-! ## Rows -/

/-- A seller's profile with the columns of the sign-up wizard. -/
structure SellerSetup extends SellerProfile where
  category : Option SellerCategory
  displayName : Option String
  bio : Option String
  profilePhotoUrl : Option String
  dateOfBirth : Option String
  neighborhood : Option String
  deliveryRadiusKm : Option Rat
  prepMinMinutes : Option Nat
  prepMaxMinutes : Option Nat
  hygieneCommitment : Option Bool
  faitMaisonCommitment : Option Bool
  deriving DecidableEq

structure DriverSetup extends DriverProfile where
  vehicleType : Option DriverVehicleType
  deriving DecidableEq

structure KycDocument where
  id : KycDocumentId
  userId : UserId
  type : KycDocType
  fileUrl : String
  reviewState : KycStatus
  reviewerId : Option UserId
  reviewedAt : Option Time
  rejectionReason : Option String
  idDocumentType : Option IdDocumentType
  submittedAt : Time
  deriving DecidableEq

instance : Keyed SellerSetup UserId := ⟨fun p => p.userId⟩
instance : Keyed DriverSetup UserId := ⟨fun p => p.userId⟩
instance : Keyed KycDocument KycDocumentId := ⟨KycDocument.id⟩

structure KycDb where
  now : Time
  users : Table User
  sellerProfiles : Table SellerSetup
  driverProfiles : Table DriverSetup
  kycDocuments : Table KycDocument

inductive KycSite where
  | query
  | updateProfile (u : UserId) (category : SellerCategory)
  | upsertDocument (u : UserId) (type : KycDocType)
  | reviewDocument (id : KycDocumentId) (newState : KycStatus)
  deriving DecidableEq

abbrev kycMachine : Machine := ⟨KycDb, Answer, KycSite, Err⟩

abbrev KycHandler (α : Type) := Prog kycMachine α

abbrev KycTx (α : Type) := StateT KycDb (Except Err) α

namespace KycDb

def userBySupabaseId (db : KycDb) (supabaseId : String) : Option User :=
  db.users.rows.find? fun u => u.supabaseId = supabaseId

/-- The documents of a user. -/
def documentsOf (db : KycDb) (u : UserId) : List KycDocument :=
  db.kycDocuments.rows.filter fun d => d.userId = u

end KycDb

/-! ## Statements -/

/-- Writes the rows an update has produced; P2025 when there was nothing to update. -/
def KycTx.put {α : Type} (updated : Option α) (store : α → KycDb → KycDb) : KycTx Unit := fun db =>
  match updated with
  | some rows => .ok ((), store rows db)
  | none => .error .recordNotFound

def updateSellerSetup (id : UserId) (f : SellerSetup → SellerSetup)
    (hf : ∀ p, (f p).userId = p.userId := by intro _; exact Eq.symm rfl) : KycTx Unit := do
  KycTx.put ((← get).sellerProfiles.update? id f hf) fun sellerProfiles db => { db with sellerProfiles }

def updateDriverSetup (id : UserId) (f : DriverSetup → DriverSetup)
    (hf : ∀ p, (f p).userId = p.userId := by intro _; exact Eq.symm rfl) : KycTx Unit := do
  KycTx.put ((← get).driverProfiles.update? id f hf) fun driverProfiles db => { db with driverProfiles }

def updateDocument (id : KycDocumentId) (f : KycDocument → KycDocument)
    (hf : ∀ d, (f d).id = d.id := by intro _; exact Eq.symm rfl) : KycTx Unit := do
  KycTx.put ((← get).kycDocuments.update? id f hf) fun kycDocuments db => { db with kycDocuments }

namespace Sellers

/-! ## The profile edit -/

/-- `PUT /v1/sellers/me/profile`. -/
structure UpsertSellerProfileDto where
  category : SellerCategory
  displayName : String
  bio : Option String
  profilePhotoUrl : String
  dateOfBirth : String
  neighborhood : Option String
  deliveryRadiusKm : Option Rat
  deliveryFeeCents : Option Nat
  prepMinMinutes : Option Nat
  prepMaxMinutes : Option Nat
  hygieneCommitment : Option Bool
  faitMaisonCommitment : Option Bool

def maxRadiusForCategory : SellerCategory → Nat
  | .faitMaison => 10
  | .traiteur => 50
  | .restaurant => 10

/-- The user behind a token, who must be a seller with a profile. -/
def assertSeller (supabaseId : String) : KycHandler UserId := do
  let (user, hasProfile) ← read .query fun db =>
    let user := db.userBySupabaseId supabaseId
    (user, user.any fun u => (db.sellerProfiles.find? u.id).isSome)
  let user ← orThrow user (.notFound "User profile not found")
  throwIf (user.role ≠ .seller ∨ hasProfile = false)
    (.forbidden "Only sellers can update seller profile")
  return user.id

/-- The row after the edit: the delivery fee has a default, and a new `kycStatus` is
written only when there is one. -/
def editedProfile (cfg : Config) (dto : UpsertSellerProfileDto) (nextKycStatus : Option KycStatus)
    (p : SellerSetup) : SellerSetup :=
  { p with
    category := some dto.category
    displayName := some dto.displayName
    bio := dto.bio
    profilePhotoUrl := some dto.profilePhotoUrl
    dateOfBirth := some dto.dateOfBirth
    neighborhood := dto.neighborhood
    deliveryRadiusKm := dto.deliveryRadiusKm
    deliveryFeeCents := some (dto.deliveryFeeCents.getD cfg.deliveryFeeCents : Nat)
    prepMinMinutes := dto.prepMinMinutes
    prepMaxMinutes := dto.prepMaxMinutes
    hygieneCommitment := dto.hygieneCommitment
    faitMaisonCommitment := dto.faitMaisonCommitment
    kycStatus := nextKycStatus.getD p.kycStatus }

/-- Edits the profile. A fait-maison seller is approved without documents; nobody
is demoted. -/
def upsertProfile (cfg : Config) (supabaseId : String) (dto : UpsertSellerProfileDto) :
    KycHandler Unit := do
  let userId ← assertSeller supabaseId
  throwIf (dto.prepMinMinutes.any fun lo => dto.prepMaxMinutes.any fun hi => hi < lo)
    (.badRequest "prepMaxMinutes must be >= prepMinMinutes")
  throwIf (dto.deliveryRadiusKm.any fun km => decide ((maxRadiusForCategory dto.category : Rat) < km))
    (.badRequest ("deliveryRadiusKm dépasse le maximum autorisé (" ++
      toString (maxRadiusForCategory dto.category) ++ " km) pour cette catégorie."))
  let next ← read .query fun db => db.sellerProfiles.find? userId
  -- a rejected profile is not approved by changing the category
  let nextKycStatus :=
    if dto.category = .faitMaison ∧ next.any (fun p => p.kycStatus = .pending) then
      some KycStatus.approved
    else none
  await (.updateProfile userId dto.category) fun _ =>
    updateSellerSetup userId (editedProfile cfg dto nextKycStatus)

end Sellers

namespace Kyc

/-! ## The document upload -/

def sellerAllowed : List KycDocType := [.idFront, .idBack, .selfie]

def driverMotorizedOnly : List KycDocType := [.drivingLicense, .carteGrise, .insurance]

def motorizedVehicles : List DriverVehicleType := [.scooter, .car]

structure UpsertKycDocumentDto where
  type : KycDocType
  fileUrl : String
  idDocumentType : Option IdDocumentType

/-- A user with the profiles of their role. -/
structure Account where
  user : User
  sellerProfile : Option SellerSetup
  driverProfile : Option DriverSetup

def accountBySupabaseId (db : KycDb) (supabaseId : String) : Option Account :=
  (db.userBySupabaseId supabaseId).map fun user =>
    ⟨user, db.sellerProfiles.find? user.id, db.driverProfiles.find? user.id⟩

/-- Which slot a seller may fill. -/
def checkSellerSlot (profile : Option SellerSetup) (type : KycDocType) : KycHandler Unit := do
  let profile ← orThrow profile (.badRequest "Seller profile missing")
  throwIf (profile.category = some .faitMaison)
    (.badRequest "Fait-maison sellers do not submit KYC")
  throwIf (type ∉ sellerAllowed) (.badRequest ("Seller cannot submit a " ++ type.text ++ " document"))

/-- Which slot a driver may fill. -/
def checkDriverSlot (profile : Option DriverSetup) (type : KycDocType) : KycHandler Unit := do
  let profile ← orThrow profile (.badRequest "Driver profile missing")
  if type ∈ driverMotorizedOnly then
    let vehicleType ← orThrow profile.vehicleType
      (.badRequest "Set vehicle type before submitting motorized documents")
    throwIf (vehicleType ∉ motorizedVehicles)
      (.badRequest (type.text ++ " is for motorized vehicles only"))

/-- `kycDocument.upsert`, keyed on the user and the type. -/
def saveDocument (me : Nat) (userId : UserId) (dto : UpsertKycDocumentDto) : KycTx Unit := do
  let db ← get
  match db.kycDocuments.rows.find? fun d => d.userId = userId && d.type = dto.type with
  | some d =>
    -- a new file is a new submission: the old review goes
    updateDocument d.id fun d => { d with
      fileUrl := dto.fileUrl
      reviewState := .pending
      rejectionReason := none
      reviewerId := none
      reviewedAt := none
      idDocumentType := dto.idDocumentType
      submittedAt := db.now }
  | none =>
    KycTx.put (db.kycDocuments.insert? ⟨generateUlid me 0, userId, dto.type, dto.fileUrl, .pending, none,
      none, none, dto.idDocumentType, db.now⟩) fun kycDocuments db => { db with kycDocuments }

/-- A rejected profile goes back to PENDING, an approved one stays. The statuses
are those the handler has read. -/
def resetRejected (account : Account) : KycTx Unit :=
  if account.user.role = .seller ∧ account.sellerProfile.any (fun p => p.kycStatus = .rejected) then
    updateSellerSetup account.user.id fun p => { p with kycStatus := .pending }
  else if account.user.role = .driver ∧
      account.driverProfile.any (fun p => p.kycStatus = .rejected) then
    updateDriverSetup account.user.id fun p => { p with kycStatus := .pending }
  else
    pure ()

/-- The transaction of `upsert`. -/
def upsertDocument (me : Nat) (account : Account) (dto : UpsertKycDocumentDto) : KycTx Unit := do
  saveDocument me account.user.id dto
  resetRejected account

def upsert (me : Nat) (supabaseId : String) (dto : UpsertKycDocumentDto) : KycHandler Unit := do
  let account ← read .query fun db => accountBySupabaseId db supabaseId
  let account ← orThrow account (.notFound "User profile not found")
  throwIf (account.user.role ≠ .seller ∧ account.user.role ≠ .driver)
    (.forbidden "KYC documents are only for sellers and drivers")
  if account.user.role = .seller then
    checkSellerSlot account.sellerProfile dto.type
  else
    checkDriverSlot account.driverProfile dto.type
  throwIf ((dto.type = .idFront ∨ dto.type = .idBack) ∧ dto.idDocumentType = none)
    (.badRequest "idDocumentType is required for ID_FRONT / ID_BACK")
  await (.upsertDocument account.user.id dto.type) fun _ => upsertDocument me account dto

/-! ## The review -/

/-- Any rejected: rejected; else any pending, or no document: pending; else approved. -/
def aggregateState (states : List KycStatus) : KycStatus :=
  if states.contains .rejected then .rejected
  else if states.contains .pending then .pending
  else if states.length = 0 then .pending
  else .approved

structure TransitionArgs where
  documentId : KycDocumentId
  reviewerSupabaseId : String
  newState : KycStatus
  rejectionReason : Option String

/-- The document's new review. -/
def reviewedDocument (args : TransitionArgs) (reviewerId : UserId) (now : Time) (d : KycDocument) :
    KycDocument :=
  { d with
    reviewState := args.newState
    rejectionReason := args.rejectionReason
    reviewerId := some reviewerId
    reviewedAt := some now }

/-- Writes the aggregate to the profile of the user's role, if there is one. -/
def mirrorStatus (owner : User) (agg : KycStatus) : KycTx Unit :=
  if owner.role = .seller then
    modify fun db => { db with
      sellerProfiles := db.sellerProfiles.update owner.id fun p => { p with kycStatus := agg } }
  else if owner.role = .driver then
    modify fun db => { db with
      driverProfiles := db.driverProfiles.update owner.id fun p => { p with kycStatus := agg } }
  else
    pure ()

/-- The transaction of `transitionStatus`: the document, then the profile of its
owner, from all the owner's documents. -/
def reviewDocument (args : TransitionArgs) (reviewerId : UserId) (owner : User) : KycTx Unit := do
  let now := (← get).now
  updateDocument args.documentId (reviewedDocument args reviewerId now)
  let states := ((← get).documentsOf owner.id).map KycDocument.reviewState
  mirrorStatus owner (aggregateState states)

def transitionStatus (args : TransitionArgs) : KycHandler Unit := do
  let reviewer ← read .query fun db => db.userBySupabaseId args.reviewerSupabaseId
  let reviewer ← orThrow reviewer (.notFound "Reviewer not found")
  let existing ← read .query fun db =>
    (db.kycDocuments.find? args.documentId).bind fun d => (db.users.find? d.userId).map fun u => (d, u)
  let (existing, owner) ← orThrow existing (.notFound "KYC document not found")
  throwIf (existing.reviewState = args.newState)
    (.conflict ("Document is already " ++ existing.reviewState.text))
  await (.reviewDocument args.documentId args.newState) fun _ =>
    reviewDocument args reviewer.id owner

def approve (documentId : KycDocumentId) (reviewerSupabaseId : String) : KycHandler Unit :=
  transitionStatus ⟨documentId, reviewerSupabaseId, .approved, none⟩

def reject (documentId : KycDocumentId) (reviewerSupabaseId rejectionReason : String) :
    KycHandler Unit :=
  transitionStatus ⟨documentId, reviewerSupabaseId, .rejected, some rejectionReason⟩

end Kyc

namespace Listings

/-! ## The listing gate -/

structure AssertSellerOptions where
  requireKycApproved : Bool
  requireActiveSubscription : Bool

structure AssertedSeller where
  sellerId : UserId
  profile : SellerSetup
  isSuspended : Bool

/-- The seller behind a token, if they may edit listings. -/
def assertSeller (supabaseId : String) (opts : AssertSellerOptions) : KycHandler AssertedSeller := do
  let (account, now) ← read .query fun db => (Kyc.accountBySupabaseId db supabaseId, db.now)
  let account ← orThrow account (.notFound "User profile not found")
  throwIf (account.user.role ≠ .seller) (.forbidden "Only sellers can manage listings")
  let profile ← orThrow account.sellerProfile (.forbidden "Only sellers can manage listings")
  throwIf (opts.requireKycApproved ∧ profile.kycStatus ≠ .approved) (.forbidden "KYC_NOT_APPROVED")
  throwIf (opts.requireActiveSubscription ∧ Orders.isSubscriptionActive profile.subscriptionStatus
    profile.subscriptionCurrentPeriodEnd now = false) (.forbidden "SUBSCRIPTION_INACTIVE")
  return ⟨account.user.id, profile, account.user.isSuspended⟩

end Listings

/-! ## The service -/

inductive KycCall where
  | upsertProfile (supabaseId : String) (dto : Sellers.UpsertSellerProfileDto)
  | upsertDocument (supabaseId : String) (dto : Kyc.UpsertKycDocumentDto)
  | approve (documentId : KycDocumentId) (reviewerSupabaseId : String)
  | reject (documentId : KycDocumentId) (reviewerSupabaseId rejectionReason : String)

def kycHandle (cfg : Config) (me : Nat) : KycCall → KycHandler Unit
  | .upsertProfile sub dto => Sellers.upsertProfile cfg sub dto
  | .upsertDocument sub dto => Kyc.upsert me sub dto
  | .approve id reviewer => Kyc.approve id reviewer
  | .reject id reviewer reason => Kyc.reject id reviewer reason

/-- The only event is the passing of time, in milliseconds. -/
def kycService (cfg : Config) : Service kycMachine where
  Call := KycCall
  Reply := Unit
  Event := Nat
  handle := kycHandle cfg
  admits := fun _ _ => true
  event := fun ms db => { db with now := db.now + ms }

end IncaCook
