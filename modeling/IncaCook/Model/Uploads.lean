import IncaCook.Library.Runs
import IncaCook.Model.Addresses

/-!
# Uploads

Clients put their files straight into Supabase's storage. The server signs a URL for one object at a
time and makes up its path; what it can promise about the object rests on the path alone, since
whoever has the URL may put anything there, once, at any time.

Supabase never gives out a token twice, and does not let a signed upload replace an object.
-/

namespace IncaCook

open Prog

inductive UploadPurpose where
  | avatar | kycDocument | listingImage | sellerFacade | deliveryProof | disputeProof
  deriving DecidableEq

def UploadPurpose.text : UploadPurpose → String
  | .avatar => "avatar"
  | .kycDocument => "kyc_document"
  | .listingImage => "listing_image"
  | .sellerFacade => "seller_facade"
  | .deliveryProof => "delivery_proof"
  | .disputeProof => "dispute_proof"

inductive BucketKey where
  | avatars | kyc | listings | sellerFacades
  deriving DecidableEq

/-- `buckets` of `supabaseConfig` -/
structure SupabaseBuckets where
  listings : String := "listings"
  kyc : String := "kyc"
  avatars : String := "avatars"

/-- `<bucket>/<supabaseId>/<ulid>` -/
structure ObjectPath where
  bucket : String
  supabaseId : String
  ulid : Ulid
  deriving DecidableEq

/-- A URL that has been signed. -/
structure SignedUpload where
  token : String
  path : ObjectPath
  deriving DecidableEq

instance : Keyed SignedUpload String := ⟨SignedUpload.token⟩

structure StoredObject where
  path : ObjectPath
  /-- of the URL with which it was put there -/
  token : String
  content : String
  deriving DecidableEq

instance : Keyed StoredObject ObjectPath := ⟨StoredObject.path⟩

structure UploadDb where
  users : Table User
  sellerProfiles : Table SellerSetup
  signed : Table SignedUpload
  objects : Table StoredObject

namespace UploadDb

def userBySupabaseId (db : UploadDb) (supabaseId : String) : Option User :=
  db.users.rows.find? fun u => u.supabaseId = supabaseId

/-- `sellerProfile?.category` -/
def categoryOf (db : UploadDb) (u : UserId) : Option SellerCategory :=
  (db.sellerProfiles.find? u).bind SellerSetup.category

end UploadDb

/-- What Supabase answers to `createSignedUploadUrl`. -/
structure SignAnswer where
  ok : Bool
  token : String
  message : Option String

inductive UploadSite where
  | query
  | sign (path : ObjectPath)
  deriving DecidableEq

abbrev uploadMachine : Machine := ⟨UploadDb, SignAnswer, UploadSite, Err⟩

abbrev UploadHandler (α : Type) := Prog uploadMachine α

abbrev UploadTx (α : Type) := StateT UploadDb (Except Err) α

namespace Uploads

structure PurposeRule where
  bucketConfigKey : BucketKey
  allowedRoles : List UserRole
  blockedFor : Option SellerCategory → Option String := fun _ => none

/-- Home-made sellers are left out, for the reason given. -/
def notFaitMaison (reason : String) (category : Option SellerCategory) : Option String :=
  if category = some .faitMaison then some reason else none

/-- `PURPOSE_RULES` -/
def purposeRules : UploadPurpose → PurposeRule
  | .avatar => { bucketConfigKey := .avatars, allowedRoles := [.buyer, .seller, .driver] }
  | .kycDocument =>
    { bucketConfigKey := .kyc
      allowedRoles := [.seller, .driver]
      blockedFor := notFaitMaison "Fait-maison sellers do not submit KYC" }
  | .listingImage => { bucketConfigKey := .listings, allowedRoles := [.seller] }
  | .sellerFacade =>
    { bucketConfigKey := .sellerFacades
      allowedRoles := [.seller]
      blockedFor := notFaitMaison "Fait-maison sellers do not have a storefront facade" }
  | .deliveryProof => { bucketConfigKey := .avatars, allowedRoles := [.driver] }
  | .disputeProof => { bucketConfigKey := .avatars, allowedRoles := [.buyer] }

def bucketName (buckets : SupabaseBuckets) : BucketKey → String
  | .avatars => buckets.avatars
  | .kyc => buckets.kyc
  | .listings => buckets.listings
  | .sellerFacades => "seller-facades"

/-- `createSignedUploadUrl` -/
def createSignedUploadUrl (path : ObjectPath) (answer : SignAnswer) : UploadTx String := do
  let db ← get
  let refused : Err :=
    .internal ("Failed to create signed upload URL: " ++ answer.message.getD "unknown error")
  Stmt.throwIf (answer.ok = false) refused
  let signed ← Stmt.orThrow (db.signed.insert? ⟨answer.token, path⟩) refused
  set { db with signed }
  return answer.token

def createUploadUrl (buckets : SupabaseBuckets) (me : Nat) (supabaseId : String) (purpose : UploadPurpose) :
    UploadHandler SignedUpload := do
  let rule := purposeRules purpose
  let user ← read .query fun db =>
    (db.userBySupabaseId supabaseId).map fun u => (u.role, db.categoryOf u.id)
  let (role, category) ← orThrow user (.notFound "User profile not found")
  throwIf (role ∉ rule.allowedRoles)
    (.forbidden ("Upload purpose " ++ purpose.text ++ " is not allowed for role " ++ role.text))
  let reason := rule.blockedFor category
  throwIf reason.isSome (.forbidden (reason.getD ""))
  let path : ObjectPath := ⟨bucketName buckets rule.bucketConfigKey, supabaseId, generateUlid me 0⟩
  let token ← await (.sign path) fun answer => createSignedUploadUrl path answer
  return ⟨token, path⟩

end Uploads

/-! ## The service -/

structure UploadCall where
  supabaseId : String
  purpose : UploadPurpose

inductive UploadEvent where
  | user (u : User)
  | sellerProfiles (rows : Table SellerSetup)
  | put (token content : String)

/-- Accounts and profiles change, and somebody puts a file where a URL lets them. -/
def applyUploadEvent : UploadEvent → UploadDb → UploadDb
  | .user u, db => { db with users := (db.users.insert? u).getD db.users }
  | .sellerProfiles rows, db => { db with sellerProfiles := rows }
  | .put token content, db =>
    match db.signed.find? token with
    | none => db
    | some url => { db with objects := (db.objects.insert? ⟨url.path, token, content⟩).getD db.objects }

def uploadService (buckets : SupabaseBuckets) : Service uploadMachine where
  Call := UploadCall
  Reply := SignedUpload
  Event := UploadEvent
  handle := fun me call => Uploads.createUploadUrl buckets me call.supabaseId call.purpose
  admits := fun _ _ => true
  event := applyUploadEvent

end IncaCook
