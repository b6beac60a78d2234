import IncaCook.Library.Paging
import IncaCook.Library.RelyGuarantee
import IncaCook.Model.Onboarding

/-!
# Addresses

The four operations of `UsersService` on saved addresses. A seller's pickup point is
kept twice: on the address, and on the seller's profile, where the radius search reads it.

An address is deleted softly. The partial unique index on pickup and home addresses looks
at the user and the kind, and not at `deletedAt`.

The ids of new addresses are up to the environment.
-/

namespace IncaCook

open Prog Paging

/-! ## Rows -/

inductive SavedAddressType where
  | home | work | other
  deriving DecidableEq, Repr

/-- A `geography(Point, 4326)`. -/
structure GeoPoint where
  lng : Rat
  lat : Rat
  deriving DecidableEq, Repr

structure AddressRecord extends SavedAddress where
  type : Option SavedAddressType
  customLabel : Option String
  fullAddress : String
  city : String
  postalCode : Option String
  point : Option GeoPoint
  apartment : Option String
  floor : Option String
  digicode : Option String
  deliveryNotes : Option String
  updatedAt : Time
  deriving DecidableEq

/-- The denormalised column of a seller's profile. -/
structure SellerLocation where
  userId : UserId
  location : Option GeoPoint
  deriving DecidableEq

instance : Keyed AddressRecord AddressId := ⟨fun a => a.id⟩
instance : Keyed SellerLocation UserId := ⟨SellerLocation.userId⟩

structure AddressDb where
  now : Time
  users : Table User
  sellerProfiles : Table SellerLocation
  addresses : Table AddressRecord

inductive AddressSite where
  | query
  | upsertAddress (u : UserId) (kind : AddressKind)
  | createAddress (u : UserId) (kind : AddressKind)
  | updateAddress (id : AddressId)
  | deleteAddress (id : AddressId)
  | writePoint (id : AddressId)
  | writeLocation (u : UserId)
  deriving DecidableEq

/-- The environment answers with the id of a new address. -/
abbrev addressMachine : Machine := ⟨AddressDb, AddressId, AddressSite, Err⟩

abbrev AddressHandler (α : Type) := Prog addressMachine α

abbrev AddressTx (α : Type) := StateT AddressDb (Except Err) α

namespace AddressDb

def userBySupabaseId (db : AddressDb) (supabaseId : String) : Option User :=
  db.users.rows.find? fun u => u.supabaseId = supabaseId

/-- The user's addresses of a kind that are not deleted. -/
def liveAddresses (db : AddressDb) (u : UserId) (kind : AddressKind) : List AddressRecord :=
  db.addresses.rows.filter fun a => a.userId = u && a.kind = kind && a.deletedAt = none

/-- The one that was updated last. -/
def latestAddress (db : AddressDb) (u : UserId) (kind : AddressKind) : Option AddressRecord :=
  (orderBy (fun a => -(a.updatedAt : ℤ)) (db.liveAddresses u kind)).head?

/-- The address, if it is the user's and not deleted. -/
def ownAddress (db : AddressDb) (u : UserId) (id : AddressId) : Option AddressRecord :=
  (db.addresses.find? id).filter fun a => a.userId = u && a.deletedAt = none

end AddressDb

/-- The kinds of which the index admits one row for each user. -/
def AddressKind.isSingleton (kind : AddressKind) : Bool := kind = .sellerPickup || kind = .driverHome

/-- The kind as the error text spells it. -/
def AddressKind.text : AddressKind → String
  | .buyerDelivery => "BUYER_DELIVERY"
  | .sellerPickup => "SELLER_PICKUP"
  | .driverHome => "DRIVER_HOME"

@[inherit_doc AddressKind.text]
def UserRole.text : UserRole → String
  | .buyer => "BUYER"
  | .seller => "SELLER"
  | .driver => "DRIVER"
  | .admin => "ADMIN"
  | .moderator => "MODERATOR"

namespace Users

/-! ## The body -/

/-- The coordinates are in degrees; the DTO admits finite numbers only. -/
structure UpsertAddressDto where
  fullAddress : String
  city : String
  postalCode : Sent String
  type : Option SavedAddressType
  customLabel : Option String
  apartment : Option String
  floor : Option String
  digicode : Option String
  deliveryNotes : Option String
  lat : Sent Rat
  lng : Sent Rat

/-- `ST_MakePoint`, which is NULL when a coordinate is. -/
def makePoint (lng lat : Option Rat) : Option GeoPoint := do
  let lng ← lng
  let lat ← lat
  return ⟨lng, lat⟩

/-- The columns that every write of an address sets. -/
def addressFields (dto : UpsertAddressDto) (postalCode : Option String) (now : Time) (a : AddressRecord) :
    AddressRecord :=
  { a with
    fullAddress := dto.fullAddress
    city := dto.city
    postalCode := postalCode
    type := dto.type
    customLabel := dto.customLabel
    apartment := dto.apartment
    floor := dto.floor
    digicode := dto.digicode
    deliveryNotes := dto.deliveryNotes
    updatedAt := now }

/-- A new row, without a point. -/
def newAddress (id : AddressId) (userId : UserId) (kind : AddressKind) (dto : UpsertAddressDto)
    (postalCode : Option String) (now : Time) : AddressRecord :=
  ⟨⟨id, userId, kind, none⟩, dto.type, dto.customLabel, dto.fullAddress, dto.city, postalCode, none,
    dto.apartment, dto.floor, dto.digicode, dto.deliveryNotes, now⟩

/-! ## Statements -/

/-- `address.create`; the index counts deleted rows, too. -/
def insertAddress (row : AddressRecord) : AddressTx AddressRecord := do
  let db ← get
  Stmt.throwIf (row.kind.isSingleton && db.addresses.rows.any fun a => a.userId = row.userId && a.kind = row.kind)
    .uniqueViolation
  let addresses ← Stmt.orThrow (db.addresses.insert? row) .uniqueViolation
  set { db with addresses }
  return row

/-- `address.update`. -/
def updateAddress (id : AddressId) (f : AddressRecord → AddressRecord)
    (hf : ∀ a, (f a).id = a.id := by intro _; exact Eq.symm rfl) : AddressTx AddressRecord := do
  let db ← get
  let a ← Stmt.orThrow (db.addresses.find? id) .recordNotFound
  set { db with addresses := db.addresses.update id f hf }
  return f a

/-- Sets the `point` of an address. -/
def setPoint (id : AddressId) (point : Option GeoPoint) : AddressTx Unit :=
  modify fun db => { db with
    addresses := db.addresses.update id fun a : AddressRecord => { a with point } }

/-- Mirrors the point onto `SellerProfile.location`. -/
def setLocation (userId : UserId) (point : Option GeoPoint) : AddressTx Unit :=
  modify fun db => { db with
    sellerProfiles := db.sellerProfiles.update userId fun p : SellerLocation => { p with location := point } }

/-! ## Upsert -/

/-- The role that a kind is reserved for. -/
def roleForKind : AddressKind → UserRole
  | .buyerDelivery => .buyer
  | .sellerPickup => .seller
  | .driverHome => .driver

/-- The transaction of `upsertAddress`. -/
def saveAddress (addressId : AddressId) (userId : UserId) (kind : AddressKind)
    (existing : Option AddressRecord) (dto : UpsertAddressDto) : AddressTx AddressRecord := do
  let now := (← get).now
  let postalCode := truthy dto.postalCode.orNull
  let upserted ← match existing with
    | some existing => updateAddress existing.id (addressFields dto postalCode now)
    | none => insertAddress (newAddress addressId userId kind dto postalCode now)
  if dto.lat.isSent && dto.lng.isSent then
    let point := makePoint dto.lng.orNull dto.lat.orNull
    setPoint upserted.id point
    if kind = .sellerPickup then
      setLocation userId point
  return upserted

/-- Saves the address of a kind: the latest one, or a new one. -/
def upsertAddress (supabaseId : String) (kind : AddressKind) (dto : UpsertAddressDto) :
    AddressHandler AddressRecord := do
  let user ← read .query fun db => db.userBySupabaseId supabaseId
  let user ← orThrow user (.notFound "User profile not found")
  throwIf (user.role ≠ roleForKind kind)
    (.badRequest ("Address kind " ++ kind.text ++ " is reserved for " ++ (roleForKind kind).text))
  let existing ← read .query fun db => db.latestAddress user.id kind
  await (.upsertAddress user.id kind) fun addressId => saveAddress addressId user.id kind existing dto

/-! ## Create, update and delete -/

/-- The kind of address that a role owns. -/
def kindForRole : UserRole → AddressKind
  | .seller => .sellerPickup
  | .driver => .driverHome
  | .buyer => .buyerDelivery
  | .admin => .buyerDelivery
  | .moderator => .buyerDelivery

/-- Writes the point, and mirrors that of a pickup address, when both coordinates are sent. -/
def writePointIfPresent (addressId : AddressId) (userId : UserId) (kind : AddressKind)
    (dto : UpsertAddressDto) : AddressHandler Unit :=
  if dto.lat.isSent && dto.lng.isSent then do
    let point := makePoint dto.lng.orNull dto.lat.orNull
    await (.writePoint addressId) fun _ => setPoint addressId point
    if kind = .sellerPickup then
      await (.writeLocation userId) fun _ => setLocation userId point
    else
      return ()
  else
    return ()

def readAddressCoords (addressId : AddressId) : AddressHandler (Option GeoPoint) :=
  read .query fun db => (db.addresses.find? addressId).bind AddressRecord.point

/-- Creates an address of the kind that the caller's role owns. -/
def createAddress (supabaseId : String) (dto : UpsertAddressDto) :
    AddressHandler (AddressRecord × Option GeoPoint) := do
  let user ← read .query fun db => db.userBySupabaseId supabaseId
  let user ← orThrow user (.notFound "User profile not found")
  let kind := kindForRole user.role
  let row ← await (.createAddress user.id kind) fun addressId => do
    let now := (← get).now
    insertAddress (newAddress addressId user.id kind dto dto.postalCode.orNull now)
  writePointIfPresent row.id user.id kind dto
  let coords ← readAddressCoords row.id
  return (row, coords)

/-- Updates one of the caller's addresses. A postal code that is missing stays. -/
def updateAddressById (supabaseId : String) (addressId : AddressId) (dto : UpsertAddressDto) :
    AddressHandler (AddressRecord × Option GeoPoint) := do
  let user ← read .query fun db => db.userBySupabaseId supabaseId
  let user ← orThrow user (.notFound "User profile not found")
  let existing ← read .query fun db => db.ownAddress user.id addressId
  let existing ← orThrow existing (.notFound "Address not found")
  let row ← await (.updateAddress existing.id) fun _ => do
    let now := (← get).now
    updateAddress existing.id fun a => addressFields dto (dto.postalCode.written a.postalCode) now a
  writePointIfPresent row.id user.id existing.kind dto
  let coords ← readAddressCoords row.id
  return (row, coords)

/-- Soft-deletes one of the caller's addresses. -/
def deleteAddressById (supabaseId : String) (addressId : AddressId) : AddressHandler Unit := do
  let user ← read .query fun db => db.userBySupabaseId supabaseId
  let user ← orThrow user (.notFound "User profile not found")
  let existing ← read .query fun db => db.ownAddress user.id addressId
  let existing ← orThrow existing (.notFound "Address not found")
  let _ ← await (.deleteAddress existing.id) fun _ => do
    let now := (← get).now
    updateAddress existing.id fun a => { a with deletedAt := some now, updatedAt := now }
  return ()

end Users

/-! ## The service -/

inductive AddressCall where
  | upsertAddress (supabaseId : String) (kind : AddressKind) (dto : Users.UpsertAddressDto)
  | createAddress (supabaseId : String) (dto : Users.UpsertAddressDto)
  | updateAddressById (supabaseId : String) (addressId : AddressId) (dto : Users.UpsertAddressDto)
  | deleteAddressById (supabaseId : String) (addressId : AddressId)

/-- The calls reply with the address that they have written. -/
def addressHandle : AddressCall → AddressHandler (Option AddressRecord)
  | .upsertAddress sub kind dto => do return some (← Users.upsertAddress sub kind dto)
  | .createAddress sub dto => do return some (← Users.createAddress sub dto).1
  | .updateAddressById sub id dto => do return some (← Users.updateAddressById sub id dto).1
  | .deleteAddressById sub id => do
    Users.deleteAddressById sub id
    return none

/-- The only event is the passing of time, in milliseconds. -/
def addressService : Service addressMachine where
  Call := AddressCall
  Reply := Option AddressRecord
  Event := Nat
  handle := fun _ => addressHandle
  admits := fun _ _ => true
  event := fun ms db => { db with now := db.now + ms }

end IncaCook
