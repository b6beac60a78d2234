import IncaCook.Library.Embedding
import IncaCook.Library.Paging
import IncaCook.Model.Onboarding

/-!
# Business profiles

`PUT /v1/sellers/me/business` of `SellersService`: the identity and the opening hours of
a seller's business, next to `upsertProfile`, which may change the category that the
identity depends on. The profile edit is the one of the verification services, on the
part of the database that it knows.
-/

namespace IncaCook

open Prog Paging

/-! ## Rows -/

inductive DayOfWeek where
  | monday | tuesday | wednesday | thursday | friday | saturday | sunday
  deriving DecidableEq, Repr

/-- The order of the enumeration. -/
def DayOfWeek.index : DayOfWeek → Nat
  | .monday => 0
  | .tuesday => 1
  | .wednesday => 2
  | .thursday => 3
  | .friday => 4
  | .saturday => 5
  | .sunday => 6

/-- A business with its legal identity. -/
structure BusinessRecord extends SellerBusiness where
  siret : Option String
  facadeUrl : Option String
  legalForm : Option String
  deriving DecidableEq

/-- The opening hours of a day; the times are counted from midnight. -/
structure SellerOpeningHours where
  sellerId : UserId
  dayOfWeek : DayOfWeek
  startTime : Time
  endTime : Time
  deriving DecidableEq

instance : Keyed BusinessRecord UserId := ⟨fun b => b.userId⟩

structure BusinessDb where
  kyc : KycDb
  businesses : Table BusinessRecord
  openingHours : List SellerOpeningHours

inductive BusinessSite where
  | query
  | kyc (site : KycSite)
  | upsertBusiness (u : UserId)
  deriving DecidableEq

abbrev businessMachine : Machine := ⟨BusinessDb, Answer, BusinessSite, Err⟩

abbrev BusinessHandler (α : Type) := Prog businessMachine α

abbrev BusinessTx (α : Type) := StateT BusinessDb (Except Err) α

/-- The profiles and accounts. -/
def kycPart : Machine.Part kycMachine businessMachine where
  get db := db.kyc
  put kyc db := { db with kyc }
  site := .kyc
  answer := id
  error := id
  get_put _ _ := rfl

namespace Sellers

/-! ## The body -/

/-- An `HH:MM` text, on a clock of 24 hours. -/
structure TimeOfDay where
  hour : Fin 24
  minute : Fin 60

def parseTimeOfDay (hhmm : TimeOfDay) : Time := (hhmm.hour * 60 + hhmm.minute) * 60000

structure OpeningHoursDto where
  dayOfWeek : DayOfWeek
  startTime : TimeOfDay
  endTime : TimeOfDay

structure UpsertSellerBusinessDto where
  businessName : String
  siret : Option String
  facadeUrl : Option String
  legalForm : Option String
  openingHours : Option (List OpeningHoursDto)

/-! ## The SIRET -/

/-- `/^\d{14}$/` -/
def isFourteenDigits (siret : List Char) : Bool := siret.length = 14 && siret.all Char.isDigit

/-- The share of a digit in the Luhn sum; every other digit counts twice, and has its
own digits added up. -/
def luhnDigit (twice : Bool) (digit : Nat) : Nat :=
  if twice then
    if digit * 2 > 9 then digit * 2 - 9 else digit * 2
  else digit

/-- The Luhn sum of a SIRET. -/
def luhnSum (siret : List Char) : Nat :=
  (siret.mapIdx fun i c => luhnDigit ((13 - i) % 2 = 1) (c.toNat - '0'.toNat)).sum

/-- 14 digits passing Luhn. -/
def isValidSiret (siret : String) : Bool :=
  isFourteenDigits siret.toList && luhnSum siret.toList % 10 = 0

example : isValidSiret "73282932000074" = true := by decide +kernel

example : isValidSiret "12345678901234" = false := by decide +kernel

/-! ## The write -/

/-- `SellerBusiness.siret` is unique; rows without one do not collide. -/
def siretTaken (db : BusinessDb) (userId : UserId) (siret : Option String) : Bool :=
  siret.any fun s => db.businesses.rows.any fun b => b.userId ≠ userId && b.siret = some s

/-- The columns that both branches of the upsert write. -/
def businessFields (dto : UpsertSellerBusinessDto) (siret : Option String) (b : BusinessRecord) :
    BusinessRecord :=
  { b with
    businessName := dto.businessName
    siret := siret
    facadeUrl := dto.facadeUrl
    legalForm := dto.legalForm }

theorem businessFields_userId (dto : UpsertSellerBusinessDto) (siret : Option String)
    (b : BusinessRecord) : Keyed.key (businessFields dto siret b) = Keyed.key b := rfl

/-- `sellerBusiness.upsert`. -/
def upsertBusinessRow (userId : UserId) (dto : UpsertSellerBusinessDto) (siret : Option String) :
    BusinessTx BusinessRecord := do
  let db ← get
  Stmt.throwIf (siretTaken db userId siret = true) .uniqueViolation
  match db.businesses.find? userId with
  | some b =>
    set { db with
      businesses := db.businesses.update userId (businessFields dto siret)
        (businessFields_userId dto siret) }
    return businessFields dto siret b
  | none =>
    let row : BusinessRecord := ⟨⟨userId, dto.businessName⟩, siret, dto.facadeUrl, dto.legalForm⟩
    let businesses ← Stmt.orThrow (db.businesses.insert? row) .uniqueViolation
    set { db with businesses }
    return row

/-- Replaces the opening hours of the seller; a day occurs once. -/
def replaceOpeningHours (userId : UserId) (hours : List OpeningHoursDto) :
    BusinessTx (List SellerOpeningHours) := do
  let db ← get
  Stmt.throwIf (¬(hours.map OpeningHoursDto.dayOfWeek).Nodup) .uniqueViolation
  let rows := hours.map fun hr =>
    (⟨userId, hr.dayOfWeek, parseTimeOfDay hr.startTime, parseTimeOfDay hr.endTime⟩ : SellerOpeningHours)
  set { db with openingHours := rows ++ db.openingHours.filter fun h : SellerOpeningHours => h.sellerId ≠ userId }
  return orderBy (fun h : SellerOpeningHours => h.dayOfWeek.index) rows

/-- SellerBusiness upsert and opening hours replace in one transaction. -/
def saveBusiness (userId : UserId) (dto : UpsertSellerBusinessDto) (siret : Option String) :
    BusinessTx (BusinessRecord × List SellerOpeningHours) := do
  let business ← upsertBusinessRow userId dto siret
  let openingHours ← replaceOpeningHours userId (dto.openingHours.getD [])
  return (business, openingHours)

/-- Saves the business of the seller. Only a restaurant must give a SIRET; one that is
given must be valid. -/
def upsertBusiness (supabaseId : String) (dto : UpsertSellerBusinessDto) :
    BusinessHandler (BusinessRecord × List SellerOpeningHours) := do
  let userId ← (assertSeller supabaseId).within kycPart
  let profile ← read .query fun db => db.kyc.sellerProfiles.find? userId
  let category := profile.bind SellerSetup.category
  throwIf (category = some .faitMaison)
    (.badRequest "Fait-maison sellers do not have a business profile")
  let siret := truthy (dto.siret.map jsTrim)
  throwIf (category = some .restaurant ∧ siret = none)
    (.badRequest "Veuillez renseigner votre SIRET pour continuer.")
  throwIf (siret.any fun s => !isValidSiret s) (.badRequest "siret must pass Luhn validation")
  await (.upsertBusiness userId) fun _ => saveBusiness userId dto siret

end Sellers

/-! ## The service -/

end IncaCook
