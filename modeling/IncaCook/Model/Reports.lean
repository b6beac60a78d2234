import IncaCook.Library.Runs
import IncaCook.Model.Database
import IncaCook.Model.Kyc

/-!
# Moderation reports

A user reports a listing or a seller, and an admin resolves or rejects the report. The same thing is
not to be reported again by the same user while the report is pending: `create` looks for such a
report before it files one, with nothing to hold the two together.

The rest of the server adds accounts and changes listings.
-/

namespace IncaCook

open Prog

/-! ## Rows -/

inductive ReportReason where
  | spam | inappropriate | offensive | fake | duplicate | nonFaitMaison | mauvaiseHygiene
  deriving DecidableEq

inductive ReportStatus where
  | pending | dismissed | resolved | rejected
  deriving DecidableEq

inductive ReportTargetType where
  | listing | seller
  deriving DecidableEq

structure Report where
  id : Ulid
  reporterId : UserId
  targetType : ReportTargetType
  /-- a listing or the user of a seller -/
  targetId : Ulid
  reason : ReportReason
  description : Option String
  status : ReportStatus
  reviewedBy : Option UserId
  adminNote : Option String
  deriving DecidableEq

instance : Keyed Report Ulid := ⟨Report.id⟩

/-- A listing, as far as a report asks. -/
structure ReportedListing where
  id : ListingId
  category : SellerCategory
  deriving DecidableEq

instance : Keyed ReportedListing ListingId := ⟨ReportedListing.id⟩

structure ReportDb where
  users : Table User
  listings : Table ReportedListing
  reports : Table Report

namespace ReportDb

def userBySupabaseId (db : ReportDb) (supabaseId : String) : Option User :=
  db.users.rows.find? fun u => u.supabaseId = supabaseId

end ReportDb

/-- The report is one of the reporter on the target, for the reason. -/
def Report.isOf (r : Report) (reporter : UserId) (targetId : Ulid) (reason : ReportReason) : Bool :=
  r.reporterId = reporter && r.targetId = targetId && r.reason = reason

/-- `report.findFirst` -/
def ReportDb.findPending (db : ReportDb) (reporter : UserId) (targetId : Ulid) (reason : ReportReason) :
    Option Report :=
  db.reports.rows.find? fun r => r.isOf reporter targetId reason && r.status = .pending

inductive ReportSite where
  | query
  | readListing (id : ListingId)
  | findPending (reporter : UserId) (targetId : Ulid) (reason : ReportReason)
  | file
  | review (id : Ulid)
  deriving DecidableEq

/-- A statement of the database goes through or is refused by its own content. -/
abbrev reportMachine : Machine := ⟨ReportDb, Unit, ReportSite, Err⟩

abbrev ReportHandler (α : Type) := Prog reportMachine α

abbrev ReportTx (α : Type) := StateT ReportDb (Except Err) α

namespace Reports

/-- An empty id reads as `none`. -/
structure CreateReportDto where
  type : ReportReason
  listingId : Option ListingId
  sellerId : Option UserId
  reason : Option String

/-- The target of the report; a listing goes before a seller. -/
def CreateReportDto.target (dto : CreateReportDto) : Option (ReportTargetType × Ulid) :=
  match dto.listingId, dto.sellerId with
  | some listingId, _ => some (.listing, listingId)
  | none, some sellerId => some (.seller, sellerId)
  | none, none => none

/-- "Non fait maison" is for dishes that should be; any other listing has to exist. -/
def checkListing (dto : CreateReportDto) : ReportHandler Unit :=
  if dto.type = .nonFaitMaison then do
    let listingId ← orThrow dto.listingId (.badRequest "« Non fait maison » nécessite un plat (listingId).")
    let listing ← read (.readListing listingId) fun db => db.listings.find? listingId
    let listing ← orThrow listing (.notFound "Plat introuvable.")
    throwIf (listing.category ≠ .faitMaison)
      (.badRequest "« Non fait maison » ne s'applique qu'aux plats Le Bon Fait Maison.")
  else
    match dto.listingId with
    | none => return ()
    | some listingId => do
      let listing ← read (.readListing listingId) fun db => db.listings.find? listingId
      let _ ← orThrow listing (.notFound "Plat introuvable.")

/-- `report.create` -/
def insertReport (r : Report) : ReportTx Unit := do
  let db ← get
  let reports ← Stmt.orThrow (db.reports.insert? r) .uniqueViolation
  set { db with reports }

def create (me : Nat) (supabaseId : String) (dto : CreateReportDto) : ReportHandler (Ulid × ReportStatus) := do
  let reporter ← read .query fun db => db.userBySupabaseId supabaseId
  let reporter ← orThrow reporter (.notFound "User profile not found")
  let target ← orThrow dto.target (.badRequest "Un listingId ou sellerId est requis.")
  checkListing dto
  let dup ← read (.findPending reporter.id target.2 dto.type) fun db =>
    db.findPending reporter.id target.2 dto.type
  throwIf dup.isSome (.conflict "Vous avez déjà signalé cet élément.")
  let report : Report := ⟨generateUlid me 0, reporter.id, target.1, target.2, dto.type, dto.reason, .pending, none,
    none⟩
  await .file fun _ => insertReport report
  return (report.id, report.status)

structure UpdateReportStatusDto where
  status : ReportStatus
  adminNote : Option String

/-- The report as the review leaves it. -/
def reviewed (dto : UpdateReportStatusDto) (reviewer : Option User) (r : Report) : Report :=
  { r with status := dto.status, adminNote := dto.adminNote, reviewedBy := reviewer.map User.id }

/-- `report.update` -/
def reviewReport (id : Ulid) (dto : UpdateReportStatusDto) (reviewer : Option User) : ReportTx Unit := do
  let db ← get
  let _ ← Stmt.orThrow (db.reports.find? id) .recordNotFound
  set { db with reports := db.reports.update id (reviewed dto reviewer) }

/-- Whatever the report is now: a review may be replaced by another. -/
def updateStatus (id : Ulid) (dto : UpdateReportStatusDto) (reviewerSupabaseId : String) :
    ReportHandler (Ulid × ReportStatus) := do
  throwIf (dto.status ≠ .resolved ∧ dto.status ≠ .rejected) (.badRequest "status doit être RESOLVED ou REJECTED.")
  let existing ← read .query fun db => db.reports.find? id
  let _ ← orThrow existing (.notFound "Signalement introuvable.")
  let reviewer ← read .query fun db => db.userBySupabaseId reviewerSupabaseId
  await (.review id) fun _ => reviewReport id dto reviewer
  return (id, dto.status)

end Reports

/-! ## The service -/

inductive ReportCall where
  | create (supabaseId : String) (dto : Reports.CreateReportDto)
  | updateStatus (id : Ulid) (dto : Reports.UpdateReportStatusDto) (reviewerSupabaseId : String)

def reportHandle (me : Nat) : ReportCall → ReportHandler (Ulid × ReportStatus)
  | .create sub dto => Reports.create me sub dto
  | .updateStatus id dto sub => Reports.updateStatus id dto sub

inductive ReportEvent where
  | user (u : User)
  | listings (rows : Table ReportedListing)

/-- Accounts are added, and listings come and go. -/
def applyReportEvent : ReportEvent → ReportDb → ReportDb
  | .user u, db => { db with users := (db.users.insert? u).getD db.users }
  | .listings rows, db => { db with listings := rows }

def reportService : Service reportMachine where
  Call := ReportCall
  Reply := Ulid × ReportStatus
  Event := ReportEvent
  handle := reportHandle
  admits := fun _ _ => true
  event := applyReportEvent

end IncaCook
