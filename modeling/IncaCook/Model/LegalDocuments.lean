import IncaCook.Library.Runs
import IncaCook.Model.Strikes

/-!
# Legal documents

`LegalDocumentsService`: admins draft the CGU and the CGV, edit them, and publish a
version; publishing deactivates the version of the same kind that was active before.
The database keeps (kind, version) unique. A write may also fail by itself, in which
case nothing is written.
-/

namespace IncaCook

open Prog

inductive CharterKind where
  | cgu | cgv | hygiene | faitMaison | punctuality | care
  deriving DecidableEq, Repr

/-- The kind as the error texts spell it. -/
def CharterKind.text : CharterKind → String
  | .cgu => "CGU"
  | .cgv => "CGV"
  | .hygiene => "HYGIENE"
  | .faitMaison => "FAIT_MAISON"
  | .punctuality => "PUNCTUALITY"
  | .care => "CARE"

abbrev LegalDocumentId := Ulid

structure LegalDocument where
  id : LegalDocumentId
  kind : CharterKind
  version : String
  title : String
  content : String
  isActive : Bool
  publishedAt : Option Time
  createdBy : Option UserId
  updatedBy : Option UserId
  createdAt : Time
  updatedAt : Time
  deriving DecidableEq

instance : Keyed LegalDocument LegalDocumentId := ⟨LegalDocument.id⟩

structure LegalDb where
  now : Time
  users : Table User
  legalDocuments : Table LegalDocument

inductive LegalSite where
  | query
  | create (kind : CharterKind) (version : String)
  | update (id : LegalDocumentId)
  | publish (id : LegalDocumentId)
  | sendToUsers (kind : CharterKind) (version : String)
  deriving DecidableEq

abbrev legalMachine : Machine := ⟨LegalDb, Answer, LegalSite, Err⟩

abbrev LegalHandler (α : Type) := Prog legalMachine α

abbrev LegalTx (α : Type) := StateT LegalDb (Except Err) α

namespace LegalDocuments

/-! ## Request bodies and views -/

structure CreateLegalDocumentDto where
  kind : CharterKind
  version : String
  title : String
  content : String

structure UpdateLegalDocumentDto where
  version : Option String
  title : Option String
  content : Option String

structure LegalDocumentView where
  id : LegalDocumentId
  kind : CharterKind
  version : String
  title : String
  content : String
  isActive : Bool
  publishedAt : Option Time
  createdAt : Time
  updatedAt : Time
  deriving DecidableEq

def toView (doc : LegalDocument) : LegalDocumentView :=
  ⟨doc.id, doc.kind, doc.version, doc.title, doc.content, doc.isActive, doc.publishedAt,
    doc.createdAt, doc.updatedAt⟩

/-! ## Statements -/

/-- Only these kinds are managed by this feature. -/
def legalKinds : List CharterKind := [.cgu, .cgv]

def alreadyExists (kind : CharterKind) (version : String) : Err :=
  .conflict ("Un document " ++ kind.text ++ " en version " ++ version ++ " existe déjà.")

def findByKindVersion (db : LegalDb) (kind : CharterKind) (version : String) : Option LegalDocument :=
  db.legalDocuments.rows.find? fun d => d.kind = kind && d.version = version

/-- Refused when another document has the kind and the version. -/
def uniqueKindVersion (id : LegalDocumentId) (kind : CharterKind) (version : String) : LegalTx Unit := do
  let db ← get
  Stmt.throwIf (db.legalDocuments.rows.any fun d => d.id ≠ id && d.kind = kind && d.version = version)
    .uniqueViolation

def insertDraft (id : LegalDocumentId) (dto : CreateLegalDocumentDto) (adminId : Option UserId)
    (answer : Answer) : LegalTx LegalDocument := do
  Stmt.throwIf (¬answer.ok) .database
  uniqueKindVersion id dto.kind dto.version
  let db ← get
  let doc : LegalDocument := ⟨id, dto.kind, dto.version, dto.title, dto.content, false, none, adminId,
    adminId, db.now, db.now⟩
  let legalDocuments ← Stmt.orThrow (db.legalDocuments.insert? doc) .uniqueViolation
  set { db with legalDocuments }
  return doc

/-- The row after an edit: what the body leaves out stays. -/
def edited (dto : UpdateLegalDocumentDto) (adminId : Option UserId) (now : Time) (d : LegalDocument) :
    LegalDocument :=
  { d with
    version := dto.version.getD d.version
    title := dto.title.getD d.title
    content := dto.content.getD d.content
    updatedBy := adminId
    updatedAt := now }

def editDocument (id : LegalDocumentId) (dto : UpdateLegalDocumentDto) (adminId : Option UserId)
    (answer : Answer) : LegalTx LegalDocument := do
  Stmt.throwIf (¬answer.ok) .database
  let db ← get
  let doc ← Stmt.orThrow (db.legalDocuments.find? id) .recordNotFound
  uniqueKindVersion id doc.kind (dto.version.getD doc.version)
  set { db with legalDocuments := db.legalDocuments.update id (edited dto adminId db.now) }
  return edited dto adminId db.now doc

/-- The row after publishing, by what the handler has read of it. -/
def activated (target : LegalDocument) (adminId : Option UserId) (now : Time) (d : LegalDocument) :
    LegalDocument :=
  { d with
    isActive := true
    publishedAt := some (target.publishedAt.getD now)
    updatedBy := adminId
    updatedAt := now }

/-- The transaction of `publish`. -/
def publishDocument (target : LegalDocument) (adminId : Option UserId) (answer : Answer) :
    LegalTx LegalDocument := do
  Stmt.throwIf (¬answer.ok) .database
  modify fun db => { db with
    legalDocuments := db.legalDocuments.updateMany
      (fun d => d.kind = target.kind && d.isActive && d.id ≠ target.id)
      fun d => { d with isActive := false, updatedAt := db.now } }
  -- published once, published for good: the first date is kept
  let db ← get
  let doc ← Stmt.orThrow (db.legalDocuments.find? target.id) .recordNotFound
  set { db with legalDocuments := db.legalDocuments.update target.id (activated target adminId db.now) }
  return activated target adminId db.now doc

/-! ## The handlers -/

def getOrThrow (id : LegalDocumentId) : LegalHandler LegalDocument := do
  let doc ← read .query fun db => db.legalDocuments.find? id
  orThrow (doc.filter fun d => d.kind ∈ legalKinds) (.notFound "Document légal introuvable.")

def resolveLocalUserId (supabaseId : String) : LegalHandler (Option UserId) :=
  read .query fun db => (db.users.rows.find? fun u => u.supabaseId = supabaseId).map User.id

/-- Best effort: however the push ends, publishing goes on. -/
def notifyUsersOfUpdate (kind : CharterKind) (version : String) : LegalHandler Unit := do
  let userIds ← read .query fun db => db.users.rows.map User.id
  if userIds.isEmpty then
    return ()
  else
    ask (.sendToUsers kind version) fun _ _ => ()

/-- The active document of each kind. -/
def activeAll : LegalHandler (List LegalDocumentView) :=
  read .query fun db => (legalKinds.flatMap fun kind =>
    db.legalDocuments.rows.filter fun d => d.kind = kind && d.isActive).map toView

/-- Creates a draft. -/
def create (me : Nat) (dto : CreateLegalDocumentDto) (adminSupabaseId : String) :
    LegalHandler LegalDocumentView := do
  let existing ← read .query fun db => findByKindVersion db dto.kind dto.version
  throwIf (existing.isSome) (alreadyExists dto.kind dto.version)
  let adminId ← resolveLocalUserId adminSupabaseId
  let doc ← await (.create dto.kind dto.version) (insertDraft (generateUlid me 0) dto adminId)
  return toView doc

/-- A new version, not the empty text, that another document of the kind has. -/
def checkVersion (id : LegalDocumentId) (current : LegalDocument) (version : Option String) :
    LegalHandler Unit :=
  match version with
  | none => return ()
  | some version =>
    if version = "" ∨ version = current.version then
      return ()
    else do
      let clash ← read .query fun db => findByKindVersion db current.kind version
      throwIf (clash.any fun d => d.id ≠ id) (alreadyExists current.kind version)

/-- Edits version, title and content; the kind stays. -/
def update (id : LegalDocumentId) (dto : UpdateLegalDocumentDto) (adminSupabaseId : String) :
    LegalHandler LegalDocumentView := do
  let current ← getOrThrow id
  checkVersion id current dto.version
  let adminId ← resolveLocalUserId adminSupabaseId
  let doc ← await (.update id) (editDocument id dto adminId)
  return toView doc

/-- Makes a document the active one of its kind. -/
def publish (id : LegalDocumentId) (adminSupabaseId : String) : LegalHandler LegalDocumentView := do
  let target ← getOrThrow id
  let adminId ← resolveLocalUserId adminSupabaseId
  let published ← await (.publish id) (publishDocument target adminId)
  notifyUsersOfUpdate published.kind published.version
  return toView published

end LegalDocuments

/-! ## The service -/

inductive LegalCall where
  | create (dto : LegalDocuments.CreateLegalDocumentDto) (adminSupabaseId : String)
  | update (id : LegalDocumentId) (dto : LegalDocuments.UpdateLegalDocumentDto)
      (adminSupabaseId : String)
  | publish (id : LegalDocumentId) (adminSupabaseId : String)
  | activeAll

inductive LegalReply where
  | document (view : LegalDocuments.LegalDocumentView)
  | documents (views : List LegalDocuments.LegalDocumentView)

def legalHandle (me : Nat) : LegalCall → LegalHandler LegalReply
  | .create dto sub => do return .document (← LegalDocuments.create me dto sub)
  | .update id dto sub => do return .document (← LegalDocuments.update id dto sub)
  | .publish id sub => do return .document (← LegalDocuments.publish id sub)
  | .activeAll => do return .documents (← LegalDocuments.activeAll)

/-- Time passes, and accounts come and go. -/
inductive LegalEvent where
  | tick (ms : Nat)
  | accounts (users : Table User)

def applyLegalEvent : LegalEvent → LegalDb → LegalDb
  | .tick ms, db => { db with now := db.now + ms }
  | .accounts users, db => { db with users }

def legalService : Service legalMachine where
  Call := LegalCall
  Reply := LegalReply
  Event := LegalEvent
  handle := legalHandle
  admits := fun _ _ => true
  event := applyLegalEvent

/-- The table as its migration creates it, without a document. -/
def LegalDb.migrated (now : Time) (users : Table User) : LegalDb := ⟨now, users, .empty⟩

end IncaCook
