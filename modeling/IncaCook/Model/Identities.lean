import IncaCook.Library.Runs
import IncaCook.Model.Onboarding

/-!
# Identities

Three parties know who a user is. Supabase keeps the auth users, who sign in; Prelude checks the
codes that were sent to a phone; and the table `User` has the accounts. `AuthService` carries what
the other two have verified over to the accounts, and `UsersService.createFromJwt` opens an account
for an auth user, with a profile of its role.

The calls of one user run side by side, and between their statements Supabase goes on by itself:
people sign up, confirm an email or edit their metadata.

`accepted` records the codes that Prelude and Supabase have accepted, `told` what Supabase has said
of its auth users.
-/

namespace IncaCook

open Prog

/-! ## Rows -/

/-- An auth user of Supabase. An email of the metadata or of an identity is whatever JSON is
there; one that is missing reads as `null`. -/
structure AuthUser where
  id : String
  email : Option String
  /-- `email_confirmed_at` is set -/
  emailConfirmed : Bool
  phone : Option String
  /-- `phone_confirmed_at` is set -/
  phoneConfirmed : Bool
  metadataEmail : JsonValue
  identityEmails : List JsonValue

/-- A row of `User`, as far as the calls of this module go. -/
structure UserRecord where
  id : UserId
  supabaseId : String
  email : String
  phone : Option String
  role : UserRole
  firstName : String
  lastName : String
  avatarPath : Option String
  emailVerified : Bool
  phoneVerified : Bool
  acceptedCgu : Bool
  acceptedCgv : Bool
  acceptedAt : Time
  deletedAt : Option Time
  deriving DecidableEq

/-- The profile that a new account starts with. -/
structure ProfileStub where
  userId : UserId
  deriving DecidableEq

instance : Keyed AuthUser String := ⟨AuthUser.id⟩
instance : Keyed UserRecord UserId := ⟨UserRecord.id⟩
instance : Keyed ProfileStub UserId := ⟨ProfileStub.userId⟩

/-- A code that was accepted: by Prelude for a phone, or by Supabase for an email, where it opens
a session of an auth user. -/
inductive AcceptedCode where
  | phone (phone code : String)
  | email (email code session : String)
  deriving DecidableEq

structure IdentityDb where
  now : Time
  authUsers : Table AuthUser
  users : Table UserRecord
  buyerProfiles : Table ProfileStub
  sellerProfiles : Table ProfileStub
  driverProfiles : Table ProfileStub
  accepted : List AcceptedCode
  /-- who was asked for, and the answer -/
  told : List (String × Option AuthUser)

namespace IdentityDb

/-- `user.findUnique({ where: { supabaseId } })` -/
def accountOf (db : IdentityDb) (supabaseId : String) : Option UserRecord :=
  db.users.rows.find? fun a => a.supabaseId = supabaseId

/-- `user.findFirst({ where: { email, NOT: { supabaseId } } })`, which skips deleted rows. -/
def emailOwner (db : IdentityDb) (supabaseId email : String) : Option UserRecord :=
  db.users.rows.find? fun a => a.email = email && a.supabaseId ≠ supabaseId && a.deletedAt = none

/-- `user.findFirst({ where: { phone, NOT: { supabaseId } } })` -/
def phoneOwner (db : IdentityDb) (supabaseId phone : String) : Option UserRecord :=
  db.users.rows.find? fun a => a.phone = some phone && a.supabaseId ≠ supabaseId && a.deletedAt = none

def authUserByEmail (db : IdentityDb) (email : String) : Option AuthUser :=
  db.authUsers.rows.find? fun u => u.email = some email

/-- Another row has the phone. -/
def phoneTaken (db : IdentityDb) (id : UserId) (phone : Option String) : Bool :=
  db.users.rows.any fun a => a.id ≠ id && phone.isSome && a.phone = phone

end IdentityDb

/-! ## Errors and answers -/

/-- An `AuthError` of Supabase. -/
structure AuthError where
  code : Option String
  status : Option Nat
  message : String
  deriving DecidableEq

inductive IdentityError where
  | of (e : Err)
  | unauthorized (message : String)
  | tooManyRequests (message : String)
  | internalServerError (message : String)
  /-- `DomainException` with code `INCACOOK_EMAIL_REQUIRED`, status 403 -/
  | emailRequired (message : String)
  /-- `DomainException` with code `INCACOOK_PHONE_ALREADY_USED`, status 409 -/
  | phoneAlreadyUsed (message : String)
  deriving DecidableEq

inductive PreludeCheckStatus where
  | success | failure | expiredOrNotFound | transactionMissing | transactionMismatch | unknown
  deriving DecidableEq

structure IdentityAnswer where
  /-- the remote service goes through, or accepts the code -/
  ok : Bool
  /-- what Supabase sends instead -/
  error : Option AuthError
  /-- what Prelude says of a code that it does not accept -/
  status : PreludeCheckStatus
  /-- what Prelude says of a code that is to be sent -/
  sent : String
  /-- a new id, and that of a new auth user -/
  id : UserId
  authId : String
  /-- whether an email that is attached counts as confirmed -/
  confirmed : Bool

inductive IdentitySite where
  | query
  | getUserById (sub : String)
  | createAccount (sub : String)
  | updateProfile (id : UserId)
  | attachEmail (sub : String)
  | signInWithOtp (email : String)
  | verifyOtp (email : String)
  | markEmailVerified (sub : String)
  | sendPhoneOtp (phone : String)
  | checkPhoneOtp (phone : String)
  | confirmPhone (sub : String)
  | savePhone (sub : String)
  deriving DecidableEq

abbrev identityMachine : Machine := ⟨IdentityDb, IdentityAnswer, IdentitySite, IdentityError⟩

abbrev IdentityHandler (α : Type) := Prog identityMachine α

abbrev IdentityTx (α : Type) := StateT IdentityDb (Except IdentityError) α

/-! ## The bearer -/

/-- What the guard makes of a token: the identity of the caller. -/
structure JwtIdentity where
  supabaseId : String
  email : Option String
  phone : Option String

/-- `phone.replace(/^\+/, '')` -/
def withoutPlus (phone : String) : String :=
  match phone.toList with
  | '+' :: digits => String.ofList digits
  | _ => phone

/-- The bodies match `/^\+[1-9]\d{6,14}$/`. -/
def isE164 (phone : String) : Bool :=
  match phone.toList with
  | '+' :: first :: rest =>
    first.isDigit && first ≠ '0' && 6 ≤ rest.length && rest.length ≤ 14 && rest.all Char.isDigit
  | _ => false

/-- A phone as a body may hold it. -/
structure E164 where
  text : String
  valid : isE164 text = true
  deriving DecidableEq

namespace Auth

/-! ## What Supabase and Prelude are asked -/

/-- The HTTP error for an error of Supabase. -/
def toHttpException (error : AuthError) : IdentityError :=
  let code := error.code.getD ""
  let status := error.status.getD 500
  if code = "weak_password" then .of (.badRequest error.message)
  else if code = "email_exists" ∨ code = "user_already_exists" then .of (.conflict error.message)
  else if code = "over_email_send_rate_limit" ∨ status = 429 then .tooManyRequests error.message
  else if 400 ≤ status ∧ status < 500 then .of (.badRequest error.message)
  else .internalServerError "Authentication service error"

/-- The error of an answer that does not go through; Supabase always has one. -/
def IdentityAnswer.authError (answer : IdentityAnswer) : AuthError :=
  answer.error.getD ⟨none, none, ""⟩

/-- `admin.updateUserById(supabaseId, …)` -/
def updateUserById (supabaseId : String) (answer : IdentityAnswer) (f : AuthUser → AuthUser)
    (hf : ∀ u, (f u).id = u.id := by intro _; exact Eq.symm rfl) : IdentityTx Unit := do
  let db ← get
  Stmt.throwIf (answer.ok = false) (toHttpException (IdentityAnswer.authError answer))
  let authUsers ← Stmt.orThrow (db.authUsers.update? supabaseId f hf)
    (toHttpException (IdentityAnswer.authError answer))
  set { db with authUsers }

/-- `anon.signInWithOtp`: sends a code; with `shouldCreateUser` to a new auth user, if need be. -/
def signInWithOtp (email : String) (shouldCreateUser : Bool) (answer : IdentityAnswer) : IdentityTx Unit := do
  let db ← get
  Stmt.throwIf (answer.ok = false) (toHttpException (IdentityAnswer.authError answer))
  if shouldCreateUser && (db.authUserByEmail email).isNone then
    let authUsers ← Stmt.orThrow
      (db.authUsers.insert? ⟨answer.authId, some email, false, none, false, .null, []⟩)
      (toHttpException (IdentityAnswer.authError answer))
    set { db with authUsers }

/-- `anon.verifyOtp` for an email: a code that is accepted confirms the email and opens a session of
the auth user who has it. -/
def verifyOtp (email code : String) : IdentityHandler (Except (Option AuthError) String) :=
  await (.verifyOtp email) fun answer => do
    let db ← get
    match if answer.ok then db.authUserByEmail email else none with
    | none => return .error answer.error
    | some user =>
      set { db with
        authUsers := db.authUsers.update user.id fun u : AuthUser => { u with emailConfirmed := true }
        accepted := .email email code user.id :: db.accepted }
      return .ok user.id

structure PreludeConfig where
  apiKey : String

/-- `PreludeVerifyService.sendPhoneOtp`: the status with which Prelude answers. -/
def sendPhoneOtp (cfg : PreludeConfig) (phone : String) : IdentityHandler String := do
  throwIf (cfg.apiKey = "")
    (.of (.serviceUnavailable "Service de vérification indisponible. Réessayez plus tard."))
  let sent ← ask (.sendPhoneOtp phone) fun answer _ => if answer.ok then some answer.sent else none
  orThrow sent (.of (.serviceUnavailable "L'envoi du code a échoué. Réessayez plus tard."))

/-- `PreludeVerifyService.verifyPhoneOtp` -/
def checkPhoneOtp (cfg : PreludeConfig) (phone code : String) : IdentityHandler PreludeCheckStatus := do
  throwIf (cfg.apiKey = "")
    (.of (.serviceUnavailable "Service de vérification indisponible. Réessayez plus tard."))
  await (.checkPhoneOtp phone) fun answer => do
    let db ← get
    Stmt.throwIf (answer.ok = false)
      (.of (.serviceUnavailable "La vérification a échoué. Réessayez plus tard."))
    if answer.status = .success then
      set { db with accepted := .phone phone code :: db.accepted }
    return answer.status

/-! ## Email codes -/

/-- Sets the email on the auth user; only a code confirms it. -/
def attachEmail (supabaseId email : String) : IdentityHandler Unit :=
  await (.attachEmail supabaseId) fun answer =>
    updateUserById supabaseId answer fun u =>
      { u with email := some email, emailConfirmed := answer.confirmed }

def requestEmailOtp (supabaseId email : String) (attach : Bool) : IdentityHandler Unit := do
  if attach then
    attachEmail supabaseId email
  await (.signInWithOtp email) fun answer => signInWithOtp email false answer

/-- `user.update({ where: { supabaseId }, data: { emailVerified: true } })` -/
def markEmailVerified (supabaseId : String) : IdentityTx Unit := do
  let db ← get
  let account ← Stmt.orThrow (db.accountOf supabaseId) (.of .recordNotFound)
  set { db with
    users := db.users.update account.id fun a : UserRecord => { a with emailVerified := true } }

/-- The row may not exist yet. -/
def mirrorEmailVerified (supabaseId : String) : IdentityHandler Unit :=
  tryCatch (await (.markEmailVerified supabaseId) fun _ => markEmailVerified supabaseId) fun e =>
    if e = .of .recordNotFound then return () else throw e

/-- Returns the auth user whose session it is. -/
def verifyEmailOtp (supabaseId email code : String) : IdentityHandler String := do
  let outcome ← verifyOtp email code
  match outcome with
  | .error e => throw (toHttpException (e.getD ⟨none, some 401, "OTP verification failed"⟩))
  | .ok session => do
    mirrorEmailVerified supabaseId
    return session

def assertSupportedSocialProvider (provider : String) : IdentityHandler Unit :=
  throwIf (provider ≠ "facebook") (.of (.badRequest "Unsupported social provider"))

def assertEmailNotTaken (email : String) : IdentityHandler Unit := do
  let owner ← read .query fun db => db.users.rows.find? fun a => a.email = email && a.deletedAt = none
  throwIf owner.isSome
    (.of (.conflict "Cette adresse e-mail est déjà utilisée par un autre compte."))

/-- For a social login without an email and without a session. -/
def requestSocialEmailOtp (provider email : String) : IdentityHandler Unit := do
  assertSupportedSocialProvider provider
  assertEmailNotTaken email
  await (.signInWithOtp email) fun answer => signInWithOtp email true answer

def verifySocialEmailOtp (provider email code : String) : IdentityHandler String := do
  assertSupportedSocialProvider provider
  let outcome ← verifyOtp email code
  match outcome with
  | .error _ => throw (.unauthorized "Code invalide ou expiré.")
  | .ok session => do
    mirrorEmailVerified session
    return session

/-! ## Phone codes -/

def assertPhoneAvailable (supabaseId phone : String) : IdentityHandler Unit := do
  let taken ← read .query fun db => db.phoneOwner supabaseId phone
  throwIf taken.isSome (.phoneAlreadyUsed "Ce numéro de téléphone est déjà utilisé.")

def requestPhoneOtp (cfg : PreludeConfig) (supabaseId phone : String) : IdentityHandler Unit := do
  assertPhoneAvailable supabaseId phone
  let status ← sendPhoneOtp cfg phone
  throwIf (status ≠ "success" ∧ status ≠ "retry") (.of (.serviceUnavailable
    "L'envoi du SMS a échoué (numéro non pris en charge ou bloqué). Vérifiez le numéro et réessayez."))

/-- `user.updateMany({ where: { supabaseId }, data: { phone, phoneVerified: true } })` -/
def savePhone (supabaseId phone : String) : IdentityTx Unit := do
  let db ← get
  match db.accountOf supabaseId with
  | none => return ()
  | some account =>
    Stmt.throwIf (db.phoneTaken account.id (some phone)) (.of .uniqueViolation)
    set { db with
      users := db.users.update account.id fun a : UserRecord =>
        { a with phone := some phone, phoneVerified := true } }

/-- The phone is confirmed at Supabase first, then on the account, if there is one. -/
def verifyPhoneOtp (cfg : PreludeConfig) (supabaseId phone code : String) : IdentityHandler String := do
  let status ← checkPhoneOtp cfg phone code
  throwIf (status = .failure) (.of (.badRequest "Code de vérification invalide."))
  throwIf (status ≠ .success) (.of (.badRequest "Code expiré. Veuillez demander un nouveau code."))
  assertPhoneAvailable supabaseId phone
  await (.confirmPhone supabaseId) fun answer =>
    updateUserById supabaseId answer fun u =>
      { u with phone := some (withoutPlus phone), phoneConfirmed := true }
  tryCatch (await (.savePhone supabaseId) fun _ => savePhone supabaseId phone) fun e =>
    if e = .of .uniqueViolation then
      throw (.phoneAlreadyUsed "Ce numéro de téléphone est déjà utilisé.")
    else throw e
  return phone

end Auth

namespace Users

/-! ## The account -/

/-- `typeof v === 'string' && v.includes('@') ? v : null` -/
def clean : JsonValue → Option String
  | .string v => if '@' ∈ v.toList then some v else none
  | _ => none

inductive EmailSource where
  | jwt | userMetadata | identityData | verified | none
  deriving DecidableEq

/-- The email of an identity, and where it was found: in the token, in the metadata, with a provider,
or as the confirmed one of the auth user. -/
def pickEmail (jwtEmail : Option String) (authUser : Option AuthUser) : Option String × EmailSource :=
  match truthy jwtEmail with
  | some email => (some email, .jwt)
  | none =>
    match authUser.bind fun u => clean u.metadataEmail with
    | some email => (some email, .userMetadata)
    | none =>
      match authUser.bind fun u => u.identityEmails.findSome? clean with
      | some email => (some email, .identityData)
      | none =>
        match authUser.bind fun u => if u.emailConfirmed then truthy u.email else none with
        | some email => (some email, .verified)
        | none => (none, .none)

/-- `SIGNUP_ROLES` -/
def signupRoles : List UserRole := [.buyer, .seller, .driver]

structure CreateUserDto where
  firstName : String
  lastName : String
  role : UserRole
  phone : Option E164
  acceptedCgu : Bool
  acceptedCgv : Bool
  /-- `@IsIn(SIGNUP_ROLES)`; both consents are `@Equals(true)` -/
  valid : role ∈ signupRoles ∧ acceptedCgu = true ∧ acceptedCgv = true

structure UpdateUserDto where
  firstName : Sent String
  lastName : Sent String
  phone : Sent String
  avatarPath : Sent String

/-- `admin.getUserById`: the auth user, or `null` when Supabase has none or does not answer. -/
def getUserById (supabaseId : String) : IdentityHandler (Option AuthUser) :=
  await (.getUserById supabaseId) fun answer => do
    let db ← get
    let user := if answer.ok then db.authUsers.find? supabaseId else none
    set { db with told := (supabaseId, user) :: db.told }
    return user

def findBySupabaseId (supabaseId : String) : IdentityHandler UserRecord := do
  let user ← read .query fun db => db.accountOf supabaseId
  orThrow user (.of (.notFound "User profile not found"))

def assertEmailAvailableForIdentity (supabaseId email : String) : IdentityHandler Unit := do
  let owner ← read .query fun db => db.emailOwner supabaseId email
  throwIf owner.isSome (.of (.conflict
    "Un compte existe déjà avec cette adresse e-mail. Connectez-vous avec votre méthode d'origine."))

/-- The phone that Supabase has, else the one in the token. -/
def knownPhone (identity : JwtIdentity) (authUser : Option AuthUser) : Option String :=
  match truthy (authUser.bind AuthUser.phone) with
  | some phone => some ("+" ++ withoutPlus phone)
  | none => identity.phone

/-- The known phone; without one the phone that was typed, unless another account has it. -/
def phoneFor (identity : JwtIdentity) (dto : CreateUserDto) (authUser : Option AuthUser) :
    IdentityHandler (Option String) :=
  match truthy (knownPhone identity authUser), dto.phone with
  | none, some typed => do
    let taken ← read .query fun db => db.phoneOwner identity.supabaseId typed.text
    return if taken.isSome then knownPhone identity authUser else some typed.text
  | _, _ => return knownPhone identity authUser

/-- The new row. -/
def newUser (id : UserId) (identity : JwtIdentity) (dto : CreateUserDto) (authUser : Option AuthUser)
    (email : String) (phone : Option String) (now : Time) : UserRecord where
  id := id
  supabaseId := identity.supabaseId
  email := email
  phone := phone
  role := dto.role
  firstName := dto.firstName
  lastName := dto.lastName
  avatarPath := none
  emailVerified := authUser.any AuthUser.emailConfirmed
  phoneVerified := authUser.any AuthUser.phoneConfirmed
  acceptedCgu := dto.acceptedCgu
  acceptedCgv := dto.acceptedCgv
  acceptedAt := now
  deletedAt := none

/-- `user.create`: the login, the email and the phone are unique, too. -/
def insertUser (row : UserRecord) : IdentityTx Unit := do
  let db ← get
  Stmt.throwIf (db.users.rows.any fun a =>
    a.supabaseId = row.supabaseId || a.email = row.email || row.phone.isSome && a.phone = row.phone)
    (.of .uniqueViolation)
  let users ← Stmt.orThrow (db.users.insert? row) (.of .uniqueViolation)
  set { db with users }

/-- The profile of the role. -/
def insertProfile (userId : UserId) (role : UserRole) : IdentityTx Unit := do
  let db ← get
  match role with
  | .buyer =>
    let buyerProfiles ← Stmt.orThrow (db.buyerProfiles.insert? ⟨userId⟩) (.of .uniqueViolation)
    set { db with buyerProfiles }
  | .seller =>
    let sellerProfiles ← Stmt.orThrow (db.sellerProfiles.insert? ⟨userId⟩) (.of .uniqueViolation)
    set { db with sellerProfiles }
  | .driver =>
    let driverProfiles ← Stmt.orThrow (db.driverProfiles.insert? ⟨userId⟩) (.of .uniqueViolation)
    set { db with driverProfiles }
  | .admin | .moderator => return ()

/-- The transaction: the row, and the profile of its role. -/
def openAccount (row : UserRecord) : IdentityTx Unit := do
  insertUser row
  insertProfile row.id row.role

/-- Opens an account for the identity of the token. -/
def createFromJwt (identity : JwtIdentity) (dto : CreateUserDto) : IdentityHandler UserRecord := do
  let existing ← read .query fun db => db.accountOf identity.supabaseId
  throwIf existing.isSome (.of (.conflict "User profile already exists"))
  let authUser ← getUserById identity.supabaseId
  let email ← orThrow (pickEmail identity.email authUser).1
    (.emailRequired "Veuillez ajouter et vérifier votre adresse email.")
  assertEmailAvailableForIdentity identity.supabaseId email
  let phone ← phoneFor identity dto authUser
  await (.createAccount identity.supabaseId) fun answer => do
    let now := (← get).now
    openAccount (newUser answer.id identity dto authUser email phone now)
  findBySupabaseId identity.supabaseId

structure OauthSync where
  account : Option UserRecord
  email : Option String
  needsEmail : Bool
  deriving DecidableEq

/-- Says whether the identity has an account, and whether it still lacks an email. -/
def syncFromJwt (identity : JwtIdentity) : IdentityHandler OauthSync := do
  let existing ← read .query fun db => db.accountOf identity.supabaseId
  if existing.isSome then
    let account ← findBySupabaseId identity.supabaseId
    return ⟨some account, some account.email, false⟩
  else
    let authUser ← getUserById identity.supabaseId
    let (email, _) := pickEmail identity.email authUser
    match email with
    | some email => do
      assertEmailAvailableForIdentity identity.supabaseId email
      return ⟨none, some email, false⟩
    | none => return ⟨none, none, true⟩

/-- The columns that a body of `PATCH /v1/users/me` writes. -/
def UpdateUserDto.fields (dto : UpdateUserDto) (a : UserRecord) : UserRecord :=
  { a with
    firstName := dto.firstName.getD a.firstName
    lastName := dto.lastName.getD a.lastName
    phone := dto.phone.written a.phone
    avatarPath := dto.avatarPath.written a.avatarPath }

/-- `user.update`. A name cannot be `null`. -/
def saveProfile (id : UserId) (dto : UpdateUserDto) : IdentityTx Unit := do
  let db ← get
  Stmt.throwIf (dto.firstName.isNull || dto.lastName.isNull) (.of .database)
  Stmt.throwIf (dto.phone.isSent && db.phoneTaken id dto.phone.orNull) (.of .uniqueViolation)
  let users ← Stmt.orThrow (db.users.update? id dto.fields) (.of .recordNotFound)
  set { db with users }

def updateProfile (supabaseId : String) (dto : UpdateUserDto) : IdentityHandler UserRecord := do
  let existing ← read .query fun db => db.accountOf supabaseId
  let existing ← orThrow existing (.of (.notFound "User profile not found"))
  await (.updateProfile existing.id) fun _ => saveProfile existing.id dto
  findBySupabaseId supabaseId

end Users

/-! ## The service -/

/-- The email of a request: that of the token, or else the one in the body. -/
def requestedEmail (identity : JwtIdentity) (body : Option String) : String :=
  let jwtEmail := jsTrim (identity.email.getD "")
  if jwtEmail = "" then jsTrim (body.getD "") else jwtEmail

inductive IdentityCall where
  | createFromJwt (identity : JwtIdentity) (dto : Users.CreateUserDto)
  | syncFromJwt (identity : JwtIdentity)
  | updateProfile (identity : JwtIdentity) (dto : Users.UpdateUserDto)
  | requestEmailOtp (identity : JwtIdentity) (email : Option String)
  | attachEmail (identity : JwtIdentity) (email : String)
  | verifyEmailOtp (identity : JwtIdentity) (email : Option String) (code : String)
  | requestSocialEmailOtp (provider email : String)
  | verifySocialEmailOtp (provider email code : String)
  | requestPhoneOtp (identity : JwtIdentity) (phone : E164)
  | verifyPhoneOtp (identity : JwtIdentity) (phone : E164) (code : String)

inductive IdentityReply where
  | account (row : UserRecord)
  | sync (state : Users.OauthSync)
  | session (authUser : String)
  | phoneVerified (phone : String)
  | nothing
  deriving DecidableEq

/-- The controllers. -/
def identityHandle (cfg : Auth.PreludeConfig) : IdentityCall → IdentityHandler IdentityReply
  | .createFromJwt identity dto => do return .account (← Users.createFromJwt identity dto)
  | .syncFromJwt identity => do return .sync (← Users.syncFromJwt identity)
  | .updateProfile identity dto => do return .account (← Users.updateProfile identity.supabaseId dto)
  | .requestEmailOtp identity body => do
    let email := requestedEmail identity body
    throwIf (email = "") (.of (.badRequest "Email is required"))
    Auth.requestEmailOtp identity.supabaseId email (jsTrim (identity.email.getD "") = "")
    return .nothing
  | .attachEmail identity body => do
    throwIf (jsTrim body = "") (.of (.badRequest "Email is required"))
    Auth.attachEmail identity.supabaseId (jsTrim body)
    return .nothing
  | .verifyEmailOtp identity body code => do
    let email := requestedEmail identity body
    throwIf (email = "") (.of (.badRequest "Email is required"))
    return .session (← Auth.verifyEmailOtp identity.supabaseId email code)
  | .requestSocialEmailOtp provider email => do
    Auth.requestSocialEmailOtp provider email
    return .nothing
  | .verifySocialEmailOtp provider email code => do
    return .session (← Auth.verifySocialEmailOtp provider email code)
  | .requestPhoneOtp identity phone => do
    Auth.requestPhoneOtp cfg identity.supabaseId phone.text
    return .nothing
  | .verifyPhoneOtp identity phone code => do
    return .phoneVerified (← Auth.verifyPhoneOtp cfg identity.supabaseId phone.text code)

/-- Time passes, or an auth user of Supabase is new or changes. -/
inductive IdentityEvent where
  | time (ms : Nat)
  | supabase (user : AuthUser)

def applyIdentityEvent : IdentityEvent → IdentityDb → IdentityDb
  | .time ms, db => { db with now := db.now + ms }
  | .supabase user, db => { db with authUsers := db.authUsers.put user }

def identityService (cfg : Auth.PreludeConfig) : Service identityMachine where
  Call := IdentityCall
  Reply := IdentityReply
  Event := IdentityEvent
  handle := fun _ => identityHandle cfg
  admits := fun _ _ => true
  event := applyIdentityEvent

end IncaCook
