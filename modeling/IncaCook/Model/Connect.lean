import Mathlib.Data.List.Infix
import IncaCook.Library.Embedding
import IncaCook.Library.Runs
import IncaCook.Model.Wallets

/-!
# Connect accounts

Sellers and drivers are paid out to a Connect account at Stripe. `OnboardingService` opens it and
hands out a link to Stripe's form; Stripe says by `account.updated` how far the user got there, and
`requestWithdrawal` sends money only to an account whose onboarding is complete. An account that
Stripe no longer knows (a placeholder, or one of another platform key) is replaced by a fresh one.

Stripe goes on by itself: it closes accounts, learns about them, and sends its notices late, twice
or in another order. The rest of the server fills the wallets.
-/

namespace IncaCook

open Prog

/-! ## Stripe's side -/

/-- An account that Stripe has opened. -/
structure ConnectAccount where
  id : String
  /-- `metadata`; an account that support has opened may have none -/
  userId : Option UserId
  role : Option UserRole
  email : Option String
  country : String
  /-- Stripe has it, under the key that the platform uses now -/
  known : Bool

instance : Keyed ConnectAccount String := ⟨ConnectAccount.id⟩

/-- The account of an `account.updated` event. A role that the metadata does not have reads as
`none`, and so does one that is no role. -/
structure AccountUpdate where
  id : String
  role : Option UserRole
  chargesEnabled : Bool
  payoutsEnabled : Bool
  detailsSubmitted : Bool
  deriving DecidableEq

def AccountUpdate.onboardingCompleted (account : AccountUpdate) : Bool :=
  account.chargesEnabled && account.payoutsEnabled && account.detailsSubmitted

structure ConnectDb extends Db where
  accounts : Table ConnectAccount
  /-- the notices that Stripe has sent -/
  updates : List AccountUpdate

structure StripeError where
  code : Option String
  message : String
  deriving DecidableEq

structure AccountLink where
  url : String
  expiresAt : Nat
  deriving DecidableEq

inductive ConnectError where
  | of (e : Err)
  | internalServerError (message : String)
  | stripe (e : StripeError)
  deriving DecidableEq

structure ConnectAnswer where
  /-- Stripe goes along -/
  ok : Bool
  /-- the id of a new account -/
  account : String
  link : AccountLink
  /-- what Stripe says instead -/
  error : StripeError
  /-- the answer to a statement of the wallets -/
  wallet : Answer

inductive ConnectSite where
  | query
  | createAccount (u : UserId)
  | saveAccount (u : UserId)
  | mintLink (account : String)
  | accountUpdated (account : String) (completed : Bool)
  | wallet (site : Site)
  deriving DecidableEq

abbrev connectMachine : Machine := ⟨ConnectDb, ConnectAnswer, ConnectSite, ConnectError⟩

abbrev ConnectHandler (α : Type) := Prog connectMachine α

abbrev ConnectTx (α : Type) := StateT ConnectDb (Except ConnectError) α

/-- The wallets, as the system has them. -/
def connectWallets : Machine.Part machine connectMachine where
  get s := s.toDb
  put a s := { s with toDb := a }
  site := .wallet
  answer := ConnectAnswer.wallet
  error := .of
  get_put _ _ := rfl

namespace StripeOnboarding

/-! ## Errors -/

/-- `text.includes(sub)` -/
def jsIncludes (text sub : List Char) : Bool := text.tails.any fun t => sub.isPrefixOf t

/-- `/signed up for Connect|enable .*Connect|Connect settings/i`; a dot is no line break. -/
def saysConnectIsOff (message : String) : Bool :=
  let text := message.toList.map Char.toLower
  jsIncludes text "signed up for connect".toList || jsIncludes text "connect settings".toList ||
    text.tails.any fun t => "enable ".toList.isPrefixOf t &&
      jsIncludes ((t.drop 7).takeWhile fun c => c ∉ ['\n', '\r', '\u2028', '\u2029']) "connect".toList

/-- Stripe does not know the account. -/
def isNoSuchAccountError : ConnectError → Bool
  | .stripe e => e.code = some "resource_missing" || jsIncludes e.message.toList "No such account".toList
  | _ => false

/-- Errors of the server's own go through; the others become a 503. -/
def rethrowMapped : ConnectError → ConnectError
  | .stripe e =>
    if saysConnectIsOff e.message then
      .of (.serviceUnavailable
        "La configuration des paiements n'est pas encore activée sur la plateforme. Réessayez plus tard.")
    else unavailable
  | .of .recordNotFound | .of .uniqueViolation | .of .database | .of (.internal _) => unavailable
  | e => e
where
  unavailable : ConnectError := .of (.serviceUnavailable
    "Configuration des paiements indisponible pour le moment. Réessayez plus tard.")

/-! ## Onboarding -/

structure StripeConfig where
  onboardingReturnUrl : String
  onboardingRefreshUrl : String
  connectAccountCountry : String

/-- A link to the form of an account. -/
def mintAccountLink (accountId : String) : ConnectHandler AccountLink := do
  let link ← ask (.mintLink accountId) fun answer db =>
    if answer.ok && (db.accounts.find? accountId).any ConnectAccount.known then Except.ok answer.link
    else .error answer.error
  match link with
  | .ok link => return link
  | .error e => throw (.stripe e)

/-- Stores the account on the profile of the role. The column is unique. -/
def saveAccount (userId : UserId) (role : UserRole) (accountId : String) : ConnectTx Unit := do
  let db ← get
  if role = .seller then
    Stmt.throwIf (db.sellerProfiles.rows.any fun p =>
      p.userId ≠ userId && p.stripeConnectAccountId = some accountId) (.of .uniqueViolation)
    let sellerProfiles ← Stmt.orThrow (db.sellerProfiles.update? userId fun p : SellerProfile =>
      { p with stripeConnectAccountId := some accountId }) (.of .recordNotFound)
    set { db with sellerProfiles }
  else
    Stmt.throwIf (db.driverProfiles.rows.any fun p =>
      p.userId ≠ userId && p.stripeConnectAccountId = some accountId) (.of .uniqueViolation)
    let driverProfiles ← Stmt.orThrow (db.driverProfiles.update? userId fun p : DriverProfile =>
      { p with stripeConnectAccountId := some accountId }) (.of .recordNotFound)
    set { db with driverProfiles }

/-- Stripe never gives out an id twice. -/
def openAccount (cfg : StripeConfig) (user : User) (answer : ConnectAnswer) : ConnectTx String := do
  let db ← get
  Stmt.throwIf (answer.ok = false) (.stripe answer.error)
  let accounts ← Stmt.orThrow (db.accounts.insert?
    { id := answer.account
      userId := some user.id
      role := some user.role
      email := user.email
      country := cfg.connectAccountCountry
      known := true }) (.stripe answer.error)
  set { db with accounts }
  return answer.account

/-- Opens an account and stores it on the profile. The flag of the profile stays as it is. -/
def createExpressAccount (cfg : StripeConfig) (user : User) : ConnectHandler String := do
  let accountId ← await (.createAccount user.id) fun answer => openAccount cfg user answer
  await (.saveAccount user.id) fun _ => saveAccount user.id user.role accountId
  return accountId

/-- The account of the profile, or a new one, and a link to its form. -/
def accountLink (cfg : StripeConfig) (user : User) (stored : Option String) :
    ConnectHandler AccountLink := do
  let accountId ← match stored with
    | some accountId => pure accountId
    | none => createExpressAccount cfg user
  tryCatch (mintAccountLink accountId) fun e => do
    throwIf (isNoSuchAccountError e = false) e
    let accountId ← createExpressAccount cfg user
    mintAccountLink accountId

/-- The profile's account, if there is a profile. -/
def profileAccount (db : ConnectDb) (user : User) : Option (Option String) :=
  if user.role = .seller then (db.sellerProfiles.find? user.id).map SellerProfile.stripeConnectAccountId
  else (db.driverProfiles.find? user.id).map DriverProfile.stripeConnectAccountId

def createAccountLink (cfg : StripeConfig) (supabaseId : String) : ConnectHandler AccountLink := do
  throwIf (cfg.onboardingReturnUrl = "" ∨ cfg.onboardingRefreshUrl = "")
    (.internalServerError "Stripe onboarding return/refresh URLs are not configured")
  let (user, profile) ← read .query fun db =>
    let user := db.userBySupabaseId supabaseId
    (user, user.bind (profileAccount db))
  let user ← orThrow user (.of (.notFound "User profile not found"))
  throwIf (user.role ≠ .seller ∧ user.role ≠ .driver)
    (.of (.forbidden "Only sellers and drivers go through Stripe Connect onboarding"))
  let stored ← orThrow profile
    (.of (.notFound "Complete your profile before starting Stripe onboarding"))
  tryCatch (accountLink cfg user stored) fun e => throw (rethrowMapped e)

/-! ## Stripe's notices -/

/-- `sellerProfile.updateMany({ where: { stripeConnectAccountId }, data })` -/
def updateSellerOnboarding (accountId : String) (completed : Bool) : ConnectHandler Unit :=
  await (.accountUpdated accountId completed) fun _ => modify fun db =>
    { db with
      sellerProfiles := db.sellerProfiles.updateMany
        (fun p => p.stripeConnectAccountId = some accountId)
        fun p => { p with stripeOnboardingCompleted := completed } }

def updateDriverOnboarding (accountId : String) (completed : Bool) : ConnectHandler Unit :=
  await (.accountUpdated accountId completed) fun _ => modify fun db =>
    { db with
      driverProfiles := db.driverProfiles.updateMany
        (fun p => p.stripeConnectAccountId = some accountId)
        fun p => { p with stripeOnboardingCompleted := completed } }

/-- The role of the metadata says where the account is kept; without one both tables are tried. -/
def handleAccountUpdated (account : AccountUpdate) : ConnectHandler Unit := do
  match account.role with
  | some .seller => updateSellerOnboarding account.id account.onboardingCompleted
  | some .driver => updateDriverOnboarding account.id account.onboardingCompleted
  | _ =>
    let sellerHit ← read .query fun db =>
      db.sellerProfiles.rows.any fun p => p.stripeConnectAccountId = some account.id
    if sellerHit then
      updateSellerOnboarding account.id account.onboardingCompleted
    else
      let driverHit ← read .query fun db =>
        db.driverProfiles.rows.any fun p => p.stripeConnectAccountId = some account.id
      if driverHit then
        updateDriverOnboarding account.id account.onboardingCompleted

end StripeOnboarding

/-! ## The service -/

inductive ConnectCall where
  | createAccountLink (supabaseId : String)
  | accountUpdated (account : AccountUpdate)
  | requestWithdrawal (supabaseId : String)
  deriving DecidableEq

inductive ConnectReply where
  | nothing
  | link (link : AccountLink)
  | withdrawal (result : Wallets.WithdrawalResult)
  deriving DecidableEq

def connectHandle (cfg : StripeOnboarding.StripeConfig) (me : Nat) : ConnectCall → ConnectHandler ConnectReply
  | .createAccountLink sub => do return .link (← StripeOnboarding.createAccountLink cfg sub)
  | .accountUpdated account => do
    StripeOnboarding.handleAccountUpdated account
    return .nothing
  | .requestWithdrawal sub => do
    return .withdrawal (← within connectWallets (Wallets.requestWithdrawal me sub))

/-- A notice arrives only once Stripe has sent it. -/
def connectAdmits : ConnectCall → ConnectDb → Bool
  | .accountUpdated account, db => account ∈ db.updates
  | _, _ => true

inductive ConnectEvent where
  /-- whatever the rest of the server does -/
  | world (db : Db)
  | seller (p : SellerProfile)
  | driver (p : DriverProfile)
  /-- Stripe sends a notice, with the metadata of the account -/
  | notice (account : AccountUpdate)
  /-- support opens an account -/
  | support (account : ConnectAccount)
  /-- Stripe no longer knows an account -/
  | forget (id : String)

def applyConnectEvent : ConnectEvent → ConnectDb → ConnectDb
  | .world world, db =>
    { db with toDb := { world with
      sellerProfiles := db.sellerProfiles
      driverProfiles := db.driverProfiles
      transfers := db.transfers } }
  | .seller p, db =>
    let fresh := { p with stripeConnectAccountId := none, stripeOnboardingCompleted := false }
    { db with sellerProfiles := (db.sellerProfiles.insert? fresh).getD db.sellerProfiles }
  | .driver p, db =>
    let fresh := { p with stripeConnectAccountId := none, stripeOnboardingCompleted := false }
    { db with driverProfiles := (db.driverProfiles.insert? fresh).getD db.driverProfiles }
  | .notice account, db =>
    { db with updates :=
      { account with role := (db.accounts.find? account.id).bind ConnectAccount.role } :: db.updates }
  | .support account, db => { db with accounts := (db.accounts.insert? account).getD db.accounts }
  | .forget id, db =>
    { db with accounts := db.accounts.update id fun a : ConnectAccount => { a with known := false } }

def connectService (cfg : StripeOnboarding.StripeConfig) : Service connectMachine where
  Call := ConnectCall
  Reply := ConnectReply
  Event := ConnectEvent
  handle := connectHandle cfg
  admits := fun c db => connectAdmits c db
  event := applyConnectEvent

end IncaCook
