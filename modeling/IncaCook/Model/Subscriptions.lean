import IncaCook.Model.Kyc

/-!
# Seller subscriptions

Two billing systems write the gate fields of a seller: RevenueCat, by the sync
endpoint of `SellersService` and by its webhook, and Stripe, by the webhooks of
`StripeWebhookHandlerService` and by `SubscriptionsService`. The fields of a
RevenueCat change are built in one place (`buildSubscriptionFields`); a Stripe change
writes three of them.

What Stripe and RevenueCat answer is up to the environment.
-/

namespace IncaCook

open Prog

/-! ## Rows and remote objects -/

abbrev StripeSubscriptionId := String

/-- A RevenueCat user id: one of our user ids, or another text. -/
inductive AppUserId where
  | user (id : UserId)
  | other (text : String)
  deriving DecidableEq, Repr

/-- The text is not empty. -/
def AppUserId.truthy (id : AppUserId) : Bool := id ≠ .other ""

/-- A seller's profile with the columns of the subscription. -/
structure SellerPlan extends SellerProfile where
  stripeSubscriptionId : Option StripeSubscriptionId
  revenueCatCustomerId : Option AppUserId
  revenueCatEntitlement : Option String
  subscriptionPlan : Option String
  subscriptionProductId : Option String
  subscriptionCategory : Option SellerCategory
  trialEndsAt : Option Time
  deriving DecidableEq

instance : Keyed SellerPlan UserId := ⟨fun p => p.userId⟩

/-- A subscription as Stripe sends it; the period end is in seconds. -/
structure StripeSubscription where
  id : StripeSubscriptionId
  status : String
  currentPeriodEnd : Option Nat
  metadataUserId : Option UserId
  customer : Option CustomerId
  clientSecret : Option String
  deriving DecidableEq

/-- `GET /v1/subscribers/{id}` of RevenueCat, as far as it is read. -/
structure RevenueCatEntitlement where
  expiresDate : Option Time
  productIdentifier : Option String

structure RevenueCatSubscriber where
  entitlements : List (String × RevenueCatEntitlement)
  /-- the period type of each product -/
  subscriptions : List (String × Option String)

structure PlanDb where
  now : Time
  users : Table User
  sellerProfiles : Table SellerPlan

/-- The environment's answer to one step. -/
structure PlanAnswer where
  /-- the remote call goes through -/
  ok : Bool
  subscriber : RevenueCatSubscriber
  subscription : StripeSubscription
  customer : CustomerId

inductive PlanSite where
  | query
  | verifySubscriber (u : UserId)
  | stripeQuery
  | createCustomer (u : UserId)
  | saveCustomer (u : UserId)
  | createSubscription (u : UserId)
  | sync (u : UserId)
  | webhook (appUserId : AppUserId)
  /-- the three columns that Stripe writes -/
  | writeState (u : UserId) (sub : StripeSubscription)
  deriving DecidableEq

abbrev planMachine : Machine := ⟨PlanDb, PlanAnswer, PlanSite, Err⟩

abbrev PlanHandler (α : Type) := Prog planMachine α

abbrev PlanTx (α : Type) := StateT PlanDb (Except Err) α

namespace PlanDb

def userBySupabaseId (db : PlanDb) (supabaseId : String) : Option User :=
  db.users.rows.find? fun u => u.supabaseId = supabaseId

/-- `findUnique` with `select: { sellerProfile: … }`. -/
def accountBySupabaseId (db : PlanDb) (supabaseId : String) : Option (User × Option SellerPlan) :=
  (db.userBySupabaseId supabaseId).map fun u => (u, db.sellerProfiles.find? u.id)

end PlanDb

namespace Subscriptions

/-! ## `revenuecat.util.ts` -/

def sellerStandardEntitlement : String := "seller_standard"
def sellerPremiumEntitlement : String := "seller_premium"

def entitlementToPlan (entitlement : Option String) : Option String :=
  if entitlement = some sellerPremiumEntitlement then some "PREMIUM"
  else if entitlement = some sellerStandardEntitlement then some "STANDARD"
  else none

def isPremiumEntitlement (entitlement : Option String) : Bool :=
  entitlement = some sellerPremiumEntitlement

/-- Premium wins over standard. -/
def pickActiveEntitlement (entitlementIds : List String) : Option String :=
  if entitlementIds.contains sellerPremiumEntitlement then some sellerPremiumEntitlement
  else if entitlementIds.contains sellerStandardEntitlement then some sellerStandardEntitlement
  else none

def activeStatusForPeriod (periodType : Option String) : SubscriptionStatus :=
  let p := (periodType.getD "").toUpper
  if p = "TRIAL" ∨ p = "INTRO" then .trialing else .active

/-- The status of an event; `none` for those that do not change it. -/
def webhookEventToStatus (type : String) (periodType : Option String) : Option SubscriptionStatus :=
  if type ∈ ["INITIAL_PURCHASE", "RENEWAL", "PRODUCT_CHANGE", "UNCANCELLATION",
      "SUBSCRIPTION_EXTENDED", "NON_RENEWING_PURCHASE"] then
    some (activeStatusForPeriod periodType)
  else if type = "CANCELLATION" then some .canceled
  else if type = "EXPIRATION" then some .expired
  else if type = "BILLING_ISSUE" then some .pastDue
  else none

/-- The number of days from 1970-01-01 to a day of the proleptic Gregorian calendar. -/
def daysFromCivil (year month day : Int) : Int :=
  let y := if month ≤ 2 then year - 1 else year
  let era := y / 400
  let yoe := y - era * 400
  let doy := (153 * (month + (if month > 2 then -3 else 9)) + 2) / 5 + day - 1
  let doe := yoe * 365 + yoe / 4 - yoe / 100 + doy
  era * 146097 + doe - 719468

/-- Year, month and day of a number of days since 1970-01-01. -/
def civilFromDays (days : Int) : Int × Int × Int :=
  let z := days + 719468
  let era := z / 146097
  let doe := z - era * 146097
  let yoe := (doe - doe / 1460 + doe / 36524 - doe / 146096) / 365
  let doy := doe - (365 * yoe + yoe / 4 - yoe / 100)
  let mp := (5 * doy + 2) / 153
  let day := doy - (153 * mp + 2) / 5 + 1
  let month := if mp < 10 then mp + 3 else mp - 9
  (yoe + era * 400 + (if month ≤ 2 then 1 else 0), month, day)

def dayMs : Int := 86400000

/-- `setMonth(getMonth() + 1)` in UTC: a day that the next month lacks runs over. -/
def oneMonthFrom (t : Time) : Time :=
  let days := (t : Int) / dayMs
  let (year, month, day) := civilFromDays days
  let firstOfNext := if month = 12 then daysFromCivil (year + 1) 1 1 else daysFromCivil year (month + 1) 1
  ((firstOfNext + day - 1) * dayMs + (t : Int) % dayMs).toNat

structure SubscriptionUpdateInput where
  status : SubscriptionStatus
  entitlement : Option String
  productId : Option String
  expiresAtMs : Option Nat
  isTrial : Bool
  category : Option SellerCategory
  revenueCatCustomerId : Option AppUserId

/-- ACTIVE or TRIALING. -/
def isActive (status : SubscriptionStatus) : Bool := status = .active || status = .trialing

/-- The row after a RevenueCat change. An active plan has a period end; the category
and the customer are written only when there are any. -/
def buildSubscriptionFields (now : Time) (input : SubscriptionUpdateInput) (p : SellerPlan) :
    SellerPlan :=
  let active := isActive input.status
  let periodEnd : Option Time :=
    match input.expiresAtMs.filter (· ≠ 0) with
    | some ms => some ms
    | none => if active then some (oneMonthFrom now) else none
  { p with
    subscriptionStatus := input.status
    isPremium := active && isPremiumEntitlement input.entitlement
    revenueCatEntitlement := input.entitlement
    subscriptionPlan := entitlementToPlan input.entitlement
    subscriptionProductId := input.productId
    subscriptionCurrentPeriodEnd := periodEnd
    trialEndsAt := if input.isTrial then periodEnd else none
    subscriptionCategory := input.category <|> p.subscriptionCategory
    revenueCatCustomerId := input.revenueCatCustomerId.filter AppUserId.truthy <|> p.revenueCatCustomerId }

/-! ## The RevenueCat sync -/

/-- `POST /v1/sellers/me/subscription/sync`. -/
structure SyncSubscriptionDto where
  entitlementId : Option String
  productId : Option String
  expiresAtMs : Option Nat
  isTrial : Option Bool
  revenueCatCustomerId : Option AppUserId
  category : Option SellerCategory

structure Verified where
  entitlement : Option String
  productId : Option String
  expiresAtMs : Option Nat
  isTrial : Bool
  deriving DecidableEq

/-- What the subscriber's entitlements say at this time. -/
def verifiedOf (subscriber : RevenueCatSubscriber) (now : Time) : Verified :=
  let activeIds := (subscriber.entitlements.filter fun e =>
    !(e.2.expiresDate.any fun t => decide (t ≤ now))).map Prod.fst
  match pickActiveEntitlement activeIds with
  | none => ⟨none, none, none, false⟩
  | some entitlement =>
    let ent := subscriber.entitlements.lookup entitlement
    let productId := ent.bind RevenueCatEntitlement.productIdentifier
    let periodType := (productId.filter (· ≠ "")).bind fun id =>
      (subscriber.subscriptions.lookup id).bind fun type => type
    ⟨some entitlement, productId, ent.bind RevenueCatEntitlement.expiresDate,
      (periodType.getD "").toLower = "trial"⟩

/-- `none` without a key, which may also be empty, or when the call fails. -/
def verifyWithRevenueCat (secretApiKey : Option String) (userId : UserId) :
    PlanHandler (Option Verified) :=
  match secretApiKey.filter (· ≠ "") with
  | none => return none
  | some _ => ask (.verifySubscriber userId) fun answer db =>
    if answer.ok then some (verifiedOf answer.subscriber db.now) else none

structure SellerSubscriptionResponse where
  status : SubscriptionStatus
  active : Bool
  isPremium : Bool
  plan : Option String
  entitlement : Option String
  productId : Option String
  currentPeriodEnd : Option Time
  trialEndsAt : Option Time

def toSellerSubscriptionResponse (profile : SellerPlan) (now : Time) : SellerSubscriptionResponse :=
  ⟨profile.subscriptionStatus, Orders.isSubscriptionActive profile.subscriptionStatus
    profile.subscriptionCurrentPeriodEnd now, profile.isPremium, profile.subscriptionPlan,
    profile.revenueCatEntitlement, profile.subscriptionProductId,
    profile.subscriptionCurrentPeriodEnd, profile.trialEndsAt⟩

def assertSeller (supabaseId : String) : PlanHandler UserId := do
  let account ← read .query fun db => db.accountBySupabaseId supabaseId
  let (user, profile) ← orThrow account (.notFound "User profile not found")
  throwIf (user.role ≠ .seller ∨ profile = none) (.forbidden "Only sellers can update seller profile")
  return user.id

/-- `sellerProfile.update` with the fields of a RevenueCat change. -/
def syncFields (userId : UserId) (now : Time) (input : SubscriptionUpdateInput) : PlanTx SellerPlan := do
  let db ← get
  let profile ← Stmt.orThrow (db.sellerProfiles.find? userId) .recordNotFound
  set { db with sellerProfiles := db.sellerProfiles.update userId (buildSubscriptionFields now input) }
  return buildSubscriptionFields now input profile

def syncRevenueCatSubscription (secretApiKey : Option String) (supabaseId : String)
    (dto : SyncSubscriptionDto) : PlanHandler SellerSubscriptionResponse := do
  let userId ← assertSeller supabaseId
  let verified ← verifyWithRevenueCat secretApiKey userId
  -- field by field, what RevenueCat knows goes before the client's hint
  let entitlement := verified.bind Verified.entitlement <|> dto.entitlementId
  let productId := verified.bind Verified.productId <|> dto.productId
  let expiresAtMs := verified.bind Verified.expiresAtMs <|> dto.expiresAtMs
  let isTrial := (verified.map Verified.isTrial <|> dto.isTrial).getD false
  let status :=
    if entitlement.any (· ≠ "") then activeStatusForPeriod (some (if isTrial then "TRIAL" else "NORMAL"))
    else .none
  let now ← read .query PlanDb.now
  let updated ← await (.sync userId) fun _ => syncFields userId now
    ⟨status, entitlement, productId, expiresAtMs, isTrial, dto.category,
      some (dto.revenueCatCustomerId.getD (.user userId))⟩
  return toSellerSubscriptionResponse updated now

/-! ## The RevenueCat webhook -/

structure RevenueCatEvent where
  type : Option String
  appUserId : Option AppUserId
  originalAppUserId : Option AppUserId
  productId : Option String
  entitlementId : Option String
  entitlementIds : Option (List String)
  periodType : Option String
  expirationAtMs : Option Nat

/-- `sellerProfile.updateMany`: the number of rows. -/
def updatePlans (p : SellerPlan → Bool) (now : Time) (input : SubscriptionUpdateInput) : PlanTx Nat :=
  fun db => .ok (db.sellerProfiles.rows.countP p,
    { db with sellerProfiles := db.sellerProfiles.updateMany p (buildSubscriptionFields now input) })

/-- The seller is found by the user id, or else by the stored customer id. -/
def applyEntitlement (appUserId : AppUserId) (input : SubscriptionUpdateInput) : PlanHandler Unit := do
  let now ← read .query PlanDb.now
  let count ← await (.webhook appUserId) fun _ =>
    updatePlans (fun p => .user p.userId = appUserId) now input
  if count = 0 then do
    let _ ← await (.webhook appUserId) fun _ =>
      updatePlans (fun p => p.revenueCatCustomerId = some appUserId) now input
    return ()
  else
    return ()

def handleRevenueCatEvent (event : RevenueCatEvent) : PlanHandler Unit :=
  match event.type.filter (· ≠ ""), (event.appUserId <|> event.originalAppUserId).filter AppUserId.truthy with
  | some type, some appUserId =>
    match webhookEventToStatus type event.periodType with
    | none => return ()
    | some status =>
      let entitlementIds := event.entitlementIds.getD (event.entitlementId.filter (· ≠ "")).toList
      applyEntitlement appUserId
        ⟨status, pickActiveEntitlement entitlementIds, event.productId, event.expirationAtMs,
          (event.periodType.getD "").toUpper = "TRIAL", none, some appUserId⟩
  | _, _ => return ()

/-! ## What Stripe writes -/

/-- Unknown texts count as INCOMPLETE. -/
def subscriptionStatusFromStripe (raw : String) : SubscriptionStatus :=
  if raw = "active" then .active
  else if raw = "trialing" then .trialing
  else if raw = "past_due" then .pastDue
  else if raw = "canceled" then .canceled
  else if raw = "unpaid" then .unpaid
  else if raw = "incomplete" then .incomplete
  else if raw = "incomplete_expired" then .incompleteExpired
  else .incomplete

def periodEnd (sub : StripeSubscription) : Option Time :=
  (sub.currentPeriodEnd.filter (· ≠ 0)).map fun unix => unix * 1000

/-- The row that mirrors a Stripe subscription. -/
def mirrored (sub : StripeSubscription) (p : SellerPlan) : SellerPlan :=
  { p with
    stripeSubscriptionId := some sub.id
    subscriptionStatus := subscriptionStatusFromStripe sub.status
    subscriptionCurrentPeriodEnd := periodEnd sub }

theorem mirrored_userId (sub : StripeSubscription) (p : SellerPlan) :
    Keyed.key (mirrored sub p) = Keyed.key p := rfl

/-- `SellerProfile.stripeSubscriptionId` is unique: another row has it. -/
def subscriptionTaken (db : PlanDb) (userId : UserId) (id : StripeSubscriptionId) : Bool :=
  db.sellerProfiles.rows.any fun p => p.userId ≠ userId && p.stripeSubscriptionId = some id

/-- `sellerProfile.update` with the state of a Stripe subscription. -/
def mirrorSubscription (userId : UserId) (sub : StripeSubscription) : PlanTx Unit := do
  let db ← get
  let _ ← Stmt.orThrow (db.sellerProfiles.find? userId) .recordNotFound
  Stmt.throwIf (subscriptionTaken db userId sub.id) .uniqueViolation
  set { db with
    sellerProfiles := db.sellerProfiles.update userId (mirrored sub) (mirrored_userId sub) }

/-- Mirrors a Stripe subscription onto the seller's row. -/
def writeStateFromSub (userId : UserId) (sub : StripeSubscription) : PlanHandler Unit :=
  await (.writeState userId sub) fun _ => mirrorSubscription userId sub

/-- `subscriptions.retrieve`. -/
def retrieveSubscription : PlanHandler StripeSubscription := do
  let sub ← ask .stripeQuery fun answer _ => if answer.ok then some answer.subscription else none
  orThrow sub (.internal "No such subscription")

/-- The seller whom the metadata names, if there is one. -/
def sellerByMetadata (db : PlanDb) (sub : StripeSubscription) : Option UserId :=
  (sub.metadataUserId.bind db.sellerProfiles.find?).map fun p => p.userId

/-- The seller with the Stripe customer of the subscription. -/
def sellerByCustomer (db : PlanDb) (sub : StripeSubscription) : Option UserId :=
  sub.customer.bind fun customer => (db.users.rows.find? fun u =>
    u.stripeCustomerId = some customer && (db.sellerProfiles.find? u.id).isSome).map User.id

def findSeller (sub : StripeSubscription) : PlanHandler (Option UserId) := do
  let byMetadata ← read .query fun db => sellerByMetadata db sub
  match byMetadata with
  | some userId => return some userId
  | none => read .query fun db => sellerByCustomer db sub

/-- Writes the state of a subscription onto the profile of its seller. -/
def applySubscriptionState (sub : StripeSubscription) : PlanHandler Unit := do
  let seller ← findSeller sub
  match seller with
  | none => return ()
  | some userId => writeStateFromSub userId sub

structure CheckoutSession where
  mode : String
  subscription : Option StripeSubscriptionId

def handleCheckoutCompleted (session : CheckoutSession) : PlanHandler Unit :=
  if session.mode ≠ "subscription" then
    return ()
  else
    match session.subscription.filter (· ≠ "") with
    | none => return ()
    | some _ => do
      let sub ← retrieveSubscription
      applySubscriptionState sub

def handleInvoicePaymentFailed (subscription : Option StripeSubscriptionId) : PlanHandler Unit :=
  match subscription.filter (· ≠ "") with
  | none => return ()
  | some _ => do
    let sub ← retrieveSubscription
    applySubscriptionState sub

/-! ## `SubscriptionsService` -/

structure SubscriptionResponse where
  status : SubscriptionStatus
  currentPeriodEnd : Option Time
  active : Bool

/-- The current state; one that is not active is read again from Stripe. -/
def getStatus (supabaseId : String) : PlanHandler SubscriptionResponse := do
  let (account, now) ← read .query fun db => (db.accountBySupabaseId supabaseId, db.now)
  let (user, profile) ← orThrow account (.notFound "User profile not found")
  let status := (profile.map fun p => p.subscriptionStatus).getD .none
  let currentPeriodEnd := profile.bind fun p => p.subscriptionCurrentPeriodEnd
  let stale := (profile.bind SellerPlan.stripeSubscriptionId).any (· ≠ "") &&
    !Orders.isSubscriptionActive status currentPeriodEnd now
  let (status, currentPeriodEnd) ← try
      if stale then do
        let sub ← retrieveSubscription
        writeStateFromSub user.id sub
        pure (subscriptionStatusFromStripe sub.status, periodEnd sub)
      else
        pure (status, currentPeriodEnd)
    catch _ =>
      pure (status, currentPeriodEnd)
  let now ← read .query PlanDb.now
  return ⟨status, currentPeriodEnd, Orders.isSubscriptionActive status currentPeriodEnd now⟩

structure SubscriptionIntent where
  clientSecret : Option String
  subscriptionId : StripeSubscriptionId
  status : String

def intentOf (sub : StripeSubscription) : SubscriptionIntent := ⟨sub.clientSecret, sub.id, sub.status⟩

/-- A subscription that is still incomplete is used again; one that is active after
all is written and refused; `none` for the others. -/
def retrieveExisting (userId : UserId) : PlanHandler (Option SubscriptionIntent) := do
  let existing ← retrieveSubscription
  if existing.status = "active" ∨ existing.status = "trialing" then do
    writeStateFromSub userId existing
    throw (.conflict "Subscription is already active")
  else if existing.status = "incomplete" then
    pure (some (intentOf existing))
  else
    pure none

/-- `none` when a new subscription is needed. -/
def reuseExisting (userId : UserId) (existingId : Option StripeSubscriptionId) :
    PlanHandler (Option SubscriptionIntent) :=
  match existingId.filter (· ≠ "") with
  | none => return none
  | some _ =>
    tryCatch (retrieveExisting userId) fun e =>
      match e with
      | .conflict message => throw (.conflict message)
      -- not retrievable: a new one is created
      | _ => pure none

/-- `User.stripeCustomerId` is unique. -/
def saveCustomer (userId : UserId) (customer : CustomerId) : PlanTx Unit := do
  let db ← get
  Stmt.throwIf (db.users.rows.any fun u => u.id ≠ userId && u.stripeCustomerId = some customer)
    .uniqueViolation
  let users ← Stmt.orThrow (db.users.update? userId fun u => { u with stripeCustomerId := some customer })
    .recordNotFound
  set { db with users }

/-- The stored customer, if Stripe still has it. -/
def reusableCustomer (existing : Option CustomerId) : PlanHandler (Option CustomerId) :=
  match existing with
  | some (.stripe n) => ask .stripeQuery fun answer _ => if answer.ok then some (.stripe n) else none
  | _ => return none

def ensureCustomer (userId : UserId) (existing : Option CustomerId) : PlanHandler CustomerId := do
  let reusable ← reusableCustomer existing
  match reusable with
  | some customer => return customer
  | none => do
    let customer ← ask (.createCustomer userId) fun answer _ => if answer.ok then some answer.customer else none
    let customer ← orThrow customer (.internal "Payment provider unavailable")
    await (.saveCustomer userId) fun _ => saveCustomer userId customer
    return customer

/-- Starts a subscription, or goes on with an incomplete one. -/
def createSubscription (priceId : Option String) (supabaseId : String) :
    PlanHandler SubscriptionIntent := do
  throwIf (priceId.all (· = "")) (.serviceUnavailable "Subscription plan is not configured")
  let (account, now) ← read .query fun db => (db.accountBySupabaseId supabaseId, db.now)
  let (user, profile) ← orThrow account (.notFound "User profile not found")
  throwIf (user.role ≠ .seller) (.forbidden "Only sellers can subscribe")
  let profile ← orThrow profile (.forbidden "Only sellers can subscribe")
  throwIf (Orders.isSubscriptionActive profile.subscriptionStatus profile.subscriptionCurrentPeriodEnd now)
    (.conflict "Subscription is already active")
  let reused ← reuseExisting user.id profile.stripeSubscriptionId
  match reused with
  | some intent => return intent
  | none => do
    let _ ← ensureCustomer user.id user.stripeCustomerId
    let sub ← ask (.createSubscription user.id) fun answer _ =>
      if answer.ok then some answer.subscription else none
    let sub ← orThrow sub (.internal "Payment provider unavailable")
    writeStateFromSub user.id sub
    return intentOf sub

end Subscriptions

/-! ## The service -/

/-- What the subscription services read from the process environment. -/
structure PlanConfig where
  revenueCatSecretApiKey : Option String
  sellerSubscriptionPriceId : Option String

inductive PlanCall where
  | syncRevenueCatSubscription (supabaseId : String) (dto : Subscriptions.SyncSubscriptionDto)
  | revenueCatEvent (event : Subscriptions.RevenueCatEvent)
  | subscriptionEvent (sub : StripeSubscription)
  | checkoutCompleted (session : Subscriptions.CheckoutSession)
  | invoicePaymentFailed (subscription : Option StripeSubscriptionId)
  | getStatus (supabaseId : String)
  | createSubscription (supabaseId : String)

inductive PlanReply where
  | nothing
  | seller (response : Subscriptions.SellerSubscriptionResponse)
  | status (response : Subscriptions.SubscriptionResponse)
  | intent (intent : Subscriptions.SubscriptionIntent)

def planHandle (cfg : PlanConfig) : PlanCall → PlanHandler PlanReply
  | .syncRevenueCatSubscription sub dto => do
    return .seller (← Subscriptions.syncRevenueCatSubscription cfg.revenueCatSecretApiKey sub dto)
  | .revenueCatEvent event => do
    Subscriptions.handleRevenueCatEvent event
    return .nothing
  | .subscriptionEvent sub => do
    Subscriptions.applySubscriptionState sub
    return .nothing
  | .checkoutCompleted session => do
    Subscriptions.handleCheckoutCompleted session
    return .nothing
  | .invoicePaymentFailed subscription => do
    Subscriptions.handleInvoicePaymentFailed subscription
    return .nothing
  | .getStatus sub => do return .status (← Subscriptions.getStatus sub)
  | .createSubscription sub => do
    return .intent (← Subscriptions.createSubscription cfg.sellerSubscriptionPriceId sub)

/-- The only event is the passing of time, in milliseconds. -/
def planService (cfg : PlanConfig) : Service planMachine where
  Call := PlanCall
  Reply := PlanReply
  Event := Nat
  handle := fun _ => planHandle cfg
  admits := fun _ _ => true
  event := fun ms db => { db with now := db.now + ms }

end IncaCook
