import IncaCook.Model.Database

/-!
# Strikes

`StrikesService`: a strike is recorded once per incident, and three active
points within 90 days suspend the account.
-/

namespace IncaCook

open Prog

/-- The identifier generated at one place of the source by call `me`; a call
passes each place at most once. -/
def generateUlid (me place : Nat) : Ulid := ⟨me, place⟩

namespace Strikes

def strikeWindowDays : Nat := 90
def suspensionThresholdPoints : Nat := 3
def dayMs : Nat := 24 * 60 * 60 * 1000

structure AddStrikeInput where
  userId : UserId
  role : ActorRole
  points : Nat
  reason : StrikeReason
  severity : StrikeSeverity
  sourceType : StrikeSourceType
  sourceId : Option StrikeSourceId := none
  orderId : Option OrderId := none
  deliveryId : Option DeliveryId := none
  notes : Option String := none

/-- Whether a strike is about the incident of the input: the same user, role and
reason, and the most specific source that the input names. -/
def AddStrikeInput.sameIncident (input : AddStrikeInput) (k : Strike) : Bool :=
  k.userId = input.userId && k.actorRole = input.role && k.reason = input.reason &&
    (if input.deliveryId.isSome then k.deliveryId = input.deliveryId
     else if input.orderId.isSome then k.orderId = input.orderId
     else k.sourceId = input.sourceId)

/-- Whether the input names any source. -/
def AddStrikeInput.hasSource (input : AddStrikeInput) : Bool :=
  input.deliveryId.isSome || input.orderId.isSome || input.sourceId.isSome

def AddStrikeInput.row (input : AddStrikeInput) (id : StrikeId) (now : Time) : Strike where
  id
  userId := input.userId
  actorRole := input.role
  points := input.points
  reason := input.reason
  severity := input.severity
  sourceType := input.sourceType
  sourceId := input.sourceId
  orderId := input.orderId
  deliveryId := input.deliveryId
  notes := input.notes
  createdAt := now
  expiresAt := now + strikeWindowDays * dayMs

def createStrike (input : AddStrikeInput) (id : StrikeId) : Tx Unit := do
  let db ← get
  let strikes ← Tx.orThrow (db.strikes.insert? (input.row id db.now)) .uniqueViolation
  set { db with strikes }

/-- Sum of the user's points in a role within the last 90 days. -/
def activeStrikePoints (db : Db) (userId : UserId) (role : ActorRole) : Nat :=
  ((db.strikes.rows.filter fun k => k.userId = userId && k.actorRole = role &&
    db.now - strikeWindowDays * dayMs ≤ k.createdAt).map Strike.points).sum

/-- `updateMany` on the user while not suspended. -/
def suspendRow (userId : UserId) (reason : StrikeReason) : Tx Unit :=
  modify fun db => { db with
    users := db.users.updateMany (fun u => u.id = userId && !u.isSuspended) fun u =>
      { u with isSuspended := true, suspendedAt := some db.now, suspensionReason := some reason } }

def suspendUser (userId : UserId) (reason : StrikeReason) : Handler Unit :=
  await (.suspendUser userId) fun _ => suspendRow userId reason

/-- Suspends the user when the active points reach the threshold. -/
def evaluateSuspension (userId : UserId) (role : ActorRole) (reason : StrikeReason) :
    Handler Bool := do
  let points ← read .query fun db => activeStrikePoints db userId role
  -- true also for a user whom the update finds suspended
  if points ≥ suspensionThresholdPoints then
    suspendUser userId reason
    return true
  else
    return false

def isSuspended (userId : UserId) : Handler Bool :=
  read .query fun db => ((db.users.find? userId).map User.isSuspended).getD false

/-- Whether a strike was created, and whether the user is now suspended. -/
structure AddStrikeResult where
  created : Bool
  suspended : Bool
  deriving DecidableEq, Repr

/-- Whether the incident of the input has a strike already. -/
def isDuplicate (input : AddStrikeInput) : Handler Bool :=
  if input.hasSource then
    read .query fun db => db.strikes.rows.any input.sameIncident
  else
    return false

/-- Records a strike, once per source, and evaluates the suspension again. -/
def addStrike (me : Nat) (input : AddStrikeInput) : Handler AddStrikeResult := do
  let duplicate ← isDuplicate input
  if duplicate then
    return { created := false, suspended := ← isSuspended input.userId }
  else
    await (.createStrike input.userId) fun _ => createStrike input (generateUlid me 4)
    return { created := true, suspended := ← evaluateSuspension input.userId input.role input.reason }

/-- A critical strike, and the suspension whatever the points. -/
def immediateExclude (me : Nat) (userId : UserId) (role : ActorRole) (reason : StrikeReason)
    (sourceType : StrikeSourceType) (deliveryId : DeliveryId) (orderId : OrderId) :
    Handler Unit := do
  let _ ← addStrike me
    { userId, role, points := suspensionThresholdPoints, reason, severity := .critical, sourceType
      deliveryId := some deliveryId, orderId := some orderId }
  suspendUser userId reason

end Strikes

end IncaCook
