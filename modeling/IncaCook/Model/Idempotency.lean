import IncaCook.Library.Embedding
import IncaCook.Model.System

/-!
# The Idempotency-Key of an order request

`POST /v1/orders`: the controller looks the key up, creates the order when
nothing is recorded under it, and records the response. The key store is a table
of its own beside the database of orders, so the request runs on the pair, and
`createOrder` on its first component.

The body of a request comes twice: as the order it asks for, and as the text that
`JSON.stringify` makes of it, which also depends on the order of the client's
keys and is what the hash sees. SHA-256 is a parameter.
-/

namespace IncaCook

open Prog

abbrev IdempotencyKeyId := Ulid

/-- A row of the `IdempotencyKey` table. -/
structure IdempotencyRecord where
  id : IdempotencyKeyId
  userId : UserId
  key : String
  requestHash : String
  responseStatus : Nat
  responseBody : Orders.CreateOrderResult
  expiresAt : Time

instance : Keyed IdempotencyRecord IdempotencyKeyId := ⟨IdempotencyRecord.id⟩

/-- The database with the key store. -/
structure Store where
  db : Db
  idempotencyKeys : Table IdempotencyRecord

/-- The unique index on the user and the key. -/
def Store.record? (st : Store) (userId : UserId) (key : String) : Option IdempotencyRecord :=
  st.idempotencyKeys.rows.find? fun r => r.userId = userId && r.key = key

inductive StoreSite where
  | orders (site : Site)
  | getKey (userId : UserId) (key : String)
  | saveKey (userId : UserId) (key : String)
  deriving DecidableEq

abbrev storeMachine : Machine := ⟨Store, Answer, StoreSite, Err⟩

/-- The part that the orders service knows. -/
def ordersPart : Machine.Part machine storeMachine where
  get := Store.db
  put db st := { st with db }
  site := .orders
  answer := id
  error := id
  get_put _ _ := rfl

namespace Idempotency

def ttlHours : Nat := 24

variable (sha256 : String → String)

/-- `hashBody` of a serialized body. -/
def hashBody (body : String) : String := sha256 body

structure Cached where
  status : Nat
  response : Orders.CreateOrderResult

def resolveUserId (supabaseId : String) : Prog storeMachine UserId := do
  let user ← read (.orders .query) fun st => st.db.userIdOf supabaseId
  orThrow user (.notFound "User profile not found")

/-- What is recorded under the key; a record of another body is refused. -/
def get (supabaseId key body : String) : Prog storeMachine (Option Cached) := do
  let userId ← resolveUserId supabaseId
  -- `expiresAt` is not looked at
  let existing ← read (.getKey userId key) fun st => st.record? userId key
  match existing with
  | none => return none
  | some existing =>
    throwIf (existing.requestHash ≠ hashBody sha256 body)
      (.conflict "Idempotency-Key reused with a different request body")
    return some ⟨existing.responseStatus, existing.responseBody⟩

/-- `idempotencyKey.create`; the database may fail to carry it out. -/
def createKey (row : Time → IdempotencyRecord) (answer : Answer) :
    StateT Store (Except Err) Unit := fun st =>
  if answer.ok = false then .error .database
  else
    let row := row st.db.now
    match st.record? row.userId row.key, st.idempotencyKeys.insert? row with
    | none, some idempotencyKeys => .ok ((), { st with idempotencyKeys })
    | _, _ => .error .uniqueViolation

def save (me : Nat) (supabaseId key body : String) (status : Nat)
    (response : Orders.CreateOrderResult) : Prog storeMachine Unit := do
  let userId ← resolveUserId supabaseId
  await (.saveKey userId key) (createKey fun now =>
    ⟨generateUlid me 2, userId, key, hashBody sha256 body, status, response,
      now + ttlHours * 3600 * 1000⟩)

end Idempotency

namespace OrdersController

/-- A request: who sends it, its header, and its body, parsed and as a text. -/
structure CreateRequest where
  supabaseId : String
  idempotencyKey : Option String
  dto : Orders.CreateOrderDto
  body : String

/-- `POST /v1/orders`. -/
def create (cfg : Config) (sha256 : String → String) (me : Nat) (req : CreateRequest) :
    Prog storeMachine Orders.CreateOrderResult := do
  let key ← orThrow (truthy req.idempotencyKey) (.badRequest "Idempotency-Key header is required")
  let cached ← Idempotency.get sha256 req.supabaseId key req.body
  match cached with
  | some cached => return cached.response
  | none =>
    let response ← (Orders.createOrder cfg me req.supabaseId req.dto).within ordersPart
    Idempotency.save sha256 me req.supabaseId key req.body 201 response
    return response

end OrdersController

def ordersController (cfg : Config) (sha256 : String → String) : Service storeMachine where
  Call := OrdersController.CreateRequest
  Reply := Orders.CreateOrderResult
  Event := Event
  handle := OrdersController.create cfg sha256
  admits := fun _ _ => true
  event := fun e st => { st with db := applyEvent e st.db }

end IncaCook
