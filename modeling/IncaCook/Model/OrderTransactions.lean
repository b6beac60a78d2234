import IncaCook.Library.RowLocks
import IncaCook.Model.Checkout

/-!
# The order transactions, statement by statement

`placeOrder` runs the transaction of `createOrder` in one piece. Here any number of
them are open at once and take turns, statement by statement, in production: one
guarded `UPDATE` for each listing of the cart, then the `INSERT` of the order, then
the commit. Postgres serialises the updates by row locks. A transaction that fails
is rolled back, and it may fail at any time: an update that judged its guard by an
older version of the row, a timeout and a lost connection are all of this kind.
-/

namespace IncaCook

open Orders

namespace OrderTransactions

/-- `UPDATE "Listing" SET "portionsLeft" = "portionsLeft" - q WHERE "id" = … AND
"portionsLeft" >= q`, on the row. -/
def decrementRow (wanted : ListingId × Nat) : RowUpdate Listing where
  key := wanted.1
  apply l :=
    if l.portionsLeft.any fun n => decide ((wanted.2 : Int) ≤ n) then
      some { l with portionsLeft := l.portionsLeft.map fun n => n - wanted.2 }
    else none
  keeps l l' h := by
    split at h
    · cases h
      rfl
    · cases h

/-- The updates of `atomicDecrementInventory`. -/
def decrements (items : List CreateOrderItemDto) : List (RowUpdate Listing) :=
  (quantityByListing (items.map fun i => (i.listingId, i.quantity))).map decrementRow

/-- What an open transaction was called with, and the order that it has inserted. -/
structure OpenOrder where
  args : InsertOrderArgs
  order : Option Order

/-- The listings under their locks; `rest` holds the other tables. -/
structure State where
  locks : RowLocks Listing OpenOrder
  rest : Db

namespace State

/-- The database as it is committed. -/
def committed (s : State) : Db := { s.rest with listings := s.locks.rows }

/-- The database as transaction `i` sees it. -/
def seenBy (s : State) (i : ℕ) : Db := { s.rest with listings := s.locks.view i }

end State

/-- No transaction is open on `db`. -/
def start (db : Db) : State := ⟨.start db.listings, db⟩

/-- The next statement of a transaction, or the clock. -/
inductive Move where
  | begin (i : ℕ) (args : InsertOrderArgs)
  | decrement (i : ℕ)
  | insert (i : ℕ)
  | commit (i : ℕ)
  | rollback (i : ℕ)
  | wait (now : Time)

def step (s : State) : Move → State
  | .begin i args => { s with locks := s.locks.begin i (decrements args.dto.items) ⟨args, none⟩ }
  | .decrement i => { s with locks := s.locks.exec i }
  | .insert i =>
    match s.locks.live i with
    | some ⟨_, [], ⟨args, none⟩⟩ =>
      match insertOrder args (s.seenBy i) with
      | .ok (order, _) => { s with locks := s.locks.note i ⟨args, some order⟩ }
      | .error _ => { s with locks := s.locks.abort i }
    | _ => s
  | .commit i =>
    match s.locks.live i with
    | some ⟨_, [], ⟨_, some order⟩⟩ =>
      -- another transaction may have committed the same number in between
      match createOrderRow order s.rest with
      | .ok (_, rest) => { locks := s.locks.commit i, rest }
      | .error _ => { s with locks := s.locks.abort i }
    | _ => s
  | .rollback i => { s with locks := s.locks.abort i }
  | .wait now => { s with rest := { s.rest with now } }

def run (s : State) (moves : List Move) : State := moves.foldl step s

end OrderTransactions

end IncaCook
