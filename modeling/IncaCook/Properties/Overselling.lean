import IncaCook.Model.OrderTransactions
import IncaCook.Properties.Stock

/-!
# No overselling

The order transactions compete for the stock row by row and in any order. A guarded
update sees the newest committed version of its row or waits, so the updates of a
transaction do what they would do alone at its commit. Every committed order has
then taken its quantities from the committed stock, and the stock that is left says
how much was sold.

Main results:

* `commit_refines`: a commit is `placeOrder` run alone on the committed database;
* `Books.run`: what is left of a listing is what there was less what was sold;
* `no_overselling`: counted stock stays non-negative, and no more is sold than there was.
-/

namespace IncaCook

open Prog Orders

namespace OrderTransactions

variable {cfg : Config} {db : Db} {s : State} {i : ℕ} {id : ListingId}

/-! ## The updates alone -/

theorem decrementRow_apply {p : ListingId × Nat} {l : Listing} :
    (decrementRow p).apply l = if l.covers p.2 = true then some (l.take p.2) else none := rfl

/-- The update on rows that nobody else uses. -/
theorem decrementRow_run {p : ListingId × Nat} {t t' : Table Listing} :
    (decrementRow p).run t = some t' ↔
      (∃ l, t.find? p.1 = some l ∧ l.covers p.2 = true) ∧ t' = t.update p.1 (Listing.take p.2) := by
  by_cases hrow : ∃ l, t.find? p.1 = some l ∧ l.covers p.2 = true
  · obtain ⟨l, hl, hcovers⟩ := hrow
    have happly : (decrementRow p).apply l = some (l.take p.2) := by
      rw [decrementRow_apply, if_pos hcovers]
    have hrun : (decrementRow p).run t = some (t.update p.1 (Listing.take p.2)) :=
      RowUpdate.run_eq hl happly
    rw [hrun, Option.some.injEq, eq_comm]
    exact (and_iff_right ⟨l, hl, hcovers⟩).symm
  · have hnone : (t.find? p.1).bind (decrementRow p).apply = none := by
      cases hl : t.find? p.1 with
      | none => rfl
      | some l =>
        rw [Option.bind_some, decrementRow_apply, if_neg fun hcovers => hrow ⟨l, hl, hcovers⟩]
    rw [RowUpdate.run_none hnone]
    exact ⟨nofun, fun h => absurd h.1 hrow⟩

/-- Updates that go through take what they say. -/
theorem runAll_decrementRow {wanted : List (ListingId × Nat)} {t t' : Table Listing}
    (h : RowUpdate.runAll (wanted.map decrementRow) t = some t') : t' = takeStock wanted t := by
  induction wanted generalizing t with
  | nil =>
    rw [takeStock_nil]
    exact (Option.some.inj h).symm
  | cons p rest ih =>
    obtain ⟨t₁, hrun, hrest⟩ := Option.bind_eq_some_iff.mp h
    rw [ih hrest, (decrementRow_run.mp hrun).2, takeStock_cons]

/-- In production the updates are the loop of `atomicDecrementInventory`. -/
theorem forM_decrementListing_of_runAll (hprod : cfg.development = false) {listings : List Listing}
    {wanted : List (ListingId × Nat)} {t' : Table Listing}
    (h : RowUpdate.runAll (wanted.map decrementRow) db.listings = some t') :
    (wanted.forM fun p => decrementListing cfg listings p.1 p.2) db =
      .ok ((), { db with listings := t' }) := by
  induction wanted generalizing db with
  | nil =>
    obtain rfl : db.listings = t' := Option.some.inj h
    rfl
  | cons p rest ih =>
    obtain ⟨t₁, hrun, hrest⟩ := Option.bind_eq_some_iff.mp h
    obtain ⟨hrow, rfl⟩ := decrementRow_run.mp hrun
    show (decrementListing cfg listings p.1 p.2 >>= fun _ => rest.forM _) db = _
    rw [Stmt.bind_ok]
    exact ⟨(), _, (decrementListing_ok hprod).mpr ⟨hrow, rfl⟩, ih hrest⟩

theorem decrementRow_keeps {p : ListingId × Nat} :
    (decrementRow p).Keeps fun l => l.id = id → ∃ left : Int, l.portionsLeft = some left ∧ 0 ≤ left := by
  intro l l' hl happly hid
  rw [decrementRow_apply] at happly
  split at happly
  case isTrue hcovers =>
    cases happly
    obtain ⟨n, hn, hle⟩ := Listing.covers_iff.mp hcovers
    refine ⟨n - p.2, ?_, by omega⟩
    show l.portionsLeft.map (fun n => n - (p.2 : Int)) = _
    rw [hn, Option.map_some]
  case isFalse => cases happly

/-! ## What was sold -/

/-- The lines of an order as quantities under listings. -/
def orderLines (o : Order) : List (ListingId × Nat) :=
  o.items.map fun item => (item.listingId, item.quantity)

theorem orderLines_newOrder {args : InsertOrderArgs} :
    orderLines (newOrder db args) = cartLines args.dto.items := by
  unfold orderLines newOrder cartLines
  rw [List.map_map]
  rfl

theorem takeStock_takeStock {wanted wanted' : List (ListingId × Nat)} {t : Table Listing} :
    takeStock wanted' (takeStock wanted t) = takeStock (wanted ++ wanted') t := by
  apply Table.ext_rows
  unfold takeStock Table.updateMany
  simp only [List.map_map, if_true]
  apply List.map_congr_left
  intro l _
  rw [Function.comp_apply, sumAt_append]
  exact Listing.take_take l

/-- Orders are the rows newest first, so a new one comes to the front of those placed. -/
theorem takeStock_cons_order {o : Order} {placed : List Order} {t : Table Listing} :
    takeStock (orderLines o) (takeStock (placed.flatMap orderLines) t) =
      takeStock ((o :: placed).flatMap orderLines) t := by
  rw [takeStock_takeStock]
  apply takeStock_congr
  intro id
  rw [List.flatMap_cons, sumAt_append, sumAt_append, Nat.add_comm]

/-- Taking stock does not change what the order row copies from the listings. -/
theorem newOrder_takeStock {db' : Db} {wanted : List (ListingId × Nat)} {args : InsertOrderArgs}
    (hlistings : db'.listings = takeStock wanted db.listings) (hnow : db'.now = db.now) :
    newOrder db' args = newOrder db args := by
  have himage : ∀ id, ((db'.listings.find? id).bind fun l => l.imageUrls.head?) =
      (db.listings.find? id).bind fun l => l.imageUrls.head? := by
    intro id
    rw [hlistings, find?_takeStock]
    cases db.listings.find? id with
    | none => rfl
    | some l => rfl
  unfold newOrder itemSnapshot
  simp only [himage, hnow]

/-- The books of a run from `db`: the updates of a transaction are those of its cart,
an inserted order is the one it asked for, and the committed stock is what there was
less what the committed orders took. -/
structure Books (db : Db) (s : State) : Prop where
  locks : s.locks.Inv
  program : ∀ i t, s.locks.live i = some t → t.done ++ t.todo = decrements t.label.args.dto.items
  inserted : ∀ i t order, s.locks.live i = some t → t.label.order = some order →
    t.todo = [] ∧ ∃ now, order = newOrder { db with now } t.label.args
  sold : ∃ placed, s.rest.orders.rows = placed ++ db.orders.rows ∧
    s.locks.rows = takeStock (placed.flatMap orderLines) db.listings

/-- When its updates are done, a transaction sees the committed stock less its cart. -/
theorem Books.view (h : Books db s) {done : List (RowUpdate Listing)} {label : OpenOrder}
    (hlive : s.locks.live i = some ⟨done, [], label⟩) :
    s.locks.view i = takeStock (cartLines label.args.dto.items) s.locks.rows := by
  have hall : RowUpdate.runAll done s.locks.rows = some (s.locks.view i) := h.locks.runAll_view hlive
  have hdone : done = decrements label.args.dto.items := by
    rw [← h.program i _ hlive, List.append_nil]
  rw [hdone] at hall
  rw [runAll_decrementRow hall]
  exact takeStock_congr (fun id => sumAt_tally id (cartLines label.args.dto.items)) _

theorem books_start : Books db (start db) := by
  have hclosed : ∀ i t, (start db).locks.live i ≠ some t :=
    fun i t => (Option.some_ne_none t).symm
  exact ⟨.start db.listings, fun i t ht => absurd ht (hclosed i t),
    fun i t order ht => absurd ht (hclosed i t), [], rfl, (takeStock_nil db.listings).symm⟩

theorem Books.begin (h : Books db s) {args : InsertOrderArgs} :
    Books db (step s (.begin i args)) := by
  refine ⟨h.locks.begin _ _, fun j t ht => ?_, fun j t order ht horder => ?_, ?_⟩
  · rcases RowLocks.live_begin ht with hold | rfl
    · exact h.program j t hold
    · rfl
  · rcases RowLocks.live_begin ht with hold | rfl
    · exact h.inserted j t order hold horder
    · cases horder
  · obtain ⟨placed, horders, hrows⟩ := h.sold
    exact ⟨placed, horders, RowLocks.rows_begin.trans hrows⟩

theorem Books.abort (h : Books db s) : Books db { s with locks := s.locks.abort i } :=
  ⟨h.locks.abort, fun j t ht => h.program j t (RowLocks.live_abort ht),
    fun j t order ht => h.inserted j t order (RowLocks.live_abort ht), h.sold⟩

theorem Books.decrement (h : Books db s) : Books db (step s (.decrement i)) := by
  refine ⟨h.locks.exec, fun j t ht => ?_, fun j t order ht horder => ?_, ?_⟩
  · rcases RowLocks.live_exec ht with hold | ⟨done, u, todo, label, hold, rfl⟩
    · exact h.program j t hold
    · rw [← h.program j _ hold, List.append_assoc]
      rfl
  · rcases RowLocks.live_exec ht with hold | ⟨done, u, todo, label, hold, rfl⟩
    · exact h.inserted j t order hold horder
    · -- an order is inserted only when no update is left
      cases (h.inserted j _ order hold horder).1
  · obtain ⟨placed, horders, hrows⟩ := h.sold
    exact ⟨placed, horders, RowLocks.rows_exec.trans hrows⟩

/-- The committed stock, less what is sold, looks to `newOrder` like the first one. -/
theorem Books.newOrder_eq (h : Books db s) {db' : Db} {wanted : List (ListingId × Nat)}
    {args : InsertOrderArgs} (hlistings : db'.listings = takeStock wanted s.locks.rows) :
    newOrder db' args = newOrder { db with now := db'.now } args := by
  obtain ⟨placed, -, hrows⟩ := h.sold
  rw [hrows, takeStock_takeStock] at hlistings
  exact newOrder_takeStock hlistings rfl

theorem Books.insert (h : Books db s) : Books db (step s (.insert i)) := by
  simp only [step]
  split
  case h_2 => exact h
  case h_1 done args hlive =>
    split
    case h_2 => exact h.abort
    case h_1 order s' hinsert =>
      have horder : order = newOrder (s.seenBy i) args := by
        simp only [insertOrder, Stmt.bind_ok, Stmt.get_ok, Stmt.pure_ok] at hinsert
        obtain ⟨_, _, ⟨rfl, rfl⟩, _, _, -, rfl, -⟩ := hinsert
        rfl
      have hview := h.view hlive
      -- the insert stays in the transaction: its own entry gets the order, nobody
      -- else's moves
      refine ⟨h.locks.note _, fun j t ht => ?_, fun j t o ht ho => ?_, ?_⟩
      · rcases RowLocks.live_note ht with hold | ⟨t₀, hold, rfl⟩
        · exact h.program j t hold
        · rw [hlive, Option.some.injEq] at hold
          subst hold
          have hprogram := h.program i _ hlive
          exact hprogram
      · rcases RowLocks.live_note ht with hold | ⟨t₀, hold, rfl⟩
        · exact h.inserted j t o hold ho
        · rw [hlive, Option.some.injEq] at hold
          subst hold
          rw [← Option.some.inj ho, horder]
          exact ⟨rfl, s.rest.now, h.newOrder_eq hview⟩
      · obtain ⟨placed, horders, hrows⟩ := h.sold
        exact ⟨placed, horders, RowLocks.rows_note.trans hrows⟩

/-- What a commit can do: nothing, roll back, or add the order that its cart paid for. -/
theorem Books.commit_cases (h : Books db s) : step s (.commit i) = s ∨
    step s (.commit i) = { s with locks := s.locks.abort i } ∨
    ∃ done args order now orders, s.locks.live i = some ⟨done, [], ⟨args, some order⟩⟩ ∧
      order = newOrder { db with now } args ∧ s.rest.orders.insert? order = some orders ∧
      createOrderRow order s.rest = .ok ((), { s.rest with orders }) ∧
      step s (.commit i) = ⟨s.locks.commit i, { s.rest with orders }⟩ := by
  simp only [step]
  split
  case h_2 => exact .inl rfl
  case h_1 done args order hlive =>
    right
    obtain ⟨-, now, horder⟩ := h.inserted i _ order hlive rfl
    split
    case h_2 => exact .inl rfl
    case h_1 rest hcreate =>
      obtain ⟨orders, hnew, rfl⟩ := createOrderRow_ok hcreate
      exact .inr ⟨done, args, order, now, orders, hlive, horder, hnew, hcreate, rfl⟩

theorem Books.commit (h : Books db s) : Books db (step s (.commit i)) := by
  obtain hsame | habort | ⟨done, args, order, now, orders, hlive, horder, hnew, -, hcommit⟩ :=
    h.commit_cases (i := i)
  · rw [hsame]
    exact h
  · rw [habort]
    exact h.abort
  · rw [hcommit]
    refine ⟨h.locks.commit, fun j t ht => h.program j t (RowLocks.live_commit ht),
      fun j t order ht => h.inserted j t order (RowLocks.live_commit ht), ?_⟩
    obtain ⟨placed, horders, hrows⟩ := h.sold
    refine ⟨order :: placed, ?_, ?_⟩
    · rw [(Table.insert?_eq_some.mp hnew).2, horders]
      rfl
    · have hlines : orderLines order = cartLines args.dto.items := horder ▸ orderLines_newOrder
      have hview := h.view hlive
      rw [← hlines, hrows, takeStock_cons_order] at hview
      exact hview

theorem Books.step (h : Books db s) (move : Move) : Books db (step s move) := by
  cases move with
  | begin i args => exact h.begin
  | decrement i => exact h.decrement
  | insert i => exact h.insert
  | commit i => exact h.commit
  | rollback i => exact h.abort
  | wait now => exact ⟨h.locks, h.program, h.inserted, h.sold⟩

theorem Books.run (moves : List Move) (h : Books db s) : Books db (run s moves) := by
  induction moves generalizing s with
  | nil => exact h
  | cons move rest ih => exact ih (h.step move)

/-! ## Every commit is one order placed alone -/

/-- Adding the order row needs only the orders. -/
theorem createOrderRow_frame {o : Order} {orders : Table Order} {s s' : Db}
    (h : createOrderRow o s = .ok ((), { s with orders })) (horders : s'.orders = s.orders) :
    createOrderRow o s' = .ok ((), { s' with orders }) := by
  simp only [createOrderRow, Stmt.bind_ok, Stmt.get_ok, Tx.throwIf_ok, Tx.orThrow_ok,
    Stmt.modify_ok] at h ⊢
  obtain ⟨_, _, ⟨rfl, rfl⟩, _, _, ⟨hnumber, rfl⟩, _, _, ⟨rfl, rfl⟩, orders', _, ⟨hnew, rfl⟩, heq⟩ := h
  obtain rfl : orders = orders' := congrArg Db.orders heq
  rw [← horders] at hnumber hnew
  exact ⟨_, _, ⟨rfl, rfl⟩, (), _, ⟨hnumber, rfl⟩, _, _, ⟨rfl, rfl⟩, orders, _, ⟨hnew, rfl⟩, rfl⟩

/-- **Commits serialise.** A commit leaves the committed database as it was, or does to
it what `placeOrder` does alone, by the clock of its `INSERT`. -/
theorem commit_refines (hprod : cfg.development = false) (h : Books db s) :
    (step s (.commit i)).committed = s.committed ∨
    ∃ args order now, placeOrder cfg args { s.committed with now } =
      .ok (order, { (step s (.commit i)).committed with now }) := by
  obtain hsame | habort | ⟨done, args, order, now, orders, hlive, horder, -, hcreate, hcommit⟩ :=
    h.commit_cases (i := i)
  · rw [hsame]
    exact .inl rfl
  · rw [habort]
    exact .inl rfl
  · right
    have hdone : done = decrements args.dto.items := by
      rw [← h.program i _ hlive, List.append_nil]
    -- what the transaction sees at its commit is what its decrements make of the
    -- committed rows, for it holds the locks on them
    have hstock : atomicDecrementInventory cfg args.dto.items args.cart.listings
        { s.committed with now } = .ok ((), { s.committed with listings := s.locks.view i, now }) := by
      apply forM_decrementListing_of_runAll hprod
      rw [← decrements, ← hdone]
      exact h.locks.runAll_view hlive
    refine ⟨args, order, now, ?_⟩
    have hsame : newOrder { s.committed with listings := s.locks.view i, now } args = order := by
      rw [horder]
      exact h.newOrder_eq (h.view hlive)
    rw [hcommit, placeOrder, Stmt.bind_ok]
    refine ⟨(), _, hstock, ?_⟩
    rw [insertOrder, Stmt.bind_ok]
    refine ⟨_, _, Stmt.get_ok.mpr ⟨rfl, rfl⟩, ?_⟩
    rw [Stmt.bind_ok, hsame]
    exact ⟨(), _, createOrderRow_frame hcreate rfl, Stmt.pure_ok.mpr ⟨rfl, rfl⟩⟩

/-! ## The stock -/

/-- The stock of a listing after a run that began with `n` portions. -/
structure NotOversold (db : Db) (id : ListingId) (n : Nat) (s : State) : Prop where
  committed : ∃ left : Int, (s.committed.listings.find? id).bind Listing.portionsLeft = some left ∧
    0 ≤ left
  seen : ∀ i, ∃ left : Int, ((s.seenBy i).listings.find? id).bind Listing.portionsLeft = some left ∧
    0 ≤ left
  sold : ∃ placed, s.committed.orders.rows = placed ++ db.orders.rows ∧
    sumAt id (placed.flatMap orderLines) ≤ n

/-- What holds of a counted row, and is kept by every update, holds of every version. -/
theorem holds_run {P : Listing → Prop} (hkeeps : ∀ p, (decrementRow p).Keeps P) (moves : List Move)
    (h : s.locks.Holds P) : (run s moves).locks.Holds P := by
  have hdecrements : ∀ items, ∀ u ∈ decrements items, u.Keeps P := by
    intro items u hu
    obtain ⟨p, -, rfl⟩ := List.mem_map.mp hu
    exact hkeeps p
  -- a move rewrites rows by decrements only, whichever transaction it belongs to
  have hstep : ∀ {s : State} (move : Move), s.locks.Holds P → (step s move).locks.Holds P := by
    intro s move h
    cases move with
    | begin i args => exact h.begin (hdecrements _)
    | decrement i => exact h.exec
    | insert i =>
      simp only [step]
      split
      case h_2 => exact h
      case h_1 =>
        split
        · exact h.note
        · exact h.abort
    | commit i =>
      simp only [step]
      split
      case h_2 => exact h
      case h_1 =>
        split
        · exact h.commit
        · exact h.abort
    | rollback i => exact h.abort
    | wait now => exact h
  induction moves generalizing s with
  | nil => exact h
  | cons move rest ih => exact ih (hstep move h)

/-- **No overselling.** From any database, after any moves of any order transactions,
a listing that began with `n` portions has a non-negative count in every version,
and the orders that committed since ask for at most `n` of it. -/
theorem no_overselling {l : Listing} {n : Nat} (hl : db.listings.find? id = some l)
    (hn : l.portionsLeft = some (n : Int)) (moves : List Move) :
    NotOversold db id n (run (start db) moves) := by
  have hbooks : Books db (run (start db) moves) := books_start.run moves
  obtain ⟨placed, horders, hrows⟩ := hbooks.sold
  have hlid : l.id = id := Table.key_of_find? hl
  have hholds : (run (start db) moves).locks.Holds
      fun l => l.id = id → ∃ left : Int, l.portionsLeft = some left ∧ 0 ≤ left := by
    apply holds_run (fun p => decrementRow_keeps)
    apply RowLocks.Holds.start
    intro r hr hid
    have hrl : r = l := Table.eq_of_key_eq hr (Table.mem_of_find? hl) (hid.trans hlid.symm)
    exact ⟨n, hrl ▸ hn, by omega⟩
  have hcommitted : (run (start db) moves).locks.rows.find? id =
      some (l.take (sumAt id (placed.flatMap orderLines))) := by
    rw [hrows, find?_takeStock, hl]
    rfl
  refine ⟨?_, fun i => ?_, placed, horders, ?_⟩
  · obtain ⟨left, hleft, hpos⟩ := hholds.rows _ (Table.mem_of_find? hcommitted) hlid
    refine ⟨left, ?_, hpos⟩
    show ((run (start db) moves).locks.rows.find? id).bind Listing.portionsLeft = _
    rw [hcommitted]
    exact hleft
  · -- a transaction sees the row, in the committed version or its own
    have hseen : ∃ r, ((run (start db) moves).locks.view i).find? id = some r := by
      rw [RowLocks.view, Table.find?_overlay, hcommitted]
      exact ⟨_, rfl⟩
    obtain ⟨r, hr⟩ := hseen
    obtain ⟨left, hleft, hpos⟩ := hholds.view r (Table.mem_of_find? hr) (Table.key_of_find? hr)
    refine ⟨left, ?_, hpos⟩
    show (((run (start db) moves).locks.view i).find? id).bind Listing.portionsLeft = _
    rw [hr]
    exact hleft
  · -- what was sold is what the committed row lacks
    obtain ⟨left, hleft, hpos⟩ := hholds.rows _ (Table.mem_of_find? hcommitted) hlid
    have hcount : (l.take (sumAt id (placed.flatMap orderLines))).portionsLeft =
        some ((n : Int) - sumAt id (placed.flatMap orderLines)) := by
      show l.portionsLeft.map _ = _
      rw [hn, Option.map_some]
    rw [hcount, Option.some.injEq] at hleft
    omega

/-- An order of three portions of the small marketplace's five, by number. -/
def threePortions (me : Nat) (orderNumber : String) : InsertOrderArgs where
  orderId := ⟨me, 0⟩
  orderNumber := orderNumber
  buyerId := ⟨0, 100⟩
  dropoffAddressId := some ⟨0, 120⟩
  dto := ⟨[⟨⟨0, 110⟩, 1, none, none, one_portion⟩, ⟨⟨0, 110⟩, 2, none, none, two_portions⟩], .delivery,
    some ⟨0, 120⟩, none, none, none, none, none, some true⟩
  totals := ⟨30000, 300, 3000, 9000, 21000, 1515, 31815⟩
  cart := ⟨smallTown.listings.rows, [], ⟨0, 101⟩, false⟩

/-- Two such orders at once: the second waits for the row and then finds two portions. -/
def twoBuyers : List Move :=
  [.begin 0 (threePortions 0 "A"), .begin 1 (threePortions 1 "B"), .decrement 0, .decrement 1,
    .insert 0, .commit 0, .decrement 1, .insert 1, .commit 1]

theorem twoBuyers_not_oversold : NotOversold smallTown ⟨0, 110⟩ 5 (run (start smallTown) twoBuyers) ∧
    (run (start smallTown) twoBuyers).committed.orders.rows.map Order.orderNumber = ["A"] :=
  ⟨no_overselling rfl rfl twoBuyers, by decide⟩

end OrderTransactions

end IncaCook
