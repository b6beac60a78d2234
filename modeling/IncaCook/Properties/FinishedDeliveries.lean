import IncaCook.Properties.DriverDisappeared

/-!
# Finishing a delivery

A driver finishes a delivery with the buyer's QR, at an absent client's door, or
by reporting that the seller was not there. Each of these first writes the
delivery, and then the order, the ledger and the refund in separate statements.
The delivery is what their own guards and the delivery timeout look at, so once it
is written neither a retry nor the timeout does anything.

Main results:

* `finished_delivery_resumed_iff`: after a crash and a retry the books are those of
  the uninterrupted run exactly when the crash left them complete;
* `finished_delivery_not_resumed`: a delivery that is DELIVERED while its order is
  not, for ever.
-/

namespace IncaCook

open Prog Orders Deliveries Wallets

/-- What the books say about an order: its status, its refunds, its entries. -/
structure OrderBooks where
  status : Option OrderStatus
  refunds : Nat
  entries : List (Beneficiary × WalletEntryType × Cents × WalletEntryStatus)
  deriving DecidableEq

def Db.booksOf (s : Db) (o : OrderId) : OrderBooks where
  status := s.orderStatus o
  refunds := s.refundsOf o
  entries := (s.walletEntries.rows.filter fun e => e.orderId = some o).map fun e =>
    (e.userId, e.type, e.amountCents, e.status)

/-- The operations that finish a delivery. -/
def Call.finishes : Call → Option DeliveryId
  | .confirmDelivery _ d _ => some d
  | .confirmAbsentDropoff _ d _ => some d
  | .reportSellerUnavailable _ d _ => some d
  | _ => none

/-- The status in which a finished delivery ends. -/
def Call.finishedStatus : Call → DeliveryStatus
  | .reportSellerUnavailable .. => .cancelled
  | _ => .delivered

/-- The statement that writes the delivery. -/
def Site.finishes : Site → Option DeliveryId
  | .confirmDelivery d _ => some d
  | .confirmAbsentDropoff d _ => some d
  | .reportSellerUnavailable d _ => some d
  | _ => none

theorem query_not_finishes {d : DeliveryId} : Site.query.finishes ≠ some d := nofun

def Db.nothingPending (s : Db) (o : OrderId) : Bool :=
  s.walletEntries.rows.all fun e => !(e.orderId = some o && e.status = .pending)

/-- Whether the order of a finished delivery is DELIVERED and its earnings are booked.
An order without delivery cannot be. -/
def Db.deliveryComplete (cfg : Config) (me : Nat) (s : Db) (o : OrderId) : Bool :=
  (s.orders.find? o).all fun row => row.fulfillmentChoice ≠ .delivery ||
    (row.status = .delivered &&
      (creditRows cfg me row (deliveredDelivery s o) s.now).all (booked s.walletEntries))

/-- Whether an order whose seller was not there is CANCELLED, its pending entries are
reversed if it was refunded, and its driver is compensated. -/
def Db.cancellationComplete (me : Nat) (s : Db) (row : Order) (driver : UserId) (before : Nat) :
    Bool :=
  s.orderStatus row.id = some .cancelled &&
    (s.refundsOf row.id ≤ before || s.nothingPending row.id) &&
    (row.fulfillmentFeeCents ≤ 0 ||
      !s.creditable (generateUlid me 8) row.id driver .deliveryEarning)

/-- Whether a crash of the operation that was called in `s` left the books of the
delivery's order complete, given Stripe's answer to the refund. -/
def Db.complete (cfg : Config) (me : Nat) (s : Db) (r : Delivery) (stripe : Answer) (call : Call)
    (crashed : Db) : Bool :=
  match call with
  | .reportSellerUnavailable .. => (s.orders.find? r.orderId).any fun row => r.driverId.any fun driver =>
    crashed.cancellationComplete me row driver (s.refundsOf row.id) &&
      crashed.refundsOf row.id = s.refundsOf row.id + (s.refundable row stripe).toNat
  | _ => crashed.deliveryComplete cfg me r.orderId

/-- How far the books of an order are. -/
def OrderBooks.progress (b : OrderBooks) : Nat :=
  (match b.status with
    | some .delivered => 2
    | some .cancelled => 1
    | _ => 0) + b.refunds + b.entries.length + b.entries.countP fun e => e.2.2.2 ≠ .pending

/-- A step of a run that is to end `settled`: the books stay or move on, and the
deliveries stay. -/
structure Finishing (o : OrderId) (settled : Db → Prop) (a b : Db) : Prop where
  books : Advances (M := machine) (fun s : Db => s.booksOf o) OrderBooks.progress settled a b
  deliveries : b.deliveries = a.deliveries

/-- The same, with refunds, which are settled by Stripe. -/
structure Cancelling (o : OrderId) (settled : Db → Prop) (a b : Db) : Prop where
  books : Advances (M := machine) (fun s : Db => s.booksOf o) OrderBooks.progress settled a b ∨
    (a.booksOf o).progress < (b.booksOf o).progress ∧ b.refundsOf o = a.refundsOf o + 1
  refunds : a.refundsOf o ≤ b.refundsOf o
  deliveries : b.deliveries = a.deliveries

section

variable {cfg : Config} {me : Nat} {h : List (StepRecord machine)} {s s' : Db} {o : OrderId}
  {r : Delivery} {row : Order} {driver : UserId} {before : Nat} {settled : Db → Prop}

theorem booksOf_of_eq (hstatus : s'.orderStatus o = s.orderStatus o)
    (hrefunds : s'.refunds = s.refunds) (hentries : s'.walletEntries = s.walletEntries) :
    s'.booksOf o = s.booksOf o := by
  unfold Db.booksOf Db.refundsOf
  rw [hstatus, hrefunds, hentries]

theorem Finishing.refl (s : Db) : Finishing o settled s s := ⟨.inl ⟨rfl, Iff.rfl⟩, rfl⟩

theorem Cancelling.refl (s : Db) : Cancelling o settled s s :=
  ⟨.inl (.inl ⟨rfl, Iff.rfl⟩), Nat.le_refl _, rfl⟩

/-! ## The ledger -/

/-- Credits are added in front, and none is when all are booked. -/
theorem foldl_insert_rows (rows : List WalletEntry) (t : Table WalletEntry) :
    ∃ added, (rows.foldl insertSkippingDuplicate t).rows = added ++ t.rows ∧
      (∀ e ∈ added, e ∈ rows) ∧ (rows.all (booked t) = true ↔ added = []) := by
  induction rows generalizing t with
  | nil => exact ⟨[], by rw [List.foldl_nil, List.nil_append], by simp, by simp⟩
  | cons e rest ih =>
    rw [List.foldl_cons, List.all_cons]
    rcases insertSkippingDuplicate_cases t e with ⟨hdup, hsame⟩ | ⟨hdup, hrows⟩
    · obtain ⟨added, hfold, hfrom, hnone⟩ := ih t
      rw [hsame, hdup, Bool.true_and]
      exact ⟨added, hfold, fun e' he' => List.mem_cons_of_mem _ (hfrom e' he'), hnone⟩
    · obtain ⟨added, hfold, hfrom, -⟩ := ih (insertSkippingDuplicate t e)
      rw [hdup, Bool.false_and]
      refine ⟨added ++ [e], by rw [hfold, hrows, List.append_assoc]; rfl, fun e' he' => ?_, ?_⟩
      · rcases List.mem_append.mp he' with he' | he'
        · exact List.mem_cons_of_mem _ (hfrom e' he')
        · exact List.mem_singleton.mp he' ▸ List.mem_cons_self ..
      · exact iff_of_false Bool.false_ne_true (by simp)

/-- A credit that was to be booked is booked. -/
theorem booked_insert (t : Table WalletEntry) (e : WalletEntry) :
    booked (insertSkippingDuplicate t e) e = true ∧
      ∀ e', booked t e' = true → booked (insertSkippingDuplicate t e) e' = true := by
  rcases insertSkippingDuplicate_cases t e with ⟨hdup, hsame⟩ | ⟨-, hrows⟩
  · rw [hsame]
    exact ⟨hdup, fun _ h => h⟩
  · unfold booked
    rw [hrows]
    exact ⟨by simp, fun e' he' => by simpa using .inr (by simpa [booked] using he')⟩

theorem booked_foldl (rows : List WalletEntry) (t : Table WalletEntry) :
    (rows.all (booked (rows.foldl insertSkippingDuplicate t)) = true) ∧
      ∀ e, booked t e = true → booked (rows.foldl insertSkippingDuplicate t) e = true := by
  induction rows generalizing t with
  | nil => exact ⟨rfl, fun _ h => h⟩
  | cons e rest ih =>
    obtain ⟨hself, hkeep⟩ := booked_insert t e
    obtain ⟨hrest, hmono⟩ := ih (insertSkippingDuplicate t e)
    rw [List.foldl_cons, List.all_cons, hmono e hself, hrest]
    exact ⟨rfl, fun e' he' => hmono e' (hkeep e' he')⟩

/-- Booking credits of the order. -/
theorem books_credited {rows : List WalletEntry} (hof : ∀ e ∈ rows, e.orderId = some o) :
    let s' : Db := { s with walletEntries := rows.foldl insertSkippingDuplicate s.walletEntries }
    (rows.all (booked s.walletEntries) = true → s'.booksOf o = s.booksOf o) ∧
      (rows.all (booked s.walletEntries) = false →
        (s.booksOf o).progress < (s'.booksOf o).progress) := by
  intro s'
  obtain ⟨added, hrows, hfrom, hnone⟩ := foldl_insert_rows rows s.walletEntries
  have hentries : (s'.booksOf o).entries =
      added.map (fun e => (e.userId, e.type, e.amountCents, e.status)) ++ (s.booksOf o).entries := by
    have hall : added.filter (fun e => e.orderId = some o) = added :=
      List.filter_eq_self.mpr fun e he => decide_eq_true (hof e (hfrom e he))
    simp only [Db.booksOf, s', hrows, List.filter_append, hall, List.map_append]
  constructor
  · intro hall
    rw [hnone.mp hall, List.map_nil, List.nil_append] at hentries
    unfold Db.booksOf at hentries ⊢
    rw [OrderBooks.mk.injEq]
    exact ⟨rfl, rfl, hentries⟩
  · intro hsome
    have hne : added ≠ [] := fun hnil => by
      rw [hnone.mpr hnil] at hsome
      cases hsome
    have hlen : 0 < added.length := List.length_pos_iff.mpr hne
    have hstatus : (s'.booksOf o).status = (s.booksOf o).status := rfl
    have hrefunds : (s'.booksOf o).refunds = (s.booksOf o).refunds := rfl
    unfold OrderBooks.progress
    rw [hentries, hstatus, hrefunds, List.length_append, List.countP_append, List.length_map]
    omega

/-- Reversing the pending entries of the order. -/
theorem books_reversed (hrun : reversePending o s = .ok ((), s')) :
    let pending := fun e : WalletEntry => e.orderId = some o && e.status = .pending
    ((s.walletEntries.rows.all fun e => !pending e) = true → s'.booksOf o = s.booksOf o) ∧
      ((s.walletEntries.rows.all fun e => !pending e) = false →
        (s.booksOf o).progress < (s'.booksOf o).progress) := by
  intro pending
  have hs' : s' = { s with walletEntries := s.walletEntries.updateMany pending fun e =>
      { e with status := .cancelled } } := updateWalletEntries_ok.mp hrun
  constructor
  · intro hnone
    have hsame : s'.walletEntries = s.walletEntries := by
      rw [hs']
      refine Table.ext_rows (Table.rewritten_of_none fun e he => ?_)
      have hno := List.all_eq_true.mp hnone e he
      rwa [Bool.not_eq_true'] at hno
    exact booksOf_of_eq (by rw [hs']; rfl) (by rw [hs']) hsame
  · intro hsome
    -- the entries of the order stay the same list but for the status: after the
    -- update none is pending, before it one was
    let own := s.walletEntries.rows.filter fun e => e.orderId = some o
    have hbefore : (s.booksOf o).entries =
        own.map fun e => (e.userId, e.type, e.amountCents, e.status) := rfl
    have hafter : (s'.booksOf o).entries = own.map fun e => (e.userId, e.type, e.amountCents,
        if e.status = .pending then WalletEntryStatus.cancelled else e.status) := by
      rw [hs']
      have hkeep : ((fun e : WalletEntry => decide (e.orderId = some o)) ∘ fun e =>
          if pending e then { e with status := .cancelled } else e) =
            fun e => decide (e.orderId = some o) := by
        funext e
        simp only [Function.comp_apply]
        split
        · rfl
        · rfl
      simp only [Db.booksOf, Table.updateMany, List.filter_map, List.map_map, hkeep]
      refine List.map_congr_left fun e he => ?_
      have hof : e.orderId = some o := of_decide_eq_true (List.mem_filter.mp he).2
      simp only [Function.comp_apply, pending, hof, decide_true, Bool.true_and, decide_eq_true_eq]
      split
      · rfl
      · rfl
    have hstatus : (s'.booksOf o).status = (s.booksOf o).status := by rw [hs']; rfl
    have hrefunds : (s'.booksOf o).refunds = (s.booksOf o).refunds := by rw [hs']; rfl
    have hall : (s'.booksOf o).entries.countP (fun e => e.2.2.2 ≠ .pending) = own.length := by
      rw [hafter, List.countP_map, List.countP_eq_length]
      intro e _
      simp only [Function.comp_apply]
      split
      · rfl
      · rename_i hno
        exact decide_eq_true hno
    have hnot : (s.booksOf o).entries.countP (fun e => e.2.2.2 ≠ .pending) < own.length := by
      rw [hbefore, List.countP_map]
      refine Nat.lt_of_le_of_ne List.countP_le_length fun heq => ?_
      obtain ⟨e, he, hpending⟩ := List.all_eq_false.mp hsome
      rw [Bool.not_eq_true, Bool.not_eq_false', Bool.and_eq_true, decide_eq_true_eq,
        decide_eq_true_eq] at hpending
      have hmem : e ∈ own := List.mem_filter.mpr ⟨he, decide_eq_true hpending.1⟩
      have hsettled := List.countP_eq_length.mp heq e hmem
      exact of_decide_eq_true hsettled hpending.2
    have hlength : (s'.booksOf o).entries.length = (s.booksOf o).entries.length := by
      rw [hafter, hbefore, List.length_map, List.length_map]
    unfold OrderBooks.progress
    rw [hstatus, hrefunds]
    omega

/-! ## Statements -/

/-- Moving the order to a later status. -/
theorem books_moved {target : OrderStatus}
    (hrow : s.orders.find? o = some row) (htarget : s'.orderStatus o = some target)
    (hlater : target = .delivered ∧ row.status ≠ .delivered ∨
      target = .cancelled ∧ row.status ≠ .delivered ∧ row.status ≠ .cancelled)
    (hrefunds : s'.refunds = s.refunds) (hentries : s'.walletEntries = s.walletEntries) :
    (s.booksOf o).progress < (s'.booksOf o).progress := by
  have hbefore : (s.booksOf o).status = some row.status := by
    rw [Db.booksOf, Db.orderStatus, hrow]
    rfl
  have hafter : (s'.booksOf o).status = some target := htarget
  have hsame : (s'.booksOf o).refunds = (s.booksOf o).refunds ∧
      (s'.booksOf o).entries = (s.booksOf o).entries := by
    unfold Db.booksOf Db.refundsOf
    rw [hrefunds, hentries]
    exact ⟨rfl, rfl⟩
  unfold OrderBooks.progress
  rw [hbefore, hafter, hsame.1, hsame.2]
  -- an order only moves up here: open, cancelled, delivered
  have hstatus : (match some row.status with
      | some .delivered => 2
      | some .cancelled => 1
      | _ => 0) < (match some target with
      | some .delivered => 2
      | some .cancelled => 1
      | _ => 0) := by
    rcases hlater with ⟨rfl, hopen⟩ | ⟨rfl, hopen, hlive⟩
    · cases hstatus : row.status with
      | delivered => exact absurd hstatus hopen
      | _ => simp
    · cases hstatus : row.status with
      | delivered => exact absurd hstatus hopen
      | cancelled => exact absurd hstatus hlive
      | _ => simp
  omega

/-! ## The earnings of a delivered order -/

/-- Every credit of an order is about the order. -/
theorem creditRows_orderId {delivery : Option Delivery} {now : Time} :
    ∀ e ∈ creditRows cfg me row delivery now, e.orderId = some row.id :=
  forall_creditRows (fun _ => rfl) rfl fun _ _ => rfl

theorem deliveryComplete_eq (hrow : s.orders.find? o = some row) (hchoice : row.fulfillmentChoice = .delivery)
    (hstatus : row.status = .delivered) : s.deliveryComplete cfg me o =
      (creditRows cfg me row (deliveredDelivery s o) s.now).all (booked s.walletEntries) := by
  simp [Db.deliveryComplete, hrow, hchoice, hstatus]

/-- The contract of a confirmation once the delivery is written. -/
def confirmContract (cfg : Config) (me : Nat) (o : OrderId) : Contract machine :=
  movesContract (Finishing o fun s => s.deliveryComplete cfg me o = true)

/-- A delivered order is credited. -/
theorem creditForCompletedOrder_complete (hrow : s.orders.find? o = some row)
    (hchoice : row.fulfillmentChoice = .delivery) (hstatus : row.status = .delivered) :
    Sat (confirmContract cfg me o) (fun _ _ s' => s'.deliveryComplete cfg me o = true)
      (creditForCompletedOrder cfg me o) h s := by
  have hcomplete : s.deliveryComplete cfg me o =
      (creditRows cfg me row (deliveredDelivery s o) s.now).all (booked s.walletEntries) :=
    deliveryComplete_eq hrow hchoice hstatus
  refine sat_read_bind fun s' hs => ⟨.refl _, ?_⟩
  obtain rfl : s = s' := hs
  rw [hrow]
  refine sat_ite (fun _ => sat_ite (fun hnone => ?_) fun _ => ?_) fun hnot => ?_
  · refine sat_pure ?_
    rw [hcomplete, List.isEmpty_iff.mp hnone, List.all_nil]
  · refine sat_await_ok fun s₁ hs₁ i => ⟨⟨_, rfl⟩, fun u s₂ hrun => ?_⟩
    obtain rfl : s = s₁ := hs₁
    obtain rfl := createEntries_ok.mp hrun
    have hid : row.id = o := Table.key_of_find? hrow
    have hof : ∀ e ∈ creditRows cfg me row (deliveredDelivery s o) s.now, e.orderId = some o :=
      hid ▸ creditRows_orderId
    obtain ⟨hkeep, hmove⟩ := books_credited (s := s) hof
    have hafter : Db.deliveryComplete cfg me { s with
        walletEntries := (creditRows cfg me row (deliveredDelivery s o) s.now).foldl
          insertSkippingDuplicate s.walletEntries } o = true := by
      simp only [Db.deliveryComplete, hrow, hchoice, hstatus, Option.all_some]
      exact (booked_foldl _ _).1
    refine ⟨⟨?_, rfl⟩, hafter⟩
    cases hall : (creditRows cfg me row (deliveredDelivery s o) s.now).all (booked s.walletEntries) with
    | true => exact .inl ⟨hkeep hall, iff_of_true (hcomplete.trans hall) hafter⟩
    | false => exact .inr ⟨hmove hall, fun h => by simp [hcomplete, hall] at h⟩
  · exact absurd (.inl hstatus) hnot

/-- What follows the update of a confirmed delivery ends with complete books. -/
theorem confirmDeliveredByDriver_complete {d : DeliveryId} :
    Sat (confirmContract cfg me o) (fun _ _ s' => s'.deliveryComplete cfg me o = true) (do
      let _ ← confirmDeliveredByDriver cfg me o
      loadDelivery d) h s := by
  -- reads keep the books complete
  have hread : ∀ {h s} {α : Type} {f : Db → Option α} {e : Err}, s.deliveryComplete cfg me o = true →
      Sat (confirmContract cfg me o) (fun _ _ s' => s'.deliveryComplete cfg me o = true) (do
        let found ← read (M := machine) .query f
        orThrow found e) h s := by
    intro h s α f e hdone
    refine sat_read_bind fun s' hs => ⟨.refl _, ?_⟩
    obtain rfl : s = s' := hs
    cases f s with
    | none => exact hdone
    | some a => exact hdone
  have hrest : ∀ h s row, s.orders.find? o = some row → row.fulfillmentChoice = .delivery →
      row.status = .delivered → Sat (confirmContract cfg me o)
        (fun _ _ s' => s'.deliveryComplete cfg me o = true) (do
          releaseFundsForCompletedOrder cfg me o
          findOrderWithRelations o) h s := by
    intro h s row hrow hchoice hstatus
    exact sat_bind_keep (creditForCompletedOrder_complete hrow hchoice hstatus)
      fun _ _ _ hdone => hread hdone
  refine sat_bind_keep ?_ fun _ _ _ hdone => hread hdone
  refine sat_read_bind fun s' hs => ⟨.refl _, ?_⟩
  obtain rfl : s = s' := hs
  refine sat_orThrow_bind (fun hnone => ?_) fun row hrow => ?_
  · rw [Db.deliveryComplete, hnone, Option.all_none]
  refine sat_throwIf_bind (fun hpickup => ?_) fun hchoice => ?_
  · simp [Db.deliveryComplete, hrow, hpickup]
  rw [not_not] at hchoice
  refine sat_runIf_bind (fun hopen => ?_) fun hdelivered => ?_
  · refine sat_bind (sat_await_ok fun s₁ hs₁ i => ?_)
    obtain rfl : s = s₁ := hs₁
    refine ⟨⟨((), _), updateOrder_ok.mpr ⟨⟨row, hrow⟩, rfl⟩⟩, fun u s₂ hrun => ?_⟩
    have hafter : Db.orderStatus s₂ o = some .delivered := orderStatus_of_update hrun fun _ => rfl
    obtain ⟨-, rfl⟩ := updateOrder_ok.mp hrun
    refine ⟨⟨.inr ⟨books_moved hrow hafter (.inl ⟨rfl, hopen⟩) rfl rfl, fun h => ?_⟩, rfl⟩, ?_⟩
    · simp [Db.deliveryComplete, hrow, hchoice, hopen] at h
    · exact hrest _ _ _ (Table.find?_update_of_eq hrow) hchoice rfl
  · rw [not_not] at hdelivered
    exact hrest _ _ row hrow hchoice hdelivered

/-! ## The cancellation after a report -/

/-- The contract of a report once the delivery is written. -/
def reportContract (me : Nat) (row : Order) (driver : UserId) (before : Nat) : Contract machine :=
  movesContract (Cancelling row.id fun s => s.cancellationComplete me row driver before = true)

/-- The part of a complete cancellation that precedes the compensation. -/
def Db.refundComplete (s : Db) (o : OrderId) (before : Nat) : Prop :=
  s.orderStatus o = some .cancelled ∧ (s.refundsOf o ≤ before ∨ s.nothingPending o = true)

theorem cancellationComplete_iff : s.cancellationComplete me row driver before = true ↔
    s.refundComplete row.id before ∧ (row.fulfillmentFeeCents ≤ 0 ∨
      s.creditable (generateUlid me 8) row.id driver .deliveryEarning = false) := by
  simp [Db.cancellationComplete, Db.refundComplete, and_assoc]

/-- A statement that leaves the books alone. -/
theorem cancelling_aside (hstatus : s'.orderStatus row.id = s.orderStatus row.id)
    (hrefunds : s'.refunds = s.refunds) (hentries : s'.walletEntries = s.walletEntries)
    (hdeliveries : s'.deliveries = s.deliveries) :
    Cancelling row.id (fun s => s.cancellationComplete me row driver before = true) s s' ∧
      (s.cancellationComplete me row driver before = true ↔
        s'.cancellationComplete me row driver before = true) := by
  have hsame : s'.cancellationComplete me row driver before =
      s.cancellationComplete me row driver before := by
    unfold Db.cancellationComplete Db.refundsOf Db.nothingPending Db.creditable
    rw [hstatus, hrefunds, hentries]
  have hcount : s'.refundsOf row.id = s.refundsOf row.id := by
    rw [Db.refundsOf, hrefunds, ← Db.refundsOf]
  have hiff : s.cancellationComplete me row driver before = true ↔
      s'.cancellationComplete me row driver before = true := by
    rw [hsame]
  exact ⟨⟨.inl (.inl ⟨booksOf_of_eq hstatus hrefunds hentries, hiff⟩), Nat.le_of_eq hcount.symm,
    hdeliveries⟩, hiff⟩

theorem createRefund_moves {pi : PaymentIntentId} {stripe : Answer} {refund : RefundId}
    (hrun : createRefund o pi stripe s = .ok (refund, s')) :
    (s.booksOf o).progress < (s'.booksOf o).progress ∧ s'.refundsOf o = s.refundsOf o + 1 ∧
      s'.orderStatus o = s.orderStatus o ∧ s'.deliveries = s.deliveries := by
  obtain ⟨refunds, -, -, hnew, rfl⟩ := createRefund_ok hrun
  have hone : Db.refundsOf { s with refunds, stripeNext := s.stripeNext + 1 } o = s.refundsOf o + 1 := by
    unfold Db.refundsOf
    rw [(Table.insert?_eq_some.mp hnew).2, List.countP_cons_of_pos (by simp)]
  refine ⟨?_, hone, rfl, rfl⟩
  have hbooks : Db.booksOf { s with refunds, stripeNext := s.stripeNext + 1 } o =
      { s.booksOf o with refunds := s.refundsOf o + 1 } := by
    rw [← hone]
    rfl
  have hbefore : (s.booksOf o).refunds = s.refundsOf o := rfl
  rw [hbooks]
  unfold OrderBooks.progress
  dsimp only
  omega

/-- The pending entries of an order that was refunded are reversed. -/
theorem reversePending_complete (hstatus : s.orderStatus row.id = some .cancelled)
    (hrefunded : before < s.refundsOf row.id) :
    Sat (reportContract me row driver before)
      (fun _ x s' => x = .ok () ∧ s'.refundComplete row.id before)
      (await (.reversePending row.id) fun _ => reversePending row.id) h s := by
  refine sat_await_ok fun s₁ hs₁ i => ⟨⟨_, rfl⟩, fun u s₂ hrun => ?_⟩
  obtain rfl : s = s₁ := hs₁
  obtain ⟨hkeep, hmove⟩ := books_reversed hrun
  have hs₂ := updateWalletEntries_ok.mp hrun
  have hnone : s₂.nothingPending row.id = true := by
    rw [hs₂]
    simp only [Db.nothingPending, Table.updateMany, List.all_map, List.all_eq_true]
    intro e _
    simp only [Function.comp_apply]
    split
    · simp
    · rename_i hno
      rw [Bool.not_eq_true] at hno
      rw [hno]
      rfl
  have hdone : s₂.refundComplete row.id before := ⟨by rw [hs₂]; exact hstatus, .inr hnone⟩
  refine ⟨?_, rfl, hdone⟩
  -- a second reversal finds nothing pending and changes nothing
  cases hpending : s.nothingPending row.id with
  | true =>
    have hsame : s₂.walletEntries = s.walletEntries := by
      rw [hs₂]
      refine Table.ext_rows (Table.rewritten_of_none fun e he => ?_)
      have hno := List.all_eq_true.mp hpending e he
      rwa [Bool.not_eq_true'] at hno
    exact (cancelling_aside (by rw [hs₂]; rfl) (by rw [hs₂]) hsame (by rw [hs₂])).1
  | false =>
    refine ⟨.inl (.inr ⟨hmove hpending, fun h => ?_⟩), by rw [hs₂]; exact Nat.le_refl _, by rw [hs₂]⟩
    rcases (cancellationComplete_iff.mp h).1.2 with hfew | hnothing
    · omega
    · rw [hpending] at hnothing
      cases hnothing

/-- The refund of a cancelled order. -/
theorem refundOrderIfNeeded_complete (hstatus : s.orderStatus row.id = some .cancelled)
    (hrefunds : s.refundsOf row.id = before) :
    Sat (reportContract me row driver before)
      (fun _ x s' => x = .ok () ∧ s'.refundComplete row.id before)
      (refundOrderIfNeeded row.id) h s := by
  have hdone : Except.ok () = (.ok () : Except Err Unit) ∧ s.refundComplete row.id before :=
    ⟨rfl, hstatus, .inl (Nat.le_of_eq hrefunds)⟩
  refine sat_read_bind fun s' hs => ⟨.refl _, ?_⟩
  obtain rfl : s = s' := hs
  cases s.orders.find? row.id with
  | none => exact sat_pure hdone
  | some found =>
    dsimp only
    split
    · exact sat_pure hdone
    · exact sat_pure hdone
    · refine sat_bind (sat_tryCatch (sat_await_bind fun s₁ hs₁ i => ?_))
      obtain rfl : s = s₁ := hs₁
      refine ⟨fun _ _ => ⟨.refl _, hdone⟩, fun refund s₂ hrun => ?_⟩
      obtain ⟨hmove, hone, hsame, hdeliveries⟩ := createRefund_moves hrun
      refine ⟨⟨.inr ⟨hmove, hone⟩, by omega, hdeliveries⟩, ?_⟩
      refine sat_bind (sat_tryCatch (sat_await fun s₃ hs₃ i => ?_))
      obtain rfl : s₂ = s₃ := hs₃
      have hstatus₂ : s₂.orderStatus row.id = some .cancelled := hsame.trans hstatus
      refine ⟨fun _ _ => ⟨.refl _, reversePending_complete hstatus₂ (by omega)⟩, fun u s₄ hsave => ?_⟩
      have hquiet := saveRefund_quiet hsave
      have hsaved : s₄.refunds = s₂.refunds ∧ s₄.walletEntries = s₂.walletEntries := by
        obtain rfl := saveRefund_ok hsave
        exact ⟨rfl, rfl⟩
      have hcount : s₄.refundsOf row.id = s₂.refundsOf row.id := by
        rw [Db.refundsOf, hsaved.1, ← Db.refundsOf]
      refine ⟨(cancelling_aside (hquiet.status _) hsaved.1 hsaved.2 hquiet.deliveries).1, ?_⟩
      refine reversePending_complete ((hquiet.status _).trans hstatus₂) ?_
      omega

/-- The compensation of a driver whose trip was wasted. -/
theorem compensateDriver_complete (hdone : s.refundComplete row.id before) :
    Sat (reportContract me row driver before)
      (fun _ _ s' => s'.cancellationComplete me row driver before = true)
      (compensateDriver me row.id driver row.fulfillmentFeeCents) h s := by
  refine sat_ite (fun hfree => ?_) fun hpaid => ?_
  · exact sat_pure (cancellationComplete_iff.mpr ⟨hdone, .inl hfree⟩)
  refine sat_await_ok fun s₁ hs₁ i => ⟨⟨_, rfl⟩, fun u s₂ hrun => ?_⟩
  obtain rfl : s = s₁ := hs₁
  let entry := newEntry (generateUlid me 8) (.user driver) row.id .deliveryEarning
    row.fulfillmentFeeCents .available (some s.now) (some .compensationSellerUnavailable)
  have hs₂ : s₂ = { s with walletEntries := insertSkippingDuplicate s.walletEntries entry } :=
    createEntries_ok.mp hrun
  have hof : ∀ e ∈ [entry], e.orderId = some row.id := by simp [entry, newEntry]
  obtain ⟨hkeep, hmove⟩ := books_credited (s := s) hof
  have hwhen : ∀ t : Db, booked t.walletEntries entry =
      !t.creditable (generateUlid me 8) row.id driver .deliveryEarning :=
    fun t => booked_eq (s := t) rfl rfl rfl
  have hbooked : s₂.creditable (generateUlid me 8) row.id driver .deliveryEarning = false := by
    have hself : booked s₂.walletEntries entry = true := by
      rw [hs₂]
      exact (booked_insert _ _).1
    rw [hwhen] at hself
    simpa using hself
  rcases insertSkippingDuplicate_cases s.walletEntries entry with ⟨hdup, hsame⟩ | ⟨hdup, hrows⟩
  · -- booked already
    have hentries : s₂.walletEntries = s.walletEntries := by rw [hs₂, hsame]
    obtain ⟨hmoves, hiff⟩ :
        Cancelling row.id (fun s => s.cancellationComplete me row driver before = true) s s₂ ∧
          (s.cancellationComplete me row driver before = true ↔
            s₂.cancellationComplete me row driver before = true) :=
      cancelling_aside (by rw [hs₂]; rfl) (by rw [hs₂]) hentries (by rw [hs₂])
    refine ⟨hmoves, hiff.mp (cancellationComplete_iff.mpr ⟨hdone, .inr ?_⟩)⟩
    simpa [hwhen] using hdup
  · have hopen : s.creditable (generateUlid me 8) row.id driver .deliveryEarning = true := by
      simpa [hwhen] using hdup
    refine ⟨⟨.inl (.inr ⟨?_, fun h => ?_⟩), by rw [hs₂]; exact Nat.le_refl _, by rw [hs₂]⟩, ?_⟩
    · rw [hs₂]
      exact hmove (by simpa using hdup)
    · rcases (cancellationComplete_iff.mp h).2 with hfree | htaken
      · exact hpaid hfree
      · rw [hopen] at htaken
        cases htaken
    · -- the new entry is available, so nothing is pending that was not
      refine cancellationComplete_iff.mpr ⟨⟨by rw [hs₂]; exact hdone.1, ?_⟩, .inr hbooked⟩
      rw [hs₂]
      refine hdone.2.imp id fun hnone => ?_
      rw [Db.nothingPending, hrows, List.all_cons, ← Db.nothingPending, hnone]
      simp [entry, newEntry]

/-- A strike changes nothing that a complete cancellation is about. -/
theorem paperwork_complete {α : Type} {p : Handler α} (hp : Free (paperworkContract Eq) p)
    (hdone : s.cancellationComplete me row driver before = true) :
    Sat (reportContract me row driver before)
      (fun _ _ s' => s'.cancellationComplete me row driver before = true) p h s := by
  have haside : ∀ a b : Db, Aside a b →
      Cancelling row.id (fun s => s.cancellationComplete me row driver before = true) a b ∧
        (a.cancellationComplete me row driver before = true ↔
          b.cancellationComplete me row driver before = true) := fun a b hab =>
    cancelling_aside (hab.quiet.status _) hab.refunds hab.walletEntries hab.deliveries
  have hkeep := (hp h s).keep
    (I := fun _ (s' : Db) => s'.cancellationComplete me row driver before = true)
    (fun _ a b hab hI => hab ▸ hI) (fun _ _ a b hI hg => (haside a b hg.2).2.mp hI) hdone
  exact hkeep.mono (fun _ _ hR => hR) (fun _ _ a b hg => (haside a b hg.2).1) fun _ _ _ hQ => hQ.2

/-- The transaction on the row just read goes through. -/
theorem cancelSellerUnavailableTx_total (hrow : s.orders.find? row.id = some row) :
    ∃ x, cancelSellerUnavailableTx row s = .ok x := by
  refine Stmt.bind_total s (Stmt.get_ok.mpr ⟨rfl, rfl⟩) ?_
  refine Stmt.bind_total () (restoreInventory_ok.mpr rfl) ?_
  exact ⟨((), _), updateOrder_ok.mpr ⟨⟨row, hrow⟩, rfl⟩⟩

/-- The transaction cancels the order. -/
theorem cancelSellerUnavailableTx_cancels {u : Unit}
    (hrun : cancelSellerUnavailableTx row s = .ok (u, s')) :
    s'.orderStatus row.id = some .cancelled ∧ ∃ listings, s' = { s with
      listings, orders := s.orders.update row.id (Orders.Order.cancelRestored s.now .sellerUnavailable)
        fun _ => rfl } := by
  simp only [cancelSellerUnavailableTx, Stmt.bind_ok, Stmt.get_ok, restoreInventory_ok] at hrun
  obtain ⟨_, _, ⟨rfl, rfl⟩, _, _, rfl, hupdate⟩ := hrun
  refine ⟨orderStatus_of_update hupdate fun _ => rfl, ?_⟩
  obtain ⟨-, rfl⟩ := updateOrder_ok.mp hupdate
  exact ⟨_, rfl⟩

/-- What follows the update of a delivery whose seller was not there ends with
complete books. -/
theorem cancelForSellerUnavailable_complete {d : DeliveryId} (hrow : s.orders.find? row.id = some row)
    (hopen : row.status ∉ resolved) :
    Sat (reportContract me row driver (s.refundsOf row.id))
      (fun _ _ s' => s'.cancellationComplete me row driver (s.refundsOf row.id) = true) (do
        cancelForSellerUnavailable me row.id driver
        loadDelivery d) h s := by
  have hlive : row.status ≠ .delivered ∧ row.status ≠ .cancelled :=
    ⟨fun heq => hopen (by simp [heq, resolved]), fun heq => hopen (by simp [heq, resolved])⟩
  have hload : ∀ {h : List (StepRecord machine)} {s' : Db} {before : Nat},
      s'.cancellationComplete me row driver before = true →
      Sat (reportContract me row driver before)
        (fun _ _ s'' => s''.cancellationComplete me row driver before = true) (loadDelivery d) h s' := by
    intro h s' before hdone
    refine sat_read_bind fun s₁ hs₁ => ⟨.refl _, ?_⟩
    obtain rfl : s' = s₁ := hs₁
    cases s'.deliveries.find? d with
    | none => exact hdone
    | some r => exact hdone
  refine sat_bind_keep ?_ fun _ _ _ hdone => hload hdone
  refine sat_read_bind fun s' hs => ⟨.refl _, ?_⟩
  obtain rfl : s = s' := hs
  rw [hrow]
  refine sat_throwIf_bind (fun hresolved => absurd hresolved hopen) fun _ => ?_
  -- the first write: it cancels the order, so the books are not complete before it
  refine sat_bind (sat_await_ok fun s₁ hs₁ i => ?_)
  obtain rfl : s = s₁ := hs₁
  refine ⟨cancelSellerUnavailableTx_total hrow, fun u s₂ hrun => ?_⟩
  obtain ⟨hafter, listings, hs₂⟩ := cancelSellerUnavailableTx_cancels hrun
  have hcount : s₂.refundsOf row.id = s.refundsOf row.id := by rw [hs₂]; rfl
  refine ⟨⟨.inl (.inr ⟨?_, fun h => ?_⟩), Nat.le_of_eq hcount.symm, by rw [hs₂]⟩, ?_⟩
  · exact books_moved hrow hafter (.inr ⟨rfl, hlive⟩) (by rw [hs₂]) (by rw [hs₂])
  · have hstatus := (cancellationComplete_iff.mp h).1.1
    rw [Db.orderStatus, hrow] at hstatus
    exact hlive.2 (Option.some.inj hstatus)
  · rw [← hcount]
    refine sat_bind ((refundOrderIfNeeded_complete hafter rfl).post fun h x s₃ hdone => ?_)
    obtain ⟨rfl, hdone⟩ := hdone
    refine sat_bind_keep (compensateDriver_complete hdone) fun _ _ _ hdone => ?_
    exact paperwork_complete strike_paperwork hdone

/-- **How often a cancellation refunds the buyer**: once if Stripe agrees. -/
theorem cancelForSellerUnavailable_refunds {d : DeliveryId} {w : Nat → Answer}
    (hrow : s.orders.find? row.id = some row) (hopen : row.status ∉ resolved) :
    (((do
      cancelForSellerUnavailable me row.id driver
      loadDelivery d : Handler Delivery).exec w s).state).refundsOf row.id =
        s.refundsOf row.id + (s.refundable row (w 3)).toNat := by
  let K : Db → Db → Prop := fun a b => b.refundsOf row.id = a.refundsOf row.id
  -- compensating the driver, striking the seller and loading the delivery
  -- leave the refunds alone: only the step between them can count
  have hmoves : ∀ {α : Type} {p : Handler α} (w s), Free (movesContract K) p →
      (p.exec w s).state.refundsOf row.id = s.refundsOf row.id := by
    intro α p w s hp
    have hkept : K s (p.exec w s).state := hp.moves (fun _ => rfl) fun _ _ _ hab hbc => hbc.trans hab
    exact hkept
  have hload : Free (movesContract K) (loadDelivery d) := loadDelivery_of fun _ _ => rfl
  have hafter : Free (movesContract K) (do
      compensateDriver me row.id driver row.fulfillmentFeeCents
      try
        let _ ← Strikes.addStrike me
          { userId := row.sellerId, role := .seller, points := 1, reason := .sellerUnavailable
            severity := .light, sourceType := .delivery, orderId := some row.id }
      catch _ =>
        pure ()) := by
    refine free_bind (free_ite free_pure ?_) fun _ => ?_
    · exact free_await_total fun _ _ s => ⟨(), _, rfl, rfl⟩
    · refine fun h s => (strike_paperwork h s).mono (fun _ _ hR => hR) (fun _ _ a b hg => ?_)
        fun _ _ _ hQ => hQ
      show b.refundsOf row.id = a.refundsOf row.id
      rw [Db.refundsOf, hg.2.refunds, ← Db.refundsOf]
  have hcancel : ((cancelForSellerUnavailable me row.id driver).exec w s).state.refundsOf row.id =
      s.refundsOf row.id + (s.refundable row (w 3)).toNat := by
    obtain ⟨⟨u, s₁⟩, htx⟩ := cancelSellerUnavailableTx_total hrow
    obtain ⟨-, listings, hs₁⟩ := cancelSellerUnavailableTx_cancels htx
    have hrow₁ : s₁.orders.find? row.id =
        some (Orders.Order.cancelRestored s.now .sellerUnavailable row) := by
      rw [hs₁]
      exact Table.find?_update_of_eq hrow
    have hsame : s₁.refundable (Orders.Order.cancelRestored s.now .sellerUnavailable row) (w 3) =
        s.refundable row (w 3) := by
      rw [hs₁]
      rfl
    have hrefunded := refundOrderIfNeeded_books (w := fun m => w (m + 2)) hrow₁
    obtain ⟨x, s₂, steps, hout⟩ : ∃ x s₂ steps,
        (refundOrderIfNeeded row.id).exec (fun m => w (m + 2)) s₁ = ⟨x, s₂, steps⟩ := ⟨_, _, _, rfl⟩
    rw [hout] at hrefunded
    obtain rfl : x = .ok () := hrefunded.result
    unfold cancelForSellerUnavailable
    rw [exec_read_bind, hrow, exec_orThrow_bind, exec_throwIf_bind hopen,
      exec_bind_of_ok (exec_await_ok htx)]
    simp only [List.length_singleton]
    rw [exec_bind_of_ok hout, hmoves _ _ hafter, hrefunded.refunds, ← hsame, hs₁]
    rfl
  obtain ⟨x, s₂, steps, hout⟩ : ∃ x s₂ steps,
      (cancelForSellerUnavailable me row.id driver).exec w s = ⟨x, s₂, steps⟩ := ⟨_, _, _, rfl⟩
  rw [hout] at hcancel
  cases x with
  | error e => rw [exec_bind_of_error hout, hcancel]
  | ok u => rw [exec_bind_of_ok hout, hmoves _ _ hload, hcancel]

/-! ## Up to the update of the delivery -/

section

variable {γ : Type} {p : Handler γ} {w₀ w : Nat → Answer} {n₀ n : Nat} {s₀ : Db} {d : DeliveryId}
  {sub : String} {position : Option JsNumber × Option JsNumber}

/-- A run of `p` comes to the update of the delivery in `q`. -/
abbrev Finishes {α : Type} (d : DeliveryId) (p : Handler γ) (w₀ : Nat → Answer) (n₀ : Nat) (s₀ : Db)
    (q : Handler α) (w : Nat → Answer) (n : Nat) (s : Db) : Prop :=
  Reaches (M := machine) (fun site => site.finishes = some d) p w₀ n₀ s₀ q w n s

theorem Finishes.assertDriver_bind {α : Type} {k : Driver → Handler α}
    (hreach : Finishes d p w₀ n₀ s₀ (assertDriver sub >>= k) w n s) :
    ∃ driver, Finishes d p w₀ n₀ s₀ (k driver) (fun m => w (m + 1)) (n - 1) s := by
  simp only [assertDriver, bind_assoc, pure_bind] at hreach
  obtain ⟨user, -, hreach⟩ := (hreach.read_bind query_not_finishes).orThrow_bind
  obtain ⟨-, hreach⟩ := hreach.throwIf_bind
  obtain ⟨profile, -, hreach⟩ := hreach.orThrow_bind
  exact ⟨_, hreach⟩

theorem Finishes.loadDeliveryForDriver_bind {α : Type} {k : Delivery → Handler α}
    (hreach : Finishes d p w₀ n₀ s₀ (loadDeliveryForDriver r.id driver >>= k) w n s)
    (hr : s.deliveries.find? r.id = some r) :
    r.driverId = some driver ∧ Finishes d p w₀ n₀ s₀ (k r) (fun m => w (m + 1)) (n - 1) s := by
  simp only [loadDeliveryForDriver, loadDelivery, bind_assoc, pure_bind] at hreach
  obtain ⟨r', hr', hreach⟩ := (hreach.read_bind query_not_finishes).orThrow_bind
  obtain rfl : r = r' := Option.some.inj (hr.symm.trans hr')
  obtain ⟨howner, hreach⟩ := hreach.throwIf_bind
  exact ⟨not_not.mp howner, hreach⟩

/-- The update of the delivery. -/
theorem Finishes.update_bind {α : Type} {site : Site} {k : Unit → Handler α}
    {f : Time → Delivery → Delivery} (hf : ∀ now (r : Delivery), (f now r).id = r.id)
    (hreach : Finishes d p w₀ n₀ s₀ (await site (fun _ => do
        let db ← get
        updateDelivery r.id (f db.now) (hf db.now)) >>= k) w n s)
    (hr : s.deliveries.find? r.id = some r) :
    let s₁ : Db := { s with deliveries := s.deliveries.update r.id (f s.now) (hf s.now) }
    p.crash w₀ n₀ s₀ = (k ()).crash (fun m => w (m + 1)) (n - 1) s₁ ∧
      (p.exec w₀ s₀).state = ((k ()).exec (fun m => w (m + 1)) s₁).state ∧
      s₁.deliveries.find? r.id = some (f s.now r) := by
  intro s₁
  obtain ⟨hcrash, hstate⟩ := hreach.await_bind (a := ()) (Stmt.bind_ok.mpr ⟨s, s,
    Stmt.get_ok.mpr ⟨rfl, rfl⟩, updateDelivery_ok.mpr ⟨⟨r, hr⟩, rfl⟩⟩)
  exact ⟨hcrash, hstate, Table.find?_update_of_eq hr (hf s.now)⟩

end

/-- From the update of the delivery on, the run of `p` is one of `q`, in a state that
differs from `s` in the deliveries only. -/
def ContinuesAs (r : Delivery) (status : DeliveryStatus) (p : Handler Delivery) (w : Nat → Answer)
    (n : Nat) (s : Db) (q : Handler Delivery) (w' : Nat → Answer) : Prop :=
  ∃ deliveries n', let s₁ : Db := { s with deliveries }
    (∃ r', s₁.deliveries.find? r.id = some r' ∧ r'.status = status) ∧
      p.crash w n s = q.crash w' n' s₁ ∧ (p.exec w s).state = (q.exec w' s₁).state

section

variable {w : Nat → Answer} {n : Nat} {sub : String}

theorem confirmDelivery_continues {dto : ConfirmDeliveryDto} (hr : s.deliveries.find? r.id = some r)
    (hahead : ∃ t ∈ ((confirmDelivery cfg me sub r.id dto).exec w s).steps.take n,
      t.site.finishes = some r.id) :
    ContinuesAs r .delivered (confirmDelivery cfg me sub r.id dto) w n s (do
      let _ ← confirmDeliveredByDriver cfg me r.orderId
      loadDelivery r.id) (fun m => w (m + 3)) := by
  have hreach : Finishes r.id (confirmDelivery cfg me sub r.id dto) w n s
      (confirmDelivery cfg me sub r.id dto) w n s := .refl hahead
  obtain ⟨driver, hreach⟩ := hreach.assertDriver_bind
  obtain ⟨-, hreach⟩ := Finishes.loadDeliveryForDriver_bind hreach hr
  simp only [checkOutForDelivery, bind_assoc] at hreach
  obtain ⟨-, hreach⟩ := hreach.throwIf_bind
  obtain ⟨-, hreach⟩ := hreach.throwIf_bind
  obtain ⟨-, hreach⟩ := hreach.throwIf_bind
  obtain ⟨hcrash, hstate, hr'⟩ := Finishes.update_bind
    (f := Delivery.deliver driver.userId dto.lat dto.lng) (fun _ _ => rfl) hreach hr
  exact ⟨_, _, ⟨_, hr', rfl⟩, hcrash, hstate⟩

theorem confirmAbsentDropoff_continues {dto : ConfirmAbsentDropoffDto}
    (hr : s.deliveries.find? r.id = some r)
    (hahead : ∃ t ∈ ((confirmAbsentDropoff cfg me sub r.id dto).exec w s).steps.take n,
      t.site.finishes = some r.id) :
    ContinuesAs r .delivered (confirmAbsentDropoff cfg me sub r.id dto) w n s (do
      let _ ← confirmDeliveredByDriver cfg me r.orderId
      loadDelivery r.id) (fun m => w (m + 3)) := by
  have hreach : Finishes r.id (confirmAbsentDropoff cfg me sub r.id dto) w n s
      (confirmAbsentDropoff cfg me sub r.id dto) w n s := .refl hahead
  obtain ⟨driver, hreach⟩ := hreach.assertDriver_bind
  obtain ⟨-, hreach⟩ := Finishes.loadDeliveryForDriver_bind hreach hr
  simp only [checkOutForDelivery, bind_assoc] at hreach
  obtain ⟨-, hreach⟩ := hreach.throwIf_bind
  obtain ⟨-, hreach⟩ := hreach.throwIf_bind
  obtain ⟨photo, -, hreach⟩ := hreach.orThrow_bind
  obtain ⟨⟨lat, lng⟩, -, hreach⟩ := hreach.orThrow_bind
  obtain ⟨hcrash, hstate, hr'⟩ := Finishes.update_bind
    (f := Delivery.dropOff driver.userId photo lat lng dto.note) (fun _ _ => rfl) hreach hr
  exact ⟨_, _, ⟨_, hr', rfl⟩, hcrash, hstate⟩

theorem reportSellerUnavailable_continues {dto : ReportSellerUnavailableDto}
    (hr : s.deliveries.find? r.id = some r)
    (hahead : ∃ t ∈ ((reportSellerUnavailable me sub r.id dto).exec w s).steps.take n,
      t.site.finishes = some r.id) :
    ∃ driver row, r.driverId = some driver ∧ s.orders.find? r.orderId = some row ∧
      row.status ∉ resolved ∧
      ContinuesAs r .cancelled (reportSellerUnavailable me sub r.id dto) w n s (do
        cancelForSellerUnavailable me r.orderId driver
        loadDelivery r.id) (fun m => w (m + 4)) := by
  have hreach : Finishes r.id (reportSellerUnavailable me sub r.id dto) w n s
      (reportSellerUnavailable me sub r.id dto) w n s := .refl hahead
  obtain ⟨driver, hreach⟩ := hreach.assertDriver_bind
  obtain ⟨hdriver, hreach⟩ := Finishes.loadDeliveryForDriver_bind hreach hr
  obtain ⟨-, hreach⟩ := hreach.throwIf_bind
  obtain ⟨-, hreach⟩ := hreach.throwIf_bind
  obtain ⟨row, hrow, hreach⟩ := (hreach.read_bind query_not_finishes).orThrow_bind
  obtain ⟨hopen, hreach⟩ := hreach.throwIf_bind
  obtain ⟨⟨lat, lng⟩, -, hreach⟩ := hreach.orThrow_bind
  obtain ⟨hcrash, hstate, hr'⟩ := Finishes.update_bind
    (f := Delivery.sellerUnavailable dto lat lng) (fun _ _ => rfl) hreach hr
  exact ⟨driver.userId, row, hdriver, hrow, hopen, _, _, ⟨_, hr', rfl⟩, hcrash, hstate⟩

end

/-! ## After a crash -/

/-- After a crash of a confirmation. -/
theorem confirmation_crash {p : Handler Delivery} {w w' : Nat → Answer} {n : Nat}
    (hcont : ContinuesAs r .delivered p w n s (do
      let _ ← confirmDeliveredByDriver cfg me r.orderId
      loadDelivery r.id) w') :
    (∃ r', (p.crash w n s).deliveries.find? r.id = some r' ∧ r'.status = .delivered) ∧
      ((p.crash w n s).booksOf r.orderId = (p.exec w s).state.booksOf r.orderId ↔
        (p.crash w n s).deliveryComplete cfg me r.orderId = true) := by
  obtain ⟨deliveries, n', hr', hcrash, hstate⟩ := hcont
  rw [hcrash, hstate]
  have hsat : Sat (confirmContract cfg me r.orderId)
      (fun _ _ s' => s'.deliveryComplete cfg me r.orderId = true) (do
        let _ ← confirmDeliveredByDriver cfg me r.orderId
        loadDelivery r.id) [] { s with deliveries } := confirmDeliveredByDriver_complete
  obtain ⟨hsteps, hend⟩ := hsat.exec (fun _ => rfl) w'
  constructor
  · have hkept := hsat.crash (I := fun _ (a : Db) => a.deliveries = deliveries) (w := w') (n := n')
      (fun _ => rfl) (fun _ _ _ _ hI hg => hg.deliveries.trans hI) rfl
    rw [hkept]
    exact hr'
  · exact crash_value_iff (fun t ht => (hsteps.moves t ht).books) hend

/-- After a crash of a report. -/
theorem report_crash {p : Handler Delivery} {w w' : Nat → Answer} {n : Nat}
    (hrow : s.orders.find? r.orderId = some row) (hopen : row.status ∉ resolved)
    (hcont : ContinuesAs r .cancelled p w n s (do
      cancelForSellerUnavailable me r.orderId driver
      loadDelivery r.id) w') :
    (∃ r', (p.crash w n s).deliveries.find? r.id = some r' ∧ r'.status = .cancelled) ∧
      ((p.crash w n s).booksOf r.orderId = (p.exec w s).state.booksOf r.orderId ↔
        (p.crash w n s).cancellationComplete me row driver (s.refundsOf row.id) = true ∧
          (p.crash w n s).refundsOf row.id =
            s.refundsOf row.id + (s.refundable row (w' 3)).toNat) := by
  have hid : row.id = r.orderId := Table.key_of_find? hrow
  obtain ⟨deliveries, n', hr', hcrash, hstate⟩ := hcont
  rw [hcrash, hstate]
  rw [← hid] at hrow ⊢
  let afterwards : Handler Delivery := do
    cancelForSellerUnavailable me row.id driver
    loadDelivery r.id
  have hsat : Sat (reportContract me row driver (s.refundsOf row.id))
      (fun _ _ s' => s'.cancellationComplete me row driver (s.refundsOf row.id) = true) afterwards
      [] { s with deliveries } := cancelForSellerUnavailable_complete (s := { s with deliveries }) hrow hopen
  have hrefunds : (afterwards.exec w' { s with deliveries }).state.refundsOf row.id =
      s.refundsOf row.id + (s.refundable row (w' 3)).toNat :=
    cancelForSellerUnavailable_refunds (s := { s with deliveries }) hrow hopen
  obtain ⟨hsteps, hend⟩ := hsat.exec (fun _ => rfl) w'
  constructor
  · have hkept := hsat.crash (I := fun _ (a : Db) => a.deliveries = deliveries) (w := w') (n := n')
      (fun _ => rfl) (fun _ _ _ _ hI hg => hg.deliveries.trans hI) rfl
    rw [hkept]
    exact hr'
  · suffices hadvances : ∀ t ∈ (afterwards.exec w' { s with deliveries }).steps,
        Advances (M := machine) (fun a : Db => a.booksOf row.id) OrderBooks.progress
          (fun a : Db => a.cancellationComplete me row driver (s.refundsOf row.id) = true ∧
            a.refundsOf row.id = s.refundsOf row.id + (s.refundable row (w' 3)).toNat)
          t.pre t.post from crash_value_iff hadvances ⟨hend, hrefunds⟩
    -- no step refunds more than the whole run does
    obtain ⟨-, hatmost⟩ := (exec_leads afterwards w' { s with deliveries }).le_end
      (f := fun a : Db => a.refundsOf row.id) fun t ht => (hsteps.moves t ht).refunds
    intro t ht
    have hless : t.post.refundsOf row.id ≤ s.refundsOf row.id + (s.refundable row (w' 3)).toNat :=
      hrefunds ▸ hatmost t ht
    rcases (hsteps.moves t ht).books with (⟨hsame, hiff⟩ | ⟨hmove, hopen⟩) | ⟨hmove, hone⟩
    · have hcount : t.post.refundsOf row.id = t.pre.refundsOf row.id := congrArg OrderBooks.refunds hsame
      refine .inl ⟨hsame, and_congr hiff ?_⟩
      rw [hcount]
    · exact .inr ⟨hmove, fun h => hopen h.1⟩
    · refine .inr ⟨hmove, fun h => ?_⟩
      have hbefore := h.2
      omega

/-- A finished delivery is not finished again. -/
theorem finished_refused {call : Call} (hcall : call.finishes = some r.id)
    {r' : Delivery} (hr' : s.deliveries.find? r.id = some r') (hdone : r'.status = call.finishedStatus)
    (w : Nat → Answer) : ((handle cfg me call).exec w s).state = s := by
  -- the guards that a confirmation runs into
  have hguard : ∀ {sub : String} {k : Driver → Delivery → Handler Delivery}, r'.status = .delivered →
      Sat aloneContract (fun _ _ s' => s' = s) (do
        let driver ← assertDriver sub
        let delivery ← loadDeliveryForDriver r.id driver.userId
        checkOutForDelivery delivery
        k driver delivery) [] s := by
    intro sub k hdelivered
    refine assertDriver_bind (fun _ _ => trivial) (fun _ _ hs => hs.symm) fun s₁ driver _ hs₁ _ _ => ?_
    obtain rfl : s = s₁ := hs₁
    refine loadDeliveryForDriver_bind (fun _ _ => trivial) (fun _ _ hs => hs.symm)
      fun s₂ row hs₂ hrow _ => ?_
    obtain rfl : s = s₂ := hs₂
    obtain rfl : r' = row := Option.some.inj (hr'.symm.trans hrow)
    refine checkOutForDelivery_bind (fun _ => rfl) fun _ hout => ?_
    rw [hdelivered] at hout
    exact absurd hout (by decide)
  have hsame : Sat aloneContract (fun _ _ s' => s' = s) (handle cfg me call) [] s := by
    cases call with
    | confirmDelivery sub d dto =>
      obtain rfl : d = r.id := Option.some.inj hcall
      exact sat_bind_keep (hguard hdone) fun _ _ _ hs => hs
    | confirmAbsentDropoff sub d dto =>
      obtain rfl : d = r.id := Option.some.inj hcall
      exact sat_bind_keep (hguard hdone) fun _ _ _ hs => hs
    | reportSellerUnavailable sub d dto =>
      obtain rfl : d = r.id := Option.some.inj hcall
      refine sat_bind_keep ?_ fun _ _ _ hs => hs
      refine assertDriver_bind (fun _ _ => trivial) (fun _ _ hs => hs.symm) fun s₁ driver _ hs₁ _ _ => ?_
      obtain rfl : s = s₁ := hs₁
      refine loadDeliveryForDriver_bind (fun _ _ => trivial) (fun _ _ hs => hs.symm)
        fun s₂ row hs₂ hrow _ => ?_
      obtain rfl : s = s₂ := hs₂
      obtain rfl : r' = row := Option.some.inj (hr'.symm.trans hrow)
      exact sat_throwIf_bind (fun _ => rfl) fun hopen => absurd (.inr (.inl hdone)) hopen
    | _ => cases hcall
  exact (hsame.exec (fun _ => rfl) w).2

/-- The crash of an operation that finishes the delivery. -/
theorem finish_crash {call : Call} (hcall : call.finishes = some r.id)
    (hr : s.deliveries.find? r.id = some r) {w : Nat → Answer} {n : Nat}
    (hk : ∃ t ∈ ((handle cfg me call).exec w s).steps.take n, t.site.finishes = some r.id) :
    let crashed := (handle cfg me call).crash w n s
    (∃ r', crashed.deliveries.find? r.id = some r' ∧ r'.status = call.finishedStatus) ∧
      (crashed.booksOf r.orderId = ((handle cfg me call).exec w s).state.booksOf r.orderId ↔
        s.complete cfg me r (w 7) call crashed = true) := by
  cases call with
  | confirmDelivery sub d dto =>
    obtain rfl : d = r.id := Option.some.inj hcall
    simp only [handle, exec_bind_pure, crash_bind_pure] at hk ⊢
    exact confirmation_crash (confirmDelivery_continues hr hk)
  | confirmAbsentDropoff sub d dto =>
    obtain rfl : d = r.id := Option.some.inj hcall
    simp only [handle, exec_bind_pure, crash_bind_pure] at hk ⊢
    exact confirmation_crash (confirmAbsentDropoff_continues hr hk)
  | reportSellerUnavailable sub d dto =>
    obtain rfl : d = r.id := Option.some.inj hcall
    simp only [handle, exec_bind_pure, crash_bind_pure] at hk ⊢
    obtain ⟨driver, row, hdriver, hrow, hopen, hcont⟩ := reportSellerUnavailable_continues hr hk
    obtain ⟨hr', hiff⟩ := report_crash hrow hopen hcont
    refine ⟨hr', hiff.trans ?_⟩
    simp [Db.complete, hrow, hdriver]
  | _ => cases hcall

end

/-- **When a delivery can be finished after a crash.** From every state, when the process
dies at any point after the operation has written the delivery, and the operation or
the delivery timeout runs some time later, the order's status, refunds and entries are
those of the uninterrupted run exactly when the crash left them complete. -/
theorem finished_delivery_resumed_iff (cfg : Config) (s : Db) (call : Call) (r : Delivery)
    (hcall : call.finishes = some r.id) (hr : s.deliveries.find? r.id = some r) (me me' : Nat)
    (w w' : Nat → Answer) (k : Nat)
    (hk : ∃ t ∈ ((handle cfg me call).exec w s).steps.take k, t.site.finishes = some r.id)
    (events : List Event) (retry : Call)
    (hretry : retry = call ∨ retry = .handleDriverDeliveryTimeout r.id) :
    let crashed := (handle cfg me call).crash w k s
    let later := events.foldl (fun s e => applyEvent e s) crashed
    ((handle cfg me' retry).exec w' later).state.booksOf r.orderId =
        ((handle cfg me call).exec w s).state.booksOf r.orderId ↔
      s.complete cfg me r (w 7) call crashed = true := by
  intro crashed later
  obtain ⟨⟨r', hr', hdone⟩, hiff⟩ := finish_crash hcall hr hk
  obtain ⟨hbooks, -⟩ : SameBooks crashed later ∧ later.triggers retry = Db.triggers crashed retry :=
    events_between events (.refl crashed)
  have hlater : later.deliveries.find? r.id = some r' := hbooks.deliveries ▸ hr'
  -- the delivery was written, so the retry and the timeout both find it over
  have hrefused : ((handle cfg me' retry).exec w' later).state = later := by
    rcases hretry with rfl | rfl
    · exact finished_refused hcall hlater hdone w'
    · refine watchdog_idle rfl ?_ w'
      have hended : r'.status = .delivered ∨ r'.status = .cancelled := by
        rw [hdone]
        cases call with
        | reportSellerUnavailable sub d dto => exact .inr rfl
        | _ => exact .inl rfl
      rcases hended with hended | hended
      · simp [Db.triggers, hlater, hended]
      · simp [Db.triggers, hlater, hended]
  have hsame : later.booksOf r.orderId = Db.booksOf crashed r.orderId :=
    booksOf_of_eq (by rw [Db.orderStatus, hbooks.orders, ← Db.orderStatus]) hbooks.refunds
      hbooks.walletEntries
  rw [hrefused, hsame]
  exact hiff

/-- The driver scans the buyer's QR. -/
def scanDeliveryQr : Call := .confirmDelivery "driver" ⟨3, 2⟩ ⟨"token", none, none⟩

/-- The delivery of the small marketplace, on its way to the buyer. -/
def pickedUpDelivery : Delivery := (pickedUpTown.deliveries.find? ⟨3, 2⟩).get (by decide +kernel)

theorem pickedUpDelivery_id : pickedUpDelivery.id = ⟨3, 2⟩ := by decide +kernel

theorem pickedUpDelivery_find? :
    pickedUpTown.deliveries.find? pickedUpDelivery.id = some pickedUpDelivery := by
  rw [pickedUpDelivery_id, pickedUpDelivery, Option.some_get]

/-- The process dies once the earnings are credited. -/
theorem finished_delivery_resumed :
    ((handle smallTownConfig 7 scanDeliveryQr).exec allGoesWell
      ((handle smallTownConfig 6 scanDeliveryQr).crash allGoesWell 7 pickedUpTown)).state.booksOf
        pickedUpDelivery.orderId =
      ((handle smallTownConfig 6 scanDeliveryQr).exec allGoesWell pickedUpTown).state.booksOf
        pickedUpDelivery.orderId :=
  (finished_delivery_resumed_iff smallTownConfig pickedUpTown scanDeliveryQr pickedUpDelivery
    (by rw [pickedUpDelivery_id]; rfl) pickedUpDelivery_find? 6 7 allGoesWell allGoesWell 7
    (by decide +kernel) [] scanDeliveryQr (.inl rfl)).mpr (by decide +kernel)

/-- **Not resumed.** The process dies before the order is updated, and the order stays
in delivery for ever: neither the retry nor the timeout completes it. -/
theorem finished_delivery_not_resumed :
    ¬∀ (cfg : Config) (s : Db) (call : Call) (r : Delivery), call.finishes = some r.id →
      s.deliveries.find? r.id = some r → ∀ (me me' : Nat) (w w' : Nat → Answer) (k : Nat),
        (∃ t ∈ ((handle cfg me call).exec w s).steps.take k, t.site.finishes = some r.id) →
        ∃ retry, (retry = call ∨ retry = .handleDriverDeliveryTimeout r.id) ∧
          ((handle cfg me' retry).exec w' ((handle cfg me call).crash w k s)).state.booksOf r.orderId =
            ((handle cfg me call).exec w s).state.booksOf r.orderId := by
  intro hclaim
  obtain ⟨retry, hretry, hbooks⟩ := hclaim smallTownConfig pickedUpTown scanDeliveryQr pickedUpDelivery
    (by rw [pickedUpDelivery_id]; rfl) pickedUpDelivery_find? 6 7 allGoesWell allGoesWell 3
    (by decide +kernel)
  rcases hretry with rfl | rfl
  · exact absurd hbooks (by decide +kernel)
  · exact absurd hbooks (by decide +kernel)

end IncaCook
