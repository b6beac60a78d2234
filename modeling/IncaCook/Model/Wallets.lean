import IncaCook.Model.Strikes

/-!
# The wallet ledger

`WalletService`: crediting a completed order, the compensations, the release
sweep, the summary and the withdrawal. Entries are never deleted; their status only moves as
the statements below say.
-/

namespace IncaCook

open Prog

namespace Wallets

/-- Minimum available balance for a withdrawal, 50 €. -/
def withdrawalMinCents : Cents := 5000

def hourMs : Nat := 60 * 60 * 1000

/-- The unique constraint `(orderId, userId, type)`; entries without an order
never clash. -/
def clashes (e e' : WalletEntry) : Bool :=
  e.orderId.isSome && e.orderId = e'.orderId && e.userId = e'.userId && e.type = e'.type

/-- One row of `createMany` with `skipDuplicates`. -/
def insertSkippingDuplicate (t : Table WalletEntry) (e : WalletEntry) : Table WalletEntry :=
  if t.rows.any (clashes e) then t else (t.insert? e).getD t

/-- `createMany` with `skipDuplicates`. -/
def createEntries (rows : List WalletEntry) : Tx Unit :=
  modify fun db => { db with walletEntries := rows.foldl insertSkippingDuplicate db.walletEntries }

/-- An entry as the services create it: nothing paid out or released yet. -/
def newEntry (id : WalletEntryId) (userId : Beneficiary) (orderId : OrderId)
    (type : WalletEntryType) (amountCents : Cents) (status : WalletEntryStatus)
    (availableAt : Option Time) (metadata : Option EntryMetadata) : WalletEntry where
  id
  userId
  orderId := some orderId
  type
  amountCents
  status
  withdrawalId := none
  availableAt
  releasedAt := none
  metadata

/-! ## Crediting -/

/-- The delivery whose driver is paid: delivered, the latest one first. -/
def deliveredDelivery (db : Db) (orderId : OrderId) : Option Delivery :=
  (db.deliveries.rows.filter fun d => d.orderId = orderId && d.status = .delivered).foldl
    (fun best d => match best with
      | none => some d
      -- `deliveredAt desc` puts nulls first, and keeps the first of equal rows
      | some b => match b.deliveredAt, d.deliveredAt with
        | none, _ => some b
        | some _, none => some d
        | some tb, some td => if tb < td then some d else some b) none

/-- The rows that a completed or disputed order is credited with. -/
def creditRows (cfg : Config) (me : Nat) (order : Order) (delivery : Option Delivery) (now : Time) :
    List WalletEntry :=
  let disputed := order.status = .disputed
  let deliveredAt := (delivery.bind Delivery.deliveredAt).getD now
  let earningStatus := if disputed then WalletEntryStatus.held else .pending
  let availableAt := if disputed then none else some (deliveredAt + cfg.walletReleaseHours * hourMs)
  -- of a disputed order the earnings are held until an admin decides
  let seller :=
    if order.sellerEarningsCents > 0 then
      [newEntry (generateUlid me 5) (.user order.sellerId) order.id .orderEarning
        order.sellerEarningsCents earningStatus availableAt none]
    else []
  let platform :=
    if order.commissionCents > 0 then
      [newEntry (generateUlid me 6) .platform order.id .commission order.commissionCents .available
        (some now) none]
    else []
  let driver :=
    match delivery.bind Delivery.driverId with
    | some driverId =>
      if order.fulfillmentChoice = .delivery ∧ order.fulfillmentFeeCents > 0 then
        [newEntry (generateUlid me 7) (.user driverId) order.id .deliveryEarning
          order.fulfillmentFeeCents earningStatus availableAt none]
      else []
    | none => []
  seller ++ platform ++ driver

/-- Credits the ledger for a completed order; other orders are skipped. -/
def creditForCompletedOrder (cfg : Config) (me : Nat) (orderId : OrderId) : Handler Unit := do
  let (order, delivery, now) ← read .query fun db =>
    (db.orders.find? orderId, deliveredDelivery db orderId, db.now)
  match order with
  | none => return ()
  | some order =>
    if order.status = .delivered ∨ order.status = .completed ∨ order.status = .disputed then
      let rows := creditRows cfg me order delivery now
      if rows.isEmpty then
        return ()
      else
        await (.creditCompleted orderId) fun _ => createEntries rows
    else
      return ()

/-- Pays a driver for a wasted trip. -/
def compensateDriver (me : Nat) (orderId : OrderId) (driverId : UserId) (amountCents : Cents) :
    Handler Unit :=
  if amountCents ≤ 0 then
    return ()
  else
    await (.compensateDriver orderId) fun _ => do
      let db ← get
      createEntries [newEntry (generateUlid me 8) (.user driverId) orderId .deliveryEarning
        amountCents .available (some db.now) (some .compensationSellerUnavailable)]

/-- Pays a seller outside the delivered path. -/
def creditSellerEarning (me : Nat) (orderId : OrderId) (sellerId : UserId) (amountCents : Cents) :
    Handler Unit :=
  if amountCents ≤ 0 then
    return ()
  else
    await (.creditSeller orderId) fun _ => do
      let db ← get
      createEntries [newEntry (generateUlid me 9) (.user sellerId) orderId .orderEarning
        amountCents .available (some db.now) (some .driverDisappearedSellerPaid)]

/-- Books a driver's debt, a negative available entry. -/
def recordDriverDebt (me : Nat) (orderId : OrderId) (driverId : UserId) (amountCents : Cents) :
    Handler Unit :=
  if amountCents ≤ 0 then
    return ()
  else
    await (.driverDebt orderId) fun _ => do
      let db ← get
      createEntries [newEntry (generateUlid me 10) (.user driverId) orderId .driverDebt
        (-amountCents) .available (some db.now) (some .driverDisappearedRefundDeduction)]

/-! ## The release sweep -/

/-- A pending earning whose window has elapsed. -/
def due (now : Time) (e : WalletEntry) : Bool :=
  e.status = .pending && e.availableAt.any (· ≤ now) &&
    (e.type = .orderEarning || e.type = .deliveryEarning)

/-- The due entries of `db` whose order, if it has one, is in one of the statuses. -/
def dueIds (dueEntries : List WalletEntry) (orders : List Order) (statuses : List OrderStatus) :
    List WalletEntryId :=
  (dueEntries.filter fun e => (e.orderId.bind fun id => orders.find? fun o => o.id = id).any
    fun o => o.status ∈ statuses).map WalletEntry.id

def releaseEntries (ids : List WalletEntryId) (now : Time) : Tx Unit :=
  updateWalletEntries (fun e => e.id ∈ ids && e.status = .pending) fun e =>
    { e with status := .available, releasedAt := some now }

theorem cancelled_id (e : WalletEntry) :
    ({ e with status := .cancelled } : WalletEntry).id = e.id := rfl

def reverseEntries (ids : List WalletEntryId) : Tx Unit :=
  updateWalletEntries (fun e => e.id ∈ ids && e.status = .pending)
    (fun e => { e with status := .cancelled }) cancelled_id

/-- Releases the due earnings of delivered orders and reverses those of dead
ones; the number released. -/
def releaseDuePendingEntries : Handler Nat := do
  let (now, dueEntries) ← read .query fun db =>
    (db.now, db.walletEntries.rows.filter (due db.now))
  if dueEntries.isEmpty then
    return 0
  else
    let orderIds := dueEntries.filterMap WalletEntry.orderId
    let orders ← read .query fun db => db.orders.rows.filter fun o => o.id ∈ orderIds
    let releasable := dueIds dueEntries orders [.delivered, .completed]
    let reversible := dueIds dueEntries orders [.cancelled, .refunded]
    runIf (¬releasable.isEmpty) (await .releaseDue fun _ => releaseEntries releasable now)
    runIf (¬reversible.isEmpty) (await .reverseDue fun _ => reverseEntries reversible)
    return releasable.length

/-! ## Balances -/

/-- The available entries of a user, negative ones included. -/
def availableEntries (db : Db) (userId : UserId) : List WalletEntry :=
  db.walletEntries.rows.filter fun e => e.userId = .user userId && e.status = .available

def total (entries : List WalletEntry) : Cents := (entries.map WalletEntry.amountCents).sum

/-- `sumByStatus`: the sum of a user's entries in one status. -/
def sumByStatus (userId : UserId) (status : WalletEntryStatus) : Handler Cents :=
  read .query fun db =>
    total (db.walletEntries.rows.filter fun e => e.userId = .user userId && e.status = status)

/-- An entry as the summary lists it. -/
structure WalletEntryView where
  id : WalletEntryId
  orderId : Option OrderId
  type : WalletEntryType
  amountCents : Cents
  status : WalletEntryStatus
  deriving DecidableEq, Repr

structure WalletSummary where
  availableCents : Cents
  pendingCents : Cents
  heldCents : Cents
  paidOutCents : Cents
  debtCents : Cents
  totalBalanceCents : Cents
  minWithdrawalCents : Cents
  canWithdraw : Bool
  entries : List WalletEntryView
  deriving DecidableEq, Repr

/-- The balances of a user and the 50 newest entries. -/
def summary (supabaseId : String) : Handler WalletSummary := do
  let user ← read .query fun db => db.userBySupabaseId supabaseId
  let user ← orThrow user (.notFound "User profile not found")
  let availableRaw ← sumByStatus user.id .available
  let pendingCents ← sumByStatus user.id .pending
  let heldCents ← sumByStatus user.id .held
  let paidOutCents ← sumByStatus user.id .paidOut
  let entries ← read .query fun db =>
    (db.walletEntries.rows.filter fun e => e.userId = .user user.id).take 50
  let availableCents := max 0 availableRaw
  let debtCents := if availableRaw < 0 then -availableRaw else 0
  return {
    availableCents
    pendingCents
    heldCents
    paidOutCents
    debtCents
    totalBalanceCents := availableRaw + pendingCents + heldCents
    minWithdrawalCents := withdrawalMinCents
    canWithdraw := debtCents = 0 && availableCents ≥ withdrawalMinCents
    entries := entries.map fun e => ⟨e.id, e.orderId, e.type, e.amountCents, e.status⟩ }

/-! ## Withdrawals -/

/-- `(cents / 100).toFixed(2)` of a non-negative amount. -/
def toFixed (cents : Cents) : String :=
  let rest := toString (cents % 100)
  toString (cents / 100) ++ "." ++ (if rest.length < 2 then "0" ++ rest else rest)

structure PayoutTarget where
  accountId : Option String
  onboardingCompleted : Bool

/-- The user's Connect account and whether its onboarding is complete. -/
def resolvePayoutTarget (userId : UserId) (role : UserRole) : Handler PayoutTarget :=
  if role = .driver then
    read .query fun db =>
      let d := db.driverProfiles.find? userId
      ⟨d.bind DriverProfile.stripeConnectAccountId,
        (d.map DriverProfile.stripeOnboardingCompleted).getD false⟩
  else
    read .query fun db =>
      let s := db.sellerProfiles.find? userId
      ⟨s.bind SellerProfile.stripeConnectAccountId,
        (s.map SellerProfile.stripeOnboardingCompleted).getD false⟩

/-- Stripe's `transfers.create`: a second call with the same idempotency key
executes nothing. -/
def createTransfer (transfer : StripeTransfer) (answer : Answer) : Tx Unit := do
  Tx.throwIf (¬answer.ok) (.badRequest ("Le virement a échoué : " ++ answer.message))
  -- the withdrawal's id is the idempotency key
  modify fun db => { db with transfers := (db.transfers.insert? transfer).getD db.transfers }

/-- The settling transaction: the paid entries and the debit row. -/
def settle (me : Nat) (userId : UserId) (withdrawalId : WithdrawalId) (entries : List WalletEntry)
    (destination : String) (answer : Answer) : Tx Unit := do
  Tx.throwIf (¬answer.ok) .database
  updateWalletEntries (fun e => e.id ∈ entries.map WalletEntry.id) fun e =>
    { e with status := .paidOut, withdrawalId := some withdrawalId }
  -- the debit is paid out from the start
  let db ← get
  let walletEntries ← Tx.orThrow (db.walletEntries.insert?
    { id := generateUlid me 12
      userId := .user userId
      orderId := none
      type := .withdrawal
      amountCents := -total entries
      status := .paidOut
      withdrawalId := some withdrawalId
      availableAt := none
      releasedAt := none
      metadata := some (.payout withdrawalId destination) }) .uniqueViolation
  set { db with walletEntries }

structure WithdrawalResult where
  withdrawalId : WithdrawalId
  amountCents : Cents
  deriving DecidableEq, Repr

/-- Withdraws the whole available balance to the user's Connect account. -/
def requestWithdrawal (me : Nat) (supabaseId : String) : Handler WithdrawalResult := do
  let user ← read .query fun db => db.userBySupabaseId supabaseId
  let user ← orThrow user (.notFound "User profile not found")
  let available ← read (.readAvailable user.id) fun db => availableEntries db user.id
  let amount := total available
  throwIf (amount < 0) (.badRequest "Retrait impossible : votre solde présente une dette.")
  throwIf (amount < withdrawalMinCents) (.badRequest
    ("Solde insuffisant pour un retrait (minimum " ++ toFixed withdrawalMinCents ++
      " €, disponible " ++ toFixed amount ++ " €)."))
  let payout ← resolvePayoutTarget user.id user.role
  throwIf (payout.onboardingCompleted = false)
    (.payoutSetupRequired "Configurez vos paiements pour retirer vos gains.")
  let connectAccountId ← orThrow (truthy payout.accountId)
    (.payoutSetupRequired "Configurez vos paiements pour retirer vos gains.")
  let withdrawalId := generateUlid me 11
  let ids := available.map WalletEntry.id
  -- Stripe first: when the settlement fails, the money is out and the entries are not
  await (.createTransfer user.id withdrawalId ids) fun answer =>
    createTransfer ⟨withdrawalId, amount, connectAccountId, user.id⟩ answer
  await (.settle user.id withdrawalId ids) fun answer =>
    settle me user.id withdrawalId available connectAccountId answer
  return { withdrawalId, amountCents := amount }

end Wallets

end IncaCook
