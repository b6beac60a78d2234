import IncaCook.Library.Crash
import IncaCook.Steps.Ledger

/-!
# Withdrawals

One withdrawal, alone, on any ledger. It asks for the balance twice in two shapes:
`summary` tests the balance that it shows, `requestWithdrawal` the raw sum.

Main results:

* `summary_returns`: what the summary reports, and when it offers a withdrawal;
* `requestWithdrawal_refused`, `requestWithdrawal_pays`: the call up to its transfer;
* `withdrawal_law`: when it pays, and what it does to the ledger.
-/

namespace IncaCook

open Prog Wallets

variable {db : Db} {me : Nat} {sub account : String} {user : User} {w : Nat → Answer}

/-! ## The two balance checks -/

/-- The user's entries in one status. -/
def entriesOf (db : Db) (userId : UserId) (status : WalletEntryStatus) : List WalletEntry :=
  db.walletEntries.rows.filter fun e => e.userId = .user userId && e.status = status

/-- The summary of a user's wallet. -/
def summaryOf (db : Db) (userId : UserId) : WalletSummary :=
  let availableRaw := total (availableEntries db userId)
  let pendingCents := total (entriesOf db userId .pending)
  let heldCents := total (entriesOf db userId .held)
  { availableCents := max 0 availableRaw
    pendingCents
    heldCents
    paidOutCents := total (entriesOf db userId .paidOut)
    debtCents := if availableRaw < 0 then -availableRaw else 0
    totalBalanceCents := availableRaw + pendingCents + heldCents
    minWithdrawalCents := withdrawalMinCents
    canWithdraw := (if availableRaw < 0 then -availableRaw else 0) = 0 &&
      max 0 availableRaw ≥ withdrawalMinCents
    entries := ((db.walletEntries.rows.filter fun e => e.userId = .user userId).take 50).map
      fun e => ⟨e.id, e.orderId, e.type, e.amountCents, e.status⟩ }

/-- The summary reads five times and writes nothing. -/
theorem summary_returns (huser : db.userBySupabaseId sub = some user) :
    (summary sub).Returns w db (summaryOf db user.id) := by
  unfold summary
  rw [returns_read_bind, returns_orThrow_bind]
  exact ⟨user, huser, rfl⟩

/-- No debt and a balance of at least the minimum: the raw sum is at least the minimum. -/
theorem canWithdraw_iff (userId : UserId) : (summaryOf db userId).canWithdraw = true ↔
    withdrawalMinCents ≤ total (availableEntries db userId) := by
  have hmin : (0 : Int) < withdrawalMinCents := by
    decide
  simp only [summaryOf, Bool.and_eq_true, decide_eq_true_eq]
  generalize total (availableEntries db userId) = amount
  rcases lt_or_ge amount 0 with hdebt | hpos
  · rw [if_pos hdebt]
    refine iff_of_false (fun h => ?_) (not_le.mpr (hdebt.trans hmin))
    exact hdebt.ne (neg_eq_zero.mp h.1)
  · rw [if_neg (not_lt.mpr hpos), max_eq_right hpos]
    exact and_iff_right rfl

/-! ## Up to the transfer -/

/-- What `resolvePayoutTarget` reads. -/
def payoutOf (db : Db) (user : User) : PayoutTarget :=
  if user.role = .driver then
    ⟨(db.driverProfiles.find? user.id).bind DriverProfile.stripeConnectAccountId,
      ((db.driverProfiles.find? user.id).map DriverProfile.stripeOnboardingCompleted).getD false⟩
  else
    ⟨(db.sellerProfiles.find? user.id).bind SellerProfile.stripeConnectAccountId,
      ((db.sellerProfiles.find? user.id).map SellerProfile.stripeOnboardingCompleted).getD false⟩

/-- The user can be paid out, to this Connect account. -/
structure PayoutReady (db : Db) (user : User) (account : String) : Prop where
  completed : (payoutOf db user).onboardingCompleted = true
  account : truthy (payoutOf db user).accountId = some account

theorem resolvePayoutTarget_exec {α : Type} {k : PayoutTarget → Handler α} :
    (resolvePayoutTarget user.id user.role >>= k).exec w db =
      let rest := (k (payoutOf db user)).exec (fun n => w (n + 1)) db
      ⟨rest.result, rest.state, ⟨.query, db, db⟩ :: rest.steps⟩ := by
  unfold resolvePayoutTarget payoutOf
  split
  · rfl
  · rfl

/-- The transfer and the settling transaction. -/
def payOut (me : Nat) (userId : UserId) (available : List WalletEntry) (account : String) :
    Handler WithdrawalResult := do
  let withdrawalId := generateUlid me 11
  let ids := available.map WalletEntry.id
  await (.createTransfer userId withdrawalId ids) fun answer =>
    createTransfer ⟨withdrawalId, total available, account, userId⟩ answer
  await (.settle userId withdrawalId ids) fun answer =>
    settle me userId withdrawalId available account answer
  return { withdrawalId, amountCents := total available }

/-- The two reads before the balance checks. -/
def balanceReads (db : Db) (userId : UserId) : List (StepRecord machine) :=
  [⟨.query, db, db⟩, ⟨.readAvailable userId, db, db⟩]

/-- Below the minimum, in debt or not, the call ends after its reads. -/
theorem requestWithdrawal_refused (me : Nat) (huser : db.userBySupabaseId sub = some user)
    (hlow : ¬withdrawalMinCents ≤ total (availableEntries db user.id)) :
    ∃ e, (requestWithdrawal me sub).exec w db = ⟨.error e, db, balanceReads db user.id⟩ := by
  unfold requestWithdrawal
  rw [exec_read_bind, huser, exec_orThrow_bind, exec_read_bind]
  by_cases hdebt : total (availableEntries db user.id) < 0
  · simp only [throwIf, if_pos hdebt]
    exact ⟨_, rfl⟩
  · rw [exec_throwIf_bind hdebt]
    simp only [throwIf, if_pos (not_le.mp hlow)]
    exact ⟨_, rfl⟩

/-- From the minimum on, a user who can be paid out is paid. -/
theorem requestWithdrawal_pays (huser : db.userBySupabaseId sub = some user)
    (hpayout : PayoutReady db user account)
    (henough : withdrawalMinCents ≤ total (availableEntries db user.id)) :
    (requestWithdrawal me sub).exec w db =
      let rest := (payOut me user.id (availableEntries db user.id) account).exec
        (fun n => w (n + 3)) db
      ⟨rest.result, rest.state, balanceReads db user.id ++ ⟨.query, db, db⟩ :: rest.steps⟩ := by
  have hmin : (0 : Int) < withdrawalMinCents := by
    decide
  unfold requestWithdrawal
  rw [exec_read_bind, huser, exec_orThrow_bind, exec_read_bind,
    exec_throwIf_bind (not_lt.mpr (hmin.le.trans henough)), exec_throwIf_bind (not_lt.mpr henough),
    resolvePayoutTarget_exec, exec_throwIf_bind (by simp [hpayout.completed]), hpayout.account]
  rfl

/-! ## The transfer and the settlement -/

/-- The identifiers that call `me` draws for a withdrawal are new. -/
structure NewUlids (db : Db) (me : Nat) : Prop where
  entry : db.walletEntries.find? (generateUlid me 12) = none
  withdrawal : ∀ e ∈ db.walletEntries.rows, e.withdrawalId ≠ some (generateUlid me 11)
  transfer : db.transfers.find? (generateUlid me 11) = none

/-- An entry after the withdrawal: paid out if it was one of the available ones. -/
def settledEntry (me : Nat) (userId : UserId) (e : WalletEntry) : WalletEntry :=
  if e.userId = .user userId && e.status = .available then
    { e with status := .paidOut, withdrawalId := some (generateUlid me 11) }
  else e

/-- The debit that the withdrawal books. -/
def withdrawalDebit (me : Nat) (userId : UserId) (amount : Cents) (account : String) :
    WalletEntry where
  id := generateUlid me 12
  userId := .user userId
  orderId := none
  type := .withdrawal
  amountCents := -amount
  status := .paidOut
  withdrawalId := some (generateUlid me 11)
  availableAt := none
  releasedAt := none
  metadata := some (.payout (generateUlid me 11) account)

/-- The entries that are settled are the available ones of the user. -/
theorem mem_available_ids {userId : UserId} {e : WalletEntry} (he : e ∈ db.walletEntries.rows) :
    e.id ∈ (availableEntries db userId).map WalletEntry.id ↔
      (e.userId = .user userId && e.status = .available) = true := by
  constructor
  · intro hid
    obtain ⟨e₀, he₀, hsame⟩ := List.mem_map.mp hid
    obtain ⟨hmem, havailable⟩ := List.mem_filter.mp he₀
    obtain rfl : e₀ = e := Table.eq_of_key_eq hmem he hsame
    exact havailable
  · intro havailable
    exact List.mem_map_of_mem (List.mem_filter.mpr ⟨he, havailable⟩)

/-- The entries of the ledger once the available ones are paid out. -/
theorem paidOut_rows (db : Db) (me : Nat) (userId : UserId) :
    (db.walletEntries.updateMany
      (fun e => e.id ∈ (availableEntries db userId).map WalletEntry.id)
      fun e => { e with status := .paidOut, withdrawalId := some (generateUlid me 11) }).rows =
      db.walletEntries.rows.map (settledEntry me userId) := by
  apply List.map_congr_left
  intro e he
  simp only [settledEntry, decide_eq_true_eq]
  congr 1
  exact propext (mem_available_ids he)

/-- The settling transaction goes through when the database carries it out. -/
theorem settle_ok (db : Db) (me : Nat) (account : String) {userId : UserId} {entries : List WalletEntry}
    {answer : Answer} (hentries : entries = availableEntries db userId)
    (hnew : db.walletEntries.find? (generateUlid me 12) = none) (hok : answer.ok = true) :
    ∃ walletEntries : Table WalletEntry,
      walletEntries.rows = withdrawalDebit me userId (total entries) account ::
        db.walletEntries.rows.map (settledEntry me userId) ∧
      settle me userId (generateUlid me 11) entries account answer db =
        .ok ((), { db with walletEntries }) := by
  subst hentries
  let paid := db.walletEntries.updateMany
    (fun e => e.id ∈ (availableEntries db userId).map WalletEntry.id)
    fun e => { e with status := .paidOut, withdrawalId := some (generateUlid me 11) }
  -- the update keeps the ids, so the debit's is still free
  have hfree : paid.find? (withdrawalDebit me userId
      (total (availableEntries db userId)) account).id = none := by
    show paid.find? (generateUlid me 12) = none
    rw [Table.find?_updateMany, hnew, Option.map_none]
  obtain ⟨walletEntries, hinsert⟩ := Table.exists_insert hfree
  refine ⟨walletEntries, ?_, ?_⟩
  · rw [(Table.insert?_eq_some.mp hinsert).2, paidOut_rows]
  · simp only [settle, Stmt.bind_ok, Tx.throwIf_ok, updateWalletEntries_ok, Stmt.get_ok,
      Tx.orThrow_ok, Stmt.set_ok]
    exact ⟨(), db, ⟨by simp [hok], rfl⟩, (), _, rfl, _, _, ⟨rfl, rfl⟩, walletEntries, _,
      ⟨hinsert, rfl⟩, rfl⟩

theorem settle_refused {userId : UserId} {answer : Answer} {entries : List WalletEntry}
    {wid : WithdrawalId} (hno : answer.ok = false) :
    settle me userId wid entries account answer db = .error .database := by
  simp only [settle, Tx.throwIf, hno]
  rfl

theorem createTransfer_refused {transfer : StripeTransfer} {answer : Answer}
    (hno : answer.ok = false) :
    createTransfer transfer answer db =
      .error (.badRequest ("Le virement a échoué : " ++ answer.message)) := by
  simp only [createTransfer, Tx.throwIf, hno]
  rfl

theorem createTransfer_new (transfer : StripeTransfer) {answer : Answer} (hok : answer.ok = true)
    (hnew : db.transfers.find? transfer.withdrawalId = none) :
    ∃ transfers, db.transfers.insert? transfer = some transfers ∧
      createTransfer transfer answer db = .ok ((), { db with transfers }) := by
  obtain ⟨transfers, hinsert⟩ := Table.exists_insert hnew
  refine ⟨transfers, hinsert, ?_⟩
  simp only [createTransfer, Stmt.bind_ok, Tx.throwIf_ok, Stmt.modify_ok]
  exact ⟨(), db, ⟨by simp [hok], rfl⟩, by rw [hinsert]; rfl⟩

/-! ## The sums after a withdrawal -/

theorem settledEntry_amountCents {userId : UserId} (e : WalletEntry) :
    (settledEntry me userId e).amountCents = e.amountCents := by
  unfold settledEntry
  split
  · rfl
  · rfl

/-- The settled rows that meet a condition amount to the rows that meet it once settled. -/
theorem total_settled (me : Nat) (userId : UserId) (rows : List WalletEntry) {p q : WalletEntry → Bool}
    (hpq : ∀ e ∈ rows, p (settledEntry me userId e) = q e) :
    total ((rows.map (settledEntry me userId)).filter p) = total (rows.filter q) := by
  have hfilter : rows.filter (p ∘ settledEntry me userId) = rows.filter q := List.filter_congr hpq
  unfold total
  rw [List.filter_map, List.map_map, hfilter]
  congr 1
  apply List.map_congr_left
  intro e _
  exact settledEntry_amountCents e

/-- The withdrawal's entries: the settled ones and the debit, which make up for each other. -/
theorem total_withdrawal (userId : UserId)
    (hnew : ∀ e ∈ db.walletEntries.rows, e.withdrawalId ≠ some (generateUlid me 11)) :
    total ((withdrawalDebit me userId (total (availableEntries db userId)) account ::
      db.walletEntries.rows.map (settledEntry me userId)).filter
        fun e => e.withdrawalId = some (generateUlid me 11)) = 0 := by
  have hsettled := total_settled me userId db.walletEntries.rows
    (p := fun e => e.withdrawalId = some (generateUlid me 11))
    (q := fun e => e.userId = .user userId && e.status = .available) (fun e he => by
      unfold settledEntry
      split
      · rename_i havailable
        simpa using havailable
      · rename_i hother
        simpa [hnew e he] using hother)
  rw [List.filter_cons_of_pos (by simp [withdrawalDebit])]
  change -total (availableEntries db userId) + total _ = 0
  rw [hsettled]
  exact Int.add_left_neg _

/-- Nothing is left to withdraw. -/
theorem available_after (userId : UserId) (amount : Cents) :
    ((withdrawalDebit me userId amount account ::
      db.walletEntries.rows.map (settledEntry me userId)).filter
        fun e => e.userId = .user userId && e.status = .available) = [] := by
  rw [List.filter_eq_nil_iff, List.forall_mem_cons]
  refine ⟨by simp [withdrawalDebit], fun e' he' => ?_⟩
  obtain ⟨e, -, rfl⟩ := List.mem_map.mp he'
  unfold settledEntry
  split
  · simp
  · assumption

/-! ## The result -/

/-- The step of a withdrawal that asks Stripe for the transfer. -/
def transferStep (me : Nat) (userId : UserId) (db db' : Db) : StepRecord machine :=
  ⟨.createTransfer userId (generateUlid me 11) ((availableEntries db userId).map WalletEntry.id),
    db, db'⟩

/-- Stripe refuses the transfer: nothing has happened. -/
theorem payOut_refused (db : Db) (me : Nat) (userId : UserId) (account : String)
    (hno : (w 0).ok = false) :
    ∃ e, (payOut me userId (availableEntries db userId) account).exec w db =
      ⟨.error e, db, [transferStep me userId db db]⟩ :=
  ⟨_, exec_await_bind_error (createTransfer_refused hno)⟩

/-- The transfer is made and the database does not settle it: the ledger is as before. -/
theorem payOut_unsettled (userId : UserId) (account : String) (hnew : NewUlids db me) (hok : (w 0).ok = true)
    (hno : (w 1).ok = false) :
    ∃ e transfers steps, (payOut me userId (availableEntries db userId) account).exec w db =
      ⟨.error e, { db with transfers }, transferStep me userId db { db with transfers } :: steps⟩ := by
  obtain ⟨transfers, -, hrun⟩ := createTransfer_new
    ⟨generateUlid me 11, total (availableEntries db userId), account, userId⟩ hok hnew.transfer
  unfold payOut
  rw [exec_await_bind_ok hrun,
    exec_await_bind_error (M := machine) (w := fun n => w (n + 1)) (settle_refused hno)]
  exact ⟨_, transfers, _, rfl⟩

/-- What a withdrawal that goes through does. -/
structure Withdrawn (me : Nat) (userId : UserId) (account : String) (db db' : Db) : Prop where
  /-- one transfer, of the net sum of the available entries -/
  transferred : db.transfers.insert?
    ⟨generateUlid me 11, total (availableEntries db userId), account, userId⟩ = some db'.transfers
  /-- the available entries are paid out, and one debit is new -/
  ledger : db'.walletEntries.rows =
    withdrawalDebit me userId (total (availableEntries db userId)) account ::
      db.walletEntries.rows.map (settledEntry me userId)
  balanced : total (db'.walletEntries.rows.filter fun e =>
    e.withdrawalId = some (generateUlid me 11)) = 0
  emptied : total (availableEntries db' userId) = 0
  kept : ∀ e ∈ db.walletEntries.rows, e.userId ≠ .user userId ∨ e.status ≠ .available →
    e ∈ db'.walletEntries.rows
  frame : db' = { db with transfers := db'.transfers, walletEntries := db'.walletEntries }

theorem withdrawn_of_rows {userId : UserId} {transfers : Table StripeTransfer}
    {walletEntries : Table WalletEntry} (hnew : NewUlids db me)
    (htransfers : db.transfers.insert?
      ⟨generateUlid me 11, total (availableEntries db userId), account, userId⟩ = some transfers)
    (hrows : walletEntries.rows =
      withdrawalDebit me userId (total (availableEntries db userId)) account ::
        db.walletEntries.rows.map (settledEntry me userId)) :
    Withdrawn me userId account db { db with transfers, walletEntries } where
  transferred := htransfers
  ledger := hrows
  balanced := by
    rw [hrows]
    exact total_withdrawal userId hnew.withdrawal
  emptied := by
    show total (walletEntries.rows.filter _) = 0
    rw [hrows, available_after]
    rfl
  kept := by
    intro e he hother
    rw [hrows]
    refine List.mem_cons_of_mem _ (List.mem_map.mpr ⟨e, he, ?_⟩)
    unfold settledEntry
    rw [if_neg]
    simpa [imp_iff_not_or] using hother
  frame := rfl

theorem payOut_settled (userId : UserId) (account : String) (hnew : NewUlids db me) (hok : (w 0).ok = true)
    (hok' : (w 1).ok = true) :
    ∃ db₁ db' steps, (payOut me userId (availableEntries db userId) account).exec w db =
      ⟨.ok ⟨generateUlid me 11, total (availableEntries db userId)⟩, db',
        transferStep me userId db db₁ :: steps⟩ ∧ Withdrawn me userId account db db' := by
  obtain ⟨transfers, hinsert, hrun⟩ := createTransfer_new
    ⟨generateUlid me 11, total (availableEntries db userId), account, userId⟩ hok hnew.transfer
  obtain ⟨walletEntries, hrows, hsettle⟩ := settle_ok { db with transfers } me account
    (show availableEntries db userId = _ from rfl) hnew.entry hok'
  unfold payOut
  rw [exec_await_bind_ok hrun, exec_await_bind_ok (M := machine) (w := fun n => w (n + 1)) hsettle]
  exact ⟨_, _, _, rfl, withdrawn_of_rows hnew hinsert hrows⟩

/-- **The law of a withdrawal.** On any ledger, one call by a user who can be paid
out asks Stripe for a transfer exactly when the summary offers a withdrawal, and
goes through when Stripe and the database then do their part. One that goes
through transfers the net sum of the user's available entries, pays out exactly
these, books one debit that balances them, and leaves every other entry alone. One
that does not leaves the ledger as it was. -/
theorem withdrawal_law (huser : db.userBySupabaseId sub = some user)
    (hpayout : PayoutReady db user account) (hnew : NewUlids db me) :
    let out := (requestWithdrawal me sub).exec w db
    ∃ v, (∀ answers, (summary sub).Returns answers db v) ∧
      ((∃ t ∈ out.steps, ∃ u wid ids, t.site = .createTransfer u wid ids) ↔
        v.canWithdraw = true) ∧
      ((∃ r, out.result = .ok r) ↔
        v.canWithdraw = true ∧ (w 3).ok = true ∧ (w 4).ok = true) ∧
      (∀ r, out.result = .ok r →
        r = ⟨generateUlid me 11, total (availableEntries db user.id)⟩ ∧
          Withdrawn me user.id account db out.state) ∧
      (∀ e, out.result = .error e → out.state.walletEntries = db.walletEntries) ∧
      (v.canWithdraw = false ∨ (w 3).ok = false → out.state = db) := by
  intro out
  refine ⟨summaryOf db user.id, fun answers => summary_returns huser, ?_⟩
  -- the summary and the withdrawal read the same sum, so one bound decides both
  by_cases henough : withdrawalMinCents ≤ total (availableEntries db user.id)
  · have hoffered := (canWithdraw_iff user.id).mpr henough
    have hout : out = _ := requestWithdrawal_pays huser hpayout henough
    have hasked : ∀ db₁ steps, ∃ t ∈ balanceReads db user.id ++ ⟨.query, db, db⟩ ::
        transferStep me user.id db db₁ :: steps, ∃ u wid ids, t.site = .createTransfer u wid ids :=
      fun db₁ steps => ⟨transferStep me user.id db db₁, by simp, _, _, _, rfl⟩
    rw [hoffered]
    -- a call that is allowed asks Stripe in all cases; its fourth and fifth
    -- answers, the transfer's and the settlement's, decide how it ends
    cases htransfer : (w 3).ok with
    | false =>
      obtain ⟨e, hrun⟩ := payOut_refused db me user.id account (w := fun n => w (n + 3)) htransfer
      rw [hout, hrun]
      refine ⟨iff_of_true (hasked _ _) rfl, ?_, ?_, fun _ _ => rfl, fun _ => rfl⟩
      · exact iff_of_false (fun ⟨_, h⟩ => by cases h) (fun h => by cases h.2.1)
      · intro r h
        cases h
    | true =>
      cases hsettle : (w 4).ok with
      | false =>
        obtain ⟨e, transfers, steps, hrun⟩ := payOut_unsettled user.id account
          (w := fun n => w (n + 3)) hnew htransfer hsettle
        rw [hout, hrun]
        refine ⟨iff_of_true (hasked _ _) rfl, ?_, ?_, fun _ _ => rfl, ?_⟩
        · exact iff_of_false (fun ⟨_, h⟩ => by cases h) (fun h => by cases h.2.2)
        · intro r h
          cases h
        · intro h
          rcases h with h | h
          · cases h
          · cases h
      | true =>
        obtain ⟨db₁, db', steps, hrun, hwithdrawn⟩ := payOut_settled user.id account
          (w := fun n => w (n + 3)) hnew htransfer hsettle
        rw [hout, hrun]
        refine ⟨iff_of_true (hasked _ _) rfl, iff_of_true ⟨_, rfl⟩ ⟨rfl, rfl, rfl⟩, ?_, ?_, ?_⟩
        · intro r h
          cases h
          exact ⟨rfl, hwithdrawn⟩
        · intro e h
          cases h
        · intro h
          rcases h with h | h
          · cases h
          · cases h
  · have hoffered : (summaryOf db user.id).canWithdraw = false :=
      Bool.eq_false_iff.mpr fun h => henough ((canWithdraw_iff user.id).mp h)
    obtain ⟨e, hrun⟩ := requestWithdrawal_refused me (w := w) huser henough
    have hout : out = _ := hrun
    rw [hout, hoffered]
    refine ⟨iff_of_false ?_ Bool.false_ne_true, ?_, ?_, fun _ _ => rfl, fun _ => rfl⟩
    · rintro ⟨t, ht, u, wid, ids, hsite⟩
      simp only [balanceReads, List.mem_cons, List.not_mem_nil, or_false] at ht
      rcases ht with rfl | rfl
      · cases hsite
      · cases hsite
    · exact iff_of_false (fun ⟨_, h⟩ => by cases h) (fun h => by cases h.1)
    · intro r h
      cases h

/-- The small marketplace, where the driver has earned 70 € and owes 5 €, and more is
pending. -/
def indebtedTown : Db :=
  { smallTown with walletEntries := ⟨[
      newEntry ⟨0, 1⟩ (.user ⟨0, 102⟩) ⟨0, 0⟩ .deliveryEarning 7000 .available none none,
      newEntry ⟨0, 2⟩ (.user ⟨0, 102⟩) ⟨0, 1⟩ .driverDebt (-500) .available none none,
      newEntry ⟨0, 3⟩ (.user ⟨0, 102⟩) ⟨0, 2⟩ .deliveryEarning 300 .pending (some 9) none], by decide⟩ }

theorem indebtedTown_newUlids : NewUlids indebtedTown 0 := ⟨rfl, by decide, rfl⟩

/-- The driver's account. -/
def driverAccount : User :=
  ⟨⟨0, 102⟩, "driver", "driver@town", .driver, false, none, none, false, none, none⟩

/-- The driver is paid the net sum of 65 €. -/
theorem indebtedTown_withdrawn :
    let out := (requestWithdrawal 0 "driver").exec (fun _ => ⟨true, "", ""⟩) indebtedTown
    out.result = .ok ⟨generateUlid 0 11, 6500⟩ ∧
      Withdrawn 0 ⟨0, 102⟩ "acct_d" indebtedTown out.state := by
  intro out
  have huser : indebtedTown.userBySupabaseId "driver" = some driverAccount := rfl
  have hready : PayoutReady indebtedTown driverAccount "acct_d" := ⟨rfl, rfl⟩
  obtain ⟨v, hv, -, hgoes, hdoes, -, -⟩ := withdrawal_law (w := fun _ => ⟨true, "", ""⟩) huser hready
    indebtedTown_newUlids
  have hv' : v = summaryOf indebtedTown ⟨0, 102⟩ := by
    have h := hv fun _ => ⟨true, "", ""⟩
    rw [Returns, summary_returns huser] at h
    exact (Except.ok.inj h).symm
  obtain ⟨r, hr⟩ := hgoes.mpr ⟨by rw [hv']; decide, rfl, rfl⟩
  obtain ⟨rfl, hwithdrawn⟩ := hdoes r hr
  exact ⟨hr, hwithdrawn⟩

end IncaCook
