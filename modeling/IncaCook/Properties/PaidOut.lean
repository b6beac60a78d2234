import IncaCook.Library.Runs
import IncaCook.Properties.Withdrawals
import IncaCook.Steps.Outlines
import Mathlib.Algebra.Order.BigOperators.Group.List

/-!
# What has been paid out

The operations of the wallet, one at a time, in any order, with any arguments. A
withdrawal marks the entries that it settles PAID_OUT, and its own debit too, so
the two cancel out: the PAID_OUT entries of a user always sum to nothing, and
`summary` reports nothing paid out.

Main results:

* `Balanced`: the invariant, kept by each operation;
* `paidOut_total_iff`: the summary's figure is right for exactly the users to whom
  nothing has been transferred.
-/

namespace IncaCook

open Prog Wallets

/-! ## The wallet as a service -/

/-- The operations of `WalletService` that write. -/
inductive WalletCall where
  | creditForCompletedOrder (orderId : OrderId)
  | compensateDriver (orderId : OrderId) (driverId : UserId) (amountCents : Cents)
  | creditSellerEarning (orderId : OrderId) (sellerId : UserId) (amountCents : Cents)
  | recordDriverDebt (orderId : OrderId) (driverId : UserId) (amountCents : Cents)
  | releaseDuePendingEntries
  | requestWithdrawal (supabaseId : String)

def walletHandle (cfg : Config) (me : Nat) : WalletCall → Handler Unit
  | .creditForCompletedOrder o => creditForCompletedOrder cfg me o
  | .compensateDriver o driver amount => compensateDriver me o driver amount
  | .creditSellerEarning o seller amount => creditSellerEarning me o seller amount
  | .recordDriverDebt o driver amount => recordDriverDebt me o driver amount
  | .releaseDuePendingEntries => do
    let _ ← releaseDuePendingEntries
    pure ()
  | .requestWithdrawal sub => do
    let _ ← requestWithdrawal me sub
    pure ()

/-- Between two operations anything may happen to the rest of the world: orders,
deliveries, accounts and the clock. -/
def walletService (cfg : Config) : Service machine where
  Call := WalletCall
  Reply := Unit
  Event := Db
  handle := walletHandle cfg
  admits _ _ := true
  event world db := { world with walletEntries := db.walletEntries, transfers := db.transfers }

/-- What Stripe has transferred to the user. -/
def transferred (db : Db) (userId : UserId) : Cents :=
  ((db.transfers.rows.filter fun t => t.userId = userId).map StripeTransfer.amount).sum

/-- Of every user, what is paid out and the debits make up for each other; and no
transfer is below the minimum. -/
structure Balanced (db : Db) : Prop where
  paidOut : ∀ u, total (entriesOf db u .paidOut) = 0
  transfers : ∀ t ∈ db.transfers.rows, withdrawalMinCents ≤ t.amount

/-- Every step keeps the balance. -/
abbrev balanceContract : Contract machine := movesContract fun s s' => Balanced s → Balanced s'

variable {cfg : Config} {me : Nat} {s s' : Db}

/-! ## Statements that pay nothing out -/

/-- The paid-out entries of every user are the same, and so are the transfers. -/
structure SamePaidOut (s s' : Db) : Prop where
  entries : ∀ u, entriesOf s' u .paidOut = entriesOf s u .paidOut
  transfers : s'.transfers = s.transfers

theorem SamePaidOut.balanced (h : SamePaidOut s s') (hb : Balanced s) : Balanced s' where
  paidOut u := by
    rw [h.entries]
    exact hb.paidOut u
  transfers := by
    rw [h.transfers]
    exact hb.transfers

theorem filter_insertSkippingDuplicate {p : WalletEntry → Bool} {e : WalletEntry} (he : p e = false)
    (t : Table WalletEntry) : (insertSkippingDuplicate t e).rows.filter p = t.rows.filter p := by
  unfold insertSkippingDuplicate
  split
  · rfl
  · cases hnew : t.insert? e with
    | none => rfl
    | some t' =>
      show t'.rows.filter p = _
      rw [(Table.insert?_eq_some.mp hnew).2, List.filter_cons_of_neg (Bool.not_eq_true _ ▸ he)]

theorem filter_foldl_insertSkippingDuplicate {p : WalletEntry → Bool} {rows : List WalletEntry}
    (hrows : ∀ e ∈ rows, p e = false) (t : Table WalletEntry) :
    (rows.foldl insertSkippingDuplicate t).rows.filter p = t.rows.filter p := by
  induction rows generalizing t with
  | nil => rfl
  | cons e rest ih =>
    rw [List.foldl_cons, ih fun e' he' => hrows e' (List.mem_cons_of_mem _ he')]
    exact filter_insertSkippingDuplicate (hrows e (List.mem_cons_self ..)) t

/-- A rewrite of rows outside the filter that stay outside. -/
theorem filter_rewritten {p q : WalletEntry → Bool} {f : WalletEntry → WalletEntry}
    (rows : List WalletEntry) (hp : ∀ e, q e = true → p e = false)
    (hf : ∀ e, q e = true → p (f e) = false) :
    (rows.map fun e => if q e then f e else e).filter p = rows.filter p := by
  induction rows with
  | nil => rfl
  | cons e rest ih =>
    rw [List.map_cons, List.filter_cons, List.filter_cons, ih]
    by_cases hq : q e = true
    · rw [if_pos hq, hp e hq, hf e hq]
      rfl
    · rw [if_neg hq]

/-- Entries that are not paid out are created. -/
theorem samePaidOut_create {rows : List WalletEntry} (hrows : ∀ e ∈ rows, e.status ≠ .paidOut) :
    SamePaidOut s
      { s with walletEntries := rows.foldl insertSkippingDuplicate s.walletEntries } where
  entries u := filter_foldl_insertSkippingDuplicate (fun e he => by simp [hrows e he]) _
  transfers := rfl

/-- Pending entries are moved to another status. -/
theorem samePaidOut_move {ids : List WalletEntryId} {f : WalletEntry → WalletEntry}
    {hf : ∀ e, Keyed.key (f e) = Keyed.key e} (hstatus : ∀ e, (f e).status ≠ .paidOut) :
    SamePaidOut s { s with
      walletEntries := s.walletEntries.updateMany (fun e => e.id ∈ ids && e.status = .pending) f hf } where
  entries u := by
    apply filter_rewritten
    · intro e he
      simp only [Bool.and_eq_true, decide_eq_true_eq] at he
      simp [he.2]
    · intro e _
      simp [hstatus e]
  transfers := rfl

/-! ## The operations -/

theorem balance_query {α : Type} {f : Db → α} {site : Site} :
    Free balanceContract (Prog.read (M := machine) site f) :=
  free_read fun _ _ hb => hb

theorem balance_create {site : Site} (rows : Db → List WalletEntry)
    (hrows : ∀ s, ∀ e ∈ rows s, e.status ≠ .paidOut) :
    Free balanceContract (await (M := machine) site fun _ => do
      let db ← get
      createEntries (rows db)) := by
  refine free_await (fun _ _ hb => hb) fun h _ s _ s' hrun => ?_
  simp only [Stmt.bind_ok, Stmt.get_ok, createEntries_ok] at hrun
  obtain ⟨_, _, ⟨rfl, rfl⟩, rfl⟩ := hrun
  exact (samePaidOut_create (hrows _)).balanced

/-- What an order is credited with is held, pending or available. -/
theorem creditRows_status {order : Order} {delivery : Option Delivery} {now : Time} :
    ∀ e ∈ creditRows cfg me order delivery now, e.status ≠ .paidOut := by
  have hearning : creditStatus order ≠ .paidOut := by
    unfold creditStatus
    split
    · decide
    · decide
  exact forall_creditRows (fun _ => hearning) (show WalletEntryStatus.available ≠ .paidOut by decide)
    fun _ _ => hearning

theorem creditForCompletedOrder_balance {o : OrderId} :
    Free balanceContract (creditForCompletedOrder cfg me o) := by
  refine free_bind balance_query fun seen => ?_
  obtain ⟨order, delivery, now⟩ := seen
  cases order with
  | none => exact free_pure
  | some order =>
    refine free_ite (free_ite free_pure ?_) free_pure
    refine free_await (fun _ _ hb => hb) fun h _ s _ s' hrun => ?_
    rw [createEntries_ok.mp hrun]
    exact (samePaidOut_create creditRows_status).balanced

theorem releaseDuePendingEntries_balance : Free balanceContract releaseDuePendingEntries := by
  refine releaseDuePendingEntries_of (fun _ _ hb => hb) (fun ids now => ?_) fun ids => ?_
  · refine free_await (fun _ _ hb => hb) fun h _ s _ s' hrun => ?_
    rw [updateWalletEntries_ok.mp hrun]
    exact (samePaidOut_move fun e h => by cases h).balanced
  · refine free_await (fun _ _ hb => hb) fun h _ s _ s' hrun => ?_
    rw [updateWalletEntries_ok.mp hrun]
    exact (samePaidOut_move fun e h => by cases h).balanced

/-- Two conditions that no entry meets together. -/
theorem total_filter_or {p q : WalletEntry → Bool} (hdisjoint : ∀ e, p e = true → q e = false)
    (rows : List WalletEntry) :
    total (rows.filter fun e => p e || q e) = total (rows.filter p) + total (rows.filter q) := by
  unfold total
  induction rows with
  | nil => rfl
  | cons e rest ih =>
    simp only [List.filter_cons]
    cases hp : p e with
    | true =>
      simp only [hdisjoint e hp, Bool.true_or, if_true, List.map_cons, List.sum_cons, ih,
        Bool.false_eq_true, if_false]
      ring
    | false =>
      cases hq : q e with
      | true =>
        simp only [Bool.or_true, if_true, List.map_cons, List.sum_cons, ih, Bool.false_eq_true,
          if_false]
        ring
      | false => simpa only [Bool.or_false, Bool.false_eq_true, if_false] using ih

/-- **A settlement balances.** The entries it pays out and the debit it books are
PAID_OUT alike, and sum to nothing. -/
theorem settle_balanced {userId : UserId} {account : String} {answer : Answer} {u : Unit}
    (hrun : settle me userId (generateUlid me 11) (availableEntries s userId) account answer s =
      .ok (u, s')) (hb : Balanced s) : Balanced s' := by
  simp only [settle, Stmt.bind_ok, Tx.throwIf_ok, updateWalletEntries_ok, Stmt.get_ok, Tx.orThrow_ok,
    Stmt.set_ok] at hrun
  obtain ⟨_, s₁, ⟨-, rfl⟩, _, _, rfl, _, _, ⟨rfl, rfl⟩, walletEntries, _, ⟨hinsert, rfl⟩, rfl⟩ := hrun
  have hrows := (Table.insert?_eq_some.mp hinsert).2
  rw [paidOut_rows] at hrows
  refine ⟨fun other => ?_, hb.transfers⟩
  unfold entriesOf
  rw [hrows]
  -- the user who is paid: the debit against the entries it settles; anybody else: nothing moved
  by_cases hu : other = userId
  · subst hu
    have hsettled := total_settled me other s₁.walletEntries.rows
      (p := fun e => e.userId = .user other && e.status = .paidOut)
      (q := fun e => (e.userId = .user other && e.status = .available) ||
        (e.userId = .user other && e.status = .paidOut)) (fun e _ => by
        unfold settledEntry
        split
        · rename_i havailable
          simp only [Bool.and_eq_true, decide_eq_true_eq] at havailable
          simp [havailable.1, havailable.2]
        · rename_i hother
          simp only [hother, Bool.false_or])
    rw [List.filter_cons_of_pos (by simp)]
    change -total (availableEntries s₁ other) + total _ = 0
    rw [hsettled, total_filter_or (fun e he => by
      simp only [Bool.and_eq_true, decide_eq_true_eq] at he
      simp [he.2])]
    change -total (availableEntries s₁ other) +
      (total (availableEntries s₁ other) + total (entriesOf s₁ other .paidOut)) = 0
    rw [hb.paidOut other, Int.add_zero]
    exact Int.add_left_neg _
  · have hsettled := total_settled me userId s₁.walletEntries.rows
      (p := fun e => e.userId = .user other && e.status = .paidOut)
      (q := fun e => e.userId = .user other && e.status = .paidOut) (fun e _ => by
        unfold settledEntry
        split
        · rename_i havailable
          simp only [Bool.and_eq_true, decide_eq_true_eq] at havailable
          simp [havailable.1, Ne.symm hu]
        · rfl)
    rw [List.filter_cons_of_neg (by simp [Ne.symm hu]), hsettled]
    exact hb.paidOut other

theorem createTransfer_balanced {transfer : StripeTransfer}
    (hmin : withdrawalMinCents ≤ transfer.amount) (hb : Balanced s) :
    Balanced { s with transfers := (s.transfers.insert? transfer).getD s.transfers } := by
  refine ⟨hb.paidOut, fun t ht => ?_⟩
  cases hnew : s.transfers.insert? transfer with
  | none =>
    rw [hnew] at ht
    exact hb.transfers t ht
  | some transfers =>
    rw [hnew] at ht
    rcases (Table.mem_insert hnew).mp ht with rfl | ht
    · exact hmin
    · exact hb.transfers t ht

theorem requestWithdrawal_balance {sub : String} : Free balanceContract (requestWithdrawal me sub) := by
  refine free_bind balance_query fun user => free_bind free_orThrow fun user => ?_
  intro h s
  refine sat_read_bind fun s₁ hs₁ => ⟨fun hb => hb, ?_⟩
  refine sat_throwIf_bind (fun _ => trivial) fun _ => ?_
  refine sat_throwIf_bind (fun _ => trivial) fun hmin => ?_
  refine resolvePayoutTarget_bind (fun _ _ hb => hb) fun s₂ target hs₂ => ?_
  refine sat_throwIf_bind (fun _ => trivial) fun _ => ?_
  refine sat_orThrow_bind (fun _ => trivial) fun account _ => ?_
  -- the transfer
  refine sat_await_bind fun s₃ hs₃ i => ⟨fun _ _ => ⟨fun hb => hb, trivial⟩, fun _ s₄ hrun => ?_⟩
  simp only [createTransfer, Stmt.bind_ok, Tx.throwIf_ok, Stmt.modify_ok] at hrun
  obtain ⟨_, _, ⟨-, rfl⟩, rfl⟩ := hrun
  refine ⟨createTransfer_balanced (not_lt.mp hmin), ?_⟩
  -- the settlement, of the entries that are still the available ones
  refine sat_await_bind fun s₅ hs₅ i => ⟨fun _ _ => ⟨fun hb => hb, trivial⟩, fun _ s₆ hrun => ?_⟩
  obtain rfl : s₁ = s₂ := hs₂
  obtain rfl : s₁ = _ := hs₃
  obtain rfl : _ = s₅ := hs₅
  exact ⟨settle_balanced hrun, trivial⟩

/-- **Every operation keeps the balance.** -/
theorem walletHandle_balance (c : WalletCall) : Free balanceContract (walletHandle cfg me c) := by
  cases c with
  | creditForCompletedOrder o => exact creditForCompletedOrder_balance
  | compensateDriver o driver amount =>
    exact free_ite free_pure (balance_create (fun db => [_]) (by simp [newEntry]))
  | creditSellerEarning o seller amount =>
    exact free_ite free_pure (balance_create (fun db => [_]) (by simp [newEntry]))
  | recordDriverDebt o driver amount =>
    exact free_ite free_pure (balance_create (fun db => [_]) (by simp [newEntry]))
  | releaseDuePendingEntries =>
    exact free_bind releaseDuePendingEntries_balance fun _ => free_pure
  | requestWithdrawal sub => exact free_bind requestWithdrawal_balance fun _ => free_pure

/-! ## The result -/

theorem run_balanced {s₀ : Db} (h0 : Balanced s₀) (inputs : List (Input (walletService cfg))) :
    Balanced (serialRun s₀ inputs).state := by
  refine serial_invariant (S := walletService cfg) (I := fun s _ => Balanced s)
    (P := fun _ _ => True) h0 (fun world s _ hb => ⟨hb.paidOut, hb.transfers⟩) ?_ inputs
    fun _ _ _ _ => trivial
  intro c w s calls hb _ _ _
  exact (walletHandle_balance c).moves (fun _ hb => hb) (fun _ _ _ hab hbc hb => hbc (hab hb)) hb

/-- Transfers are of the minimum at least, so a user with one has been paid something. -/
theorem transferred_eq_zero (hb : Balanced s) (u : UserId) :
    transferred s u = 0 ↔ ∀ t ∈ s.transfers.rows, t.userId ≠ u := by
  have hmin : (0 : Int) < withdrawalMinCents := by
    decide
  have hamounts : ∀ t ∈ s.transfers.rows.filter fun t => t.userId = u, 0 < t.amount :=
    fun t ht => hmin.trans_le (hb.transfers t (List.mem_of_mem_filter ht))
  constructor
  · intro hzero t ht hu
    have hmem : t ∈ s.transfers.rows.filter fun t => t.userId = u :=
      List.mem_filter.mpr ⟨ht, decide_eq_true hu⟩
    -- a sum of positive amounts is at least any one of them
    have hle : t.amount ≤ transferred s u := by
      refine List.single_le_sum ?_ _ (List.mem_map_of_mem hmem)
      intro x hx
      obtain ⟨t', ht', rfl⟩ := List.mem_map.mp hx
      exact (hamounts t' ht').le
    have hpos := hamounts t hmem
    rw [hzero] at hle
    exact absurd hle (not_le.mpr hpos)
  · intro hnone
    have hnil : (s.transfers.rows.filter fun t => t.userId = u) = [] := by
      rw [List.filter_eq_nil_iff]
      intro t ht
      simpa using hnone t ht
    rw [transferred, hnil]
    rfl

/-- **The paid-out total is right exactly where it is zero.** After any operations of
the wallet, one at a time, from an empty ledger: what the summary reports as paid
out to a user is what Stripe has transferred to the user if and only if nothing
has been transferred to the user. -/
theorem paidOut_total_iff (cfg : Config) {s₀ : Db} (hledger : s₀.walletEntries.rows = [])
    (htransfers : s₀.transfers.rows = []) (inputs : List (Input (walletService cfg)))
    {sub : String} {user : User}
    (huser : (serialRun s₀ inputs).state.userBySupabaseId sub = some user) :
    ∃ v, (∀ w, (summary sub).Returns w (serialRun s₀ inputs).state v) ∧
      (v.paidOutCents = transferred (serialRun s₀ inputs).state user.id ↔
        ∀ t ∈ (serialRun s₀ inputs).state.transfers.rows, t.userId ≠ user.id) := by
  have h0 : Balanced s₀ := by
    refine ⟨fun u => ?_, fun t ht => ?_⟩
    · rw [entriesOf, hledger]
      rfl
    · rw [htransfers] at ht
      cases ht
  have hb := run_balanced h0 inputs
  -- of the run, only the balance matters
  generalize (serialRun s₀ inputs).state = s at huser hb ⊢
  refine ⟨summaryOf s user.id, fun w => summary_returns huser, ?_⟩
  have hzero : (summaryOf s user.id).paidOutCents = 0 := hb.paidOut user.id
  rw [hzero, ← transferred_eq_zero hb]
  exact eq_comm

/-- The driver is compensated with 70 € (call 0) and withdraws them (call 1). -/
def oneWithdrawal : List (Input (walletService smallTownConfig)) :=
  [.call (.compensateDriver ⟨0, 0⟩ ⟨0, 102⟩ 7000) fun _ => ⟨true, "", ""⟩,
    .call (.requestWithdrawal "driver") fun _ => ⟨true, "", ""⟩]

/-- With nothing transferred yet, the figure is right. -/
theorem compensation_reported : ∃ v,
    (∀ w, (summary "driver").Returns w (serialRun smallTown (oneWithdrawal.take 1)).state v) ∧
      v.paidOutCents = transferred (serialRun smallTown (oneWithdrawal.take 1)).state ⟨0, 102⟩ := by
  have hledger : smallTown.walletEntries.rows = [] := rfl
  have huser : (serialRun smallTown (oneWithdrawal.take 1)).state.userBySupabaseId "driver" =
      some driverAccount := by
    decide +kernel
  obtain ⟨v, hv, hiff⟩ := paidOut_total_iff smallTownConfig hledger rfl (oneWithdrawal.take 1) huser
  exact ⟨v, hv, hiff.mpr (by decide +kernel)⟩

/-- **Paid out, and reported as nothing.** The driver has received 70 €, and the
summary says 0 €. -/
theorem oneWithdrawal_not_reported : ¬∀ v, (summary "driver").Returns (fun _ => ⟨true, "", ""⟩)
    (serialRun smallTown oneWithdrawal).state v →
      v.paidOutCents = transferred (serialRun smallTown oneWithdrawal).state ⟨0, 102⟩ := by
  intro h
  have huser : (serialRun smallTown oneWithdrawal).state.userBySupabaseId "driver" =
      some driverAccount := by
    decide +kernel
  have hreport := h _ (summary_returns huser)
  revert hreport
  decide +kernel

end IncaCook
