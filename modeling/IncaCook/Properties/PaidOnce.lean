import IncaCook.Properties.RefundsAndEarnings
import IncaCook.Properties.Withdrawals
import IncaCook.Steps.Interleaved

/-!
# Paid once

`requestWithdrawal` reads the balance, moves the money, and settles the ledger, in this order.
The idempotency key protects a call from itself only: the next call draws another one. So two
calls that have read the same entries are both paid for them, and so is a call that comes after
one whose settlement has failed.

Main results:

* `Step.shows_withdrawal`: how a withdrawal comes into the ledger;
* `paid_once`: where every transfer is asked for on a ledger that is up to date, each entry is
  counted in one executed transfer at most;
* `driver_paid_twice`: two withdrawals at once.
-/

namespace IncaCook

open Prog Wallets

/-- The user and the entries that a transfer is for. -/
def Site.paysFor : Site → Option (UserId × List WalletEntryId)
  | .createTransfer u _ ids => some (u, ids)
  | _ => none

/-- The step makes Stripe execute a transfer that counts the entry. -/
def counts (id : WalletEntryId) (e : Entry machine) : Bool :=
  (Site.paysFor e.site).any (fun p => decide (id ∈ p.2)) &&
    decide ((Db.transfers e.post).rows ≠ (Db.transfers e.pre).rows)

/-- The entry is still to be paid out. -/
def Db.isAvailable (s : Db) (id : WalletEntryId) : Bool :=
  (s.walletEntries.find? id).any fun e => e.status = .available

/-- The ledger shows the withdrawal. -/
def Db.showsWithdrawal (s : Db) (w : WithdrawalId) : Bool :=
  s.walletEntries.rows.any fun e => decide (e.withdrawalId = some w)

/-- The ledger is up to date for a transfer: its entries are available still, and it shows every
transfer that the user has had. -/
def LedgerUpToDate (site : Site) (s : Db) : Prop :=
  ∀ p ∈ site.paysFor, (p.2.all s.isAvailable &&
    s.transfers.rows.all fun t => !decide (t.userId = p.1) || s.showsWithdrawal t.withdrawalId) = true

instance (site : Site) (s : Db) : Decidable (LedgerUpToDate site s) :=
  inferInstanceAs (Decidable (∀ p ∈ site.paysFor, _ = true))

/-- An entry keeps its owner, and once paid out it stays so. -/
def KeepsPaidOut (e e' : WalletEntry) : Prop :=
  e'.userId = e.userId ∧ (e.status = .paidOut → e'.status = .paidOut)

/-- What a call may rely on. -/
def KeepsLedger (_ : Nat) (s s' : Db) : Prop := s.walletEntries.Carries KeepsPaidOut s'.walletEntries

section

variable {s s' s'' : Db} {me : Nat} {w : WithdrawalId}

theorem KeepsPaidOut.refl (e : WalletEntry) : KeepsPaidOut e e := ⟨rfl, fun hpaid => hpaid⟩

theorem KeepsPaidOut.trans (a b c : WalletEntry) (hab : KeepsPaidOut a b) (hbc : KeepsPaidOut b c) :
    KeepsPaidOut a c :=
  ⟨hbc.1.trans hab.1, fun hpaid => hbc.2 (hab.2 hpaid)⟩

theorem KeepsLedger.refl (me : Nat) (s : Db) : KeepsLedger me s s := Table.Carries.refl .refl _

theorem KeepsLedger.trans (h : KeepsLedger me s s') (h' : KeepsLedger me s' s'') : KeepsLedger me s s'' :=
  Table.Carries.trans .trans h h'

theorem showsWithdrawal_iff :
    s.showsWithdrawal w = true ↔ ∃ e ∈ s.walletEntries.rows, e.withdrawalId = some w := by
  simp [Db.showsWithdrawal]

/-! ## What a step does to the ledger -/

theorem carries_insertSkippingDuplicate (t : Table WalletEntry) (e : WalletEntry) :
    t.Carries KeepsPaidOut (insertSkippingDuplicate t e) := by
  unfold insertSkippingDuplicate
  split
  · exact .refl .refl t
  · cases hnew : t.insert? e with
    | none => exact .refl .refl t
    | some t' => exact Table.carries_insert .refl hnew

theorem carries_foldl_insertSkippingDuplicate (rows : List WalletEntry) (t : Table WalletEntry) :
    t.Carries KeepsPaidOut (rows.foldl insertSkippingDuplicate t) := by
  induction rows generalizing t with
  | nil => exact .refl .refl t
  | cons e rest ih =>
    exact Table.Carries.trans .trans (carries_insertSkippingDuplicate t e) (ih _)

/-- A rewrite of pending entries. -/
theorem carries_pending {t : Table WalletEntry} {p : WalletEntry → Bool} {f : WalletEntry → WalletEntry}
    (hpending : ∀ e, p e = true → e.status = .pending) (huser : ∀ e, (f e).userId = e.userId)
    (hf : ∀ e, Keyed.key (f e) = Keyed.key e) : t.Carries KeepsPaidOut (t.updateMany p f hf) := by
  refine Table.carries_updateMany .refl (fun e hp => ⟨huser e, fun hpaid => ?_⟩) hf
  rw [hpending e hp] at hpaid
  cases hpaid

variable {cfg : Config} {R : Db → Db → Prop} {call : Call} {h : List (StepRecord machine)} {site : Site}

/-- **What is paid out stays paid out.** -/
theorem Step.keeps_paidOut (hstep : Step cfg R me call h site s s') :
    s.walletEntries.Carries KeepsPaidOut s'.walletEntries := by
  cases hstep with
  | aside haside =>
    rw [haside.walletEntries]
    exact .refl .refl _
  | reverseDriverEarning | reversePending | reverseDue | releaseDue =>
    refine carries_pending ?_ ?_ ?_
    · intro e hp
      simp only [Bool.and_eq_true, decide_eq_true_eq] at hp
      exact hp.2
    · exact fun _ => rfl
    · exact fun _ => rfl
  | creditCompleted => exact carries_foldl_insertSkippingDuplicate _ _
  | compensateDriver | creditSeller | driverDebt => exact carries_insertSkippingDuplicate _ _
  | settle user entries debit htransfer hdebit hnew =>
    refine Table.Carries.trans .trans (Table.carries_updateMany .refl ?_ ?_)
      (Table.carries_insert .refl hnew)
    · exact fun _ _ => ⟨rfl, fun _ => rfl⟩
    · exact fun _ => rfl
  | _ => exact .refl .refl _

/-- No entry begins as part of a withdrawal. -/
theorem creditRows_withdrawalId {order : Order} {delivery : Option Delivery} {now : Time} :
    ∀ e ∈ creditRows cfg me order delivery now, e.withdrawalId = none :=
  forall_creditRows (fun _ => rfl) rfl fun _ _ => rfl

/-- A settlement, after the steps `h`: it pays out what its call has had transferred. -/
structure Settlement (me : Nat) (h : List (StepRecord machine)) (w : WithdrawalId) (s' : Db) : Prop where
  own : w = generateUlid me 11
  transferred : ∃ t ∈ h, ∃ u ids, t.site = .createTransfer u w ids
  paid : ∀ t ∈ h, ∀ u w' ids, t.site = .createTransfer u w' ids → ∀ id ∈ ids, ∀ e,
    s'.walletEntries.find? id = some e → e.status = .paidOut

/-- **How a withdrawal comes into the ledger**: with the settlement of its call. -/
theorem Step.shows_withdrawal (hstep : Step cfg R me call h site s s')
    (hbooked : s'.showsWithdrawal w = true) : s.showsWithdrawal w = true ∨ Settlement me h w s' := by
  obtain ⟨e', he', hw⟩ := showsWithdrawal_iff.mp hbooked
  have hold : ∀ e ∈ s.walletEntries.rows, e.withdrawalId = some w → s.showsWithdrawal w = true :=
    fun e he hw => showsWithdrawal_iff.mpr ⟨e, he, hw⟩
  -- a rewrite of the status only
  have hrewritten : ∀ (p : WalletEntry → Bool) (f : WalletEntry → WalletEntry),
      (∃ e ∈ s.walletEntries.rows, (if p e then f e else e) = e') →
      (∀ e, (f e).withdrawalId = e.withdrawalId) → s.showsWithdrawal w = true := by
    rintro p f ⟨e, he, rfl⟩ hsame
    refine hold e he ?_
    split at hw
    · exact (hsame e).symm.trans hw
    · exact hw
  have hnew : ∀ {e : WalletEntry}, e.withdrawalId = none → e' = e ∨ e' ∈ s.walletEntries.rows →
      s.showsWithdrawal w = true := by
    rintro e hnone (rfl | he)
    · rw [hnone] at hw
      cases hw
    · exact hold e' he hw
  cases hstep with
  | aside haside =>
    rw [haside.walletEntries] at he'
    exact .inl (hold e' he' hw)
  | reverseDriverEarning | reversePending | reverseDue | releaseDue =>
    simp only [Table.mem_updateMany] at he'
    exact .inl (hrewritten _ _ he' fun _ => rfl)
  | creditCompleted o hR hsaw hstatus =>
    rcases mem_foldl_insertSkippingDuplicate he' with hrow | he'
    · exact .inl (hnew (creditRows_withdrawalId e' hrow) (.inl rfl))
    · exact .inl (hold e' he' hw)
  | compensateDriver | creditSeller | driverDebt =>
    exact .inl (hnew rfl (mem_insertSkippingDuplicate he'))
  | settle user entries debit htransfer hdebit hinsert honly hpaid =>
    dsimp only at he'
    by_cases hown : w = generateUlid me 11
    · refine .inr ⟨hown, ?_, fun t ht u w' ids hsite id hid e he => ?_⟩
      · obtain ⟨t, ht, -, -, -, hsite, -⟩ := htransfer
        exact ⟨t, ht, user, _, hown ▸ hsite⟩
      · rw [honly t ht u w' ids hsite] at hid
        dsimp only at he
        rw [Table.find?_insert hinsert] at he
        split at he
        · rw [← Option.some.inj he]
          exact hpaid.1
        · rw [Table.find?_updateMany, Option.map_eq_some_iff] at he
          obtain ⟨e₀, he₀, rfl⟩ := he
          have hkey : e₀.id = id := Table.key_of_find? he₀
          rw [if_pos (decide_eq_true (hkey ▸ hid))]
    · left
      rcases (Table.mem_insert hinsert).mp he' with rfl | he'
      · exact absurd (Option.some.inj (hw.symm.trans hpaid.2)) hown
      · obtain ⟨e, he, rfl⟩ := Table.mem_updateMany.mp he'
        split at hw
        · exact absurd (Option.some.inj hw).symm hown
        · exact hold e he hw
  | _ => exact .inl (hold e' he' hw)

/-- A transfer that Stripe has executed stays executed. -/
theorem Step.transfers_kept (hstep : Step cfg R me call h site s s') :
    ∀ t ∈ s.transfers.rows, t ∈ s'.transfers.rows := by
  intro t ht
  cases hstep with
  | aside haside => rwa [haside.transfers]
  | createTransfer transfer entries hid hread hamount hfirst hnew =>
    dsimp only
    rw [hnew]
    cases hinsert : s.transfers.insert? transfer with
    | none => exact ht
    | some transfers => exact (Table.mem_insert hinsert).mpr (.inr ht)
  | _ => exact ht

/-- A transfer, after the steps `h`: of what was read as available, the first of its call. -/
structure Transfer (R : Db → Db → Prop) (me : Nat) (h : List (StepRecord machine)) (u : UserId)
    (w : WithdrawalId) (ids : List WalletEntryId) (s s' : Db) : Prop where
  own : w = generateUlid me 11
  read : ∃ t ∈ h, R t.post s ∧ ids = (availableEntries t.pre u).map WalletEntry.id
  first : ∀ t ∈ h, ∀ u w ids, t.site ≠ .createTransfer u w ids
  executed : ∃ t ∈ s'.transfers.rows, t.userId = u ∧ t.withdrawalId = w
  ledger : s'.walletEntries = s.walletEntries

theorem Step.transfer {u : UserId} {ids : List WalletEntryId}
    (hstep : Step cfg R me call h (.createTransfer u w ids) s s')
    (hexecuted : s'.transfers.rows ≠ s.transfers.rows) : Transfer R me h u w ids s s' := by
  cases hstep with
  | noop => exact absurd rfl hexecuted
  | aside haside => exact absurd (by rw [haside.transfers]) hexecuted
  | createTransfer transfer entries hid hread hamount hfirst hnew =>
    obtain ⟨t, ht, -, hR, rfl⟩ := hread
    refine ⟨hid, ⟨t, ht, hR, rfl⟩, hfirst, ?_, rfl⟩
    dsimp only at hexecuted ⊢
    rw [hnew] at hexecuted ⊢
    cases hinsert : s.transfers.insert? transfer with
    | none =>
      rw [hinsert] at hexecuted
      exact absurd rfl hexecuted
    | some transfers => exact ⟨transfer, (Table.mem_insert hinsert).mpr (.inl rfl), rfl, rfl⟩

end

/-! ## Every interleaving -/

/-- What is known of an executed transfer of call `j`: it is on Stripe's books, and its entries
are still in the ledger, paid out if the ledger shows it. -/
structure Executed (s : Db) (j : Nat) (u : UserId) (w : WithdrawalId) (ids : List WalletEntryId) :
    Prop where
  own : w = generateUlid j 11
  transfer : ∃ t ∈ s.transfers.rows, t.userId = u ∧ t.withdrawalId = w
  entries : ∀ id ∈ ids, ∃ e, s.walletEntries.find? id = some e ∧ e.userId = .user u ∧
    (s.showsWithdrawal w = true → e.status = .paidOut)

/-- The transfers of a run so far. -/
structure Payouts (s : Db) (trace : List (Entry machine)) : Prop where
  since : ∀ t ∈ trace, KeepsLedger t.thread t.pre s
  /-- what the ledger shows has been asked for -/
  asked : ∀ n, s.showsWithdrawal (generateUlid n 11) = true →
    ∃ t ∈ trace, t.thread = n ∧ ∃ u w ids, t.site = .createTransfer u w ids
  executed : ∀ t ∈ trace, ∀ u w ids, t.site = .createTransfer u w ids →
    (Db.transfers t.post).rows ≠ (Db.transfers t.pre).rows → Executed s t.thread u w ids
  once : ∀ id, trace.countP (counts id) ≤ 1

section

variable {s s' : Db} {j : Nat} {u : UserId} {w : WithdrawalId} {ids : List WalletEntryId}
  {id : WalletEntryId} {trace : List (Entry machine)} {R : Db → Db → Prop}

theorem paysFor_eq {site : Site} (hsite : site.paysFor = some (u, ids)) :
    ∃ w, site = .createTransfer u w ids := by
  cases site with
  | createTransfer u' w' ids' =>
    obtain ⟨rfl, rfl⟩ := Prod.mk.inj (Option.some.inj hsite)
    exact ⟨w', rfl⟩
  | _ => cases hsite

theorem counts_iff {e : Entry machine} : counts id e = true ↔ ∃ u w ids, e.site = .createTransfer u w ids ∧
    id ∈ ids ∧ (Db.transfers e.post).rows ≠ (Db.transfers e.pre).rows := by
  simp only [counts, Bool.and_eq_true, Option.any_eq_true, decide_eq_true_eq]
  constructor
  · rintro ⟨⟨⟨u, ids⟩, hsite, hid⟩, hexecuted⟩
    obtain ⟨w, hw⟩ := paysFor_eq hsite
    exact ⟨u, w, ids, hw, hid, hexecuted⟩
  · rintro ⟨u, w, ids, hsite, hid, hexecuted⟩
    exact ⟨⟨(u, ids), by rw [hsite]; rfl, hid⟩, hexecuted⟩

/-- A call's own steps are the steps of its number. -/
theorem mem_ownSteps {t : StepRecord machine} (ht : t ∈ Pool.ownSteps j trace) :
    ∃ e ∈ trace, e.thread = j ∧ e.toStepRecord = t := by
  obtain ⟨e, he, rfl⟩ := List.mem_map.mp ht
  obtain ⟨hmem, hthread⟩ := List.mem_filter.mp he
  exact ⟨e, hmem, of_decide_eq_true hthread, rfl⟩

theorem toStepRecord_mem {e : Entry machine} (he : e ∈ trace) :
    e.toStepRecord ∈ Pool.ownSteps e.thread trace :=
  List.mem_map_of_mem (List.mem_filter.mpr ⟨he, decide_eq_true rfl⟩)

/-- The transfer of a call is not in the ledger when it is executed, and its entries are. -/
theorem Payouts.transfer (hI : Payouts s trace)
    (htransfer : Transfer R j (Pool.ownSteps j trace) u w ids s s') : Executed s' j u w ids := by
  refine ⟨htransfer.own, htransfer.executed, fun id hid => ?_⟩
  obtain ⟨t, ht, -, hread⟩ := htransfer.read
  obtain ⟨e, he, rfl, rfl⟩ := mem_ownSteps ht
  rw [hread] at hid
  obtain ⟨row, hrow, rfl⟩ := List.mem_map.mp hid
  obtain ⟨hmem, havailable⟩ := List.mem_filter.mp hrow
  rw [Bool.and_eq_true, decide_eq_true_eq] at havailable
  obtain ⟨row', hrow', huser, -⟩ := hI.since e he row hmem
  refine ⟨row', htransfer.ledger ▸ hrow', huser.trans havailable.1, fun hbooked => ?_⟩
  -- it would have had its transfer already
  have hbefore : s.showsWithdrawal (generateUlid e.thread 11) = true := by
    rw [← htransfer.own]
    rwa [Db.showsWithdrawal, htransfer.ledger] at hbooked
  obtain ⟨t, ht, hthread, u', w', ids', hsite⟩ := hI.asked e.thread hbefore
  exact absurd hsite (htransfer.first t.toStepRecord (hthread ▸ toStepRecord_mem ht) u' w' ids')

/-- **An entry that an executed transfer counts is not paid for again**, on a ledger that is up
to date. -/
theorem Executed.not_again {j' : Nat} {u' : UserId} {w' : WithdrawalId} {ids' : List WalletEntryId}
    (hdone : Executed s j u w ids) (hnow : Executed s' j' u' w' ids')
    (hledger : s'.walletEntries = s.walletEntries) (hc : LedgerUpToDate (.createTransfer u' w' ids') s)
    (hid' : id ∈ ids') : id ∉ ids := by
  intro hid
  have hup := hc (u', ids') rfl
  rw [Bool.and_eq_true, List.all_eq_true, List.all_eq_true] at hup
  obtain ⟨havailable, hbooked⟩ := hup
  obtain ⟨e, he, huser, hpaid⟩ := hdone.entries id hid
  obtain ⟨e', he', huser', -⟩ := hnow.entries id hid'
  rw [hledger] at he'
  obtain rfl := Option.some.inj (he.symm.trans he')
  obtain rfl : u = u' := Beneficiary.user.inj (huser.symm.trans huser')
  -- the earlier transfer is in the ledger, so the entry is paid out
  obtain ⟨t, ht, hfor, rfl⟩ := hdone.transfer
  have hshown := hbooked t ht
  rw [decide_eq_true hfor, Bool.not_true, Bool.false_or] at hshown
  have hstill := havailable id hid'
  rw [Db.isAvailable, he, Option.any_some, hpaid hshown] at hstill
  cases hstill

variable {cfg : Config}

/-- Time and Stripe's notices leave the ledger and the transfers alone. -/
theorem Payouts.event (hI : Payouts s trace) (e : Event) : Payouts (applyEvent e s) trace := by
  refine ⟨fun t ht => ?_, fun n hn => hI.asked n ?_, fun t ht u w ids hsite hexecuted => ?_, hI.once⟩
  · cases e <;> exact hI.since t ht
  · cases e <;> exact hn
  · obtain ⟨hown, htransfer, hentries⟩ := hI.executed t ht u w ids hsite hexecuted
    cases e <;> exact ⟨hown, htransfer, hentries⟩

/-- **The step**: what is known of the transfers so far is known after it. -/
theorem Payouts.step {e : Entry machine} {call : Call} (hI : Payouts e.pre trace)
    (hstep : Step cfg R e.thread call (Pool.ownSteps e.thread trace) e.site e.pre e.post)
    (hc : LedgerUpToDate e.site e.pre) : Payouts e.post (e :: trace) := by
  -- the transfer of this step, if it makes one
  have hnow : ∀ u w ids, e.site = .createTransfer u w ids →
      (Db.transfers e.post).rows ≠ (Db.transfers e.pre).rows →
      Executed e.post e.thread u w ids ∧ Db.walletEntries e.post = Db.walletEntries e.pre := by
    intro u w ids hsite hexecuted
    rw [hsite] at hstep
    have htransfer := hstep.transfer hexecuted
    exact ⟨hI.transfer htransfer, htransfer.ledger⟩
  constructor
  · intro t ht
    rcases List.mem_cons.mp ht with rfl | ht
    · exact hstep.keeps_paidOut
    · exact (hI.since t ht).trans hstep.keeps_paidOut
  · intro n hbooked
    rcases hstep.shows_withdrawal hbooked with hbefore | hsettled
    · obtain ⟨t, ht, hasked⟩ := hI.asked n hbefore
      exact ⟨t, List.mem_cons_of_mem _ ht, hasked⟩
    · obtain ⟨t, ht, u, ids, hsite⟩ := hsettled.transferred
      obtain ⟨t', ht', hthread, rfl⟩ := mem_ownSteps ht
      refine ⟨t', List.mem_cons_of_mem _ ht', ?_, u, _, ids, hsite⟩
      exact hthread.trans (congrArg Ulid.call hsettled.own).symm
  · intro t ht u w ids hsite hexecuted
    rcases List.mem_cons.mp ht with rfl | ht
    · exact (hnow u w ids hsite hexecuted).1
    · obtain ⟨hown, ⟨x, hx, hfor, hkey⟩, hentries⟩ := hI.executed t ht u w ids hsite hexecuted
      refine ⟨hown, ⟨x, hstep.transfers_kept x hx, hfor, hkey⟩, fun id hid => ?_⟩
      obtain ⟨row, hrow, huser, hpaid⟩ := hentries id hid
      obtain ⟨row', hrow', huser', hstays⟩ := Table.Carries.find? hstep.keeps_paidOut hrow
      refine ⟨row', hrow', huser'.trans huser, fun hbooked => ?_⟩
      rcases hstep.shows_withdrawal hbooked with hbefore | hsettled
      · exact hstays (hpaid hbefore)
      · -- the call settles, and it has had this one transfer
        have hsame : t.thread = e.thread := congrArg Ulid.call (hown.symm.trans hsettled.own)
        exact hsettled.paid t.toStepRecord (hsame ▸ toStepRecord_mem ht) u w ids hsite id hid row' hrow'
  · intro id
    by_cases hcounts : counts id e = true
    · -- it is the first to count the entry
      obtain ⟨u, w, ids, hsite, hid, hexecuted⟩ := counts_iff.mp hcounts
      obtain ⟨hdone, hledger⟩ := hnow u w ids hsite hexecuted
      have hnone : trace.countP (counts id) = 0 := by
        rw [List.countP_eq_zero]
        intro t ht hcounts'
        obtain ⟨u', w', ids', hsite', hid', hexecuted'⟩ := counts_iff.mp hcounts'
        exact (hI.executed t ht u' w' ids' hsite' hexecuted').not_again hdone hledger (hsite ▸ hc) hid hid'
      rw [List.countP_cons_of_pos hcounts, hnone]
    · rw [List.countP_cons_of_neg hcounts]
      exact hI.once id

end

/-- **Each earning is paid once, and what it takes.** From any ledger without these withdrawals,
in every interleaving of any calls, failed settlements and retries included: where every transfer
is asked for on a ledger that is up to date, no entry is counted in two executed transfers. -/
theorem paid_once (cfg : Config) (s₀ : Db) (h0 : ∀ n, s₀.showsWithdrawal (generateUlid n 11) = false)
    (actions : List (Pool.Action (service cfg))) (hc : (poolRun s₀ actions).Steps LedgerUpToDate)
    (id : WalletEntryId) : (poolRun s₀ actions).trace.countP (counts id) ≤ 1 := by
  have hrefl : ∀ me s, KeepsLedger me s s := KeepsLedger.refl
  have hsound : Pool.Sound (interleaved cfg KeepsLedger) (fun _ _ => anyPost) (fun _ => True) s₀
      (poolRun s₀ actions) := by
    refine interleaved_sound trivial (fun me s _ => hrefl me s) (fun _ _ _ _ => KeepsLedger.trans)
      (fun e s _ => ⟨trivial, fun me => ?_⟩)
      (fun _ _ _ _ _ _ _ _ hg => ⟨trivial, fun _ _ => hg.keeps_paidOut⟩) actions hc
    cases e with
    | tick ms => exact hrefl me s
    | paymentSucceeds pi => exact hrefl me s
  have hpayouts : Payouts (poolRun s₀ actions).state (poolRun s₀ actions).trace := by
    refine Pool.history (I := Payouts) ?_ ?_ actions ?_
    · refine ⟨fun t ht => ?_, fun n hn => ?_, fun t ht => ?_, fun _ => Nat.zero_le 1⟩
      · cases ht
      · rw [h0 n] at hn
        cases hn
      · cases ht
    · exact fun e s trace hI => hI.event e
    · intro later e earlier hsplit hI
      obtain ⟨-, -, call, hstep⟩ := hsound.guar later e earlier hsplit
      exact hI.step hstep (hc e (by simp [hsplit]))
  exact hpayouts.once id

/-! ## Two withdrawals in the indebted town -/

/-- Of the calls, only withdrawals of this user arrive. -/
def withdrawing {cfg : Config} (supabaseId : String) : Pool.Action (service cfg) → Bool
  | .arrive (.requestWithdrawal id) => decide (id = supabaseId)
  | .arrive _ => false
  | _ => true

/-- The driver withdraws, and does so again. -/
def twoWithdrawals : List (Pool.Action (service smallTownConfig)) :=
  [.arrive (.requestWithdrawal "driver"), .arrive (.requestWithdrawal "driver")]

/-- Steps of withdrawal `j`. -/
def withdrawalSteps (j n : Nat) : List (Pool.Action (service smallTownConfig)) :=
  List.replicate n (.run j ⟨true, "", ""⟩)

/-- The second begins when the first is done. -/
def withdrawalsInTurn : List (Pool.Action (service smallTownConfig)) :=
  twoWithdrawals ++ (withdrawalSteps 0 6 ++ withdrawalSteps 1 6)

theorem withdrawalsInTurn_paid_once :
    (Db.transfers (poolRun indebtedTown withdrawalsInTurn).state).rows.map (·.amount) = [6500] ∧
      (poolRun indebtedTown withdrawalsInTurn).trace.countP (counts ⟨0, 1⟩) ≤ 1 :=
  ⟨by decide +kernel,
    paid_once smallTownConfig indebtedTown (fun _ => rfl) withdrawalsInTurn (by decide +kernel) ⟨0, 1⟩⟩

/-- Both read the balance before either is paid. -/
def withdrawalsAtOnce : List (Pool.Action (service smallTownConfig)) :=
  twoWithdrawals ++ (withdrawalSteps 0 2 ++ withdrawalSteps 1 6 ++ withdrawalSteps 0 4)

/-- **65 €, paid twice.** -/
theorem driver_paid_twice :
    ¬∀ (cfg : Config) (s₀ : Db) (supabaseId : String) (actions : List (Pool.Action (service cfg)))
        (id : WalletEntryId), (∀ n, s₀.showsWithdrawal (generateUlid n 11) = false) →
      (∀ a ∈ actions, withdrawing supabaseId a = true) → s₀.isAvailable id = true →
      (poolRun s₀ actions).trace.countP (counts id) ≤ 1 := by
  intro hclaim
  have honce := hclaim smallTownConfig indebtedTown "driver" withdrawalsAtOnce ⟨0, 1⟩ (fun _ => rfl)
    (by decide) (by decide +kernel)
  have htwice : (poolRun indebtedTown withdrawalsAtOnce).trace.countP (counts ⟨0, 1⟩) = 2 := by
    decide +kernel
  rw [htwice] at honce
  exact absurd honce (by decide)

end IncaCook
