import IncaCook.Library.Crash
import IncaCook.Steps.Quiet

/-!
# What the books say about an order

How often Stripe has refunded an order (`Db.refundsOf`) and which amounts of it
are available to a user (`Db.availableOf`), and what the statements of the refund
and of the credits do to these numbers.

Reversals touch pending entries only and remove none, so they change neither the
available amounts nor which entries are taken (`SameCredits`).

Main results:

* `refundOrderIfNeeded_books`: the order is refunded once more exactly when it is
  `refundable`;
* `credit_books`: a credit becomes available exactly when it is `creditable`.
-/

namespace IncaCook

open Prog Orders Deliveries Wallets

/-- How often Stripe has refunded the order. -/
def Db.refundsOf (s : Db) (o : OrderId) : Nat := s.refunds.rows.countP fun r => r.orderId = o

/-- How many entries of a type are available to a user for the order. -/
def Db.availableOf (s : Db) (o : OrderId) (u : UserId) (type : WalletEntryType) : Nat :=
  s.walletEntries.rows.countP fun e =>
    e.orderId = some o && e.userId = .user u && e.type = type && e.status = .available

/-- Whether a refund of the order goes through, given Stripe's answer: the order has none
yet, and Stripe holds a payment that succeeded and is not refunded. -/
def Db.refundable (s : Db) (row : Order) (stripe : Answer) : Bool :=
  row.stripeRefundId.isNone && stripe.ok && row.stripePaymentIntentId.any fun pi =>
    (s.paymentIntents.find? pi).any PaymentIntent.succeeded &&
      (s.refunds.rows.all fun r => r.paymentIntent ≠ pi) &&
      (s.refunds.find? ⟨s.stripeNext⟩).isNone

/-- Whether a credit under a new identifier would not be a duplicate. -/
def Db.creditable (s : Db) (id : WalletEntryId) (o : OrderId) (u : UserId) (type : WalletEntryType) :
    Bool :=
  s.walletEntries.rows.all fun e =>
    e.id ≠ id && !(e.orderId = some o && e.userId = .user u && e.type = type)

/-- What makes an entry a duplicate. -/
def claimed (e : WalletEntry) : WalletEntryId × Option OrderId × Beneficiary × WalletEntryType :=
  (e.id, e.orderId, e.userId, e.type)

/-- The same entries are taken, and the same ones are available. -/
structure SameCredits (s s' : Db) : Prop where
  claimed : s'.walletEntries.rows.map claimed = s.walletEntries.rows.map claimed
  available : ∀ o u type, s'.availableOf o u type = s.availableOf o u type

section

variable {me : Nat} {h : List (StepRecord machine)} {s s' s'' : Db} {o : OrderId} {u : UserId}
  {id : WalletEntryId} {type : WalletEntryType} {w : Nat → Answer} {n : Nat}

theorem SameCredits.refl (s : Db) : SameCredits s s := ⟨rfl, fun _ _ _ => rfl⟩

theorem SameCredits.trans (h₁ : SameCredits s s') (h₂ : SameCredits s' s'') : SameCredits s s'' :=
  ⟨h₂.claimed.trans h₁.claimed, fun o u type => (h₂.available o u type).trans (h₁.available o u type)⟩

theorem SameCredits.of_eq (heq : s'.walletEntries = s.walletEntries) : SameCredits s s' := by
  refine ⟨by rw [heq], fun o u type => ?_⟩
  rw [Db.availableOf, heq, ← Db.availableOf]

/-- A reversal of pending entries. -/
theorem SameCredits.reverse {p : WalletEntry → Bool} (hpending : ∀ e, p e = true → e.status = .pending) :
    SameCredits s { s with
      walletEntries := s.walletEntries.updateMany p fun e => { e with status := .cancelled } } := by
  constructor
  · exact Table.map_rewritten s.walletEntries.rows p fun _ => rfl
  · intro o u type
    simp only [Db.availableOf, Table.updateMany, List.countP_map]
    apply List.countP_congr
    intro e _
    simp only [Function.comp_apply]
    split
    · rename_i hp
      simp [hpending e hp]
    · rfl

theorem SameCredits.creditable (hsame : SameCredits s s') :
    s'.creditable id o u type = s.creditable id o u type := by
  have hclaims : ∀ t : Db, t.creditable id o u type = (t.walletEntries.rows.map IncaCook.claimed).all
      fun c => c.1 ≠ id && !(c.2.1 = some o && c.2.2.1 = .user u && c.2.2.2 = type) := by
    intro t
    rw [List.all_map]
    rfl
  rw [hclaims, hclaims, hsame.claimed]

/-! ## Refunds -/

/-- When Stripe's call goes through. -/
theorem createRefund_ok_iff {row : Order} {pi : PaymentIntentId} {stripe : Answer}
    (hnone : row.stripeRefundId = none) (hpi : row.stripePaymentIntentId = some pi) :
    (∃ x, createRefund o pi stripe s = .ok x) ↔ s.refundable row stripe = true := by
  simp only [Db.refundable, hnone, hpi, Option.isNone_none, Bool.true_and, Option.any_some,
    Bool.and_eq_true, List.all_eq_true, decide_eq_true_eq, Option.isNone_iff_eq_none]
  constructor
  · rintro ⟨⟨refund, s'⟩, hrun⟩
    simp only [createRefund, Stmt.bind_ok, Tx.throwIf_ok, Stmt.get_ok, Tx.orThrow_ok,
      Stmt.set_ok, Stmt.pure_ok, List.any_eq_true, decide_eq_true_eq, not_not, not_exists,
      not_and] at hrun
    obtain ⟨_, _, ⟨hok, rfl⟩, _, _, ⟨rfl, rfl⟩, _, _, ⟨hpaid, rfl⟩, _, _, ⟨hunrefunded, rfl⟩, refunds,
      _, ⟨hnew, rfl⟩, -⟩ := hrun
    exact ⟨hok, ⟨hpaid, hunrefunded⟩, (Table.insert?_eq_some.mp hnew).1⟩
  · rintro ⟨hok, ⟨hpaid, hunrefunded⟩, hnew⟩
    obtain ⟨refunds, hinsert⟩ := Table.exists_insert
      (r := (⟨⟨s.stripeNext⟩, pi, o⟩ : StripeRefund)) hnew
    refine ⟨(⟨s.stripeNext⟩, { s with refunds, stripeNext := s.stripeNext + 1 }), ?_⟩
    simp only [createRefund, Stmt.bind_ok, Tx.throwIf_ok, Stmt.get_ok, Tx.orThrow_ok,
      Stmt.set_ok, Stmt.pure_ok, List.any_eq_true, decide_eq_true_eq, not_not, not_exists, not_and]
    exact ⟨(), _, ⟨hok, rfl⟩, _, _, ⟨rfl, rfl⟩, (), _, ⟨hpaid, rfl⟩, (), _, ⟨hunrefunded, rfl⟩, refunds, _,
      ⟨hinsert, rfl⟩, (), _, rfl, rfl, rfl⟩

/-- Stripe's refund, its failure caught. -/
theorem tryRefund_exec (o : OrderId) (pi : PaymentIntentId) (w : Nat → Answer) (s : Db) :
    (tryCatch (do
      let id ← await (.createRefund o) (createRefund o pi)
      pure (some id)) fun _ => pure none : Handler (Option RefundId)).exec w s =
      match createRefund o pi (w 0) s with
      | .ok (refund, s') => ⟨.ok (some refund), s', [⟨.createRefund o, s, s'⟩]⟩
      | .error _ => ⟨.ok none, s, [⟨.createRefund o, s, s⟩]⟩ := by
  cases hrun : createRefund o pi (w 0) s with
  | ok x => exact exec_tryCatch_of_ok (exec_bind_of_ok (exec_await_ok hrun))
  | error e => exact exec_tryCatch_of_error (exec_bind_of_error (exec_await_error hrun))

/-- The record of the refund, its failure caught. -/
theorem trySaveRefund_exec (o : OrderId) (refund : RefundId) (w : Nat → Answer) (s : Db) :
    ∃ s' : Db, s'.refunds = s.refunds ∧
      (tryCatch (await (.saveRefund o) (saveRefund o refund)) fun _ => pure () : Handler Unit).exec w s =
        ⟨.ok (), s', [⟨.saveRefund o, s, s'⟩]⟩ := by
  cases hrun : saveRefund o refund (w 0) s with
  | ok x =>
    obtain ⟨u, s'⟩ := x
    exact ⟨s', by rw [saveRefund_ok hrun], exec_tryCatch_of_ok (exec_await_ok hrun)⟩
  | error e => exact ⟨s, rfl, exec_tryCatch_of_error (exec_await_error hrun)⟩

/-- A refund takes no entry and makes none available. -/
theorem refundOrderIfNeeded_credits : Free (movesContract SameCredits) (refundOrderIfNeeded o) := by
  refine refundOrderIfNeeded_of (fun _ s => .refl s) (fun pi => ?_) (fun refund => ?_) ?_
  · refine free_await (fun _ s => .refl s) fun _ _ s _ s' hrun => ?_
    obtain ⟨refunds, -, -, -, rfl⟩ := createRefund_ok hrun
    exact .of_eq rfl
  · refine free_await (fun _ s => .refl s) fun _ _ s _ s' hrun => ?_
    obtain rfl := saveRefund_ok hrun
    exact .of_eq rfl
  · refine free_await (fun _ s => .refl s) fun _ _ s _ s' hrun => ?_
    rw [updateWalletEntries_ok.mp hrun]
    exact .reverse fun e he => of_decide_eq_true (Bool.and_eq_true_iff.mp he).2

/-- What a refund leaves the books at. -/
structure RefundDone (s : Db) (o : OrderId) (refunded : Bool) (out : Outcome machine Unit) : Prop where
  result : out.result = .ok ()
  refunds : out.state.refundsOf o = s.refundsOf o + refunded.toNat
  length : if refunded then out.steps.length = 4 else out.steps.length ≤ 2

/-- **When the buyer is refunded.** -/
theorem refundOrderIfNeeded_books {row : Order} (hrow : s.orders.find? o = some row) :
    RefundDone s o (s.refundable row (w 1)) ((refundOrderIfNeeded o).exec w s) := by
  unfold refundOrderIfNeeded
  rw [exec_read_bind, hrow]
  -- a refund id on the row, or no payment intent: nothing to refund
  cases hrefund : row.stripeRefundId with
  | some refund =>
    have hno : s.refundable row (w 1) = false := by simp [Db.refundable, hrefund]
    rw [hno]
    simp only [hrefund]
    exact ⟨rfl, rfl, Nat.le_succ 1⟩
  | none =>
    cases hpi : row.stripePaymentIntentId with
    | none =>
      have hno : s.refundable row (w 1) = false := by simp [Db.refundable, hrefund, hpi]
      rw [hno]
      simp only [hrefund, hpi]
      exact ⟨rfl, rfl, Nat.le_succ 1⟩
    | some pi =>
      have hwhen : (∃ x, createRefund o pi (w 1) s = .ok x) ↔ s.refundable row (w 1) = true :=
        createRefund_ok_iff hrefund hpi
      have htry := tryRefund_exec o pi (fun m => w (m + 1)) s
      simp only [hrefund, hpi]
      cases hcreate : createRefund o pi (w 1) s with
      | error e =>
        have hno : s.refundable row (w 1) = false := by
          rw [← Bool.not_eq_true, ← hwhen]
          rintro ⟨x, hx⟩
          rw [hcreate] at hx
          cases hx
        simp only [hcreate] at htry
        rw [hno, exec_bind_of_ok htry]
        exact ⟨rfl, rfl, Nat.le_refl 2⟩
      | ok x =>
        obtain ⟨refund, s₁⟩ := x
        have hyes : s.refundable row (w 1) = true := hwhen.mp ⟨_, hcreate⟩
        simp only [hcreate] at htry
        rw [hyes, exec_bind_of_ok htry]
        obtain ⟨refunds, -, -, hnew, hs₁⟩ := createRefund_ok hcreate
        obtain ⟨s₂, hsame, hsave⟩ := trySaveRefund_exec o refund (fun m => w (m + 1 + 1)) s₁
        have hone : s₂.refundsOf o = s.refundsOf o + 1 := by
          unfold Db.refundsOf
          rw [hsame, hs₁, (Table.insert?_eq_some.mp hnew).2, List.countP_cons_of_pos (by simp)]
        simp only [List.length_singleton]
        rw [exec_bind_of_ok hsave]
        exact ⟨rfl, hone, rfl⟩

/-! ## Credits -/

/-- A credit that is booked already, or whose identifier is taken. -/
def booked (t : Table WalletEntry) (e : WalletEntry) : Bool :=
  t.rows.any fun e' => e'.id = e.id || clashes e e'

/-- A credit is a duplicate and changes nothing, or is booked. -/
theorem insertSkippingDuplicate_cases (t : Table WalletEntry) (e : WalletEntry) :
    booked t e = true ∧ insertSkippingDuplicate t e = t ∨
      booked t e = false ∧ (insertSkippingDuplicate t e).rows = e :: t.rows := by
  unfold insertSkippingDuplicate
  by_cases hclash : t.rows.any (clashes e) = true
  · rw [if_pos hclash]
    refine .inl ⟨?_, rfl⟩
    obtain ⟨e', he', hsame⟩ := List.any_eq_true.mp hclash
    exact List.any_eq_true.mpr ⟨e', he', by rw [hsame, Bool.or_true]⟩
  · rw [if_neg hclash]
    cases ht : t.insert? e with
    | none =>
      -- the identifier is taken
      refine .inl ⟨?_, rfl⟩
      by_contra hno
      have hnew : t.find? e.id = none := Table.find?_eq_none.mpr fun e' he' hid =>
        hno (List.any_eq_true.mpr ⟨e', he', Bool.or_eq_true_iff.mpr (.inl (decide_eq_true hid))⟩)
      obtain ⟨t', ht'⟩ := Table.exists_insert (r := e) hnew
      rw [ht'] at ht
      cases ht
    | some t' =>
      obtain ⟨hnew, hrows⟩ := Table.insert?_eq_some.mp ht
      refine .inr ⟨?_, hrows⟩
      rw [booked, List.any_eq_false]
      intro e' he' hsame
      rcases Bool.or_eq_true_iff.mp hsame with hid | hsame
      · exact Table.find?_eq_none.mp hnew e' he' (of_decide_eq_true hid)
      · exact hclash (List.any_eq_true.mpr ⟨e', he', hsame⟩)

/-- Whether a credit is a duplicate, read off the ledger. -/
theorem booked_eq {e : WalletEntry} (ho : e.orderId = some o) (hu : e.userId = .user u)
    (htype : e.type = type) : booked s.walletEntries e = !s.creditable e.id o u type := by
  simp only [booked, Db.creditable, List.not_all_eq_any_not]
  congr 1
  funext e'
  have hclash : clashes e e' = (e'.orderId = some o && e'.userId = .user u && e'.type = type) := by
    simp only [clashes, ho, hu, htype, Option.isSome_some, Bool.true_and]
    congr 2 <;> simp [eq_comm]
  rw [hclash]
  by_cases hid : e'.id = e.id
  · simp [hid]
  · simp [hid]

/-- **When a user is credited.** The amount is available to the user once more
exactly when the credit is no duplicate, and nothing else is. -/
theorem credit_books {e : WalletEntry} (ho : e.orderId = some o) (hu : e.userId = .user u)
    (htype : e.type = type) (hstatus : e.status = .available) :
    let s' : Db := { s with walletEntries := insertSkippingDuplicate s.walletEntries e }
    s'.availableOf o u type = s.availableOf o u type + (s.creditable e.id o u type).toNat ∧
      (∀ o' u' type', type' ≠ type → s'.availableOf o' u' type' = s.availableOf o' u' type') ∧
      ∀ id o' u' type', id ≠ e.id → type' ≠ type →
        s'.creditable id o' u' type' = s.creditable id o' u' type' := by
  intro s'
  have hwhen : booked s.walletEntries e = !s.creditable e.id o u type := booked_eq ho hu htype
  -- `skipDuplicates` either keeps the ledger as it is or puts one row on top
  rcases insertSkippingDuplicate_cases s.walletEntries e with ⟨hdup, hbooked⟩ | ⟨hdup, hbooked⟩
  · have hcan : s.creditable e.id o u type = false := by simpa [hwhen] using hdup
    have hsame : s' = s := by
      show ({ s with walletEntries := insertSkippingDuplicate s.walletEntries e } : Db) = s
      rw [hbooked]
    rw [hsame, hcan]
    exact ⟨rfl, fun _ _ _ _ => rfl, fun _ _ _ _ _ _ => rfl⟩
  · have hcan : s.creditable e.id o u type = true := by simpa [hwhen] using hdup
    rw [hcan]
    refine ⟨?_, fun o' u' type' hne => ?_, fun id o' u' type' hid hne => ?_⟩
    · simp only [Db.availableOf, s', hbooked]
      rw [List.countP_cons_of_pos (by simp [ho, hu, htype, hstatus])]
      rfl
    · simp only [Db.availableOf, s', hbooked]
      rw [List.countP_cons_of_neg (by simp [htype, hne.symm])]
    · simp only [Db.creditable, s', hbooked, List.all_cons]
      simp [htype, hne.symm, hid.symm]

end

end IncaCook
