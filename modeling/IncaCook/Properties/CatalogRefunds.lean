import IncaCook.Properties.CatalogClaims

/-!
# Retrying a catalog refund

`adminRefund` asks Stripe for the refund, marks the order and then marks the claim, in three
statements of their own. Each of them may fail, or be carried out without an answer, and the
process may die between two of them. A second call with the same arguments repeats Stripe's
refund under the same key, but it turns back at an order that is already REFUNDED.

Main results:

* `refund_retried_iff`: the second call ends with one refund, and the order and the claim
  REFUNDED, if and only if Stripe accepts the refund and the first call did not stop
  between the order and the claim.
-/

namespace IncaCook

open Prog Catalog

variable {s s₁ : CatalogDb} {claim : CatalogClaim} {row : CatalogOrder} {k : CatalogClaimId}
  {o : CatalogOrderId} {pi : PaymentIntentId} {amount : Cents} {dto : CatalogClaimRefundDto}
  {w : Nat → CatalogAnswer} {n : Nat}

/-- The order and the claim are REFUNDED, with the one refund that Stripe has for the claim,
and Stripe has no other refund that it did not have before. -/
structure RefundedOnce (k : CatalogClaimId) (o : CatalogOrderId) (s s' : CatalogDb) : Prop where
  order : s'.OrderRefunded o
  claim : ∃ r row, (s'.refunds.rows.filter fun r => r.claimId = k) = [r] ∧
    s'.claims.find? k = some row ∧ row.status = .refunded ∧ row.stripeRefundId = some r.id
  others : ∀ r ∈ s'.refunds.rows, r.claimId ≠ k → r ∈ s.refunds.rows

/-- Stripe carries the refund out, or has done so already. -/
def CatalogDb.accepts (s : CatalogDb) (k : CatalogClaimId) (pi : PaymentIntentId) (amount : Cents) : Bool :=
  match s.refunds.find? k with
  | some r => r.paymentIntent = pi && r.amount = amount
  | none => (s.payments.find? pi).any fun p => p.status = .succeeded && s.refundedCents pi + amount ≤ p.amount

/-- How far a refund has come. -/
inductive RefundStage where
  | untouched | paidBack | orderMarked | claimMarked
  deriving DecidableEq

/-- How far a call has come that dies after `n` steps, the reads of the claim and of the order
being the first two: each statement takes the answer of its step. -/
def refundStage (w : Nat → CatalogAnswer) (n : Nat) : RefundStage :=
  if ¬(3 ≤ n ∧ (w 2).ok) then .untouched
  else if ¬((w 2).heard ∧ 4 ≤ n ∧ (w 3).ok) then .paidBack
  else if ¬((w 3).heard ∧ 5 ≤ n ∧ (w 4).ok) then .orderMarked
  else .claimMarked

/-! ## A statement that may fail -/

section

variable {α β : Type} {site : CatalogSite} {stmt : CatalogTx α} {a : α} {s' : CatalogDb}
  {next : α → CatalogHandler β}

/-- It is refused, or carried out and heard of, or carried out only. -/
theorem exec_attempt (hrun : stmt s = .ok (a, s')) :
    (attempt site stmt).exec w s =
      if (w 0).ok then
        if (w 0).heard then ⟨.ok a, s', [⟨site, s, s'⟩]⟩ else ⟨.error .database, s', [⟨site, s, s'⟩]⟩
      else ⟨.error .database, s, [⟨site, s, s⟩]⟩ := by
  unfold attempt
  -- refused: the statement is not carried out
  cases hok : (w 0).ok with
  | false =>
    rw [if_neg Bool.false_ne_true, exec_bind_of_error (exec_await_error ?_)]
    rw [hok]
    rfl
  | true =>
    have hstmt : (do
        Stmt.throwIf (¬(w 0).ok) .database
        let a ← stmt
        return if (w 0).heard then some a else none : CatalogTx (Option α)) s =
          .ok (if (w 0).heard then some a else none, s') := by
      rw [hok]
      exact Stmt.bind_ok.mpr ⟨(), s, rfl, Stmt.bind_ok.mpr ⟨a, s', hrun, rfl⟩⟩
    rw [if_pos rfl, exec_bind_of_ok (exec_await_ok hstmt)]
    cases (w 0).heard with
    | false => rfl
    | true => rfl

theorem crash_attempt_bind (hrun : stmt s = .ok (a, s')) :
    (attempt site stmt >>= next).crash w n s =
      if 1 ≤ n ∧ (w 0).ok then
        if (w 0).heard then (next a).crash (fun m => w (m + 1)) (n - 1) s' else s'
      else s := by
  have hexec : (attempt site stmt).exec w s = _ := exec_attempt hrun
  cases n with
  | zero =>
    rw [if_neg (by omega)]
    exact crash_zero
  | succ n =>
    by_cases hok : (w 0).ok = true
    · rw [if_pos hok] at hexec
      rw [if_pos ⟨Nat.le_add_left .., hok⟩]
      -- an answer that is not heard of ends the call like a failure, after the write
      by_cases hheard : (w 0).heard = true
      · rw [if_pos hheard] at hexec
        rw [if_pos hheard]
        exact crash_bind_of_exec hexec (Nat.le_add_left ..)
      · rw [if_neg hheard] at hexec
        rw [if_neg hheard]
        exact crash_bind_of_error hexec (Nat.le_add_left ..)
    · rw [if_neg hok] at hexec
      rw [if_neg fun h => hok h.2]
      exact crash_bind_of_error hexec (Nat.le_add_left ..)

theorem crash_attempt_bind_error {e : Err} (hrun : stmt s = .error e) :
    (attempt site stmt >>= next).crash w n s = s := by
  cases n with
  | zero => exact crash_zero
  | succ n =>
    have hexec : ∃ e', (attempt site stmt).exec w s = ⟨.error e', s, [⟨site, s, s⟩]⟩ := by
      unfold attempt
      cases hok : (w 0).ok with
      | false =>
        refine ⟨.database, exec_bind_of_error (exec_await_error ?_)⟩
        rw [hok]
        rfl
      | true =>
        refine ⟨e, exec_bind_of_error (exec_await_error ?_)⟩
        rw [hok]
        show (stmt >>= fun a => pure (if (w 0).heard then some a else none) : CatalogTx (Option α)) s = _
        exact Stmt.bind_error hrun
    obtain ⟨e', hexec⟩ := hexec
    exact crash_bind_of_error hexec (Nat.le_add_left ..)

end

/-! ## Where a call stops -/

/-- Stripe has given the amount back, once. -/
structure PaidBack (s : CatalogDb) (k : CatalogClaimId) (pi : PaymentIntentId) (amount : Cents)
    (refund : RefundId) (s₁ : CatalogDb) : Prop where
  found : s₁.refunds.find? k = some ⟨refund, k, pi, amount⟩
  others : ∀ r ∈ s₁.refunds.rows, r.claimId ≠ k → r ∈ s.refunds.rows
  orders : s₁.orders = s.orders
  claims : s₁.claims = s.claims
  now : s₁.now = s.now

/-- Stripe executes a refund exactly when it accepts it. -/
theorem createRefund_accepted (h : s.accepts k pi amount = true) :
    ∃ refund s₁, createRefund k pi amount s = .ok (refund, s₁) ∧ PaidBack s k pi amount refund s₁ := by
  unfold CatalogDb.accepts at h
  -- a repeated key returns the first refund, a new one executes it
  cases hr : s.refunds.find? k with
  | some r =>
    rw [hr] at h
    simp only [Bool.and_eq_true, decide_eq_true_eq] at h
    obtain ⟨rfl, rfl⟩ := h
    obtain rfl : r.claimId = k := Table.key_of_find? hr
    have hrun : createRefund r.claimId r.paymentIntent r.amount s = .ok (r.id, s) := by
      refine Stmt.bind_ok.mpr ⟨s, s, Stmt.get_ok.mpr ⟨rfl, rfl⟩, ?_⟩
      rw [hr]
      exact Stmt.bind_ok.mpr ⟨(), s, Stmt.throwIf_ok.mpr ⟨by simp, rfl⟩, rfl⟩
    exact ⟨r.id, s, hrun, hr, fun r' hr' _ => hr', rfl, rfl, rfl⟩
  | none =>
    rw [hr] at h
    have hfresh : s.refunds.find? (Keyed.key (⟨⟨s.stripeNext⟩, k, pi, amount⟩ : CatalogRefund)) = none := hr
    obtain ⟨refunds, hnew⟩ := Table.exists_insert hfresh
    have hrun : createRefund k pi amount s =
        .ok (⟨s.stripeNext⟩, { s with refunds, stripeNext := s.stripeNext + 1 }) := by
      refine Stmt.bind_ok.mpr ⟨s, s, Stmt.get_ok.mpr ⟨rfl, rfl⟩, ?_⟩
      rw [hr]
      refine Stmt.bind_ok.mpr ⟨(), s, Stmt.throwIf_ok.mpr ⟨not_not.mpr h, rfl⟩, ?_⟩
      exact Stmt.bind_ok.mpr ⟨refunds, s, Stmt.orThrow_ok.mpr ⟨hnew, rfl⟩, rfl⟩
    refine ⟨_, _, hrun, ?_, fun r' hr' hne => ?_, rfl, rfl, rfl⟩
    · show refunds.find? k = _
      rw [Table.find?_insert hnew]
      exact if_pos rfl
    · rcases (Table.mem_insert hnew).mp hr' with rfl | hr'
      · exact absurd rfl hne
      · exact hr'

theorem createRefund_refused (h : s.accepts k pi amount = false) : ∃ e, createRefund k pi amount s = .error e := by
  -- whatever goes through has been accepted
  cases hrun : createRefund k pi amount s with
  | error e => exact ⟨e, rfl⟩
  | ok result =>
    obtain ⟨refund, s₁⟩ := result
    refine absurd ?_ (Bool.eq_false_iff.mp h)
    simp only [createRefund, Stmt.bind_ok, Stmt.get_ok] at hrun
    obtain ⟨_, db, ⟨rfl, rfl⟩, hrun⟩ := hrun
    unfold CatalogDb.accepts
    cases hr : db.refunds.find? k with
    | some r =>
      simp only [hr, Stmt.bind_ok, Stmt.throwIf_ok] at hrun
      obtain ⟨_, _, ⟨hsame, -⟩, -⟩ := hrun
      simpa [not_or] using hsame
    | none =>
      simp only [hr, Stmt.bind_ok, Stmt.throwIf_ok] at hrun
      obtain ⟨_, _, ⟨hany, -⟩, -⟩ := hrun
      exact not_not.mp hany

/-- The order once it is marked. -/
def markOrderRefunded (refund : RefundId) (o : CatalogOrder) : CatalogOrder :=
  { o with status := .refunded, stripeRefundId := some refund }

/-- What a call leaves that has come so far; `s₁` is the state that Stripe leaves. -/
def RefundStage.state (s s₁ : CatalogDb) (claim : CatalogClaim) (row : CatalogOrder) (amount : Cents)
    (dto : CatalogClaimRefundDto) (refund : RefundId) : RefundStage → CatalogDb
  | .untouched => s
  | .paidBack => s₁
  | .orderMarked => { s₁ with orders := s₁.orders.update row.id (markOrderRefunded refund) }
  | .claimMarked => { s₁ with
    orders := s₁.orders.update row.id (markOrderRefunded refund)
    claims := s₁.claims.update claim.id (refundedClaim claim dto amount refund s₁.now) }

/-- The push at the end changes nothing. -/
theorem notify_crash {title : String} {status : CatalogClaimStatus} {updated : CatalogClaim} :
    (notifyDecision claim title status >>= fun _ => pure updated).crash w n s = s := by
  refine crash_bind_pure.trans ?_
  cases n with
  | zero => rfl
  | succ n => rfl

/-- The three statements of a refund that Stripe accepts. -/
theorem refundPayment_crash {refund : RefundId} (hrow : s.orders.find? row.id = some row)
    (hclaim : s.claims.find? claim.id = some claim)
    (hrun : createRefund claim.id pi amount s = .ok (refund, s₁))
    (hback : PaidBack s claim.id pi amount refund s₁) :
    (refundPayment claim row.id pi amount dto).crash (fun m => w (m + 2)) (n - 2) s =
      (refundStage w n).state s s₁ claim row amount dto refund := by
  have hmark : updateCatalogOrder row.id (markOrderRefunded refund) (fun _ => rfl) s₁ =
      .ok ((), RefundStage.orderMarked.state s s₁ claim row amount dto refund) :=
    updateCatalogOrder_ok.mpr ⟨⟨row, hback.orders ▸ hrow⟩, rfl⟩
  have hwrite : (do
      let db ← get
      updateCatalogClaim claim.id (refundedClaim claim dto amount refund db.now) : CatalogTx CatalogClaim)
        (RefundStage.orderMarked.state s s₁ claim row amount dto refund) =
        .ok (refundedClaim claim dto amount refund s₁.now claim,
          RefundStage.claimMarked.state s s₁ claim row amount dto refund) :=
    Stmt.bind_ok.mpr ⟨_, _, Stmt.get_ok.mpr ⟨rfl, rfl⟩,
      updateCatalogClaim_ok.mpr ⟨⟨claim, hback.claims ▸ hclaim, rfl⟩, rfl⟩⟩
  unfold refundPayment refundStage
  rw [crash_attempt_bind hrun]
  -- Stripe
  by_cases hfirst : 3 ≤ n ∧ (w 2).ok = true
  swap
  · rw [if_neg (fun h => hfirst ⟨by omega, h.2⟩), if_pos hfirst]
    rfl
  rw [if_pos ⟨by omega, hfirst.2⟩, if_neg (not_not.mpr hfirst)]
  by_cases hheard : (w 2).heard = true
  swap
  · rw [if_neg hheard, if_pos (fun h => hheard h.1)]
    rfl
  rw [if_pos hheard]
  refine (crash_attempt_bind hmark).trans ?_
  -- the order
  by_cases hsecond : 4 ≤ n ∧ (w 3).ok = true
  swap
  · rw [if_neg (fun h => hsecond ⟨by omega, h.2⟩), if_pos (fun h => hsecond h.2)]
    rfl
  rw [if_pos ⟨by omega, hsecond.2⟩, if_neg (not_not.mpr ⟨hheard, hsecond⟩)]
  by_cases hheard' : (w 3).heard = true
  swap
  · rw [if_neg hheard', if_pos (fun h => hheard' h.1)]
  rw [if_pos hheard', crash_attempt_bind hwrite]
  -- the claim
  by_cases hthird : 5 ≤ n ∧ (w 4).ok = true
  swap
  · rw [if_neg (fun h => hthird ⟨by omega, h.2⟩), if_pos (fun h => hthird h.2)]
  rw [if_pos ⟨by omega, hthird.2⟩, if_neg (not_not.mpr ⟨hheard', hthird⟩)]
  split
  · exact notify_crash
  · rfl

theorem adminRefund_refunded (hclaim : s.claims.find? k = some claim) (h : claim.isRefunded) :
    (adminRefund k dto).crash w n s = s := by
  cases n with
  | zero => exact crash_zero
  | succ n =>
    unfold adminRefund getClaimOrThrow
    rw [bind_assoc, crash_read_bind, hclaim, crash_orThrow_bind]
    exact (congrArg (fun p : CatalogHandler CatalogClaim => p.crash (fun m => w (m + 1)) n s)
      (if_pos h)).trans crash_pure

/-- The claim once its refund is left to a person. -/
def reviewedClaim (claim : CatalogClaim) (dto : CatalogClaimRefundDto) (amountCents : Cents)
    (k : CatalogClaim) : CatalogClaim :=
  { k with
    status := .adminReview
    refundAmountCents := some amountCents
    adminNotes := some (appendNote claim.adminNotes dto.notes "REFUND_PENDING (manuel)") }

/-- What a call does once it has read the claim and the order. -/
def refundOrReview (claim : CatalogClaim) (row : CatalogOrder) (dto : CatalogClaimRefundDto) :
    CatalogHandler CatalogClaim :=
  let amountCents := dto.refundAmountCents.getD row.totalCents
  match row.stripePaymentIntentId with
  | none => attempt (.updateClaim claim.id .adminReview)
    (updateCatalogClaim claim.id (reviewedClaim claim dto amountCents))
  | some pi => refundPayment claim row.id pi amountCents dto

theorem adminRefund_crash (hclaim : s.claims.find? claim.id = some claim)
    (hrow : s.orders.find? claim.catalogOrderId = some row) (hopen : ¬claim.isRefunded) :
    (adminRefund claim.id dto).crash w n s =
      if row.status = .refunded then s
      else (refundOrReview claim row dto).crash (fun m => w (m + 2)) (n - 2) s := by
  unfold adminRefund getClaimOrThrow
  -- dead before the claim is read, before the order is read, or later
  cases n with
  | zero => rw [crash_zero, crash_zero, ite_self]
  | succ n =>
    rw [bind_assoc, crash_read_bind, hclaim, crash_orThrow_bind]
    refine (congrArg (fun p : CatalogHandler CatalogClaim => p.crash (fun m => w (m + 1)) n s)
      (if_neg hopen)).trans ?_
    cases n with
    | zero => rw [crash_zero, crash_zero, ite_self]
    | succ n =>
      rw [crash_read_bind, hrow, crash_orThrow_bind]
      by_cases hstatus : row.status = .refunded
      · have herror : (throwIf (row.status = .refunded)
            (.badRequest "Cette commande a déjà été remboursée") : CatalogHandler Unit).exec
            (fun m => w (m + 1 + 1)) s =
              ⟨.error (.badRequest "Cette commande a déjà été remboursée"), s, []⟩ := by
          unfold throwIf
          rw [if_pos hstatus]
          rfl
        rw [if_pos hstatus]
        exact crash_bind_of_error herror (Nat.zero_le _)
      · rw [if_neg hstatus, crash_throwIf_bind hstatus]
        rfl

/-! ## The first call and the second -/

/-- An order without a PaymentIntent is left to a person. -/
theorem adminRefund_noIntent (dto : CatalogClaimRefundDto) (hclaim : s.claims.find? claim.id = some claim)
    (hrow : s.orders.find? claim.catalogOrderId = some row) (hpi : row.stripePaymentIntentId = none) :
    ((adminRefund claim.id dto).crash w n s).orders = s.orders ∧
      ∃ claim', ((adminRefund claim.id dto).crash w n s).claims.find? claim.id = some claim' ∧
        claim'.catalogOrderId = claim.catalogOrderId := by
  have hsame : s.orders = s.orders ∧ ∃ claim', s.claims.find? claim.id = some claim' ∧
      claim'.catalogOrderId = claim.catalogOrderId := ⟨rfl, claim, hclaim, rfl⟩
  -- refused at once, stopped before the write, or left for review
  by_cases hopen : claim.isRefunded
  · rwa [adminRefund_refunded hclaim hopen]
  rw [adminRefund_crash hclaim hrow hopen]
  split
  · exact hsame
  unfold refundOrReview
  rw [hpi]
  dsimp only
  rw [← bind_pure (attempt _ _), crash_attempt_bind (updateCatalogClaim_ok.mpr ⟨⟨claim, hclaim, rfl⟩, rfl⟩)]
  have hreviewed := Table.find?_update_of_eq
    (f := reviewedClaim claim dto (dto.refundAmountCents.getD row.totalCents)) hclaim fun _ => rfl
  split
  · split
    · rw [crash_pure]
      exact ⟨rfl, _, hreviewed, rfl⟩
    · exact ⟨rfl, _, hreviewed, rfl⟩
  · exact hsame

/-- A refund that Stripe refuses changes nothing. -/
theorem adminRefund_refused (hclaim : s.claims.find? claim.id = some claim)
    (hrow : s.orders.find? claim.catalogOrderId = some row) (hopen : ¬claim.isRefunded)
    (hpi : row.stripePaymentIntentId = some pi)
    (hrefused : s.accepts claim.id pi (dto.refundAmountCents.getD row.totalCents) = false) :
    (adminRefund claim.id dto).crash w n s = s := by
  obtain ⟨e, hrun⟩ := createRefund_refused hrefused
  rw [adminRefund_crash hclaim hrow hopen]
  split
  · rfl
  · unfold refundOrReview
    rw [hpi]
    exact crash_attempt_bind_error hrun

/-- A refund that Stripe accepts comes as far as its answers let it. -/
theorem adminRefund_stage (dto : CatalogClaimRefundDto) (hclaim : s.claims.find? claim.id = some claim)
    (hrow : s.orders.find? claim.catalogOrderId = some row) (hpaid : row.status = .paid)
    (hopen : ¬claim.isRefunded) (hpi : row.stripePaymentIntentId = some pi)
    (haccepts : s.accepts claim.id pi (dto.refundAmountCents.getD row.totalCents) = true) :
    ∃ refund s₁, PaidBack s claim.id pi (dto.refundAmountCents.getD row.totalCents) refund s₁ ∧
      ∀ w n, (adminRefund claim.id dto).crash w n s =
        (refundStage w n).state s s₁ claim row (dto.refundAmountCents.getD row.totalCents) dto refund := by
  obtain ⟨refund, s₁, hrun, hback⟩ := createRefund_accepted haccepts
  refine ⟨refund, s₁, hback, fun w n => ?_⟩
  have hid : row.id = claim.catalogOrderId := Table.key_of_find? hrow
  rw [adminRefund_crash hclaim hrow hopen, if_neg (by rw [hpaid]; exact CatalogOrderStatus.noConfusion)]
  unfold refundOrReview
  rw [hpi]
  exact refundPayment_crash (hid.symm ▸ hrow) hclaim hrun hback

/-- The last stage is what a refund is for. -/
theorem RefundStage.refundedOnce (dto : CatalogClaimRefundDto) {refund : RefundId} (hclaim : s.claims.find? claim.id = some claim)
    (hrow : s.orders.find? row.id = some row) (hback : PaidBack s claim.id pi amount refund s₁) :
    RefundedOnce claim.id row.id s (RefundStage.claimMarked.state s s₁ claim row amount dto refund) := by
  refine ⟨⟨markOrderRefunded refund row, ?_, rfl⟩, ⟨⟨refund, claim.id, pi, amount⟩,
    refundedClaim claim dto amount refund s₁.now claim, ?_, ?_, rfl, rfl⟩, hback.others⟩
  · exact Table.find?_update_of_eq (f := markOrderRefunded refund) (hback.orders ▸ hrow) fun _ => rfl
  · have hfilter := Table.filter_key s₁.refunds claim.id fun _ => true
    simp only [Bool.and_true, hback.found, Option.filter_some, if_true, Option.toList_some] at hfilter
    exact hfilter
  · exact Table.find?_update_of_eq (f := refundedClaim claim dto amount refund s₁.now)
      (hback.claims ▸ hclaim) fun _ => rfl

/-- Every statement of the second call is carried out and heard of. -/
def GoesThrough (w : Nat → CatalogAnswer) : Prop := ∀ i, (w i).ok = true ∧ (w i).heard = true

theorem GoesThrough.stage (h : GoesThrough w) (hn : 5 ≤ n) : refundStage w n = .claimMarked := by
  unfold refundStage
  rw [if_neg (not_not.mpr ⟨by omega, (h 2).1⟩), if_neg (not_not.mpr ⟨(h 2).2, by omega, (h 3).1⟩),
    if_neg (not_not.mpr ⟨(h 3).2, hn, (h 4).1⟩)]

/-- As long as the order is PAID, the refund is not done. -/
theorem not_refundedOnce {s' : CatalogDb} (hrow : s'.orders.find? o = some row) (hpaid : row.status = .paid) :
    ¬RefundedOnce k o s s' := by
  rintro ⟨⟨row', hrow', hrefunded⟩, -, -⟩
  rw [hrow] at hrow'
  cases hrow'
  rw [hpaid] at hrefunded
  cases hrefunded

/-- The second call makes up for every stage but one. -/
theorem retry_stage {refund : RefundId} {stage : RefundStage} {w' : Nat → CatalogAnswer} {n' : Nat}
    (hclaim : s.claims.find? claim.id = some claim)
    (hrow : s.orders.find? claim.catalogOrderId = some row) (hpaid : row.status = .paid)
    (hopen : ¬claim.isRefunded) (hpi : row.stripePaymentIntentId = some pi)
    (haccepts : s.accepts claim.id pi (dto.refundAmountCents.getD row.totalCents) = true)
    (hback : PaidBack s claim.id pi (dto.refundAmountCents.getD row.totalCents) refund s₁)
    (ms : Nat) (hw : GoesThrough w') (hn' : 5 ≤ n') :
    RefundedOnce claim.id row.id s ((adminRefund claim.id dto).crash w' n' (applyCatalogEvent (.wait ms)
        (stage.state s s₁ claim row (dto.refundAmountCents.getD row.totalCents) dto refund))) ↔
      stage ≠ .orderMarked := by
  have hid : row.id = claim.catalogOrderId := Table.key_of_find? hrow
  -- a call that is carried out whole
  have hwhole : ∀ s' : CatalogDb, s'.claims = s.claims → s'.orders = s.orders →
      s'.accepts claim.id pi (dto.refundAmountCents.getD row.totalCents) = true →
      RefundedOnce claim.id row.id s' ((adminRefund claim.id dto).crash w' n' s') := by
    intro s' hclaims horders haccepts'
    obtain ⟨refund', s₁', hback', hstage'⟩ :=
      adminRefund_stage (s := s') dto (hclaims ▸ hclaim) (horders ▸ hrow) hpaid hopen hpi haccepts'
    rw [hstage', hw.stage hn']
    exact RefundStage.refundedOnce dto (hclaims ▸ hclaim) (horders ▸ hid ▸ hrow) hback'
  cases stage with
  | untouched =>
    obtain ⟨horder, hmarked, hothers⟩ := hwhole (applyCatalogEvent (.wait ms) s) rfl rfl haccepts
    exact iff_of_true ⟨horder, hmarked, hothers⟩ RefundStage.noConfusion
  | paidBack =>
    -- Stripe answers with the refund it has
    have hused : (applyCatalogEvent (.wait ms) s₁).accepts claim.id pi
        (dto.refundAmountCents.getD row.totalCents) = true := by
      unfold CatalogDb.accepts
      rw [show (applyCatalogEvent (.wait ms) s₁).refunds.find? claim.id = _ from hback.found]
      simp
    obtain ⟨horder, hmarked, hothers⟩ :=
      hwhole (applyCatalogEvent (.wait ms) s₁) hback.claims hback.orders hused
    exact iff_of_true ⟨horder, hmarked, fun r hr hne => hback.others r (hothers r hr hne) hne⟩
      RefundStage.noConfusion
  | orderMarked =>
    -- the order is REFUNDED: the call is refused, and the claim stays as it is
    have hmarked : (s₁.orders.update row.id (markOrderRefunded refund)).find? claim.catalogOrderId =
        some (markOrderRefunded refund row) := by
      rw [← hid]
      exact Table.find?_update_of_eq (f := markOrderRefunded refund) (hback.orders ▸ hid ▸ hrow) fun _ => rfl
    have hfound : s₁.claims.find? claim.id = some claim := hback.claims ▸ hclaim
    rw [adminRefund_crash (s := applyCatalogEvent (.wait ms) (RefundStage.orderMarked.state s s₁ claim row
      (dto.refundAmountCents.getD row.totalCents) dto refund)) hfound hmarked hopen,
      if_pos (show (markOrderRefunded refund row).status = .refunded from rfl)]
    refine iff_of_false ?_ fun h => h rfl
    rintro ⟨-, ⟨r, row', -, hrow', hstatus, -⟩, -⟩
    have hrow' : s₁.claims.find? claim.id = some row' := hrow'
    rw [hfound] at hrow'
    cases hrow'
    exact hopen (.inl hstatus)
  | claimMarked =>
    -- the claim is REFUNDED: there is nothing left to do
    obtain ⟨horder, hmarked, hothers⟩ := RefundStage.refundedOnce dto hclaim (hid ▸ hrow) hback
    have hfound := Table.find?_update_of_eq (f := refundedClaim claim dto
      (dto.refundAmountCents.getD row.totalCents) refund s₁.now) (hback.claims ▸ hclaim) fun _ => rfl
    rw [adminRefund_refunded (s := applyCatalogEvent (.wait ms) (RefundStage.claimMarked.state s s₁ claim row
      (dto.refundAmountCents.getD row.totalCents) dto refund)) hfound (.inl rfl)]
    exact iff_of_true ⟨horder, hmarked, hothers⟩ RefundStage.noConfusion

/-- **When a refund is retried safely.** For every claim on a PAID order, and wherever the first
call stops, whether a statement fails, goes unheard or the process dies, the second call ends
with one Stripe refund and the order and the claim REFUNDED if and only if the claim is not
refunded already, Stripe accepts the refund of the order's payment, and the first call did not
stop with the order marked and the claim not. -/
theorem refund_retried_iff {db : CatalogDb} {claim : CatalogClaim} {row : CatalogOrder}
    (hclaim : db.claims.find? claim.id = some claim)
    (hrow : db.orders.find? claim.catalogOrderId = some row) (hpaid : row.status = .paid)
    (dto : CatalogClaimRefundDto) (w w' : Nat → CatalogAnswer) (n ms : Nat) (hw : GoesThrough w') :
    RefundedOnce claim.id row.id db ((adminRefund claim.id dto).exec w'
        (applyCatalogEvent (.wait ms) ((adminRefund claim.id dto).crash w n db))).state ↔
      (¬claim.isRefunded ∧ ∃ pi, row.stripePaymentIntentId = some pi ∧
        db.accepts claim.id pi (dto.refundAmountCents.getD row.totalCents) = true) ∧
      refundStage w n ≠ .orderMarked := by
  have hid : row.id = claim.catalogOrderId := Table.key_of_find? hrow
  -- the second call, as a run that dies after its last step
  have hwhole : ∀ s : CatalogDb, ∃ n, 5 ≤ n ∧ ((adminRefund claim.id dto).exec w' s).state =
      (adminRefund claim.id dto).crash w' n s := fun s =>
    ⟨_, Nat.le_max_left 5 ((adminRefund claim.id dto).length w' s),
      (crash_of_length_le (Nat.le_max_right ..)).symm⟩
  generalize hfirst : (adminRefund claim.id dto).crash w n db = first
  obtain ⟨n', hn', hsecond⟩ := hwhole (applyCatalogEvent (.wait ms) first)
  rw [hsecond]
  by_cases hopen : claim.isRefunded
  · -- the claim is refunded already: nothing is done
    rw [adminRefund_refunded hclaim hopen] at hfirst
    subst hfirst
    rw [adminRefund_refunded (s := applyCatalogEvent (.wait ms) db) hclaim hopen]
    exact iff_of_false (not_refundedOnce (hid ▸ hrow) hpaid) fun h => h.1.1 hopen
  cases hpi : row.stripePaymentIntentId with
  | none =>
    -- a person decides: the order stays PAID
    obtain ⟨horders, claim', hclaim', hsame⟩ :=
      adminRefund_noIntent (w := w) (n := n) dto hclaim hrow hpi
    rw [hfirst] at horders hclaim'
    have hid' : claim'.id = claim.id := Table.key_of_find? hclaim'
    have hrow' : first.orders.find? claim'.catalogOrderId = some row := by rw [horders, hsame, hrow]
    obtain ⟨horders', -⟩ := adminRefund_noIntent (s := applyCatalogEvent (.wait ms) first) (w := w')
      (n := n') dto (hid'.symm ▸ hclaim') hrow' hpi
    refine iff_of_false (not_refundedOnce ?_ hpaid) fun h => ?_
    · rw [← hid', horders', hid, ← hsame]
      exact hrow'
    · obtain ⟨pi, hpi', -⟩ := h.1.2
      cases hpi'
  | some pi =>
    by_cases haccepts : db.accepts claim.id pi (dto.refundAmountCents.getD row.totalCents) = true
    swap
    · -- Stripe refuses: nothing is done
      have hrefused := Bool.eq_false_iff.mpr haccepts
      rw [adminRefund_refused hclaim hrow hopen hpi hrefused] at hfirst
      subst hfirst
      rw [adminRefund_refused (s := applyCatalogEvent (.wait ms) db) hclaim hrow hopen hpi hrefused]
      refine iff_of_false (not_refundedOnce (hid ▸ hrow) hpaid) fun h => ?_
      obtain ⟨pi', hpi', haccepts'⟩ := h.1.2
      cases hpi'
      exact haccepts haccepts'
    · obtain ⟨refund, s₁, hback, hstage⟩ := adminRefund_stage dto hclaim hrow hpaid hopen hpi haccepts
      rw [hstage] at hfirst
      subst hfirst
      rw [retry_stage hclaim hrow hpaid hopen hpi haccepts hback ms hw hn']
      exact (and_iff_right ⟨hopen, pi, rfl, haccepts⟩).symm

/-! ## A run -/

/-- The order is paid and a claim on it is open. -/
def claimedTown : CatalogDb := (serialRun catalogTown (productBought ++
  [.event (.payment (.stripe 1) .succeeded), catalogTownCall (.confirmPayment "seller" ⟨0, 0⟩),
    catalogTownCall (.createClaim "seller" ⟨0, 0⟩ ⟨.defective, "cassé", none⟩)])).state

def allHeard : Nat → CatalogAnswer := fun _ => ⟨true, true, ""⟩

/-- Stripe's answer is lost, and the refund is retried. -/
theorem lost_answer_retried : ∃ (claim : CatalogClaim) (row : CatalogOrder),
    claimedTown.claims.find? ⟨2, 0⟩ = some claim ∧
    RefundedOnce claim.id row.id claimedTown ((adminRefund claim.id ⟨none, none⟩).exec allHeard
      (applyCatalogEvent (.wait 1000) ((adminRefund claim.id ⟨none, none⟩).crash
        (fun _ => ⟨true, false, ""⟩) 9 claimedTown))).state :=
  ⟨(claimedTown.claims.find? ⟨2, 0⟩).get (by decide +kernel),
    (claimedTown.orders.find? ⟨0, 0⟩).get (by decide +kernel), (Option.some_get _).symm,
    (refund_retried_iff (by decide +kernel) (by decide +kernel) (by decide +kernel) ⟨none, none⟩ _ allHeard
      9 1000 fun _ => ⟨rfl, rfl⟩).mpr
      ⟨⟨by unfold CatalogClaim.isRefunded; decide +kernel, .stripe 1, by decide +kernel,
        by decide +kernel⟩, by decide⟩⟩

/-- **A refund that cannot be retried.** The process dies once the order is marked: the second
call is refused, and the claim is never REFUNDED. -/
theorem half_refund_stuck : claimedTown.statusOf ⟨0, 0⟩ = some .paid ∧
    ¬RefundedOnce ⟨2, 0⟩ ⟨0, 0⟩ claimedTown ((adminRefund ⟨2, 0⟩ ⟨none, none⟩).exec allHeard
      ((adminRefund ⟨2, 0⟩ ⟨none, none⟩).crash allHeard 4 claimedTown)).state := by
  refine ⟨by decide +kernel, ?_⟩
  rintro ⟨-, ⟨r, row, -, hrow, hstatus, -⟩, -⟩
  have hopen : ((((adminRefund ⟨2, 0⟩ ⟨none, none⟩).exec allHeard
      ((adminRefund ⟨2, 0⟩ ⟨none, none⟩).crash allHeard 4 claimedTown)).state : CatalogDb).refundOf ⟨2, 0⟩) =
      some (.open, none, none) := by
    decide +kernel
  rw [CatalogDb.refundOf, hrow, Option.map_some, hstatus] at hopen
  cases hopen

end IncaCook
