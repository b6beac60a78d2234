import IncaCook.Properties.CatalogOrders

/-!
# Claim statuses and refunds

An admin may refund a claim, ask for a replacement, reject it or resolve it. A refund writes
the status REFUNDED and the Stripe refund's id in one statement, and a refunded claim is not
refunded again. The three other decisions write their status over whatever is there.

Main results:

* `claim_refunds_agree_iff`: a claim is REFUNDED exactly when it has a refund's id, and stays
  as it was refunded, if and only if none of the three other decisions is taken on it while
  it is REFUNDED.
-/

namespace IncaCook

open Prog Catalog

variable {s s' start : CatalogDb} {c : CatalogCall} {k : CatalogClaimId}

/-! ## What a refunded claim keeps -/

def CatalogDb.ClaimRefunded (k : CatalogClaimId) (db : CatalogDb) : Prop :=
  ∃ row, db.claims.find? k = some row ∧ row.status = .refunded

/-- The claim is REFUNDED exactly when it has a refund's id. -/
def CatalogDb.RefundLinked (k : CatalogClaimId) (db : CatalogDb) : Prop :=
  ∀ row, db.claims.find? k = some row → (row.status = .refunded ↔ row.stripeRefundId.isSome)

/-- The status, the refunded amount and the refund's id of a claim. -/
def CatalogDb.refundOf (db : CatalogDb) (k : CatalogClaimId) :
    Option (CatalogClaimStatus × Option Cents × Option RefundId) :=
  (db.claims.find? k).map fun row => (row.status, row.refundAmountCents, row.stripeRefundId)

def SameRefund (k : CatalogClaimId) (s s' : CatalogDb) : Prop := s'.refundOf k = s.refundOf k

theorem CatalogDb.claimRefunded_iff {db : CatalogDb} :
    db.ClaimRefunded k ↔ ∃ refund, db.refundOf k = some (.refunded, refund) := by
  unfold ClaimRefunded refundOf
  constructor
  · rintro ⟨row, hrow, hstatus⟩
    exact ⟨_, by rw [hrow, Option.map_some, hstatus]⟩
  · rintro ⟨refund, hrefund⟩
    obtain ⟨row, hrow, heq⟩ := Option.map_eq_some_iff.mp hrefund
    exact ⟨row, hrow, congrArg Prod.fst heq⟩

theorem SameRefund.refunded (h : SameRefund k s s') (hs : s.ClaimRefunded k) : s'.ClaimRefunded k := by
  rw [CatalogDb.claimRefunded_iff] at hs ⊢
  rwa [h]

/-! ## Step by step -/

theorem RefundChecked.not_refunded {claim : CatalogClaim} {row : CatalogOrder}
    (h : RefundChecked start claim row) (hstart : start.ClaimRefunded k) : claim.id ≠ k := by
  rintro rfl
  obtain ⟨row', hrow', hstatus⟩ := hstart
  rw [h.claim_found] at hrow'
  cases hrow'
  exact h.claim_open (.inl hstatus)

theorem SameRefund.of_other {id : CatalogClaimId} {f : CatalogClaim → CatalogClaim}
    {hf : ∀ k, (f k).id = k.id} (hid : id ≠ k) :
    SameRefund k s { s with claims := s.claims.update id f hf } := by
  show ((s.claims.update id f hf).find? k).map _ = _
  rw [Table.find?_update_of_ne _ f hf (Ne.symm hid)]
  rfl

/-- A refunded claim keeps its refund in all steps of a call that takes no other decision. -/
theorem CatalogStep.sameRefund {site : CatalogSite} (hstep : CatalogStep c start site s s')
    (hstart : start.ClaimRefunded k) (hnot : c.overwrites k = false) (hs : s.ClaimRefunded k) :
    SameRefund k s s' := by
  cases hstep with
  | aside horders hclaims hrefunds =>
    unfold SameRefund CatalogDb.refundOf
    rw [hclaims]
  | createsOrder new hnew => rfl
  | savesPayment o pi => rfl
  | confirms sub o => rfl
  | marksPaid o pi => rfl
  | marksFailed o => rfl
  | createsClaim new hnew =>
    obtain ⟨row, hrow, -⟩ := hs
    show ((_ : Table CatalogClaim).find? k).map _ = (s.claims.find? k).map _
    rw [Table.find?_insert_of_some hnew hrow, hrow]
  | createsRefund r => rfl
  | refundsOrder refund hchecked => rfl
  -- adminRefund itself looks at the status before it writes
  | refundsClaim dto amount refund hchecked hclaims => exact .of_other (hchecked.not_refunded hstart)
  | reviewsClaim hchecked hclaims hnoRefund => exact .of_other (hchecked.not_refunded hstart)
  | decides id status hcall hclaims hnoRefund =>
    refine .of_other ?_
    rintro rfl
    rw [hnot] at hcall
    cases hcall

/-- What an update makes of the link. -/
theorem CatalogDb.RefundLinked.update {id : CatalogClaimId} {f : CatalogClaim → CatalogClaim}
    {hf : ∀ k, (f k).id = k.id} (h : s.RefundLinked k)
    (hrow : id = k → ∀ row, s.claims.find? k = some row →
      ((f row).status = .refunded ↔ (f row).stripeRefundId.isSome)) :
    ({ s with claims := s.claims.update id f hf } : CatalogDb).RefundLinked k := by
  intro row hfound
  have hfound : (s.claims.update id f hf).find? k = some row := hfound
  rw [Table.find?_update] at hfound
  split at hfound
  · rename_i heq
    obtain ⟨row₀, hrow₀, rfl⟩ := Option.map_eq_some_iff.mp hfound
    exact hrow heq.symm row₀ hrow₀
  · exact h row hfound

/-- A decision on a claim that is not refunded makes it neither REFUNDED nor gives it an id. -/
theorem NoRefund.linked {f : CatalogClaim → CatalogClaim} (h : NoRefund f) {row : CatalogClaim}
    (hrow : row.stripeRefundId = none) : (f row).status = .refunded ↔ (f row).stripeRefundId.isSome := by
  rw [h.stripeRefundId, hrow]
  exact iff_of_false (h.status row) Bool.false_ne_true

theorem CatalogStep.refundLinked {site : CatalogSite} (hstep : CatalogStep c start site s s')
    (hstart : start.RefundLinked k) (hnot : ¬(start.ClaimRefunded k ∧ c.overwrites k = true))
    (h : s.RefundLinked k) : s'.RefundLinked k := by
  cases hstep with
  | aside horders hclaims hrefunds =>
    unfold CatalogDb.RefundLinked
    rwa [hclaims]
  | createsOrder new hnew => exact h
  | savesPayment o pi => exact h
  | confirms sub o => exact h
  | marksPaid o pi => exact h
  | marksFailed o => exact h
  | createsClaim new hnew hstatus hrefund =>
    intro row hrow
    have hrow : (_ : Table CatalogClaim).find? k = some row := hrow
    rw [Table.find?_insert hnew] at hrow
    split at hrow
    · cases hrow
      rw [hstatus, hrefund]
      exact iff_of_false CatalogClaimStatus.noConfusion Bool.false_ne_true
    · exact h row hrow
  | createsRefund r => exact h
  | refundsOrder refund hchecked => exact h
  | refundsClaim dto amount refund hchecked hclaims => exact h.update fun _ _ _ => iff_of_true rfl rfl
  | reviewsClaim hchecked hclaims hnoRefund =>
    refine h.update fun heq row hrow => hnoRefund.linked ?_
    subst heq
    rw [hclaims, hchecked.claim_found] at hrow
    cases hrow
    exact Option.not_isSome_iff_eq_none.mp fun hid => hchecked.claim_open (.inr hid)
  | decides id status hcall hclaims hnoRefund =>
    refine h.update fun heq row hrow => hnoRefund.linked ?_
    subst heq
    rw [hclaims] at hrow
    -- the status says that there is no refund, and the link that there is no id
    have hopen : row.status ≠ .refunded := fun hstatus => hnot ⟨⟨row, hrow, hstatus⟩, hcall⟩
    exact Option.not_isSome_iff_eq_none.mp fun hid => hopen ((hstart row hrow).mpr hid)

/-! ## Whole calls -/

/-- A decision on an existing claim is written. -/
theorem decideClaim_exec {status : CatalogClaimStatus} {title : String}
    {write : CatalogClaim → Time → CatalogClaim → CatalogClaim}
    {hwrite : ∀ read now k, (write read now k).id = k.id} {row : CatalogClaim}
    (hrow : s.claims.find? k = some row) (w : Nat → CatalogAnswer) :
    ((decideClaim k status title write hwrite).exec w s).state =
      { s with claims := s.claims.update k (write row s.now) (hwrite row s.now) } := by
  have hrun : (do
      let db ← get
      updateCatalogClaim k (write row db.now) (hwrite row db.now) : CatalogTx CatalogClaim) s =
        .ok (write row s.now row, { s with claims := s.claims.update k (write row s.now) (hwrite row s.now) }) :=
    Stmt.bind_ok.mpr ⟨s, s, Stmt.get_ok.mpr ⟨rfl, rfl⟩, updateCatalogClaim_ok.mpr ⟨⟨row, hrow, rfl⟩, rfl⟩⟩
  unfold decideClaim getClaimOrThrow
  rw [bind_assoc, exec_read_bind, hrow, exec_orThrow_bind, exec_run_bind_ok hrun]
  rfl

/-- The three decisions take a refunded claim out of REFUNDED. -/
theorem overwrites_exec (hc : c.overwrites k = true) (hs : s.ClaimRefunded k) (me : Nat)
    (w : Nat → CatalogAnswer) : ¬SameRefund k s ((catalogHandle me c).exec w s).state := by
  obtain ⟨row, hrow, hstatus⟩ := hs
  have hleft : ∀ (f : CatalogClaim → CatalogClaim) (hf : ∀ k, (f k).id = k.id), (f row).status ≠ .refunded →
      ¬SameRefund k s { s with claims := s.claims.update k f hf } := by
    intro f hf hne hsame
    have hsame : ((s.claims.update k f hf).find? k).map _ = s.refundOf k := hsame
    rw [Table.find?_update_of_eq hrow hf, CatalogDb.refundOf, hrow] at hsame
    exact hne ((congrArg Prod.fst (Option.some.inj hsame)).trans hstatus)
  have hstate : ∀ {status title write hwrite}, ((do
      return CatalogReply.claim (← decideClaim k status title write hwrite)).exec w s).state =
        ((decideClaim k status title write hwrite).exec w s).state := fun {_ _ _ _} => exec_bind_pure.1
  -- the three decisions write a status of their own, whatever the claim's
  cases c with
  | adminRequestReplacement id dto =>
    obtain rfl : id = k := of_decide_eq_true hc
    unfold catalogHandle adminRequestReplacement
    rw [hstate, decideClaim_exec hrow]
    exact hleft _ _ fun heq => by cases heq
  | adminReject id dto =>
    obtain rfl : id = k := of_decide_eq_true hc
    unfold catalogHandle adminReject
    rw [hstate, decideClaim_exec hrow]
    exact hleft _ _ fun heq => by cases heq
  | adminResolve id dto =>
    obtain rfl : id = k := of_decide_eq_true hc
    unfold catalogHandle adminResolve
    rw [hstate, decideClaim_exec hrow]
    exact hleft _ _ fun heq => by cases heq
  | createOrder sub dto => cases hc
  | confirmPayment sub o => cases hc
  | paymentEvent kind pi => cases hc
  | createClaim sub o dto => cases hc
  | adminRefund id dto => cases hc

/-- A refunded claim keeps its refund exactly in the calls that take no other decision on it. -/
theorem sameRefund_iff (hs : s.ClaimRefunded k) (me : Nat) (c : CatalogCall) (w : Nat → CatalogAnswer) :
    SameRefund k s ((catalogHandle me c).exec w s).state ↔ ¬c.overwrites k = true := by
  constructor
  · exact fun hsame hc => overwrites_exec hc hs me w hsame
  · intro hnot
    have hnot := Bool.eq_false_iff.mpr hnot
    have hleads := c.leads (K := fun a b => a.ClaimRefunded k → SameRefund k a b) (fun a _ => rfl)
      (fun a b c hab hbc ha => (hbc ((hab ha).refunded ha)).trans (hab ha)) me w
      fun site a b hstep => hstep.sameRefund hs hnot
    exact hleads hs

/-- **Statuses and refunds agree, and what it takes.** In every sequence of admin decisions
(and of purchases, payments and new claims), executed one at a time, a claim is REFUNDED
exactly when it has a refund's id, and once REFUNDED keeps its status, amount and refund's id,
if and only if no replacement, rejection or resolution is decided on it while it is REFUNDED. -/
theorem claim_refunds_agree_iff {db : CatalogDb} {k : CatalogClaimId} (h : db.RefundLinked k)
    (inputs : List (Input catalogService)) :
    ((∀ before after, inputs = before ++ after → (serialRun db before).state.RefundLinked k) ∧
      Serial.Lasts (CatalogDb.ClaimRefunded k) (SameRefund k) db inputs) ↔
      Serial.Unbroken (fun (c : CatalogCall) (s : CatalogDb) =>
        s.ClaimRefunded k ∧ c.overwrites k = true) db inputs := by
  have hevent : ∀ e s, SameRefund k s (catalogService.event e s) := by
    intro e s
    cases e with
    | wait ms => rfl
    | payment pi status => rfl
  have hlasts : Serial.Lasts (CatalogDb.ClaimRefunded k) (SameRefund k) db inputs ↔ _ :=
    serial_lasts_iff (S := catalogService) (T := CatalogDb.ClaimRefunded k) (R := SameRefund k)
      (fun _ => rfl) (fun _ _ _ hab hbc => hbc.trans hab) (fun _ _ hs hsame => hsame.refunded hs)
      (fun e s _ => hevent e s) (fun _ _ => rfl) (fun me c w s hs => sameRefund_iff hs me c w) db inputs
  constructor
  · exact fun hagree => hlasts.mp hagree.2
  · intro hc
    refine ⟨fun before after hsplit => ?_, hlasts.mpr hc⟩
    subst hsplit
    refine serial_invariant_unbroken h (fun e s hs => ?_) (fun me c w s hs _ hnot => ?_) hc.append_left
    · cases e with
      | wait ms => exact hs
      | payment pi status => exact hs
    · have hleads := c.leads (K := fun a b => a.RefundLinked k → b.RefundLinked k) (fun _ ha => ha)
        (fun _ _ _ hab hbc ha => hbc (hab ha)) me w fun site a b hstep => hstep.refundLinked hs hnot
      exact hleads hs

/-! ## Runs -/

theorem catalogTown_linked (k : CatalogClaimId) : catalogTown.RefundLinked k := by
  intro row hrow
  cases hrow

/-- The refund of a claim, after which nothing is decided. -/
theorem refund_agrees :
    (∀ before after, productRefunded = before ++ after →
      (serialRun catalogTown before).state.RefundLinked ⟨2, 0⟩) ∧
    Serial.Lasts (CatalogDb.ClaimRefunded ⟨2, 0⟩) (SameRefund ⟨2, 0⟩) catalogTown productRefunded := by
  refine (claim_refunds_agree_iff (catalogTown_linked _) _).mpr (Serial.unbroken_of_forall ?_)
  rintro c w hmem s ⟨-, hc⟩
  simp only [productRefunded, productBought, catalogTownCall, List.cons_append, List.nil_append,
    List.mem_cons, List.not_mem_nil, or_false, reduceCtorEq, false_or] at hmem
  obtain ⟨rfl, -⟩ | ⟨rfl, -⟩ | ⟨rfl, -⟩ | ⟨rfl, -⟩ := hmem
  · cases hc
  · cases hc
  · cases hc
  · cases hc

/-- **A refund rejected.** An admin refunds the claim and then rejects it: it is REJECTED,
with its refund's id. -/
theorem refund_rejected : ¬(serialRun catalogTown (productRefunded ++
    [catalogTownCall (.adminReject ⟨2, 0⟩ ⟨none, none⟩)])).state.RefundLinked ⟨2, 0⟩ := by
  have hrefund : (serialRun catalogTown (productRefunded ++
      [catalogTownCall (.adminReject ⟨2, 0⟩ ⟨none, none⟩)])).state.refundOf ⟨2, 0⟩ =
      some (.rejected, some 5000, some ⟨2⟩) := by
    decide +kernel
  intro hlinked
  obtain ⟨row, hrow, heq⟩ := Option.map_eq_some_iff.mp hrefund
  simp only [Prod.mk.injEq] at heq
  have hrefunded := (hlinked row hrow).mpr (by rw [heq.2.2]; rfl)
  rw [heq.1] at hrefunded
  cases hrefunded

end IncaCook
