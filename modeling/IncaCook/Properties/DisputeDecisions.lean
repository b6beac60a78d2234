import IncaCook.Library.Crash
import IncaCook.Library.Runs
import IncaCook.Steps.Ledger
import IncaCook.Steps.Steady

/-!
# Decisions on disputes

The five decisions of the admin on a dispute, one at a time, from any state. None of
them looks at the status the dispute has: what approving writes, rejecting overwrites,
but for `refundApproved`, which stays.

Main results:

* `decision_decides`: all that a decision does to the disputes;
* `decisions_coherent_iff`: no refund that was granted is rejected afterwards in exactly
  the runs that reject only disputes for which none was.
-/

namespace IncaCook

open Prog Orders

/-! ## The decisions as a service -/

inductive DecisionCall where
  | adminApproveRefund (id : DisputeId) (notes : Option String)
  | adminRejectDispute (id : DisputeId) (notes : Option String)
  | adminResolveDispute (id : DisputeId) (notes : Option String)
  | adminConfirmAllergenViolation (id : DisputeId) (notes : Option String)
  | adminConfirmFraudulentChargeback (id : DisputeId) (notes : Option String)

/-- The admin's decisions. In between anything may happen that leaves the disputes alone. -/
def decisionService : Service machine where
  Call := DecisionCall
  Reply := OrderDispute
  Event := Db
  handle me
    | .adminApproveRefund id notes => adminApproveRefund id notes
    | .adminRejectDispute id notes => adminRejectDispute id notes
    | .adminResolveDispute id notes => adminResolveDispute id notes
    | .adminConfirmAllergenViolation id notes => adminConfirmAllergenViolation me id notes
    | .adminConfirmFraudulentChargeback id notes => adminConfirmFraudulentChargeback me id notes
  admits _ _ := true
  event world db := { world with disputes := db.disputes }

def DecisionCall.dispute : DecisionCall → DisputeId
  | .adminApproveRefund id _ => id
  | .adminRejectDispute id _ => id
  | .adminResolveDispute id _ => id
  | .adminConfirmAllergenViolation id _ => id
  | .adminConfirmFraudulentChargeback id _ => id

def DecisionCall.rejects : DecisionCall → Bool
  | .adminRejectDispute _ _ => true
  | _ => false

/-- Whenever a dispute is rejected, no refund is approved for it, and none was granted
at any earlier time. -/
def CoherentDecisions (s₀ : Db) (inputs : List (Input decisionService)) : Prop :=
  ∀ early mid late, inputs = early ++ mid ++ late → ∀ id d d',
    (serialRun s₀ early).state.disputes.find? id = some d →
    (serialRun s₀ (early ++ mid)).state.disputes.find? id = some d' →
    d'.status = .rejected → d'.refundApproved = false ∧ d.granted = false

/-- The call rejects no dispute for which a refund is approved, and none that was
refunded automatically when it was filed. -/
def rejectsUngranted (s₀ : Db) (c : CallRecord decisionService) : Bool :=
  !DecisionCall.rejects c.call ||
    (c.pre.disputes.find? (DecisionCall.dispute c.call)).all fun d => !d.refundApproved &&
      (s₀.disputes.find? (DecisionCall.dispute c.call)).all fun d₀ => d₀.status ≠ .autoRefunded

/-! ## What a decision writes -/

/-- What a decision makes of the dispute's row. -/
def Decision (rejects : Bool) (d d' : OrderDispute) : Prop :=
  if rejects then d'.status = .rejected ∧ d'.refundApproved = d.refundApproved
  else d'.status = .resolved ∧ (d.refundApproved = true → d'.refundApproved = true)

/-- The call has failed, or it has decided its dispute. -/
def Decided (call : DecisionCall) (s s' : Db) : Prop :=
  s'.disputes = s.disputes ∨ ∃ d f hf, s.disputes.find? call.dispute = some d ∧
    s'.disputes = s.disputes.update call.dispute f hf ∧ Decision call.rejects d (f d)

variable {s s₀ s₁ : Db} {me : Nat} {id : DisputeId} {notes : Option String}
  {dispute : OrderDispute} {call : DecisionCall}

/-- The disputes stay as they are. -/
abbrev undisputed : Contract machine := movesContract fun s s' => s'.disputes = s.disputes

theorem undisputed_write {α : Type} {site : Site} {stmt : Answer → Tx α}
    (hok : ∀ i s a s', stmt i s = .ok (a, s') → s'.disputes = s.disputes) :
    Free undisputed (await site stmt) :=
  free_await (fun _ _ => rfl) fun _ i s a s' hrun => hok i s a s' hrun

theorem undisputed_updateOrder {site : Site} {o : OrderId} {f : Order → Order}
    {hf : ∀ o, (f o).id = o.id} : Free undisputed (await site fun _ => updateOrder o f hf) := by
  refine undisputed_write fun _ s _ s' hrun => ?_
  obtain ⟨-, rfl⟩ := updateOrder_ok.mp hrun
  rfl

theorem refundForDispute_undisputed {o : OrderId} : Free undisputed (refundForDispute o) := by
  refine free_bind (refundOrderIfNeeded_of (fun _ _ => rfl) (fun pi => ?_) (fun refund => ?_) ?_)
    fun _ => undisputed_updateOrder
  · refine undisputed_write fun _ s _ s' hrun => ?_
    obtain ⟨refunds, -, -, -, rfl⟩ := createRefund_ok hrun
    rfl
  · refine undisputed_write fun _ s _ s' hrun => ?_
    obtain rfl := saveRefund_ok hrun
    rfl
  · refine undisputed_write fun _ s _ s' hrun => ?_
    obtain rfl := updateWalletEntries_ok.mp hrun
    rfl

/-- A strike that is added for good measure leaves the disputes alone. -/
theorem strike_undisputed {input : Strikes.AddStrikeInput} :
    Free undisputed (tryCatch (do
      let _ ← Strikes.addStrike me input
      pure ()) fun _ => pure ()) := by
  refine strike_of (addStrike_of (fun _ _ => rfl) (fun id => ?_) ?_)
  · refine undisputed_write fun _ s _ s' hrun => ?_
    obtain ⟨strikes, -, rfl⟩ := createStrike_ok.mp hrun
    rfl
  · refine undisputed_write fun _ s _ s' hrun => ?_
    simp only [Strikes.suspendRow, Stmt.modify_ok] at hrun
    subst hrun
    rfl

/-- What leaves the disputes alone may come before a decision. -/
theorem decided_bind {α : Type} {p : Handler α} {k : α → Handler OrderDispute}
    {h : List (StepRecord machine)} (hp : Free undisputed p) (hs : s₁.disputes = s.disputes)
    (hk : ∀ a h s₂, s₂.disputes = s.disputes →
      Sat aloneContract (fun _ _ s' => Decided call s s') (k a) h s₂) :
    Sat aloneContract (fun _ _ s' => Decided call s s') (p >>= k) h s₁ := by
  have hkeep : Sat aloneContract (fun _ _ s' => s'.disputes = s.disputes) p h s₁ :=
    ((hp h s₁).keep (I := fun _ (s' : Db) => s'.disputes = s.disputes) (fun _ _ _ hab ha => hab ▸ ha)
      (fun _ _ _ _ ha hstep => Eq.trans hstep ha) hs).mono (fun _ _ hab => hab)
      (fun _ _ _ _ _ => trivial) fun _ _ _ hI => hI.2
  refine sat_bind (hkeep.post fun h r s₂ hs₂ => ?_)
  cases r with
  | error e => exact .inl hs₂
  | ok a => exact hk a h s₂ hs₂

theorem writeDecision_ok {f : Time → OrderDispute → OrderDispute}
    {hf : ∀ now d, (f now d).id = d.id} {d : OrderDispute} {s' : Db}
    (hrun : writeDecision id f hf s = .ok (d, s')) :
    s' = { s with disputes := s.disputes.update id (f s.now) (hf s.now) } := by
  simp only [writeDecision, Stmt.bind_ok, Stmt.get_ok, updateDispute_ok, Tx.orThrow_ok] at hrun
  obtain ⟨_, _, ⟨rfl, rfl⟩, _, _, ⟨-, rfl⟩, _, _, ⟨rfl, rfl⟩, -, rfl⟩ := hrun
  rfl

/-- The write that ends a decision. -/
theorem writeDecision_decides (call : DecisionCall) {f : Time → OrderDispute → OrderDispute}
    {hf : ∀ now d, (f now d).id = d.id} {h : List (StepRecord machine)}
    (hs : s₁.disputes = s.disputes) (hfound : s.disputes.find? call.dispute = some dispute)
    (hdecision : ∀ now, Decision call.rejects dispute (f now dispute)) :
    Sat aloneContract (fun _ _ s' => Decided call s s')
      (await (.updateDispute call.dispute) fun _ => writeDecision call.dispute f hf) h s₁ := by
  refine sat_await fun s₂ hsame _ => ⟨fun e _ => ⟨trivial, ?_⟩, fun _ s₃ hrun => ⟨trivial, ?_⟩⟩
  · obtain rfl : s₁ = s₂ := hsame
    exact .inl hs
  · obtain rfl : s₁ = s₂ := hsame
    obtain rfl := writeDecision_ok hrun
    exact .inr ⟨dispute, f s₁.now, hf s₁.now, hfound, by rw [← hs], hdecision s₁.now⟩

/-- A decision reads its dispute first. -/
theorem getDispute_decides (call : DecisionCall) {k : OrderDispute → Handler OrderDispute} {h : List (StepRecord machine)}
    (hk : ∀ h d, s.disputes.find? call.dispute = some d → d.id = call.dispute →
      Sat aloneContract (fun _ _ s' => Decided call s s') (k d) h s) :
    Sat aloneContract (fun _ _ s' => Decided call s s') (getDispute call.dispute >>= k) h s := by
  unfold getDispute
  simp only [bind_assoc]
  refine sat_read_bind fun s₁ hsame => ⟨trivial, ?_⟩
  obtain rfl : s = s₁ := hsame
  exact sat_orThrow_bind (fun _ => .inl rfl) fun d hd => hk _ d hd (Table.key_of_find? hd)

/-- **All that a decision does to the disputes.** -/
theorem decision_sat (call : DecisionCall) (h : List (StepRecord machine)) :
    Sat aloneContract (fun _ _ s' => Decided call s s') (decisionService.handle me call) h s := by
  -- every handler loads the dispute, does its errand and then writes the row it
  -- loaded; only the errand differs
  cases call with
  | adminApproveRefund id notes =>
    refine getDispute_decides (.adminApproveRefund id notes) fun h d hd hid => ?_
    refine sat_read_bind fun s₁ hsame => ⟨trivial, ?_⟩
    obtain rfl : s = s₁ := hsame
    refine decided_bind refundForDispute_undisputed rfl fun _ h s₂ hs₂ => ?_
    exact writeDecision_decides (.adminApproveRefund id notes) hs₂ hd
      fun _ => ⟨rfl, fun _ => rfl⟩
  | adminRejectDispute id notes =>
    refine getDispute_decides (.adminRejectDispute id notes) fun h d hd hid => ?_
    obtain rfl : d.id = id := hid
    exact writeDecision_decides (.adminRejectDispute d.id notes) rfl hd fun _ => ⟨rfl, rfl⟩
  | adminResolveDispute id notes =>
    refine getDispute_decides (.adminResolveDispute id notes) fun h d hd hid => ?_
    obtain rfl : d.id = id := hid
    exact writeDecision_decides (.adminResolveDispute d.id notes) rfl hd
      fun _ => ⟨rfl, fun h => h⟩
  | adminConfirmAllergenViolation id notes =>
    refine getDispute_decides (.adminConfirmAllergenViolation id notes) fun h d hd hid => ?_
    obtain rfl : d.id = id := hid
    refine decided_bind strike_undisputed rfl fun _ h s₂ hs₂ => ?_
    exact writeDecision_decides (.adminConfirmAllergenViolation d.id notes) hs₂ hd
      fun _ => ⟨rfl, fun h => h⟩
  | adminConfirmFraudulentChargeback id notes =>
    refine getDispute_decides (.adminConfirmFraudulentChargeback id notes)
      fun h d hd hid => ?_
    obtain rfl : d.id = id := hid
    refine decided_bind strike_undisputed rfl fun _ h s₂ hs₂ => ?_
    exact writeDecision_decides (.adminConfirmFraudulentChargeback d.id notes) hs₂ hd
      fun _ => ⟨rfl, fun h => h⟩

/-- A dispute that exists can be rejected, whatever its status. -/
theorem adminRejectDispute_rejects (notes : Option String) (w : Nat → Answer)
    (hfound : s.disputes.find? id = some dispute) :
    ∃ d', ((adminRejectDispute id notes).exec w s).state.disputes.find? id = some d' ∧
      Decision true dispute d' := by
  let decided := OrderDispute.decide .rejected (notes <|> dispute.adminNotes)
  have hid : dispute.id = id := Table.key_of_find? hfound
  have hrow : (s.disputes.update id (decided s.now)).find? id = some (decided s.now dispute) :=
    Table.find?_update_of_eq hfound
  have hwrite : writeDecision id decided (fun _ _ => rfl) s =
      .ok (decided s.now dispute, { s with disputes := s.disputes.update id (decided s.now) }) := by
    simp only [writeDecision, Stmt.bind_ok, Stmt.get_ok, updateDispute_ok, Tx.orThrow_ok]
    exact ⟨_, _, ⟨rfl, rfl⟩, (), _, ⟨⟨dispute, hfound⟩, rfl⟩, _, _, ⟨rfl, rfl⟩, hrow, rfl⟩
  have hstate : ((adminRejectDispute id notes).exec w s).state =
      { s with disputes := s.disputes.update id (decided s.now) } := by
    unfold adminRejectDispute getDispute
    simp only [bind_assoc]
    rw [exec_read_bind, hfound, exec_orThrow_bind, closeDispute, hid, exec_await_ok hwrite]
  rw [hstate]
  exact ⟨_, hrow, rfl, rfl⟩

/-! ## Runs of decisions -/

/-- The rows before and after a decision. -/
theorem Decided.find? {s' : Db} (h : Decided call s s') (id : DisputeId) :
    (s.disputes.find? id = none ∧ s'.disputes.find? id = none) ∨
      ∃ d d', s.disputes.find? id = some d ∧ s'.disputes.find? id = some d' ∧
        (d' = d ∨ id = call.dispute ∧ Decision call.rejects d d') := by
  rcases h with hsame | ⟨d₀, f, hf, hfound, hnew, hdecision⟩
  · rw [hsame]
    cases hd : s.disputes.find? id with
    | none => exact .inl ⟨rfl, rfl⟩
    | some d => exact .inr ⟨d, d, rfl, rfl, .inl rfl⟩
  · rw [hnew]
    by_cases hid : id = call.dispute
    · subst hid
      refine .inr ⟨d₀, f d₀, hfound, ?_, .inr ⟨rfl, hdecision⟩⟩
      rw [Table.find?_update_self, hfound]
      rfl
    · rw [Table.find?_update_of_ne s.disputes f hf hid]
      cases hd : s.disputes.find? id with
      | none => exact .inl ⟨rfl, rfl⟩
      | some d => exact .inr ⟨d, d, rfl, rfl, .inl rfl⟩

/-- No decision takes an approval back. -/
theorem Decision.approved {rejects : Bool} {d d' : OrderDispute} (h : Decision rejects d d')
    (happroved : d.refundApproved = true) : d'.refundApproved = true := by
  unfold Decision at h
  cases rejects with
  | true => exact h.2.trans happroved
  | false => exact h.2 happroved

/-- What stays of a dispute from `s` on: it exists, and so does its approval. -/
theorem approved_later (later : List (Input decisionService)) {before : List (Input decisionService)}
    {d : OrderDispute} (hd : (serialRun s₀ before).state.disputes.find? id = some d) :
    ∃ d', (serialRun s₀ (before ++ later)).state.disputes.find? id = some d' ∧
      (d.refundApproved = true → d'.refundApproved = true) := by
  rw [serialRun_append]
  refine serial_invariant_calls (S := decisionService) (P := fun _ => True)
    (I := fun (s' : Db) _ => ∃ d', s'.disputes.find? id = some d' ∧
      (d.refundApproved = true → d'.refundApproved = true))
    ⟨d, hd, fun h => h⟩ (fun _ _ _ hI => hI) later ?_ fun _ _ => trivial
  intro c w s calls _ hI _ o _
  obtain ⟨d₁, hd₁, happroved⟩ := hI
  have hdecided : Decided c s o.state := ((decision_sat c []).exec (fun _ => rfl) w).2
  rcases hdecided.find? id with ⟨hnone, -⟩ | ⟨d, d', hd, hd', hmove⟩
  · rw [hd₁] at hnone
    cases hnone
  · obtain rfl : d₁ = d := Option.some.inj (hd₁.symm.trans hd)
    refine ⟨d', hd', fun h => ?_⟩
    rcases hmove with rfl | ⟨-, hdecision⟩
    · exact happroved h
    · exact hdecision.approved (happroved h)

/-- A dispute that is rejected has no approval and was not refunded automatically; one
that is refunded automatically was so when it was filed. -/
def RejectionsStand (s₀ s : Db) : Prop :=
  ∀ id d, s.disputes.find? id = some d → ∃ d₀, s₀.disputes.find? id = some d₀ ∧
    (d.status = .rejected → d.refundApproved = false ∧ d₀.status ≠ .autoRefunded) ∧
    (d.status = .autoRefunded → d₀.status = .autoRefunded)

/-- A decision that rejects no refund keeps it so. -/
theorem RejectionsStand.step {c : CallRecord decisionService} (hs : RejectionsStand s₀ c.pre)
    (hdecided : Decided c.call c.pre c.outcome.state) (hc : rejectsUngranted s₀ c = true) :
    RejectionsStand s₀ c.outcome.state := by
  intro id d' hd'
  rcases hdecided.find? id with ⟨-, hnone⟩ | ⟨d, d'', hd, hd'', hmove⟩
  · rw [hd'] at hnone
    cases hnone
  · obtain rfl : d' = d'' := Option.some.inj (hd'.symm.trans hd'')
    obtain ⟨d₀, hd₀, hrejected, hauto⟩ := hs id d hd
    refine ⟨d₀, hd₀, ?_⟩
    rcases hmove with rfl | ⟨rfl, hdecision⟩
    · exact ⟨hrejected, hauto⟩
    · -- a decision that does not reject writes another status
      cases hkind : DecisionCall.rejects c.call with
      | false =>
        rw [hkind] at hdecision
        constructor
        · intro h
          cases hdecision.1.symm.trans h
        · intro h
          cases hdecision.1.symm.trans h
      | true =>
        rw [hkind] at hdecision
        rw [rejectsUngranted, hkind, hd, hd₀] at hc
        simp only [Bool.not_true, Bool.false_or, Option.all_some, Bool.and_eq_true,
          Bool.not_eq_true', decide_eq_true_eq] at hc
        constructor
        · exact fun _ => ⟨hdecision.2.trans hc.1, hc.2⟩
        · intro h
          cases hdecision.1.symm.trans h

theorem rejections_stand (h0 : ∀ d ∈ s₀.disputes.rows, d.status = .rejected → d.refundApproved = false)
    (inputs : List (Input decisionService))
    (hc : ∀ c ∈ (serialRun s₀ inputs).calls, rejectsUngranted s₀ c = true) :
    RejectionsStand s₀ (serialRun s₀ inputs).state := by
  refine serial_invariant_calls (S := decisionService) (P := fun c => rejectsUngranted s₀ c = true)
    (I := fun s _ => RejectionsStand s₀ s) (r := ⟨s₀, []⟩) ?_ (fun _ _ _ hI => hI) inputs ?_ hc
  · intro id d hd
    refine ⟨d, hd, fun h => ⟨h0 d (Table.mem_of_find? hd) h, ?_⟩, fun h => h⟩
    rw [h]
    decide
  · intro c w s calls _ hI _ o hc
    exact hI.step (c := ⟨c, s, o⟩) ((decision_sat c []).exec (fun _ => rfl) w).2 hc

/-- **Which decisions are coherent.** In every sequence of decisions on disputes of any
type and status, none of them rejected with an approved refund: whenever a dispute is
rejected, no refund is approved for it and none was ever granted, if and only if every
rejection is of a dispute for which none is approved and that was not refunded when it
was filed. -/
theorem decisions_coherent_iff
    (h0 : ∀ d ∈ s₀.disputes.rows, d.status = .rejected → d.refundApproved = false)
    (inputs : List (Input decisionService)) :
    CoherentDecisions s₀ inputs ↔
      ∀ c ∈ (serialRun s₀ inputs).calls, rejectsUngranted s₀ c = true := by
  constructor
  · intro hcoherent c hc
    obtain ⟨before, w, after, n, rfl, hpre, -, hout, hstate⟩ := serialRun_input hc
    obtain ⟨call, pre, out⟩ := c
    dsimp only at hpre hout hstate ⊢
    cases call with
    | adminRejectDispute id notes =>
      simp only [rejectsUngranted, DecisionCall.rejects, DecisionCall.dispute, Bool.not_true,
        Bool.false_or, Option.all_eq_true, Bool.and_eq_true, Bool.not_eq_true', decide_eq_true_eq]
      intro d hd
      obtain ⟨d', hd', hstatus, happroved⟩ := adminRejectDispute_rejects notes w hd
      -- the run up to and including the rejection
      let rejected : List (Input decisionService) :=
        before ++ [.call (.adminRejectDispute id notes) w]
      have hsplit : before ++ .call (.adminRejectDispute id notes) w :: after = [] ++ rejected ++ after := by
        simp [rejected]
      have hafter : (serialRun s₀ rejected).state.disputes.find? id = some d' := by
        rw [hstate, hout]
        exact hd'
      constructor
      · have hnow := hcoherent before [.call (.adminRejectDispute id notes) w] after
          (by simp) id d d' (hpre ▸ hd) hafter hstatus
        exact happroved.symm.trans hnow.1
      · intro d₀ hd₀ hauto
        have hfirst := hcoherent [] rejected after hsplit id d₀ d' hd₀ hafter hstatus
        have hgranted := hfirst.2
        simp [OrderDispute.granted, hauto] at hgranted
    | _ => rfl
  · intro hc early mid late hsplit id d d' hd hd' hstatus
    subst hsplit
    have hearly : RejectionsStand s₀ (serialRun s₀ early).state := rejections_stand h0 early fun c hmem =>
      hc c (serialRun_calls_append _ late c (serialRun_calls_append early mid c hmem))
    have hlater : RejectionsStand s₀ (serialRun s₀ (early ++ mid)).state := rejections_stand h0 _ fun c hmem =>
      hc c (serialRun_calls_append _ late c hmem)
    obtain ⟨d₀, hd₀, hrejected, -⟩ := hlater id d' hd'
    obtain ⟨hunapproved, hnotauto⟩ := hrejected hstatus
    refine ⟨hunapproved, ?_⟩
    obtain ⟨d₁, hd₁, -, hauto⟩ := hearly id d hd
    obtain rfl : d₀ = d₁ := Option.some.inj (hd₀.symm.trans hd₁)
    obtain ⟨d'', hd'', happroved⟩ := approved_later mid hd
    obtain rfl : d' = d'' := Option.some.inj (hd'.symm.trans hd'')
    rw [OrderDispute.granted, Bool.or_eq_false_iff]
    constructor
    · exact decide_eq_false fun h => hnotauto (hauto h)
    · rw [← Bool.not_eq_true]
      intro h
      rw [happroved h] at hunapproved
      cases hunapproved

/-- The buyer of the small marketplace reports spoiled food. -/
def spoilageReported : List (Input (service smallTownConfig)) :=
  orderPaid ++ [smallTownCall (.createDispute "buyer" ⟨0, 0⟩ ⟨.spoiledFood, none, none, none⟩)]

/-- A decision at which every remote call goes through. -/
def adminDecides (call : DecisionCall) : Input decisionService := .call call fun _ => ⟨true, "token", ""⟩

/-- The report is rejected at first, and the refund approved on second thoughts. -/
theorem secondThoughts_coherent :
    CoherentDecisions (serialRun smallTown spoilageReported).state
      [adminDecides (.adminRejectDispute ⟨2, 3⟩ none), adminDecides (.adminApproveRefund ⟨2, 3⟩ none)] :=
  (decisions_coherent_iff (by decide +kernel) _).mpr (by decide +kernel)

/-- The refund is approved, and then the report is rejected. -/
def approvedThenRejected : List (Input decisionService) :=
  [adminDecides (.adminApproveRefund ⟨2, 3⟩ none), adminDecides (.adminRejectDispute ⟨2, 3⟩ none)]

/-- **An approved refund is rejected.** The buyer is refunded, and then told that the
claim gives rise to no refund. -/
theorem refund_approved_then_rejected :
    ¬CoherentDecisions (serialRun smallTown spoilageReported).state approvedThenRejected := by
  intro hcoherent
  have hend : ((serialRun (serialRun smallTown spoilageReported).state
      approvedThenRejected).state.disputes.find? ⟨2, 3⟩).any
        (fun d => d.status = .rejected && d.refundApproved) = true := by decide +kernel
  obtain ⟨d, hd, hrow⟩ := (Option.any_eq_true _ _).mp hend
  rw [Bool.and_eq_true, decide_eq_true_eq] at hrow
  have hnot := (hcoherent approvedThenRejected [] [] rfl ⟨2, 3⟩ d d hd hd hrow.1).1
  rw [hrow.2] at hnot
  cases hnot

end IncaCook
