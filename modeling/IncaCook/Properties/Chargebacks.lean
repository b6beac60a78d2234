import IncaCook.Properties.DisputeDecisions

/-!
# Chargebacks

Stripe's `charge.dispute.*` events arrive in any order and more than once, in between
the decisions of the admin. There is one dispute for each Stripe id, the first event
whose order is found records it, and the later ones refresh its payload.

Main results:

* `chargeback_exec`: all that one event does;
* `ChargebackCall.keeps`: what a call leaves of a dispute that it does not decide;
* `chargebacks_framed`: along a run, everything but the payload changes by decisions only.
-/

namespace IncaCook

open Prog Orders Webhooks

variable {s s' : Db} {me : Nat} {w : Nat → Answer} {dispute : ChargeDispute} {id : DisputeId}

/-! ## The service -/

inductive ChargebackCall where
  | chargeDispute (dispute : ChargeDispute)
  | decide (call : DecisionCall)

/-- Stripe's events and the admin's decisions. In between anything may happen that leaves
the disputes alone. -/
def chargebackService : Service machine where
  Call := ChargebackCall
  Reply := Option OrderDispute
  Event := Db
  handle me
    | .chargeDispute dispute => do
      handleChargeDispute me dispute
      return none
    | .decide call => do return some (← decisionService.handle me call)
  admits _ _ := true
  event world db := { world with disputes := db.disputes }

/-- The call decides the dispute. -/
def ChargebackCall.decides (id : DisputeId) : ChargebackCall → Prop
  | .chargeDispute _ => False
  | .decide call => call.dispute = id

/-- `OrderDispute.stripeDisputeId` is unique. -/
def OnePerStripeDispute (db : Db) : Prop :=
  ∀ d ∈ db.disputes.rows, ∀ d' ∈ db.disputes.rows, ∀ x,
    d.stripeDisputeId = some x → d'.stripeDisputeId = some x → d = d'

/-- The same dispute, but for the payload. -/
def OrderDispute.SameButMetadata (d d' : OrderDispute) : Prop :=
  d' = { d with metadata := d'.metadata }

/-! ## One event -/

/-- The payload of an event. -/
def Webhooks.ChargeDispute.payload (dispute : ChargeDispute) : ChargebackMetadata :=
  ⟨dispute.id, dispute.amount, dispute.currency, dispute.reason, dispute.status,
    (dispute.evidenceDueBy.filter (· ≠ 0)).map (· * 1000)⟩

/-- The order of an event. -/
def Db.disputedOrder (db : Db) (dispute : ChargeDispute) : Option Order :=
  dispute.paymentIntent.bind db.orderByPaymentIntent <|> dispute.metadataOrderId.bind db.orders.find?

/-- The dispute of an event. -/
def Db.chargeback (db : Db) (dispute : ChargeDispute) : Option OrderDispute :=
  db.disputes.rows.find? fun d => d.stripeDisputeId = some dispute.id

/-- The payload of a dispute refreshed. -/
def OrderDispute.refreshed (payload : ChargebackMetadata) (d : OrderDispute) : OrderDispute :=
  { d with metadata := some payload }

theorem findOrderForDispute_exec : ∃ steps,
    (findOrderForDispute dispute).exec w s = ⟨.ok (s.disputedOrder dispute), s, steps⟩ := by
  unfold findOrderForDispute Db.disputedOrder
  cases dispute.paymentIntent with
  | none =>
    cases dispute.metadataOrderId with
    | none => exact ⟨_, rfl⟩
    | some o => exact ⟨_, rfl⟩
  | some pi =>
    dsimp only
    rw [exec_read_bind, Option.bind_some]
    cases s.orderByPaymentIntent pi with
    | some order => exact ⟨_, rfl⟩
    | none =>
      cases dispute.metadataOrderId with
      | none => exact ⟨_, rfl⟩
      | some o => exact ⟨_, rfl⟩

/-- The statement that records a dispute goes through unless its id is taken. -/
theorem recordChargeback_exec {site : Site} {x : String} {row : OrderDispute}
    (hfree : (s.disputes.rows.find? fun d => d.stripeDisputeId = some x) = none) :
    (exec (M := machine) (await site fun _ => do
      let db ← get
      Tx.throwIf (db.disputes.rows.any fun d => d.stripeDisputeId = some x) .uniqueViolation
      createDisputeRow row) w s).state =
      { s with disputes := (s.disputes.insert? row).getD s.disputes } := by
  have hclear : ∀ d ∈ s.disputes.rows, ¬d.stripeDisputeId = some x := by simpa using hfree
  let stmt : Tx Unit := do
    let db ← get
    Tx.throwIf (db.disputes.rows.any fun d => d.stripeDisputeId = some x) .uniqueViolation
    createDisputeRow row
  have hrun_iff : ∀ s', stmt s = .ok ((), s') ↔
      ∃ disputes, s.disputes.insert? row = some disputes ∧ s' = { s with disputes } := by
    intro s'
    simpa [stmt] using fun _ _ _ => hclear
  cases hrun : stmt s with
  | ok p =>
    obtain ⟨disputes, hinsert, hstate⟩ := (hrun_iff p.2).mp hrun
    rw [hinsert]
    exact (congrArg Outcome.state (exec_await_ok hrun)).trans hstate
  | error e =>
    have hnone : s.disputes.insert? row = none := by
      cases hinsert : s.disputes.insert? row with
      | none => rfl
      | some disputes =>
        have hok := (hrun_iff _).mpr ⟨disputes, hinsert, rfl⟩
        rw [hrun] at hok
        cases hok
    rw [hnone]
    exact congrArg Outcome.state (exec_await_error hrun)

/-- **All that one event does.** Without an order, nothing; with a dispute, its payload is
refreshed; without one, a dispute is recorded. -/
theorem chargeback_exec :
    ((handleChargeDispute me dispute).exec w s).state =
      match s.disputedOrder dispute, s.chargeback dispute with
      | none, _ => s
      | some _, some d => { s with
          disputes := s.disputes.update d.id (OrderDispute.refreshed dispute.payload) }
      | some order, none => { s with
          disputes := (s.disputes.insert? (newChargeback (generateUlid me 13) order dispute
            dispute.payload)).getD s.disputes } := by
  obtain ⟨steps, hfound⟩ : ∃ steps, (findOrderForDispute dispute).exec w s =
      ⟨.ok (s.disputedOrder dispute), s, steps⟩ := findOrderForDispute_exec
  unfold handleChargeDispute
  rw [exec_bind_of_ok hfound]
  cases s.disputedOrder dispute with
  | none => rfl
  | some order =>
    dsimp only
    rw [exec_read_bind]
    dsimp only [Db.chargeback]
    cases hexisting : s.disputes.rows.find? fun d => d.stripeDisputeId = some dispute.id with
    | some d =>
      have hrow := Table.find?_of_mem (List.mem_of_find?_eq_some hexisting)
      have hrun : updateDispute d.id (OrderDispute.refreshed dispute.payload) (fun _ => rfl) s = .ok ((), { s with
          disputes := s.disputes.update d.id (OrderDispute.refreshed dispute.payload) }) :=
        updateDispute_ok.mpr ⟨⟨d, hrow⟩, rfl⟩
      dsimp only
      exact congrArg Outcome.state (exec_await_ok hrun)
    | none =>
      dsimp only
      exact recordChargeback_exec hexisting

/-! ## One decision -/

/-- What a decision on a dispute leaves of the rows: the keys of all, and the others as
they are. -/
def OrderDispute.besides (id : DisputeId) (d : OrderDispute) :
    DisputeId × Option String × Option OrderDispute :=
  (d.id, d.stripeDisputeId, if d.id = id then none else some d)

/-- The move decides the dispute, and no other. -/
def DecidesOnly (id : DisputeId) (s s' : Db) : Prop :=
  s'.disputes.rows.map (OrderDispute.besides id) = s.disputes.rows.map (OrderDispute.besides id)

abbrev decides (id : DisputeId) : Contract machine := movesContract (DecidesOnly id)

theorem decides_of_undisputed {α : Type} {p : Handler α} (hp : Free undisputed p) :
    Free (decides id) p :=
  fun h s => (hp h s).mono (fun _ _ hsame => hsame)
    (fun _ _ _ _ hsame => congrArg (fun t : Table OrderDispute => t.rows.map _) hsame)
    fun _ _ _ _ => trivial

theorem writeDecision_besides {f : Time → OrderDispute → OrderDispute}
    {hf : ∀ now d, (f now d).id = d.id}
    (hstripe : ∀ now d, (f now d).stripeDisputeId = d.stripeDisputeId) :
    Free (decides id) (await (.updateDispute id) fun _ => writeDecision id f hf) := by
  refine free_await (fun _ _ => rfl) fun _ _ s _ s' hrun => ?_
  obtain rfl := writeDecision_ok hrun
  change List.map _ (List.map _ s.disputes.rows) = _
  rw [List.map_map]
  refine List.map_congr_left fun d _ => ?_
  by_cases hd : d.id = id
  · have hkey : Keyed.key d = id := hd
    simp [OrderDispute.besides, hkey, hd, hf, hstripe]
  · have hkey : ¬Keyed.key d = id := hd
    simp [OrderDispute.besides, hkey]

/-- A decision reads its dispute first. -/
theorem getDispute_besides {k : OrderDispute → Handler OrderDispute}
    (hk : ∀ d, d.id = id → Free (decides id) (k d)) : Free (decides id) (getDispute id >>= k) := by
  intro h s
  unfold getDispute
  simp only [bind_assoc]
  refine sat_read_bind fun s₁ _ => ⟨rfl, ?_⟩
  exact sat_orThrow_bind (fun _ => trivial) fun d hd => hk d (Table.key_of_find? hd) _ _

theorem closeDispute_besides {d : OrderDispute} {status : DisputeStatus} {notes : Option String}
    (hd : d.id = id) : Free (decides id) (closeDispute d status notes) := by
  subst hd
  exact writeDecision_besides fun _ _ => rfl

/-- **All that a decision leaves.** -/
theorem decision_besides (call : DecisionCall) :
    Free (decides call.dispute) (decisionService.handle me call) := by
  cases call with
  | adminApproveRefund id notes =>
    exact getDispute_besides fun d _ => free_bind (free_read fun _ _ => rfl) fun _ =>
      free_bind (decides_of_undisputed refundForDispute_undisputed) fun _ =>
        writeDecision_besides fun _ _ => rfl
  | adminRejectDispute id notes => exact getDispute_besides fun d hd => closeDispute_besides hd
  | adminResolveDispute id notes => exact getDispute_besides fun d hd => closeDispute_besides hd
  | adminConfirmAllergenViolation id notes =>
    exact getDispute_besides fun d hd =>
      free_bind (decides_of_undisputed strike_undisputed) fun _ => closeDispute_besides hd
  | adminConfirmFraudulentChargeback id notes =>
    exact getDispute_besides fun d hd =>
      free_bind (decides_of_undisputed strike_undisputed) fun _ => closeDispute_besides hd

/-! ## One call -/

theorem chargeback_state (dispute : ChargeDispute) (n : Nat) :
    ((chargebackService.handle n (.chargeDispute dispute)).exec w s).state =
      ((handleChargeDispute n dispute).exec w s).state :=
  exec_bind_pure.1

theorem decision_state (call : DecisionCall) (n : Nat) :
    DecidesOnly call.dispute s ((chargebackService.handle n (.decide call)).exec w s).state := by
  have hstate : ((chargebackService.handle n (.decide call)).exec w s).state =
      ((decisionService.handle n call).exec w s).state := exec_bind_pure.1
  rw [hstate]
  exact (decision_besides call).moves (fun _ => rfl) fun _ _ _ hab hbc => Eq.trans hbc hab

theorem DecidesOnly.row {d : OrderDispute} (h : DecidesOnly id s s') (hd : d ∈ s.disputes.rows) :
    ∃ d' ∈ s'.disputes.rows, d'.id = d.id ∧ d'.stripeDisputeId = d.stripeDisputeId ∧ (d.id ≠ id → d' = d) := by
  have hmem : d.besides id ∈ s'.disputes.rows.map (OrderDispute.besides id) := by
    unfold DecidesOnly at h
    rw [h]
    exact List.mem_map_of_mem hd
  obtain ⟨d', hd', heq⟩ := List.mem_map.mp hmem
  obtain ⟨hid, hrest⟩ := Prod.mk.inj heq
  obtain ⟨hstripe, hsame⟩ := Prod.mk.inj hrest
  refine ⟨d', hd', hid, hstripe, fun hother => ?_⟩
  rw [hid, if_neg hother, if_neg hother] at hsame
  exact Option.some.inj hsame

theorem DecidesOnly.symm (h : DecidesOnly id s s') : DecidesOnly id s' s := Eq.symm h

/-- Rows that keep their Stripe ids stay unique. -/
theorem OnePerStripeDispute.of_rows (hs : OnePerStripeDispute s)
    (hrows : ∀ d ∈ s'.disputes.rows, ∃ d₀ ∈ s.disputes.rows, d₀.id = d.id ∧
      d₀.stripeDisputeId = d.stripeDisputeId) : OnePerStripeDispute s' := by
  intro d hd d' hd' x hx hx'
  obtain ⟨d₀, hd₀, hid, hstripe⟩ := hrows d hd
  obtain ⟨d₀', hd₀', hid', hstripe'⟩ := hrows d' hd'
  have hsame := hs d₀ hd₀ d₀' hd₀' x (hstripe.trans hx) (hstripe'.trans hx')
  have hkey : d.id = d'.id := by rw [← hid, ← hid', hsame]
  exact Table.eq_of_key_eq hd hd' hkey

theorem DecidesOnly.onePer (h : DecidesOnly id s s') (hs : OnePerStripeDispute s) :
    OnePerStripeDispute s' := by
  refine hs.of_rows fun d hd => ?_
  obtain ⟨d₀, hd₀, hid, hstripe, -⟩ := h.symm.row hd
  exact ⟨d₀, hd₀, hid, hstripe⟩

/-- What an event does to the disputes: nothing, or it refreshes its own, or records it. -/
def EventEffect (dispute : ChargeDispute) (s s' : Db) : Prop :=
  s' = s ∨
    (∃ d, s.chargeback dispute = some d ∧ s' = { s with
      disputes := s.disputes.update d.id (OrderDispute.refreshed dispute.payload) }) ∨
    s.chargeback dispute = none ∧ ∃ order id disputes,
      s.disputes.insert? (newChargeback id order dispute dispute.payload) = some disputes ∧
        s' = { s with disputes }

theorem event_effect (dispute : ChargeDispute) (n : Nat) :
    EventEffect dispute s ((chargebackService.handle n (.chargeDispute dispute)).exec w s).state := by
  rw [chargeback_state, chargeback_exec]
  cases s.disputedOrder dispute with
  | none => exact .inl rfl
  | some order =>
    cases hd : s.chargeback dispute with
    | some d => exact .inr (.inl ⟨d, hd, rfl⟩)
    | none =>
      dsimp only
      cases hinsert : s.disputes.insert? (newChargeback (generateUlid n 13) order dispute
          dispute.payload) with
      | none => exact .inl rfl
      | some disputes => exact .inr (.inr ⟨hd, order, _, disputes, hinsert, rfl⟩)

theorem EventEffect.onePer (h : EventEffect dispute s s') (hs : OnePerStripeDispute s) :
    OnePerStripeDispute s' := by
  rcases h with rfl | ⟨d₁, -, rfl⟩ | ⟨hnone, order, id, disputes, hinsert, rfl⟩
  · exact hs
  · refine hs.of_rows fun d hd => ?_
    obtain ⟨d₀, hd₀, ⟨-, rfl⟩ | ⟨-, rfl⟩⟩ := Table.mem_rewritten hd
    · exact ⟨d₀, hd₀, rfl, rfl⟩
    · exact ⟨d, hd₀, rfl, rfl⟩
  · -- no other row has the Stripe id of the new one
    have hfree : ∀ d ∈ s.disputes.rows, ∀ x, d.stripeDisputeId = some x → some x ≠ some dispute.id := by
      intro d hd x hx heq
      have hnot := List.find?_eq_none.mp hnone d hd
      simp [hx, heq] at hnot
    intro d hd d' hd' x hx hx'
    rcases (Table.mem_insert hinsert).mp hd with rfl | hd
    · rcases (Table.mem_insert hinsert).mp hd' with rfl | hd'
      · rfl
      · exact absurd hx.symm (hfree d' hd' x hx')
    · rcases (Table.mem_insert hinsert).mp hd' with rfl | hd'
      · exact absurd hx'.symm (hfree d hd x hx)
      · exact hs d hd d' hd' x hx hx'

/-- An event keeps every dispute, but for the payload of its own. -/
theorem EventEffect.row (h : EventEffect dispute s s') {d : OrderDispute}
    (hd : s.disputes.find? id = some d) :
    ∃ d', s'.disputes.find? id = some d' ∧ d.SameButMetadata d' := by
  rcases h with rfl | ⟨d₁, -, rfl⟩ | ⟨-, order, id', disputes, hinsert, rfl⟩
  · exact ⟨d, hd, rfl⟩
  · dsimp only
    rw [Table.find?_update, hd]
    split
    · exact ⟨_, rfl, rfl⟩
    · exact ⟨_, rfl, rfl⟩
  · exact ⟨d, Table.find?_insert_of_some hinsert hd, rfl⟩

/-- What a call leaves of a dispute that it does not decide. -/
theorem ChargebackCall.keeps (c : ChargebackCall) (n : Nat) {d : OrderDispute}
    (hd : s.disputes.find? id = some d) :
    ∃ d', ((chargebackService.handle n c).exec w s).state.disputes.find? id = some d' ∧
      (¬c.decides id → d.SameButMetadata d') := by
  cases c with
  | chargeDispute dispute =>
    obtain ⟨d', hd', hsame⟩ := (event_effect (w := w) (s := s) dispute n).row hd
    exact ⟨d', hd', fun _ => hsame⟩
  | decide call =>
    obtain ⟨d', hd', hid, -, hsame⟩ := (decision_state (w := w) call n).row (Table.mem_of_find? hd)
    have hkey : d.id = id := Table.key_of_find? hd
    refine ⟨d', Table.find?_eq_some.mpr ⟨hd', hid.trans hkey⟩, fun hother => ?_⟩
    have heq : d' = d := hsame fun hcall => hother (hcall.symm.trans hkey)
    rw [heq]
    rfl

/-! ## Runs -/

variable {s₀ : Db}

theorem onePer_run (h0 : OnePerStripeDispute s₀) (inputs : List (Input chargebackService)) :
    OnePerStripeDispute (serialRun s₀ inputs).state := by
  refine serial_invariant_calls (S := chargebackService) (P := fun _ => True)
    (I := fun s _ => OnePerStripeDispute s) (r := ⟨s₀, []⟩) h0 (fun _ _ _ hI => hI) inputs ?_
    fun _ _ => trivial
  intro c w s calls _ hI _ o _
  cases c with
  | chargeDispute dispute => exact (event_effect dispute _).onePer hI
  | decide call => exact (decision_state call _).onePer hI

/-- **Chargebacks and decisions.** In every sequence of Stripe's events and the admin's
decisions, there is one dispute for each Stripe id; an event for a dispute that exists
refreshes its payload, at most; and from one point of the run to a later one, a dispute
that no decision in between is about changes in nothing but its payload. -/
theorem chargebacks_framed (h0 : OnePerStripeDispute s₀) (inputs : List (Input chargebackService)) :
    OnePerStripeDispute (serialRun s₀ inputs).state ∧
    (∀ c ∈ (serialRun s₀ inputs).calls, ∀ dispute d, c.call = .chargeDispute dispute →
      d ∈ c.pre.disputes.rows → d.stripeDisputeId = some dispute.id →
      c.outcome.state = c.pre ∨ c.outcome.state = { c.pre with
        disputes := c.pre.disputes.update d.id (OrderDispute.refreshed dispute.payload) }) ∧
    ∀ before middle after, inputs = before ++ middle ++ after → ∀ id d,
      (serialRun s₀ before).state.disputes.find? id = some d →
      ∃ d', (serialRun s₀ (before ++ middle)).state.disputes.find? id = some d' ∧
        ((∀ c w, Input.call c w ∈ middle → ¬ChargebackCall.decides id c) → d.SameButMetadata d') := by
  refine ⟨onePer_run h0 inputs, fun c hc dispute d hcall hd hstripe => ?_, ?_⟩
  · obtain ⟨before, w, after, n, rfl, hpre, -, hout, -⟩ := serialRun_input hc
    have hone : OnePerStripeDispute c.pre := hpre ▸ onePer_run h0 before
    have heffect : EventEffect dispute c.pre c.outcome.state := by
      rw [hout, hcall]
      exact event_effect dispute n
    rcases heffect with hsame | ⟨d₁, hd₁, hrefreshed⟩ | ⟨hnone, -⟩
    · exact .inl hsame
    · -- the dispute that is refreshed is the one with the Stripe id
      have hstripe₁ : d₁.stripeDisputeId = some dispute.id := by
        simpa using List.find?_some hd₁
      obtain rfl := hone d₁ (List.mem_of_find?_eq_some hd₁) d hd dispute.id hstripe₁ hstripe
      exact .inr hrefreshed
    · have hnot := List.find?_eq_none.mp hnone d hd
      simp [hstripe] at hnot
  · rintro before middle after rfl id d hd
    rw [serialRun_append]
    refine serial_invariant_calls (S := chargebackService) (P := fun _ => True)
      (I := fun s' _ => ∃ d', Table.find? (Db.disputes s') id = some d' ∧
        ((∀ c w, Input.call c w ∈ middle → ¬ChargebackCall.decides id c) → d.SameButMetadata d'))
      ⟨d, hd, fun _ => rfl⟩ (fun _ _ _ hI => hI) middle ?_ fun _ _ => trivial
    intro c w s calls hmem hI _ o _
    obtain ⟨d₁, hd₁, hsame₁⟩ := hI
    obtain ⟨d', hd', hsame⟩ := ChargebackCall.keeps (w := w) c calls.length hd₁
    refine ⟨d', hd', fun hnone => ?_⟩
    have hfirst := hsame₁ hnone
    have hstep := hsame (hnone c w hmem)
    unfold OrderDispute.SameButMetadata at hfirst hstep ⊢
    rw [hstep, hfirst]

/-- A dispute of the first order of the small marketplace. -/
def buyerDispute (status : String) : ChargeDispute :=
  ⟨"dp_1", none, some ⟨0, 0⟩, 1000, "eur", "fraudulent", status, none⟩

/-- The chargeback is won, the event arriving first; the admin rejects it, and the event
of its creation arrives late. -/
def lateCreation : List (Input chargebackService) :=
  [.call (.chargeDispute (buyerDispute "won")) fun _ => ⟨true, "token", ""⟩,
    .call (.decide (.adminRejectDispute ⟨0, 13⟩ none)) fun _ => ⟨true, "token", ""⟩,
    .call (.chargeDispute (buyerDispute "needs_response")) fun _ => ⟨true, "token", ""⟩]

/-- The late event refreshes the payload, and the dispute stays rejected. -/
theorem lateCreation_framed :
    OnePerStripeDispute (serialRun (serialRun smallTown orderPaid).state lateCreation).state ∧
      ∃ d, (serialRun (serialRun smallTown orderPaid).state lateCreation).state.disputes.find? ⟨0, 13⟩ = some d ∧
        d.status = .rejected ∧ d.metadata.map ChargebackMetadata.stripeStatus = some "needs_response" := by
  have hnone : (serialRun smallTown orderPaid).state.disputes.rows = [] := by decide +kernel
  have h0 : OnePerStripeDispute (serialRun smallTown orderPaid).state := by
    intro d hd
    rw [hnone] at hd
    cases hd
  obtain ⟨hone, -, hframe⟩ := chargebacks_framed h0 lateCreation
  -- the admin has rejected the dispute before the last event
  have hrejected : ((serialRun (serialRun smallTown orderPaid).state (lateCreation.take 2)).state.disputes.find?
      ⟨0, 13⟩).any (fun d => d.status = .rejected) = true := by decide +kernel
  obtain ⟨d, hd, hstatus⟩ := (Option.any_eq_true _ _).mp hrejected
  obtain ⟨d', hd', hsame⟩ := hframe (lateCreation.take 2) (lateCreation.drop 2) [] rfl ⟨0, 13⟩ d hd
  have hundecided : ∀ c w, Input.call c w ∈ lateCreation.drop 2 → ¬ChargebackCall.decides ⟨0, 13⟩ c := by
    intro c w hmem
    cases List.mem_singleton.mp hmem
    exact id
  refine ⟨hone, d', hd', ?_, ?_⟩
  · rw [hsame hundecided]
    exact of_decide_eq_true hstatus
  · have hpayload : ((serialRun (serialRun smallTown orderPaid).state lateCreation).state.disputes.find?
        ⟨0, 13⟩).bind (fun d => d.metadata.map ChargebackMetadata.stripeStatus) = some "needs_response" := by
      decide +kernel
    rw [show lateCreation.take 2 ++ lateCreation.drop 2 = lateCreation from rfl] at hd'
    rwa [hd'] at hpayload

end IncaCook
