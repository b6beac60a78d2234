import IncaCook.Properties.ProofOfDelivery

/-!
# The claim window

A claim more than 24 hours after the order was handed over is late. The code reads the
time of the handover off the order's latest delivery, and asks only while the order is
DELIVERED or COMPLETED. So an order that the buyer picks up has no window, and neither
has an order whose status has moved on.

Main results:

* `createDispute_late`, `createDispute_timely`: when a claim is refused for being late;
* `Step.handed`: what stays of a handover;
* `claim_window_iff`: the claims of a run that are refused for being late.
-/

namespace IncaCook

open Prog Orders Deliveries

/-! ## Late claims -/

/-- The claim is about order `o`. -/
def Call.claims (o : OrderId) : Call → Bool
  | .createDispute _ o' _ => o' = o
  | _ => false

/-- The claim is about order `o` and made by its buyer. -/
def Call.claimedByBuyer (o : OrderId) (s : Db) : Call → Bool
  | .createDispute sub o' _ =>
    o' = o && (s.orders.find? o).any fun row => s.userIdOf sub = some row.buyerId
  | _ => false

/-- The order is DELIVERED or COMPLETED, and a driver was to bring it. -/
def Db.windowApplies (s : Db) (o : OrderId) : Bool :=
  (s.orders.find? o).any fun row =>
    (row.status = .delivered || row.status = .completed) && row.fulfillmentChoice = .delivery

/-- The refusal of a late claim. -/
def lateClaim : Err := .badRequest "Le délai de réclamation (24h) est dépassé."

section

variable {cfg : Config}

/-- The call hands the order over. -/
def handsOver (o : OrderId) (c : CallRecord (service cfg)) : Bool :=
  c.pre.orderStatus o ≠ some .delivered && c.outcome.state.orderStatus o = some .delivered

/-- A claim more than 24 hours after the call that handed the order over. -/
def claimsLate (o : OrderId) (claim handover : CallRecord (service cfg)) : Bool :=
  Call.claims o claim.call && handsOver o handover &&
    decide (handover.pre.now + claimWindowMs < claim.pre.now)

/-- The call is refused and changes nothing. -/
def Refused (c : CallRecord (service cfg)) : Prop :=
  (∃ e, c.outcome.result = .error e) ∧ c.outcome.state = c.pre

/-- How a late claim is answered: it is refused and changes nothing where the window
applies, and exactly there its buyer is told that it is late. -/
def AnsweredLate (o : OrderId) (claim : CallRecord (service cfg)) : Prop :=
  (Db.windowApplies claim.pre o = true → Refused claim) ∧
    (Call.claimedByBuyer o claim.pre claim.call = true →
      (claim.outcome.result = .error lateClaim ↔ Db.windowApplies claim.pre o = true))

end

/-- Whatever the order: a claim more than 24 hours after the handover is refused. -/
def ClaimWindow (cfg : Config) (s₀ : Db) (inputs : List (Input (service cfg))) : Prop :=
  ∀ o, (serialRun s₀ inputs).calls.Pairwise fun claim handover =>
    claimsLate o claim handover = true → Refused claim

/-! ## What `createDispute` refuses -/

section

variable {cfg : Config} {me : Nat} {call : Call} {h : List (StepRecord machine)} {site : Site}
  {R : Db → Db → Prop} {s s' : Db} {o : OrderId} {d : DeliveryId} {sub : String} {dto : CreateDisputeDto} {row : Order}

/-- The order is DELIVERED or COMPLETED, and its latest delivery was delivered more than
24 hours ago. -/
def LateClaim (s : Db) (row : Order) : Prop :=
  (row.status = .delivered ∨ row.status = .completed) ∧
    ((s.latestDelivery row.id).bind Delivery.deliveredAt).any
      (fun t => decide (t + claimWindowMs < s.now)) = true

/-- A late claim is refused, whoever makes it. -/
theorem createDispute_late (hrow : s.orders.find? o = some row) (hlate : LateClaim s row) :
    Sat aloneContract (fun _ r s' => (∃ e, r = .error e ∧
      (s.userIdOf sub = some row.buyerId → e = lateClaim)) ∧ s' = s)
      (createDispute me sub o dto) h s := by
  have hid : row.id = o := Table.key_of_find? hrow
  subst hid
  unfold createDispute fileDispute assertSellerUser checkClaim
  simp only [bind_assoc]
  refine sat_read_bind fun s₁ hsame => ⟨trivial, ?_⟩
  obtain rfl : s = s₁ := hsame
  refine sat_orThrow_bind (fun hnone => ⟨⟨_, rfl, fun huser => ?_⟩, rfl⟩) fun buyer hbuyer => ?_
  · rw [Db.userIdOf, hnone] at huser
    cases huser
  have huser : s.userIdOf sub = some buyer.id := by rw [Db.userIdOf, hbuyer]; rfl
  refine sat_read_bind fun s₁ hsame => ⟨trivial, ?_⟩
  obtain rfl : s = s₁ := hsame
  refine sat_orThrow_bind (fun hnone => ?_) fun row' hrow' => ?_
  · rw [hrow] at hnone
    cases hnone
  obtain rfl : row = row' := Option.some.inj (hrow.symm.trans hrow')
  refine sat_throwIf_bind (fun hother => ⟨⟨_, rfl, fun hown => ?_⟩, rfl⟩) fun _ => ?_
  · exact absurd (Option.some.inj (hown.symm.trans huser)) hother
  -- the guard on the status comes before the one on the date, but a late order
  -- was handed over
  refine sat_throwIf_bind (fun hpending => ?_) fun _ => ?_
  · rcases hlate.1 with h | h
    · rw [h] at hpending
      cases hpending
    · rw [h] at hpending
      cases hpending
  exact sat_throwIf_bind (fun _ => ⟨⟨_, rfl, fun _ => rfl⟩, rfl⟩) fun hnot => absurd hlate hnot

/-- The program is not refused for being late. -/
def Timely (α : Type) : Post machine α := fun _ r _ => r ≠ .error lateClaim

theorem timely_of {α : Type} {e : Err} (he : e ≠ lateClaim) : Timely α h (.error e) s :=
  fun heq => he (Except.error.inj heq)

theorem timely_ok {α : Type} {a : α} : Timely α h (.ok a) s := by
  intro heq
  cases heq

theorem timely_strike {input : Strikes.AddStrikeInput} :
    Sat endContract (Timely Unit) (tryCatch (do
      let _ ← Strikes.addStrike me input
      pure ()) fun _ => pure ()) h s := by
  refine sat_tryCatch (sat_end fun h r s => ?_)
  cases r with
  | ok _ => exact timely_ok
  | error e => exact sat_pure timely_ok

theorem timely_refund : Sat endContract (Timely Unit) (refundForDispute o) h s := by
  -- whose refund it is does not matter here
  have hdecided : Sat (refundContract ⟨false, 0, 0, 0⟩ (fun _ _ => True) 0
      (.adminApproveRefund ⟨0, 0⟩ none) o) (fun _ r _ => r = .ok ()) (refundOrderIfNeeded o) h s :=
    refundOrderIfNeeded_ok (.inl rfl)
  have hrefund : Sat endContract (fun _ r _ => r = .ok ()) (refundOrderIfNeeded o) h s :=
    hdecided.mono (fun _ _ _ => trivial) (fun _ _ _ _ _ => trivial) fun _ _ _ hr => hr
  refine sat_bind (hrefund.post fun h r s hr => ?_)
  subst hr
  refine sat_await fun s' _ i => ⟨fun e hrun => ⟨trivial, ?_⟩, fun _ _ _ => ⟨trivial, timely_ok⟩⟩
  have hrefuses : Stmt.Refuses (fun e => e ≠ lateClaim)
      (updateOrder o fun r => { r with status := .refunded }) :=
    Stmt.refuses_bind (Stmt.refuses_never fun s => ⟨_, rfl⟩) fun _ =>
      Stmt.refuses_bind (Tx.refuses_orThrow (by decide)) fun _ => Stmt.refuses_never fun s => ⟨_, rfl⟩
  exact fun he => hrefuses s' e hrun (Except.error.inj he)

theorem timely_applyDecision {dispute : OrderDispute} {decision : DisputeDecision} :
    Sat endContract (Timely Unit) (applyDecision me dispute decision) h s := by
  have hstrike : ∀ h s, Sat endContract (Timely Unit) (runIf decision.sellerStrike do
      try
        let _ ← Strikes.addStrike me
          { userId := dispute.sellerId, role := .seller, points := 1, reason := .wrongOrder
            severity := .light, sourceType := .order, orderId := some dispute.orderId }
      catch _ =>
        pure ()) h s := by
    intro h s
    exact sat_ite (fun _ => timely_strike) fun _ => sat_pure timely_ok
  refine sat_runIf_bind (fun _ => ?_) fun _ => hstrike h s
  refine sat_bind (timely_refund.post fun h r s hr => ?_)
  cases r with
  | error e => exact hr
  | ok _ => exact hstrike h s

theorem decideDispute_timely {type : DisputeType} {delivery : Option Delivery} {total : Cents} {e : Err}
    (hdecide : decideDispute type delivery total = .error e) : e ≠ lateClaim := by
  rintro rfl
  revert hdecide
  cases type with
  | neverReceived =>
    simp only [decideDispute]
    split
    · exact nofun
    · exact nofun
  | chargeback =>
    intro hdecide
    exact absurd (Except.error.inj hdecide) (by decide)
  | _ => exact nofun

/-- A claim that is not late is not refused for being late. -/
theorem createDispute_timely (hrow : s.orders.find? o = some row) (hnot : ¬LateClaim s row) :
    Sat aloneContract (Timely CreateDisputeResult) (createDispute me sub o dto) h s := by
  have hid : row.id = o := Table.key_of_find? hrow
  subst hid
  unfold createDispute fileDispute assertSellerUser checkClaim
  simp only [bind_assoc]
  refine sat_read_bind fun s₁ hsame => ⟨trivial, ?_⟩
  obtain rfl : s = s₁ := hsame
  refine sat_orThrow_bind (fun _ => timely_of (by decide)) fun buyer _ => ?_
  refine sat_read_bind fun s₁ hsame => ⟨trivial, ?_⟩
  obtain rfl : s = s₁ := hsame
  refine sat_orThrow_bind (fun _ => timely_of (by decide)) fun row' hrow' => ?_
  obtain rfl : row = row' := Option.some.inj (hrow.symm.trans hrow')
  refine sat_throwIf_bind (fun _ => timely_of (by decide)) fun _ => ?_
  refine sat_throwIf_bind (fun _ => timely_of (by decide)) fun _ => ?_
  -- the guard on the date is the only one that refuses for being late
  refine sat_throwIf_bind (fun hlate => absurd hlate hnot) fun _ => ?_
  refine sat_throwIf_bind (fun _ => timely_of (by decide)) fun _ => ?_
  refine sat_throwIf_bind (fun _ => timely_of (by decide)) fun _ => ?_
  refine sat_read_bind fun s₁ _ => ⟨trivial, sat_throwIf_bind (fun _ => timely_of (by decide)) fun _ => ?_⟩
  refine sat_bind ?_
  cases hdecide : decideDispute dto.type (s.latestDelivery row.id) row.buyerTotalCents with
  | error e => exact fun heq => decideDispute_timely hdecide (Except.error.inj heq)
  | ok decision =>
    refine sat_await_bind fun s₂ _ i => ⟨fun e hrun => ⟨trivial, ?_⟩, fun dispute s₃ _ => ⟨trivial, ?_⟩⟩
    · have hrefuses : ∀ new : Db → OrderDispute, Stmt.Refuses (fun e => e ≠ lateClaim) (do
          let db ← get
          createDisputeRow (new db)
          return new db) := fun new =>
        Stmt.refuses_bind (Stmt.refuses_never fun s => ⟨_, rfl⟩) fun _ =>
          Stmt.refuses_bind (Stmt.refuses_bind (Stmt.refuses_never fun s => ⟨_, rfl⟩) fun _ =>
            Stmt.refuses_bind (Tx.refuses_orThrow (by decide)) fun _ => Stmt.refuses_never fun s => ⟨_, rfl⟩)
            fun _ => Stmt.refuses_never fun s => ⟨_, rfl⟩
      exact fun heq => hrefuses _ _ _ hrun (Except.error.inj heq)
    · have happly : ∀ h, Sat aloneContract (Timely Unit) (applyDecision me dispute decision) h s₃ :=
        fun _ => timely_applyDecision.mono (fun _ _ _ => trivial) (fun _ _ _ _ _ => trivial)
          fun _ _ _ hr => hr
      refine sat_pure_bind (sat_bind ((happly _).post fun h r s hr => ?_))
      cases r with
      | error e => exact timely_of fun he => hr (he ▸ rfl)
      | ok _ => exact timely_ok

/-! ## What stays of a handover -/

/-- Rows show what happened, and when. -/
structure Dated (s : Db) : Prop where
  proven : Proven s
  stamp : ∀ d r, s.deliveries.find? d = some r → r.deliveredAt = r.deliveredConfirmedAt
  past : ∀ d r t, s.deliveries.find? d = some r → r.deliveredAt = some t → t ≤ s.now

/-- If a driver was to bring the order, a delivery of it was delivered by `τ`. -/
def Handed (o : OrderId) (τ : Time) (s : Db) : Prop :=
  ∃ row, s.orders.find? o = some row ∧ (row.fulfillmentChoice = .delivery →
    ∃ d r t, s.deliveries.find? d = some r ∧ r.orderId = o ∧ r.status = .delivered ∧
      r.deliveredAt = some t ∧ t ≤ τ)

/-- No step moves the clock. -/
theorem Step.now (hstep : Step cfg R me call h site s s') : s'.now = s.now := by
  cases hstep with
  | aside haside => exact haside.now
  | _ => rfl

/-- Only a drop-off dates a delivery, and with the clock. -/
theorem DeliveryMove.dates {row row' : Delivery} (hmove : DeliveryMove s d call site row row') :
    (row'.deliveredAt = row.deliveredAt ∧ row'.deliveredConfirmedAt = row.deliveredConfirmedAt) ∨
      (row'.deliveredAt = some s.now ∧ row'.deliveredConfirmedAt = some s.now) := by
  cases hmove with
  | confirmDelivery huser hdriver hopen hfrom htoken => exact .inr ⟨rfl, rfl⟩
  | confirmAbsentDropoff huser hdriver hopen hfrom hphoto hgps => exact .inr ⟨rfl, rfl⟩
  | _ => exact .inl ⟨rfl, rfl⟩

theorem Dated.of_fresh (h0 : Fresh s) : Dated s := by
  have hnone : ∀ d, s.deliveries.find? d = none := fun d => by simp [Table.find?, h0.deliveries]
  refine ⟨.of_fresh h0, fun d r hr => ?_, fun d r t hr => ?_⟩
  · rw [hnone d] at hr
    cases hr
  · rw [hnone d] at hr
    cases hr

theorem Step.dated (hstep : Step cfg Eq me call h site s s') (hI : Dated s) : Dated s' := by
  refine ⟨hstep.proven hI.proven, fun d r' hr' => ?_, fun d r' t hr' ht => ?_⟩
  · rcases hstep.delivery_move hr' with ⟨-, -, o, order, token, -, -, -, -, -, rfl⟩ | ⟨r, hr, hmove⟩
    · rfl
    · rcases hmove.dates with ⟨hat, hconfirmed⟩ | ⟨hat, hconfirmed⟩
      · rw [hat, hconfirmed, hI.stamp d r hr]
      · rw [hat, hconfirmed]
  · rw [hstep.now]
    rcases hstep.delivery_move hr' with ⟨-, -, o, order, token, -, -, -, -, -, rfl⟩ | ⟨r, hr, hmove⟩
    · cases ht
    · rcases hmove.dates with ⟨hat, -⟩ | ⟨hat, -⟩
      · exact hI.past d r t hr (hat ▸ ht)
      · exact (Option.some.inj (hat.symm.trans ht)).ge

/-- A delivery that is delivered stays so, and keeps its date. -/
theorem DeliveryMove.delivered_stays {row row' : Delivery}
    (hmove : DeliveryMove s d call site row row') (hs : row.Sound)
    (horder : ∀ order, s.orders.find? row.orderId = some order → order.status ∉ beforeDriver)
    (hdelivered : row.status = .delivered) :
    row'.status = .delivered ∧ row'.deliveredAt = row.deliveredAt := by
  have hpicked : row.pickupConfirmedAt.isSome = true := hs.handedOver hdelivered
  cases hmove with
  | stay => exact ⟨hdelivered, rfl⟩
  | mintPickupToken token hnone => exact ⟨hdelivered, rfl⟩
  | mintDeliveryToken token hnone => exact ⟨hdelivered, rfl⟩
  -- an order that no driver could be found for has not been picked up
  | switchToPickup hfound hstatus => exact absurd (by simp [hstatus, beforeDriver]) (horder _ hfound)
  | cancelNoDriver reason hfound hstatus =>
    exact absurd (by simp [hstatus, beforeDriver]) (horder _ hfound)
  | sellerCannotProvide hfound hstatus hpickup => simp [hpickup] at hpicked
  | driverDisappeared hpickup hopen hfrom => simp [hdelivered] at hfrom
  | claim driver hfrom hfree => simp [hdelivered] at hfrom
  | arriveAtPickup hfrom hdriver => simp [hdelivered] at hfrom
  | confirmPickup token huser hdriver hnot hfrom htoken => simp [hnot] at hpicked
  | confirmDelivery huser hdriver hopen hfrom htoken => simp [hdelivered, outForDelivery] at hfrom
  | confirmAbsentDropoff huser hdriver hopen hfrom hphoto hgps =>
    simp [hdelivered, outForDelivery] at hfrom
  | reportSellerUnavailable hdriver hnot hfrom => simp [hnot] at hpicked

/-- No order is turned into one for delivery. -/
theorem OrderMove.choice_back {row row' : Order} (hmove : OrderMove cfg call s o site row row')
    (hchoice : row'.fulfillmentChoice = .delivery) : row.fulfillmentChoice = .delivery := by
  cases hmove with
  | switchToPickup hfrom => cases hchoice
  | paymentSucceeded ev hfrom hgenuine => simpa using hchoice
  | paymentFailed ev reason hfrom => simpa using hchoice
  | _ => exact hchoice

/-- **What stays of a handover.** -/
theorem Step.handed (hstep : Step cfg Eq me call h site s s') (hI : Dated s) {τ : Time}
    (hhanded : Handed o τ s) : Handed o τ s' := by
  obtain ⟨row, hrow, hdelivery⟩ := hhanded
  obtain ⟨row', hrow', hmove⟩ := hstep.order_moved hrow
  refine ⟨row', hrow', fun hchoice => ?_⟩
  obtain ⟨d, r, t, hr, hof, hdelivered, hat, hle⟩ := hdelivery (hmove.choice_back hchoice)
  obtain ⟨r', hr', hrmove⟩ := hstep.delivery_moved hr
  have hs : r.Sound := hI.proven.sound d r hr
  obtain ⟨hdelivered', hat'⟩ := hrmove.delivered_stays hs
    (fun order horder => hI.proven.order d r order hr horder (hs.handedOver hdelivered)) hdelivered
  exact ⟨d, r', t, hr', hrmove.orderId.trans hof, hdelivered', hat'.trans hat, hle⟩

/-- An order is handed over to its buyer at the counter, or once its delivery is delivered. -/
theorem OrderMove.hands_over {row row' : Order} (hmove : OrderMove cfg call s o site row row')
    (hbefore : row.status ≠ .delivered) (hafter : row'.status = .delivered) :
    (site = .pickedUpByBuyer o ∧ row'.fulfillmentChoice = .pickup) ∨
      (site = .deliveredByDriver o ∧
        ∃ d r, s.deliveries.find? d = some r ∧ r.orderId = o ∧ r.status = .delivered) := by
  cases hmove with
  | pickedUpByBuyer hfrom hchoice => exact .inl ⟨rfl, hchoice⟩
  | deliveredByDriver hfrom hchoice hdelivery => exact .inr ⟨rfl, hdelivery⟩
  | stay => exact absurd hafter hbefore
  | savePaymentIntent pi => exact absurd hafter hbefore
  | saveRefund refund hcause => exact absurd hafter hbefore
  | paymentSucceeded ev hfrom hgenuine => simp at hafter
  | paymentFailed ev reason hfrom => simp at hafter
  | _ => cases hafter

/-- The step that hands an order over. -/
theorem Step.hands_over (hstep : Step cfg Eq me call h site s s') (hI : Dated s)
    (hbefore : s.orderStatus o ≠ some .delivered) (hafter : s'.orderStatus o = some .delivered) :
    Handed o s.now s' := by
  obtain ⟨row', hrow', hdelivered⟩ := Option.map_eq_some_iff.mp hafter
  rcases hstep.order_move hrow' with ⟨-, -, db, args, rfl⟩ | ⟨row, hrow, hmove⟩
  · cases hdelivered
  · have hnot : row.status ≠ .delivered := by
      intro hstatus
      apply hbefore
      rw [Db.orderStatus, hrow, Option.map_some, hstatus]
    refine ⟨row', hrow', fun hchoice => ?_⟩
    rcases hmove.hands_over hnot hdelivered with ⟨-, hpickup⟩ | ⟨-, d, r, hr, hof, hdone⟩
    · rw [hpickup] at hchoice
      cases hchoice
    · obtain ⟨r', hr', hrmove⟩ := hstep.delivery_moved hr
      have hs : r.Sound := hI.proven.sound d r hr
      obtain ⟨hdone', hat'⟩ := hrmove.delivered_stays hs
        (fun order horder => hI.proven.order d r order hr horder (hs.handedOver hdone)) hdone
      obtain ⟨t, ht⟩ := Option.isSome_iff_exists.mp (hs.delivered.mp hdone)
      rw [← hI.stamp d r hr] at ht
      exact ⟨d, r', t, hr', hrmove.orderId.trans hof, hdone', hat'.trans ht, hI.past d r t hr ht⟩

/-! ## Runs -/

/-- What the steps of a call that began in `s` have come to. -/
structure Underway (s s₁ : Db) : Prop where
  dated : Dated s₁
  now : s₁.now = s.now
  kept : ∀ o τ, Handed o τ s → Handed o τ s₁
  own : ∀ o, s.orderStatus o ≠ some .delivered → s₁.orderStatus o = some .delivered →
    Handed o s.now s₁

theorem Underway.step {s₁ s₂ : Db} {h : List (StepRecord machine)} {site : Site}
    (hI : Underway s s₁) (hstep : Step cfg Eq me call h site s₁ s₂) : Underway s s₂ where
  dated := hstep.dated hI.dated
  now := hstep.now.trans hI.now
  kept o τ hh := hstep.handed hI.dated (hI.kept o τ hh)
  own o hnot hdone := by
    by_cases hbefore : s₁.orderStatus o = some .delivered
    · exact hstep.handed hI.dated (hI.own o hnot hbefore)
    · exact hI.now ▸ hstep.hands_over hI.dated hbefore hdone

/-- What a call makes of the handovers before it, and of its own. -/
theorem call_handed (cfg : Config) (me : Nat) (w : Nat → Answer) (hadm : admits call s = true)
    (hI : Dated s) : Underway s ((handle cfg me call).exec w s).state :=
  call_invariant (I := fun _ => Underway s) (P := fun _ _ => True) w hadm
    ⟨hI, rfl, fun _ _ hh => hh, fun _ hnot hdone => absurd hdone hnot⟩
    (fun _ _ _ _ hunder _ hstep => hunder.step hstep) fun _ _ => trivial

/-- More than 24 hours after the handover, a claim is late exactly where the window applies. -/
theorem Handed.late_iff {τ : Time} (hhanded : Handed o τ s) (hI : Dated s)
    (hrow : s.orders.find? o = some row) (hlater : τ + claimWindowMs < s.now) :
    LateClaim s row ↔ s.windowApplies o = true := by
  have hid : row.id = o := Table.key_of_find? hrow
  have hwindow : s.windowApplies o = true ↔
      (row.status = .delivered ∨ row.status = .completed) ∧ row.fulfillmentChoice = .delivery := by
    simp [Db.windowApplies, hrow]
  rw [hwindow, LateClaim, hid]
  refine and_congr_right fun _ => ⟨fun hlate => ?_, fun hchoice => ?_⟩
  · obtain ⟨t, ht, -⟩ := (Option.any_eq_true _ _).mp hlate
    obtain ⟨r, hlatest, hat⟩ := Option.bind_eq_some_iff.mp ht
    obtain ⟨hr, rfl⟩ := Db.find?_latestDelivery hlatest
    have hdelivered : r.status = .delivered := by
      rw [(hI.proven.sound _ r hr).delivered, ← hI.stamp _ r hr, hat]
      rfl
    exact hI.proven.choice _ r row hr hrow (by simp [hdelivered])
  · obtain ⟨row', hrow', hdelivery⟩ := hhanded
    obtain rfl : row = row' := Option.some.inj (hrow.symm.trans hrow')
    obtain ⟨d, r, t, hr, rfl, -, hat, hle⟩ := hdelivery hchoice
    rw [hI.proven.paired.latestDelivery hr, Option.bind_some, hat, Option.any_some, decide_eq_true_eq]
    exact Nat.lt_of_le_of_lt (Nat.add_le_add_right hle _) hlater

/-- What comes of a claim more than 24 hours after the handover. -/
theorem claim_outcome {τ : Time} (w : Nat → Answer) (hclaim : call.claims o = true) (hI : Dated s)
    (hhanded : Handed o τ s) (hlater : τ + claimWindowMs < s.now) :
    AnsweredLate o (⟨call, s, (handle cfg me call).exec w s⟩ : CallRecord (service cfg)) := by
  cases call with
  | createDispute sub o' dto =>
    obtain rfl : o' = o := of_decide_eq_true hclaim
    obtain ⟨row, hrow, -⟩ := id hhanded
    -- the guard reads the same date the handover wrote: the two lemmas below are
    -- the handler with the guard taken and not taken
    have hiff := hhanded.late_iff hI hrow hlater
    have hlate : LateClaim s row →
        let out := (handle cfg me (.createDispute sub o' dto)).exec w s
        (∃ e, out.result = .error e ∧ (s.userIdOf sub = some row.buyerId → e = lateClaim)) ∧
          out.state = s := by
      intro hlate
      have hsat : Sat aloneContract (fun _ r s' => (∃ e, r = .error e ∧
          (s.userIdOf sub = some row.buyerId → e = lateClaim)) ∧ s' = s)
          (handle cfg me (.createDispute sub o' dto)) [] s := by
        refine sat_bind ((createDispute_late hrow hlate).post fun h r s' hr => ?_)
        obtain ⟨⟨e, rfl, he⟩, hsame⟩ := hr
        exact ⟨⟨e, rfl, he⟩, hsame⟩
      exact (hsat.exec (fun _ => rfl) w).2
    have hnot : ¬LateClaim s row →
        ((handle cfg me (.createDispute sub o' dto)).exec w s).result ≠ .error lateClaim := by
      intro hnot
      have hsat : Sat aloneContract (Timely Reply) (handle cfg me (.createDispute sub o' dto)) [] s := by
        refine sat_bind ((createDispute_timely hrow hnot).post fun h r s' hr => ?_)
        cases r with
        | error e => exact timely_of fun he => hr (he ▸ rfl)
        | ok _ => exact nofun
      exact (hsat.exec (fun _ => rfl) w).2
    refine ⟨fun happlies => ?_, fun hbuyer => ⟨fun hrefused => ?_, fun happlies => ?_⟩⟩
    · obtain ⟨⟨e, he, -⟩, hsame⟩ := hlate (hiff.mpr happlies)
      exact ⟨⟨e, he⟩, hsame⟩
    · by_contra hout
      exact hnot (fun h => hout (hiff.mp h)) hrefused
    · obtain ⟨⟨e, he, hown⟩, -⟩ := hlate (hiff.mpr happlies)
      simp only [Call.claimedByBuyer, hrow, Option.any_some, Bool.and_eq_true, decide_eq_true_eq]
        at hbuyer
      exact he.trans (congrArg Except.error (hown hbuyer.2))
  | _ => cases hclaim

/-- What a run has come to: the dates, the handovers so far, and the late claims so far. -/
structure Answered (o : OrderId) (s : Db) (calls : List (CallRecord (service cfg))) : Prop where
  dated : Dated s
  handed : ∀ c ∈ calls, handsOver o c = true → Handed o c.pre.now s
  claims : calls.Pairwise fun claim handover =>
    claimsLate o claim handover = true → AnsweredLate o claim

theorem Answered.start (h0 : Fresh s) : Answered o s ([] : List (CallRecord (service cfg))) where
  dated := .of_fresh h0
  handed _ hc := absurd hc List.not_mem_nil
  claims := .nil

theorem Dated.event (hI : Dated s) (e : Event) : Dated (applyEvent e s) := by
  obtain ⟨hp, hstamp, hpast⟩ := hI
  cases e with
  | tick ms =>
    refine ⟨⟨⟨hp.paired.order, hp.paired.unique⟩, hp.sound, hp.order, hp.choice⟩, hstamp, ?_⟩
    exact fun d r t hr ht => Nat.le_add_right_of_le (hpast d r t hr ht)
  | paymentSucceeds pi =>
    exact ⟨⟨⟨hp.paired.order, hp.paired.unique⟩, hp.sound, hp.order, hp.choice⟩, hstamp, hpast⟩

theorem Handed.event {τ : Time} (hhanded : Handed o τ s) (e : Event) : Handed o τ (applyEvent e s) := by
  cases e with
  | tick ms => exact hhanded
  | paymentSucceeds pi => exact hhanded

theorem Answered.event {calls : List (CallRecord (service cfg))} (hI : Answered o s calls)
    (e : Event) : Answered o (applyEvent e s) calls where
  dated := hI.dated.event e
  handed c hc hover := (hI.handed c hc hover).event e
  claims := hI.claims

theorem Answered.answer {calls : List (CallRecord (service cfg))} (hI : Answered o s calls)
    (w : Nat → Answer) (hadm : admits call s = true) :
    Answered o ((handle cfg calls.length call).exec w s).state
      (⟨call, s, (handle cfg calls.length call).exec w s⟩ :: calls) := by
  obtain ⟨hdated, _, hkept, hown⟩ := call_handed cfg calls.length w hadm hI.dated
  refine ⟨hdated, fun c hc hover => ?_, List.pairwise_cons.mpr ⟨fun c hc hlate => ?_, hI.claims⟩⟩
  · rcases List.mem_cons.mp hc with rfl | hc
    · rw [handsOver, Bool.and_eq_true, decide_eq_true_eq, decide_eq_true_eq] at hover
      exact hown o hover.1 hover.2
    · exact hkept o _ (hI.handed c hc hover)
  · rw [claimsLate, Bool.and_eq_true, Bool.and_eq_true, decide_eq_true_eq] at hlate
    exact claim_outcome w hlate.1.1 hI.dated (hI.handed c hc hlate.1.2) hlate.2

end

/-- **The claims of a run that are refused for being late.** A claim made more than 24
hours after the order was handed over is refused, and changes nothing, if the order is
still DELIVERED or COMPLETED and a driver was to bring it. Its buyer is told that the
claim is late in exactly these cases. -/
theorem claim_window_iff (cfg : Config) (s₀ : Db) (h0 : Fresh s₀)
    (inputs : List (Input (service cfg))) (o : OrderId) :
    (serialRun s₀ inputs).calls.Pairwise fun claim handover =>
      claimsLate o claim handover = true → AnsweredLate o claim := by
  have hI : Answered o (serialRun s₀ inputs).state (serialRun s₀ inputs).calls :=
    serial_invariant (P := fun _ _ => True) (I := fun (s : Db) calls => Answered o s calls)
      (.start h0) (fun e s calls hI => hI.event e)
      (fun call w s calls hI hadm _ => hI.answer w hadm) inputs fun _ _ _ _ => trivial
  exact hI.claims

/-- An order is paid and prepared, waits for a driver in vain and is switched to pickup; its buyer
picks it up, and more than a day later says that it was the wrong one. -/
def switchedClaimedLate : List (Input (service smallTownConfig)) :=
  orderPaid ++ [smallTownCall (.startPreparing "seller" ⟨0, 0⟩), smallTownCall (.markReady "seller" ⟨0, 0⟩),
    smallTownCall (.handleNoDriverTimeout ⟨0, 0⟩), smallTownCall (.decideNoDriver "buyer" ⟨0, 0⟩ .switchToPickup),
    smallTownCall (.confirmOrderPickup "buyer" ⟨0, 0⟩), .event (.tick 86400001),
    smallTownCall (.createDispute "buyer" ⟨0, 0⟩ ⟨.wrongOrder, none, none, none⟩)]

/-- The driver delivers an order. -/
def orderDelivered : List (Input (service smallTownConfig)) :=
  orderPickedUp ++ [smallTownCall (.confirmDelivery "driver" ⟨3, 2⟩ ⟨"token", none, none⟩)]

/-- A delivered order is refunded at once, as the wrong one, and more than a day later
the buyer reports spoiled food, too. -/
def refundedClaimedLate : List (Input (service smallTownConfig)) :=
  orderDelivered ++ [smallTownCall (.createDispute "buyer" ⟨0, 0⟩ ⟨.wrongOrder, none, none, none⟩),
    .event (.tick 86400001),
    smallTownCall (.createDispute "buyer" ⟨0, 0⟩ ⟨.spoiledFood, none, none, none⟩)]

/-- A delivered order, claimed as the wrong one more than a day later. -/
def deliveredClaimedLate : List (Input (service smallTownConfig)) :=
  orderDelivered ++ [.event (.tick 86400001),
    smallTownCall (.createDispute "buyer" ⟨0, 0⟩ ⟨.wrongOrder, none, none, none⟩)]

theorem delivered_claim_refused :
    ((serialRun smallTown deliveredClaimedLate).calls.any fun claim =>
      (serialRun smallTown deliveredClaimedLate).calls.any fun handover =>
        claimsLate ⟨0, 0⟩ claim handover && Db.windowApplies claim.pre ⟨0, 0⟩) = true ∧
      (serialRun smallTown deliveredClaimedLate).calls.Pairwise fun claim handover =>
        claimsLate ⟨0, 0⟩ claim handover = true → AnsweredLate ⟨0, 0⟩ claim :=
  ⟨by decide +kernel, claim_window_iff smallTownConfig smallTown smallTown_fresh _ _⟩

/-- **Late claims that are accepted**: of an order that was picked up, and of one that is
REFUNDED by then. -/
theorem late_claims_accepted :
    ¬ClaimWindow smallTownConfig smallTown switchedClaimedLate ∧
      ¬ClaimWindow smallTownConfig smallTown refundedClaimedLate := by
  have hfails : ∀ {inputs : List (Input (service smallTownConfig))},
      ClaimWindow smallTownConfig smallTown inputs →
        (serialRun smallTown inputs).calls.Pairwise fun claim handover =>
          claimsLate ⟨0, 0⟩ claim handover = true → claim.outcome.result.toBool = false := by
    intro inputs hwindow
    refine (hwindow ⟨0, 0⟩).imp fun {claim handover} hrefused hlate => ?_
    obtain ⟨⟨e, he⟩, -⟩ := hrefused hlate
    rw [he]
    rfl
  constructor
  · intro hwindow
    have hall := hfails hwindow
    revert hall
    decide +kernel
  · intro hwindow
    have hall := hfails hwindow
    revert hall
    decide +kernel

end IncaCook
