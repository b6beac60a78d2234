import IncaCook.Library.Latches
import IncaCook.Steps.Notices

/-!
# The seller is told once

Both ways to a confirmed order, the buyer's call and Stripe's webhook, look at the status of
the order, and write `CONFIRMED` by a later statement whose condition is the id alone. Two
calls that both look before either writes, both confirm the order, and both tell its seller.

Main results:

* `NoticesSound.transition_unique`: no two steps take the order from `PENDING` to `CONFIRMED`;
* `seller_told_once`: the seller is told once, and `confirmedAt` is set once, in the runs in
  which every write that confirms the order still finds it pending;
* `both_tell`: the app and the webhook at the same moment.
-/

namespace IncaCook

open Prog Orders Webhooks

/-! ## Every interleaving -/

/-- The order is pending without a date, or confirmed with one. -/
def Agreed (o : OrderId) (s : Db) : Prop :=
  s.orderStatus o = some .pending ∧ s.confirmedAt o = none ∨
    s.orderStatus o = some .confirmed ∧ (s.confirmedAt o).isSome = true

/-- A write that confirms the order finds it pending. -/
def FindsPending (o : OrderId) (site : ConfirmationSite) (s : Db) : Prop :=
  site.confirms o = true → s.orderStatus o = some .pending

instance (o : OrderId) (site : ConfirmationSite) (s : Db) : Decidable (FindsPending o site s) :=
  inferInstanceAs (Decidable (_ → _))

/-- The step sets `confirmedAt`. -/
def SetsConfirmedAt (o : OrderId) (t : StepRecord confirmationMachine) : Prop :=
  t.site.confirms o = true ∧ Db.confirmedAt t.post o = some (Db.now t.pre)

instance (o : OrderId) : DecidablePred (SetsConfirmedAt o) := fun _ =>
  inferInstanceAs (Decidable (_ ∧ _))

/-- The order of this seller is confirmed once, dated once and told once: never more often, and
no less when all calls are over and one of them went well. -/
structure ToldOnce {cfg : Config} (o : OrderId) (seller : UserId) (s₀ : Db)
    (actions : List (Pool.Action (confirmationService cfg))) : Prop where
  transition : (poolRun s₀ actions).trace.countP (fun e => Transitions o e.toStepRecord) ≤ 1
  told : (poolRun s₀ actions).trace.countP (fun e => e.site.notifies o) ≤ 1
  toSeller : ∀ e ∈ (poolRun s₀ actions).trace, e.site.notifies o = true →
    e.site = .notifyOrderPaid seller o
  set : (poolRun s₀ actions).trace.countP (fun e => SetsConfirmedAt o e.toStepRecord) ≤ 1
  kept : ∀ before after, actions = before ++ after → ∀ t,
    Db.confirmedAt (poolRun s₀ before).state o = some t →
      Db.confirmedAt (poolRun s₀ actions).state o = some t
  allOver : Pool.AllOver (poolRun s₀ actions) → (∃ j r, (poolRun s₀ actions).result? j = some (.ok r)) →
    (poolRun s₀ actions).trace.countP (fun e => Transitions o e.toStepRecord) = 1 ∧
      (poolRun s₀ actions).trace.countP (fun e => e.site.notifies o) = 1

/-- The order has moved on. -/
def PastPending (o : OrderId) (s : Db) : Prop := s.orderStatus o ≠ some .pending

section

variable {o : OrderId} {seller : UserId} {recorded : Bool} {s s' : Db} {cfg : Config}
  {h : List (StepRecord confirmationMachine)} {site : ConfirmationSite}

theorem NoticeStep.agreed (hstep : NoticeStep o seller recorded h site s s') (hs : Agreed o s) :
    Agreed o s' := by
  cases hstep with
  | quiet _ _ _ => exact hs
  | refused _ _ _ => exact hs
  | confirms _ hpost _ => exact .inr ⟨hpost.orderStatus, by rw [hpost.confirmedAt]; rfl⟩
  | tells _ _ _ => exact hs

variable {s₀ : Db} {actions : List (Pool.Action (confirmationService cfg))}

/-- What is known of every run. -/
abbrev NoticesSound (o : OrderId) (seller : UserId) (recorded : Bool) (s₀ : Db)
    (actions : List (Pool.Action (confirmationService cfg))) : Prop :=
  Pool.Sound (fun _ => noticeContract o seller recorded) (fun _ _ => Ending o)
    (fun s => Known o seller recorded s ∧ Agreed o s) s₀ (poolRun s₀ actions)

theorem notices_sound (hknown : Known o seller recorded s₀) (hagreed : Agreed o s₀)
    (hfor : ∀ c, Pool.Action.arrive c ∈ actions → c.IsFor o) :
    NoticesSound o seller recorded s₀ actions := by
  have hany : (poolRun s₀ actions).Steps fun _ _ => True := fun _ _ => trivial
  refine Pool.sound_of ⟨hknown, hagreed⟩ (fun _ s hs => hs.1) (fun _ _ _ _ _ hbc => hbc)
    (fun _ _ _ _ _ _ _ hend => hend) ?_ ?_ (fun ms s hs => ⟨hs, fun _ => hs.1⟩) actions ?_ hany
  · exact fun _ _ _ _ _ hs _ hstep => ⟨hstep.known hs.1, hstep.agreed hs.2⟩
  · exact fun _ _ _ _ _ _ _ hs _ hstep => hstep.known hs.1
  · exact fun _ c _ harrive _ _ _ _ => confirmationHandle_sat (hfor c harrive)

/-- Once past `PENDING` an order stays there. -/
theorem NoticesSound.latch (hsound : NoticesSound o seller recorded s₀ actions) :
    Pool.Latch (PastPending o) (poolRun s₀ actions) := by
  refine ⟨fun ms s => Iff.rfl, fun e he hpast => ?_⟩
  obtain ⟨_, -, -, hstep⟩ := hsound.step e he
  rcases hstep.same_or with hsame | ⟨-, hpost⟩
  · rwa [hsame]
  · rw [PastPending, hpost.orderStatus]
    simp

/-- The transition is what takes the order past `PENDING`. -/
theorem NoticesSound.transitions_iff (hsound : NoticesSound o seller recorded s₀ actions)
    {e : Entry confirmationMachine} (he : e ∈ (poolRun s₀ actions).trace) :
    Transitions o e.toStepRecord ↔ Pool.Shuts (PastPending o) e := by
  constructor
  · rintro ⟨hpre, hpost⟩
    exact ⟨fun hpast => hpast hpre, by rw [PastPending, hpost]; simp⟩
  · rintro ⟨hpre, hpost⟩
    obtain ⟨_, -, hagreed, -⟩ := hsound.step e he
    rcases hagreed.2 with ⟨hpending, -⟩ | ⟨hconfirmed, -⟩
    · exact absurd hpending hpost
    · exact ⟨not_not.mp hpre, hconfirmed⟩

/-- **No two steps confirm a pending order.** -/
theorem NoticesSound.transition_unique (hsound : NoticesSound o seller recorded s₀ actions)
    {e e' : Entry confirmationMachine} (he : e ∈ (poolRun s₀ actions).trace)
    (he' : e' ∈ (poolRun s₀ actions).trace) (ht : Transitions o e.toStepRecord)
    (ht' : Transitions o e'.toStepRecord) : e = e' :=
  hsound.latch.unique he he' ((hsound.transitions_iff he).mp ht) ((hsound.transitions_iff he').mp ht')

theorem NoticesSound.transition_le_one (hsound : NoticesSound o seller recorded s₀ actions) :
    (poolRun s₀ actions).trace.countP (fun e => Transitions o e.toStepRecord) ≤ 1 := by
  refine countP_le_one_of_split fun later e earlier hsplit ht e' he' ht' => ?_
  have hmem : e ∈ (poolRun s₀ actions).trace := by simp [hsplit]
  have hmem' : e' ∈ (poolRun s₀ actions).trace := by simp [hsplit, he']
  have hshuts := (hsound.transitions_iff hmem).mp (of_decide_eq_true ht)
  have hshuts' := (hsound.transitions_iff hmem').mp (of_decide_eq_true ht')
  exact hsound.latch.not_shuts hsplit he' hshuts'.2 hshuts

/-- The seller is told by the call that confirmed the order, after it did. -/
theorem NoticesSound.told_after (hsound : NoticesSound o seller recorded s₀ actions)
    (hc : (poolRun s₀ actions).Steps (FindsPending o)) {later earlier : List (Entry confirmationMachine)}
    {e : Entry confirmationMachine} (hsplit : (poolRun s₀ actions).trace = later ++ e :: earlier)
    (hsite : e.site.notifies o = true) :
    e.site = .notifyOrderPaid seller o ∧
      (∀ e' ∈ earlier, e'.thread = e.thread → e'.site.notifies o = false) ∧
      ∃ e' ∈ earlier, e'.thread = e.thread ∧ Transitions o e'.toStepRecord := by
  obtain ⟨-, -, hstep⟩ := hsound.guar later e earlier hsplit
  obtain ⟨hseller, hfirst, t, ht, hconfirms, hpost⟩ := hstep.telling hsite
  refine ⟨hseller, fun e' he' hthread => ?_, ?_⟩
  · refine hfirst e'.toStepRecord (List.mem_map.mpr ⟨e', ?_, rfl⟩)
    exact List.mem_filter.mpr ⟨he', decide_eq_true hthread⟩
  · obtain ⟨e', he', rfl⟩ := List.mem_map.mp ht
    obtain ⟨hearlier, hthread⟩ := List.mem_filter.mp he'
    have hmem : e' ∈ (poolRun s₀ actions).trace := by simp [hsplit, hearlier]
    exact ⟨e', hearlier, of_decide_eq_true hthread, hc e' hmem hconfirms, hpost.orderStatus⟩

/-- **No two notices.** Each comes after the one transition, from the call that made it. -/
theorem NoticesSound.told_le_one (hsound : NoticesSound o seller recorded s₀ actions)
    (hc : (poolRun s₀ actions).Steps (FindsPending o)) :
    (poolRun s₀ actions).trace.countP (fun e => e.site.notifies o) ≤ 1 := by
  refine countP_le_one_of_split fun later e earlier hsplit htells e' he' htells' => ?_
  obtain ⟨-, hfirst, t, ht, hthread, htrans⟩ := hsound.told_after hc hsplit htells
  obtain ⟨between, before, rfl⟩ := List.append_of_mem he'
  have hsplit' : (poolRun s₀ actions).trace = (later ++ e :: between) ++ e' :: before := by
    rw [hsplit, List.append_assoc, List.cons_append]
  obtain ⟨-, -, t', ht', hthread', htrans'⟩ := hsound.told_after hc hsplit' htells'
  have hsame : t = t' := by
    refine hsound.transition_unique ?_ ?_ htrans htrans'
    · rw [hsplit]
      exact List.mem_append_right _ (List.mem_cons_of_mem _ ht)
    · rw [hsplit']
      exact List.mem_append_right _ (List.mem_cons_of_mem _ ht')
  -- so both notices are from one call, and that call tells once
  have hcall : e'.thread = e.thread := by rw [← hthread', ← hthread, hsame]
  have hnot := hfirst e' (by simp) hcall
  rw [htells'] at hnot
  cases hnot

/-- A write that sets `confirmedAt` finds it unset. -/
theorem NoticesSound.set_transitions (hsound : NoticesSound o seller recorded s₀ actions)
    (hc : (poolRun s₀ actions).Steps (FindsPending o)) {e : Entry confirmationMachine}
    (he : e ∈ (poolRun s₀ actions).trace) (hset : SetsConfirmedAt o e.toStepRecord) :
    Transitions o e.toStepRecord := by
  obtain ⟨hsite, hdate⟩ := hset
  obtain ⟨_, -, ⟨-, hagreed⟩, -⟩ := hsound.step e he
  rcases hagreed with ⟨-, hnone⟩ | ⟨hconfirmed, -⟩
  · rw [hnone] at hdate
    cases hdate
  · exact ⟨hc e he hsite, hconfirmed⟩

/-- **`confirmedAt` never moves.** -/
theorem NoticesSound.kept (hsound : NoticesSound o seller recorded s₀ actions)
    (hc : (poolRun s₀ actions).Steps (FindsPending o))
    {before after : List (Pool.Action (confirmationService cfg))} (hsplit : actions = before ++ after)
    {t : Time} (hdate : Db.confirmedAt (poolRun s₀ before).state o = some t) :
    Db.confirmedAt (poolRun s₀ actions).state o = some t := by
  subst hsplit
  refine Pool.leads (R := fun s s' : Db => s.confirmedAt o = some t → s'.confirmedAt o = some t)
    (fun _ hs => hs) (fun _ _ _ hab hbc ha => hbc (hab ha)) (fun _ _ hs => hs) before after ?_ hdate
  intro e he hpre
  obtain ⟨_, hagreed, -, hstep⟩ := hsound.step e he
  rcases hstep.same_or with hsame | ⟨hsite, -⟩
  · rwa [hsame]
  · -- a pending order has no date yet
    rcases hagreed.2 with ⟨-, hnone⟩ | ⟨hconfirmed, -⟩
    · rw [hnone] at hpre
      cases hpre
    · have hpending := hc e he hsite
      rw [hconfirmed] at hpending
      cases hpending

/-- A call that is over, and confirmed the order, has told the seller. -/
theorem NoticesSound.told_of_transition (hsound : NoticesSound o seller recorded s₀ actions)
    (hover : Pool.AllOver (poolRun s₀ actions)) {e : Entry confirmationMachine}
    (he : e ∈ (poolRun s₀ actions).trace) (htrans : Transitions o e.toStepRecord) :
    0 < (poolRun s₀ actions).trace.countP (fun e => e.site.notifies o) := by
  -- the call that took the step has ended, and so it has told
  obtain ⟨r, hr⟩ := Option.isSome_iff_exists.mp (hover e.thread (hsound.arrived e he))
  obtain ⟨c, -, hend⟩ := hsound.result hr
  rcases hend with ⟨t, ht, htells⟩ | ⟨hnot, -⟩
  · obtain ⟨e', he', rfl⟩ := List.mem_map.mp ht
    exact List.countP_pos_iff.mpr ⟨e', (List.mem_filter.mp he').1, htells⟩
  · refine absurd htrans (hnot e.toStepRecord (List.mem_map.mpr ⟨e, ?_, rfl⟩))
    exact List.mem_filter.mpr ⟨he, decide_eq_true rfl⟩

/-- When all is over and some call went well, the order has been confirmed. -/
theorem NoticesSound.exists_transition (hsound : NoticesSound o seller recorded s₀ actions)
    (hpending : s₀.orderStatus o = some .pending) (hc : (poolRun s₀ actions).Steps (FindsPending o))
    {j : Nat} {r : ConfirmationReply} (hr : (poolRun s₀ actions).result? j = some (.ok r)) :
    ∃ e ∈ (poolRun s₀ actions).trace, Transitions o e.toStepRecord := by
  obtain ⟨c, -, hend⟩ := hsound.result hr
  rcases hend with ⟨t, ht, htells⟩ | ⟨-, hseen⟩
  · -- it has told the seller, after a transition of its own
    obtain ⟨e, he, rfl⟩ := List.mem_map.mp ht
    obtain ⟨later, earlier, hsplit⟩ := List.append_of_mem (List.mem_filter.mp he).1
    obtain ⟨-, -, e', he', -, htrans⟩ := hsound.told_after hc hsplit htells
    exact ⟨e', by simp [hsplit, he'], htrans⟩
  · -- it has seen the order past `PENDING`, where some step took it
    obtain ⟨t, ht, hpast⟩ := hseen r rfl
    obtain ⟨e, he, rfl⟩ := List.mem_map.mp ht
    obtain ⟨e', he', hshuts⟩ := hsound.latch.exists_shuts (not_not.mpr hpending)
      (List.mem_filter.mp he).1 hpast
    exact ⟨e', he', (hsound.transitions_iff he').mpr hshuts⟩

/-- **Told once, when every write finds the order pending.** -/
theorem NoticesSound.toldOnce (hsound : NoticesSound o seller recorded s₀ actions)
    (hpending : s₀.orderStatus o = some .pending) (hc : (poolRun s₀ actions).Steps (FindsPending o)) :
    ToldOnce o seller s₀ actions := by
  have htold := hsound.told_le_one hc
  have htrans := hsound.transition_le_one
  refine ⟨htrans, htold, fun e he hsite => ?_, ?_, fun _ _ hsplit _ => hsound.kept hc hsplit, ?_⟩
  · obtain ⟨later, earlier, hsplit⟩ := List.append_of_mem he
    exact (hsound.told_after hc hsplit hsite).1
  · -- each write that sets the date is the transition
    refine Nat.le_trans (List.countP_mono_left fun e he hset => ?_) htrans
    exact decide_eq_true (hsound.set_transitions hc he (of_decide_eq_true hset))
  · rintro hover ⟨j, r, hr⟩
    obtain ⟨e, he, ht⟩ := hsound.exists_transition hpending hc hr
    have htwo := hsound.told_of_transition hover he ht
    have hone : 0 < (poolRun s₀ actions).trace.countP (fun e => Transitions o e.toStepRecord) :=
      List.countP_pos_iff.mpr ⟨e, he, decide_eq_true ht⟩
    exact ⟨by omega, by omega⟩

/-- **A write that finds the order confirmed sets its date again**, when nothing can stop it. -/
theorem NoticesSound.finds_pending (hsound : NoticesSound o seller true s₀ actions)
    (hpending : s₀.orderStatus o = some .pending)
    (hset : (poolRun s₀ actions).trace.countP (fun e => SetsConfirmedAt o e.toStepRecord) ≤ 1) :
    (poolRun s₀ actions).Steps (FindsPending o) := by
  let writes (trace : List (Entry confirmationMachine)) :=
    trace.countP fun e => SetsConfirmedAt o e.toStepRecord
  -- while nothing has been written the order is pending, and a first write found it so
  let inv (s : Db) (trace : List (Entry confirmationMachine)) :=
    (writes trace = 0 → s.orderStatus o = some .pending) ∧
      (writes trace ≤ 1 → ∀ e ∈ trace, FindsPending o e.site e.pre)
  have hrun : inv (poolRun s₀ actions).state (poolRun s₀ actions).trace := by
    refine Pool.history (I := inv) ⟨fun _ => hpending, fun _ => by simp⟩ (fun _ _ _ hI => hI) actions ?_
    rintro later e earlier hsplit ⟨hnone, hone⟩
    obtain ⟨-, -, hstep⟩ := hsound.guar later e earlier hsplit
    by_cases hsite : e.site.confirms o = true
    · have hpost := hstep.goes_through hsite
      have hcount : writes (e :: earlier) = writes earlier + 1 :=
        List.countP_cons_of_pos (decide_eq_true ⟨hsite, hpost.confirmedAt⟩)
      refine ⟨fun hzero => by omega, fun hle => List.forall_mem_cons.mpr ⟨fun _ => hnone ?_, hone ?_⟩⟩
      · omega
      · omega
    · have hcount : writes (e :: earlier) = writes earlier :=
        List.countP_cons_of_neg fun hset => hsite (of_decide_eq_true hset).1
      have hsame : e.post = e.pre := hstep.same_or.resolve_right fun hpost => hsite hpost.1
      refine ⟨fun hzero => ?_, fun hle => List.forall_mem_cons.mpr ⟨fun hc => absurd hc hsite, hone ?_⟩⟩
      · rw [hsame]
        exact hnone (by omega)
      · omega
  exact hrun.2 hset

/-- **The seller is told once, and what it takes.** In every interleaving of calls that confirm
one pending order, the order is confirmed, dated and told once when each write that confirms it
still finds it pending; and for an order whose PaymentIntent is recorded only then. -/
theorem seller_told_once (cfg : Config) (s₀ : Db) (o : OrderId) (order : Order)
    (horder : s₀.orders.find? o = some order) (hpending : order.status = .pending)
    (hunset : order.confirmedAt = none) (actions : List (Pool.Action (confirmationService cfg)))
    (hfor : ∀ c, Pool.Action.arrive c ∈ actions → c.IsFor o) :
    ((poolRun s₀ actions).Steps (FindsPending o) → ToldOnce o order.sellerId s₀ actions) ∧
      (order.stripePaymentIntentId.isSome = true → ToldOnce o order.sellerId s₀ actions →
        (poolRun s₀ actions).Steps (FindsPending o)) := by
  have hstatus : s₀.orderStatus o = some .pending := by rw [Db.orderStatus, horder, ← hpending]; rfl
  have hdate : s₀.confirmedAt o = none := by rw [Db.confirmedAt, horder, ← hunset]; rfl
  have hsound : NoticesSound o order.sellerId order.stripePaymentIntentId.isSome s₀ actions :=
    notices_sound ⟨order, horder, rfl, id⟩ (.inl ⟨hstatus, hdate⟩) hfor
  refine ⟨hsound.toldOnce hstatus, fun hrecorded hlaw => ?_⟩
  rw [hrecorded] at hsound
  exact hsound.finds_pending hstatus hlaw.set

end

/-- The buyer's order of the small town, paid on Stripe and not yet confirmed. -/
def paidTown : Db := (serialRun smallTown (orderPaid.take 2)).state

/-- The app confirms the payment, and Stripe sends its event. -/
def appAndStripe : List (Pool.Action (confirmationService smallTownConfig)) :=
  [.arrive (.confirmPaymentForBuyer "buyer" ⟨0, 0⟩),
    .arrive (.paymentIntentSucceeded ⟨.stripe 1, some ⟨0, 0⟩, none⟩)]

/-- Steps of call `j`. -/
def confirmationSteps (j n : Nat) : List (Pool.Action (confirmationService smallTownConfig)) :=
  List.replicate n (.run j ⟨true, "", ""⟩)

/-- First the app, then Stripe. -/
def oneAfterTheOther : List (Pool.Action (confirmationService smallTownConfig)) :=
  appAndStripe ++ (confirmationSteps 0 7 ++ confirmationSteps 1 1)

/-- Both look at the order before either confirms it. -/
def atTheSameMoment : List (Pool.Action (confirmationService smallTownConfig)) :=
  appAndStripe ++ (confirmationSteps 0 3 ++ confirmationSteps 1 1 ++ confirmationSteps 0 4 ++
    [.event (1 : Nat)] ++ confirmationSteps 1 3)

theorem appAndStripe_isFor {steps : List (Pool.Action (confirmationService smallTownConfig))}
    (hsteps : ∀ c, Pool.Action.arrive c ∉ steps) :
    ∀ c, Pool.Action.arrive c ∈ appAndStripe ++ steps → c.IsFor ⟨0, 0⟩ := by
  intro c hc
  rcases List.mem_append.mp hc with hc | hc
  · simp only [appAndStripe, List.mem_cons, List.not_mem_nil, or_false] at hc
    rcases hc with hc | hc
    · obtain rfl := Pool.Action.arrive.inj hc
      rfl
    · obtain rfl := Pool.Action.arrive.inj hc
      rfl
  · exact absurd hc (hsteps c)

theorem paidTown_order : ∃ order, paidTown.orders.find? ⟨0, 0⟩ = some order ∧
    order.status = .pending ∧ order.confirmedAt = none ∧ order.sellerId = ⟨0, 101⟩ ∧
    order.stripePaymentIntentId = some (.stripe 1) := by
  have hany : (paidTown.orders.find? ⟨0, 0⟩).any (fun r => r.status = .pending ∧
      r.confirmedAt = none ∧ r.sellerId = ⟨0, 101⟩ ∧ r.stripePaymentIntentId = some (.stripe 1)) := by
    decide +kernel
  obtain ⟨order, horder, hrow⟩ := (Option.any_eq_true _ _).mp hany
  exact ⟨order, horder, of_decide_eq_true hrow⟩

/-- One after the other, the two tell the seller once. -/
theorem told_once_in_turn : ToldOnce ⟨0, 0⟩ ⟨0, 101⟩ paidTown oneAfterTheOther := by
  obtain ⟨order, horder, hpending, hunset, hseller, -⟩ := paidTown_order
  rw [← hseller]
  exact (seller_told_once smallTownConfig paidTown ⟨0, 0⟩ order horder hpending hunset oneAfterTheOther
    (appAndStripe_isFor (by simp [confirmationSteps]))).1 (by decide +kernel)

/-- **The seller is told twice**, and the date moves: the app and the webhook at the same moment. -/
theorem both_tell :
    ¬∀ (cfg : Config) (s₀ : Db) (o : OrderId) (order : Order),
      s₀.orders.find? o = some order → order.status = .pending → order.confirmedAt = none →
      (∃ pi row, order.stripePaymentIntentId = some pi ∧ s₀.paymentIntents.find? pi = some row ∧
        row.succeeded = true) →
      ∀ actions : List (Pool.Action (confirmationService cfg)),
        (∀ c, Pool.Action.arrive c ∈ actions → c.IsFor o) → ToldOnce o order.sellerId s₀ actions := by
  intro hclaim
  obtain ⟨order, horder, hpending, hunset, -, hpi⟩ := paidTown_order
  have hpaid : (paidTown.paymentIntents.find? (.stripe 1)).any PaymentIntent.succeeded := by decide +kernel
  obtain ⟨row, hrow, hsucceeded⟩ := (Option.any_eq_true _ _).mp hpaid
  have hlaw := hclaim smallTownConfig paidTown ⟨0, 0⟩ order horder hpending hunset
    ⟨.stripe 1, row, hpi, hrow, hsucceeded⟩ atTheSameMoment (appAndStripe_isFor (by simp [confirmationSteps]))
  exact absurd hlaw.told (by decide +kernel)

end IncaCook
