import IncaCook.Library.Alarms
import IncaCook.Properties.ReadyTwice
import IncaCook.Properties.WatchStarts
import IncaCook.Steps.Timers

/-!
# Whatever waits is watched

An order that waits for a driver, a buyer who has been prompted, the one delivery of an order on
the road: each is to have a timeout or a job that looks at it later. Between a statement that starts a watch and the
one that arms its timer, and between a timer that runs out and the statement that acts on it,
nothing is armed; then the call that has come so far has still to finish. A restart takes the
timeouts of a process away, and Redis may not have taken the jobs.

Main results:

* `waiting_watched`: in every interleaving, what waits is watched, or a call that will see to it
  has still to finish, or a restart has dropped its only timer.
-/

namespace IncaCook

open Prog Orders Deliveries

/-- Something waits, and no timer is to come that a restart has not taken. -/
structure Unwatched (key : TimerKey) (s : TimerDb) : Prop where
  waits : s.toDb.waits key
  unwatched : s.watched key = false
  kept : key ∉ s.dropped

/-- The statements after which something may wait unwatched: those that start a watch, and those
that take a timer away. -/
def TimerSite.raises (key : TimerKey) : TimerSite → Prop
  | .order site => site.starts = some key
  | .clear _ key' | .fire _ key' | .take key' => key' = key
  | .arm _ _ | .enqueue _ | .finish _ => False

section

variable {cfg : Config} {tcfg : TimerConfig} {p : ProcessId} {key key' : TimerKey} {me : Nat}
  {o : OrderId} {d : DeliveryId} {site : TimerSite} {s s' : TimerDb} {a : Db}

/-! ## What is watched -/

theorem watched_of_timeout {t : Timeout} (ht : t ∈ s.timeouts.rows) (hkey : t.key = key) :
    s.watched key = true := by
  rw [TimerDb.watched, Bool.or_eq_true]
  exact .inl (List.any_eq_true.mpr ⟨t, ht, decide_eq_true hkey⟩)

theorem watched_of_job {j : TimerJob} (hj : s.jobs.find? key = some j) (hdelayed : j.state = .delayed) :
    s.watched key = true := by
  rw [TimerDb.watched, Bool.or_eq_true, hj]
  exact .inr (decide_eq_true hdelayed)

theorem watched_iff : s.watched key = true ↔
    (∃ t ∈ s.timeouts.rows, t.key = key) ∨ ∃ j, s.jobs.find? key = some j ∧ j.state = .delayed := by
  simp only [TimerDb.watched, Bool.or_eq_true, List.any_eq_true, Option.any_eq_true, decide_eq_true_eq]

/-- What is watched before the step, is watched after it. -/
theorem TimerStep.watched (hstep : TimerStep cfg tcfg site s s') (hsite : ¬site.raises key)
    (hwatched : s.watched key = true) : s'.watched key = true := by
  rcases watched_iff.mp hwatched with ⟨t, ht, hkey⟩ | ⟨j, hj, hdelayed⟩
  · cases hstep with
    | idle => exact hwatched
    | order => exact hwatched
    | arm p key₁ =>
      -- the new timeout replaces one of the same name at most
      by_cases hsame : (p, key₁) = (t.process, t.key)
      · refine watched_of_timeout (Table.mem_put.mpr (.inl rfl)) ?_
        rw [Prod.mk.injEq] at hsame
        exact hsame.2.trans hkey
      · exact watched_of_timeout (Table.mem_put.mpr (.inr ⟨ht, fun h => hsame h.symm⟩)) hkey
    | clear p key₁ | fire t₁ =>
      refine watched_of_timeout (Table.mem_remove.mpr ⟨ht, fun h => hsite ?_⟩) hkey
      have hname : t.key = _ := congrArg Prod.snd h
      exact hname.symm.trans hkey
    | enqueue | take | done | fail => exact watched_of_timeout ht hkey
  · cases hstep with
    | idle => exact hwatched
    | order | arm | clear | fire => exact watched_of_job hj hdelayed
    | enqueue hnew => exact watched_of_job (Table.find?_insert_of_some hnew hj) hdelayed
    | @take key₁ _ j₁ =>
      refine watched_of_job (j := j) ?_ hdelayed
      dsimp only
      rw [Table.find?_update, if_neg fun h => hsite h.symm]
      exact hj
    | done key₁ =>
      refine watched_of_job (j := j) ?_ hdelayed
      dsimp only
      rw [Table.find?_removeMany, hj, Option.filter_some, hdelayed]
      simp
    | fail key₁ =>
      refine watched_of_job (j := j) ?_ hdelayed
      dsimp only
      rw [Table.find?_updateMany, hj, Option.map_some, hdelayed]
      simp

/-- **No other statement raises an alarm.** -/
theorem TimerStep.alarm_back (hstep : TimerStep cfg tcfg site s s') (hs : s.toDb.Stamped)
    (hsite : ¬site.raises key) (halarm : Unwatched key s') : Unwatched key s := by
  have hunwatched : s.watched key = false := by
    rw [← Bool.not_eq_true]
    intro hwatched
    have hstill := hstep.watched hsite hwatched
    rw [halarm.unwatched] at hstill
    cases hstill
  cases hstep with
  | order me call h hstep => exact ⟨hstep.waits_back hs hsite halarm.waits, hunwatched, halarm.kept⟩
  | _ => exact ⟨halarm.waits, hunwatched, halarm.kept⟩

theorem TimerStep.stamped (hstep : TimerStep cfg tcfg site s s') (hs : s.toDb.Stamped) :
    s'.toDb.Stamped := by
  cases hstep with
  | order me call h hstep => exact hstep.stamped hs
  | _ => exact hs

/-! ## Events -/

theorem applyEvent_deliveries (e : Event) (a : Db) : (applyEvent e a).deliveries = a.deliveries := by
  cases e with
  | tick ms => rfl
  | paymentSucceeds pi => rfl

theorem waits_event (e : Event) (a : Db) : (applyEvent e a).waits key ↔ a.waits key := by
  cases e with
  | tick ms => cases key <;> rfl
  | paymentSucceeds pi => cases key <;> rfl

theorem applyTimerEvent_stamped (e : TimerEvent) (hs : s.toDb.Stamped) :
    (applyTimerEvent e s).toDb.Stamped := by
  cases e with
  | order e =>
    intro r hr
    exact hs r (applyEvent_deliveries e s.toDb ▸ hr)
  | restart p => exact hs
  | evict key => exact hs

/-- A restart says what it has dropped; a failed job is no timer. -/
theorem applyTimerEvent_alarm (e : TimerEvent) (hnone : ¬Unwatched key s) :
    ¬Unwatched key (applyTimerEvent e s) := by
  intro halarm
  apply hnone
  cases e with
  | order e => exact ⟨(waits_event e s.toDb).mp halarm.waits, halarm.unwatched, halarm.kept⟩
  | restart p =>
    have hkept : key ∉ s.dropped := fun h => halarm.kept (List.mem_append_right _ h)
    refine ⟨halarm.waits, ?_, hkept⟩
    rw [← Bool.not_eq_true]
    intro hwatched
    rcases watched_iff.mp hwatched with ⟨t, ht, hkey⟩ | ⟨j, hj, hdelayed⟩
    · -- a timeout that is gone, and nothing else: it was dropped
      refine halarm.kept (List.mem_append_left _ (List.mem_filter.mpr ⟨?_, ?_⟩))
      · exact List.mem_map.mpr ⟨t, ht, hkey⟩
      · have hafter := halarm.unwatched
        rw [Bool.not_eq_true']
        exact hafter
    · have hstill := watched_of_job (s := applyTimerEvent (.restart p) s) hj hdelayed
      rw [halarm.unwatched] at hstill
      cases hstill
  | evict key₁ =>
    refine ⟨halarm.waits, ?_, halarm.kept⟩
    rw [← Bool.not_eq_true]
    intro hwatched
    have hstill : (applyTimerEvent (.evict key₁) s).watched key = true := by
      rcases watched_iff.mp hwatched with ⟨t, ht, hkey⟩ | ⟨j, hj, hdelayed⟩
      · exact watched_of_timeout ht hkey
      · refine watched_of_job (j := j) ?_ hdelayed
        simp only [applyTimerEvent]
        rw [Table.find?_removeMany, hj, Option.filter_some, hdelayed]
        simp
    rw [halarm.unwatched] at hstill
    cases hstill

/-! ## Watchdogs that look -/

/-- A call may rely on the record. -/
def recordContract : Contract machine where
  rely := Db.Trails
  guar _ _ _ _ := True

/-- Steps of the system after which nothing that they have started waits unattended. -/
abbrev AttendedWaits (key : TimerKey) (base : Prop) (h : List (StepRecord machine)) : Prop :=
  Attended (M := machine) (fun a => Db.waits a key) (fun site => Site.starts site = some key) base h

variable {h : List (StepRecord machine)} {base : Prop} {reason : Reason} {α : Type}

/-- A program that starts no watch leaves attended what was. -/
theorem unarmed_attended {q : Handler α} (hq : Free unarmedContract q) (hh : AttendedWaits key base h) :
    Sat recordContract (fun h _ _ => AttendedWaits key base h) q h a := by
  have hcalm : ∀ (h : List (StepRecord machine)) (site : Site) (s s' : Db),
      unarmedContract.guar h site s s' → site.starts = some key → s' = s := by
    intro _ site _ _ hg hstarts
    have hnone : site.starts = none := hg
    rw [hnone] at hstarts
    cases hstarts
  exact (Sat.attended (hq h a) hcalm hh).mono (fun _ _ _ => trivial) (fun _ _ _ _ _ => trivial)
    fun _ _ _ hQ => hQ.2

/-- An order of another status waits for no answer. -/
theorem not_waits_of_status {st : OrderStatus} (hstatus : a.orderStatus o = some st)
    (hst : st ≠ .noDriverAvailable) : ¬a.waits (.noDriverResponse o) := by
  intro hwaits
  have hsame : some st = some .noDriverAvailable := hstatus.symm.trans hwaits
  exact hst (Option.some.inj hsame)

/-- The transaction on rows that are still there goes through, and cancels the order. -/
theorem cancelNoDriverTx_cancels (reason : Reason) {row : Order} {delivery : Option Delivery}
    (hrow : ∃ r, a.orders.find? row.id = some r)
    (hdelivery : ∀ d ∈ delivery, ∃ r, a.deliveries.find? d.id = some r) :
    (∃ x, cancelNoDriverTx row delivery reason a = .ok x) ∧
      ∀ u a', cancelNoDriverTx row delivery reason a = .ok (u, a') →
        a'.orderStatus row.id = some .cancelled := by
  constructor
  · refine Stmt.bind_total a (Stmt.get_ok.mpr ⟨rfl, rfl⟩) ?_
    refine Stmt.bind_total () (restoreInventory_ok.mpr rfl) ?_
    refine Stmt.bind_total () (updateOrder_ok.mpr ⟨hrow, rfl⟩) ?_
    cases delivery with
    | none => exact ⟨((), _), Stmt.pure_ok.mpr ⟨rfl, rfl⟩⟩
    | some d => exact ⟨((), _), updateDelivery_ok.mpr ⟨hdelivery d rfl, rfl⟩⟩
  · intro u a' hrun
    simp only [cancelNoDriverTx, Stmt.bind_ok, Stmt.get_ok, restoreInventory_ok] at hrun
    obtain ⟨_, _, ⟨rfl, rfl⟩, _, _, rfl, _, a₁, hupdate, hrun⟩ := hrun
    have hcancelled : a₁.orderStatus row.id = some .cancelled :=
      orderStatus_of_update hupdate fun _ => rfl
    cases delivery with
    | none =>
      obtain ⟨-, rfl⟩ := Stmt.pure_ok.mp hrun
      exact hcancelled
    | some d =>
      obtain ⟨-, rfl⟩ := updateDelivery_ok.mp hrun
      exact hcancelled

/-- A cancellation ends the buyer's wait, whenever it runs. -/
theorem cancelNoDriverOrder_attended :
    Sat recordContract (fun h _ _ => AttendedWaits (.noDriverResponse o) base h)
      (cancelNoDriverOrder o reason) h a := by
  refine sat_read_bind fun a₀ _ => ⟨trivial, ?_⟩
  cases hrow : a₀.orders.find? o with
  | none =>
    refine sat_pure (attended_of_clear fun hwaits => ?_)
    have hstatus : (a₀.orders.find? o).map Order.status = some .noDriverAvailable := hwaits
    rw [hrow] at hstatus
    cases hstatus
  | some row =>
    have hid : row.id = o := Table.key_of_find? hrow
    refine sat_bind (sat_await_ok fun a₁ hR i => ?_)
    -- what was read is still there when the transaction runs
    have hstill : ∃ r, a₁.orders.find? row.id = some r := by
      obtain ⟨r, hr, -⟩ := Table.Carries.find? hR.orders hrow
      exact ⟨r, hid ▸ hr⟩
    have hthere : ∀ d ∈ a₀.latestDelivery o, ∃ r, a₁.deliveries.find? d.id = some r := by
      intro d hd
      obtain ⟨r, hr, -⟩ := Table.Carries.find? hR.deliveries (Db.find?_latestDelivery hd).1
      exact ⟨r, hr⟩
    obtain ⟨htotal, hcancels⟩ := cancelNoDriverTx_cancels reason hstill hthere
    refine ⟨htotal, fun u a₂ hrun => ⟨trivial, ?_⟩⟩
    refine unarmed_attended refundOrderIfNeeded_unarmed (attended_of_clear ?_)
    exact not_waits_of_status (hid ▸ hcancels u a₂ hrun) (by decide)

/-- The watchdog of the buyer's answer. -/
theorem autoCancelNoResponse_attended :
    Sat recordContract (fun h _ _ => AttendedWaits (.noDriverResponse o) base h)
      (autoCancelNoResponse o) h a := by
  refine sat_read_bind fun a₀ _ => ⟨trivial, sat_ite (fun _ => cancelNoDriverOrder_attended) fun hnot => ?_⟩
  refine sat_pure (attended_of_clear fun hwaits => ?_)
  obtain ⟨row, hrow, hstatus⟩ := Option.map_eq_some_iff.mp hwaits
  rw [hrow] at hnot
  simp [hstatus] at hnot

/-- The watchdog of a delivery on the road. -/
theorem handleDriverDeliveryTimeout_attended :
    Sat recordContract (fun h _ _ => AttendedWaits (.driverDelivery d) base h)
      (handleDriverDeliveryTimeout me d) h a := by
  refine sat_read_bind fun a₀ _ => ⟨trivial, ?_⟩
  cases hr : a₀.deliveries.find? d with
  | none =>
    refine sat_pure (attended_of_clear fun hwaits => ?_)
    obtain ⟨r, -, hfound, -⟩ := triggers_driverDelivery.mp hwaits.1
    rw [hr] at hfound
    cases hfound
  | some r =>
    -- what each guard finds, the watch would rule out
    have hruled : ∀ {c : Prop}, c → (r.status ∉ [DeliveryStatus.delivered, .failed, .cancelled] →
        r.pickupConfirmedAt ≠ none → r.deliveredConfirmedAt = none → r.deliveredAsAbsent = false → ¬c) →
        ¬a₀.waits (.driverDelivery d) := by
      intro c hc hnot hwaits
      obtain ⟨r₁, row, hr₁, -, hlive, hpicked, hopen, habsent, -⟩ := triggers_driverDelivery.mp hwaits.1
      obtain rfl := Option.some.inj (hr.symm.trans hr₁)
      exact hnot hlive hpicked hopen habsent hc
    refine sat_ite (fun hdelivered => ?_) fun _ => sat_ite (fun hended => ?_) fun _ =>
      sat_ite (fun hnever => ?_) fun _ => ?_
    · refine sat_pure (attended_of_clear (hruled hdelivered fun hlive _ hopen habsent => ?_))
      simp only [List.mem_cons, List.not_mem_nil, or_false, not_or] at hlive
      simp [hlive.1, hopen, habsent]
    · refine sat_pure (attended_of_clear (hruled hended fun hlive _ _ _ => ?_))
      simp only [List.mem_cons, List.not_mem_nil, or_false, not_or] at hlive
      simp [hlive.2.1, hlive.2.2]
    · exact sat_pure (attended_of_clear (hruled hnever fun _ hpicked _ _ => hpicked))
    · refine sat_read_bind fun a₁ hR => ⟨trivial, ?_⟩
      obtain ⟨r₁, hr₁, htrails⟩ := Table.Carries.find? hR.deliveries hr
      cases hrow : a₁.orders.find? r.orderId with
      | none =>
        refine sat_pure (attended_of_clear fun hwaits => ?_)
        obtain ⟨r₂, row, hr₂, hrow₂, -⟩ := triggers_driverDelivery.mp hwaits.1
        obtain rfl := Option.some.inj (hr₁.symm.trans hr₂)
        rw [htrails.orderId, hrow] at hrow₂
        cases hrow₂
      | some row =>
        refine sat_ite (fun hnot => ?_) fun _ => ?_
        · refine sat_pure (attended_of_clear fun hwaits => ?_)
          obtain ⟨r₂, row₂, hr₂, hrow₂, -, -, -, -, hin⟩ := triggers_driverDelivery.mp hwaits.1
          obtain rfl := Option.some.inj (hr₁.symm.trans hr₂)
          rw [htrails.orderId, hrow] at hrow₂
          obtain rfl := Option.some.inj hrow₂
          exact hnot hin
        · have hid : row.id = r.orderId := Table.key_of_find? hrow
          refine sat_bind (sat_await_ok fun a₂ hR₂ i => ?_)
          obtain ⟨r₂, hr₂, -⟩ := Table.Carries.find? hR₂.deliveries hr₁
          obtain ⟨row₂, hrow₂, -⟩ := Table.Carries.find? hR₂.orders hrow
          refine ⟨driverDisappearedTx_total hr₂ (hid ▸ hrow₂), fun _ a₃ hrun => ⟨trivial, ?_⟩⟩
          obtain ⟨r₃, hr₃, hfailed⟩ := driverDisappearedTx_failed hrun
          refine unarmed_attended afterDriverDisappeared_unarmed (attended_of_clear fun hwaits => ?_)
          have hidle := not_triggers_of_failed hr₃ hfailed
          exact absurd hwaits.1 (by rw [hidle]; exact Bool.false_ne_true)

/-! ## Statements that start a watch -/

/-- One statement, which may start a watch if it goes through. -/
theorem starter_attended {site : Site} {stmt : Answer → Tx α} (hh : AttendedWaits key base h) :
    Sat recordContract (fun h r _ => (∀ e, r = .error e → AttendedWaits key base h) ∧
      (site.starts ≠ some key → AttendedWaits key base h)) (await site stmt) h a := by
  refine sat_await fun a₁ _ i => ⟨fun e _ => ⟨trivial, ?_⟩, fun x a₂ _ => ⟨trivial, ?_⟩⟩
  · have hfailed : AttendedWaits key base (⟨site, a₁, a₁⟩ :: h) := hh.step fun _ => rfl
    exact ⟨fun _ _ => hfailed, fun _ => hfailed⟩
  · refine ⟨fun e he => ?_, fun hsite => hh.step fun hstarts => absurd hstarts hsite⟩
    cases he

/-! ## Calls among timers -/

/-- The contract of a call that may rely on the record. -/
def timerRecord : Contract timerMachine where
  rely s s' := s.toDb.Trails s'.toDb
  guar _ _ _ _ := True

/-- Steps of a call after which nothing is left unwatched on its account. -/
abbrev AttendedAlarm (key : TimerKey) (g : List (StepRecord timerMachine)) : Prop :=
  Attended (M := timerMachine) (Unwatched key) (TimerSite.raises key) True g

variable {g : List (StepRecord timerMachine)}

theorem within_attended (key : TimerKey) {Q : Post machine α} {q : Handler α}
    (hq : Sat recordContract Q q [] s.toDb) :
    Sat timerRecord (fun g' r s => ∃ h r₀, r = r₀.mapError timerOrders.error ∧ Q h r₀ s.toDb ∧
      (AttendedWaits key (AttendedAlarm key g) h → AttendedAlarm key g')) (q.within timerOrders) g s :=
  sat_within_attended (M := machine) (N := timerMachine) (P := timerOrders) (fun a => Db.waits a key)
    (fun site => Site.starts site = some key) (Unwatched key) (TimerSite.raises key) (fun _ => rfl)
    (fun _ halarm => halarm.waits) (fun site (hraises : TimerSite.raises key (.order site)) => hraises)
    (fun _ _ hR => hR) (fun _ _ _ _ => trivial) hq

/-- A watchdog of the system sees to what it watches. -/
theorem within_watchdog {q : Handler α}
    (hq : Sat recordContract (fun h _ _ => AttendedWaits key False h) q [] s.toDb) :
    Sat timerRecord (fun g _ _ => AttendedAlarm key g) (q.within timerOrders) g s := by
  refine (within_attended key hq).post fun g' r s hend => ?_
  obtain ⟨h, -, -, hattended, hlift⟩ := hend
  exact hlift (hattended.mono False.elim)

theorem within_unarmed {q : Handler α} (hq : Free unarmedContract q) (hg : AttendedAlarm key g) :
    Sat timerRecord (fun g _ _ => AttendedAlarm key g) (q.within timerOrders) g s := by
  have hbegin : AttendedWaits key (AttendedAlarm key g) [] := hg
  have hsat := unarmed_attended (a := s.toDb) hq hbegin
  refine (within_attended key hsat).post fun g' r s hend => ?_
  obtain ⟨h, -, -, hattended, hlift⟩ := hend
  exact hlift hattended

/-- Arming a timer answers for its key. -/
theorem schedule_attended (hg : key' = key ∨ AttendedAlarm key g) :
    Sat timerRecord (fun g _ _ => AttendedAlarm key g) (Timers.schedule tcfg p key') g s := by
  refine sat_bind (sat_await_ok fun s₁ _ i => ⟨⟨_, rfl⟩, fun _ s₂ hrun => ⟨trivial, ?_⟩⟩)
  have harmed : AttendedAlarm key (⟨.arm p key', s₁, s₂⟩ :: g) := by
    rcases hg with rfl | hg
    · cases hrun
      refine attended_of_clear fun halarm => ?_
      have hwatched := watched_of_timeout
        (s := { s₁ with timeouts := s₁.timeouts.put ⟨p, key', s₁.now + tcfg.delayMs key'⟩ })
        (Table.mem_put.mpr (.inl rfl)) rfl
      rw [halarm.unwatched] at hwatched
      cases hwatched
    · exact hg.step False.elim
  refine sat_await_ok fun s₃ _ i => ⟨⟨_, rfl⟩, fun _ s₄ _ => ⟨trivial, ?_⟩⟩
  exact harmed.step False.elim

/-- The part of `markReady` up to its transaction. -/
theorem markReady_starts (key : TimerKey) {sub : String} (hbase : base) :
    Sat recordContract (fun h r _ => (∀ e, r = .error e → AttendedWaits key base h) ∧
      ∀ existing, r = .ok existing → (Site.markReady o existing.fulfillmentChoice).starts ≠ some key →
        AttendedWaits key base h) (do
      let sellerId ← assertSellerUser sub
      let existing ← loadOrderForSellerAction o sellerId
      throwIf (existing.status ≠ .preparing) (.conflict
        ("Order is in " ++ existing.status.text ++ "; mark-ready requires PREPARING"))
      await (.markReady o existing.fulfillmentChoice) fun answer =>
        readyOrder me o existing.fulfillmentChoice answer.token
      return existing) [] a := by
  have herr : ∀ {e : Err} {h : List (StepRecord machine)}, AttendedWaits key base h →
      (∀ e', (Except.error e : Except Err Order) = .error e' → AttendedWaits key base h) ∧
      ∀ existing, (Except.error e : Except Err Order) = .ok existing →
        (Site.markReady o existing.fulfillmentChoice).starts ≠ some key → AttendedWaits key base h :=
    fun hh => ⟨fun _ _ => hh, fun _ he => by cases he⟩
  have hbegin : AttendedWaits key base [] := hbase
  refine sat_bind ((unarmed_attended (assertSellerUser_of unarmed_noop) hbegin).post ?_)
  intro h r a hh
  cases r with
  | error e => exact herr hh
  | ok seller =>
    refine sat_bind ((unarmed_attended (loadOrderForSellerAction_of unarmed_noop) hh).post fun h r a hh => ?_)
    cases r with
    | error e => exact herr hh
    | ok existing =>
      refine sat_throwIf_bind (fun _ => herr hh) fun _ => ?_
      refine sat_bind ((starter_attended hh).post fun h r a hstarter => ?_)
      cases r with
      | error e => exact herr (hstarter.1 e rfl)
      | ok u =>
        refine sat_pure ⟨fun e he => ?_, fun existing' he => ?_⟩
        · cases he
        · cases he
          exact hstarter.2

/-- The part of `confirmPickup` up to its transaction. -/
theorem confirmPickup_starts (key : TimerKey) {sub : String} {dto : ConfirmPickupDto} (hbase : base) :
    Sat recordContract (fun h r _ => (∀ e, r = .error e → AttendedWaits key base h) ∧
      (key ≠ .driverDelivery d → AttendedWaits key base h)) (do
      let driver ← assertDriver sub
      let delivery ← loadDeliveryForDriver d driver.userId
      throwIf (delivery.pickupConfirmedAt.isSome ∨ delivery.status ∈ postPickup)
        (.conflict "Retrait déjà confirmé")
      throwIf (delivery.status ∉ prePickup) (.conflict "La commande n'est pas prête pour le retrait")
      throwIf (truthy delivery.pickupToken ≠ some dto.pickupToken) (.badRequest "QR code invalide")
      await (.confirmPickup d driver.userId) fun answer =>
        confirmPickupTx delivery driver.userId dto answer.token) [] a := by
  have hbegin : AttendedWaits key base [] := hbase
  refine sat_bind ((unarmed_attended (assertDriver_of unarmed_noop) hbegin).post ?_)
  intro h r a hh
  cases r with
  | error e => exact ⟨fun _ _ => hh, fun _ => hh⟩
  | ok driver =>
    refine sat_bind ((unarmed_attended (loadDeliveryForDriver_of unarmed_noop) hh).post fun h r a hh => ?_)
    cases r with
    | error e => exact ⟨fun _ _ => hh, fun _ => hh⟩
    | ok delivery =>
      refine sat_throwIf_bind (fun _ => ⟨fun _ _ => hh, fun _ => hh⟩) fun _ => ?_
      refine sat_throwIf_bind (fun _ => ⟨fun _ _ => hh, fun _ => hh⟩) fun _ => ?_
      refine sat_throwIf_bind (fun _ => ⟨fun _ _ => hh, fun _ => hh⟩) fun _ => ?_
      refine (starter_attended hh).post fun h r a hstarter => ⟨hstarter.1, fun hkey => hstarter.2 ?_⟩
      intro hstarts
      exact hkey (Option.some.inj hstarts).symm

theorem markReady_attended {sub : String} (hg : AttendedAlarm key g) :
    Sat timerRecord (fun g _ _ => AttendedAlarm key g) (Timers.markReady tcfg p me sub o) g s := by
  refine sat_bind ((within_attended key (markReady_starts key hg)).post ?_)
  intro g r s hafter
  obtain ⟨h, r, rfl, ⟨herror, hok⟩, hlift⟩ := hafter
  cases r with
  | error e => exact hlift (herror e rfl)
  | ok existing =>
    refine sat_ite (fun hdelivery => ?_) fun hpickup => ?_
    · have harm : TimerKey.noDriver o = key ∨ AttendedAlarm key g := by
        by_cases hkey : TimerKey.noDriver o = key
        · exact .inl hkey
        · refine .inr (hlift (hok existing rfl fun hstarts => hkey ?_))
          rw [hdelivery] at hstarts
          exact Option.some.inj hstarts
      refine sat_bind ((schedule_attended harm).post fun g r s hg => ?_)
      cases r with
      | error e => exact hg
      | ok u => exact within_unarmed (findOrderWithRelations_of unarmed_noop) hg
    · refine within_unarmed (findOrderWithRelations_of unarmed_noop) (hlift (hok existing rfl fun hstarts => ?_))
      cases hchoice : existing.fulfillmentChoice with
      | delivery => exact hpickup hchoice
      | pickup =>
        rw [hchoice] at hstarts
        cases hstarts

theorem confirmPickup_attended {sub : String} {dto : ConfirmPickupDto} (hg : AttendedAlarm key g) :
    Sat timerRecord (fun g _ _ => AttendedAlarm key g) (Timers.confirmPickup tcfg p sub d dto) g s := by
  refine sat_bind ((within_attended key (confirmPickup_starts key hg)).post ?_)
  intro g r s hafter
  obtain ⟨h, r, rfl, ⟨herror, hok⟩, hlift⟩ := hafter
  cases r with
  | error e => exact hlift (herror e rfl)
  | ok u =>
    have harm : TimerKey.driverDelivery d = key ∨ AttendedAlarm key g := by
      by_cases hkey : TimerKey.driverDelivery d = key
      · exact .inl hkey
      · exact .inr (hlift (hok fun h => hkey h.symm))
    refine sat_bind ((schedule_attended harm).post fun g r s hg => ?_)
    cases r with
    | error e => exact hg
    | ok u => exact within_unarmed (loadDelivery_of unarmed_noop) hg

/-- The statement that prompts the buyer ends the wait for a driver. -/
theorem noDriverTimeout_attended {row : Order} (hrow : a.orders.find? o = some row)
    (hbase : key ≠ .noDriver o → base) :
    Sat recordContract (fun h r _ => (∃ u, r = .ok u) ∧
        (key ≠ .noDriverResponse o → AttendedWaits key base h))
      (await (.noDriverTimeout o) fun _ =>
        updateOrder o fun o => { o with status := .noDriverAvailable }) [] a := by
  refine sat_await_ok fun a₁ hR i => ?_
  obtain ⟨row₁, hrow₁, -⟩ := Table.Carries.find? hR.orders hrow
  refine ⟨⟨((), _), updateOrder_ok.mpr ⟨⟨row₁, hrow₁⟩, rfl⟩⟩, fun u a₂ hrun => ⟨trivial, ?_⟩⟩
  refine ⟨⟨u, rfl⟩, fun hother => ?_⟩
  by_cases hkey : key = .noDriver o
  · subst hkey
    refine attended_of_clear fun hwaits => ?_
    obtain ⟨⟨row₂, hrow₂, hstatus, -⟩, -⟩ := hwaits
    have hprompted := orderStatus_of_update hrun fun _ => rfl
    rw [Db.orderStatus, hrow₂, Option.map_some, hstatus] at hprompted
    cases hprompted
  · refine .inr ⟨fun hstarts => absurd ?_ hother, hbase hkey⟩
    exact (Option.some.inj hstarts).symm

/-- The watchdog of an order that waits for a driver. -/
theorem handleNoDriverTimeout_attended (hg : .noDriver o = key ∨ AttendedAlarm key g) :
    Sat timerRecord (fun g _ _ => AttendedAlarm key g) (Timers.handleNoDriverTimeout tcfg p o) g s := by
  refine sat_read_bind fun s₀ _ => ⟨trivial, ?_⟩
  -- an order that waits for no driver
  have hidle : ¬s₀.toDb.waits (.noDriver o) →
      AttendedAlarm key (⟨.order .query, s₀, s₀⟩ :: g) := by
    intro hnot
    rcases hg with rfl | hg
    · exact attended_of_clear fun halarm => hnot halarm.waits
    · exact hg.step fun _ => rfl
  cases hrow : s₀.orders.find? o with
  | none =>
    refine sat_pure (hidle fun hwaits => ?_)
    obtain ⟨⟨row, hfound, -⟩, -⟩ := hwaits
    rw [hrow] at hfound
    cases hfound
  | some row =>
    refine sat_ite (fun hclaimed => ?_) fun _ => sat_ite (fun hmoved => ?_) fun hready => ?_
    · refine sat_pure (hidle fun hwaits => ?_)
      obtain ⟨r, hr, hleft⟩ := (Option.any_eq_true ..).mp hclaimed
      have hlatest : s₀.latestDelivery o = some r := hr
      obtain ⟨hmem, hof⟩ := Db.find?_latestDelivery hlatest
      have hfree := hwaits.2 r (Table.mem_of_find? hmem) hof
      simp [hfree.1, hfree.2] at hleft
    · refine sat_pure (hidle fun hwaits => ?_)
      obtain ⟨⟨row', hfound, hstatus, hchoice⟩, -⟩ := hwaits
      obtain rfl := Option.some.inj (hrow.symm.trans hfound)
      simp [hstatus, hchoice] at hmoved
    · have hseen : key ≠ .noDriver o → AttendedAlarm key (⟨.order .query, s₀, s₀⟩ :: g) := by
        intro hkey
        rcases hg with hsame | hg
        · exact absurd hsame.symm hkey
        · exact hg.step fun _ => rfl
      have hcommit := noDriverTimeout_attended (a := s₀.toDb) hrow hseen
      refine sat_bind ((within_attended key hcommit).post fun g r s hafter => ?_)
      obtain ⟨h, r, rfl, ⟨⟨u, rfl⟩, hattended⟩, hlift⟩ := hafter
      refine schedule_attended ?_
      by_cases hkey : TimerKey.noDriverResponse o = key
      · exact .inl hkey
      · exact .inr (hlift (hattended fun h => hkey h.symm))

/-- What the buyer decides on is there. -/
structure Prompted (o : OrderId) (seen : Order × Option Delivery) (a : Db) : Prop where
  id : seen.1.id = o
  order : ∃ row, a.orders.find? o = some row
  delivery : ∀ d ∈ seen.2, ∃ r, a.deliveries.find? d.id = some r

theorem Prompted.later {seen : Order × Option Delivery} {a' : Db} (hseen : Prompted o seen a)
    (hR : a.Trails a') : Prompted o seen a' where
  id := hseen.id
  order := by
    obtain ⟨row, hrow⟩ := hseen.order
    obtain ⟨row', hrow', -⟩ := Table.Carries.find? hR.orders hrow
    exact ⟨row', hrow'⟩
  delivery d hd := by
    obtain ⟨r, hr⟩ := hseen.delivery d hd
    obtain ⟨r', hr', -⟩ := Table.Carries.find? hR.deliveries hr
    exact ⟨r', hr'⟩

/-- The checks of `decideNoDriver`. -/
theorem decideNoDriver_checks (key : TimerKey) {sub : String} (hbase : base) :
    Sat recordContract (fun h r a => AttendedWaits key base h ∧ ∀ seen, r = .ok seen → Prompted o seen a) (do
      let userId ← assertSellerUser sub
      let (order, delivery) ← Prog.read .query fun db => (db.orders.find? o, db.latestDelivery o)
      let order ← orThrow order (.notFound "Order not found")
      throwIf (order.buyerId ≠ userId) (.forbidden "Seul le client de la commande peut décider")
      throwIf (order.status ≠ .noDriverAvailable)
        (.conflict "Aucune décision n'est requise pour cette commande")
      return (order, delivery)) [] a := by
  have hbegin : AttendedWaits key base [] := hbase
  refine sat_bind ((unarmed_attended (assertSellerUser_of unarmed_noop) hbegin).post ?_)
  intro h r a hh
  cases r with
  | error e => exact ⟨hh, fun _ he => by cases he⟩
  | ok user =>
    refine sat_read_bind fun a₀ _ => ⟨trivial, ?_⟩
    have hread : AttendedWaits key base (⟨.query, a₀, a₀⟩ :: h) := hh.step fun _ => rfl
    refine sat_orThrow_bind (fun _ => ⟨hread, fun _ he => by cases he⟩) fun row hrow => ?_
    refine sat_throwIf_bind (fun _ => ⟨hread, fun _ he => by cases he⟩) fun _ => ?_
    refine sat_throwIf_bind (fun _ => ⟨hread, fun _ he => by cases he⟩) fun _ => ?_
    refine sat_pure ⟨hread, fun seen he => ?_⟩
    cases he
    exact ⟨Table.key_of_find? hrow, ⟨row, hrow⟩, fun d hd => ⟨d, (Db.find?_latestDelivery hd).1⟩⟩

/-- The switch goes through, and the order is ready again. -/
theorem switchToPickup_readies {seen : Order × Option Delivery} (hseen : Prompted o seen a) :
    let stmt : Tx Unit := do
      let db ← get
      updateOrder seen.1.id fun o => { o with status := .ready, fulfillmentChoice := .pickup }
      if let some id := seen.2.map Delivery.id then
        updateDelivery id (Orders.Delivery.cancel db.now .noDriverSwitchedToPickup)
    (∃ x, stmt a = .ok x) ∧ ∀ u a', stmt a = .ok (u, a') → a'.orderStatus o = some .ready := by
  intro stmt
  obtain ⟨order, delivery⟩ := seen
  obtain rfl : order.id = o := hseen.id
  constructor
  · refine Stmt.bind_total a (Stmt.get_ok.mpr ⟨rfl, rfl⟩) ?_
    refine Stmt.bind_total () (updateOrder_ok.mpr ⟨hseen.order, rfl⟩) ?_
    cases delivery with
    | none => exact ⟨((), _), Stmt.pure_ok.mpr ⟨rfl, rfl⟩⟩
    | some d => exact ⟨((), _), updateDelivery_ok.mpr ⟨hseen.delivery d rfl, rfl⟩⟩
  · intro u a' hrun
    simp only [stmt, Stmt.bind_ok, Stmt.get_ok] at hrun
    obtain ⟨_, _, ⟨rfl, rfl⟩, _, a₁, hupdate, hrun⟩ := hrun
    have hready : a₁.orderStatus order.id = some .ready := orderStatus_of_update hupdate fun _ => rfl
    cases delivery with
    | none =>
      obtain ⟨-, rfl⟩ := Stmt.pure_ok.mp hrun
      exact hready
    | some d =>
      obtain ⟨-, rfl⟩ := updateDelivery_ok.mp hrun
      exact hready

/-- Either decision ends the wait for it. -/
theorem decideNoDriverTail_attended {decision : NoDriverDecision} {seen : Order × Option Delivery}
    (hseen : Prompted o seen a) :
    Sat recordContract (fun h _ _ => AttendedWaits (.noDriverResponse o) False h)
      (decideNoDriverTail o decision seen) [] a := by
  have hfind : Free unarmedContract (findOrderWithRelations o) := findOrderWithRelations_of unarmed_noop
  cases decision with
  | switchToPickup =>
    refine sat_bind (sat_await_ok fun a₁ hR i => ?_)
    obtain ⟨htotal, hready⟩ := switchToPickup_readies (hseen.later hR)
    refine ⟨htotal, fun u a₂ hrun => ⟨trivial, unarmed_attended hfind (attended_of_clear ?_)⟩⟩
    exact not_waits_of_status (hready u a₂ hrun) (by decide)
  | cancelAndRefund =>
    have hcancel : Sat recordContract (fun h _ _ => AttendedWaits (.noDriverResponse o) False h)
        (cancelNoDriverOrder o .noDriverBuyerCancelled) [] a := cancelNoDriverOrder_attended
    refine sat_bind (hcancel.post fun h r a hh => ?_)
    cases r with
    | error e => exact hh
    | ok u => exact unarmed_attended hfind hh

/-- The buyer's decision is not lost with the timer that it takes away. -/
theorem decideNoDriver_attended {sub : String} {decision : NoDriverDecision} (hg : AttendedAlarm key g) :
    Sat timerRecord (fun g _ _ => AttendedAlarm key g) (Timers.decideNoDriver p sub o decision) g s := by
  refine sat_bind ((within_attended key (decideNoDriver_checks key (o := o) hg)).post ?_)
  intro g r s hafter
  obtain ⟨h, r, rfl, ⟨hattended, hseen⟩, hlift⟩ := hafter
  have hg := hlift hattended
  cases r with
  | error e => exact hg
  | ok seen =>
    refine sat_bind (sat_await_ok fun s₁ hR i => ⟨⟨_, rfl⟩, fun _ s₂ hrun => ⟨trivial, ?_⟩⟩)
    cases hrun
    have hthere := (hseen seen rfl).later hR
    by_cases hkey : TimerKey.noDriverResponse o = key
    · subst hkey
      exact within_watchdog (decideNoDriverTail_attended hthere)
    · refine within_unarmed ?_ (hg.step fun hclear => absurd hclear hkey)
      cases decision with
      | switchToPickup =>
        exact free_bind (unarmed_await rfl) fun _ => findOrderWithRelations_of unarmed_noop
      | cancelAndRefund =>
        exact free_bind cancelNoDriverOrder_unarmed fun _ => findOrderWithRelations_of unarmed_noop

/-! ## Timers that run out -/

/-- A watchdog sees to its key, whatever came before, and leaves the others as they were. -/
theorem watchdog_attended (hg : key' = key ∨ AttendedAlarm key g) :
    Sat timerRecord (fun g _ _ => AttendedAlarm key g) (Timers.watchdog tcfg p me key') g s := by
  cases key' with
  | noDriver o => exact handleNoDriverTimeout_attended hg
  | noDriverResponse o =>
    rcases hg with rfl | hg
    · exact within_watchdog autoCancelNoResponse_attended
    · exact within_unarmed (autoCancelNoResponse_of unarmed_noop fun _ => cancelNoDriverOrder_unarmed) hg
  | driverDelivery d =>
    rcases hg with rfl | hg
    · exact within_watchdog handleDriverDeliveryTimeout_attended
    · exact within_unarmed handleDriverDeliveryTimeout_unarmed hg

/-- A statement that takes the timer of a key away, or finds none. -/
theorem taken_attended (s : TimerDb) (site : TimerSite) (due : Bool) (timeouts : Table Timeout)
    (jobs : Table TimerJob) (hsite : site.raises key → key' = key) (hg : AttendedAlarm key g)
    (hidle : due = false → timeouts = s.timeouts ∧ jobs = s.jobs) :
    (due = true → key' = key ∨ AttendedAlarm key (⟨site, s, { s with timeouts, jobs }⟩ :: g)) ∧
      (due = false → AttendedAlarm key (⟨site, s, { s with timeouts, jobs }⟩ :: g)) := by
  constructor
  · intro _
    by_cases hkey : key' = key
    · exact .inl hkey
    · exact .inr (hg.step fun hraises => absurd (hsite hraises) hkey)
  · intro hdue
    obtain ⟨rfl, rfl⟩ := hidle hdue
    exact hg.step fun _ => rfl

theorem onTimeout_attended (hg : AttendedAlarm key g) :
    Sat timerRecord (fun g _ _ => AttendedAlarm key g) (Timers.onTimeout tcfg p me key') g s := by
  refine sat_bind (sat_await_ok fun s₁ _ i => ⟨⟨_, rfl⟩, fun due s₂ hrun => ⟨trivial, ?_⟩⟩)
  cases hrun
  generalize hdue : (s₁.timeouts.find? (p, key')).any (fun t => decide (t.dueAt ≤ s₁.now)) = due
  have htaken := taken_attended s₁ (.fire p key') due
    (if due = true then s₁.timeouts.remove (p, key') else s₁.timeouts) s₁.jobs
    (fun hraises => hraises) hg fun h => ⟨by simp [h], rfl⟩
  refine sat_ite (fun hd => ?_) fun hd => ?_
  · refine sat_tryCatch ((watchdog_attended (htaken.1 hd)).post fun g r s hg => ?_)
    cases r with
    | ok u => exact hg
    | error e => exact hg
  · exact htaken.2 (Bool.not_eq_true _ ▸ hd)

theorem process_attended (hg : AttendedAlarm key g) :
    Sat timerRecord (fun g _ _ => AttendedAlarm key g) (Timers.process tcfg p me key') g s := by
  refine sat_bind (sat_await_ok fun s₁ _ i => ⟨⟨_, rfl⟩, fun due s₂ hrun => ⟨trivial, ?_⟩⟩)
  cases hrun
  generalize hdue : (s₁.jobs.find? key').any
    (fun j => decide (j.state = .delayed) && decide (j.dueAt ≤ s₁.now)) = due
  have htaken := taken_attended s₁ (.take key') due s₁.timeouts
    (if due = true then s₁.jobs.update key' fun j => { j with state := .active } else s₁.jobs)
    (fun hraises => hraises) hg fun h => ⟨rfl, by simp [h]⟩
  refine sat_ite (fun hd => ?_) fun hd => ?_
  · refine sat_tryCatch (sat_bind ((watchdog_attended (htaken.1 hd)).post fun g r s hg => ?_))
    cases r with
    | ok u =>
      refine sat_await_ok fun s₃ _ i => ⟨⟨_, rfl⟩, fun _ s₄ _ => ⟨trivial, ?_⟩⟩
      exact hg.step False.elim
    | error e =>
      refine sat_bind (sat_await_ok fun s₃ _ i => ⟨⟨_, rfl⟩, fun _ s₄ _ => ⟨trivial, ?_⟩⟩)
      exact hg.step False.elim
  · exact htaken.2 (Bool.not_eq_true _ ▸ hd)

/-- **Every call answers for what it leaves unwatched.** -/
theorem timerHandle_attended {c : TimerCall} (hadm : timerAdmits c s = true) :
    Sat timerRecord (fun g _ _ => AttendedAlarm key g) (timerHandle cfg tcfg me c) [] s := by
  have hstart : AttendedAlarm key [] := trivial
  have hreply : ∀ {α : Type} {q : TimerHandler α} {f : α → Reply},
      Sat timerRecord (fun g _ _ => AttendedAlarm key g) q [] s →
      Sat timerRecord (fun g _ _ => AttendedAlarm key g) (do return f (← q)) [] s := by
    intro α q f hq
    refine sat_bind (hq.post fun g r s hg => ?_)
    cases r with
    | ok a => exact hg
    | error e => exact hg
  cases c with
  | timeout p key' => exact hreply (f := fun _ => .nothing) (onTimeout_attended hstart)
  | job p key' => exact hreply (f := fun _ => .nothing) (process_attended hstart)
  | serve p call =>
    cases call with
    | markReady sub o => exact hreply (markReady_attended hstart)
    | decideNoDriver sub o decision => exact hreply (decideNoDriver_attended hstart)
    | confirmPickup sub d dto => exact hreply (confirmPickup_attended hstart)
    | handleNoDriverTimeout o => cases hadm
    | autoCancelNoResponse o => cases hadm
    | handleDriverDeliveryTimeout d => cases hadm
    | _ => exact within_unarmed (handle_unarmed rfl) hstart

end

/-- The invariant rule of the timers' service: what is known of every step, and of every call that
is over. -/
theorem timer_sound (cfg : Config) (tcfg : TimerConfig) (key : TimerKey) {s₀ : TimerDb}
    (hs : s₀.toDb.Stamped) (actions : List (Pool.Action (timerService cfg tcfg))) :
    Pool.Sound (fun _ => timerContract cfg tcfg) (fun _ _ g _ _ => AttendedAlarm key g)
      (fun s => s.toDb.Stamped) s₀ (poolRun s₀ actions) := by
  have hany : (poolRun s₀ actions).Steps fun _ _ => True := fun _ _ => trivial
  refine Pool.sound hs (fun _ _ _ => Db.Trails.refl _) (fun _ _ _ _ => Db.Trails.trans)
    (fun _ _ _ _ _ _ _ hQ => hQ) (fun _ _ _ _ _ hI _ (hg : TimerStep ..) => hg.stamped hI)
    (fun _ _ _ _ _ _ _ _ _ (hg : TimerStep ..) => hg.trails)
    (fun e s hI => ⟨applyTimerEvent_stamped e hI, fun _ => applyTimerEvent_trails e s⟩)
    (fun me c s _ _ hadm => ?_) actions hany
  have hsteps : Sat (timerContract cfg tcfg) anyPost (timerHandle cfg tcfg me c) [] s := timerHandle_sat hadm
  have hends : Sat timerRecord (fun g _ _ => AttendedAlarm key g) (timerHandle cfg tcfg me c) [] s :=
    timerHandle_attended hadm
  exact (hsteps.and hends).mono (fun _ _ hR => ⟨hR, hR⟩) (fun _ _ _ _ hg => hg.1) fun _ _ _ hQ => hQ.2

/-- **Whatever waits is watched.** In every interleaving of requests, watchdogs, restarts and
failures of the queue, from a state in which it is watched if it waits, and in which ended
deliveries have the date of their end: an order that is ready for delivery and unclaimed, a buyer
who has been prompted and the one delivery of an order on the road each have a timeout or a job
to come. Else a restart has dropped the only one, or the call that left it unwatched (it started
the watch, or took the timer away) has still to finish. -/
theorem waiting_watched (cfg : Config) (tcfg : TimerConfig) {s₀ : TimerDb} (hs : s₀.toDb.Stamped)
    {key : TimerKey} (h0 : s₀.toDb.waits key → s₀.watched key = true)
    (actions : List (Pool.Action (timerService cfg tcfg)))
    (hwaits : (poolRun s₀ actions).state.toDb.waits key) :
    (poolRun s₀ actions).state.watched key = true ∨ key ∈ (poolRun s₀ actions).state.dropped ∨
      ∃ e ∈ (poolRun s₀ actions).trace, e.site.raises key ∧ ¬Unwatched key e.pre ∧ Unwatched key e.post ∧
        (poolRun s₀ actions).result? e.thread = none := by
  have hsound := timer_sound cfg tcfg key hs actions
  have hsteps : ∀ e ∈ (poolRun s₀ actions).trace, ¬e.site.raises key → Unwatched key e.post → Unwatched key e.pre := by
    intro e he hsite
    obtain ⟨h, hpre, -, hg⟩ := hsound.step e he
    exact hg.alarm_back hpre hsite
  have hsettled : ∀ j r, (poolRun s₀ actions).result? j = some r →
      Prog.Settled (Unwatched key) (fun _ => False) (Pool.ownSteps j (poolRun s₀ actions).trace) := by
    intro j r hr
    obtain ⟨c, -, hattended⟩ := hsound.result hr
    refine hattended.settled fun t ht hsite => ?_
    obtain ⟨e, he, rfl⟩ := List.mem_map.mp ht
    exact hsteps e (List.mem_filter.mp he).1 hsite
  have hquiet : ¬Unwatched key s₀ := by
    intro halarm
    have hwatched := h0 halarm.waits
    rw [halarm.unwatched] at hwatched
    cases hwatched
  by_cases halarm : Unwatched key (poolRun s₀ actions).state
  · obtain ⟨e, he, hpre, hpost, hopen⟩ := Pool.standing hquiet
      (fun e s hnone => applyTimerEvent_alarm e hnone) actions hsettled halarm
    refine .inr (.inr ⟨e, he, ?_, hpre, hpost, hopen⟩)
    by_contra hsite
    exact hpre (hsteps e he hsite hpost)
  · by_cases hkept : key ∈ (poolRun s₀ actions).state.dropped
    · exact .inr (.inl hkept)
    · left
      by_contra hunwatched
      exact halarm ⟨hwaits, Bool.not_eq_true _ ▸ hunwatched, hkept⟩

/-- The order is made ready by a process that then restarts; Redis has taken the job. -/
def readyThenRestart : List (Pool.Action (timerService smallTownConfig {})) :=
  .arrive (.serve 0 (.markReady "seller" ⟨0, 0⟩)) ::
    (List.replicate 6 (.run 0 ⟨true, "pickup", ""⟩) ++ [.event (.restart 0)])

/-- The small town then. -/
def restartedTown : Pool (timerService smallTownConfig {}) :=
  poolRun (TimerDb.unarmed orderPreparing) readyThenRestart

theorem restart_leaves_job :
    TimerDb.watched restartedTown.state (.noDriver ⟨0, 0⟩) = true ∨
      .noDriver ⟨0, 0⟩ ∈ TimerDb.dropped restartedTown.state ∨
      ∃ e ∈ restartedTown.trace, e.site.raises (.noDriver ⟨0, 0⟩) ∧
        ¬Unwatched (.noDriver ⟨0, 0⟩) e.pre ∧ Unwatched (.noDriver ⟨0, 0⟩) e.post ∧
        restartedTown.result? e.thread = none := by
  refine waiting_watched smallTownConfig {} ?_ ?_ readyThenRestart ⟨?_, ?_⟩
  · have hnone : orderPreparing.deliveries.rows = [] := by decide +kernel
    intro r hr
    have hmem : r ∈ orderPreparing.deliveries.rows := hr
    rw [hnone] at hmem
    cases hmem
  · rintro ⟨⟨row, hrow, hready, -⟩, -⟩
    have hfound : orderPreparing.orders.find? ⟨0, 0⟩ = some row := hrow
    have hstatus : (orderPreparing.orders.find? ⟨0, 0⟩).map Order.status = some .preparing := by
      decide +kernel
    rw [hfound, Option.map_some, hready] at hstatus
    cases hstatus
  · have hstatus : ((Db.orders (TimerDb.toDb restartedTown.state)).find? ⟨0, 0⟩).map
        (fun r => (r.status, r.fulfillmentChoice)) = some (.ready, .delivery) := by
      decide +kernel
    obtain ⟨row, hrow, hready⟩ := Option.map_eq_some_iff.mp hstatus
    exact ⟨row, hrow, congrArg Prod.fst hready, congrArg Prod.snd hready⟩
  · have hfree : (Db.deliveries (TimerDb.toDb restartedTown.state)).rows.all
        (fun r => r.status = .searching && r.driverId = none) = true := by
      decide +kernel
    intro r hr _
    have hr := List.all_eq_true.mp hfree r hr
    simpa using hr

end IncaCook
