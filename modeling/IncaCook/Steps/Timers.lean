import IncaCook.Model.Timers
import IncaCook.Properties.AuditTrail
import IncaCook.Steps.Handlers
import IncaCook.Steps.Outlines

/-!
# Steps among timers

What a step of a call can do to the orders, the timeouts and the jobs. On the orders it does what
a step of the system does; the handlers that arm and disarm watchdogs run the same statements, and
between them some that leave the orders alone.

Main results:

* `timerHandle_sat`: every call meets the contract.
-/

namespace IncaCook

open Prog Orders Deliveries

/-- A step of a call. -/
inductive TimerStep (cfg : Config) (tcfg : TimerConfig) : TimerSite → TimerDb → TimerDb → Prop where
  /-- nothing is due, or nothing is there -/
  | idle (site : TimerSite) (s : TimerDb) : TimerStep cfg tcfg site s s
  | order {site : Site} {s : TimerDb} {a : Db} (me : Nat) (call : Call) (h : List (StepRecord machine))
      (hstep : Step cfg Db.Trails me call h site s.toDb a) :
      TimerStep cfg tcfg (.order site) s { s with toDb := a }
  | arm (p : ProcessId) (key : TimerKey) (s : TimerDb) :
      TimerStep cfg tcfg (.arm p key) s
        { s with timeouts := s.timeouts.put ⟨p, key, s.now + tcfg.delayMs key⟩ }
  | clear (p : ProcessId) (key : TimerKey) (s : TimerDb) :
      TimerStep cfg tcfg (.clear p key) s { s with timeouts := s.timeouts.remove (p, key) }
  | fire {p : ProcessId} {key : TimerKey} {s : TimerDb} (t : Timeout)
      (ht : s.timeouts.find? (p, key) = some t) (hdue : t.dueAt ≤ s.now) :
      TimerStep cfg tcfg (.fire p key) s { s with timeouts := s.timeouts.remove (p, key) }
  | enqueue {key : TimerKey} {s : TimerDb} {jobs : Table TimerJob}
      (hnew : s.jobs.insert? ⟨key, s.now + tcfg.delayMs key, .delayed⟩ = some jobs) :
      TimerStep cfg tcfg (.enqueue key) s { s with jobs }
  | take {key : TimerKey} {s : TimerDb} (j : TimerJob) (hj : s.jobs.find? key = some j)
      (hdelayed : j.state = .delayed) (hdue : j.dueAt ≤ s.now) :
      TimerStep cfg tcfg (.take key) s
        { s with jobs := s.jobs.update key fun j => { j with state := .active } }
  | done (key : TimerKey) (s : TimerDb) :
      TimerStep cfg tcfg (.finish key) s
        { s with jobs := s.jobs.removeMany fun j => j.key = key && j.state = .active }
  | fail (key : TimerKey) (s : TimerDb) :
      TimerStep cfg tcfg (.finish key) s
        { s with jobs := s.jobs.updateMany (fun j => j.key = key && j.state = .active) fun j =>
          { j with state := .failed } }

/-- Every call may rely on the record, and keeps it. -/
def timerContract (cfg : Config) (tcfg : TimerConfig) : Contract timerMachine where
  rely s s' := s.toDb.Trails s'.toDb
  guar _ site s s' := TimerStep cfg tcfg site s s'

section

variable {cfg : Config} {tcfg : TimerConfig} {p : ProcessId} {key : TimerKey} {me : Nat} {call : Call}
  {o : OrderId} {d : DeliveryId} {site : TimerSite} {s s' : TimerDb}
  {h : List (StepRecord machine)} {h' : List (StepRecord timerMachine)} {α β : Type}

/-- **Every step leads to a later state.** -/
theorem TimerStep.trails (hstep : TimerStep cfg tcfg site s s') : s.toDb.Trails s'.toDb := by
  cases hstep with
  | order me call h hstep => exact hstep.trails
  | _ => exact .refl _

theorem applyTimerEvent_trails (e : TimerEvent) (s : TimerDb) : s.toDb.Trails (applyTimerEvent e s).toDb := by
  cases e with
  | order e => exact applyEvent_trails e s.toDb
  | restart p => exact .refl _
  | evict key => exact .refl _

/-! ## Parts of the system's handlers -/

/-- What is left of a program of the system may run later, from wherever the record has led. -/
def Meets (cfg : Config) (me : Nat) (call : Call) (p : Handler α) (s : TimerDb) : Prop :=
  ∃ h, Sat (stepContract cfg Db.Trails me call) anyPost p h s.toDb

theorem Meets.later {p : Handler α} (hp : Meets cfg me call p s) (hR : s.toDb.Trails s'.toDb) :
    Meets cfg me call p s' := by
  obtain ⟨h, hsat⟩ := hp
  exact ⟨h, hsat.rely (fun _ _ _ hab hbc => hab.trans hbc) (fun _ _ _ _ _ _ => trivial) hR⟩

/-- A program of the system, among timers. -/
theorem within_sat (me : Nat) (call : Call) {p : Handler α} (hp : Meets cfg me call p s) :
    Sat (timerContract cfg tcfg) anyPost (p.within timerOrders) h' s := by
  obtain ⟨h, hsat⟩ := hp
  refine sat_within (V := fun _ _ => True) (fun _ _ hR => hR) ?_ (fun _ _ _ _ _ _ _ => trivial)
    (fun _ _ _ _ _ _ => trivial) hsat trivial
  intro h _ site s a _ hg
  exact .order me call h hg

theorem within_free (me : Nat) (call : Call) {p : Handler α}
    (hp : Free (stepContract cfg Db.Trails me call) p) :
    Free (timerContract cfg tcfg) (p.within timerOrders) :=
  fun _ s => within_sat me call ⟨[], hp [] s.toDb⟩

/-- A beginning of a program of the system; the rest may follow later. -/
theorem within_sat_left (me : Nat) (call : Call) {p : Handler α} (k : α → Handler β)
    (hp : Meets cfg me call (p >>= k) s) :
    Sat (timerContract cfg tcfg) (fun _ r s => ∀ a, r = .ok a → Meets cfg me call (k a) s)
      (p.within timerOrders) h' s := by
  obtain ⟨h, hsat⟩ := hp
  refine sat_within (V := fun _ _ => True) (fun _ _ hR => hR) ?_ (fun _ _ _ _ _ _ _ => trivial)
    ?_ (sat_andThen.mp hsat) trivial
  · intro h _ site s a _ hg
    exact .order me call h hg
  · intro h _ r s _ hrest a hr
    cases r with
    | error e => cases hr
    | ok a' =>
      cases hr
      exact ⟨h, hrest⟩

/-- The rest of a program of the system, after statements about timers. -/
theorem meets_bind {q : TimerHandler α} {p : Handler β} {k : α → TimerHandler β}
    (hq : Free (timerContract cfg tcfg) q) (hp : Meets cfg me call p s)
    (hk : ∀ a h s, Meets cfg me call p s → Sat (timerContract cfg tcfg) anyPost (k a) h s) :
    Sat (timerContract cfg tcfg) anyPost (q >>= k) h' s :=
  Prog.sat_free_bind (K := fun s => Meets cfg me call p s) (fun _ _ hR hp => hp.later hR)
    (fun _ _ _ _ (hg : TimerStep ..) hp => hp.later hg.trails) hq hp hk

/-! ## Timeouts and jobs -/

theorem clearTimer_free : Free (timerContract cfg tcfg) (Timers.clearTimer p key) :=
  free_await_total fun _ _ s => ⟨(), _, rfl, .clear p key s⟩

theorem enqueueTimerJob_free : Free (timerContract cfg tcfg) (Timers.enqueueTimerJob tcfg key) := by
  refine free_await_total fun h i s => ⟨(), _, rfl, ?_⟩
  dsimp only
  split
  · cases hnew : s.jobs.insert? ⟨key, s.now + tcfg.delayMs key, .delayed⟩ with
    | none => exact .idle _ s
    | some jobs => exact .enqueue hnew
  · exact .idle _ s

theorem schedule_free : Free (timerContract cfg tcfg) (Timers.schedule tcfg p key) := by
  refine free_bind (free_await_total fun _ _ s => ⟨(), _, rfl, ?_⟩) fun _ => enqueueTimerJob_free
  exact .arm p key s

/-! ## The handlers that arm and disarm -/

theorem order_query (h : List (StepRecord timerMachine)) (s : TimerDb) :
    (timerContract cfg tcfg).guar h (.order .query) s s := .idle _ s

theorem findOrderWithRelations_timers :
    Free (timerContract cfg tcfg) ((findOrderWithRelations o).within timerOrders) :=
  within_free 0 .releaseDuePendingEntries findOrderWithRelations_free

theorem loadDelivery_timers : Free (timerContract cfg tcfg) ((loadDelivery d).within timerOrders) :=
  within_free 0 .releaseDuePendingEntries loadDelivery_free

theorem markReady_timers {sub : String} :
    Free (timerContract cfg tcfg) (Timers.markReady tcfg p me sub o) := by
  intro h s
  have hmeets : Meets cfg me (.markReady sub o) (Orders.markReady me sub o) s :=
    ⟨[], markReady_free [] s.toDb⟩
  refine sat_bind ((within_sat_left me (.markReady sub o)
    (fun _ => findOrderWithRelations o) ?_).post fun h r s _ => ?_)
  · simpa only [Orders.markReady, bind_assoc, pure_bind] using hmeets
  · cases r with
    | error e => trivial
    | ok existing =>
      refine free_ite ?_ findOrderWithRelations_timers h s
      exact free_bind schedule_free fun _ => findOrderWithRelations_timers

theorem handleNoDriverTimeout_timers :
    Free (timerContract cfg tcfg) (Timers.handleNoDriverTimeout tcfg p o) := by
  intro h s
  refine sat_read_bind fun s₀ _ => ⟨order_query _ s₀, ?_⟩
  cases hrow : s₀.orders.find? o with
  | none => trivial
  | some row =>
    refine sat_ite (fun _ => trivial) fun hsearching => sat_ite (fun _ => trivial) fun hready => ?_
    rw [not_or, not_not, not_not] at hready
    refine sat_bind_free (within_sat 0 (.handleNoDriverTimeout o) ⟨[], ?_⟩) fun _ =>
      schedule_free
    refine sat_await fun s₁ hR i => ⟨fun _ _ => ⟨.noop _ _, trivial⟩, fun _ s₂ hrun => ?_⟩
    obtain ⟨-, rfl⟩ := updateOrder_ok.mp hrun
    refine ⟨.noDriverTimeout o ⟨s₀.toDb, row, hR, hrow, hready.1, hready.2, fun d hd => ?_⟩, trivial⟩
    have hlatest : s₀.latestDelivery o = some d := hd
    simpa [hlatest] using hsearching

theorem confirmPickup_timers {sub : String} {dto : ConfirmPickupDto} :
    Free (timerContract cfg tcfg) (Timers.confirmPickup tcfg p sub d dto) := by
  intro h s
  have hmeets : Meets cfg 0 (.confirmPickup sub d dto) (Deliveries.confirmPickup sub d dto) s :=
    ⟨[], confirmPickup_sat⟩
  refine sat_bind ((within_sat_left 0 (.confirmPickup sub d dto)
    (fun _ => loadDelivery d) ?_).post fun h r s _ => ?_)
  · simpa only [Deliveries.confirmPickup, bind_assoc, pure_bind] using hmeets
  · cases r with
    | error e => trivial
    | ok u => exact free_bind schedule_free (fun _ => loadDelivery_timers) h s

/-- What follows the buyer's decision. -/
def decideNoDriverTail (o : OrderId) (decision : NoDriverDecision) (seen : Order × Option Delivery) :
    Handler Order := do
  match decision with
  | .switchToPickup => switchOrderToPickup seen.1.id (seen.2.map Delivery.id)
  | .cancelAndRefund => cancelNoDriverOrder o .noDriverBuyerCancelled
  findOrderWithRelations o

theorem decideNoDriver_timers {sub : String} {decision : NoDriverDecision} :
    Free (timerContract cfg tcfg) (Timers.decideNoDriver p sub o decision) := by
  intro h s
  have hmeets : Meets cfg 0 (.decideNoDriver sub o decision) (Orders.decideNoDriver sub o decision) s :=
    ⟨[], decideNoDriver_free [] s.toDb⟩
  refine sat_bind ((within_sat_left 0 (.decideNoDriver sub o decision)
    (decideNoDriverTail o decision) ?_).post fun h r s hrest => ?_)
  · cases decision with
    | switchToPickup =>
      simpa only [Orders.decideNoDriver, decideNoDriverTail, bind_assoc, pure_bind] using hmeets
    | cancelAndRefund =>
      simpa only [Orders.decideNoDriver, decideNoDriverTail, bind_assoc, pure_bind] using hmeets
  · cases r with
    | error e => trivial
    | ok seen =>
      refine meets_bind clearTimer_free (hrest seen rfl) fun _ h s hrest => ?_
      exact within_sat _ _ hrest

/-! ## Watchdogs -/

theorem watchdog_timers : Free (timerContract cfg tcfg) (Timers.watchdog tcfg p me key) := by
  cases key with
  | noDriver o => exact handleNoDriverTimeout_timers
  | noDriverResponse o =>
    exact within_free me (.autoCancelNoResponse o) autoCancelNoResponse_free
  | driverDelivery d =>
    exact within_free me (.handleDriverDeliveryTimeout d)
      (handleDriverDeliveryTimeout_free fun _ _ _ hab hbc => hab.trans hbc)

theorem onTimeout_timers : Free (timerContract cfg tcfg) (Timers.onTimeout tcfg p me key) := by
  refine free_bind (free_await_total fun _ _ s => ⟨_, _, rfl, ?_⟩) fun due => ?_
  · split
    · rename_i hdue
      obtain ⟨t, ht, htime⟩ := (Option.any_eq_true ..).mp hdue
      exact .fire t ht (of_decide_eq_true htime)
    · exact .idle _ s
  · exact free_ite (free_tryCatch watchdog_timers fun _ => free_pure) free_pure

theorem process_timers : Free (timerContract cfg tcfg) (Timers.process tcfg p me key) := by
  refine free_bind (free_await_total fun _ _ s => ⟨_, _, rfl, ?_⟩) fun due => ?_
  · split
    · rename_i hdue
      obtain ⟨j, hj, hready⟩ := (Option.any_eq_true ..).mp hdue
      rw [Bool.and_eq_true, decide_eq_true_eq, decide_eq_true_eq] at hready
      exact .take j hj hready.1 hready.2
    · exact .idle _ s
  · refine free_ite (free_tryCatch (free_bind watchdog_timers fun _ => ?_) fun e => ?_) free_pure
    · exact free_await_total fun _ _ s => ⟨(), _, rfl, .done key s⟩
    · exact free_bind (free_await_total fun _ _ s => ⟨(), _, rfl, .fail key s⟩) fun _ => free_throw

/-- A request of a part that no timer knows. -/
theorem serve_sat (hadm : admits call s.toDb = true) :
    Sat (timerContract cfg tcfg) anyPost ((handle cfg me call).within timerOrders) [] s :=
  within_sat me call ⟨[], handle_sat (fun _ _ _ hab hbc => hab.trans hbc) call hadm⟩

/-- **Every call meets the contract.** -/
theorem timerHandle_sat {c : TimerCall} (hadm : timerAdmits c s = true) :
    Sat (timerContract cfg tcfg) anyPost (timerHandle cfg tcfg me c) [] s := by
  cases c with
  | timeout p key => exact free_bind onTimeout_timers (fun _ => free_pure) _ _
  | job p key => exact free_bind process_timers (fun _ => free_pure) _ _
  | serve p call =>
    cases call with
    | markReady sub o => exact free_bind markReady_timers (fun _ => free_pure) _ _
    | decideNoDriver sub o decision => exact free_bind decideNoDriver_timers (fun _ => free_pure) _ _
    | confirmPickup sub d dto => exact free_bind confirmPickup_timers (fun _ => free_pure) _ _
    | handleNoDriverTimeout o => cases hadm
    | autoCancelNoResponse o => cases hadm
    | handleDriverDeliveryTimeout d => cases hadm
    | _ => exact serve_sat hadm

end

/-- What is known of each step of a run. -/
theorem timer_steps {cfg : Config} {tcfg : TimerConfig} {s₀ : TimerDb}
    (actions : List (Pool.Action (timerService cfg tcfg))) :
    ∀ e ∈ (poolRun s₀ actions).trace, TimerStep cfg tcfg e.site e.pre e.post := by
  have hany : (poolRun s₀ actions).Steps fun _ _ => True := fun _ _ => trivial
  have hsound : Pool.Sound (fun _ => timerContract cfg tcfg) (fun _ _ => anyPost) (fun _ => True) s₀
      (poolRun s₀ actions) := by
    refine Pool.sound trivial (fun _ _ _ => Db.Trails.refl _) (fun _ _ _ _ => Db.Trails.trans)
      (fun _ _ _ _ _ _ _ _ => trivial) (fun _ _ _ _ _ _ _ _ => trivial)
      (fun _ _ _ _ _ _ _ _ _ (hg : TimerStep ..) => hg.trails)
      (fun e s _ => ⟨trivial, fun _ => applyTimerEvent_trails e s⟩)
      (fun me c s _ _ hadm => timerHandle_sat hadm) actions hany
  intro e he
  obtain ⟨h, -, -, hg⟩ := hsound.step e he
  exact hg

end IncaCook
