import IncaCook.Properties.Watched

/-!
# No watchdog comes early

A watchdog that finds something to do cancels an order or fails a delivery, so it must not run
before its time is up. A timer is armed by the call that started the watch, after the statement
that started it, and it runs out after its delay; a job waits as long in the queue. Both may be
armed again, and a job may have been there before.

Main results:

* `not_before_due`: in every interleaving, what a watchdog does to orders and deliveries it does at
  the earliest a delay after a statement that started this watch.
-/

namespace IncaCook

open Prog Orders Deliveries

/-- The timer that a call has come for. -/
def TimerCall.due : TimerCall → Option TimerKey
  | .timeout _ key | .job _ key => some key
  | .serve _ _ => none

/-- A statement that started the watch, and went through. -/
inductive Opened : TimerKey → StepRecord machine → Prop where
  | ready {me : Nat} {o : OrderId} {token : String} {s s' : Db}
      (hrun : readyOrder me o .delivery token s = .ok ((), s')) :
      Opened (.noDriver o) ⟨.markReady o .delivery, s, s'⟩
  | prompted {o : OrderId} {s s' : Db}
      (hrun : (updateOrder o fun o => { o with status := .noDriverAvailable }) s = .ok ((), s')) :
      Opened (.noDriverResponse o) ⟨.noDriverTimeout o, s, s'⟩
  | pickedUp {delivery : Delivery} {driver : UserId} {dto : ConfirmPickupDto} {token : String} {s s' : Db}
      (hrun : confirmPickupTx delivery driver dto token s = .ok ((), s')) :
      Opened (.driverDelivery delivery.id) ⟨.confirmPickup delivery.id driver, s, s'⟩

/-- The same, among timers. -/
def StartsWatch (key : TimerKey) (t : StepRecord timerMachine) : Prop :=
  ∃ site, t.site = .order site ∧ Opened key ⟨site, t.pre.toDb, t.post.toDb⟩

/-- A step that found a timer due, and took it. -/
inductive Took (key : TimerKey) : StepRecord timerMachine → Prop where
  | fire {p : ProcessId} {s s' : TimerDb} (t : Timeout) (ht : s.timeouts.find? (p, key) = some t)
      (hdue : t.dueAt ≤ s.now) : Took key ⟨.fire p key, s, s'⟩
  | take {s s' : TimerDb} (j : TimerJob) (hj : s.jobs.find? key = some j) (hdue : j.dueAt ≤ s.now) :
      Took key ⟨.take key, s, s'⟩

section

variable {cfg : Config} {tcfg : TimerConfig} {p : ProcessId} {key key' : TimerKey} {me : Nat}
  {o : OrderId} {d : DeliveryId} {site : TimerSite} {s s' : TimerDb} {α β : Type}
  {g : List (StepRecord timerMachine)}

/-- The contract of the statements alone, about timers that are armed. -/
def armsContract : Contract timerMachine where
  rely _ _ := True
  guar g site _ _ := ∀ key, (∃ p, site = .arm p key) ∨ site = .enqueue key → ∃ t ∈ g, StartsWatch key t

/-! ## Arming -/

/-- Programs of the system arm nothing. -/
theorem within_arms (q : Handler α) : Free armsContract (q.within timerOrders) := by
  intro g s
  refine (within_sites (P := timerOrders) q g s).mono (fun _ _ hR => hR) ?_ fun _ _ _ hQ => hQ
  rintro g site s s' ⟨site₀, rfl⟩ key (⟨p, harm⟩ | henqueue)
  · cases harm
  · cases henqueue

theorem schedule_arms (hg : ∃ t ∈ g, StartsWatch key t) :
    Sat armsContract anyPost (Timers.schedule tcfg p key) g s := by
  have hopened : ∀ {site : TimerSite} {g : List (StepRecord timerMachine)} {key' : TimerKey},
      (∃ t ∈ g, StartsWatch key t) → (site = .arm p key ∨ site = .enqueue key) →
      (∃ p, site = .arm p key') ∨ site = .enqueue key' → ∃ t ∈ g, StartsWatch key' t := by
    rintro site g key' hg (rfl | rfl) (⟨p', h⟩ | h)
    · cases h
      exact hg
    · cases h
    · cases h
    · cases h
      exact hg
  refine sat_bind (sat_await_ok fun s₁ _ i => ⟨⟨_, rfl⟩, fun _ s₂ _ => ⟨fun key' => hopened hg (.inl rfl), ?_⟩⟩)
  obtain ⟨t, ht, hopens⟩ := hg
  refine sat_await_ok fun s₃ _ i => ⟨⟨_, rfl⟩, fun _ s₄ _ => ⟨fun key' => hopened ?_ (.inr rfl), trivial⟩⟩
  exact ⟨t, List.mem_cons_of_mem _ ht, hopens⟩

/-- The steps of a program of the system, among timers. -/
theorem within_arms_steps {Q : Post machine α} {q : Handler α}
    (hq : Sat endContract Q q [] s.toDb) :
    Sat armsContract (fun g' r s => ∃ h r₀, r = r₀.mapError timerOrders.error ∧ Q h r₀ s.toDb ∧
      ∀ t ∈ h, ∃ t' ∈ g', t'.site = .order t.site ∧ t'.pre.toDb = t.pre ∧ t'.post.toDb = t.post)
      (q.within timerOrders) g s :=
  ((within_arms q g s).and (sat_within_steps (P := timerOrders) hq)).mono (fun _ _ _ => ⟨trivial, trivial⟩)
    (fun _ _ _ _ hg => hg.1) fun _ _ _ hQ => hQ.2

/-- A watch that a program of the system has started, was started among timers. -/
theorem startsWatch_of_opened {h : List (StepRecord machine)} (hopened : ∃ t ∈ h, Opened key t)
    (hsteps : ∀ t ∈ h, ∃ t' ∈ g, t'.site = .order t.site ∧ t'.pre.toDb = t.pre ∧ t'.post.toDb = t.post) :
    ∃ t ∈ g, StartsWatch key t := by
  obtain ⟨t, ht, hopened⟩ := hopened
  obtain ⟨t', ht', hsite, hpre, hpost⟩ := hsteps t ht
  refine ⟨t', ht', t.site, hsite, ?_⟩
  rw [hpre, hpost]
  exact hopened

theorem markReady_arms {sub : String} :
    Sat armsContract anyPost (Timers.markReady tcfg p me sub o) g s := by
  have hopens : Sat endContract (fun h r _ => ∀ existing, r = .ok existing →
      existing.fulfillmentChoice = .delivery → ∃ t ∈ h, Opened (.noDriver o) t) (do
      let sellerId ← assertSellerUser sub
      let existing ← loadOrderForSellerAction o sellerId
      throwIf (existing.status ≠ .preparing) (.conflict
        ("Order is in " ++ existing.status.text ++ "; mark-ready requires PREPARING"))
      await (.markReady o existing.fulfillmentChoice) fun answer =>
        readyOrder me o existing.fulfillmentChoice answer.token
      return existing) [] s.toDb := by
    refine sat_end_bind (fun _ _ _ _ he => by cases he) fun seller h a => ?_
    refine sat_end_bind (fun _ _ _ _ he => by cases he) fun existing h a => ?_
    refine sat_throwIf_bind (fun _ _ he => by cases he) fun _ => ?_
    refine sat_await_bind fun a₁ _ i => ⟨fun e _ => ⟨trivial, fun _ he => by cases he⟩, fun _ a₂ hrun => ?_⟩
    refine ⟨trivial, sat_pure fun existing' he hdelivery => ?_⟩
    cases he
    -- the statement has gone through, with a delivery
    rw [hdelivery] at hrun ⊢
    exact ⟨_, List.mem_cons_self, .ready hrun⟩
  refine sat_bind ((within_arms_steps hopens).post fun g r s hafter => ?_)
  obtain ⟨h, r, rfl, hopened, hsteps⟩ := hafter
  cases r with
  | error e => trivial
  | ok existing =>
    refine sat_ite (fun hdelivery => ?_) fun _ => within_arms _ _ _
    have hbegun := startsWatch_of_opened (hopened existing rfl hdelivery) hsteps
    exact sat_bind_free (schedule_arms hbegun) fun _ => within_arms _

theorem confirmPickup_arms {sub : String} {dto : ConfirmPickupDto} :
    Sat armsContract anyPost (Timers.confirmPickup tcfg p sub d dto) g s := by
  have hopens : Sat endContract (fun h r _ => ∀ u, r = .ok u →
      ∃ t ∈ h, Opened (.driverDelivery d) t) (do
      let driver ← assertDriver sub
      let delivery ← loadDeliveryForDriver d driver.userId
      throwIf (delivery.pickupConfirmedAt.isSome ∨ delivery.status ∈ postPickup)
        (.conflict "Retrait déjà confirmé")
      throwIf (delivery.status ∉ prePickup) (.conflict "La commande n'est pas prête pour le retrait")
      throwIf (truthy delivery.pickupToken ≠ some dto.pickupToken) (.badRequest "QR code invalide")
      await (.confirmPickup d driver.userId) fun answer =>
        confirmPickupTx delivery driver.userId dto answer.token) [] s.toDb := by
    refine sat_end_bind (fun _ _ _ _ he => by cases he) fun driver h a => ?_
    refine loadDeliveryForDriver_bind (fun _ _ => trivial) (fun _ _ _ _ he => by cases he)
      fun a₀ delivery _ hrow _ => ?_
    obtain rfl : delivery.id = d := Table.key_of_find? hrow
    refine sat_throwIf_bind (fun _ _ he => by cases he) fun _ => ?_
    refine sat_throwIf_bind (fun _ _ he => by cases he) fun _ => ?_
    refine sat_throwIf_bind (fun _ _ he => by cases he) fun _ => ?_
    refine sat_await fun a₁ _ i => ⟨fun e _ => ⟨trivial, fun _ he => by cases he⟩, fun u a₂ hrun => ?_⟩
    exact ⟨trivial, fun _ _ => ⟨_, List.mem_cons_self, .pickedUp hrun⟩⟩
  refine sat_bind ((within_arms_steps hopens).post fun g r s hafter => ?_)
  obtain ⟨h, r, rfl, hopened, hsteps⟩ := hafter
  cases r with
  | error e => trivial
  | ok u =>
    have hbegun := startsWatch_of_opened (hopened u rfl) hsteps
    exact sat_bind_free (schedule_arms hbegun) fun _ => within_arms _

theorem handleNoDriverTimeout_arms :
    Sat armsContract anyPost (Timers.handleNoDriverTimeout tcfg p o) g s := by
  have hquery : ∀ (g : List (StepRecord timerMachine)) (s : TimerDb),
      armsContract.guar g (.order .query) s s := by
    rintro g s key (⟨p, harm⟩ | henqueue)
    · cases harm
    · cases henqueue
  refine sat_read_bind fun s₀ _ => ⟨hquery _ _, ?_⟩
  cases hrow : s₀.orders.find? o with
  | none => trivial
  | some row =>
    refine sat_ite (fun _ => trivial) fun _ => sat_ite (fun _ => trivial) fun _ => ?_
    have hopens : Sat (endContract (M := machine))
        (fun h r _ => ∀ u, r = .ok u → ∃ t ∈ h, Opened (.noDriverResponse o) t)
        (await (Site.noDriverTimeout o) fun _ =>
          updateOrder o fun o => { o with status := .noDriverAvailable }) [] s₀.toDb := by
      refine sat_await fun a₁ _ i => ⟨fun e _ => ⟨trivial, fun _ he => by cases he⟩, fun u a₂ hrun => ?_⟩
      exact ⟨trivial, fun _ _ => ⟨_, List.mem_cons_self, .prompted hrun⟩⟩
    refine sat_bind ((within_arms_steps hopens).post fun g r s hafter => ?_)
    obtain ⟨h, r, rfl, hopened, hsteps⟩ := hafter
    cases r with
    | error e => trivial
    | ok u =>
      exact schedule_arms (startsWatch_of_opened (hopened u rfl) hsteps)

theorem watchdog_arms : Sat armsContract anyPost (Timers.watchdog tcfg p me key) g s := by
  cases key with
  | noDriver o => exact handleNoDriverTimeout_arms
  | noDriverResponse o => exact within_arms _ _ _
  | driverDelivery d => exact within_arms _ _ _

/-- A statement that arms nothing. -/
theorem arms_await {stmt : Answer → TimerTx α} (harm : ∀ p key, site ≠ .arm p key)
    (henqueue : ∀ key, site ≠ .enqueue key) : Free armsContract (await site stmt) := by
  have hnone : ∀ (g : List (StepRecord timerMachine)) (s s' : TimerDb), armsContract.guar g site s s' := by
    rintro g s s' key (⟨p, h⟩ | h)
    · exact absurd h (harm p key)
    · exact absurd h (henqueue key)
  exact free_await (fun g s => hnone g s s) fun g _ s _ s' _ => hnone g s s'

theorem onTimeout_arms : Free armsContract (Timers.onTimeout tcfg p me key) := by
  have hwatchdog : Free armsContract (Timers.watchdog tcfg p me key) := fun g s => watchdog_arms
  refine free_bind (arms_await (by simp) (by simp)) fun due => free_ite ?_ free_pure
  exact free_tryCatch hwatchdog fun _ => free_pure

theorem process_arms : Free armsContract (Timers.process tcfg p me key) := by
  have hwatchdog : Free armsContract (Timers.watchdog tcfg p me key) := fun g s => watchdog_arms
  refine free_bind (arms_await (by simp) (by simp)) fun due => free_ite ?_ free_pure
  refine free_tryCatch (free_bind hwatchdog fun _ => arms_await (by simp) (by simp)) fun e => ?_
  exact free_bind (arms_await (by simp) (by simp)) fun _ => free_throw

/-- **Every call arms after it has started a watch.** -/
theorem timerHandle_arms (c : TimerCall) : Free armsContract (timerHandle cfg tcfg me c) := by
  cases c with
  | timeout p key => exact free_bind onTimeout_arms fun _ => free_pure
  | job p key => exact free_bind process_arms fun _ => free_pure
  | serve p call =>
    cases call with
    | markReady sub o => exact free_bind (fun g s => markReady_arms) fun _ => free_pure
    | decideNoDriver sub o decision =>
      refine free_bind (free_bind (within_arms _) fun seen => ?_) fun _ => free_pure
      exact free_bind (arms_await (by simp) (by simp)) fun _ => within_arms _
    | confirmPickup sub d dto => exact free_bind (fun g s => confirmPickup_arms) fun _ => free_pure
    | _ => exact within_arms _

/-! ## Taking -/

/-- The contract of the statements alone, about a timer that was taken. -/
def takesContract (key : TimerKey) : Contract timerMachine where
  rely _ _ := True
  guar g site _ _ := (∃ site₀, site = .order site₀) → ∃ t ∈ g, Took key t

/-- Whatever follows a timer that was taken. -/
theorem takes_of_took {q : TimerHandler α} (hg : ∃ t ∈ g, Took key t) :
    Sat (takesContract key) (fun g _ _ => ∃ t ∈ g, Took key t) q g s :=
  (sat_since hg).mono (fun _ _ hR => hR) (fun _ _ _ _ hg _ => hg) fun _ _ _ hQ => hQ

theorem onTimeout_takes : Sat (takesContract key) anyPost (Timers.onTimeout tcfg p me key) g s := by
  refine sat_bind (sat_await_ok fun s₁ _ i => ⟨⟨_, rfl⟩, fun due s₂ hrun => ⟨fun h => ?_, ?_⟩⟩)
  · obtain ⟨site₀, hsite⟩ := h
    cases hsite
  · cases hrun
    refine sat_ite (fun hdue => ?_) fun _ => trivial
    obtain ⟨t, ht, htime⟩ := (Option.any_eq_true ..).mp hdue
    exact (takes_of_took ⟨_, List.mem_cons_self, .fire t ht (of_decide_eq_true htime)⟩).any

theorem process_takes : Sat (takesContract key) anyPost (Timers.process tcfg p me key) g s := by
  refine sat_bind (sat_await_ok fun s₁ _ i => ⟨⟨_, rfl⟩, fun due s₂ hrun => ⟨fun h => ?_, ?_⟩⟩)
  · obtain ⟨site₀, hsite⟩ := h
    cases hsite
  · cases hrun
    refine sat_ite (fun hdue => ?_) fun _ => trivial
    obtain ⟨j, hj, hready⟩ := (Option.any_eq_true ..).mp hdue
    rw [Bool.and_eq_true, decide_eq_true_eq, decide_eq_true_eq] at hready
    exact (takes_of_took ⟨_, List.mem_cons_self, .take j hj hready.2⟩).any

/-- **A call that has come for a timer acts once it has taken it.** -/
theorem timerHandle_takes {c : TimerCall} (hc : c.due = some key) :
    Sat (takesContract key) anyPost (timerHandle cfg tcfg me c) [] s := by
  cases c with
  | serve p call => cases hc
  | timeout p key' =>
    obtain rfl := Option.some.inj hc
    exact sat_bind_free onTimeout_takes fun _ => free_pure
  | job p key' =>
    obtain rfl := Option.some.inj hc
    exact sat_bind_free process_takes fun _ => free_pure

/-! ## Deadlines -/

/-- A delay before `time`, a statement has started the watch. -/
def Ripe (tcfg : TimerConfig) (key : TimerKey) (time : Time) (trace : List (Entry timerMachine)) :
    Prop :=
  ∃ e ∈ trace, StartsWatch key e.toStepRecord ∧ e.pre.now + tcfg.delayMs key ≤ time

theorem Ripe.cons {time : Time} {trace : List (Entry timerMachine)} (h : Ripe tcfg key time trace)
    (e : Entry timerMachine) : Ripe tcfg key time (e :: trace) := by
  obtain ⟨e₀, he₀, hopens, htime⟩ := h
  exact ⟨e₀, List.mem_cons_of_mem _ he₀, hopens, htime⟩

/-- No timer is due before its watch is ripe, and none was taken before. -/
structure Punctual (tcfg : TimerConfig) (s : TimerDb) (trace : List (Entry timerMachine)) : Prop where
  timeouts : ∀ t ∈ s.timeouts.rows, Ripe tcfg t.key t.dueAt trace
  jobs : ∀ j ∈ s.jobs.rows, Ripe tcfg j.key j.dueAt trace
  taken : ∀ later e earlier, trace = later ++ e :: earlier → ∀ key, Took key e.toStepRecord →
    Ripe tcfg key e.pre.now earlier

/-- What is taken was due. -/
theorem Punctual.took {trace : List (Entry timerMachine)} {t : StepRecord timerMachine}
    (hs : Punctual tcfg t.pre trace) (ht : Took key t) : Ripe tcfg key t.pre.now trace := by
  cases ht with
  | fire x hx hdue =>
    obtain ⟨e, he, hopens, htime⟩ := hs.timeouts x (Table.mem_of_find? hx)
    have hkey : x.key = key := congrArg Prod.snd (Table.key_of_find? hx)
    rw [hkey] at hopens htime
    exact ⟨e, he, hopens, htime.trans hdue⟩
  | take j hj hdue =>
    obtain ⟨e, he, hopens, htime⟩ := hs.jobs j (Table.mem_of_find? hj)
    have hkey : j.key = key := Table.key_of_find? hj
    rw [hkey] at hopens htime
    exact ⟨e, he, hopens, htime.trans hdue⟩

/-- **Every step keeps it**, when timers are armed after their watches have started. -/
theorem Punctual.step {e : Entry timerMachine} {earlier : List (Entry timerMachine)}
    (hs : Punctual tcfg e.pre earlier) (hstep : TimerStep cfg tcfg e.site e.pre e.post)
    (harms : ∀ key, (∃ p, e.site = .arm p key) ∨ e.site = .enqueue key →
      Ripe tcfg key (e.pre.now + tcfg.delayMs key) earlier) :
    Punctual tcfg e.post (e :: earlier) := by
  obtain ⟨⟨site, s, s'⟩, thread⟩ := e
  dsimp only at hs hstep harms ⊢
  have htimeouts := fun t ht => (hs.timeouts t ht).cons ⟨⟨site, s, s'⟩, thread⟩
  have hjobs := fun j hj => (hs.jobs j hj).cons ⟨⟨site, s, s'⟩, thread⟩
  have htaken : ∀ later e earlier', (⟨⟨site, s, s'⟩, thread⟩ :: earlier : List (Entry timerMachine)) =
      later ++ e :: earlier' → ∀ key, Took key e.toStepRecord → Ripe tcfg key e.pre.now earlier' := by
    intro later e earlier' hsplit key ht
    -- what is taken now was due, and what was taken before, then
    cases later with
    | nil =>
      rw [List.nil_append, List.cons.injEq] at hsplit
      obtain ⟨rfl, rfl⟩ := hsplit
      exact hs.took ht
    | cons e' rest =>
      rw [List.cons_append, List.cons.injEq] at hsplit
      exact hs.taken rest e earlier' hsplit.2 key ht
  cases hstep with
  | idle | order => exact ⟨htimeouts, hjobs, htaken⟩
  -- a timeout that is armed again takes the place of the old one
  | arm p key =>
    refine ⟨fun t ht => ?_, hjobs, htaken⟩
    rcases Table.mem_put.mp ht with rfl | ⟨ht, -⟩
    · exact (harms key (.inl ⟨p, rfl⟩)).cons _
    · exact htimeouts t ht
  | clear p key | fire t₁ =>
    exact ⟨fun t ht => htimeouts t (Table.mem_remove.mp ht).1, hjobs, htaken⟩
  | @enqueue key _ _ hnew =>
    refine ⟨htimeouts, fun j hj => ?_, htaken⟩
    rcases (Table.mem_insert hnew).mp hj with rfl | hj
    · exact (harms key (.inr rfl)).cons _
    · exact hjobs j hj
  | take j₁ =>
    refine ⟨htimeouts, fun j hj => ?_, htaken⟩
    dsimp only at hj
    obtain ⟨j₀, hj₀, rfl⟩ := Table.mem_update.mp hj
    split
    · exact hjobs j₀ hj₀
    · exact hjobs j₀ hj₀
  | done key => exact ⟨htimeouts, fun j hj => hjobs j (Table.mem_removeMany.mp hj).1, htaken⟩
  | fail key =>
    refine ⟨htimeouts, fun j hj => ?_, htaken⟩
    dsimp only at hj
    obtain ⟨j₀, hj₀, rfl⟩ := Table.mem_updateMany.mp hj
    split
    · exact hjobs j₀ hj₀
    · exact hjobs j₀ hj₀

theorem Punctual.event {trace : List (Entry timerMachine)} (hs : Punctual tcfg s trace)
    (e : TimerEvent) : Punctual tcfg (applyTimerEvent e s) trace := by
  cases e with
  | order e => exact ⟨hs.timeouts, hs.jobs, hs.taken⟩
  | restart p => exact ⟨fun t ht => hs.timeouts t (Table.mem_removeMany.mp ht).1, hs.jobs, hs.taken⟩
  | evict key => exact ⟨hs.timeouts, fun j hj => hs.jobs j (Table.mem_removeMany.mp hj).1, hs.taken⟩

end

/-! ## Runs -/

section

variable {cfg : Config} {tcfg : TimerConfig} {s₀ : TimerDb}
  {actions : List (Pool.Action (timerService cfg tcfg))} {later earlier : List (Entry timerMachine)}
  {e : Entry timerMachine}

/-- Steps of one call, taken before. -/
theorem mem_earlier {P : StepRecord timerMachine → Prop}
    (htrace : (poolRun s₀ actions).trace = later ++ e :: earlier)
    (ht : ∃ t ∈ Pool.ownSteps e.thread earlier, P t) :
    ∃ e₀ ∈ earlier, P e₀.toStepRecord ∧ e₀.pre.now ≤ e.pre.now := by
  obtain ⟨t, ht, hP⟩ := ht
  obtain ⟨e₀, he₀, rfl⟩ := List.mem_map.mp ht
  have hmem : e₀ ∈ earlier := (List.mem_filter.mp he₀).1
  have hsteps : ∀ e ∈ (poolRun s₀ actions).trace, TimerStep cfg tcfg e.site e.pre e.post :=
    timer_steps actions
  have hchain := Pool.chain (R := fun s s' : TimerDb => s.now ≤ s'.now) (fun _ => Nat.le_refl _)
    (fun _ _ _ => Nat.le_trans) (fun e s => (applyTimerEvent_trails e s).now) actions
    fun e he => (hsteps e he).trails.now
  have hin : e₀ ∈ (poolRun s₀ actions).trace := by
    rw [htrace]
    exact List.mem_append_right _ (List.mem_cons_of_mem _ hmem)
  exact ⟨e₀, hmem, hP, (hsteps e₀ hin).trails.now.trans (hchain.between later e earlier htrace e₀ hmem)⟩

/-- **Timers are punctual** in every interleaving that starts without any. -/
theorem punctual {db : Db} {actions : List (Pool.Action (timerService cfg tcfg))} :
    Punctual tcfg (poolRun (TimerDb.unarmed db) actions).state
      (poolRun (TimerDb.unarmed db) actions).trace := by
  have hsteps : ∀ e ∈ (poolRun (TimerDb.unarmed db) actions).trace,
      TimerStep cfg tcfg e.site e.pre e.post := timer_steps actions
  refine Pool.history (I := Punctual tcfg) ?_ (fun e s trace hs => hs.event e) actions ?_
  · exact ⟨fun t ht => absurd ht List.not_mem_nil, fun j hj => absurd hj List.not_mem_nil,
      fun later e earlier hsplit => by simp at hsplit⟩
  · intro later e earlier htrace hs
    have he : e ∈ (poolRun (TimerDb.unarmed db) actions).trace := by
      rw [htrace]
      exact List.mem_append_right _ List.mem_cons_self
    refine hs.step (hsteps e he) fun key harm => ?_
    -- the call that arms has started the watch before
    obtain ⟨c, -, hown⟩ := Pool.own_step (C := fun _ _ => armsContract) (fun _ _ _ _ => trivial)
      (fun _ c s => timerHandle_arms c [] s) htrace
    obtain ⟨e₀, he₀, hopens, htime⟩ := mem_earlier htrace (hown key harm)
    exact ⟨e₀, he₀, hopens, Nat.add_le_add_right htime _⟩

end

/-- **No watchdog comes early.** In every interleaving of requests, watchdogs, restarts and failures
of the queue that starts without timers, a call that has come for a timer touches orders and
deliveries only when a statement that started this watch, and went through, lies a whole delay back.
The default delays are a quarter of an hour from the order that is made ready, ten minutes from the
prompt of its buyer, an hour from the pickup. -/
theorem not_before_due (cfg : Config) (tcfg : TimerConfig) (db : Db)
    (actions : List (Pool.Action (timerService cfg tcfg))) {later earlier : List (Entry timerMachine)}
    {e : Entry timerMachine} {key : TimerKey} {site : Site}
    (htrace : (poolRun (TimerDb.unarmed db) actions).trace = later ++ e :: earlier)
    (hcall : ((poolRun (TimerDb.unarmed db) actions).call? e.thread).bind TimerCall.due = some key)
    (hsite : e.site = .order site) :
    ∃ e₀ ∈ earlier, StartsWatch key e₀.toStepRecord ∧ e₀.pre.now + tcfg.delayMs key ≤ e.pre.now := by
  obtain ⟨c, hc, hdue⟩ := Option.bind_eq_some_iff.mp hcall
  have hown := (Pool.own_sat (C := takesContract key) (Q := fun _ _ => True) (fun _ _ => trivial)
    (fun s => (timerHandle_takes hdue).post fun _ _ _ _ => trivial) hc).1
  obtain ⟨e₁, he₁, htook, htime⟩ :=
    mem_earlier htrace (hown _ _ _ (Pool.ownSteps_of_split htrace) ⟨site, hsite⟩)
  -- the timer that was taken was due, and so the watch was ripe
  obtain ⟨before, after, rfl⟩ := List.append_of_mem he₁
  have hsplit : (poolRun (TimerDb.unarmed db) actions).trace = (later ++ e :: before) ++ e₁ :: after := by
    rw [htrace, List.append_assoc, List.cons_append]
  obtain ⟨e₀, he₀, hopens, hripe⟩ := punctual.taken _ e₁ after hsplit key htook
  exact ⟨e₀, List.mem_append_right _ (List.mem_cons_of_mem _ he₀), hopens, hripe.trans htime⟩

/-- The order is made ready, no driver comes for a quarter of an hour, and the timeout runs out. -/
def readyThenPrompted : List (Pool.Action (timerService smallTownConfig {})) :=
  .arrive (.serve 0 (.markReady "seller" ⟨0, 0⟩)) ::
    (List.replicate 6 (.run 0 ⟨true, "pickup", ""⟩) ++ [.event (.order (.tick 900000)),
      .arrive (.timeout 0 (.noDriver ⟨0, 0⟩))] ++ List.replicate 5 (.run 1 ⟨true, "", ""⟩))

/-- The small town then. -/
def promptedTown : Pool (timerService smallTownConfig {}) :=
  poolRun (TimerDb.unarmed orderPreparing) readyThenPrompted

/-- The statement that prompts the buyer. -/
def promptingStep : Entry timerMachine := promptedTown.trace.get ⟨2, by decide +kernel⟩

theorem prompted_on_time :
    ∃ e₀ ∈ promptedTown.trace.drop 3, StartsWatch (.noDriver ⟨0, 0⟩) e₀.toStepRecord ∧
      e₀.pre.now + 15 * 60000 ≤ promptingStep.pre.now := by
  have hsplit : promptedTown.trace = promptedTown.trace.take 2 ++ promptingStep :: promptedTown.trace.drop 3 := by
    rw [promptingStep, List.get_eq_getElem, List.getElem_cons_drop, List.take_append_drop]
  have hsite : promptingStep.site = .order (.noDriverTimeout ⟨0, 0⟩) := by decide +kernel
  exact not_before_due smallTownConfig {} orderPreparing readyThenPrompted hsplit (by decide +kernel) hsite

end IncaCook
