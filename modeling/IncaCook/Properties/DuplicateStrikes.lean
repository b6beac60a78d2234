import IncaCook.Library.Runs
import IncaCook.Model.System
import IncaCook.Steps.Ledger

/-!
# One incident, one strike

`addStrike` first looks for a strike of the same user, role and reason with the most
specific identifier of its input, and creates one in a later statement if there is none.
Its callers are timers that may fire twice and admin actions that may be repeated.

Main results:

* `StrikeStep.one_iff`: the only step that strikes an incident again is the creation of a
  strike where it has one;
* `strikeHandle_looks`: a call that names a source creates a strike only after its look-up
  has found none, and creates one at most;
* `one_strike_iff`: an incident never has two strikes if and only if no call is overtaken
  between its look-up and its creation, and no look-up passes over a strike of the incident
  because it compares a more specific identifier.
-/

namespace IncaCook

open Prog Strikes

/-! ## Incidents -/

/-- What an incident is known by. -/
inductive IncidentSource where
  | delivery (id : DeliveryId)
  | order (id : OrderId)
  | source (id : StrikeSourceId)
  deriving DecidableEq

structure Incident where
  userId : UserId
  role : ActorRole
  reason : StrikeReason
  source : IncidentSource

/-- The input names the incident. -/
def Incident.namedBy (x : Incident) (input : AddStrikeInput) : Bool :=
  input.userId = x.userId && input.role = x.role && input.reason = x.reason &&
    match x.source with
    | .delivery d => input.deliveryId = some d
    | .order o => input.orderId = some o
    | .source id => input.sourceId = some id

/-- The strike is for the incident. -/
def Incident.isOf (x : Incident) (k : Strike) : Bool :=
  k.userId = x.userId && k.actorRole = x.role && k.reason = x.reason &&
    match x.source with
    | .delivery d => k.deliveryId = some d
    | .order o => k.orderId = some o
    | .source id => k.sourceId = some id

def Incident.strikes (x : Incident) (db : Db) : List Strike := db.strikes.rows.filter x.isOf

def OneStrike (x : Incident) (db : Db) : Prop := (x.strikes db).length ≤ 1

/-- A strike is created where the incident has none. -/
def StrikesOnce (x : Incident) (site : Site) (db : Db) : Prop :=
  ∀ u, site = .createStrike u → x.strikes db = []

/-- The most specific identifier that the input names. -/
def AddStrikeInput.mostSpecific (input : AddStrikeInput) : Option IncidentSource :=
  ((input.deliveryId.map IncidentSource.delivery).or (input.orderId.map IncidentSource.order)).or
    (input.sourceId.map IncidentSource.source)

section

variable {x : Incident} {input : AddStrikeInput} {s s' : Db} {me : Nat}

theorem Incident.isOf_row (h : x.namedBy input = true) (id : StrikeId) (now : Time) :
    x.isOf (input.row id now) = true := h

/-- When the incident is known by the most specific identifier of the input, the strikes
that the code looks for are those of the incident. -/
theorem sameIncident_eq (h : x.namedBy input = true) (hmost : AddStrikeInput.mostSpecific input = some x.source) :
    input.sameIncident = x.isOf := by
  unfold Incident.namedBy at h
  simp only [Bool.and_eq_true, decide_eq_true_eq] at h
  obtain ⟨⟨⟨huser, hrole⟩, hreason⟩, -⟩ := h
  funext k
  unfold AddStrikeInput.sameIncident Incident.isOf
  rw [huser, hrole, hreason]
  congr 1
  unfold AddStrikeInput.mostSpecific at hmost
  -- the most specific identifier present is the one that the look-up compares
  cases hd : input.deliveryId with
  | some d =>
    rw [hd] at hmost
    rw [← Option.some.inj hmost]
    rfl
  | none =>
    rw [hd] at hmost
    cases ho : input.orderId with
    | some o =>
      rw [ho] at hmost
      rw [← Option.some.inj hmost]
      rfl
    | none =>
      rw [ho] at hmost
      obtain ⟨id, hid, hsource⟩ := Option.map_eq_some_iff.mp hmost
      rw [hid, ← hsource]
      rfl

end

/-! ## Calls of one incident -/

inductive StrikeCall where
  | addStrike (input : AddStrikeInput)
  | immediateExclude (userId : UserId) (role : ActorRole) (reason : StrikeReason)
      (sourceType : StrikeSourceType) (deliveryId : DeliveryId) (orderId : OrderId)

/-- What the call adds. -/
def StrikeCall.input : StrikeCall → AddStrikeInput
  | .addStrike input => input
  | .immediateExclude userId role reason sourceType d o =>
    { userId, role, points := suspensionThresholdPoints, reason, severity := .critical, sourceType
      deliveryId := some d, orderId := some o }

def strikeHandle (me : Nat) : StrikeCall → Handler Unit
  | .addStrike input => do
    let _ ← addStrike me input
    return ()
  | .immediateExclude u role reason sourceType d o => immediateExclude me u role reason sourceType d o

/-- Calls that name the incident; meanwhile time passes, and the other services change
everything but the strikes. -/
def strikeService (x : Incident) : Service machine where
  Call := StrikeCall
  Reply := Unit
  Event := Db
  handle := strikeHandle
  admits := fun c _ => x.namedBy c.input
  event := fun elsewhere db => { elsewhere with strikes := db.strikes }

/-! ## Steps -/

section

variable {x : Incident} {input : AddStrikeInput} {s s' : Db} {me : Nat} {h : List (StepRecord machine)}

/-- What a step of call `me` does to the strikes. -/
inductive StrikeStep (x : Incident) (me : Nat) : Site → Db → Db → Prop where
  | other {site : Site} {s s' : Db} (hsite : ∀ u, site ≠ .createStrike u) (hsame : s'.strikes = s.strikes) :
      StrikeStep x me site s s'
  | creates {u : UserId} {s s' : Db} (k : Strike) (hof : x.isOf k = true) (hid : k.id = generateUlid me 4)
      (hnew : s.strikes.insert? k = some s'.strikes) : StrikeStep x me (.createStrike u) s s'

/-- The others make no strike with the call's id. -/
def strikeContract (x : Incident) (me : Nat) : Contract machine where
  rely s s' := ∀ k ∈ s'.strikes.rows, k.id = generateUlid me 4 → k ∈ s.strikes.rows
  guar _ site s s' := StrikeStep x me site s s'

/-- The call has not made its strike yet. -/
def Unmade (me : Nat) (s : Db) : Prop := s.strikes.find? (generateUlid me 4) = none

theorem Unmade.rely (hs : Unmade me s) (hrely : (strikeContract x me).rely s s') : Unmade me s' := by
  rw [Unmade, Table.find?_eq_none] at hs ⊢
  exact fun k hk hid => hs k (hrely k hk hid) hid

theorem strike_query_free {α : Type} {f : Db → α} : Free (strikeContract x me) (read .query f) :=
  free_read fun _ _ => .other (fun _ heq => by cases heq) rfl

theorem strike_suspend_free {u : UserId} {reason : StrikeReason} :
    Free (strikeContract x me) (suspendUser u reason) := by
  refine free_await (fun _ s => .other (fun _ heq => by cases heq) rfl) fun _ _ s _ s' hrun =>
    .other (fun _ heq => by cases heq) ?_
  simp only [suspendRow, Stmt.modify_ok] at hrun
  rw [hrun]

theorem isDuplicate_sat (hs : Unmade me s) :
    Sat (strikeContract x me) (fun _ _ s => Unmade me s) (isDuplicate input) h s :=
  sat_ite (fun _ => sat_read fun _ hrely => ⟨.other (fun _ heq => by cases heq) rfl, hs.rely hrely⟩)
    fun _ => sat_pure hs

theorem evaluateSuspension_free {u : UserId} {role : ActorRole} {reason : StrikeReason} :
    Free (strikeContract x me) (evaluateSuspension u role reason) :=
  free_bind strike_query_free fun _ => free_ite (free_bind strike_suspend_free fun _ => free_pure) free_pure

theorem addStrike_sat (hx : x.namedBy input = true) (hs : Unmade me s) :
    Sat (strikeContract x me) anyPost (addStrike me input) h s := by
  refine sat_bind ((isDuplicate_sat hs).post fun h r s hs => ?_)
  cases r with
  | error e => trivial
  | ok duplicate =>
    refine sat_ite (fun _ => (free_bind strike_query_free fun _ => free_pure) h s) fun _ => ?_
    refine sat_await_bind fun s' hrely _ => ⟨fun e herr => ?_, fun a s'' hok => ?_⟩
    · -- the id is new, so the database cannot refuse the strike
      obtain ⟨strikes, hinsert⟩ := Table.exists_insert (r := input.row (generateUlid me 4) s'.now)
        (hs.rely hrely)
      have hok := (createStrike_ok (u := ())).mpr ⟨strikes, hinsert, rfl⟩
      rw [hok] at herr
      cases herr
    · obtain ⟨strikes, hinsert, rfl⟩ := createStrike_ok.mp hok
      refine ⟨.creates _ (Incident.isOf_row hx _ _) rfl hinsert, ?_⟩
      exact (free_bind evaluateSuspension_free fun _ => free_pure) _ _

theorem strikeHandle_sat {c : StrikeCall} (hx : x.namedBy c.input = true) (hs : Unmade me s) :
    Sat (strikeContract x me) anyPost (strikeHandle me c) h s := by
  cases c with
  | addStrike input => exact sat_bind_free (addStrike_sat hx hs) fun _ => free_pure
  | immediateExclude u role reason sourceType d o =>
    exact sat_bind_free (addStrike_sat hx hs) fun _ => strike_suspend_free

end

/-! ## Every interleaving -/

section

variable {x : Incident} {s s' : Db} {site : Site} {me : Nat}

theorem strikes_insert {k : Strike} (hof : x.isOf k = true) (hnew : s.strikes.insert? k = some s'.strikes) :
    x.strikes s' = k :: x.strikes s := by
  unfold Incident.strikes
  rw [(Table.insert?_eq_some.mp hnew).2, List.filter_cons_of_pos hof]

/-- **What doubles a strike**, step by step. -/
theorem StrikeStep.one_iff (hstep : StrikeStep x me site s s') (hs : OneStrike x s) :
    OneStrike x s' ↔ StrikesOnce x site s := by
  cases hstep with
  | other hsite hsame =>
    unfold OneStrike Incident.strikes at hs ⊢
    rw [hsame]
    exact iff_of_true hs fun u heq => absurd heq (hsite u)
  | creates k hof hid hnew =>
    unfold OneStrike StrikesOnce
    rw [strikes_insert hof hnew, List.length_cons, Nat.succ_le_succ_iff, Nat.le_zero, List.length_eq_zero_iff]
    exact ⟨fun hnone _ _ => hnone, fun honce => honce _ rfl⟩

/-- After the creation of a strike the incident has one. -/
theorem StrikeStep.struck {u : UserId} (hstep : StrikeStep x me site s s') (hsite : site = .createStrike u) :
    x.strikes s' ≠ [] := by
  cases hstep with
  | other hother _ => exact absurd hsite (hother u)
  | creates k hof hid hnew =>
    rw [strikes_insert hof hnew]
    exact List.cons_ne_nil _ _

/-- Strikes stay. -/
theorem StrikeStep.stays (hstep : StrikeStep x me site s s') (hs : x.strikes s ≠ []) : x.strikes s' ≠ [] := by
  cases hstep with
  | other hsite hsame =>
    unfold Incident.strikes at hs ⊢
    rwa [hsame]
  | creates k hof hid hnew =>
    rw [strikes_insert hof hnew]
    exact List.cons_ne_nil _ _

/-- The first strike of the incident comes from a creation. -/
theorem StrikeStep.none_before (hstep : StrikeStep x me site s s') (hs : x.strikes s = []) :
    x.strikes s' = [] ∨ ∃ u, site = .createStrike u := by
  cases hstep with
  | other hsite hsame =>
    left
    unfold Incident.strikes at hs ⊢
    rwa [hsame]
  | creates k hof hid hnew => exact .inr ⟨_, rfl⟩

/-- Each step of each call either leaves the strikes alone or creates the call's own. -/
theorem strike_step {s₀ : Db} (hfresh : ∀ j, s₀.strikes.find? (generateUlid j 4) = none)
    (actions : List (Pool.Action (strikeService x))) :
    ∀ e ∈ (poolRun s₀ actions).trace, StrikeStep x e.thread e.site e.pre e.post := by
  have hsound : Pool.Sound (strikeContract x) (fun _ _ => anyPost) (fun _ => True) s₀ (poolRun s₀ actions) := by
    have hsteps : (poolRun s₀ actions).Steps fun _ _ => True := fun _ _ => trivial
    refine Pool.sound trivial (fun j s _ => fun _ hk _ => hk) ?_
      (fun _ _ _ _ _ _ _ _ => trivial) (fun _ _ _ _ _ _ _ _ => trivial) ?_
      (fun e s _ => ⟨trivial, fun j => fun _ hk _ => hk⟩) ?_ actions hsteps
    · intro j a b c hab hbc k hk hid
      exact hab k (hbc k hk hid) hid
    · rintro i j h site s s' hij - - hstep k hk hid
      cases hstep with
      | other hsite hsame => exact hsame ▸ hk
      | creates k' hof hid' hnew =>
        -- the new strike has the id of the call that creates it
        rcases (Table.mem_insert hnew).mp hk with rfl | hk
        · rw [hid'] at hid
          exact absurd (congrArg Ulid.call hid) hij
        · exact hk
    · intro j c s _ hrely hx
      exact strikeHandle_sat hx (Unmade.rely (hfresh j) hrely)
  intro e he
  obtain ⟨_, -, -, hstep⟩ := hsound.step e he
  exact hstep

/-- What it takes of the states in which strikes are created. -/
theorem oneStrike_steps_iff {s₀ : Db} (h₀ : OneStrike x s₀)
    (hfresh : ∀ j, s₀.strikes.find? (generateUlid j 4) = none)
    (actions : List (Pool.Action (strikeService x))) :
    Pool.Always (OneStrike x) s₀ actions ↔ (poolRun s₀ actions).Steps (StrikesOnce x) :=
  Pool.always_iff h₀ (fun _ _ hs => hs) actions fun e he hpre =>
    (strike_step hfresh actions e he).one_iff hpre

end

/-! ## What a call has looked for -/

section

variable {x : Incident} {input : AddStrikeInput} {s : Db} {me : Nat} {h : List (StepRecord machine)}

/-- The step creates a strike. -/
def CreatesStrike (t : StepRecord machine) : Prop := ∃ u, t.site = .createStrike u

/-- The step has looked for a strike like that of the input, and there was none. -/
def FindsNone (t : StepRecord machine) (input : AddStrikeInput) : Prop :=
  t.site = .query ∧ t.post = t.pre ∧ ∀ k ∈ t.pre.strikes.rows, input.sameIncident k = false

/-- A call that names a source creates a strike only after its look-up, and only one. -/
def strikeLookup (input : AddStrikeInput) : Contract machine where
  rely _ _ := True
  guar h site _ _ := ∀ u, site = .createStrike u → input.hasSource = true →
    (∃ t ∈ h, FindsNone t input) ∧ ∀ t ∈ h, ¬CreatesStrike t

/-- The statements that make no strike. -/
abbrev strikeless : Contract machine := sitesContract fun site => ∀ u, site ≠ .createStrike u

theorem strikeless_lookup {α : Type} {p : Handler α} (hp : Free strikeless p) : Free (strikeLookup input) p :=
  fun h s => (hp h s).mono (fun _ _ _ => trivial) (fun _ _ _ _ hsite u heq => absurd heq (hsite u))
    fun _ _ _ hQ => hQ

theorem strikeless_query {α : Type} {f : Db → α} : Free strikeless (read (M := machine) .query f) :=
  free_read fun _ _ _ heq => by cases heq

theorem strikeless_suspend {u : UserId} {reason : StrikeReason} : Free strikeless (suspendUser u reason) :=
  free_await_site fun _ heq => by cases heq

theorem strikeless_evaluate {u : UserId} {role : ActorRole} {reason : StrikeReason} :
    Free strikeless (evaluateSuspension u role reason) :=
  free_bind strikeless_query fun _ => free_ite (free_bind strikeless_suspend fun _ => free_pure) free_pure

/-- The creation that follows an empty look-up, if there was one. -/
theorem createStrike_looks (hlook : input.hasSource = true → ∃ t ∈ h, FindsNone t input)
    (hnone : ∀ t ∈ h, ¬CreatesStrike t) :
    Sat (strikeLookup input) anyPost (do
      await (.createStrike input.userId) fun _ => createStrike input (generateUlid me 4)
      return (⟨true, ← evaluateSuspension input.userId input.role input.reason⟩ : AddStrikeResult)) h s := by
  have hguar : ∀ site s s', (strikeLookup input).guar h site s s' := fun _ _ _ _ _ hsource => ⟨hlook hsource, hnone⟩
  refine sat_bind_free (sat_await fun s' _ _ => ?_) fun _ =>
    free_bind (strikeless_lookup strikeless_evaluate) fun _ => free_pure
  exact ⟨fun _ _ => ⟨hguar _ _ _, trivial⟩, fun _ _ _ => ⟨hguar _ _ _, trivial⟩⟩

theorem addStrike_looks : Sat (strikeLookup input) anyPost (addStrike me input) [] s := by
  unfold addStrike isDuplicate
  by_cases hsource : input.hasSource = true
  · rw [if_pos hsource]
    refine sat_read_bind fun s₁ _ => ⟨(fun _ heq => by cases heq), sat_ite (fun _ => ?_) fun hnone => ?_⟩
    · exact (free_bind (strikeless_lookup strikeless_query) fun _ => free_pure) _ _
    · rw [Bool.not_eq_true, List.any_eq_false] at hnone
      refine createStrike_looks (fun _ => ⟨_, List.mem_cons_self .., rfl, rfl, ?_⟩) fun t ht => ?_
      · exact fun k hk => Bool.not_eq_true _ ▸ hnone k hk
      · rw [List.mem_singleton.mp ht]
        rintro ⟨u, hcreates⟩
        cases hcreates
  · rw [if_neg hsource]
    exact createStrike_looks (fun hsource' => absurd hsource' hsource) fun _ hnil => absurd hnil List.not_mem_nil

/-- **A call creates a strike only after it has looked for it in vain.** -/
theorem strikeHandle_looks (me : Nat) (c : StrikeCall) (s : Db) :
    Sat (strikeLookup c.input) anyPost (strikeHandle me c) [] s := by
  cases c with
  | addStrike input => exact sat_bind_free addStrike_looks fun _ => free_pure
  | immediateExclude u role reason sourceType d o =>
    exact sat_bind_free addStrike_looks fun _ => strikeless_lookup strikeless_suspend

/-- A call that names the incident names a source. -/
theorem hasSource_of_named (hx : x.namedBy input = true) : input.hasSource = true := by
  unfold Incident.namedBy at hx
  rw [Bool.and_eq_true] at hx
  obtain ⟨-, hsource⟩ := hx
  unfold AddStrikeInput.hasSource
  rw [Bool.or_eq_true, Bool.or_eq_true]
  split at hsource
  · rw [of_decide_eq_true hsource]
    exact .inl (.inl rfl)
  · rw [of_decide_eq_true hsource]
    exact .inl (.inr rfl)
  · rw [of_decide_eq_true hsource]
    exact .inr rfl

/-- A look-up by the identifier that the incident is known by finds its strikes. -/
theorem FindsNone.strikes {t : StepRecord machine} (hfinds : FindsNone t input) (hx : x.namedBy input = true)
    (hmost : AddStrikeInput.mostSpecific input = some x.source) : x.strikes t.pre = [] := by
  refine List.filter_eq_nil_iff.mpr fun k hk => ?_
  rw [← sameIncident_eq hx hmost, hfinds.2.2 k hk]
  exact Bool.false_ne_true

end

/-! ## What doubles a strike -/

section

variable {x : Incident}

/-- The step creates a strike, after a step in which its call has looked for one like its own and
found none. -/
structure CreatesAfter (p : Pool (strikeService x)) (c : StrikeCall) (e look : Entry machine)
    (between : List (Entry machine)) : Prop where
  steps : ∃ later earlier, p.trace = later ++ e :: (between ++ look :: earlier)
  creates : CreatesStrike e.toStepRecord
  call : p.call? e.thread = some c
  thread : look.thread = e.thread
  finds : FindsNone look.toStepRecord c.input

/-- A call is overtaken: another one creates a strike between its look-up and its own creation. -/
def StrikeOvertaken (p : Pool (strikeService x)) : Prop :=
  ∃ c e look between, CreatesAfter p c e look between ∧
    ∃ e' ∈ between, e'.thread ≠ e.thread ∧ CreatesStrike e'.toStepRecord

/-- A strike is passed over: the incident has one, but the look-up of a call compares a more
specific identifier than the one that the incident is known by, and the call creates another. -/
def StrikePassedOver (p : Pool (strikeService x)) : Prop :=
  ∃ c e look between, CreatesAfter p c e look between ∧
    AddStrikeInput.mostSpecific c.input ≠ some x.source ∧ ∃ k ∈ look.pre.strikes.rows, x.isOf k = true

variable {s₀ : Db} {actions : List (Pool.Action (strikeService x))} {later earlier between : List (Entry machine)}
  {e e' look : Entry machine} {c : StrikeCall}

/-- A call of a run names the incident. -/
theorem named_of_call? {j : Nat} (hj : (poolRun s₀ actions).call? j = some c) : x.namedBy c.input = true := by
  obtain ⟨_, _, -, hadmitted⟩ := Pool.admitted_of_call? hj
  exact hadmitted

/-- A strike of the incident is still there later on. -/
theorem strikes_chain (hfresh : ∀ j, s₀.strikes.find? (generateUlid j 4) = none) :
    Pool.Chain (S := strikeService x) (fun s s' => x.strikes s ≠ [] → x.strikes s' ≠ []) s₀ (poolRun s₀ actions) :=
  Pool.chain (fun _ h => h) (fun _ _ _ hab hbc h => hbc (hab h)) (fun _ _ h => h) actions fun e he =>
    (strike_step hfresh actions e he).stays

/-- A call that is overtaken creates a second strike. -/
theorem overtaken_doubles (hfresh : ∀ j, s₀.strikes.find? (generateUlid j 4) = none)
    (hafter : CreatesAfter (poolRun s₀ actions) c e look between) (he' : e' ∈ between)
    (hcreates : CreatesStrike e'.toStepRecord) : x.strikes e.pre ≠ [] := by
  obtain ⟨later, earlier, hsplit⟩ := hafter.steps
  have hmem : e' ∈ between ++ look :: earlier := List.mem_append_left _ he'
  have he : e' ∈ (poolRun s₀ actions).trace := by
    rw [hsplit]
    exact List.mem_append_right _ (List.mem_cons_of_mem _ hmem)
  obtain ⟨u, hsite⟩ := hcreates
  exact (strikes_chain hfresh).between later e _ hsplit e' hmem ((strike_step hfresh actions e' he).struck hsite)

/-- A call that passes over a strike creates a second one. -/
theorem passedOver_doubles (hfresh : ∀ j, s₀.strikes.find? (generateUlid j 4) = none)
    (hafter : CreatesAfter (poolRun s₀ actions) c e look between)
    (hstruck : ∃ k ∈ look.pre.strikes.rows, x.isOf k = true) : x.strikes e.pre ≠ [] := by
  obtain ⟨later, earlier, hsplit⟩ := hafter.steps
  refine (strikes_chain hfresh).between later e _ hsplit look (by simp) ?_
  obtain ⟨k, hk, hof⟩ := hstruck
  rw [hafter.finds.2.1]
  exact List.ne_nil_of_mem (List.mem_filter.mpr ⟨hk, hof⟩)

/-- **What doubles a strike.** A strike that is created where the incident has one: it has one since
the look-up, or the look-up did not see it. -/
theorem creates_doubled (hfresh : ∀ j, s₀.strikes.find? (generateUlid j 4) = none)
    (hsplit : (poolRun s₀ actions).trace = later ++ e :: earlier) (hcreates : CreatesStrike e.toStepRecord)
    (hstruck : x.strikes e.pre ≠ []) :
    StrikeOvertaken (poolRun s₀ actions) ∨ StrikePassedOver (poolRun s₀ actions) := by
  obtain ⟨u, hsite⟩ := hcreates
  obtain ⟨c, hcall, hguar⟩ := Pool.own_step (S := strikeService x)
    (C := fun _ (c : StrikeCall) => strikeLookup c.input) (fun _ _ _ _ => trivial)
    (fun j c s => strikeHandle_looks j c s) hsplit
  have hx := named_of_call? hcall
  obtain ⟨⟨t, ht, hfinds⟩, honce⟩ := hguar u hsite (hasSource_of_named hx)
  obtain ⟨look, hlook, hthread, rfl⟩ := Pool.mem_of_ownSteps ht
  obtain ⟨between, before, rfl⟩ := List.append_of_mem hlook
  have hafter : CreatesAfter (poolRun s₀ actions) c e look between :=
    ⟨⟨later, before, hsplit⟩, ⟨u, hsite⟩, hcall, hthread, hfinds⟩
  by_cases hbefore : x.strikes look.pre = []
  · -- none at the look-up, so a step since then has created one
    refine .inl ⟨c, e, look, between, hafter, ?_⟩
    have hsince := Pool.holds_until (P := fun s : Db => x.strikes s = [])
      (E := fun e' => CreatesStrike e'.toStepRecord) (fun _ _ h => h) actions ?_ hsplit ?_
    · rcases hsince with hnone | ⟨e', he', hcreates'⟩
      · exact absurd hnone hstruck
      · refine ⟨e', he', fun hown => ?_, hcreates'⟩
        -- the call itself has created none before
        refine honce e'.toStepRecord (List.mem_map.mpr ⟨e', List.mem_filter.mpr ⟨?_, ?_⟩, rfl⟩) hcreates'
        · exact List.mem_append_left _ he'
        · exact decide_eq_true hown
    · exact fun e' he' hnone => (strike_step hfresh actions e' he').none_before hnone
    · rwa [hfinds.2.1]
  · obtain ⟨k, hk⟩ := List.exists_mem_of_ne_nil _ hbefore
    refine .inr ⟨c, e, look, between, hafter, fun hmost => ?_, k, List.mem_of_mem_filter hk, (List.mem_filter.mp hk).2⟩
    exact hbefore (hfinds.strikes hx hmost)

/-- **One incident, one strike, and what it takes.** In every interleaving of calls that
name one incident, the incident has at most one strike in every state if and only if no
call is overtaken between its look-up and its creation, and none passes over a strike. -/
theorem one_strike_iff (h₀ : OneStrike x s₀) (hfresh : ∀ j, s₀.strikes.find? (generateUlid j 4) = none)
    (actions : List (Pool.Action (strikeService x))) :
    Pool.Always (OneStrike x) s₀ actions ↔
      ¬StrikeOvertaken (poolRun s₀ actions) ∧ ¬StrikePassedOver (poolRun s₀ actions) := by
  rw [oneStrike_steps_iff h₀ hfresh]
  have hcreated : ∀ {c e look between}, CreatesAfter (poolRun s₀ actions) c e look between →
      (poolRun s₀ actions).Steps (StrikesOnce x) → x.strikes e.pre = [] := by
    intro c e look between hafter honce
    obtain ⟨u, hsite⟩ := hafter.creates
    obtain ⟨later, earlier, hsplit⟩ := hafter.steps
    exact honce e (by rw [hsplit]; simp) u hsite
  constructor
  · refine fun honce => ⟨?_, ?_⟩
    · rintro ⟨c, e, look, between, hafter, e', he', -, hcreates⟩
      exact overtaken_doubles hfresh hafter he' hcreates (hcreated hafter honce)
    · rintro ⟨c, e, look, between, hafter, -, hstruck⟩
      exact passedOver_doubles hfresh hafter hstruck (hcreated hafter honce)
  · rintro ⟨hovertaken, hpassed⟩ e he u hsite
    obtain ⟨later, earlier, hsplit⟩ := List.append_of_mem he
    by_contra hstruck
    exact (creates_doubled hfresh hsplit ⟨u, hsite⟩ hstruck).elim hovertaken hpassed

/-- No call is overtaken where only one strike is ever created. -/
theorem StrikeOvertaken.creates_twice {p : Pool (strikeService x)} (hover : StrikeOvertaken p) :
    2 ≤ p.trace.countP fun e => match e.site with
      | .createStrike _ => true
      | _ => false := by
  obtain ⟨c, e, look, between, hafter, e', he', -, ⟨u', hsite'⟩⟩ := hover
  obtain ⟨u, hsite⟩ := hafter.creates
  obtain ⟨later, earlier, hsplit⟩ := hafter.steps
  obtain ⟨after, before, rfl⟩ := List.append_of_mem he'
  rw [hsplit]
  simp only [List.countP_append, List.countP_cons, hsite, hsite', if_true]
  omega

end

/-- The driver who never delivered order 0. -/
def lostDelivery : Incident := ⟨⟨0, 102⟩, .driver, .driverDisappearedAfterPickup, .delivery ⟨3, 2⟩⟩

def lostDeliveryStrike : AddStrikeInput :=
  ⟨⟨0, 102⟩, .driver, 2, .driverDisappearedAfterPickup, .serious, .delivery, none, some ⟨0, 0⟩,
    some ⟨3, 2⟩, none⟩

/-- The watchdog fires: a call for its strike, and the next step of a call. -/
def fires : Pool.Action (strikeService lostDelivery) := .arrive (.addStrike lostDeliveryStrike)

def strikeGoesOn (j : Nat) : Pool.Action (strikeService lostDelivery) := .run j ⟨true, "", ""⟩

/-- The watchdog fires twice, one call after the other. -/
def firedAgain : List (Pool.Action (strikeService lostDelivery)) :=
  fires :: List.replicate 4 (strikeGoesOn 0) ++ fires :: List.replicate 2 (strikeGoesOn 1)

/-- The second call finds the strike of the first. -/
theorem strike_found :
    Pool.Always (OneStrike lostDelivery) smallTown firedAgain ∧ (poolRun smallTown firedAgain).AllOver ∧
      (lostDelivery.strikes (poolRun smallTown firedAgain).state).length = 1 := by
  have hovertaken : ¬StrikeOvertaken (poolRun smallTown firedAgain) := by
    intro hover
    have htwice := hover.creates_twice
    revert htwice
    decide +kernel
  have hpassed : ¬StrikePassedOver (poolRun smallTown firedAgain) := by
    rintro ⟨c, e, look, between, hafter, hmost, -⟩
    -- both calls compare the delivery, which is what the incident is known by
    have harrive : Pool.Action.arrive c = fires := by
      simpa [firedAgain, fires, strikeGoesOn] using Pool.arrive_of_call? hafter.call
    rw [Pool.Action.arrive.inj harrive] at hmost
    exact hmost rfl
  exact ⟨(one_strike_iff (show OneStrike lostDelivery smallTown from Nat.zero_le 1) (fun _ => rfl) firedAgain).mpr
    ⟨hovertaken, hpassed⟩, by decide +kernel, by decide +kernel⟩

/-- The watchdog fires twice, and both calls look before either creates its strike. -/
def firedTwice : List (Pool.Action (strikeService lostDelivery)) :=
  [fires, fires, strikeGoesOn 0, strikeGoesOn 1, strikeGoesOn 0, strikeGoesOn 1]

/-- **One incident, two strikes.** -/
theorem struck_twice : ¬OneStrike lostDelivery (poolRun smallTown firedTwice).state := by
  unfold OneStrike
  decide +kernel

end IncaCook
