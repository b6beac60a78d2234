import Mathlib.Data.List.Induction
import IncaCook.Library.RelyGuarantee

/-!
# Runs of a service

A service answers calls with programs; its environment may also change the
shared state by events of its own. Two kinds of run are defined.

* A **serial run** executes one call after another, each from its first step to
  its last (`serialRun`).
* A **pool run** interleaves the calls at every step: a schedule says which
  call arrives, which call takes its next step, and which event happens
  (`poolRun`). Every interleaving is the run of some schedule, a call that is
  never scheduled again being one that was lost.

Calls are numbered by their arrival, and a call's program may use its number,
for example as a source of fresh identifiers.

Main results:

* `serial_invariant_calls`: what each call and each event preserves holds after a run;
* `Pool.sound`: programs that meet their contracts one by one meet them
  together, when each guarantee implies the others' relies;
* `Pool.always_iff`: the condition on the steps under which an invariant holds all along.
-/

open Prog

/-- A service: its calls, what each one runs, which calls can arrive in a
state, and the events of its environment. -/
structure Service (M : Machine) where
  Call : Type
  Reply : Type
  Event : Type
  handle : Nat → Call → Prog M Reply
  admits : Call → M.State → Bool
  event : Event → M.State → M.State

variable {M : Machine} {S : Service M}

/-! ## Serial runs -/

/-- One move of a serial run: a call with the environment's answers to its
steps, or an event. -/
inductive Input (S : Service M) : Type where
  | call (c : S.Call) (answers : Nat → M.Answer)
  | event (e : S.Event)

/-- One call of a serial run: what was called, in which state, and what came of it. -/
structure CallRecord (S : Service M) where
  call : S.Call
  pre : M.State
  outcome : Outcome M S.Reply

/-- The state and the calls so far, newest first. -/
structure Serial (S : Service M) where
  state : M.State
  calls : List (CallRecord S)

/-- Executes one input; a call that cannot arrive in this state is skipped. -/
def Serial.step (r : Serial S) : Input S → Serial S
  | .call c w =>
    if S.admits c r.state then
      let o := (S.handle r.calls.length c).exec w r.state
      ⟨o.state, ⟨c, r.state, o⟩ :: r.calls⟩
    else r
  | .event e => ⟨S.event e r.state, r.calls⟩

/-- Goes on with more inputs. -/
def Serial.run (r : Serial S) (inputs : List (Input S)) : Serial S := inputs.foldl Serial.step r

/-- Executes the inputs one at a time. -/
def serialRun (s : M.State) (inputs : List (Input S)) : Serial S := Serial.run ⟨s, []⟩ inputs

/-- Every executed step of every call meets `cond` in the state it starts from. -/
def Serial.Steps (cond : M.Site → M.State → Prop) (r : Serial S) : Prop :=
  ∀ c ∈ r.calls, ∀ t ∈ c.outcome.steps, cond t.site t.pre

instance {cond : M.Site → M.State → Prop} [∀ site s, Decidable (cond site s)] (r : Serial S) :
    Decidable (r.Steps cond) :=
  inferInstanceAs (Decidable (∀ c ∈ r.calls, ∀ t ∈ c.outcome.steps, cond t.site t.pre))

theorem Serial.run_concat (r : Serial S) (inputs : List (Input S)) (a : Input S) :
    r.run (inputs ++ [a]) = (r.run inputs).step a := by
  simp [Serial.run]

theorem serialRun_append (s : M.State) (before after : List (Input S)) :
    serialRun s (before ++ after) = (serialRun s before).run after := by
  simp [serialRun, Serial.run]

/-- An admitted call is recorded. -/
theorem serialRun_concat_call {s : M.State} {b : List (Input S)} {c : S.Call}
    {w : Nat → M.Answer} (hadm : S.admits c (serialRun s b).state = true) :
    ⟨c, (serialRun s b).state,
      (S.handle (serialRun s b).calls.length c).exec w (serialRun s b).state⟩ ∈
      (serialRun s (b ++ [.call c w])).calls := by
  rw [serialRun, Serial.run_concat, Serial.step, ← serialRun, if_pos hadm]
  exact List.mem_cons_self ..

theorem Serial.calls_step (r : Serial S) (a : Input S) :
    ∀ c ∈ r.calls, c ∈ (r.step a).calls := by
  intro c hc
  cases a with
  | event e => exact hc
  | call c' w =>
    simp only [Serial.step]
    split
    · exact List.mem_cons_of_mem _ hc
    · exact hc

/-- Every call of a run is one of its inputs: it was admitted in the state that the
inputs before it lead to, and ran alone. -/
theorem serialRun_input {s : M.State} {inputs : List (Input S)} {c : CallRecord S}
    (hc : c ∈ (serialRun s inputs).calls) :
    ∃ before w after n, inputs = before ++ .call c.call w :: after ∧
      c.pre = (serialRun s before).state ∧ S.admits c.call c.pre = true ∧
      c.outcome = (S.handle n c.call).exec w c.pre ∧
      (serialRun s (before ++ [.call c.call w])).state = c.outcome.state := by
  induction inputs using List.reverseRecOn with
  | nil => simp [serialRun, Serial.run] at hc
  | append_singleton inputs a ih =>
    -- an old call keeps its place; the inputs after it are one more
    have hold : c ∈ (serialRun s inputs).calls → ∃ before w after n,
        inputs ++ [a] = before ++ .call c.call w :: after ∧
        c.pre = (serialRun s before).state ∧ S.admits c.call c.pre = true ∧
        c.outcome = (S.handle n c.call).exec w c.pre ∧
        (serialRun s (before ++ [.call c.call w])).state = c.outcome.state := by
      intro hc
      obtain ⟨before, w, after, n, rfl, hrest⟩ := ih hc
      exact ⟨before, w, after ++ [a], n, by simp, hrest⟩
    rw [serialRun, Serial.run_concat, ← serialRun] at hc
    cases a with
    | event e => exact hold hc
    | call c' w =>
      simp only [Serial.step] at hc
      split at hc
      · rename_i hadm
        rcases List.mem_cons.mp hc with rfl | hc
        · refine ⟨inputs, w, [], _, rfl, rfl, hadm, rfl, ?_⟩
          rw [serialRun, Serial.run_concat, Serial.step, ← serialRun, if_pos hadm]
        · exact hold hc
      · exact hold hc

/-- Every call of a run was admitted in the state it started from, and ran alone. -/
theorem serialRun_record {s : M.State} {inputs : List (Input S)} {c : CallRecord S}
    (hc : c ∈ (serialRun s inputs).calls) :
    ∃ n w, S.admits c.call c.pre = true ∧ c.outcome = (S.handle n c.call).exec w c.pre := by
  obtain ⟨-, w, -, n, -, -, hadm, hout, -⟩ := serialRun_input hc
  exact ⟨n, w, hadm, hout⟩

/-- The calls of the first inputs are calls of the whole run. -/
theorem serialRun_calls_append {s : M.State} (before after : List (Input S)) :
    ∀ c ∈ (serialRun s before).calls, c ∈ (serialRun s (before ++ after)).calls := by
  induction after using List.reverseRecOn with
  | nil => simp
  | append_singleton after a ih =>
    intro c hc
    rw [← List.append_assoc, serialRun, Serial.run_concat, ← serialRun]
    exact Serial.calls_step _ a c (ih c hc)

/-- **The serial invariant rule.** What holds at the start and is kept by every
event and by every call of the run that meets `P` holds after every run whose
calls all do. The invariant may speak of the calls made so far. -/
theorem serial_invariant_calls {I : M.State → List (CallRecord S) → Prop}
    {P : CallRecord S → Prop} {r : Serial S} (h0 : I r.state r.calls)
    (hevent : ∀ e s calls, I s calls → I (S.event e s) calls) (inputs : List (Input S))
    (hcall : ∀ c w s calls, Input.call c w ∈ inputs → I s calls → S.admits c s = true →
      let o := (S.handle calls.length c).exec w s
      P ⟨c, s, o⟩ → I o.state (⟨c, s, o⟩ :: calls))
    (hc : ∀ c ∈ (r.run inputs).calls, P c) : I (r.run inputs).state (r.run inputs).calls := by
  induction inputs using List.reverseRecOn with
  | nil => exact h0
  | append_singleton inputs a ih =>
    rw [Serial.run_concat] at hc ⊢
    have hI := ih (fun c w s calls hmem => hcall c w s calls (List.mem_append_left _ hmem))
      fun c hcm => hc c ((r.run inputs).calls_step a c hcm)
    generalize r.run inputs = r' at *
    cases a with
    | event e => exact hevent e _ _ hI
    | call c w =>
      simp only [Serial.step] at hc ⊢
      split
      · rename_i hadm
        rw [if_pos hadm] at hc
        exact hcall c w _ _ (by simp) hI hadm (hc _ (List.mem_cons_self ..))
      · exact hI

/-- As `serial_invariant_calls`, for calls whose steps meet `P`. -/
theorem serial_invariant_of {I : M.State → List (CallRecord S) → Prop}
    {P : M.Site → M.State → Prop} {r : Serial S} (h0 : I r.state r.calls)
    (hevent : ∀ e s calls, I s calls → I (S.event e s) calls) (inputs : List (Input S))
    (hcall : ∀ c w s calls, Input.call c w ∈ inputs → I s calls → S.admits c s = true →
      let o := (S.handle calls.length c).exec w s
      (∀ t ∈ o.steps, P t.site t.pre) → I o.state (⟨c, s, o⟩ :: calls))
    (hc : (r.run inputs).Steps P) : I (r.run inputs).state (r.run inputs).calls :=
  serial_invariant_calls (P := fun c => ∀ t ∈ c.outcome.steps, P t.site t.pre) h0 hevent inputs
    hcall hc

/-- As `serial_invariant_of`, for any calls. -/
theorem serial_invariant {I : M.State → List (CallRecord S) → Prop}
    {P : M.Site → M.State → Prop} {r : Serial S} (h0 : I r.state r.calls)
    (hevent : ∀ e s calls, I s calls → I (S.event e s) calls)
    (hcall : ∀ c w s calls, I s calls → S.admits c s = true →
      let o := (S.handle calls.length c).exec w s
      (∀ t ∈ o.steps, P t.site t.pre) → I o.state (⟨c, s, o⟩ :: calls))
    (inputs : List (Input S)) (hc : (r.run inputs).Steps P) :
    I (r.run inputs).state (r.run inputs).calls :=
  serial_invariant_of h0 hevent inputs (fun c w s calls _ => hcall c w s calls) hc

/-! ### What lasts -/

/-- Once `T` holds between two moves, the states after it are related to that one by `R`. -/
def Serial.Lasts (T : M.State → Prop) (R : M.State → M.State → Prop) (s₀ : M.State)
    (inputs : List (Input S)) : Prop :=
  ∀ before middle after, inputs = before ++ middle ++ after → T (serialRun s₀ before).state →
    R (serialRun s₀ before).state (serialRun s₀ (before ++ middle)).state

/-- No call of the run arrives in a state in which it would do `breaks`. -/
def Serial.Unbroken (breaks : S.Call → M.State → Prop) (s₀ : M.State) (inputs : List (Input S)) :
    Prop :=
  ∀ before c w after, inputs = before ++ .call c w :: after →
    ¬breaks c (serialRun s₀ before).state

theorem Serial.Unbroken.append_left {breaks : S.Call → M.State → Prop} {s₀ : M.State}
    {before after : List (Input S)} (h : Unbroken breaks s₀ (before ++ after)) :
    Unbroken breaks s₀ before := by
  intro b c w a hsplit
  exact h b c w (a ++ after) (by rw [hsplit]; simp)

theorem Serial.unbroken_of_forall {breaks : S.Call → M.State → Prop} {s₀ : M.State}
    {inputs : List (Input S)} (h : ∀ c w, .call c w ∈ inputs → ∀ s, ¬breaks c s) :
    Unbroken breaks s₀ inputs := by
  rintro before c w after rfl
  exact h c w (List.mem_append_right _ (List.mem_cons_self ..)) _

/-- What holds at the start and is kept by every event and by every call that does not
break it, holds after a run without such a call. -/
theorem serial_invariant_unbroken {I : M.State → Prop} {breaks : S.Call → M.State → Prop}
    {s₀ : M.State} (h0 : I s₀) (hevent : ∀ e s, I s → I (S.event e s))
    (hcall : ∀ n c w s, I s → S.admits c s = true → ¬breaks c s →
      I ((S.handle n c).exec w s).state)
    {inputs : List (Input S)} (hc : Serial.Unbroken breaks s₀ inputs) :
    I (serialRun s₀ inputs).state := by
  induction inputs using List.reverseRecOn with
  | nil => exact h0
  | append_singleton inputs a ih =>
    have hI := ih hc.append_left
    rw [serialRun, Serial.run_concat, ← serialRun]
    cases a with
    | event e => exact hevent e _ hI
    | call c w =>
      simp only [Serial.step]
      split
      · rename_i hadm
        exact hcall _ c w _ hI hadm (hc inputs c w [] rfl)
      · exact hI

/-- **What ends a lasting property.** When, where `T` holds, exactly the calls that do not
break it keep `R`, and events keep it, then `R` lasts along a run if and only if no call of
the run breaks it while `T` holds. -/
theorem serial_lasts_iff {T : M.State → Prop} {R : M.State → M.State → Prop}
    {breaks : S.Call → M.State → Prop} (hrefl : ∀ s, R s s)
    (htrans : ∀ a b c, R a b → R b c → R a c) (hT : ∀ s s', T s → R s s' → T s')
    (hevent : ∀ e s, T s → R s (S.event e s)) (hadmits : ∀ c s, S.admits c s = true)
    (hcall : ∀ n c w s, T s → (R s ((S.handle n c).exec w s).state ↔ ¬breaks c s))
    (s₀ : M.State) (inputs : List (Input S)) :
    Serial.Lasts T R s₀ inputs ↔ Serial.Unbroken (fun c s => T s ∧ breaks c s) s₀ inputs := by
  constructor
  · rintro hlasts before c w after hsplit ⟨ht, hbreaks⟩
    have hR := hlasts before [.call c w] after (by simp [hsplit]) ht
    rw [serialRun, serialRun, Serial.run_concat, ← serialRun, Serial.step, if_pos (hadmits _ _)] at hR
    exact (hcall _ c w _ ht).mp hR hbreaks
  · intro hc before middle after hsplit ht
    subst hsplit
    have hmiddle := hc.append_left
    clear hc
    -- by induction on the moves since then
    induction middle using List.reverseRecOn with
    | nil =>
      rw [List.append_nil]
      exact hrefl _
    | append_singleton middle a ih =>
      rw [← List.append_assoc] at hmiddle ⊢
      have hR := ih hmiddle.append_left
      have hnow := hT _ _ ht hR
      refine htrans _ _ _ hR ?_
      rw [serialRun, serialRun, Serial.run_concat, ← serialRun]
      cases a with
      | event e => exact hevent e _ hnow
      | call c w =>
        rw [Serial.step, if_pos (hadmits _ _)]
        exact (hcall _ c w _ hnow).mpr fun hb => hmiddle _ c w [] rfl ⟨hnow, hb⟩

/-! ### What holds throughout -/

/-- `P` holds throughout the run, of the state and of the calls so far. -/
def Serial.Throughout (P : M.State → List (CallRecord S) → Prop) (s₀ : M.State) (inputs : List (Input S)) : Prop :=
  ∀ before after, inputs = before ++ after → P (serialRun s₀ before).state (serialRun s₀ before).calls

/-- `P` holds in every state that the run passes. -/
def Serial.Always (P : M.State → Prop) (s₀ : M.State) (inputs : List (Input S)) : Prop :=
  ∀ before after, inputs = before ++ after → P (serialRun s₀ before).state

theorem Serial.throughout_concat {P : M.State → List (CallRecord S) → Prop} {s₀ : M.State}
    {inputs : List (Input S)} {a : Input S} :
    Throughout P s₀ (inputs ++ [a]) ↔ Throughout P s₀ inputs ∧
      P (serialRun s₀ (inputs ++ [a])).state (serialRun s₀ (inputs ++ [a])).calls := by
  constructor
  · intro h
    refine ⟨fun before after hsplit => ?_, h _ [] (List.append_nil _).symm⟩
    exact h before (after ++ [a]) (by rw [hsplit, List.append_assoc])
  · rintro ⟨hbefore, hlast⟩ before after hsplit
    rcases List.eq_nil_or_concat after with rfl | ⟨after', a', rfl⟩
    · rw [List.append_nil] at hsplit
      exact hsplit ▸ hlast
    · rw [List.concat_eq_append, ← List.append_assoc] at hsplit
      obtain ⟨rfl, -⟩ := List.append_inj' hsplit rfl
      exact hbefore before after' rfl

theorem Serial.unbroken_concat {breaks : S.Call → M.State → Prop} {s₀ : M.State}
    {inputs : List (Input S)} {a : Input S} :
    Unbroken breaks s₀ (inputs ++ [a]) ↔ Unbroken breaks s₀ inputs ∧
      ∀ c w, a = .call c w → ¬breaks c (serialRun s₀ inputs).state := by
  constructor
  · intro h
    exact ⟨h.append_left, fun c w ha => h inputs c w [] (by rw [ha])⟩
  · rintro ⟨hbefore, hlast⟩ before c w after hsplit
    rcases List.eq_nil_or_concat after with rfl | ⟨after', a', rfl⟩
    · obtain ⟨rfl, ha⟩ := List.append_inj' hsplit rfl
      exact hlast c w (List.singleton_inj.mp ha)
    · rw [List.concat_eq_append, ← List.cons_append, ← List.append_assoc] at hsplit
      obtain ⟨rfl, -⟩ := List.append_inj' hsplit rfl
      exact hbefore before c w after' rfl

/-- **What breaks an invariant.** When `I` always holds, and exactly the calls that do not
break `P` keep it, then `P` holds throughout a run if and only if no call of the run
breaks it. Both may speak of the calls made so far. -/
theorem serial_throughout_iff {I P : M.State → List (CallRecord S) → Prop} {breaks : S.Call → M.State → Prop}
    {s₀ : M.State} (hI : I s₀ []) (hP : P s₀ []) (hIevent : ∀ e s calls, I s calls → I (S.event e s) calls)
    (hPevent : ∀ e s calls, I s calls → P s calls → P (S.event e s) calls) (hadmits : ∀ c s, S.admits c s = true)
    (hIcall : ∀ n c w s calls, I s calls →
      let o := (S.handle n c).exec w s
      I o.state (⟨c, s, o⟩ :: calls))
    (hPcall : ∀ n c w s calls, I s calls → P s calls →
      let o := (S.handle n c).exec w s
      (P o.state (⟨c, s, o⟩ :: calls) ↔ ¬breaks c s))
    (inputs : List (Input S)) : Serial.Throughout P s₀ inputs ↔ Serial.Unbroken breaks s₀ inputs := by
  have hinv : ∀ inputs : List (Input S), I (serialRun s₀ inputs).state (serialRun s₀ inputs).calls := by
    intro inputs
    refine serial_invariant_calls (P := fun _ => True) hI hIevent inputs (fun c w s calls _ hs _ _ => ?_)
      fun _ _ => trivial
    exact hIcall _ c w s calls hs
  induction inputs using List.reverseRecOn with
  | nil =>
    refine iff_of_true (fun before after hsplit => ?_) fun before c w after hsplit => ?_
    · rw [List.nil_eq, List.append_eq_nil_iff] at hsplit
      rw [hsplit.1]
      exact hP
    · simp at hsplit
  | append_singleton inputs a ih =>
    refine Serial.throughout_concat.trans (Iff.trans ?_ Serial.unbroken_concat.symm)
    -- on both sides the shorter run comes apart, and the last input is left
    refine Iff.trans (and_congr_right fun halways => ?_) (and_congr_left' ih)
    have hnow : P (serialRun s₀ inputs).state (serialRun s₀ inputs).calls :=
      halways inputs [] (List.append_nil _).symm
    rw [serialRun, Serial.run_concat, ← serialRun]
    cases a with
    | event e => exact iff_of_true (hPevent e _ _ (hinv inputs) hnow) fun c w ha => by cases ha
    | call c w =>
      rw [Serial.step, if_pos (hadmits _ _)]
      refine (hPcall _ c w _ _ (hinv inputs) hnow).trans ?_
      constructor
      · intro h c' w' ha
        cases ha
        exact h
      · exact fun h => h c w rfl

/-- As `serial_throughout_iff`, for what is about the state alone. -/
theorem serial_always_iff {I P : M.State → Prop} {breaks : S.Call → M.State → Prop} {s₀ : M.State}
    (hI : I s₀) (hP : P s₀) (hIevent : ∀ e s, I s → I (S.event e s))
    (hPevent : ∀ e s, I s → P s → P (S.event e s)) (hadmits : ∀ c s, S.admits c s = true)
    (hIcall : ∀ n c w s, I s → I ((S.handle n c).exec w s).state)
    (hPcall : ∀ n c w s, I s → P s → (P ((S.handle n c).exec w s).state ↔ ¬breaks c s))
    (inputs : List (Input S)) : Serial.Always P s₀ inputs ↔ Serial.Unbroken breaks s₀ inputs :=
  serial_throughout_iff (I := fun s _ => I s) (P := fun s _ => P s) hI hP (fun e s _ => hIevent e s)
    (fun e s _ => hPevent e s) hadmits (fun n c w s _ => hIcall n c w s) (fun n c w s _ => hPcall n c w s) inputs

/-! ## Pool runs -/

/-- A call that has arrived, and what is left of its program. -/
structure Thread (S : Service M) where
  call : S.Call
  prog : Prog M S.Reply

/-- One move of a schedule. -/
inductive Pool.Action (S : Service M) : Type where
  | arrive (c : S.Call)
  | run (j : Nat) (answer : M.Answer)
  | event (e : S.Event)

/-- A step of the trace, with the number of the call that took it. -/
structure Entry (M : Machine) extends StepRecord M where
  thread : Nat

/-- The state, the calls that have arrived in their order, and the steps taken
so far, newest first. -/
structure Pool (S : Service M) where
  state : M.State
  threads : List (Thread S)
  trace : List (Entry M)

namespace Pool

/-- Executes one move; a move that is not possible changes nothing. -/
def step (p : Pool S) : Action S → Pool S
  | .arrive c =>
    if S.admits c p.state then
      { p with threads := p.threads ++ [⟨c, S.handle p.threads.length c⟩] }
    else p
  | .run j i =>
    match p.threads[j]? with
    | some ⟨c, .atomic site effect next⟩ =>
      { state := effect i p.state
        threads := p.threads.set j ⟨c, next i p.state⟩
        trace := ⟨⟨site, p.state, effect i p.state⟩, j⟩ :: p.trace }
    | _ => p
  | .event e => { p with state := S.event e p.state }

def start (s : M.State) : Pool S := ⟨s, [], []⟩

/-- The result of call `j`, once it has one. -/
def result? (p : Pool S) (j : Nat) : Option (Except M.Error S.Reply) :=
  match p.threads[j]? with
  | some ⟨_, .done r⟩ => some r
  | _ => none

/-- Call `j` is over, and has not failed. -/
def succeeds (p : Pool S) (j : Nat) : Bool := (p.result? j).any Except.isOk

/-- Call number `j`, once it has arrived. -/
def call? (p : Pool S) (j : Nat) : Option S.Call := (p.threads[j]?).map Thread.call

/-- Every call that has arrived is over. -/
def AllOver (p : Pool S) : Prop := ∀ j < p.threads.length, (p.result? j).isSome = true

instance (p : Pool S) : Decidable p.AllOver :=
  inferInstanceAs (Decidable (∀ j < p.threads.length, (p.result? j).isSome = true))

/-- The steps of call `j` in a trace, newest first. -/
def ownSteps (j : Nat) (trace : List (Entry M)) : List (StepRecord M) :=
  (trace.filter fun e => e.thread = j).map Entry.toStepRecord

/-- Every step of the trace meets `cond` in the state it starts from. -/
def Steps (cond : M.Site → M.State → Prop) (p : Pool S) : Prop :=
  ∀ e ∈ p.trace, cond e.site e.pre

instance {cond : M.Site → M.State → Prop} [∀ site s, Decidable (cond site s)] (p : Pool S) :
    Decidable (p.Steps cond) :=
  inferInstanceAs (Decidable (∀ e ∈ p.trace, cond e.site e.pre))

end Pool

/-- Runs a schedule from a state in which no call has arrived. -/
def poolRun (s : M.State) (actions : List (Pool.Action S)) : Pool S :=
  actions.foldl Pool.step (Pool.start s)

theorem poolRun_concat (s : M.State) (actions : List (Pool.Action S)) (a : Pool.Action S) :
    poolRun s (actions ++ [a]) = (poolRun s actions).step a := by
  simp [poolRun]

/-! ## Soundness of contracts in a pool -/

namespace Pool

/-- What is known of a pool whose calls all meet their contracts: the
invariant, what each call has left to do, and what each step guaranteed. -/
structure Sound (C : Nat → Contract M) (Q : Nat → S.Call → Post M S.Reply)
    (I : M.State → Prop) (s₀ : M.State) (p : Pool S) : Prop where
  inv : I p.state
  /-- calls that have not arrived yet have only seen steps of others -/
  absent : ∀ j, p.threads.length ≤ j → (C j).rely s₀ p.state
  sat : ∀ j th, p.threads[j]? = some th →
    Sat (C j) (Q j th.call) th.prog (ownSteps j p.trace) p.state
  guar : ∀ later e earlier, p.trace = later ++ e :: earlier → I e.pre ∧ I e.post ∧
    (C e.thread).guar (ownSteps e.thread earlier) e.site e.pre e.post
  arrived : ∀ e ∈ p.trace, e.thread < p.threads.length

section

variable {C : Nat → Contract M} {Q : Nat → S.Call → Post M S.Reply} {I : M.State → Prop}
  {cond : M.Site → M.State → Prop} {s₀ : M.State} {p : Pool S}

/-- The trace only grows along a run. -/
theorem trace_step (p : Pool S) (a : Action S) : ∀ e ∈ p.trace, e ∈ (p.step a).trace := by
  intro e he
  cases a with
  | arrive c =>
    simp only [step]
    split
    · exact he
    · exact he
  | run j i =>
    simp only [step]
    split
    · exact List.mem_cons_of_mem _ he
    · exact he
  | event ev => exact he

/-- The steps of the beginning of a run are the first steps of the run. -/
theorem trace_append (before after : List (Action S)) :
    ∃ later, (poolRun s₀ (before ++ after)).trace = later ++ (poolRun s₀ before).trace := by
  induction after using List.reverseRecOn with
  | nil => exact ⟨[], by rw [List.append_nil, List.nil_append]⟩
  | append_singleton after a ih =>
    obtain ⟨later, hlater⟩ := ih
    rw [← List.append_assoc, poolRun_concat]
    generalize poolRun s₀ (before ++ after) = p at *
    cases a with
    | arrive c =>
      simp only [step]
      split
      · exact ⟨later, hlater⟩
      · exact ⟨later, hlater⟩
    | event e => exact ⟨later, hlater⟩
    | run j i =>
      simp only [step]
      split
      · exact ⟨_ :: later, by rw [List.cons_append, hlater]⟩
      · exact ⟨later, hlater⟩

/-- What all steps of a run meet, those of its beginning do. -/
theorem Steps.before {before after : List (Action S)} (h : (poolRun s₀ (before ++ after)).Steps cond) :
    (poolRun s₀ before).Steps cond := by
  induction after using List.reverseRecOn with
  | nil => rwa [List.append_nil] at h
  | append_singleton after a ih =>
    rw [← List.append_assoc, poolRun_concat] at h
    exact ih fun e he => h e (trace_step _ a e he)

/-- Calls keep their numbers. -/
theorem call?_step (p : Pool S) (a : Action S) {j : Nat} {c : S.Call} (hj : p.call? j = some c) :
    (p.step a).call? j = some c := by
  obtain ⟨th, hth, hc⟩ := Option.map_eq_some_iff.mp hj
  have hlt : j < p.threads.length := by
    by_contra hge
    rw [List.getElem?_eq_none (by omega)] at hth
    cases hth
  cases a with
  | arrive c' =>
    simp only [step]
    split
    · rw [call?, List.getElem?_append_left hlt]
      exact hj
    · exact hj
  | event e => exact hj
  | run k i =>
    simp only [step]
    split
    · rename_i c' site effect next hk
      -- a step changes what is left of its call, not the call
      by_cases hkj : k = j
      · subst hkj
        rw [hth] at hk
        cases hk
        rw [call?, List.getElem?_set_self hlt, ← hc]
        rfl
      · rw [call?, List.getElem?_set_ne hkj]
        exact hj
    · exact hj

/-- The call that arrives first is call 0. -/
theorem call?_first {s₀ : M.State} {c : S.Call} (hc : S.admits c s₀ = true)
    (actions : List (Action S)) : (poolRun s₀ (.arrive c :: actions)).call? 0 = some c := by
  induction actions using List.reverseRecOn with
  | nil =>
    simp only [poolRun, List.foldl_cons, List.foldl_nil, step, start]
    rw [if_pos hc]
    rfl
  | append_singleton actions a ih =>
    rw [← List.cons_append, poolRun_concat]
    exact call?_step _ a ih

/-- A call has a number only after its arrival, where it was admitted. -/
theorem admitted_of_call? {s₀ : M.State} {actions : List (Action S)} {j : Nat} {c : S.Call}
    (hj : (poolRun s₀ actions).call? j = some c) :
    ∃ before after, actions = before ++ .arrive c :: after ∧ S.admits c (poolRun s₀ before).state = true := by
  induction actions using List.reverseRecOn with
  | nil => simp [poolRun, start, call?] at hj
  | append_singleton actions a ih =>
    rw [poolRun_concat] at hj
    by_cases hold : (poolRun s₀ actions).call? j = some c
    · obtain ⟨before, after, rfl, hadm⟩ := ih hold
      exact ⟨before, after ++ [a], by rw [List.append_assoc, List.cons_append], hadm⟩
    · -- the number is new: neither a step nor an event adds a call
      have hnew : a = .arrive c ∧ S.admits c (poolRun s₀ actions).state = true := by
        generalize poolRun s₀ actions = p at *
        cases a with
        | event e => exact absurd hj hold
        | run k i =>
          simp only [step] at hj
          split at hj
          · rename_i c' site effect next hk
            exfalso
            apply hold
            rw [call?] at hj ⊢
            by_cases hkj : k = j
            · subst hkj
              rw [hk]
              have hlt : k < p.threads.length := (List.getElem?_eq_some_iff.mp hk).1
              rw [List.getElem?_set_self hlt] at hj
              exact hj
            · rwa [List.getElem?_set_ne hkj] at hj
          · exact absurd hj hold
        | arrive c' =>
          simp only [step] at hj
          split at hj
          · rename_i hadm
            rcases Nat.lt_or_ge j p.threads.length with hlt | hge
            · rw [call?, List.getElem?_append_left hlt] at hj
              exact absurd hj hold
            · obtain ⟨th, hth, rfl⟩ := Option.map_eq_some_iff.mp hj
              rw [List.getElem?_append_right hge] at hth
              rw [List.mem_singleton.mp (List.mem_of_getElem? hth)]
              exact ⟨rfl, hadm⟩
          · exact absurd hj hold
      exact ⟨actions, [], by rw [hnew.1], hnew.2⟩

theorem arrive_of_call? {s₀ : M.State} {actions : List (Action S)} {j : Nat} {c : S.Call}
    (hj : (poolRun s₀ actions).call? j = some c) : Action.arrive c ∈ actions := by
  obtain ⟨before, after, rfl, -⟩ := admitted_of_call? hj
  exact List.mem_append_right _ (List.mem_cons_self ..)

theorem ownSteps_cons_self (j : Nat) (r : StepRecord M) (trace : List (Entry M)) :
    ownSteps j (⟨r, j⟩ :: trace) = r :: ownSteps j trace := by
  simp [ownSteps]

theorem ownSteps_cons_of_ne {i j : Nat} (hij : i ≠ j) (r : StepRecord M)
    (trace : List (Entry M)) : ownSteps j (⟨r, i⟩ :: trace) = ownSteps j trace := by
  simp [ownSteps, hij]

theorem ownSteps_eq_nil {j : Nat} {trace : List (Entry M)} (hj : ∀ e ∈ trace, e.thread < j) :
    ownSteps j trace = [] := by
  rw [ownSteps, List.map_eq_nil_iff, List.filter_eq_nil_iff]
  intro e he
  have := hj e he
  simp only [decide_eq_true_eq]
  omega

/-- One step of call `j`: `j` itself goes on from its own step, every other call
sees a step it may rely on. -/
theorem Sound.run
    (htrans : ∀ j a b c, (C j).rely a b → (C j).rely b c → (C j).rely a c)
    (hQ : ∀ j c h r s s', (C j).rely s s' → Q j c h r s → Q j c h r s')
    (hrefl : ∀ j s, I s → (C j).rely s s)
    (hown : ∀ j h site s s', I s → cond site s → (C j).guar h site s s' → I s')
    (hother : ∀ i j h site s s', i ≠ j → I s → cond site s → (C i).guar h site s s' →
      (C j).rely s s')
    (hp : Sound C Q I s₀ p) {j : Nat} {c : S.Call} {site : M.Site}
    {effect : M.Answer → M.State → M.State} {next : M.Answer → M.State → Prog M S.Reply}
    (hj : p.threads[j]? = some ⟨c, .atomic site effect next⟩) (i : M.Answer)
    (hc : cond site p.state) :
    Sound C Q I s₀
      { state := effect i p.state
        threads := p.threads.set j ⟨c, next i p.state⟩
        trace := ⟨⟨site, p.state, effect i p.state⟩, j⟩ :: p.trace } := by
  obtain ⟨hg, hn⟩ := hp.sat j _ hj p.state (hrefl j _ hp.inv) i
  have hI : I (effect i p.state) := hown j _ _ _ _ hp.inv hc hg
  have hjlt : j < p.threads.length := by
    by_contra hge
    rw [List.getElem?_eq_none (by omega)] at hj
    cases hj
  -- what `j` guarantees is what everybody else relies on
  have hrely : ∀ k, k ≠ j → (C k).rely p.state (effect i p.state) := fun k hk =>
    hother j k _ _ _ _ (Ne.symm hk) hp.inv hc hg
  refine ⟨hI, fun k hk => ?_, fun k th hth => ?_, fun later e earlier he => ?_, fun e he => ?_⟩
  · rw [List.length_set] at hk
    exact htrans k _ _ _ (hp.absent k hk) (hrely k (by omega))
  · by_cases hkj : k = j
    · subst hkj
      rw [List.getElem?_set_self hjlt] at hth
      cases hth
      rw [ownSteps_cons_self]
      exact hn
    · rw [List.getElem?_set_ne (Ne.symm hkj)] at hth
      rw [ownSteps_cons_of_ne (Ne.symm hkj)]
      exact (hp.sat k th hth).rely (htrans k) (hQ k th.call) (hrely k hkj)
  · cases later with
    | nil =>
      rw [List.nil_append, List.cons.injEq] at he
      obtain ⟨rfl, rfl⟩ := he
      exact ⟨hp.inv, hI, hg⟩
    | cons l rest =>
      rw [List.cons_append, List.cons.injEq] at he
      exact hp.guar rest e earlier he.2
  · rw [List.length_set]
    rcases List.mem_cons.mp he with rfl | he
    · exact hjlt
    · exact hp.arrived e he

/-- **Soundness of the pool.** Calls that meet their contracts one by one meet
them in every interleaving, provided each guarantee keeps the invariant and
implies what the other calls rely on. -/
theorem sound_of
    (hI0 : I s₀)
    (hrefl : ∀ j s, I s → (C j).rely s s)
    (htrans : ∀ j a b c, (C j).rely a b → (C j).rely b c → (C j).rely a c)
    (hQ : ∀ j c h r s s', (C j).rely s s' → Q j c h r s → Q j c h r s')
    (hown : ∀ j h site s s', I s → cond site s → (C j).guar h site s s' → I s')
    (hother : ∀ i j h site s s', i ≠ j → I s → cond site s → (C i).guar h site s s' →
      (C j).rely s s')
    (hevent : ∀ e s, I s → I (S.event e s) ∧ ∀ j, (C j).rely s (S.event e s))
    (actions : List (Action S))
    (hcall : ∀ j c s, Action.arrive c ∈ actions → (poolRun s₀ actions).call? j = some c → I s →
      (C j).rely s₀ s → S.admits c s = true → Sat (C j) (Q j c) (S.handle j c) [] s)
    (hc : (poolRun s₀ actions).Steps cond) :
    Sound C Q I s₀ (poolRun s₀ actions) := by
  induction actions using List.reverseRecOn with
  | nil =>
    exact ⟨hI0, fun j _ => hrefl j s₀ hI0, fun j th hth => by simp [poolRun, start] at hth,
      fun later e earlier he => by simp [poolRun, start] at he,
      fun e he => by simp [poolRun, start] at he⟩
  | append_singleton actions a ih =>
    rw [poolRun_concat] at hc ⊢
    simp only [poolRun_concat] at hcall
    have hp := ih (fun j c s hmem hj => hcall j c s (List.mem_append_left _ hmem)
      ((poolRun s₀ actions).call?_step a hj))
      fun e he => hc e ((poolRun s₀ actions).trace_step a e he)
    generalize poolRun s₀ actions = p at *
    cases a with
    | arrive c =>
      simp only [step] at hc ⊢
      split
      · rename_i hadm
        refine ⟨hp.inv, fun j hj => hp.absent j ?_, fun j th hth => ?_, hp.guar, fun e he => ?_⟩
        · simp only [List.length_append, List.length_singleton] at hj
          omega
        · -- the new call starts with no step of its own
          rcases Nat.lt_trichotomy j p.threads.length with hj | rfl | hj
          · rw [List.getElem?_append_left hj] at hth
            exact hp.sat j th hth
          · rw [List.getElem?_concat_length] at hth
            cases hth
            rw [ownSteps_eq_nil hp.arrived]
            exact hcall _ c _ (by simp) (by simp [call?, step, hadm]) hp.inv
              (hp.absent _ (Nat.le_refl _)) hadm
          · rw [List.getElem?_eq_none (by simp; omega)] at hth
            cases hth
        · have := hp.arrived e he
          simp only [List.length_append, List.length_singleton]
          omega
      · exact hp
    | run j i =>
      simp only [step] at hc ⊢
      split
      · rename_i c site effect next hj
        rw [hj] at hc
        exact hp.run htrans hQ hrefl hown hother hj i (hc _ (List.mem_cons_self ..))
      · exact hp
    | event e =>
      obtain ⟨hI, hr⟩ := hevent e p.state hp.inv
      exact ⟨hI, fun j hj => htrans j _ _ _ (hp.absent j hj) (hr j),
        fun j th hth => (hp.sat j th hth).rely (htrans j) (hQ j th.call) (hr j), hp.guar,
        hp.arrived⟩

/-- As `sound_of`, for any calls. -/
theorem sound
    (hI0 : I s₀)
    (hrefl : ∀ j s, I s → (C j).rely s s)
    (htrans : ∀ j a b c, (C j).rely a b → (C j).rely b c → (C j).rely a c)
    (hQ : ∀ j c h r s s', (C j).rely s s' → Q j c h r s → Q j c h r s')
    (hown : ∀ j h site s s', I s → cond site s → (C j).guar h site s s' → I s')
    (hother : ∀ i j h site s s', i ≠ j → I s → cond site s → (C i).guar h site s s' →
      (C j).rely s s')
    (hevent : ∀ e s, I s → I (S.event e s) ∧ ∀ j, (C j).rely s (S.event e s))
    (hcall : ∀ j c s, I s → (C j).rely s₀ s → S.admits c s = true →
      Sat (C j) (Q j c) (S.handle j c) [] s)
    (actions : List (Action S)) (hc : (poolRun s₀ actions).Steps cond) :
    Sound C Q I s₀ (poolRun s₀ actions) :=
  sound_of hI0 hrefl htrans hQ hown hother hevent actions (fun j c s _ _ => hcall j c s) hc

/-- What is known of each step that was taken. -/
theorem Sound.step (hp : Sound C Q I s₀ p) : ∀ e ∈ p.trace, ∃ h, I e.pre ∧ I e.post ∧
    (C e.thread).guar h e.site e.pre e.post := by
  intro e he
  obtain ⟨later, earlier, hsplit⟩ := List.append_of_mem he
  exact ⟨_, hp.guar later e earlier hsplit⟩

/-- What is known of a call that is over. -/
theorem Sound.result (hp : Sound C Q I s₀ p) {j : Nat} {r : Except M.Error S.Reply}
    (hj : p.result? j = some r) :
    ∃ c, p.call? j = some c ∧ Q j c (ownSteps j p.trace) r p.state := by
  unfold result? at hj
  split at hj
  · rename_i c r' hth
    cases hj
    exact ⟨c, by rw [call?, hth]; rfl, hp.sat j _ hth⟩
  · cases hj

/-- A preorder that contains every step and every event leads from each state of
the run to each later one. -/
theorem leads {R : M.State → M.State → Prop} (hrefl : ∀ s, R s s)
    (htrans : ∀ a b c, R a b → R b c → R a c) (hevent : ∀ e s, R s (S.event e s))
    (before after : List (Action S))
    (hstep : ∀ e ∈ (poolRun s₀ (before ++ after)).trace, R e.pre e.post) :
    R (poolRun s₀ before).state (poolRun s₀ (before ++ after)).state := by
  induction after using List.reverseRecOn with
  | nil =>
    rw [List.append_nil]
    exact hrefl _
  | append_singleton after a ih =>
    rw [← List.append_assoc, poolRun_concat] at hstep ⊢
    have hle := ih fun e he => hstep e ((poolRun s₀ (before ++ after)).trace_step a e he)
    generalize poolRun s₀ (before ++ after) = p at *
    refine htrans _ _ _ hle ?_
    cases a with
    | arrive c =>
      simp only [step]
      split
      · exact hrefl _
      · exact hrefl _
    | event e => exact hevent e _
    | run j i =>
      simp only [step] at hstep ⊢
      split
      · rename_i c site effect next hj
        rw [hj] at hstep
        exact hstep _ (List.mem_cons_self ..)
      · exact hrefl _

/-- An invariant of the state and of the steps taken so far. Each step may assume
what the hypotheses on the whole trace say of it and of the steps before it, and each
event what those on the schedule say of it. -/
theorem history_scheduled {I : M.State → List (Entry M) → Prop} (h0 : I s₀ []) (actions : List (Action S))
    (hevent : ∀ before e after, actions = before ++ .event e :: after →
      I (poolRun s₀ before).state (poolRun s₀ before).trace →
      I (S.event e (poolRun s₀ before).state) (poolRun s₀ before).trace)
    (hstep : ∀ later e earlier, (poolRun s₀ actions).trace = later ++ e :: earlier →
      I e.pre earlier → I e.post (e :: earlier)) :
    I (poolRun s₀ actions).state (poolRun s₀ actions).trace := by
  induction actions using List.reverseRecOn with
  | nil => exact h0
  | append_singleton actions a ih =>
    rw [poolRun_concat] at hstep ⊢
    have ih := ih fun before e after hsplit => hevent before e (after ++ [a]) (by simp [hsplit])
    have hlast := fun e ha => hevent actions e [] (congrArg (fun a => actions ++ [a]) ha)
    generalize poolRun s₀ actions = p at *
    cases a with
    | arrive c =>
      simp only [step] at hstep ⊢
      split at hstep
      · rename_i hadm
        rw [if_pos hadm]
        exact ih hstep
      · rename_i hadm
        rw [if_neg hadm]
        exact ih hstep
    | event e => exact hlast e rfl (ih hstep)
    | run j i =>
      simp only [step] at hstep ⊢
      split at hstep
      · -- the steps before the new one are those of the shorter run
        refine hstep [] _ _ rfl (ih fun later e earlier hsplit => ?_)
        exact hstep (_ :: later) e earlier (by rw [hsplit]; rfl)
      · exact ih hstep

/-- As `history_scheduled`, for any events. -/
theorem history {I : M.State → List (Entry M) → Prop} (h0 : I s₀ [])
    (hevent : ∀ e s trace, I s trace → I (S.event e s) trace) (actions : List (Action S))
    (hstep : ∀ later e earlier, (poolRun s₀ actions).trace = later ++ e :: earlier →
      I e.pre earlier → I e.post (e :: earlier)) :
    I (poolRun s₀ actions).state (poolRun s₀ actions).trace :=
  history_scheduled h0 actions (fun _ e _ _ => hevent e _ _) hstep

/-- As `history_scheduled`, and so it was before every step, too. A step may also assume what is said
of the steps before it. -/
theorem history_past_scheduled {I : M.State → List (Entry M) → Prop} (h0 : I s₀ [])
    (actions : List (Action S))
    (hevent : ∀ before e after, actions = before ++ .event e :: after →
      I (poolRun s₀ before).state (poolRun s₀ before).trace →
      I (S.event e (poolRun s₀ before).state) (poolRun s₀ before).trace)
    (hstep : ∀ later e earlier, (poolRun s₀ actions).trace = later ++ e :: earlier → I e.pre earlier →
      (∀ after e' before, earlier = after ++ e' :: before → I e'.pre before) → I e.post (e :: earlier)) :
    I (poolRun s₀ actions).state (poolRun s₀ actions).trace ∧
      ∀ later e earlier, (poolRun s₀ actions).trace = later ++ e :: earlier → I e.pre earlier := by
  -- the invariant now and the invariant before each step go through the induction together
  refine history_scheduled (I := fun s trace => I s trace ∧
    ∀ later e earlier, trace = later ++ e :: earlier → I e.pre earlier) ⟨h0, ?_⟩ actions ?_ ?_
  · intro later e earlier hsplit
    simp at hsplit
  · intro before e after hsplit hI
    exact ⟨hevent before e after hsplit hI.1, hI.2⟩
  · intro later e earlier hsplit hI
    refine ⟨hstep later e earlier hsplit hI.1 hI.2, fun after e' before hbefore => ?_⟩
    cases after with
    | nil =>
      obtain ⟨rfl, rfl⟩ := List.cons.inj hbefore
      exact hI.1
    | cons _ after =>
      exact hI.2 after e' before (List.cons.inj hbefore).2

/-- As `history_past_scheduled`, for any events. -/
theorem history_past {I : M.State → List (Entry M) → Prop} (h0 : I s₀ [])
    (hevent : ∀ e s trace, I s trace → I (S.event e s) trace) (actions : List (Action S))
    (hstep : ∀ later e earlier, (poolRun s₀ actions).trace = later ++ e :: earlier → I e.pre earlier →
      (∀ after e' before, earlier = after ++ e' :: before → I e'.pre before) → I e.post (e :: earlier)) :
    I (poolRun s₀ actions).state (poolRun s₀ actions).trace ∧
      ∀ later e earlier, (poolRun s₀ actions).trace = later ++ e :: earlier → I e.pre earlier :=
  history_past_scheduled h0 actions (fun _ e _ _ => hevent e _ _) hstep

/-- **What comes about.** When no event brings `P` about, it holds after a run only if it held at
the start, or if a step has brought it about. -/
theorem comes_about {P : M.State → Prop} (hevent : ∀ e s, P (S.event e s) → P s)
    (actions : List (Action S)) (hend : P (poolRun s₀ actions).state) :
    P s₀ ∨ ∃ later e earlier, (poolRun s₀ actions).trace = later ++ e :: earlier ∧ ¬P e.pre ∧ P e.post := by
  refine history (I := fun s trace => P s → P s₀ ∨ ∃ later e earlier,
    trace = later ++ e :: earlier ∧ ¬P e.pre ∧ P e.post) .inl ?_ actions ?_ hend
  · exact fun e s trace hs hP => hs (hevent e s hP)
  · intro later e earlier _ hpre hpost
    by_cases hP : P e.pre
    · rcases hpre hP with hstart | ⟨after, e', before, rfl, hstep⟩
      · exact .inl hstart
      · exact .inr ⟨e :: after, e', before, rfl, hstep⟩
    · exact .inr ⟨[], e, earlier, rfl, hP, hpost⟩

/-- **What lasts until it is ended.** When every event keeps `P`, and every step that does not
end it, then `P` holds before a step if it held after an earlier one, unless a step in between has
ended it. -/
theorem holds_until {P : M.State → Prop} {E : Entry M → Prop} (hevent : ∀ e s, P s → P (S.event e s))
    (actions : List (Action S)) (hstep : ∀ e ∈ (poolRun s₀ actions).trace, P e.pre → P e.post ∨ E e)
    {later between earlier : List (Entry M)} {e e₀ : Entry M}
    (hsplit : (poolRun s₀ actions).trace = later ++ e :: (between ++ e₀ :: earlier)) (hP : P e₀.post) :
    P e.pre ∨ ∃ e' ∈ between, E e' := by
  -- by induction on the run, for every earlier step at once
  have hnone : ∀ between e₀ earlier, ([] : List (Entry M)) = between ++ e₀ :: earlier → P e₀.post →
      P s₀ ∨ ∃ e' ∈ between, E e' := fun _ _ _ hnil => by simp at hnil
  have hpast := history_past (I := fun s trace => ∀ between e₀ earlier, trace = between ++ e₀ :: earlier →
    P e₀.post → P s ∨ ∃ e' ∈ between, E e') hnone
    (fun ev s trace hI between e₀ earlier htrace hP => (hI between e₀ earlier htrace hP).imp_left (hevent ev s))
    actions fun later e earlier htrace hI _ between e₀ earlier' hcons hP => by
      cases between with
      | nil =>
        obtain ⟨rfl, -⟩ := List.cons.inj hcons
        exact .inl hP
      | cons _ between =>
        obtain ⟨rfl, rfl⟩ := List.cons.inj hcons
        rcases hI between e₀ earlier' rfl hP with hnow | ⟨e', he', hends⟩
        · exact (hstep e (by simp [htrace]) hnow).imp_right fun hends => ⟨e, List.mem_cons_self, hends⟩
        · exact .inr ⟨e', List.mem_cons_of_mem _ he', hends⟩
  exact hpast.2 later e _ hsplit between e₀ earlier rfl hP

/-- Along the trace, any preorder that contains every step and every event leads
from the start to each step, from each step to the later ones and to the end. -/
structure Chain (R : M.State → M.State → Prop) (s₀ : M.State) (p : Pool S) : Prop where
  first : R s₀ p.state
  last : ∀ e ∈ p.trace, R s₀ e.pre ∧ R e.post p.state
  between : ∀ later e earlier, p.trace = later ++ e :: earlier → ∀ e' ∈ earlier, R e'.post e.pre

theorem chain {R : M.State → M.State → Prop} (hrefl : ∀ s, R s s)
    (htrans : ∀ a b c, R a b → R b c → R a c) (hevent : ∀ e s, R s (S.event e s))
    (actions : List (Action S)) (hstep : ∀ e ∈ (poolRun s₀ actions).trace, R e.pre e.post) :
    Chain R s₀ (poolRun s₀ actions) := by
  have hall := history (I := fun s trace => R s₀ s ∧ (∀ e ∈ trace, R s₀ e.pre ∧ R e.post s) ∧
    ∀ later e earlier, trace = later ++ e :: earlier → ∀ e' ∈ earlier, R e'.post e.pre)
    ⟨hrefl s₀, fun _ he => absurd he List.not_mem_nil, fun _ _ _ hnil => by simp at hnil⟩ ?_ actions ?_
  · exact ⟨hall.1, hall.2.1, hall.2.2⟩
  · rintro ev s trace ⟨hfirst, hlast, hbetween⟩
    exact ⟨htrans _ _ _ hfirst (hevent ev s),
      fun e he => ⟨(hlast e he).1, htrans _ _ _ (hlast e he).2 (hevent ev s)⟩, hbetween⟩
  · rintro later e earlier htrace ⟨hfirst, hlast, hbetween⟩
    have hnew : R e.pre e.post := hstep e (by simp [htrace])
    refine ⟨htrans _ _ _ hfirst hnew, fun e' he' => ?_, fun later' e' earlier' hsplit => ?_⟩
    · rcases List.mem_cons.mp he' with rfl | he'
      · exact ⟨hfirst, hrefl _⟩
      · exact ⟨(hlast e' he').1, htrans _ _ _ (hlast e' he').2 hnew⟩
    · -- the new step is the last one: earlier steps end before it starts
      cases later' with
      | nil =>
        obtain ⟨rfl, rfl⟩ := List.cons.inj hsplit
        exact fun e' he' => (hlast e' he').2
      | cons _ rest => exact hbetween rest e' earlier' (List.cons.inj hsplit).2

end

/-- When every call meets one contract, which relies on nothing but what its own guarantee
and the events provide, every step of a run meets the guarantee. -/
theorem sat_step {C : Contract M} (hrefl : ∀ s, C.rely s s)
    (htrans : ∀ a b c, C.rely a b → C.rely b c → C.rely a c)
    (hguar : ∀ h site s s', C.guar h site s s' → C.rely s s')
    (hevent : ∀ e s, C.rely s (S.event e s)) (hcall : ∀ j c s, Sat C anyPost (S.handle j c) [] s)
    (s₀ : M.State) (actions : List (Action S)) :
    ∀ e ∈ (poolRun s₀ actions).trace, ∃ h, C.guar h e.site e.pre e.post := by
  have hany : (poolRun s₀ actions).Steps fun _ _ => True := fun _ _ => trivial
  have hsound : Sound (fun _ => C) (fun _ _ => anyPost) (fun _ => True) s₀ (poolRun s₀ actions) :=
    sound trivial (fun _ s _ => hrefl s) (fun _ => htrans) (fun _ _ _ _ _ _ _ _ => trivial)
      (fun _ _ _ _ _ _ _ _ => trivial) (fun _ _ h site s s' _ _ _ => hguar h site s s')
      (fun e s _ => ⟨trivial, fun _ => hevent e s⟩) (fun j c s _ _ _ => hcall j c s) actions hany
  intro e he
  obtain ⟨h, -, -, hg⟩ := hsound.step e he
  exact ⟨h, hg⟩

/-- As `sat_step`, for a contract that relies on nothing. -/
theorem free_step {C : Contract M} (hrely : ∀ s s', C.rely s s')
    (hfree : ∀ j c, Free C (S.handle j c)) (s₀ : M.State) (actions : List (Action S)) :
    ∀ e ∈ (poolRun s₀ actions).trace, ∃ h, C.guar h e.site e.pre e.post :=
  sat_step (fun s => hrely s s) (fun a _ c _ _ => hrely a c) (fun _ _ s s' _ => hrely s s')
    (fun _ s => hrely s _) (fun j c => hfree j c []) s₀ actions

/-- A step of a call, found in the trace together with the call's steps before it. -/
theorem ownSteps_split {j : Nat} {trace : List (Entry M)} {later earlier : List (StepRecord M)}
    {t : StepRecord M} (hsplit : ownSteps j trace = later ++ t :: earlier) :
    ∃ after e before, trace = after ++ e :: before ∧ e.thread = j ∧ e.toStepRecord = t ∧
      ownSteps j before = earlier := by
  obtain ⟨_, rest, hfilter, -, hrest⟩ := List.map_eq_append_iff.mp hsplit
  obtain ⟨e, before', rfl, rfl, rfl⟩ := List.map_eq_cons_iff.mp hrest
  obtain ⟨_, trace', rfl, -, hcons⟩ := List.filter_eq_append_iff.mp hfilter
  obtain ⟨_, before, rfl, -, hj, hbefore⟩ := List.filter_eq_cons_iff.mp hcons
  refine ⟨_, e, before, (List.append_assoc _ _ _).symm, of_decide_eq_true hj, rfl, ?_⟩
  rw [ownSteps, hbefore]

/-- A step that a call has taken is in the trace. -/
theorem mem_of_ownSteps {j : Nat} {trace : List (Entry M)} {t : StepRecord M} (ht : t ∈ ownSteps j trace) :
    ∃ e ∈ trace, e.thread = j ∧ e.toStepRecord = t := by
  obtain ⟨e, he, rfl⟩ := List.mem_map.mp ht
  obtain ⟨hmem, hj⟩ := List.mem_filter.mp he
  exact ⟨e, hmem, of_decide_eq_true hj, rfl⟩

/-- After the last step of a call there are only steps of others. -/
theorem ownSteps_head {j : Nat} {trace : List (Entry M)} {t : StepRecord M} {rest : List (StepRecord M)}
    (hhead : ownSteps j trace = t :: rest) :
    ∃ after e before, trace = after ++ e :: before ∧ e.toStepRecord = t ∧ ∀ e' ∈ after, e'.thread ≠ j := by
  obtain ⟨e, rest', hfilter, rfl, -⟩ := List.map_eq_cons_iff.mp hhead
  obtain ⟨after, before, rfl, hothers, -⟩ := List.filter_eq_cons_iff.mp hfilter
  exact ⟨after, e, before, rfl, rfl, fun e' he' hthread => hothers e' he' (decide_eq_true hthread)⟩

/-- The steps of one call, around one of them. -/
theorem ownSteps_of_split {trace later earlier : List (Entry M)} {e : Entry M}
    (htrace : trace = later ++ e :: earlier) :
    ownSteps e.thread trace =
      ownSteps e.thread later ++ e.toStepRecord :: ownSteps e.thread earlier := by
  rw [htrace, ownSteps, List.filter_append, List.map_append]
  refine congrArg (ownSteps e.thread later ++ ·) ?_
  exact ownSteps_cons_self e.thread e.toStepRecord earlier

/-- Every step is of a call that has arrived. -/
theorem call?_of_mem {s₀ : M.State} {actions : List (Action S)} {e : Entry M}
    (he : e ∈ (poolRun s₀ actions).trace) : ∃ c, (poolRun s₀ actions).call? e.thread = some c := by
  have hany : (poolRun s₀ actions).Steps fun _ _ => True := fun _ _ => trivial
  have hsound : Sound (fun _ => endContract) (fun _ _ => anyPost) (fun _ => True) s₀ (poolRun s₀ actions) :=
    sound trivial (fun _ _ _ => trivial) (fun _ _ _ _ _ _ => trivial) (fun _ _ _ _ _ _ _ _ => trivial)
      (fun _ _ _ _ _ _ _ _ => trivial) (fun _ _ _ _ _ _ _ _ _ _ => trivial)
      (fun _ _ _ => ⟨trivial, fun _ => trivial⟩) (fun _ _ _ _ _ _ => sat_end fun _ _ _ => trivial) actions hany
  have hlt := hsound.arrived e he
  exact ⟨_, by rw [call?, List.getElem?_eq_getElem hlt, Option.map_some]⟩

/-- A call that meets a contract which relies on nothing meets it among any other calls. -/
theorem own_sound {C : Contract M} (hrely : ∀ s s', C.rely s s') {j : Nat} {c : S.Call}
    {Q : List (StepRecord M) → Except M.Error S.Reply → Prop}
    (hcall : ∀ s, Sat C (fun h r _ => Q h r) (S.handle j c) [] s) {s₀ : M.State}
    {actions : List (Action S)} (hj : (poolRun s₀ actions).call? j = some c) :
    Sound (fun k => if k = j then C else endContract) (fun k _ h r _ => k = j → Q h r) (fun _ => True) s₀
      (poolRun s₀ actions) := by
  have hany : (poolRun s₀ actions).Steps fun _ _ => True := fun _ _ => trivial
  have hall : ∀ k s s', (if k = j then C else endContract).rely s s' := by
    intro k s s'
    split
    · exact hrely s s'
    · trivial
  refine sound_of trivial (fun k s _ => hall k s s) (fun k a b c _ _ => hall k a c)
    (fun _ _ _ _ _ _ _ hQ => hQ) (fun _ _ _ _ _ _ _ _ => trivial)
    (fun _ k _ _ s s' _ _ _ _ => hall k s s') (fun e s _ => ⟨trivial, fun k => hall k s _⟩)
    actions (fun k c' s _ hk _ _ _ => ?_) hany
  -- only call `j` has to keep to the contract
  by_cases hkj : k = j
  · subst hkj
    obtain rfl : c = c' := Option.some.inj (hj.symm.trans hk)
    rw [if_pos rfl]
    exact (hcall s).post fun _ _ _ hQ _ => hQ
  · rw [if_neg hkj]
    exact sat_end fun _ _ _ hk => absurd hk hkj

/-- **A call by itself.** Whatever else is going on, the steps of a call meet a contract
that relies on nothing, each after those before it, and it ends as the contract says. -/
theorem own_sat {C : Contract M} (hrely : ∀ s s', C.rely s s') {j : Nat} {c : S.Call}
    {Q : List (StepRecord M) → Except M.Error S.Reply → Prop}
    (hcall : ∀ s, Sat C (fun h r _ => Q h r) (S.handle j c) [] s) {s₀ : M.State}
    {actions : List (Action S)} (hj : (poolRun s₀ actions).call? j = some c) :
    (∀ later t earlier, ownSteps j (poolRun s₀ actions).trace = later ++ t :: earlier →
      C.guar earlier t.site t.pre t.post) ∧
    ∀ r, (poolRun s₀ actions).result? j = some r → Q (ownSteps j (poolRun s₀ actions).trace) r := by
  have hsound := own_sound hrely hcall hj
  constructor
  · intro later t earlier hsplit
    obtain ⟨after, e, before, htrace, rfl, rfl, rfl⟩ := ownSteps_split hsplit
    have hg := (hsound.guar after e before htrace).2.2
    rwa [if_pos rfl] at hg
  · intro r hr
    obtain ⟨c', -, hQ⟩ := hsound.result hr
    exact hQ rfl

/-- Each step of a run meets the contract of its call, after the steps that the call took before. -/
theorem own_step {C : Nat → S.Call → Contract M} (hrely : ∀ j c s s', (C j c).rely s s')
    (hcall : ∀ j c s, Sat (C j c) anyPost (S.handle j c) [] s) {s₀ : M.State} {actions : List (Action S)}
    {later earlier : List (Entry M)} {e : Entry M}
    (hsplit : (poolRun s₀ actions).trace = later ++ e :: earlier) :
    ∃ c, (poolRun s₀ actions).call? e.thread = some c ∧
      (C e.thread c).guar (ownSteps e.thread earlier) e.site e.pre e.post := by
  have he : e ∈ (poolRun s₀ actions).trace := by
    rw [hsplit]
    simp
  obtain ⟨c, hc⟩ := call?_of_mem he
  have hown := (own_sat (C := C e.thread c) (Q := fun _ _ => True) (hrely e.thread c)
    (fun s => (hcall e.thread c s).post fun _ _ _ _ => trivial) hc).1
  exact ⟨c, hc, hown _ _ _ (ownSteps_of_split hsplit)⟩

/-- `P` holds in every state that the run passes. -/
def Always (P : M.State → Prop) (s₀ : M.State) (actions : List (Action S)) : Prop :=
  ∀ before after, actions = before ++ after → P (poolRun s₀ before).state

theorem always_concat {P : M.State → Prop} {s₀ : M.State} {actions : List (Action S)} {a : Action S} :
    Always P s₀ (actions ++ [a]) ↔ Always P s₀ actions ∧ P (poolRun s₀ (actions ++ [a])).state := by
  constructor
  · intro h
    refine ⟨fun before after hsplit => ?_, h _ [] (List.append_nil _).symm⟩
    exact h before (after ++ [a]) (by rw [hsplit, List.append_assoc])
  · rintro ⟨hbefore, hlast⟩ before after hsplit
    rcases List.eq_nil_or_concat after with rfl | ⟨after', a', rfl⟩
    · rw [List.append_nil] at hsplit
      exact hsplit ▸ hlast
    · rw [List.concat_eq_append, ← List.append_assoc] at hsplit
      obtain ⟨rfl, -⟩ := List.append_inj' hsplit rfl
      exact hbefore before after' rfl

/-- **What breaks an invariant.** When exactly the steps that meet `cond` keep `P`,
and events keep it, then `P` holds all along a run if and only if every step of the
run meets `cond`. -/
theorem always_iff {P : M.State → Prop} {cond : M.Site → M.State → Prop} {s₀ : M.State}
    (h0 : P s₀) (hevent : ∀ e s, P s → P (S.event e s)) (actions : List (Action S))
    (hstep : ∀ e ∈ (poolRun s₀ actions).trace, P e.pre → (P e.post ↔ cond e.site e.pre)) :
    Always P s₀ actions ↔ (poolRun s₀ actions).Steps cond := by
  induction actions using List.reverseRecOn with
  | nil =>
    refine iff_of_true (fun before after hsplit => ?_) fun e he => absurd he List.not_mem_nil
    rw [List.nil_eq, List.append_eq_nil_iff] at hsplit
    rw [hsplit.1]
    exact h0
  | append_singleton actions a ih =>
    rw [always_concat]
    rw [poolRun_concat] at hstep ⊢
    have ih := ih fun e he => hstep e ((poolRun s₀ actions).trace_step a e he)
    -- all along means up to now, too
    have hnow : Always P s₀ actions → P (poolRun s₀ actions).state := fun h =>
      h actions [] (List.append_nil _).symm
    cases a with
    | arrive c =>
      simp only [step] at hstep ⊢
      split
      · exact (and_iff_left_of_imp hnow).trans ih
      · exact (and_iff_left_of_imp hnow).trans ih
    | event e => exact (and_iff_left_of_imp fun h => hevent e _ (hnow h)).trans ih
    | run j i =>
      simp only [step] at hstep ⊢
      split
      · rename_i c site effect next hj
        rw [hj] at hstep
        have hnew := hstep _ (List.mem_cons_self ..)
        unfold Steps at ih ⊢
        rw [List.forall_mem_cons, ← ih]
        constructor
        · exact fun h => ⟨(hnew (hnow h.1)).mp h.2, h.1⟩
        · exact fun h => ⟨h.2, (hnew (hnow h.2)).mpr h.1⟩
      · exact (and_iff_left_of_imp hnow).trans ih

end Pool
