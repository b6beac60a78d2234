import IncaCook.Library.Embedding
import IncaCook.Library.Runs

/-!
# Alarms that are attended to

`D` is something that must not last. Some steps raise it, and a call that may have raised it
looks again later and puts it right. A list of steps is `Settled` when, after each step that
raises `D`, one of the later ones leaves a state without it, and after each step of a kind `T`
too, whether `D` held before it or not.

Main results:

* `Pool.raised`: when `D` holds at the end of a run, some step raised it, or was of the kind,
  and every step after that one left it standing;
* `Pool.settled`: when the steps of every call are settled, `D` does not hold at the end, unless
  it held at the start and no step was of the kind;
* `Pool.standing`: when the steps of every call that is over are settled, `D` is left standing
  only by a call that has still to finish.

A program settles its steps when `D` does not hold after the last of its statements that may
raise `D`, or after some step that follows it: it is `Attended`.
-/

namespace Prog

variable {M : Machine} {D : M.State → Prop} {T : StepRecord M → Prop} {h h' : List (StepRecord M)}
  {t : StepRecord M}

/-- The steps, newest first, leave nothing standing that they have raised, or found standing when
they were of the kind. -/
def Settled (D : M.State → Prop) (T : StepRecord M → Prop) : List (StepRecord M) → Prop
  | [] => True
  | t :: h => ¬D t.post ∨ (D t.pre ∧ ¬T t) ∧ Settled D T h

theorem settled_nil : Settled D T ([] : List (StepRecord M)) := trivial

/-- Whatever came before, a step that leaves a state without `D` settles it. -/
theorem settled_of_clear (hclear : ¬D t.post) : Settled D T (t :: h) := .inl hclear

/-- A step that does not raise `D`, and is not of the kind. -/
theorem Settled.step (hh : Settled D T h) (hT : ¬T t) (ht : D t.post → D t.pre) : Settled D T (t :: h) := by
  by_cases hpost : D t.post
  · exact .inr ⟨⟨ht hpost, hT⟩, hh⟩
  · exact .inl hpost

/-- A step that changes nothing. -/
theorem Settled.noop {site : M.Site} {s : M.State} (hh : Settled D T h) (hT : ¬T ⟨site, s, s⟩) :
    Settled D T (⟨site, s, s⟩ :: h) :=
  hh.step hT id

/-- While `D` holds, nothing was settled. -/
theorem Settled.of_append (hh : Settled D T (h' ++ h)) (hstanding : ∀ t ∈ h', D t.post) : Settled D T h := by
  induction h' with
  | nil => exact hh
  | cons t h' ih =>
    rcases hh with hclear | ⟨-, hh⟩
    · exact absurd (hstanding t List.mem_cons_self) hclear
    · exact ih hh fun t' ht' => hstanding t' (List.mem_cons_of_mem _ ht')

/-- The steps of a part, as steps of the whole. -/
def SeenThrough {N : Machine} (P : Machine.Part M N) (h : List (StepRecord M)) (h' : List (StepRecord N)) :
    Prop :=
  List.Forall₂ (fun t t' => t.pre = P.get t'.pre ∧ t.post = P.get t'.post) h h'

/-- What is settled in the part, is settled in the whole, on top of settled steps. -/
theorem Settled.within {N : Machine} {P : Machine.Part M N} {D' : N.State → Prop} {T' : StepRecord N → Prop}
    {g h' : List (StepRecord N)} (hD : ∀ s, D' s ↔ D (P.get s))
    (hT : ∀ t t', t.pre = P.get t'.pre → t.post = P.get t'.post → T' t' → T t)
    (hh : Settled D T h) (hseen : SeenThrough P h h') (hg : Settled D' T' g) : Settled D' T' (h' ++ g) := by
  induction hseen with
  | nil => exact hg
  | @cons t t' _ _ hstep _ ih =>
    rcases hh with hclear | ⟨⟨hpre, hkind⟩, hh⟩
    · refine .inl fun hpost => hclear ?_
      rw [hstep.2]
      exact (hD _).mp hpost
    · refine .inr ⟨⟨(hD _).mpr ?_, fun hkind' => hkind (hT t t' hstep.1 hstep.2 hkind')⟩, ih hh⟩
      rw [← hstep.1]
      exact hpre

/-! ## Statements that may raise an alarm -/

variable {raises : M.Site → Prop} {base base' : Prop}

/-- The steps, newest first, follow what `base` says. A statement that may raise `D` has changed
nothing, or a later step, or this one, has left a state without `D`. -/
def Attended (D : M.State → Prop) (raises : M.Site → Prop) (base : Prop) : List (StepRecord M) → Prop
  | [] => base
  | t :: h => ¬D t.post ∨ (raises t.site → t.post = t.pre) ∧ Attended D raises base h

/-- Whatever came before, a step that leaves a state without `D` answers it. -/
theorem attended_of_clear (hclear : ¬D t.post) : Attended D raises base (t :: h) := .inl hclear

theorem Attended.step (hh : Attended D raises base h) (ht : raises t.site → t.post = t.pre) :
    Attended D raises base (t :: h) :=
  .inr ⟨ht, hh⟩

theorem Attended.mono (hh : Attended D raises base h) (hbase : base → base') :
    Attended D raises base' h := by
  induction h with
  | nil => exact hbase hh
  | cons t h ih =>
    rcases hh with hclear | ⟨ht, hh⟩
    · exact .inl hclear
    · exact .inr ⟨ht, ih hh⟩

/-- Steps that are attended to are settled, when no other statement raises the alarm. -/
theorem Attended.settled (hh : Attended D raises True h)
    (hother : ∀ t ∈ h, ¬raises t.site → D t.post → D t.pre) : Settled D (fun _ => False) h := by
  induction h with
  | nil => exact settled_nil
  | cons t h ih =>
    obtain ⟨ht, hrest⟩ := List.forall_mem_cons.mp hother
    rcases hh with hclear | ⟨hcalm, hh⟩
    · exact settled_of_clear hclear
    · refine (ih hh hrest).step not_false fun hpost => ?_
      by_cases hraises : raises t.site
      · rwa [← hcalm hraises]
      · exact ht hraises hpost

/-- A program that raises nothing leaves attended what was. -/
theorem Sat.attended {C : Contract M} {α : Type} {Q : Post M α} {p : Prog M α} {s : M.State}
    (hp : Sat C Q p h s)
    (hcalm : ∀ h site s s', C.guar h site s s' → raises site → s' = s)
    (hh : Attended D raises base h) :
    Sat C (fun h r s => Q h r s ∧ Attended D raises base h) p h s :=
  hp.keep (I := fun h _ => Attended D raises base h) (fun _ _ _ _ hI => hI)
    (fun h site s s' hI hg => hI.step (hcalm h site s s' hg)) hh

/-- What a program of a part attends to is attended to in the whole, on top of what was. -/
theorem sat_within_attended {N : Machine} {P : Machine.Part M N} (D : M.State → Prop)
    (raises : M.Site → Prop) (D' : N.State → Prop) (raises' : N.Site → Prop) {C : Contract M}
    {C' : Contract N} {α : Type} {Q : Post M α} (hput : ∀ s, P.put (P.get s) s = s)
    (hD : ∀ s, D' s → D (P.get s))
    (hraises : ∀ site, raises' (P.site site) → raises site)
    (hrely : ∀ s s', C'.rely s s' → C.rely (P.get s) (P.get s'))
    (hguar : ∀ h site s s', C'.guar h site s s') {p : Prog M α} {g : List (StepRecord N)} {s : N.State}
    (hp : Sat C Q p [] (P.get s)) :
    Sat C' (fun g' r s => ∃ h r₀, r = r₀.mapError P.error ∧ Q h r₀ (P.get s) ∧
      (Attended D raises (Attended D' raises' base g) h → Attended D' raises' base g')) (p.within P) g s := by
  refine sat_within (V := fun h g' =>
    Attended D raises (Attended D' raises' base g) h → Attended D' raises' base g') hrely
    (fun _ _ _ _ _ _ _ => hguar _ _ _ _) ?_ (fun h _ r _ hV hQ => ⟨h, r, rfl, hQ, hV⟩) hp id
  -- the step of the part is the last one of both histories
  intro h g' site s a hV _ hattended
  rcases hattended with hclear | ⟨hcalm, hh⟩
  · refine .inl fun hpost => hclear ?_
    have hDpost := hD _ hpost
    rwa [P.get_put] at hDpost
  · refine (hV hh).step fun hsite => ?_
    have hsame : a = P.get s := hcalm (hraises site hsite)
    dsimp only
    rw [hsame, hput]

end Prog

open Prog

namespace Pool

variable {M : Machine} {S : Service M} {D : M.State → Prop} {T : StepRecord M → Prop} {s₀ : M.State}

/-- `D` did not hold at the start, or the run has a step of the kind. -/
def Watches (D : M.State → Prop) (T : StepRecord M → Prop) (s₀ : M.State) (trace : List (Entry M)) : Prop :=
  ¬D s₀ ∨ ∃ e ∈ trace, T e.toStepRecord

/-- **Where an alarm comes from.** -/
theorem raised (hevent : ∀ e s, ¬D s → ¬D (S.event e s)) (actions : List (Action S))
    (h0 : Watches D T s₀ (poolRun s₀ actions).trace) (hD : D (poolRun s₀ actions).state) :
    ∃ later e earlier, (poolRun s₀ actions).trace = later ++ e :: earlier ∧ (¬D e.pre ∨ T e.toStepRecord) ∧
      D e.post ∧ ∀ t ∈ later, D t.post := by
  refine history (I := fun s trace => Watches D T s₀ trace → D s → ∃ later e earlier,
    trace = later ++ e :: earlier ∧ (¬D e.pre ∨ T e.toStepRecord) ∧ D e.post ∧ ∀ t ∈ later, D t.post)
    ?_ ?_ actions ?_ h0 hD
  · rintro (hnone | ⟨e, he, -⟩) hD
    · exact absurd hD hnone
    · exact absurd he List.not_mem_nil
  · intro e s trace hI hw hD
    exact hI hw (Classical.byContradiction fun hpre => hevent e s hpre hD)
  · -- the new step raises the alarm, or leaves standing what stood before
    intro _ e earlier _ hI hw hD
    by_cases hfound : D e.pre ∧ ¬T e.toStepRecord
    · have hw' : Watches D T s₀ earlier := by
        refine hw.imp_right ?_
        rintro ⟨e', he', hkind⟩
        rcases List.mem_cons.mp he' with rfl | he'
        · exact absurd hkind hfound.2
        · exact ⟨e', he', hkind⟩
      obtain ⟨later, e', before, rfl, hraise, hpost, hlater⟩ := hI hw' hfound.1
      exact ⟨e :: later, e', before, rfl, hraise, hpost, List.forall_mem_cons.mpr ⟨hD, hlater⟩⟩
    · refine ⟨[], e, earlier, rfl, ?_, hD, fun t ht => absurd ht List.not_mem_nil⟩
      by_cases hpre : D e.pre
      · exact .inr (not_not.mp fun hkind => hfound ⟨hpre, hkind⟩)
      · exact .inl hpre

/-- The call that raised an alarm that stands has not settled its steps. -/
theorem not_settled_of_standing {p : Pool S} {later earlier : List (Entry M)} {e : Entry M}
    (htrace : p.trace = later ++ e :: earlier) (hpre : ¬D e.pre ∨ T e.toStepRecord) (hpost : D e.post)
    (hlater : ∀ t ∈ later, D t.post) : ¬Settled D T (ownSteps e.thread p.trace) := by
  intro hown
  -- nothing in its own history cleared the alarm later
  rw [ownSteps_of_split htrace] at hown
  have hrest := hown.of_append fun t ht => by
    obtain ⟨x, hx, rfl⟩ := List.mem_map.mp ht
    exact hlater x (List.mem_filter.mp hx).1
  rcases hrest with hclear | ⟨⟨hstood, hother⟩, -⟩
  · exact hclear hpost
  · exact hpre.elim (fun hnone => hnone hstood) hother

/-- **Every alarm is attended to.** When each call has settled what it raised, nothing stands. -/
theorem settled (hevent : ∀ e s, ¬D s → ¬D (S.event e s)) (actions : List (Action S))
    (h0 : Watches D T s₀ (poolRun s₀ actions).trace)
    (hsettled : ∀ e ∈ (poolRun s₀ actions).trace, Settled D T (ownSteps e.thread (poolRun s₀ actions).trace)) :
    ¬D (poolRun s₀ actions).state := by
  intro hD
  obtain ⟨later, e, earlier, htrace, hpre, hpost, hlater⟩ := raised hevent actions h0 hD
  have he : e ∈ (poolRun s₀ actions).trace := htrace ▸ List.mem_append_right _ List.mem_cons_self
  exact not_settled_of_standing htrace hpre hpost hlater (hsettled e he)

/-- **Who leaves an alarm standing.** When each call that is over has settled what it raised, the
call that raised an alarm that stands has still to finish. -/
theorem standing (h0 : ¬D s₀) (hevent : ∀ e s, ¬D s → ¬D (S.event e s)) (actions : List (Action S))
    (hsettled : ∀ j r, (poolRun s₀ actions).result? j = some r →
      Settled D (fun _ => False) (ownSteps j (poolRun s₀ actions).trace)) (hD : D (poolRun s₀ actions).state) :
    ∃ e ∈ (poolRun s₀ actions).trace, ¬D e.pre ∧ D e.post ∧
      (poolRun s₀ actions).result? e.thread = none := by
  obtain ⟨later, e, earlier, htrace, hpre, hpost, hlater⟩ :=
    raised (T := fun _ => False) hevent actions (.inl h0) hD
  refine ⟨e, htrace ▸ List.mem_append_right _ List.mem_cons_self, hpre.resolve_right id, hpost, ?_⟩
  cases hr : (poolRun s₀ actions).result? e.thread with
  | none => rfl
  | some r => exact absurd (hsettled _ r hr) (not_settled_of_standing htrace hpre hpost hlater)

end Pool
