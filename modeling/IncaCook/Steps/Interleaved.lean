import IncaCook.Steps.Handlers

/-!
# Calls that interleave

In a pool run every call meets the step contract with whatever it may rely on of the others:
`R me` is what call `me` knows of the moves between its steps. What each step of each call
keeps, and promises the others, holds in every interleaving.
-/

namespace IncaCook

open Prog

variable {cfg : Config} {R : Nat → Db → Db → Prop} {I : Db → Prop} {cond : Site → Db → Prop} {s₀ : Db}

/-- The contract of call `me`, whichever call it is. -/
def interleaved (cfg : Config) (R : Nat → Db → Db → Prop) (me : Nat) : Contract machine where
  rely := R me
  guar h site s s' := ∃ call, Step cfg (R me) me call h site s s'

/-- The contract of a call that is only watched: what is left is how it ends. -/
def watched (R : Nat → Db → Db → Prop) (me : Nat) : Contract machine where
  rely := R me
  guar _ _ _ _ := True

/-- **What every step keeps, every interleaving keeps**, and every call ends as it does when
watched. -/
theorem interleaved_sound_of {Q : Nat → Call → Post machine Reply} (hI : I s₀)
    (hrefl : ∀ me s, I s → R me s s) (htrans : ∀ me a b c, R me a b → R me b c → R me a c)
    (hQ : ∀ me call h r s s', R me s s' → Q me call h r s → Q me call h r s')
    (hevent : ∀ e s, I s → I (applyEvent e s) ∧ ∀ me, R me s (applyEvent e s))
    (hstep : ∀ me call h site s s', I s → cond site s → Step cfg (R me) me call h site s s' →
      I s' ∧ ∀ other, other ≠ me → R other s s')
    (hend : ∀ me call s, I s → R me s₀ s → Sat (watched R me) (Q me call) (handle cfg me call) [] s)
    (actions : List (Pool.Action (service cfg))) (hc : (poolRun s₀ actions).Steps cond) :
    Pool.Sound (interleaved cfg R) Q I s₀ (poolRun s₀ actions) := by
  refine Pool.sound hI hrefl htrans hQ ?_ ?_ hevent ?_ actions hc
  · rintro me h site s s' hs hsite ⟨call, hg⟩
    exact (hstep me call h site s s' hs hsite hg).1
  · rintro me other h site s s' hne hs hsite ⟨call, hg⟩
    exact (hstep me call h site s s' hs hsite hg).2 other (Ne.symm hne)
  · intro me call s hs hR hadm
    have hsat : Sat (stepContract cfg (R me) me call) anyPost (handle cfg me call) [] s :=
      handle_sat (htrans me) call hadm
    -- the steps are those of the call, the end is what was watched
    exact (hsat.and (hend me call s hs hR)).mono (fun _ _ hr => ⟨hr, hr⟩) (fun _ _ _ _ hg => ⟨call, hg.1⟩)
      fun _ _ _ hpost => hpost.2

theorem interleaved_sound (hI : I s₀) (hrefl : ∀ me s, I s → R me s s)
    (htrans : ∀ me a b c, R me a b → R me b c → R me a c)
    (hevent : ∀ e s, I s → I (applyEvent e s) ∧ ∀ me, R me s (applyEvent e s))
    (hstep : ∀ me call h site s s', I s → cond site s → Step cfg (R me) me call h site s s' →
      I s' ∧ ∀ other, other ≠ me → R other s s')
    (actions : List (Pool.Action (service cfg))) (hc : (poolRun s₀ actions).Steps cond) :
    Pool.Sound (interleaved cfg R) (fun _ _ => anyPost) I s₀ (poolRun s₀ actions) := by
  refine interleaved_sound_of hI hrefl htrans (fun _ _ _ _ _ _ _ _ => trivial) hevent hstep ?_ actions hc
  intro me call s _ _
  exact (sat_end (Q := anyPost) fun _ _ _ => trivial).mono (fun _ _ _ => trivial) (fun _ _ _ _ _ => trivial)
    fun _ _ _ _ => trivial

/-- A call knows nothing of what the others do. -/
def unknown (_ : Nat) (_ _ : Db) : Prop := True

/-- **The invariant rule.** What each step keeps whatever its call has seen before, holds
all along. -/
theorem interleaved_invariant (hI : I s₀) (hevent : ∀ e s, I s → I (applyEvent e s))
    (hstep : ∀ me call h site s s', I s → cond site s → Step cfg (unknown me) me call h site s s' → I s')
    (actions : List (Pool.Action (service cfg))) (hc : (poolRun s₀ actions).Steps cond) :
    Pool.Always I s₀ actions := by
  rintro before after rfl
  have hsound := interleaved_sound (R := unknown) hI (fun _ _ _ => trivial) (fun _ _ _ _ _ _ => trivial)
    (fun e s hs => ⟨hevent e s hs, fun _ => trivial⟩)
    (fun me call h site s s' hs hsite hg => ⟨hstep me call h site s s' hs hsite hg, fun _ _ => trivial⟩)
    before (Pool.Steps.before hc)
  exact hsound.inv

end IncaCook
