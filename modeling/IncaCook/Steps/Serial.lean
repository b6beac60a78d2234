import IncaCook.Steps.Moves

/-!
# Calls that run alone

In a serial run every call meets the step contract with nothing in between, so
what each step keeps, each call keeps.
-/

namespace IncaCook

open Prog

/-- A program of which only the outcome matters, with nothing in between its steps. -/
def aloneContract : Contract machine where
  rely := Eq
  guar _ _ _ _ := True

variable {cfg : Config} {me : Nat} {call : Call} {s : Db}

/-- **What every step of a call keeps, the call keeps.** The invariant may speak
of the steps the call has taken, newest first. -/
theorem call_invariant {I : List (StepRecord machine) → Db → Prop} {P : Site → Db → Prop}
    (w : Nat → Answer) (hadm : admits call s = true) (hI : I [] s)
    (hstep : ∀ h site s s', I h s → P site s → Step cfg Eq me call h site s s' →
      I (⟨site, s, s'⟩ :: h) s')
    (hc : ∀ t ∈ ((handle cfg me call).exec w s).steps, P t.site t.pre) :
    I ((handle cfg me call).exec w s).steps.reverse ((handle cfg me call).exec w s).state := by
  have hsat : Sat (stepContract cfg Eq me call) anyPost (handle cfg me call) [] s :=
    handle_sat (fun _ _ _ hab hbc => hab.trans hbc) call hadm
  have hg := (hsat.exec (fun _ => rfl) w).1
  have hkeep := hg.invariant hstep (exec_leads (handle cfg me call) w s) hc hI
  rwa [List.append_nil] at hkeep

end IncaCook
