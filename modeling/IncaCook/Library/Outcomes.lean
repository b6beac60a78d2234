import IncaCook.Library.Crash
import IncaCook.Library.Embedding

/-!
# What comes of a program

A program that runs alone ends with a value in a state, or it fails. `Ends` describes the
first, by one equivalence for each construct: as rewriting rules they turn a program into
the checks that it passed and the statements that it carried out. `FailsClean` is about the
second: a program that only reads before its last statement leaves nothing behind. A program
that swallows its errors does neither: it `Settles`.
-/

namespace Prog

variable {M N : Machine} {α β : Type} {p : Prog M α} {k : α → Prog M β} {w : Nat → M.Answer}
  {s s' : M.State} {site : M.Site} {a : α} {b : β}

/-- Run alone, the program returns `a` and leaves `s'`. -/
def Ends (p : Prog M α) (w : Nat → M.Answer) (s : M.State) (a : α) (s' : M.State) : Prop :=
  (p.exec w s).result = .ok a ∧ (p.exec w s).state = s'

/-- Whatever the environment answers, a program that fails leaves the state as it was. -/
def FailsClean (p : Prog M α) (s : M.State) : Prop :=
  ∀ w e, (p.exec w s).result = .error e → (p.exec w s).state = s

/-- Whatever the environment answers, the program returns, in a state that `R` relates to the
one that it started in. -/
def Settles (R : M.State → M.State → Prop) (p : Prog M α) : Prop :=
  ∀ w s, ∃ a s', p.Ends w s a s' ∧ R s s'

/-! ## Ends -/

theorem ends_pure {a' : α} : (pure a : Prog M α).Ends w s a' s' ↔ a' = a ∧ s' = s := by
  constructor
  · rintro ⟨hresult, hstate⟩
    cases hresult
    exact ⟨rfl, hstate.symm⟩
  · rintro ⟨rfl, rfl⟩
    exact ⟨rfl, rfl⟩

/-- The second half starts where the first one ends. -/
theorem ends_bind :
    (p >>= k).Ends w s b s' ↔ ∃ a s₁, p.Ends w s a s₁ ∧ (k a).Ends (fun m => w (m + p.length w s)) s₁ b s' := by
  obtain ⟨r, s₁, steps, hp⟩ : ∃ r s₁ steps, p.exec w s = ⟨r, s₁, steps⟩ := ⟨_, _, _, rfl⟩
  have hlength : p.length w s = steps.length := by rw [length, hp]
  unfold Ends
  rw [hlength, hp]
  cases r with
  | ok a =>
    rw [exec_bind_of_ok hp]
    constructor
    · exact fun h => ⟨a, s₁, ⟨rfl, rfl⟩, h⟩
    · rintro ⟨a', s', ⟨ha, rfl⟩, h⟩
      cases ha
      exact h
  | error e =>
    rw [exec_bind_of_error hp]
    constructor
    · rintro ⟨h, -⟩
      cases h
    · rintro ⟨a, s', ⟨h, -⟩, -⟩
      cases h

theorem ends_done_bind {r : Except M.Error α} :
    (Prog.done r >>= k).Ends w s b s' ↔ ∃ a, r = .ok a ∧ (k a).Ends w s b s' := by
  cases r with
  | ok a =>
    constructor
    · exact fun h => ⟨a, rfl, h⟩
    · rintro ⟨a', ha, h⟩
      cases ha
      exact h
  | error e =>
    constructor
    · rintro ⟨h, -⟩
      cases h
    · rintro ⟨a, h, -⟩
      cases h

theorem ends_read_bind {f : M.State → α} :
    (read site f >>= k).Ends w s b s' ↔ (k (f s)).Ends (fun m => w (m + 1)) s b s' := Iff.rfl

theorem ends_throwIf_bind {c : Prop} [Decidable c] {e : M.Error} {k : Unit → Prog M β} :
    (throwIf c e >>= k).Ends w s b s' ↔ ¬c ∧ (k ()).Ends w s b s' := by
  unfold throwIf
  by_cases hc : c
  · rw [if_pos hc, ends_done_bind]
    constructor
    · rintro ⟨u, h, -⟩
      cases h
    · rintro ⟨h, -⟩
      exact absurd hc h
  · rw [if_neg hc, and_iff_right hc]
    rfl

theorem ends_orThrow_bind {o : Option α} {e : M.Error} :
    (orThrow o e >>= k).Ends w s b s' ↔ ∃ a, o = some a ∧ (k a).Ends w s b s' := by
  cases o with
  | none =>
    constructor
    · rintro ⟨h, -⟩
      cases h
    · rintro ⟨a, h, -⟩
      cases h
  | some a =>
    constructor
    · exact fun h => ⟨a, rfl, h⟩
    · rintro ⟨a', ha, h⟩
      cases ha
      exact h

theorem ends_await {stmt : M.Answer → Stmt M α} :
    (await site stmt).Ends w s a s' ↔ stmt (w 0) s = .ok (a, s') := by
  unfold Ends
  cases hrun : stmt (w 0) s with
  | ok r =>
    obtain ⟨a₁, s₁⟩ := r
    rw [exec_await_ok hrun]
    simp
  | error e =>
    rw [exec_await_error hrun]
    simp

theorem ends_within {P : Machine.Part M N} (hput_get : ∀ t, P.put (P.get t) t = t)
    (hput_put : ∀ x y t, P.put x (P.put y t) = P.put x t) {w : Nat → N.Answer} {t t' : N.State} :
    (p.within P).Ends w t a t' ↔ ∃ s', p.Ends (fun n => P.answer (w n)) (P.get t) a s' ∧ t' = P.put s' t := by
  obtain ⟨r, s', steps, hp⟩ : ∃ r s' steps, p.exec (fun n => P.answer (w n)) (P.get t) = ⟨r, s', steps⟩ :=
    ⟨_, _, _, rfl⟩
  obtain ⟨steps', hwithin⟩ := exec_within hput_get hput_put hp
  unfold Ends
  rw [hwithin, hp]
  cases r with
  | ok a' =>
    constructor
    · rintro ⟨ha, rfl⟩
      cases ha
      exact ⟨s', ⟨rfl, rfl⟩, rfl⟩
    · rintro ⟨s', ⟨ha, rfl⟩, rfl⟩
      cases ha
      exact ⟨rfl, rfl⟩
  | error e =>
    constructor
    · rintro ⟨h, -⟩
      cases h
    · rintro ⟨s', ⟨h, -⟩, -⟩
      cases h

/-! ## Settles -/

section

variable {R : M.State → M.State → Prop}

theorem Settles.rel (hp : p.Settles R) (h : p.Ends w s a s') : R s s' := by
  obtain ⟨a', s₁, ⟨-, hstate⟩, hR⟩ := hp w s
  rw [← h.2, hstate]
  exact hR

theorem settles_pure (hrefl : ∀ s, R s s) : (pure a : Prog M α).Settles R :=
  fun _ s => ⟨a, s, ends_pure.mpr ⟨rfl, rfl⟩, hrefl s⟩

theorem settles_ask (hrefl : ∀ s, R s s) {f : M.Answer → M.State → α} : (ask site f).Settles R :=
  fun w s => ⟨f (w 0) s, s, ⟨rfl, rfl⟩, hrefl s⟩

theorem settles_bind (htrans : ∀ a b c, R a b → R b c → R a c) (hp : p.Settles R)
    (hk : ∀ a, (k a).Settles R) : (p >>= k).Settles R := by
  intro w s
  obtain ⟨a, s₁, hfirst, hR₁⟩ := hp w s
  obtain ⟨b, s₂, hsecond, hR₂⟩ := hk a (fun m => w (m + p.length w s)) s₁
  exact ⟨b, s₂, ends_bind.mpr ⟨a, s₁, hfirst, hsecond⟩, htrans s s₁ s₂ hR₁ hR₂⟩

/-- A statement whose errors are swallowed. -/
theorem settles_tryCatch_await {stmt : M.Answer → Stmt M Unit} (hrefl : ∀ s, R s s)
    (hstmt : ∀ i s s', stmt i s = .ok ((), s') → R s s') :
    (tryCatch (await site stmt) fun _ => pure ()).Settles R := by
  intro w s
  cases hrun : stmt (w 0) s with
  | ok r =>
    obtain ⟨⟨⟩, s'⟩ := r
    have hawait : (await site stmt).exec w s = ⟨.ok (), s', [⟨site, s, s'⟩]⟩ := exec_await_ok hrun
    have hcaught := exec_tryCatch_of_ok (f := fun _ => pure ()) hawait
    exact ⟨(), s', ⟨by rw [hcaught], by rw [hcaught]⟩, hstmt _ _ _ hrun⟩
  | error e =>
    have hawait : (await site stmt).exec w s = ⟨.error e, s, [⟨site, s, s⟩]⟩ := exec_await_error hrun
    have hcaught := exec_tryCatch_of_error (f := fun _ => pure ()) hawait
    exact ⟨(), s, ⟨by rw [hcaught]; rfl, by rw [hcaught]; rfl⟩, hrefl s⟩

end

/-! ## Fails clean -/

/-- A first half that leaves the state as it was. -/
theorem failsClean_bind (hp : ∀ w, (p.exec w s).state = s) (hk : ∀ a, (k a).FailsClean s) :
    (p >>= k).FailsClean s := by
  intro w e he
  obtain ⟨r, s₁, steps, hrun⟩ : ∃ r s₁ steps, p.exec w s = ⟨r, s₁, steps⟩ := ⟨_, _, _, rfl⟩
  have hsame : s₁ = s := by
    have hstate := hp w
    rw [hrun] at hstate
    exact hstate
  subst hsame
  cases r with
  | ok a =>
    rw [exec_bind_of_ok hrun] at he ⊢
    exact hk a _ e he
  | error e' => rw [exec_bind_of_error hrun]

theorem failsClean_await {stmt : M.Answer → Stmt M α} : (await site stmt).FailsClean s := by
  intro w e he
  cases hrun : stmt (w 0) s with
  | ok r =>
    rw [exec_await_ok hrun] at he
    cases he
  | error e' => rw [exec_await_error hrun]

/-- What follows the last statement does not fail. -/
theorem failsClean_bind_settles {R : M.State → M.State → Prop} (hp : p.FailsClean s)
    (hk : ∀ a, (k a).Settles R) : (p >>= k).FailsClean s := by
  intro w e he
  obtain ⟨r, s₁, steps, hrun⟩ : ∃ r s₁ steps, p.exec w s = ⟨r, s₁, steps⟩ := ⟨_, _, _, rfl⟩
  cases r with
  | ok a =>
    rw [exec_bind_of_ok hrun] at he
    obtain ⟨b, s₂, ⟨hresult, -⟩, -⟩ := hk a (fun m => w (m + steps.length)) s₁
    cases hresult.symm.trans he
  | error e' =>
    rw [exec_bind_of_error hrun]
    have hstate := hp w e' (by rw [hrun])
    rw [hrun] at hstate
    exact hstate

/-- A program without steps leaves the state as it was. -/
theorem state_of_stepless (hp : p.Stepless) : (p.exec w s).state = s := by
  obtain ⟨r, rfl⟩ := hp
  rfl

theorem state_within_of_same {P : Machine.Part M N} (hput_get : ∀ t, P.put (P.get t) t = t)
    (hput_put : ∀ x y t, P.put x (P.put y t) = P.put x t) {w : Nat → N.Answer} {t : N.State}
    (hp : ∀ w, (p.exec w (P.get t)).state = P.get t) : ((p.within P).exec w t).state = t := by
  obtain ⟨r, s', steps, hrun⟩ : ∃ r s' steps, p.exec (fun n => P.answer (w n)) (P.get t) = ⟨r, s', steps⟩ :=
    ⟨_, _, _, rfl⟩
  obtain ⟨steps', hwithin⟩ := exec_within hput_get hput_put hrun
  have hsame : s' = P.get t := by
    have hstate := hp fun n => P.answer (w n)
    rw [hrun] at hstate
    exact hstate
  rw [hwithin, hsame]
  exact hput_get t

end Prog
