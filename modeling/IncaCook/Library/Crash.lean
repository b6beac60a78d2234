import IncaCook.Library.RelyGuarantee

/-!
# Crashes

A process may die between any two statements of a program. What it leaves behind
is the state after the statements that were carried out: no handler runs, and
nothing is undone.

`crash_bind_of_le` and `crash_bind_of_ge` locate a crash in the first or in the
second half of a program, `Reaches` follows a program up to one of its statements,
and `Free.crash` is the frame rule: what every step of a program keeps, a crash
keeps. `crash_value_iff` says when nothing of a value is lost.
-/

namespace Prog

variable {M : Machine} {α β : Type}

/-- The state left behind when the program, running alone, dies after `n` steps. -/
def crash (p : Prog M α) (w : Nat → M.Answer) (n : Nat) (s : M.State) : M.State :=
  match p, n with
  | .done _, _ => s
  | .atomic _ _ _, 0 => s
  | .atomic _ effect next, n + 1 =>
    (next (w 0) s).crash (fun m => w (m + 1)) n (effect (w 0) s)

/-- How many steps the program takes, running alone. -/
def length (p : Prog M α) (w : Nat → M.Answer) (s : M.State) : Nat := (p.exec w s).steps.length

section

variable {p : Prog M α} {w : Nat → M.Answer} {n : Nat} {s s' : M.State} {site : M.Site}

@[simp] theorem crash_done {r : Except M.Error α} : crash (.done r) w n s = s := by
  unfold crash
  rfl

@[simp] theorem crash_pure {a : α} : (pure a : Prog M α).crash w n s = s := crash_done

@[simp] theorem crash_zero : p.crash w 0 s = s := by
  cases p with
  | done r => rfl
  | atomic site effect next => rfl

/-- A crash after the last step is none. -/
theorem crash_of_length_le (hn : p.length w s ≤ n) : p.crash w n s = (p.exec w s).state := by
  induction p generalizing w n s with
  | done r => exact crash_done
  | atomic site effect next ih =>
    cases n with
    | zero => cases hn
    | succ n => exact ih (w 0) s (Nat.le_of_succ_le_succ hn)

/-! ## Sequences -/

theorem exec_andThen {k : Except M.Error α → Prog M β} :
    (p.andThen k).exec w s =
      let first := p.exec w s
      let rest := (k first.result).exec (fun m => w (m + p.length w s)) first.state
      ⟨rest.result, rest.state, first.steps ++ rest.steps⟩ := by
  induction p generalizing w s with
  | done r => rfl
  | atomic site effect next ih =>
    have hrest := ih (w 0) s (w := fun m => w (m + 1)) (s := effect (w 0) s)
    simp only [andThen, exec, hrest]
    rfl

theorem crash_andThen_of_le {k : Except M.Error α → Prog M β} (hn : n ≤ p.length w s) :
    (p.andThen k).crash w n s = p.crash w n s := by
  induction p generalizing w n s with
  | done r =>
    obtain rfl : n = 0 := Nat.le_zero.mp hn
    rw [crash_zero, crash_zero]
  | atomic site effect next ih =>
    cases n with
    | zero => rfl
    | succ n => exact ih (w 0) s (Nat.le_of_succ_le_succ hn)

theorem crash_andThen_of_ge {k : Except M.Error α → Prog M β} (hn : p.length w s ≤ n) :
    (p.andThen k).crash w n s =
      (k (p.exec w s).result).crash (fun m => w (m + p.length w s)) (n - p.length w s)
        (p.exec w s).state := by
  induction p generalizing w n s with
  | done r => rfl
  | atomic site effect next ih =>
    cases n with
    | zero => cases hn
    | succ n =>
      have hrest := ih (w 0) s (w := fun m => w (m + 1)) (s := effect (w 0) s)
        (Nat.le_of_succ_le_succ hn)
      have hsub : n + 1 - length (.atomic site effect next) w s =
          n - (next (w 0) s).length (fun m => w (m + 1)) (effect (w 0) s) := Nat.succ_sub_succ ..
      rw [hsub]
      exact hrest

variable {k : α → Prog M β}

theorem crash_bind_of_le (hn : n ≤ p.length w s) : (p >>= k).crash w n s = p.crash w n s :=
  crash_andThen_of_le hn

theorem crash_bind_of_ge {a : α} (ha : (p.exec w s).result = .ok a) (hn : p.length w s ≤ n) :
    (p >>= k).crash w n s =
      (k a).crash (fun m => w (m + p.length w s)) (n - p.length w s) (p.exec w s).state := by
  change (p.andThen _).crash w n s = _
  rw [crash_andThen_of_ge hn, ha]

theorem crash_bind_of_exec {a : α} {steps : List (StepRecord M)}
    (hp : p.exec w s = ⟨.ok a, s', steps⟩) (hn : steps.length ≤ n) :
    (p >>= k).crash w n s = (k a).crash (fun m => w (m + steps.length)) (n - steps.length) s' := by
  have hlength : p.length w s = steps.length := by rw [length, hp]
  rw [crash_bind_of_ge (a := a) (by rw [hp]) (hlength ▸ hn), hlength, hp]

/-- A first half that fails is the last to be carried out. -/
theorem crash_bind_of_error {e : M.Error} {steps : List (StepRecord M)}
    (hp : p.exec w s = ⟨.error e, s', steps⟩) (hn : steps.length ≤ n) :
    (p >>= k).crash w n s = s' := by
  have hlength : p.length w s = steps.length := by rw [length, hp]
  change (p.andThen _).crash w n s = _
  rw [crash_andThen_of_ge (hlength ▸ hn), hp]
  exact crash_done

/-- A program goes on after its first half. -/
theorem exec_bind_of_ok {a : α} {steps : List (StepRecord M)} (hp : p.exec w s = ⟨.ok a, s', steps⟩) :
    (p >>= k).exec w s =
      let rest := (k a).exec (fun m => w (m + steps.length)) s'
      ⟨rest.result, rest.state, steps ++ rest.steps⟩ := by
  change (p.andThen _).exec w s = _
  rw [exec_andThen, length, hp]

theorem exec_bind_of_error {e : M.Error} {steps : List (StepRecord M)}
    (hp : p.exec w s = ⟨.error e, s', steps⟩) : (p >>= k).exec w s = ⟨.error e, s', steps⟩ := by
  change (p.andThen _).exec w s = _
  rw [exec_andThen, length, hp]
  simp [exec]

/-- A program that succeeds is not caught. -/
theorem exec_tryCatch_of_ok {a : α} {steps : List (StepRecord M)} {f : M.Error → Prog M α}
    (hp : p.exec w s = ⟨.ok a, s', steps⟩) : (tryCatch p f).exec w s = ⟨.ok a, s', steps⟩ := by
  change (p.andThen _).exec w s = _
  rw [exec_andThen, length, hp]
  simp [exec]

/-- The handler of a program that fails runs after it. -/
theorem exec_tryCatch_of_error {e : M.Error} {steps : List (StepRecord M)} {f : M.Error → Prog M α}
    (hp : p.exec w s = ⟨.error e, s', steps⟩) :
    (tryCatch p f).exec w s =
      let rest := (f e).exec (fun m => w (m + steps.length)) s'
      ⟨rest.result, rest.state, steps ++ rest.steps⟩ := by
  change (p.andThen _).exec w s = _
  rw [exec_andThen, length, hp]

/-- Nothing happens once the program has only its result to return. -/
theorem crash_bind_pure {f : α → β} : (p >>= fun a => pure (f a)).crash w n s = p.crash w n s := by
  rcases Nat.le_total n (p.length w s) with hn | hn
  · exact crash_bind_of_le hn
  · change (p.andThen _).crash w n s = _
    rw [crash_andThen_of_ge hn, crash_of_length_le hn]
    cases (p.exec w s).result with
    | ok a => exact crash_done
    | error e => exact crash_done

theorem exec_bind_pure {f : α → β} :
    ((p >>= fun a => pure (f a)).exec w s).state = (p.exec w s).state ∧
      ((p >>= fun a => pure (f a)).exec w s).steps = (p.exec w s).steps := by
  obtain ⟨r, s', steps, hp⟩ : ∃ r s' steps, p.exec w s = ⟨r, s', steps⟩ := ⟨_, _, _, rfl⟩
  cases r with
  | ok a =>
    rw [exec_bind_of_ok hp, hp]
    exact ⟨rfl, List.append_nil _⟩
  | error e =>
    rw [exec_bind_of_error hp, hp]
    exact ⟨rfl, rfl⟩

/-! ## Statements -/

theorem exec_read_bind {f : M.State → α} :
    (read site f >>= k).exec w s =
      let rest := (k (f s)).exec (fun m => w (m + 1)) s
      ⟨rest.result, rest.state, ⟨site, s, s⟩ :: rest.steps⟩ := rfl

theorem exec_orThrow_bind {a : α} {e : M.Error} :
    (orThrow (some a) e >>= k).exec w s = (k a).exec w s := rfl

theorem exec_orThrow_done {a : α} {e : M.Error} :
    (orThrow (some a) e).exec w s = ⟨.ok a, s, []⟩ := rfl

theorem exec_throwIf_bind {c : Prop} [Decidable c] {e : M.Error} {k : Unit → Prog M β} (hc : ¬c) :
    (throwIf c e >>= k).exec w s = (k ()).exec w s := by
  unfold throwIf
  rw [if_neg hc]
  rfl

theorem crash_read_bind {f : M.State → α} :
    (read site f >>= k).crash w (n + 1) s = (k (f s)).crash (fun m => w (m + 1)) n s := rfl

theorem crash_orThrow_bind {a : α} {e : M.Error} :
    (orThrow (some a) e >>= k).crash w n s = (k a).crash w n s := rfl

theorem crash_throwIf_bind {c : Prop} [Decidable c] {e : M.Error} {k : Unit → Prog M β} (hc : ¬c) :
    (throwIf c e >>= k).crash w n s = (k ()).crash w n s := by
  unfold throwIf
  rw [if_neg hc]
  rfl

theorem exec_await_ok {stmt : M.Answer → Stmt M α} {a : α} (hrun : stmt (w 0) s = .ok (a, s')) :
    (await site stmt).exec w s = ⟨.ok a, s', [⟨site, s, s'⟩]⟩ := by
  unfold await exec exec
  simp [hrun, Except.map]

theorem exec_await_error {stmt : M.Answer → Stmt M α} {e : M.Error}
    (hrun : stmt (w 0) s = .error e) : (await site stmt).exec w s = ⟨.error e, s, [⟨site, s, s⟩]⟩ := by
  unfold await exec exec
  simp [hrun, Except.map]

theorem exec_await_bind_ok {stmt : M.Answer → Stmt M α} {a : α}
    (hrun : stmt (w 0) s = .ok (a, s')) :
    (await site stmt >>= k).exec w s =
      let rest := (k a).exec (fun m => w (m + 1)) s'
      ⟨rest.result, rest.state, ⟨site, s, s'⟩ :: rest.steps⟩ :=
  exec_bind_of_ok (exec_await_ok hrun)

/-- A statement that does not look at the environment's answer. -/
theorem exec_run_bind_ok {tx : Stmt M α} {a : α} (hrun : tx s = .ok (a, s')) :
    (await site (fun _ => tx) >>= k).exec w s =
      let rest := (k a).exec (fun m => w (m + 1)) s'
      ⟨rest.result, rest.state, ⟨site, s, s'⟩ :: rest.steps⟩ :=
  exec_bind_of_ok (exec_await_ok hrun)

theorem exec_await_bind_error {stmt : M.Answer → Stmt M α} {e : M.Error}
    (hrun : stmt (w 0) s = .error e) :
    (await site stmt >>= k).exec w s = ⟨.error e, s, [⟨site, s, s⟩]⟩ :=
  exec_bind_of_error (exec_await_error hrun)

/-! ## What is left

The state that a program leaves, run alone, as a function of the one it starts in: a
check is a case distinction, a statement that fails changes nothing. -/

theorem state_read_bind {f : M.State → α} :
    ((read site f >>= k).exec w s).state = ((k (f s)).exec (fun m => w (m + 1)) s).state := rfl

theorem state_throwIf_bind {c : Prop} [Decidable c] {e : M.Error} {k : Unit → Prog M β} :
    ((throwIf c e >>= k).exec w s).state = if c then s else ((k ()).exec w s).state := by
  unfold throwIf
  split
  · rfl
  · rfl

theorem state_orThrow_bind {v : Option α} {e : M.Error} :
    ((orThrow v e >>= k).exec w s).state =
      match v with
      | none => s
      | some a => ((k a).exec w s).state := by
  cases v with
  | none => rfl
  | some a => rfl

theorem state_await {stmt : M.Answer → Stmt M α} :
    ((await site stmt).exec w s).state =
      match stmt (w 0) s with
      | .ok (_, s') => s'
      | .error _ => s := by
  cases hrun : stmt (w 0) s with
  | ok r => exact congrArg Outcome.state (exec_await_ok hrun)
  | error e => exact congrArg Outcome.state (exec_await_error hrun)

/-! ## Up to a statement -/

/-- From a point on, a run of `p` that dies after `n` steps is one of `q` that dies
after `n'`, and `q` still takes a step at one of the sites. -/
structure Reaches (sites : M.Site → Prop) (p : Prog M α) (w : Nat → M.Answer) (n : Nat) (s : M.State)
    (q : Prog M β) (w' : Nat → M.Answer) (n' : Nat) (s' : M.State) : Prop where
  crash : p.crash w n s = q.crash w' n' s'
  state : (p.exec w s).state = (q.exec w' s').state
  ahead : ∃ t ∈ (q.exec w' s').steps.take n', sites t.site

/-- A first half that takes none of the steps is over before them, and has succeeded. -/
theorem Reaches.bind {γ : Type} {sites : M.Site → Prop} {o : Prog M γ} {w₀ : Nat → M.Answer}
    {n₀ : Nat} {s₀ : M.State} {r : Except M.Error α} {steps : List (StepRecord M)}
    (hreach : Reaches sites o w₀ n₀ s₀ (p >>= k) w n s) (hp : p.exec w s = ⟨r, s', steps⟩)
    (hsteps : ∀ t ∈ steps, ¬sites t.site) :
    ∃ a, r = .ok a ∧ Reaches sites o w₀ n₀ s₀ (k a) (fun m => w (m + steps.length))
      (n - steps.length) s' := by
  obtain ⟨hcrash, hstate, t, ht, hsite⟩ := hreach
  have hnot : t ∉ steps := fun hmem => hsteps t hmem hsite
  cases r with
  | error e =>
    rw [exec_bind_of_error hp] at ht
    exact absurd (List.mem_of_mem_take ht) hnot
  | ok a =>
    rw [exec_bind_of_ok hp] at ht hstate
    rw [List.take_append, List.mem_append] at ht
    have hlater := ht.resolve_left fun hmem => hnot (List.mem_of_mem_take hmem)
    have hn : steps.length ≤ n := by
      by_contra hlt
      have hzero : n - steps.length = 0 := by omega
      rw [hzero, List.take_zero] at hlater
      cases hlater
    exact ⟨a, rfl, hcrash.trans (crash_bind_of_exec hp hn), hstate, t, hlater, hsite⟩

section

variable {γ : Type} {sites : M.Site → Prop} {o : Prog M γ} {w₀ : Nat → M.Answer} {n₀ : Nat}
  {s₀ : M.State}

theorem Reaches.refl (hahead : ∃ t ∈ (p.exec w s).steps.take n, sites t.site) :
    Reaches sites p w n s p w n s := ⟨rfl, rfl, hahead⟩

theorem Reaches.read_bind {f : M.State → α}
    (hreach : Reaches sites o w₀ n₀ s₀ (read site f >>= k) w n s) (hsite : ¬sites site) :
    Reaches sites o w₀ n₀ s₀ (k (f s)) (fun m => w (m + 1)) (n - 1) s := by
  have hp : (read site f).exec w s = ⟨.ok (f s), s, [⟨site, s, s⟩]⟩ := rfl
  obtain ⟨a, ha, hreach⟩ := hreach.bind hp (by simpa using hsite)
  cases ha
  exact hreach

theorem Reaches.throwIf_bind {c : Prop} [Decidable c] {e : M.Error} {k : Unit → Prog M β}
    (hreach : Reaches sites o w₀ n₀ s₀ (throwIf c e >>= k) w n s) :
    ¬c ∧ Reaches sites o w₀ n₀ s₀ (k ()) w n s := by
  unfold throwIf at hreach
  by_cases hc : c
  · rw [if_pos hc] at hreach
    obtain ⟨a, ha, -⟩ := hreach.bind (r := .error e) rfl nofun
    cases ha
  · rw [if_neg hc] at hreach
    exact ⟨hc, hreach⟩

theorem Reaches.orThrow_bind {v : Option α} {e : M.Error}
    (hreach : Reaches sites o w₀ n₀ s₀ (orThrow v e >>= k) w n s) :
    ∃ a, v = some a ∧ Reaches sites o w₀ n₀ s₀ (k a) w n s := by
  cases v with
  | none =>
    obtain ⟨a, ha, -⟩ := hreach.bind (r := .error e) rfl nofun
    cases ha
  | some a => exact ⟨a, rfl, hreach⟩

/-- The next statement is carried out. -/
theorem Reaches.await_bind {stmt : M.Answer → Stmt M α} {a : α}
    (hreach : Reaches sites o w₀ n₀ s₀ (await site stmt >>= k) w n s)
    (hrun : stmt (w 0) s = .ok (a, s')) :
    o.crash w₀ n₀ s₀ = (k a).crash (fun m => w (m + 1)) (n - 1) s' ∧
      (o.exec w₀ s₀).state = ((k a).exec (fun m => w (m + 1)) s').state := by
  obtain ⟨hcrash, hstate, t, ht, -⟩ := hreach
  have hn : 1 ≤ n := by
    by_contra hlt
    obtain rfl : n = 0 := by omega
    cases ht
  have hp : (await site stmt).exec w s = ⟨.ok a, s', [⟨site, s, s'⟩]⟩ := exec_await_ok hrun
  rw [exec_bind_of_ok hp] at hstate
  exact ⟨hcrash.trans (crash_bind_of_exec hp hn), hstate⟩

end

/-! ## The frame rule -/

/-- Every step makes a move of `K`. -/
def movesContract (K : M.State → M.State → Prop) : Contract M where
  rely := Eq
  guar _ _ a b := K a b

/-- What every step keeps, a crash keeps. -/
theorem Free.crash {K : M.State → M.State → Prop} (hrefl : ∀ s, K s s)
    (htrans : ∀ a b c, K a b → K b c → K a c) (hp : Free (movesContract K) p) :
    K s (p.crash w n s) := by
  have hall : ∀ h, Sat (movesContract K) anyPost p h s → K s (p.crash w n s) := by
    clear hp
    induction p generalizing w n s with
    | done r =>
      intro h _
      rw [crash_done]
      exact hrefl s
    | atomic site effect next ih =>
      intro h hp
      cases n with
      | zero => exact hrefl s
      | succ n =>
        obtain ⟨hg, hn⟩ := hp s rfl (w 0)
        exact htrans _ _ _ hg (ih _ _ _ hn)
  exact hall [] (hp [] s)

/-- And so does the whole run. -/
theorem Free.moves {K : M.State → M.State → Prop} (hrefl : ∀ s, K s s)
    (htrans : ∀ a b c, K a b → K b c → K a c) (hp : Free (movesContract K) p) :
    K s (p.exec w s).state := by
  rw [← crash_of_length_le (Nat.le_refl _)]
  exact hp.crash hrefl htrans

theorem Guaranteed.moves {K : M.State → M.State → Prop} {h steps : List (StepRecord M)}
    (hg : Guaranteed (movesContract K) h steps) : ∀ t ∈ steps, K t.pre t.post := by
  induction steps generalizing h with
  | nil => nofun
  | cons t rest ih => exact List.forall_mem_cons.mpr ⟨hg.1, ih hg.2⟩

/-! ## The steps before a crash and those after it -/

/-- The steps that are left lead from the crash to the end of the whole run. -/
theorem crash_leads : Leads (p.crash w n s) ((p.exec w s).steps.drop n) (p.exec w s).state := by
  induction p generalizing w n s with
  | done r =>
    rw [crash_done]
    exact List.drop_nil ▸ rfl
  | atomic site effect next ih =>
    cases n with
    | zero => exact exec_leads _ w s
    | succ n => exact ih (w 0) s

/-- What the steps before a crash keep. The invariant may speak of these steps. -/
theorem Sat.crash {C : Contract M} {Q : Post M α} {h : List (StepRecord M)}
    {I : List (StepRecord M) → M.State → Prop} (hp : Sat C Q p h s) (hrefl : ∀ s, C.rely s s)
    (hstep : ∀ h site a b, I h a → C.guar h site a b → I (⟨site, a, b⟩ :: h) b) (hI : I h s) :
    I (((p.exec w s).steps.take n).reverse ++ h) (p.crash w n s) := by
  induction p generalizing w n h s with
  | done r =>
    rw [crash_done]
    simpa [Prog.exec] using hI
  | atomic site effect next ih =>
    cases n with
    | zero => simpa using hI
    | succ n =>
      obtain ⟨hg, hn⟩ := hp s (hrefl s) (w 0)
      have hrest := ih _ _ hn (hstep _ _ _ _ hI hg) (w := fun m => w (m + 1)) (n := n)
      simpa [Prog.exec, Prog.crash] using hrest

/-- A step keeps a value, and whether all is settled, or, before all is settled, moves
the value on. -/
def Advances {V : Type} (value : M.State → V) (measure : V → Nat) (settled : M.State → Prop)
    (a b : M.State) : Prop :=
  value b = value a ∧ (settled a ↔ settled b) ∨ measure (value a) < measure (value b) ∧ ¬settled a

/-- Along steps that advance to a settled state, the value is the final one exactly
when all is settled. -/
theorem Leads.value_iff {V : Type} {value : M.State → V} {measure : V → Nat}
    {settled : M.State → Prop} {steps : List (StepRecord M)} (hl : Leads s steps s')
    (hsteps : ∀ t ∈ steps, Advances value measure settled t.pre t.post) (hend : settled s') :
    measure (value s) ≤ measure (value s') ∧ (value s = value s' ↔ settled s) := by
  induction steps generalizing s with
  | nil =>
    obtain rfl : s = s' := hl
    exact ⟨Nat.le_refl _, iff_of_true rfl hend⟩
  | cons t rest ih =>
    obtain ⟨rfl, hl⟩ := hl
    obtain ⟨hle, hiff⟩ := ih hl fun t' ht' => hsteps t' (List.mem_cons_of_mem _ ht')
    rcases hsteps t (List.mem_cons_self ..) with ⟨hkeeps, hsettled⟩ | ⟨hgrows, hopen⟩
    · rw [← hkeeps, hsettled]
      exact ⟨hle, hiff⟩
    · refine ⟨by omega, iff_of_false (fun heq => ?_) hopen⟩
      rw [heq] at hgrows
      omega

/-- **When nothing of the value is lost in a crash**: when all was settled. -/
theorem crash_value_iff {V : Type} {value : M.State → V} {measure : V → Nat}
    {settled : M.State → Prop}
    (hsteps : ∀ t ∈ (p.exec w s).steps, Advances value measure settled t.pre t.post)
    (hend : settled (p.exec w s).state) :
    value (p.crash w n s) = value (p.exec w s).state ↔ settled (p.crash w n s) :=
  (crash_leads.value_iff (fun t ht => hsteps t (List.mem_of_mem_drop ht)) hend).2

/-- A number that no step lowers is highest at the end. -/
theorem Leads.le_end {f : M.State → Nat} {steps : List (StepRecord M)} (hl : Leads s steps s')
    (hsteps : ∀ t ∈ steps, f t.pre ≤ f t.post) : f s ≤ f s' ∧ ∀ t ∈ steps, f t.post ≤ f s' := by
  induction steps generalizing s with
  | nil =>
    obtain rfl : s = s' := hl
    exact ⟨Nat.le_refl _, nofun⟩
  | cons t rest ih =>
    obtain ⟨rfl, hl⟩ := hl
    obtain ⟨hle, hrest⟩ := ih hl fun t' ht' => hsteps t' (List.mem_cons_of_mem _ ht')
    have hfirst := hsteps t (List.mem_cons_self ..)
    refine ⟨by omega, fun t' ht' => ?_⟩
    rcases List.mem_cons.mp ht' with rfl | ht'
    · exact hle
    · exact hrest t' ht'

end

end Prog
