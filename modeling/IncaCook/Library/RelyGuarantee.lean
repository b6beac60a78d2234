import IncaCook.Library.Resumption

/-!
# Rely and guarantee for resumptions

`Sat C Q p h s` says what a program does step by step while others run in
between. Before each step the shared state may move as the contract's `rely`
allows; the step itself must meet the contract's `guar`; and when the program
is done, `Q` holds of its result. The list `h` holds the steps the program has
taken so far, newest first, so a guarantee may refer to what the program read
earlier.

There is one rule for each way of building a program (`sat_bind`,
`sat_tryCatch`, `sat_await_bind`, `sat_read_bind`, …), so a proof about a
handler follows its text, and `Sat.exec` turns a `Sat` into facts about the
program run alone.
-/

/-- What a program may assume of the others, and what it promises of each of its
own steps (given the steps it took before). -/
structure Contract (M : Machine) where
  rely : M.State → M.State → Prop
  guar : List (Prog.StepRecord M) → M.Site → M.State → M.State → Prop

namespace Prog

variable {M : Machine} {α β : Type} {C C' : Contract M}
  {h : List (StepRecord M)} {s : M.State}

/-- What holds of the steps taken, the result and the state when a program ends. -/
abbrev Post (M : Machine) (α : Type) :=
  List (StepRecord M) → Except M.Error α → M.State → Prop

variable {Q Q' : Post M α}

/-- The program `p`, having taken the steps `h`, meets the contract from `s` on. -/
def Sat (C : Contract M) (Q : Post M α) : Prog M α → List (StepRecord M) → M.State → Prop
  | .done r, h, s => Q h r s
  | .atomic site effect next, h, s => ∀ s', C.rely s s' → ∀ i,
      C.guar h site s' (effect i s') ∧
        Sat C Q (next i s') (⟨site, s', effect i s'⟩ :: h) (effect i s')

theorem sat_andThen {p : Prog M α} {k : Except M.Error α → Prog M β} {Q : Post M β} :
    Sat C Q (p.andThen k) h s ↔ Sat C (fun h r s => Sat C Q (k r) h s) p h s := by
  induction p generalizing h s with
  | done r => rfl
  | atomic site effect next ih =>
    constructor
    · intro H s' hr i
      exact ⟨(H s' hr i).1, (ih i s').mp (H s' hr i).2⟩
    · intro H s' hr i
      exact ⟨(H s' hr i).1, (ih i s').mpr (H s' hr i).2⟩

/-- A weaker contract and a weaker postcondition. -/
theorem Sat.mono {p : Prog M α} (hp : Sat C Q p h s)
    (hrely : ∀ s s', C'.rely s s' → C.rely s s')
    (hguar : ∀ h site s s', C.guar h site s s' → C'.guar h site s s')
    (hQ : ∀ h r s, Q h r s → Q' h r s) : Sat C' Q' p h s := by
  induction p generalizing h s with
  | done r => exact hQ h r s hp
  | atomic site effect next ih =>
    intro s' hr i
    obtain ⟨hg, hn⟩ := hp s' (hrely s s' hr) i
    exact ⟨hguar _ _ _ _ hg, ih i s' hn⟩

theorem Sat.post {p : Prog M α} (hp : Sat C Q p h s)
    (hQ : ∀ h r s, Q h r s → Q' h r s) : Sat C Q' p h s :=
  hp.mono (fun _ _ hr => hr) (fun _ _ _ _ hg => hg) hQ

/-- A program may start later, after others have moved the state. -/
theorem Sat.rely {p : Prog M α} {s' : M.State}
    (htrans : ∀ a b c, C.rely a b → C.rely b c → C.rely a c)
    (hQ : ∀ h r s s', C.rely s s' → Q h r s → Q h r s')
    (hp : Sat C Q p h s) (hr : C.rely s s') : Sat C Q p h s' := by
  cases p with
  | done r => exact hQ h r s s' hr hp
  | atomic site effect next =>
    intro s₁ hr₁ i
    exact hp s₁ (htrans s s' s₁ hr hr₁) i

/-- No claim about how a program ends. -/
def anyPost : Post M α := fun _ _ _ => True

theorem Sat.any {p : Prog M α} (hp : Sat C Q p h s) : Sat C anyPost p h s :=
  hp.post fun _ _ _ _ => trivial

/-- Two contracts that a program meets, it meets at once. -/
theorem Sat.and {p : Prog M α} (hp : Sat C Q p h s) (hp' : Sat C' Q' p h s) :
    Sat ⟨fun a b => C.rely a b ∧ C'.rely a b,
      fun h site a b => C.guar h site a b ∧ C'.guar h site a b⟩
      (fun h r s => Q h r s ∧ Q' h r s) p h s := by
  induction p generalizing h s with
  | done r => exact ⟨hp, hp'⟩
  | atomic site effect next ih =>
    intro s' hr i
    obtain ⟨hg, hn⟩ := hp s' hr.1 i
    obtain ⟨hg', hn'⟩ := hp' s' hr.2 i
    exact ⟨⟨hg, hg'⟩, ih i s' hn hn'⟩

/-- Two facts about how a program ends, under one contract. -/
theorem Sat.both {p : Prog M α} (hp : Sat C Q p h s) (hp' : Sat C Q' p h s) :
    Sat C (fun h r s => Q h r s ∧ Q' h r s) p h s :=
  (hp.and hp').mono (fun _ _ hr => ⟨hr, hr⟩) (fun _ _ _ _ hg => hg.1) fun _ _ _ hQ => hQ

/-- A program that meets a contract wherever `I` holds, and keeps `I` as it goes. -/
theorem Sat.under {I : List (StepRecord M) → M.State → Prop} {p : Prog M α} (hp : Sat C Q p h s)
    (hrely : ∀ h s s', C'.rely s s' → I h s → C.rely s s' ∧ I h s')
    (hstep : ∀ h site s s', I h s → C.guar h site s s' →
      C'.guar h site s s' ∧ I (⟨site, s, s'⟩ :: h) s')
    (hI : I h s) : Sat C' (fun h r s => Q h r s ∧ I h s) p h s := by
  induction p generalizing h s with
  | done r => exact ⟨hp, hI⟩
  | atomic site effect next ih =>
    intro s' hr i
    obtain ⟨hr', hI'⟩ := hrely h s s' hr hI
    obtain ⟨hg, hn⟩ := hp s' hr' i
    obtain ⟨hg', hI''⟩ := hstep _ _ _ _ hI' hg
    exact ⟨hg', ih i s' hn hI''⟩

/-- What others and the program's own steps keep, holds when the program ends. -/
theorem Sat.keep {I : List (StepRecord M) → M.State → Prop} {p : Prog M α} (hp : Sat C Q p h s)
    (hrely : ∀ h s s', C.rely s s' → I h s → I h s')
    (hstep : ∀ h site s s', I h s → C.guar h site s s' → I (⟨site, s, s'⟩ :: h) s')
    (hI : I h s) : Sat C (fun h r s => Q h r s ∧ I h s) p h s :=
  hp.under (fun h s s' hr hI => ⟨hr, hrely h s s' hr hI⟩)
    (fun h site s s' hI hg => ⟨hg, hstep h site s s' hI hg⟩) hI

/-! ## One rule for each program former -/

theorem sat_bind {p : Prog M α} {k : α → Prog M β} {Q : Post M β}
    (hp : Sat C (fun h r s => match r with
      | .ok a => Sat C Q (k a) h s
      | .error e => Q h (.error e) s) p h s) : Sat C Q (p >>= k) h s := by
  refine sat_andThen.mpr (hp.post fun h r s hr => ?_)
  cases r with
  | ok a => exact hr
  | error e => exact hr

/-- What both halves keep however they end. -/
theorem sat_bind_keep {I : M.State → Prop} {p : Prog M α} {k : α → Prog M β}
    (hp : Sat C (fun _ _ s => I s) p h s)
    (hk : ∀ a h s, I s → Sat C (fun _ _ s => I s) (k a) h s) :
    Sat C (fun _ _ s => I s) (p >>= k) h s := by
  refine sat_bind (hp.post fun h r s hI => ?_)
  cases r with
  | ok a => exact hk a h s hI
  | error e => exact hI

theorem sat_tryCatch {p : Prog M α} {f : M.Error → Prog M α}
    (hp : Sat C (fun h r s => match r with
      | .ok a => Q h (.ok a) s
      | .error e => Sat C Q (f e) h s) p h s) : Sat C Q (tryCatch p f) h s := by
  refine sat_andThen.mpr (hp.post fun h r s hr => ?_)
  cases r with
  | ok a => exact hr
  | error e => exact hr

theorem sat_pure {a : α} (hq : Q h (.ok a) s) : Sat C Q (pure a) h s := hq

theorem sat_pure_bind {a : α} {k : α → Prog M β} {Q : Post M β} (hk : Sat C Q (k a) h s) :
    Sat C Q (pure a >>= k) h s := hk

theorem sat_await {site : M.Site} {stmt : M.Answer → Stmt M α}
    (hstep : ∀ s', C.rely s s' → ∀ i,
      (∀ e, stmt i s' = .error e →
        C.guar h site s' s' ∧ Q (⟨site, s', s'⟩ :: h) (.error e) s') ∧
      (∀ a s'', stmt i s' = .ok (a, s'') →
        C.guar h site s' s'' ∧ Q (⟨site, s', s''⟩ :: h) (.ok a) s'')) :
    Sat C Q (await site stmt) h s := by
  intro s' hr i
  obtain ⟨herr, hok⟩ := hstep s' hr i
  cases hrun : stmt i s' with
  | error e => simpa [Sat, hrun, Except.map] using herr e hrun
  | ok x =>
    obtain ⟨a, s''⟩ := x
    simpa [Sat, hrun, Except.map] using hok a s'' hrun

theorem sat_await_bind {site : M.Site} {stmt : M.Answer → Stmt M α} {k : α → Prog M β}
    {Q : Post M β}
    (hstep : ∀ s', C.rely s s' → ∀ i,
      (∀ e, stmt i s' = .error e →
        C.guar h site s' s' ∧ Q (⟨site, s', s'⟩ :: h) (.error e) s') ∧
      (∀ a s'', stmt i s' = .ok (a, s'') →
        C.guar h site s' s'' ∧ Sat C Q (k a) (⟨site, s', s''⟩ :: h) s'')) :
    Sat C Q (await site stmt >>= k) h s :=
  sat_bind (sat_await hstep)

/-- A statement that cannot fail where it runs. -/
theorem sat_await_ok {site : M.Site} {stmt : M.Answer → Stmt M α}
    (hstep : ∀ s', C.rely s s' → ∀ i, (∃ x, stmt i s' = .ok x) ∧
      ∀ a s'', stmt i s' = .ok (a, s'') →
        C.guar h site s' s'' ∧ Q (⟨site, s', s''⟩ :: h) (.ok a) s'') :
    Sat C Q (await site stmt) h s := by
  refine sat_await fun s' hr i => ?_
  obtain ⟨⟨x, hok⟩, hpost⟩ := hstep s' hr i
  refine ⟨fun e hrun => ?_, hpost⟩
  rw [hok] at hrun
  cases hrun

theorem sat_read {site : M.Site} {f : M.State → α}
    (hstep : ∀ s', C.rely s s' →
      C.guar h site s' s' ∧ Q (⟨site, s', s'⟩ :: h) (.ok (f s')) s') :
    Sat C Q (read site f) h s :=
  fun s' hr _ => hstep s' hr

theorem sat_read_bind {site : M.Site} {f : M.State → α} {k : α → Prog M β} {Q : Post M β}
    (hstep : ∀ s', C.rely s s' →
      C.guar h site s' s' ∧ Sat C Q (k (f s')) (⟨site, s', s'⟩ :: h) s') :
    Sat C Q (read site f >>= k) h s :=
  sat_bind (sat_read hstep)

theorem sat_ask_bind {site : M.Site} {f : M.Answer → M.State → α} {k : α → Prog M β}
    {Q : Post M β}
    (hstep : ∀ s', C.rely s s' → ∀ i,
      C.guar h site s' s' ∧ Sat C Q (k (f i s')) (⟨site, s', s'⟩ :: h) s') :
    Sat C Q (ask site f >>= k) h s :=
  sat_bind fun s' hr i => hstep s' hr i

theorem sat_throwIf {c : Prop} [Decidable c] {e : M.Error} {Q : Post M Unit}
    (herr : c → Q h (.error e) s) (hok : ¬c → Q h (.ok ()) s) : Sat C Q (throwIf c e) h s := by
  unfold throwIf
  split
  · rename_i hc
    exact herr hc
  · rename_i hc
    exact hok hc

theorem sat_throwIf_bind {c : Prop} [Decidable c] {e : M.Error} {k : Unit → Prog M β}
    {Q : Post M β} (herr : c → Q h (.error e) s) (hk : ¬c → Sat C Q (k ()) h s) :
    Sat C Q (throwIf c e >>= k) h s := by
  exact sat_bind (sat_throwIf herr hk)

theorem sat_orThrow_bind {o : Option α} {e : M.Error} {k : α → Prog M β} {Q : Post M β}
    (herr : o = none → Q h (.error e) s) (hk : ∀ a, o = some a → Sat C Q (k a) h s) :
    Sat C Q (orThrow o e >>= k) h s := by
  refine sat_bind ?_
  cases o with
  | none => exact herr rfl
  | some a => exact hk a rfl

theorem sat_runIf_bind {c : Prop} [Decidable c] {p : Prog M Unit} {k : Unit → Prog M β}
    {Q : Post M β} (hp : c → Sat C Q (p >>= k) h s) (hk : ¬c → Sat C Q (k ()) h s) :
    Sat C Q (runIf c p >>= k) h s := by
  unfold runIf
  split
  · rename_i hc
    exact hp hc
  · rename_i hc
    exact hk hc

theorem sat_ite {c : Prop} [Decidable c] {p q : Prog M α} (hp : c → Sat C Q p h s)
    (hq : ¬c → Sat C Q q h s) : Sat C Q (if c then p else q) h s := by
  split
  · rename_i hc
    exact hp hc
  · rename_i hc
    exact hq hc

/-! ## Programs that need no observation

A program is `Free` under a contract when each of its steps meets the guarantee
in any state and after any steps, so it may follow any other program. -/

/-- The program meets the contract from every state. -/
def Free (C : Contract M) (p : Prog M α) : Prop := ∀ h s, Sat C anyPost p h s

theorem Free.sat {p : Prog M α} (hp : Free C p) : Sat C anyPost p h s := hp h s

theorem free_pure {a : α} : Free C (pure a) := fun _ _ => trivial

theorem free_throw {e : M.Error} : Free C (throw e : Prog M α) := fun _ _ => trivial

theorem free_bind {p : Prog M α} {k : α → Prog M β} (hp : Free C p) (hk : ∀ a, Free C (k a)) :
    Free C (p >>= k) := by
  refine fun h s => sat_bind ((hp h s).post fun h r s _ => ?_)
  cases r with
  | ok a => exact hk a h s
  | error e => trivial

theorem free_tryCatch {p : Prog M α} {f : M.Error → Prog M α} (hp : Free C p)
    (hf : ∀ e, Free C (f e)) : Free C (tryCatch p f) := by
  refine fun h s => sat_tryCatch ((hp h s).post fun h r s _ => ?_)
  cases r with
  | ok a => trivial
  | error e => exact hf e h s

theorem free_throwIf {c : Prop} [Decidable c] {e : M.Error} : Free C (throwIf c e) := by
  unfold throwIf
  split
  · exact free_throw
  · exact free_pure

theorem free_orThrow {o : Option α} {e : M.Error} : Free C (orThrow o e) := by
  cases o with
  | none => exact free_throw
  | some a => exact free_pure

theorem free_runIf {c : Prop} [Decidable c] {p : Prog M Unit} (hp : c → Free C p) :
    Free C (runIf c p) := by
  unfold runIf
  split
  · rename_i hc
    exact hp hc
  · exact free_pure

theorem free_read {site : M.Site} {f : M.State → α} (hg : ∀ h s, C.guar h site s s) :
    Free C (read site f) :=
  fun _ _ => sat_read fun s' _ => ⟨hg _ s', trivial⟩

theorem free_ask {site : M.Site} {f : M.Answer → M.State → α} (hg : ∀ h s, C.guar h site s s) :
    Free C (ask site f) :=
  fun _ _ s' _ _ => ⟨hg _ s', trivial⟩

theorem free_await {site : M.Site} {stmt : M.Answer → Stmt M α}
    (herr : ∀ h s, C.guar h site s s)
    (hok : ∀ h i s a s', stmt i s = .ok (a, s') → C.guar h site s s') :
    Free C (await site stmt) :=
  fun _ _ => sat_await fun s' _ i =>
    ⟨fun _ _ => ⟨herr _ s', trivial⟩, fun a s'' hrun => ⟨hok _ i s' a s'' hrun, trivial⟩⟩

/-- A statement that never fails. -/
theorem free_await_total {site : M.Site} {stmt : M.Answer → Stmt M α}
    (hok : ∀ h i s, ∃ a s', stmt i s = .ok (a, s') ∧ C.guar h site s s') :
    Free C (await site stmt) := by
  refine fun h _ => sat_await_ok fun s _ i => ?_
  obtain ⟨a, s', hrun, hg⟩ := hok h i s
  refine ⟨⟨_, hrun⟩, fun a' s'' hrun' => ⟨?_, trivial⟩⟩
  obtain ⟨rfl, rfl⟩ : a = a' ∧ s' = s'' := by simpa [hrun] using hrun'
  exact hg

theorem free_ite {c : Prop} [Decidable c] {p q : Prog M α} (hp : Free C p) (hq : Free C q) :
    Free C (if c then p else q) := by
  split
  · exact hp
  · exact hq

/-- What each step keeps, the whole program keeps, when nothing happens in between. -/
theorem Sat.leads {K : M.State → M.State → Prop} (hrefl : ∀ s, K s s)
    (htrans : ∀ a b c, K a b → K b c → K a c) (hrely : ∀ a b, C.rely a b → a = b)
    (hguar : ∀ h site a b, C.guar h site a b → K a b) {p : Prog M α} (hp : Sat C Q p h s) :
    Sat C (fun _ _ s' => K s s') p h s := by
  have hkeep := hp.keep (I := fun _ s' => K s s')
    (fun _ a b hab hI => hrely a b hab ▸ hI)
    (fun h site a b hI hg => htrans s a b hI (hguar h site a b hg)) (hrefl s)
  exact hkeep.post fun _ _ _ hQ => hQ.2

theorem Free.leads {K : M.State → M.State → Prop} (hrefl : ∀ s, K s s)
    (htrans : ∀ a b c, K a b → K b c → K a c) (hrely : ∀ a b, C.rely a b → a = b)
    (hguar : ∀ h site a b, C.guar h site a b → K a b) {p : Prog M α} (hp : Free C p) :
    Sat C (fun _ _ s' => K s s') p h s :=
  (hp h s).leads hrefl htrans hrely hguar

/-- The contract that says which statements a program runs, and nothing of what they do. -/
def sitesContract (P : M.Site → Prop) : Contract M where
  rely _ _ := True
  guar _ site _ _ := P site

theorem free_await_site {P : M.Site → Prop} {site : M.Site} {stmt : M.Answer → Stmt M α}
    (hP : P site) : Free (sitesContract P) (await site stmt) :=
  free_await (fun _ _ => hP) fun _ _ _ _ _ _ => hP

/-- What a program that runs statements of one kind adds to the steps taken before it. -/
theorem Free.adds {P : M.Site → Prop} {p : Prog M α} (hp : Free (sitesContract P) p) :
    Sat (sitesContract P) (fun h' _ _ => ∃ added, h' = added ++ h ∧ ∀ t ∈ added, P t.site) p h s := by
  refine ((hp h s).keep (I := fun h' _ => ∃ added : List (StepRecord M), h' = added ++ h ∧ ∀ t ∈ added, P t.site)
    (fun _ _ _ _ hI => hI) ?_ ⟨[], rfl, fun _ ht => absurd ht List.not_mem_nil⟩).post fun _ _ _ hQ => hQ.2
  rintro _ site s s' ⟨added, rfl, hadded⟩ hsite
  exact ⟨_ :: added, rfl, List.forall_mem_cons.mpr ⟨hsite, hadded⟩⟩

/-- A program that runs statements of a kind that the contract always allows, and what follows it. -/
theorem sat_sites_bind {P : M.Site → Prop} {p : Prog M α} {k : α → Prog M β}
    (hp : Free (sitesContract P) p) (hallowed : ∀ h site s s', P site → C.guar h site s s')
    (hk : ∀ a added s, (∀ t ∈ added, P t.site) → Sat C anyPost (k a) (added ++ h) s) :
    Sat C anyPost (p >>= k) h s := by
  refine sat_bind (hp.adds.mono (fun _ _ _ => trivial) hallowed fun h' r s hadds => ?_)
  obtain ⟨added, rfl, hadded⟩ := hadds
  cases r with
  | ok a => exact hk a added s hadded
  | error e => trivial

/-- The contract of a program that starts after a step of a kind. -/
def sinceContract (P : StepRecord M → Prop) : Contract M where
  rely _ _ := True
  guar h _ _ _ := ∃ t ∈ h, P t

/-- A step that was taken stays taken. -/
theorem sat_since {P : StepRecord M → Prop} {p : Prog M α} (hh : ∃ t ∈ h, P t) :
    Sat (sinceContract P) (fun h _ _ => ∃ t ∈ h, P t) p h s := by
  induction p generalizing h s with
  | done r => exact hh
  | atomic site effect next ih =>
    intro s' _ i
    obtain ⟨t, ht, hP⟩ := hh
    exact ⟨⟨t, ht, hP⟩, ih i s' ⟨t, List.mem_cons_of_mem _ ht, hP⟩⟩

/-- The contract that allows everything and promises nothing: what is left is how
the program ends. -/
def endContract : Contract M where
  rely _ _ := True
  guar _ _ _ _ := True

theorem sat_end {p : Prog M α} (hQ : ∀ h r s, Q h r s) : Sat endContract Q p h s := by
  induction p generalizing h s with
  | done r => exact hQ h r s
  | atomic site effect next ih =>
    intro s' _ i
    exact ⟨trivial, ih i s'⟩

/-- How a program ends is known under any contract. -/
theorem Sat.ends {p : Prog M α} (hp : Sat C Q p h s) (hend : Sat endContract Q' p h s) :
    Sat C (fun h r s => Q h r s ∧ Q' h r s) p h s :=
  (hp.and hend).mono (fun _ _ hr => ⟨hr, trivial⟩) (fun _ _ _ _ hg => hg.1) fun _ _ _ hQ => hQ

/-- How a program ends may depend on its last part only. -/
theorem sat_end_bind {p : Prog M α} {k : α → Prog M β} {Q : Post M β}
    (herr : ∀ h e s, Q h (.error e) s) (hk : ∀ a h s, Sat endContract Q (k a) h s) :
    Sat endContract Q (p >>= k) h s := by
  refine sat_bind (sat_end fun h r s => ?_)
  cases r with
  | ok a => exact hk a h s
  | error e => exact herr h e s

/-- Any program may be followed by free ones. -/
theorem sat_bind_free {p : Prog M α} {k : α → Prog M β} (hp : Sat C anyPost p h s)
    (hk : ∀ a, Free C (k a)) : Sat C anyPost (p >>= k) h s := by
  refine sat_bind (hp.post fun h r s _ => ?_)
  cases r with
  | ok a => exact hk a h s
  | error e => trivial

/-- What the others and every guaranteed step keep, still holds after a free program. -/
theorem sat_free_bind {K : M.State → Prop} (hrely : ∀ s s', C.rely s s' → K s → K s')
    (hguar : ∀ h site s s', C.guar h site s s' → K s → K s') {p : Prog M α} {k : α → Prog M β}
    (hp : Free C p) (hK : K s) (hk : ∀ a h s, K s → Sat C anyPost (k a) h s) :
    Sat C anyPost (p >>= k) h s := by
  have hkeep := (hp h s).keep (I := fun _ s => K s) (fun _ a b hab hKa => hrely a b hab hKa)
    (fun h site a b hKa hg => hguar h site a b hg hKa) hK
  refine sat_bind (hkeep.post fun h r s hr => ?_)
  cases r with
  | ok a => exact hk a h s hr.2
  | error e => trivial

/-! ## Programs run alone -/

/-- Each step of a list meets the guarantee, given the steps before it. -/
def Guaranteed (C : Contract M) : List (StepRecord M) → List (StepRecord M) → Prop
  | _, [] => True
  | h, r :: rest => C.guar h r.site r.pre r.post ∧ Guaranteed C (r :: h) rest

/-- Each guaranteed step meets the guarantee, after some steps of the program. -/
theorem Guaranteed.mem {steps : List (StepRecord M)} (hg : Guaranteed C h steps) :
    ∀ t ∈ steps, ∃ h', C.guar h' t.site t.pre t.post := by
  induction steps generalizing h with
  | nil => nofun
  | cons r rest ih => exact List.forall_mem_cons.mpr ⟨⟨h, hg.1⟩, ih hg.2⟩

/-- The steps lead from one state to another, with nothing in between. -/
def Leads : M.State → List (StepRecord M) → M.State → Prop
  | s, [], s' => s = s'
  | s, r :: rest, s' => r.pre = s ∧ Leads r.post rest s'

theorem exec_leads (p : Prog M α) (w : Nat → M.Answer) (s : M.State) :
    Leads s (p.exec w s).steps (p.exec w s).state := by
  induction p generalizing w s with
  | done r => rfl
  | atomic site effect next ih => exact ⟨rfl, ih _ _ _ _⟩

/-- A program run alone meets its contract, when the contract allows for nothing
happening in between. -/
theorem Sat.exec {p : Prog M α} (hrefl : ∀ s, C.rely s s) (hp : Sat C Q p h s)
    (w : Nat → M.Answer) :
    Guaranteed C h (p.exec w s).steps ∧
      Q ((p.exec w s).steps.reverse ++ h) (p.exec w s).result (p.exec w s).state := by
  induction p generalizing w h s with
  | done r => exact ⟨trivial, hp⟩
  | atomic site effect next ih =>
    obtain ⟨hg, hn⟩ := hp s (hrefl s) (w 0)
    obtain ⟨hgs, hq⟩ := ih _ _ hn (fun n => w (n + 1))
    refine ⟨⟨hg, hgs⟩, ?_⟩
    simpa [Prog.exec] using hq

/-- What every guaranteed step preserves holds after all of them. The invariant
may speak of the steps taken so far. -/
theorem Guaranteed.invariant {I : List (StepRecord M) → M.State → Prop}
    {cond : M.Site → M.State → Prop}
    (hstep : ∀ h site s s', I h s → cond site s → C.guar h site s s' → I (⟨site, s, s'⟩ :: h) s')
    {steps : List (StepRecord M)} {s' : M.State} (hg : Guaranteed C h steps)
    (hl : Leads s steps s') (hc : ∀ r ∈ steps, cond r.site r.pre) (hI : I h s) :
    I (steps.reverse ++ h) s' := by
  induction steps generalizing h s with
  | nil => exact hl ▸ hI
  | cons r rest ih =>
    obtain ⟨rfl, hl⟩ := hl
    have hcr : cond r.site r.pre := hc r (List.mem_cons_self ..)
    have hrest := ih hg.2 hl (fun r' hr' => hc r' (List.mem_cons_of_mem _ hr'))
      (hstep h _ _ _ hI hcr hg.1)
    simpa using hrest

end Prog
