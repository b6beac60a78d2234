import IncaCook.Library.RelyGuarantee

/-!
# A program on a part of the state

A service may call another one that knows only a part of the shared state.
`Prog.within` lets a program over that part run on the whole, and `sat_within`
turns what is known of the program into a contract of the whole: the part's
state is read through `get`, and the part's history through any relation `V`
that each embedded step keeps.
-/

/-- A machine found inside another: its state is a component, its statements are
some of the statements. The environment's answers and the errors are the same. -/
structure Machine.Part (M N : Machine) where
  get : N.State → M.State
  put : M.State → N.State → N.State
  site : M.Site → N.Site
  answer : N.Answer → M.Answer
  error : M.Error → N.Error
  get_put : ∀ a s, get (put a s) = a

namespace Prog

variable {M N : Machine} {α : Type}

/-- The program, on the whole state. -/
def within (P : Machine.Part M N) : Prog M α → Prog N α
  | .done r => .done (r.mapError P.error)
  | .atomic site effect next =>
    .atomic (P.site site) (fun i s => P.put (effect (P.answer i) (P.get s)) s)
      (fun i s => (next (P.answer i) (P.get s)).within P)

theorem sat_within {P : Machine.Part M N} {C : Contract M} {C' : Contract N} {Q : Post M α}
    {Q' : Post N α} {V : List (StepRecord M) → List (StepRecord N) → Prop}
    (hrely : ∀ s s', C'.rely s s' → C.rely (P.get s) (P.get s'))
    (hguar : ∀ h h' site s a, V h h' → C.guar h site (P.get s) a →
      C'.guar h' (P.site site) s (P.put a s))
    (hV : ∀ h h' site s a, V h h' → C.guar h site (P.get s) a →
      V (⟨site, P.get s, a⟩ :: h) (⟨P.site site, s, P.put a s⟩ :: h'))
    (hQ : ∀ h h' r s, V h h' → Q h r (P.get s) → Q' h' (r.mapError P.error) s)
    {p : Prog M α} {h : List (StepRecord M)} {h' : List (StepRecord N)} {s : N.State}
    (hp : Sat C Q p h (P.get s)) (hh : V h h') : Sat C' Q' (p.within P) h' s := by
  induction p generalizing h h' s with
  | done r => exact hQ h h' r s hh hp
  | atomic site effect next ih =>
    intro s' hr i
    obtain ⟨hg, hn⟩ := hp (P.get s') (hrely s s' hr) (P.answer i)
    refine ⟨hguar h h' site s' _ hh hg, ?_⟩
    refine ih (P.answer i) (P.get s') ?_ (hV h h' site s' _ hh hg)
    rw [P.get_put]
    exact hn

/-- An embedded program runs the statements of its part. -/
theorem within_sites {P : Machine.Part M N} (p : Prog M α) :
    Free (sitesContract fun site => ∃ site₀, site = P.site site₀) (p.within P) := by
  intro h s
  induction p generalizing h s with
  | done r => trivial
  | atomic site effect next ih =>
    intro s' _ i
    exact ⟨⟨site, rfl⟩, ih _ _ _ _⟩

/-- The steps of an embedded program are steps of the program. -/
theorem sat_within_steps {P : Machine.Part M N} {Q : Post M α} {p : Prog M α}
    {g : List (StepRecord N)} {s : N.State} (hp : Sat endContract Q p [] (P.get s)) :
    Sat endContract (fun g' r s => ∃ h r₀, r = r₀.mapError P.error ∧ Q h r₀ (P.get s) ∧
      ∀ t ∈ h, ∃ t' ∈ g', t'.site = P.site t.site ∧ P.get t'.pre = t.pre ∧ P.get t'.post = t.post)
      (p.within P) g s := by
  refine sat_within (V := fun h g' => ∀ t ∈ h, ∃ t' ∈ g', t'.site = P.site t.site ∧
      P.get t'.pre = t.pre ∧ P.get t'.post = t.post)
    (fun _ _ hR => hR) (fun _ _ _ _ _ _ hg => hg) ?_ (fun h _ r _ hV hQ => ⟨h, r, rfl, hQ, hV⟩) hp
    fun t ht => absurd ht List.not_mem_nil
  intro h g' site s a hV _
  refine List.forall_mem_cons.mpr ⟨⟨_, List.mem_cons_self, rfl, rfl, P.get_put ..⟩, fun t ht => ?_⟩
  obtain ⟨t', ht', hsame⟩ := hV t ht
  exact ⟨t', List.mem_cons_of_mem _ ht', hsame⟩

/-- An embedded program, run alone, where putting the part back changes nothing else. -/
theorem exec_within {P : Machine.Part M N} (hput_get : ∀ s, P.put (P.get s) s = s)
    (hput_put : ∀ a b s, P.put a (P.put b s) = P.put a s) {p : Prog M α} {w : Nat → N.Answer}
    {s : N.State} {r : Except M.Error α} {a : M.State} {steps : List (StepRecord M)}
    (hp : p.exec (fun n => P.answer (w n)) (P.get s) = ⟨r, a, steps⟩) :
    ∃ steps', (p.within P).exec w s = ⟨r.mapError P.error, P.put a s, steps'⟩ := by
  induction p generalizing w s r a steps with
  | done r' =>
    cases hp
    exact ⟨[], by rw [hput_get]; rfl⟩
  | atomic site effect next ih =>
    cases hp
    obtain ⟨steps', hrest⟩ := ih (P.answer (w 0)) (P.get s) (w := fun n => w (n + 1))
      (s := P.put (effect (P.answer (w 0)) (P.get s)) s) (by rw [P.get_put])
    rw [hput_put] at hrest
    refine ⟨⟨P.site site, s, P.put (effect (P.answer (w 0)) (P.get s)) s⟩ :: steps', ?_⟩
    conv_lhs => unfold within exec
    rw [hrest]

/-! ## More statements than before

A service may do what another one does and take further steps in between, that leave the
shared state alone: it tells somebody, or writes a log. -/

/-- `q` takes the steps of `p`, and between them others that change nothing. -/
inductive Padded (P : Machine.Part M N) : Prog M α → Prog N α → Prop where
  | done (r : Except M.Error α) : Padded P (.done r) (.done (r.mapError P.error))
  | step {site : M.Site} {effect : M.Answer → M.State → M.State}
      {next : M.Answer → M.State → Prog M α} {next' : N.Answer → N.State → Prog N α}
      (hnext : ∀ i s, Padded P (next (P.answer i) (P.get s)) (next' i s)) :
      Padded P (.atomic site effect next)
        (.atomic (P.site site) (fun i s => P.put (effect (P.answer i) (P.get s)) s) next')
  | extra {p : Prog M α} {site : N.Site} {next' : N.Answer → N.State → Prog N α}
      (hnext : ∀ i s, Padded P p (next' i s)) : Padded P p (.atomic site (fun _ s => s) next')

variable {β : Type} {P : Machine.Part M N}

theorem padded_within (p : Prog M α) : Padded P p (p.within P) := by
  induction p with
  | done r => exact .done r
  | atomic site effect next ih => exact .step fun i s => ih (P.answer i) (P.get s)

theorem padded_bind {p : Prog M α} {q : Prog N α} {k : α → Prog M β} {k' : α → Prog N β}
    (hp : Padded P p q) (hk : ∀ a, Padded P (k a) (k' a)) : Padded P (p >>= k) (q >>= k') := by
  induction hp with
  | done r =>
    cases r with
    | error e => exact .done (.error e)
    | ok a => exact hk a
  | step _ ih => exact .step fun i s => ih i s
  | extra _ ih => exact .extra fun i s => ih i s

theorem padded_ask {p : Prog M β} {q : Prog N β} {site : N.Site} {f : N.Answer → N.State → α}
    (hp : Padded P p q) : Padded P p (ask site f >>= fun _ => q) :=
  .extra fun _ _ => hp

theorem padded_throwIf {c : Prop} [Decidable c] {e : M.Error} :
    Padded P (throwIf c e) (throwIf c (P.error e)) := by
  unfold throwIf
  split
  · exact .done (.error e)
  · exact .done (.ok ())

theorem padded_orThrow {o : Option α} {e : M.Error} :
    Padded P (orThrow o e) (orThrow o (P.error e)) := by
  cases o with
  | none => exact .done (.error e)
  | some a => exact .done (.ok a)

theorem padded_ite {c : Prop} [Decidable c] {p p' : Prog M α} {q q' : Prog N α}
    (hp : Padded P p q) (hp' : Padded P p' q') :
    Padded P (if c then p else p') (if c then q else q') := by
  split
  · exact hp
  · exact hp'

/-- **Padding shows only in the steps.** Run alone, both programs end in the same way, and leave
the same part behind. -/
theorem exec_padded (hput_get : ∀ s, P.put (P.get s) s = s)
    (hput_put : ∀ a b s, P.put a (P.put b s) = P.put a s) {p : Prog M α} {q : Prog N α}
    (h : Padded P p q) (w : Nat → N.Answer) (s : N.State) :
    ∃ w₀, (q.exec w s).result = (p.exec w₀ (P.get s)).result.mapError P.error ∧
      (q.exec w s).state = P.put (p.exec w₀ (P.get s)).state s := by
  induction h generalizing w s with
  | done r => exact ⟨fun n => P.answer (w n), rfl, (hput_get s).symm⟩
  | @step site effect next next' _ ih =>
    obtain ⟨w₀, hresult, hstate⟩ := ih (w 0) s (fun n => w (n + 1))
      (P.put (effect (P.answer (w 0)) (P.get s)) s)
    rw [P.get_put] at hresult hstate
    rw [hput_put] at hstate
    -- the first answer is the one that both saw
    exact ⟨fun | 0 => P.answer (w 0) | n + 1 => w₀ n, hresult, hstate⟩
  | extra _ ih => exact ih (w 0) s (fun n => w (n + 1)) s

end Prog
