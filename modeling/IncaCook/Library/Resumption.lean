import Mathlib.Tactic.Common

/-!
# Resumptions: programs that give way between statements

A request handler that awaits a database or a remote service runs in pieces.
Each statement it awaits is one atomic step on the shared state; between two
statements other handlers may run. `Prog` is such a program: either it is
`done`, with a value or an error, or it is about to take one `atomic` step,
whose effect and whose continuation both depend on the shared state at that
moment and on an answer from the environment (the verdict of a remote call, a
fresh identifier).

The same program has two readings. `Prog.exec` runs it alone, from the first
step to the last. The pool of the `Pool` module interleaves it with others.

Every step carries the `Site` of the statement it performs, a label that the
program computes from what it knows before the step, so that a run can be
described by the statements it executed.
-/

/-- What the programs of one development share: the state, the answers the
environment may give to a step, the labels of the statements, the errors. -/
structure Machine where
  State : Type
  Answer : Type
  Site : Type
  Error : Type

/-- A program returning `α`. -/
inductive Prog (M : Machine) (α : Type) : Type where
  | done (result : Except M.Error α)
  | atomic (site : M.Site) (effect : M.Answer → M.State → M.State)
      (next : M.Answer → M.State → Prog M α)

namespace Prog

variable {M : Machine} {α β γ : Type}

/-- Runs `p`, then hands its result, value or error, to `k`. -/
def andThen (p : Prog M α) (k : Except M.Error α → Prog M β) : Prog M β :=
  match p with
  | .done r => k r
  | .atomic site effect next => .atomic site effect fun i s => (next i s).andThen k

instance : Monad (Prog M) where
  pure a := .done (.ok a)
  bind p k := p.andThen fun
    | .ok a => k a
    | .error e => .done (.error e)

theorem andThen_assoc {p : Prog M α} {k : Except M.Error α → Prog M β}
    {l : Except M.Error β → Prog M γ} :
    (p.andThen k).andThen l = p.andThen fun r => (k r).andThen l := by
  induction p with
  | done r => rfl
  | atomic site effect next ih =>
    rw [andThen, andThen, andThen]
    congr 1
    funext i s
    exact ih i s

theorem andThen_done {p : Prog M α} : p.andThen .done = p := by
  induction p with
  | done r => rfl
  | atomic site effect next ih =>
    rw [andThen]
    congr 1
    funext i s
    exact ih i s

theorem map_id_prog (p : Prog M α) : id <$> p = p := by
  refine Eq.trans ?_ (andThen_done (p := p))
  show p.andThen _ = p.andThen _
  congr 1
  funext r
  cases r with
  | ok a => rfl
  | error e => rfl

theorem bind_assoc_prog (p : Prog M α) (k : α → Prog M β) (l : β → Prog M γ) :
    p >>= k >>= l = p >>= fun a => k a >>= l := by
  refine andThen_assoc.trans ?_
  show p.andThen _ = p.andThen _
  congr 1
  funext r
  cases r with
  | ok a => rfl
  | error e => rfl

instance : LawfulMonad (Prog M) :=
  LawfulMonad.mk' _ map_id_prog (fun _ _ => rfl) bind_assoc_prog

instance : MonadExcept M.Error (Prog M) where
  throw e := .done (.error e)
  tryCatch p h := p.andThen fun
    | .ok a => .done (.ok a)
    | .error e => h e

/-- A statement on the shared state; one that fails leaves the state as it was. -/
abbrev Stmt (M : Machine) (α : Type) := StateT M.State (Except M.Error) α

/-- Awaits one statement: a single atomic step. A failing statement is rolled
back and its error raised in the program. -/
def await (site : M.Site) (stmt : M.Answer → Stmt M α) : Prog M α :=
  .atomic site
    (fun i s => match stmt i s with
      | .ok (_, s') => s'
      | .error _ => s)
    (fun i s => .done ((stmt i s).map Prod.fst))

/-- Awaits a read: the state does not change. -/
def read (site : M.Site) (f : M.State → α) : Prog M α :=
  .atomic site (fun _ s => s) (fun _ s => .done (.ok (f s)))

/-- Awaits the environment: the state does not change. -/
def ask (site : M.Site) (f : M.Answer → M.State → α) : Prog M α :=
  .atomic site (fun _ s => s) (fun i s => .done (.ok (f i s)))

/-- Raises `e` when the condition holds. -/
def throwIf (c : Prop) [Decidable c] (e : M.Error) : Prog M Unit :=
  if c then .done (.error e) else .done (.ok ())

/-- Runs `p` when the condition holds. -/
def runIf (c : Prop) [Decidable c] (p : Prog M Unit) : Prog M Unit :=
  if c then p else .done (.ok ())

/-- The value, or the error `e` when there is none. -/
def orThrow (o : Option α) (e : M.Error) : Prog M α :=
  match o with
  | some a => .done (.ok a)
  | none => .done (.error e)

/-! ## Running a program alone -/

/-- One executed step: the statement, the state before it and the state after. -/
structure StepRecord (M : Machine) where
  site : M.Site
  pre : M.State
  post : M.State

/-- What a program run alone leaves behind. -/
structure Outcome (M : Machine) (α : Type) where
  result : Except M.Error α
  state : M.State
  steps : List (StepRecord M)

/-- Runs the program to its end with no other program in between; `w n` is the
environment's answer to the `n`-th step. -/
def exec (p : Prog M α) (w : Nat → M.Answer) (s : M.State) : Outcome M α :=
  match p with
  | .done r => ⟨r, s, []⟩
  | .atomic site effect next =>
    let rest := (next (w 0) s).exec (fun n => w (n + 1)) (effect (w 0) s)
    ⟨rest.result, rest.state, ⟨site, s, effect (w 0) s⟩ :: rest.steps⟩

/-- Run alone, the program returns `a`. -/
def Returns (p : Prog M α) (w : Nat → M.Answer) (s : M.State) (a : α) : Prop :=
  (p.exec w s).result = .ok a

/-- Run alone, the program returns a value. -/
def Succeeds (p : Prog M α) (w : Nat → M.Answer) (s : M.State) : Prop := ∃ a, p.Returns w s a

section

variable {w : Nat → M.Answer} {s : M.State} {site : M.Site} {k : α → Prog M β} {b : β}

theorem returns_pure {a a' : α} : (pure a : Prog M α).Returns w s a' ↔ a = a' := by
  constructor
  · intro h
    cases h
    rfl
  · rintro rfl
    rfl

theorem returns_read_bind {f : M.State → α} :
    (read site f >>= k).Returns w s b ↔ (k (f s)).Returns (fun n => w (n + 1)) s b := Iff.rfl

theorem returns_throwIf_bind {c : Prop} [Decidable c] {e : M.Error} {k : Unit → Prog M β} :
    (throwIf c e >>= k).Returns w s b ↔ ¬c ∧ (k ()).Returns w s b := by
  unfold throwIf
  by_cases hc : c
  · rw [if_pos hc]
    constructor
    · intro h
      cases h
    · rintro ⟨hn, -⟩
      exact absurd hc hn
  · rw [if_neg hc]
    exact (and_iff_right hc).symm

theorem returns_orThrow_bind {o : Option α} {e : M.Error} :
    (orThrow o e >>= k).Returns w s b ↔ ∃ a, o = some a ∧ (k a).Returns w s b := by
  cases o with
  | none =>
    constructor
    · intro h
      cases h
    · rintro ⟨a, ha, -⟩
      cases ha
  | some a =>
    constructor
    · intro h
      exact ⟨a, rfl, h⟩
    · rintro ⟨a', ha, h⟩
      cases ha
      exact h

/-! A check takes no step: it lets the program go on, or ends it. -/

/-- The program is over before its first step. -/
def Stepless (p : Prog M α) : Prop := ∃ r, p = .done r

theorem stepless_throwIf {c : Prop} [Decidable c] {e : M.Error} : (throwIf c e).Stepless := by
  unfold throwIf
  split
  · exact ⟨_, rfl⟩
  · exact ⟨_, rfl⟩

theorem stepless_bind {p : Prog M α} (hp : p.Stepless) (hk : ∀ a, (k a).Stepless) :
    (p >>= k).Stepless := by
  obtain ⟨r, rfl⟩ := hp
  cases r with
  | ok a => exact hk a
  | error e => exact ⟨_, rfl⟩

theorem stepless_orThrow {o : Option α} {e : M.Error} : (orThrow o e).Stepless := by
  cases o with
  | none => exact ⟨_, rfl⟩
  | some a => exact ⟨_, rfl⟩

theorem stepless_forM {f : γ → Prog M Unit} (hf : ∀ c, (f c).Stepless) (l : List γ) :
    (l.forM f).Stepless := by
  induction l with
  | nil => exact ⟨_, rfl⟩
  | cons c rest ih => exact stepless_bind (hf c) fun _ => ih

theorem returns_stepless_bind {p : Prog M α} (hp : p.Stepless) :
    (p >>= k).Returns w s b ↔ ∃ a, p = pure a ∧ (k a).Returns w s b := by
  obtain ⟨r, rfl⟩ := hp
  constructor
  · intro h
    cases r with
    | ok a => exact ⟨a, rfl, h⟩
    | error e => cases h
  · rintro ⟨a, ha, h⟩
    rw [ha]
    exact h

theorem succeeds_pure (a : α) : (pure a : Prog M α).Succeeds w s := ⟨a, rfl⟩

theorem succeeds_read_bind {f : M.State → α} :
    (read site f >>= k).Succeeds w s ↔ (k (f s)).Succeeds (fun n => w (n + 1)) s := Iff.rfl

theorem succeeds_throwIf_bind {c : Prop} [Decidable c] {e : M.Error} {k : Unit → Prog M β} :
    (throwIf c e >>= k).Succeeds w s ↔ ¬c ∧ (k ()).Succeeds w s := by
  unfold Succeeds
  simp only [returns_throwIf_bind, exists_and_left]

theorem succeeds_orThrow_bind {o : Option α} {e : M.Error} :
    (orThrow o e >>= k).Succeeds w s ↔ ∃ a, o = some a ∧ (k a).Succeeds w s := by
  unfold Succeeds
  simp only [returns_orThrow_bind]
  rw [exists_comm]
  simp only [exists_and_left]

end

end Prog
