import IncaCook.Library.Resumption

/-!
# Taking a transaction apart

A statement is a state change that may fail; a transaction is several of them in
a row. The lemmas say when a transaction goes through, statement by statement:
`bind_ok` gives the state between two of them, and the rest say what the
primitive ones do. As simp lemmas they unfold a transaction into the rows it
found and the state it left.
-/

namespace Prog.Stmt

variable {σ ε α β : Type} {s s' : σ}

@[simp] theorem bind_ok {x : StateT σ (Except ε) α} {f : α → StateT σ (Except ε) β} {b : β} :
    (x >>= f) s = .ok (b, s') ↔ ∃ a s₁, x s = .ok (a, s₁) ∧ f a s₁ = .ok (b, s') := by
  change (x s >>= fun p => f p.1 p.2) = .ok (b, s') ↔ _
  cases hx : x s with
  | error e => simp [bind, Except.bind]
  | ok p =>
    obtain ⟨a, s₁⟩ := p
    simp [bind, Except.bind]

theorem bind_error {x : StateT σ (Except ε) α} {f : α → StateT σ (Except ε) β} {e : ε}
    (hx : x s = .error e) : (x >>= f) s = .error e := by
  change (x s >>= fun p => f p.1 p.2) = .error e
  rw [hx]
  rfl

/-- A sequence goes through where both its parts do. -/
theorem bind_total {x : StateT σ (Except ε) α} {f : α → StateT σ (Except ε) β} (a : α)
    (hx : x s = .ok (a, s')) (hf : ∃ r, f a s' = .ok r) : ∃ r, (x >>= f) s = .ok r := by
  obtain ⟨⟨b, s₂⟩, hf⟩ := hf
  exact ⟨(b, s₂), bind_ok.mpr ⟨a, s', hx, hf⟩⟩

@[simp] theorem pure_ok {a b : α} :
    (pure a : StateT σ (Except ε) α) s = .ok (b, s') ↔ b = a ∧ s' = s := by
  change Except.ok (a, s) = .ok (b, s') ↔ _
  simp [eq_comm]

@[simp] theorem get_ok {a : σ} :
    (get : StateT σ (Except ε) σ) s = .ok (a, s') ↔ a = s ∧ s' = s := by
  change Except.ok (s, s) = .ok (a, s') ↔ _
  simp [eq_comm]

@[simp] theorem set_ok {t : σ} {u : PUnit} :
    (set t : StateT σ (Except ε) PUnit) s = .ok (u, s') ↔ s' = t := by
  change Except.ok (PUnit.unit, t) = .ok (u, s') ↔ _
  simp [eq_comm]

@[simp] theorem modify_ok {f : σ → σ} {u : PUnit} :
    (modify f : StateT σ (Except ε) PUnit) s = .ok (u, s') ↔ s' = f s := by
  change Except.ok (PUnit.unit, f s) = .ok (u, s') ↔ _
  simp [eq_comm]

/-! ## Statements that refuse -/

/-- Refuses with `e` when the condition holds. -/
def throwIf (c : Prop) [Decidable c] (e : ε) : StateT σ (Except ε) Unit :=
  if c then throw e else pure ()

/-- The value, or a refusal with `e` when there is none. -/
def orThrow (o : Option α) (e : ε) : StateT σ (Except ε) α :=
  match o with
  | some a => pure a
  | none => throw e

@[simp] theorem throwIf_ok {c : Prop} [Decidable c] {e : ε} {u : Unit} :
    throwIf c e s = .ok (u, s') ↔ ¬c ∧ s' = s := by
  unfold throwIf
  split
  case isTrue hc =>
    change Except.error e = .ok (u, s') ↔ _
    simp [hc]
  case isFalse hc => simp [hc]

@[simp] theorem orThrow_ok {o : Option α} {e : ε} {a : α} :
    orThrow o e s = .ok (a, s') ↔ o = some a ∧ s' = s := by
  unfold orThrow
  cases o with
  | none =>
    change Except.error e = .ok (a, s') ↔ _
    simp
  | some b => rw [pure_ok, Option.some.injEq, eq_comm]

/-! ## What every statement of a transaction does

A transaction makes only moves of a preorder when each of its statements does. -/

/-- Going through, the statement makes a move of `K`. -/
def Within (K : σ → σ → Prop) (x : StateT σ (Except ε) α) : Prop :=
  ∀ s a s', x s = .ok (a, s') → K s s'

variable {K : σ → σ → Prop}

theorem within_bind (htrans : ∀ a b c, K a b → K b c → K a c) {x : StateT σ (Except ε) α}
    {f : α → StateT σ (Except ε) β} (hx : Within K x) (hf : ∀ a, Within K (f a)) :
    Within K (x >>= f) := by
  intro s b s' hrun
  obtain ⟨a, s₁, hrun₁, hrun₂⟩ := bind_ok.mp hrun
  exact htrans _ _ _ (hx s a s₁ hrun₁) (hf a s₁ b s' hrun₂)

/-- A statement that only reads. -/
theorem within_same (hrefl : ∀ s, K s s) {x : StateT σ (Except ε) α}
    (hsame : ∀ s a s', x s = .ok (a, s') → s' = s) : Within K x := by
  intro s a s' hrun
  rw [hsame s a s' hrun]
  exact hrefl s

theorem within_pure (hrefl : ∀ s, K s s) {a : α} :
    Within K (pure a : StateT σ (Except ε) α) :=
  within_same hrefl fun _ _ _ hrun => (pure_ok.mp hrun).2

theorem within_get (hrefl : ∀ s, K s s) : Within K (get : StateT σ (Except ε) σ) :=
  within_same hrefl fun _ _ _ hrun => (get_ok.mp hrun).2

theorem within_ite {c : Prop} [Decidable c] {x y : StateT σ (Except ε) α} (hx : Within K x)
    (hy : Within K y) : Within K (if c then x else y) := by
  split
  · exact hx
  · exact hy

/-! ## What the statements of a transaction refuse with -/

/-- Whatever the statement refuses with meets `P`. -/
def Refuses (P : ε → Prop) (x : StateT σ (Except ε) α) : Prop := ∀ s e, x s = .error e → P e

variable {P : ε → Prop}

theorem refuses_bind {x : StateT σ (Except ε) α} {f : α → StateT σ (Except ε) β}
    (hx : Refuses P x) (hf : ∀ a, Refuses P (f a)) : Refuses P (x >>= f) := by
  intro s e hrun
  change (x s >>= fun p => f p.1 p.2) = .error e at hrun
  cases hfirst : x s with
  | error e' =>
    rw [hfirst] at hrun
    obtain rfl : e' = e := Except.error.inj hrun
    exact hx s e' hfirst
  | ok p =>
    rw [hfirst] at hrun
    exact hf p.1 p.2 e hrun

/-- A statement that always goes through. -/
theorem refuses_never {x : StateT σ (Except ε) α} (hok : ∀ s, ∃ p, x s = .ok p) : Refuses P x := by
  intro s e hrun
  obtain ⟨p, hp⟩ := hok s
  rw [hp] at hrun
  cases hrun

end Prog.Stmt
