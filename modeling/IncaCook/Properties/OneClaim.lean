import IncaCook.Library.Latches
import IncaCook.Steps.Chat
import IncaCook.Steps.Interleaved

/-!
# One claim wins

The checks of `claim` are about the driver alone. Whether the delivery is still to be had is
asked by the update itself, which takes only a row that is `SEARCHING` and has no driver, and
no statement of the service takes a driver off a delivery again. So the first claim shuts the
door behind it, whatever else is going on.

Main results:

* `claim_end`: a claim that succeeds has written its driver into the row, and one that fails has
  changed no delivery, and raised `Conflict` if it got as far as the update;
* `one_claim_wins`: in every interleaving one claim succeeds at most, and its driver stays.
-/

namespace IncaCook

open Prog Deliveries

def Db.assignedDriver (s : Db) (d : DeliveryId) : Option UserId :=
  (s.deliveries.find? d).bind Delivery.driverId

/-- The delivery has a driver. -/
def Assigned (d : DeliveryId) (s : Db) : Prop := (s.assignedDriver d).isSome = true

/-- What a call may rely on: deliveries stay, and keep the driver they have. -/
def KeepsDrivers (_ : Nat) (s s' : Db) : Prop := s.deliveries.Carries SameDriver s'.deliveries

section

variable {d : DeliveryId} {u : UserId} {s s' s'' : Db}

theorem KeepsDrivers.refl (me : Nat) (s : Db) : KeepsDrivers me s s :=
  Table.Carries.refl (fun _ => ⟨rfl, .inr rfl⟩) _

theorem KeepsDrivers.trans {me : Nat} (h : KeepsDrivers me s s') (h' : KeepsDrivers me s' s'') :
    KeepsDrivers me s s'' := by
  refine Table.Carries.trans (fun a b c hab hbc => ⟨hbc.1.trans hab.1, ?_⟩) h h'
  rcases hab.2 with hnone | hsame
  · exact .inl hnone
  · rcases hbc.2 with hnone | hsame'
    · exact .inl (hsame ▸ hnone)
    · exact .inr (hsame'.trans hsame)

/-- **A driver stays.** -/
theorem KeepsDrivers.assignedDriver {me : Nat} (h : KeepsDrivers me s s') (hu : s.assignedDriver d = some u) :
    s'.assignedDriver d = some u := by
  obtain ⟨r, hr, hdriver⟩ := Option.bind_eq_some_iff.mp hu
  obtain ⟨r', hr', -, hnone | hsame⟩ := Table.Carries.find? h hr
  · rw [hnone] at hdriver
    cases hdriver
  · rw [Db.assignedDriver, hr', Option.bind_some, hsame, hdriver]

end

/-! ## How a claim ends -/

/-- The step in which a claim takes the delivery for its driver. -/
def Wins (d : DeliveryId) (t : StepRecord machine) : Prop :=
  ∃ u, t.site = .claim d u ∧ Db.assignedDriver t.pre d = none ∧ Db.assignedDriver t.post d = some u

/-- No step so far has touched the deliveries, or has been the update of the claim. -/
def Untouched (d : DeliveryId) (h : List (StepRecord machine)) : Prop :=
  ∀ t ∈ h, Db.deliveries t.post = Db.deliveries t.pre ∧ ∀ u, t.site ≠ .claim d u

/-- How a claim ends. -/
def ClaimEnd {α : Type} (d : DeliveryId) : Post machine α := fun h r _ => match r with
  | .ok _ => ∃ t ∈ h, Wins d t
  | .error e => (∀ t ∈ h, Db.deliveries t.post = Db.deliveries t.pre) ∧
    ((∃ t ∈ h, ∃ u, t.site = .claim d u) → e = .conflict "Delivery is no longer available")

/-- The contract of the checks of a claim. -/
def checking (d : DeliveryId) : Contract machine where
  rely _ _ := True
  guar _ site s s' := s'.deliveries = s.deliveries ∧ ∀ u, site ≠ .claim d u

section

variable {d : DeliveryId} {s s' : Db} {h : List (StepRecord machine)} {α : Type} {me : Nat} {cfg : Config}

theorem Untouched.end_error (hh : Untouched d h) (e : Err) :
    ClaimEnd d h (.error e : Except Err α) s :=
  ⟨fun t ht => (hh t ht).1, fun ⟨t, ht, u, hsite⟩ => absurd hsite ((hh t ht).2 u)⟩

theorem checking_query (h : List (StepRecord machine)) (s : Db) : (checking d).guar h .query s s :=
  ⟨rfl, nofun⟩

theorem requireKyc_checking {driver : Driver} : Free (checking d) (requireKyc cfg driver) := by
  refine free_ite free_pure (free_ite ?_ free_throw)
  refine free_await (fun _ _ => ⟨rfl, nofun⟩) fun _ _ s _ s' hrun => ⟨?_, nofun⟩
  obtain ⟨-, rfl⟩ := updateDriverProfile_ok.mp hrun
  rfl

/-- The checks leave the deliveries alone. -/
theorem sat_checking {p : Handler α} (hp : Free (checking d) p) (hh : Untouched d h) :
    Sat (watched KeepsDrivers me) (fun h _ _ => Untouched d h) p h s := by
  have hkeep := (hp h s).keep (I := fun h _ => Untouched d h) (fun _ _ _ _ hh => hh)
    (fun h site s s' hh hg => List.forall_mem_cons.mpr ⟨hg, hh⟩) hh
  exact hkeep.mono (fun _ _ _ => trivial) (fun _ _ _ _ _ => trivial) fun _ _ _ hpost => hpost.2

/-- The update of a claim takes the delivery, or changes nothing. -/
theorem claimUpdate_cases {u : UserId} {n : Nat} (hrun : claimUpdate d u s = .ok (n, s')) :
    n = 0 ∧ s'.deliveries = s.deliveries ∨
      n ≠ 0 ∧ s.assignedDriver d = none ∧ s'.assignedDriver d = some u := by
  simp only [claimUpdate, Stmt.bind_ok, Stmt.get_ok, Stmt.set_ok, Stmt.pure_ok] at hrun
  obtain ⟨_, s, ⟨rfl, rfl⟩, _, _, rfl, rfl, rfl⟩ := hrun
  by_cases hnone : s.deliveries.rows.countP (claimable d) = 0
  · refine .inl ⟨hnone, Table.ext_rows (Table.rewritten_of_none fun r hr => ?_)⟩
    exact Bool.eq_false_iff.mpr (List.countP_eq_zero.mp hnone r hr)
  · obtain ⟨row, hmem, hclaimable⟩ := List.countP_pos_iff.mp (Nat.pos_of_ne_zero hnone)
    have htaken := hclaimable
    simp only [claimable, Bool.and_eq_true, decide_eq_true_eq, Option.isNone_iff_eq_none] at hclaimable
    have hrow : s.deliveries.find? d = some row := hclaimable.1.1 ▸ Table.find?_of_mem hmem
    refine .inr ⟨hnone, ?_, ?_⟩
    · rw [Db.assignedDriver, hrow, Option.bind_some, hclaimable.2]
    · rw [Db.assignedDriver, Table.find?_updateMany, hrow, Option.map_some, if_pos htaken]
      rfl

/-- **How a claim ends**: it has taken the delivery, or has left all of them alone. -/
theorem claim_end {sub : String} :
    Sat (watched KeepsDrivers me) (ClaimEnd d) (claim cfg sub d) [] s := by
  have hnil : Untouched d [] := by
    intro t ht
    cases ht
  refine sat_bind ((sat_checking (assertDriver_of checking_query) hnil).post fun h r s hh => ?_)
  cases r with
  | error e => exact hh.end_error e
  | ok driver =>
    refine sat_throwIf_bind (fun _ => hh.end_error _) fun _ => ?_
    refine sat_bind ((sat_checking requireKyc_checking hh).post fun h r s hh => ?_)
    cases r with
    | error e => exact hh.end_error e
    | ok _ =>
      refine sat_await_bind fun s₁ _ _ => ⟨fun e herr => ?_, fun n s₂ hrun => ⟨trivial, ?_⟩⟩
      · -- the update only counts the rows it takes
        cases herr
      · rcases claimUpdate_cases hrun with ⟨rfl, hsame⟩ | ⟨htaken, hpre, hpost⟩
        · refine sat_throwIf_bind (fun _ => ⟨?_, fun _ => rfl⟩) fun hnot => absurd rfl hnot
          exact List.forall_mem_cons.mpr ⟨hsame, fun t ht => (hh t ht).1⟩
        · refine sat_throwIf_bind (fun hzero => absurd hzero htaken) fun _ => ?_
          -- the delivery is still there to be read back
          obtain ⟨row, hrow, -⟩ := Option.bind_eq_some_iff.mp hpost
          refine sat_read_bind fun s₃ hkeeps => ⟨trivial, ?_⟩
          obtain ⟨row', hrow', -⟩ := Table.Carries.find? hkeeps hrow
          rw [hrow']
          exact ⟨_, List.mem_cons_of_mem _ (List.mem_cons_self ..), driver.userId, rfl, hpre, hpost⟩

theorem handle_claim_end {call : Call} {sub : String} (hcall : call = .claim sub d) :
    Sat (watched KeepsDrivers me) (ClaimEnd d) (handle cfg me call) [] s := by
  subst hcall
  refine sat_bind (claim_end.post fun h r s hend => ?_)
  cases r with
  | error e => exact hend
  | ok delivery => exact hend

end

/-! ## Every interleaving -/

/-- The claims of one delivery, in a run. -/
structure OneWinner {cfg : Config} (d : DeliveryId) (s₀ : Db) (actions : List (Pool.Action (service cfg))) :
    Prop where
  /-- no two claims succeed -/
  unique : ∀ i j sub sub' r r', (poolRun s₀ actions).call? i = some (.claim sub d) →
    (poolRun s₀ actions).call? j = some (.claim sub' d) → (poolRun s₀ actions).result? i = some (.ok r) →
    (poolRun s₀ actions).result? j = some (.ok r') → i = j
  /-- a claim that fails changes no delivery, and is told of the conflict unless its driver was
  turned away before -/
  loses : ∀ j sub e, (poolRun s₀ actions).call? j = some (.claim sub d) →
    (poolRun s₀ actions).result? j = some (.error e) →
    (∀ t ∈ Pool.ownSteps j (poolRun s₀ actions).trace, Db.deliveries t.post = Db.deliveries t.pre) ∧
      ((∃ t ∈ Pool.ownSteps j (poolRun s₀ actions).trace, ∃ u, t.site = .claim d u) →
        e = .conflict "Delivery is no longer available")
  /-- the driver stays -/
  kept : ∀ before after u, actions = before ++ after →
    Db.assignedDriver (poolRun s₀ before).state d = some u →
    Db.assignedDriver (poolRun s₀ actions).state d = some u

section

variable {cfg : Config} {d : DeliveryId} {s₀ : Db} {actions : List (Pool.Action (service cfg))}

/-- What is known of every run. -/
theorem claims_sound (cfg : Config) (s₀ : Db) (actions : List (Pool.Action (service cfg))) :
    Pool.Sound (interleaved cfg KeepsDrivers)
      (fun _ call h r s => ∀ sub d, call = Call.claim sub d → ClaimEnd d h r s) (fun _ => True) s₀
      (poolRun s₀ actions) := by
  have hany : (poolRun s₀ actions).Steps fun _ _ => True := fun _ _ => trivial
  refine interleaved_sound_of trivial (fun me s _ => KeepsDrivers.refl me s)
    (fun _ _ _ _ hab hbc => hab.trans hbc) (fun _ _ _ _ _ _ _ hend => hend) ?_
    (fun _ _ _ _ _ _ _ _ hstep => ⟨trivial, fun _ _ => hstep.drivers⟩) ?_ actions hany
  · intro e s _
    cases e with
    | tick ms => exact ⟨trivial, fun me => KeepsDrivers.refl me s⟩
    | paymentSucceeds pi => exact ⟨trivial, fun me => KeepsDrivers.refl me s⟩
  · intro me call s _ _
    by_cases hclaims : ∃ sub d, call = .claim sub d
    · obtain ⟨sub, d, hcall⟩ := hclaims
      refine (handle_claim_end hcall).post fun h r s hend sub' d' hcall' => ?_
      obtain ⟨-, rfl⟩ := Call.claim.inj (hcall.symm.trans hcall')
      exact hend
    · have hnot : Sat endContract (fun h r s => ∀ sub d, call = Call.claim sub d → ClaimEnd d h r s)
          (handle cfg me call) [] s := sat_end fun _ _ _ sub d hcall => absurd ⟨sub, d, hcall⟩ hclaims
      exact hnot.mono (fun _ _ _ => trivial) (fun _ _ _ _ _ => trivial) fun _ _ _ hend => hend

theorem keeps_step : ∀ e ∈ (poolRun s₀ actions).trace, KeepsDrivers e.thread e.pre e.post := by
  intro e he
  obtain ⟨_, -, -, call, hstep⟩ := (claims_sound cfg s₀ actions).step e he
  exact hstep.drivers

theorem assigned_latch : Pool.Latch (Assigned d) (poolRun s₀ actions) := by
  refine ⟨fun e s => ?_, fun e he hassigned => ?_⟩
  · cases e with
    | tick ms => exact Iff.rfl
    | paymentSucceeds pi => exact Iff.rfl
  · obtain ⟨u, hu⟩ := Option.isSome_iff_exists.mp hassigned
    exact Option.isSome_iff_exists.mpr ⟨u, (keeps_step e he).assignedDriver hu⟩

/-- A claim that succeeded is the one whose step shut the door. -/
theorem winning_step {j : Nat} {sub : String} {r : Reply}
    (hj : (poolRun s₀ actions).call? j = some (.claim sub d))
    (hr : (poolRun s₀ actions).result? j = some (.ok r)) :
    ∃ e ∈ (poolRun s₀ actions).trace, e.thread = j ∧ Pool.Shuts (Assigned d) e := by
  obtain ⟨call, hcall, hend⟩ := (claims_sound cfg s₀ actions).result hr
  obtain ⟨t, ht, u, -, hpre, hpost⟩ := hend sub d (Option.some.inj (hcall.symm.trans hj))
  obtain ⟨e, he, rfl⟩ := List.mem_map.mp ht
  obtain ⟨hmem, hthread⟩ := List.mem_filter.mp he
  refine ⟨e, hmem, of_decide_eq_true hthread, ?_, ?_⟩
  · rw [Assigned, hpre]
    exact Bool.false_ne_true
  · rw [Assigned, hpost]
    rfl

end

/-- **One claim wins.** Whatever calls interleave, at most one claim of a delivery succeeds, the
others change nothing, and nobody takes the delivery from its driver. -/
theorem one_claim_wins (cfg : Config) (d : DeliveryId) (s₀ : Db)
    (actions : List (Pool.Action (service cfg))) : OneWinner d s₀ actions where
  unique i j sub sub' r r' hi hj hri hrj := by
    obtain ⟨e, he, rfl, hshuts⟩ := winning_step hi hri
    obtain ⟨e', he', rfl, hshuts'⟩ := winning_step hj hrj
    rw [assigned_latch.unique he he' hshuts hshuts']
  loses j sub e hj hr := by
    obtain ⟨call, hcall, hend⟩ := (claims_sound cfg s₀ actions).result hr
    exact hend sub d (Option.some.inj (hcall.symm.trans hj))
  kept before after u hsplit hu := by
    subst hsplit
    refine Pool.leads (R := fun s s' : Db => s.assignedDriver d = some u → s'.assignedDriver d = some u)
      (fun _ hs => hs) (fun _ _ _ hab hbc ha => hbc (hab ha)) (fun e s hs => ?_) before after ?_ hu
    · cases e with
      | tick ms => exact hs
      | paymentSucceeds pi => exact hs
    · exact fun e he hpre => (keeps_step e he).assignedDriver hpre

end IncaCook
