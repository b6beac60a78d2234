import IncaCook.Properties.RefundsAndEarnings

/-!
# Disputed earnings

The release sweep looks at the status of the order, and a dispute is a row of its
own: filing one leaves a delivered order DELIVERED until it is refunded. So the
sweep does not see that a dispute is undecided.

Main results:

* `Step.release_cases`: only the sweep makes a pending entry available, and which;
* `disputed_earnings_frozen_iff`: disputed earnings stay frozen in exactly the runs
  whose sweeps find no due earning of a delivered order under dispute;
* `disputed_earnings_released`: earnings released while the admin reviews the dispute.
-/

namespace IncaCook

open Prog Orders Deliveries Wallets

/-- Neither refunded nor rejected nor resolved yet. -/
def OrderDispute.undecided (d : OrderDispute) : Bool := d.status = .open || d.status = .adminReview

/-- The order has an undecided dispute. -/
def Db.underDispute (s : Db) (o : OrderId) : Bool :=
  s.disputes.rows.any fun d => d.orderId = o && d.undecided

/-- An `ORDER_EARNING` or `DELIVERY_EARNING`. -/
def WalletEntry.isEarning (e : WalletEntry) : Bool :=
  e.type = .orderEarning || e.type = .deliveryEarning

/-- From one state to the other, no pending earning of an order under dispute
becomes available. -/
def Frozen (s s' : Db) : Prop :=
  ∀ id e e' o, s.walletEntries.find? id = some e → s'.walletEntries.find? id = some e' →
    e.isEarning = true → e.orderId = some o → s.underDispute o = true →
      e.status = .pending → e'.status ≠ .available

/-- A due earning belongs to a delivered or completed order under dispute. -/
def Db.disputedDue (s : Db) : Bool :=
  s.walletEntries.rows.any fun e => due s.now e && e.orderId.any fun o =>
    s.underDispute o && (s.orders.find? o).any fun row => row.status ∈ [.delivered, .completed]

/-- The entries that a sweep starting in `s` releases. -/
def releasable (s : Db) : List WalletEntryId :=
  dueIds (s.walletEntries.rows.filter (due s.now))
    (s.orders.rows.filter fun o =>
      o.id ∈ (s.walletEntries.rows.filter (due s.now)).filterMap WalletEntry.orderId)
    [.delivered, .completed]

/-- `s` after the sweep's release. -/
def released (s : Db) : Db :=
  { s with
    walletEntries := s.walletEntries.updateMany
      (fun e => e.id ∈ releasable s && e.status = .pending)
      fun e => { e with status := .available, releasedAt := some s.now } }

variable {cfg : Config} {me : Nat} {call : Call} {h : List (StepRecord machine)} {site : Site}
  {s s' : Db} {w : Nat → Answer}

theorem disputedDue_iff : s.disputedDue = true ↔
    ∃ e ∈ s.walletEntries.rows, due s.now e = true ∧ ∃ o row, e.orderId = some o ∧
      s.underDispute o = true ∧ s.orders.find? o = some row ∧
        row.status ∈ [OrderStatus.delivered, .completed] := by
  unfold Db.disputedDue
  simp only [List.any_eq_true, Bool.and_eq_true, Option.any_eq_true, decide_eq_true_eq]
  constructor
  · rintro ⟨e, he, hdue, o, hof, hdisputed, row, hrow, hstatus⟩
    exact ⟨e, he, hdue, o, row, hof, hdisputed, hrow, hstatus⟩
  · rintro ⟨e, he, hdue, o, row, hof, hdisputed, hrow, hstatus⟩
    exact ⟨e, he, hdue, o, hof, hdisputed, row, hrow, hstatus⟩

/-! ## What releases an entry -/

/-- An entry that is there stays, and becomes available only by staying so. -/
def KeepsEntries (t t' : Table WalletEntry) : Prop :=
  ∀ id e, t.find? id = some e → ∃ e', t'.find? id = some e' ∧ (e' = e ∨ e'.status ≠ .available)

theorem KeepsEntries.refl (t : Table WalletEntry) : KeepsEntries t t :=
  fun _ e he => ⟨e, he, .inl rfl⟩

theorem keepsEntries_insertSkippingDuplicate (t : Table WalletEntry) (e₀ : WalletEntry) :
    KeepsEntries t (insertSkippingDuplicate t e₀) := by
  intro id e he
  unfold insertSkippingDuplicate
  split
  · exact ⟨e, he, .inl rfl⟩
  · cases hnew : t.insert? e₀ with
    | none => exact ⟨e, he, .inl rfl⟩
    | some t' => exact ⟨e, Table.find?_insert_of_some hnew he, .inl rfl⟩

theorem keepsEntries_foldl (rows : List WalletEntry) (t : Table WalletEntry) :
    KeepsEntries t (rows.foldl insertSkippingDuplicate t) := by
  induction rows generalizing t with
  | nil => exact .refl t
  | cons e₀ rest ih =>
    intro id e he
    obtain ⟨e₁, he₁, hmove₁⟩ := keepsEntries_insertSkippingDuplicate t e₀ id e he
    obtain ⟨e₂, he₂, hmove₂⟩ := ih _ id e₁ he₁
    refine ⟨e₂, he₂, ?_⟩
    rcases hmove₂ with rfl | hmove₂
    · exact hmove₁
    · exact .inr hmove₂

/-- Entries that an `updateMany` writes do not become available. -/
theorem keepsEntries_updateMany {t : Table WalletEntry} {p : WalletEntry → Bool}
    {f : WalletEntry → WalletEntry} {hf : ∀ e, Keyed.key (f e) = Keyed.key e}
    (hstatus : ∀ e, (f e).status ≠ .available) : KeepsEntries t (t.updateMany p f hf) := by
  intro id e he
  rw [Table.find?_updateMany, he, Option.map_some]
  by_cases hp : p e = true
  · rw [if_pos hp]
    exact ⟨f e, rfl, .inr (hstatus e)⟩
  · rw [if_neg hp]
    exact ⟨e, rfl, .inl rfl⟩

theorem keepsEntries_cancelled {t : Table WalletEntry} {p : WalletEntry → Bool} :
    KeepsEntries t (t.updateMany p fun e => { e with status := .cancelled }) := by
  apply keepsEntries_updateMany
  intro e h
  cases h

/-- **Only the sweep makes an entry available**: every other statement of every
call keeps the entries that are there. -/
theorem Step.release_cases (hstep : Step cfg Eq me call h site s s') :
    (call = .releaseDuePendingEntries ∧ site = .releaseDue ∧ s' = released s) ∨
      KeepsEntries s.walletEntries s'.walletEntries := by
  cases hstep with
  | aside haside => exact .inr (haside.walletEntries ▸ .refl _)
  | creditCompleted o₁ hR hsaw hstatus => exact .inr (keepsEntries_foldl _ _)
  | compensateDriver o₁ driver amount => exact .inr (keepsEntries_insertSkippingDuplicate _ _)
  | creditSeller o₁ seller amount => exact .inr (keepsEntries_insertSkippingDuplicate _ _)
  | driverDebt o₁ driver amount => exact .inr (keepsEntries_insertSkippingDuplicate _ _)
  | reverseDriverEarning o₁ => exact .inr keepsEntries_cancelled
  | reversePending o₁ => exact .inr keepsEntries_cancelled
  | reverseDue ids => exact .inr keepsEntries_cancelled
  | releaseDue hR₀ hR₁ hcall =>
    subst hR₀ hR₁
    exact .inl ⟨hcall, rfl, rfl⟩
  | settle user entries debit htransfer hdebit hnew =>
    right
    intro id e he
    -- the entries are paid out first, then the withdrawal is booked
    have hpaid : KeepsEntries s.walletEntries (s.walletEntries.updateMany
        (fun e => e.id ∈ entries.map WalletEntry.id)
        fun e => { e with status := .paidOut, withdrawalId := some (generateUlid me 11) }) := by
      apply keepsEntries_updateMany
      intro e h
      cases h
    obtain ⟨e', he', hmove⟩ := hpaid id e he
    exact ⟨e', Table.find?_insert_of_some hnew he', hmove⟩
  | _ => exact .inr (.refl _)

/-- What is released was due, and its order delivered or completed. -/
theorem mem_releasable {e : WalletEntry} (he : e ∈ s.walletEntries.rows)
    (hid : e.id ∈ releasable s) : due s.now e = true ∧ ∃ o row, e.orderId = some o ∧
      s.orders.find? o = some row ∧ row.status ∈ [OrderStatus.delivered, .completed] := by
  have hdue := (mem_dueIds_iff _ _ _ he).mp hid
  simp only [dueWith, Bool.and_eq_true, Option.any_eq_true, Option.bind_eq_some_iff,
    decide_eq_true_eq] at hdue
  obtain ⟨hdue, row, ⟨o, hof, hrow⟩, hstatus⟩ := hdue
  exact ⟨hdue, o, row, hof, hrow, hstatus⟩

/-- A due entry of a delivered or completed order is released. -/
theorem releasable_of_due {e : WalletEntry} {o : OrderId} {row : Order}
    (he : e ∈ s.walletEntries.rows) (hdue : due s.now e = true) (hof : e.orderId = some o)
    (hrow : s.orders.find? o = some row) (hstatus : row.status ∈ [OrderStatus.delivered, .completed]) :
    e.id ∈ releasable s := by
  apply (mem_dueIds_iff _ _ _ he).mpr
  simp only [dueWith, hdue, hof, Option.bind_some, hrow, Option.any_some, Bool.true_and]
  exact decide_eq_true hstatus

/-! ## The sweep -/

/-- After its reads, the sweep releases first, and does not release again. -/
theorem sweep_writes (reversible : List WalletEntryId) :
    let out := (do
      runIf (¬(releasable s).isEmpty) (await .releaseDue fun _ => releaseEntries (releasable s) s.now)
      runIf (¬reversible.isEmpty) (await .reverseDue fun _ => reverseEntries reversible)
      return (releasable s).length : Handler Nat).exec w s
    (∀ t ∈ out.steps, t.site = .releaseDue → t.pre = s) ∧
      (releasable s ≠ [] → ⟨.releaseDue, s, released s⟩ ∈ out.steps) := by
  -- what follows the release
  have hreverse : ∀ (w : Nat → Answer) (s₁ : Db) (n : Nat), ∀ t ∈ ((do
      runIf (¬reversible.isEmpty) (await .reverseDue fun _ => reverseEntries reversible)
      return n : Handler Nat).exec w s₁).steps, t.site = .reverseDue := by
    intro w s₁ n t ht
    unfold runIf at ht
    by_cases hsome : reversible.isEmpty = true
    · rw [if_neg (by simpa using hsome)] at ht
      cases ht
    · rw [if_pos hsome] at ht
      rw [List.mem_singleton.mp ht]
  unfold runIf
  by_cases hnone : (releasable s).isEmpty = true
  · rw [if_neg (not_not.mpr hnone)]
    refine ⟨fun t ht hsite => ?_, fun hne => absurd (List.isEmpty_iff.mp hnone) hne⟩
    rw [hreverse w s _ t ht] at hsite
    cases hsite
  · rw [if_pos hnone]
    have hrun : (await .releaseDue fun _ => releaseEntries (releasable s) s.now : Handler Unit).exec
        w s = ⟨.ok (), released s, [⟨.releaseDue, s, released s⟩]⟩ := exec_await_ok rfl
    rw [exec_bind_of_ok hrun]
    refine ⟨fun t ht hsite => ?_, fun _ => List.mem_cons_self ..⟩
    rcases List.mem_cons.mp ht with rfl | ht
    · rfl
    · rw [hreverse _ _ _ t ht] at hsite
      cases hsite

/-- The sweep releases in the state in which it has read, if there is anything to
release. -/
theorem sweep_exec :
    let out := (releaseDuePendingEntries).exec w s
    (∀ t ∈ out.steps, t.site = .releaseDue → t.pre = s) ∧
      (releasable s ≠ [] → ⟨.releaseDue, s, released s⟩ ∈ out.steps) := by
  have hread : ∀ t : StepRecord machine, t = ⟨.query, s, s⟩ → t.site = .releaseDue → t.pre = s := by
    rintro t rfl
    exact nofun
  unfold releaseDuePendingEntries
  rw [exec_read_bind]
  dsimp only
  by_cases hempty : (s.walletEntries.rows.filter (due s.now)).isEmpty = true
  · -- nothing is due
    rw [if_pos hempty]
    refine ⟨fun t ht => hread t (List.mem_singleton.mp ht), fun hne => absurd ?_ hne⟩
    unfold releasable
    rw [List.isEmpty_iff.mp hempty]
    rfl
  · rw [if_neg hempty, exec_read_bind]
    obtain ⟨hpre, hrelease⟩ := @sweep_writes s (fun n => w (n + 1 + 1))
      (dueIds (s.walletEntries.rows.filter (due s.now)) (s.orders.rows.filter fun o =>
        o.id ∈ (s.walletEntries.rows.filter (due s.now)).filterMap WalletEntry.orderId)
        [.cancelled, .refunded])
    refine ⟨fun t ht => ?_, fun hne =>
      List.mem_cons_of_mem _ (List.mem_cons_of_mem _ (hrelease hne))⟩
    rcases List.mem_cons.mp ht with ht | ht
    · exact hread t ht
    · rcases List.mem_cons.mp ht with ht | ht
      · exact hread t ht
      · exact hpre t ht

/-! ## The result -/

/-- A statement of a call that finds no disputed earning due freezes them. -/
theorem Step.frozen (hstep : Step cfg Eq me call h site s s')
    (hsweep : call = .releaseDuePendingEntries → site = .releaseDue → s.disputedDue = false) :
    Frozen s s' := by
  intro id e e' o he he' hearning hof hdisputed hpending havailable
  rcases hstep.release_cases with ⟨hcall, hsite, rfl⟩ | hkeeps
  · -- the release writes only entries that it may
    have hkey : e.id = id := Table.key_of_find? he
    unfold released at he'
    rw [Table.find?_updateMany, he, Option.map_some, Option.some.injEq] at he'
    by_cases hid : e.id ∈ releasable s
    · obtain ⟨hdue, o', row, hof', hrow, hstatus⟩ := mem_releasable (Table.mem_of_find? he) hid
      obtain rfl : o' = o := Option.some.inj (hof'.symm.trans hof)
      have hfound : s.disputedDue = true := disputedDue_iff.mpr
        ⟨e, Table.mem_of_find? he, hdue, o', row, hof, hdisputed, hrow, hstatus⟩
      rw [hsweep hcall hsite] at hfound
      cases hfound
    · rw [if_neg (by simp [hid])] at he'
      rw [← he', hpending] at havailable
      cases havailable
  · obtain ⟨e₁, he₁, hmove⟩ := hkeeps id e he
    obtain rfl : e' = e₁ := Option.some.inj (he'.symm.trans he₁)
    rcases hmove with rfl | hmove
    · rw [hpending] at havailable
      cases havailable
    · exact hmove havailable

/-- A sweep that finds a disputed earning due releases it. -/
theorem not_frozen_released (hfound : s.disputedDue = true) :
    releasable s ≠ [] ∧ ¬Frozen s (released s) := by
  obtain ⟨e, he, hdue, o, row, hof, hdisputed, hrow, hstatus⟩ := disputedDue_iff.mp hfound
  have hid : e.id ∈ releasable s := releasable_of_due he hdue hof hrow hstatus
  have hfind : s.walletEntries.find? e.id = some e := Table.find?_of_mem he
  simp only [due, Bool.and_eq_true, decide_eq_true_eq] at hdue
  obtain ⟨⟨hpending, -⟩, hearning⟩ := hdue
  have hfind' : (released s).walletEntries.find? e.id =
      some { e with status := .available, releasedAt := some s.now } := by
    unfold released
    rw [Table.find?_updateMany, hfind, Option.map_some, if_pos (by simp [hid, hpending])]
  exact ⟨List.ne_nil_of_mem hid, fun hfrozen =>
    hfrozen e.id e _ o hfind hfind' hearning hof hdisputed hpending rfl⟩

/-- A run with such a sweep does not freeze them. -/
theorem sweep_not_frozen {s₀ : Db} {inputs : List (Input (service cfg))}
    {c : CallRecord (service cfg)} (hc : c ∈ (serialRun s₀ inputs).calls)
    (hcall : c.call = .releaseDuePendingEntries) (hfound : c.pre.disputedDue = true) :
    ¬∀ t ∈ c.outcome.steps, Frozen t.pre t.post := by
  obtain ⟨hsome, hbreaks⟩ := not_frozen_released hfound
  obtain ⟨n, w, -, hout⟩ := serialRun_record hc
  have hrelease := (@sweep_exec c.pre w).2 hsome
  have hsteps : c.outcome.steps = ((releaseDuePendingEntries).exec w c.pre).steps := by
    rw [hout, hcall]
    exact exec_bind_pure.2
  exact fun hfrozen => hbreaks (hfrozen _ (hsteps ▸ hrelease))

/-- **Disputed earnings are frozen exactly when no sweep finds one due.** In a run of
any calls and events, from any state, one call after the other: no statement makes
a pending earning of an order under dispute available, if and only if every release
sweep of the run starts in a state where no due earning belongs to a delivered or
completed order under dispute. -/
theorem disputed_earnings_frozen_iff (cfg : Config) (s₀ : Db) (inputs : List (Input (service cfg))) :
    (∀ c ∈ (serialRun s₀ inputs).calls, ∀ t ∈ c.outcome.steps, Frozen t.pre t.post) ↔
      ∀ c ∈ (serialRun s₀ inputs).calls, c.call = .releaseDuePendingEntries →
        c.pre.disputedDue = false := by
  constructor
  · intro hfrozen c hc hcall
    by_contra hfound
    rw [Bool.not_eq_false] at hfound
    exact sweep_not_frozen hc hcall hfound (hfrozen c hc)
  · intro hquiet c hc
    obtain ⟨n, w, hadm, hout⟩ := serialRun_record hc
    have hsat : Sat (stepContract cfg Eq n c.call) anyPost (handle cfg n c.call) [] c.pre :=
      handle_sat (fun _ _ _ hab hbc => hab.trans hbc) c.call hadm
    have hguar := (hsat.exec (fun _ => rfl) w).1
    -- every step meets the step relation, and the sweep's release starts from `c.pre`
    have hpre : c.call = .releaseDuePendingEntries → ∀ t ∈ c.outcome.steps, t.site = .releaseDue →
        t.pre = c.pre := by
      intro hcall t ht
      have hsteps : c.outcome.steps = ((releaseDuePendingEntries).exec w c.pre).steps := by
        rw [hout, hcall]
        exact exec_bind_pure.2
      exact (@sweep_exec c.pre w).1 t (hsteps ▸ ht)
    intro t ht
    obtain ⟨h, hstep⟩ := hguar.mem t (hout ▸ ht)
    refine hstep.frozen fun hcall hsite => ?_
    rw [hpre hcall t ht hsite]
    exact hquiet c hc hcall

/-- The order of the small marketplace is delivered; the buyer reports spoiled food,
and the report waits for the admin. A day passes. -/
def spoiledOrder : List (Input (service smallTownConfig)) :=
  orderPickedUp ++ [smallTownCall (.confirmDelivery "driver" ⟨3, 2⟩ ⟨"token", none, none⟩),
    smallTownCall (.createDispute "buyer" ⟨0, 0⟩ ⟨.spoiledFood, none, none, none⟩),
    .event (.tick 86400000)]

/-- **Earnings released under dispute.** While the admin reviews the dispute, the
sweep makes the seller's and the driver's earnings available. -/
theorem disputed_earnings_released :
    (serialRun smallTown spoiledOrder).state.underDispute ⟨0, 0⟩ = true ∧
      ¬∀ c ∈ (serialRun smallTown (spoiledOrder ++ [smallTownCall .releaseDuePendingEntries])).calls,
        ∀ t ∈ c.outcome.steps, Frozen t.pre t.post := by
  refine ⟨by decide +kernel, fun hfrozen => ?_⟩
  have hsweep := serialRun_concat_call (S := service smallTownConfig) (s := smallTown)
    (w := fun _ => ⟨true, "token", ""⟩) (c := .releaseDuePendingEntries)
    (b := spoiledOrder) rfl
  exact sweep_not_frozen hsweep rfl (by decide +kernel) (hfrozen _ hsweep)

end IncaCook
