import IncaCook.Library.Crash
import IncaCook.Library.Runs
import IncaCook.Steps.Outlines

/-!
# The release sweep

What `releaseDuePendingEntries` makes of a ledger, alone and in any interleaving
with other sweeps. A sweep reads the due entries, then their orders, and then
writes in two guarded statements, so several sweeps share the work: the invariant
`Swept` says which entries have been moved so far, each to where one sweep alone
would have moved it.

Main results:

* `releaseDuePendingEntries_sweeps`: the contract of one sweep;
* `release_sweep_law`: the exact effect of one sweep, its idempotence, and the
  confluence of any number of them.
-/

namespace IncaCook

open Prog Wallets

/-! ## The effect of a sweep -/

/-- The sweep makes the entry available. -/
def releases (s : Db) (e : WalletEntry) : Bool := dueWith s.now s.orders [.delivered, .completed] e

/-- The sweep reverses the entry. -/
def reverses (s : Db) (e : WalletEntry) : Bool := dueWith s.now s.orders [.cancelled, .refunded] e

/-- The entry after a sweep that starts in `s`. -/
def sweptEntry (s : Db) (e : WalletEntry) : WalletEntry :=
  if releases s e then { e with status := .available, releasedAt := some s.now }
  else if reverses s e then { e with status := .cancelled }
  else e

variable {s₀ s s' : Db} {e : WalletEntry} {done : WalletEntryId → Bool}

theorem sweptEntry_id : (sweptEntry s₀ e).id = e.id := by
  unfold sweptEntry
  split
  · rfl
  · split
    · rfl
    · rfl

theorem pending_of_dueWith {now : Time} {orders : Table Order} {statuses : List OrderStatus}
    (h : dueWith now orders statuses e = true) : e.status = .pending := by
  simp only [dueWith, due, Bool.and_eq_true, decide_eq_true_eq] at h
  exact h.1.1.1

/-- No entry is released and reversed. -/
theorem not_reverses_of_releases (h : releases s e = true) : reverses s e = false := by
  simp only [releases, reverses, dueWith, Bool.and_eq_true, Option.any_eq_true,
    decide_eq_true_eq] at h ⊢
  obtain ⟨-, row, hrow, hstatus⟩ := h
  rw [hrow, Option.any_some, Bool.and_eq_false_iff]
  right
  rcases List.mem_pair.mp hstatus with h | h
  · simp [h]
  · simp [h]

/-- What a sweep has moved, no sweep moves again. -/
theorem not_dueWith_sweptEntry (s : Db) (e : WalletEntry) :
    releases s (sweptEntry s e) = false ∧ reverses s (sweptEntry s e) = false := by
  have hmoved : ∀ (e' : WalletEntry), e'.status ≠ .pending →
      releases s e' = false ∧ reverses s e' = false := by
    intro e' hstatus
    constructor
    · exact Bool.eq_false_iff.mpr fun h => hstatus (pending_of_dueWith h)
    · exact Bool.eq_false_iff.mpr fun h => hstatus (pending_of_dueWith h)
  unfold sweptEntry
  split
  · exact hmoved _ fun h => by cases h
  · split
    · exact hmoved _ fun h => by cases h
    · rename_i hnot hnot'
      exact ⟨Bool.eq_false_iff.mpr hnot, Bool.eq_false_iff.mpr hnot'⟩

/-! ## Sweeps under way -/

/-- The clock and the statuses of the orders are those of `s₀`, and of its entries
those in `done` have been swept. -/
structure Swept (s₀ : Db) (done : WalletEntryId → Bool) (s : Db) : Prop where
  now : s.now = s₀.now
  orders : ∀ o, s.orderStatus o = s₀.orderStatus o
  rows : s.walletEntries.rows =
    s₀.walletEntries.rows.map fun e => if done e.id then sweptEntry s₀ e else e

theorem Swept.none (s : Db) : Swept s (fun _ => false) s where
  now := rfl
  orders _ := rfl
  rows := by simp

/-- The work of the sweeps only goes on. -/
def SweepMove (s₀ s s' : Db) : Prop :=
  ∀ done, Swept s₀ done s → ∃ done', (∀ id, done id = true → done' id = true) ∧ Swept s₀ done' s'

theorem SweepMove.refl (s₀ s : Db) : SweepMove s₀ s s := fun done hs => ⟨done, fun _ h => h, hs⟩

theorem SweepMove.trans {a b c : Db} (hab : SweepMove s₀ a b) (hbc : SweepMove s₀ b c) :
    SweepMove s₀ a c := by
  intro done hs
  obtain ⟨done₁, hle₁, hs₁⟩ := hab done hs
  obtain ⟨done₂, hle₂, hs₂⟩ := hbc done₁ hs₁
  exact ⟨done₂, fun id h => hle₂ id (hle₁ id h), hs₂⟩

/-- One guarded write of a sweep: entries that are to be moved are moved, unless
another sweep has moved them. -/
theorem Swept.write (hs : Swept s₀ done s) {ids : List WalletEntryId} {f : WalletEntry → WalletEntry}
    (hf : ∀ e, Keyed.key (f e) = Keyed.key e)
    (hids : ∀ e ∈ s₀.walletEntries.rows, e.id ∈ ids →
      e.status = .pending ∧ sweptEntry s₀ e = f e ∧ (f e).status ≠ .pending) :
    Swept s₀ (fun id => done id || id ∈ ids) { s with
      walletEntries := s.walletEntries.updateMany (fun e => e.id ∈ ids && e.status = .pending) f hf } where
  now := hs.now
  orders := hs.orders
  rows := by
    show s.walletEntries.rows.map _ = _
    rw [hs.rows, List.map_map]
    apply List.map_congr_left
    intro e he
    simp only [Function.comp_apply]
    cases hdone : done e.id with
    | true =>
      -- swept already, so the guard does not let it through
      simp only [if_true, sweptEntry_id, Bool.true_or]
      by_cases hid : e.id ∈ ids
      · obtain ⟨-, hmove, hmoved⟩ := hids e he hid
        rw [if_neg]
        simp [hmove, hmoved]
      · rw [if_neg (by simp [hid])]
    | false =>
      simp only [Bool.false_eq_true, if_false, Bool.false_or]
      by_cases hid : e.id ∈ ids
      · obtain ⟨hpending, hmove, -⟩ := hids e he hid
        rw [if_pos (by simp [hid, hpending]), if_pos (by simp [hid]), hmove]
      · rw [if_neg (by simp [hid]), if_neg (by simp [hid])]

/-- Whether an entry is due depends on the statuses of the orders only. -/
theorem dueWith_congr {now : Time} {orders orders' : Table Order} {statuses : List OrderStatus}
    (h : ∀ o, (orders.find? o).map Order.status = (orders'.find? o).map Order.status)
    (e : WalletEntry) : dueWith now orders statuses e = dueWith now orders' statuses e := by
  unfold dueWith
  cases e.orderId with
  | none => rfl
  | some o =>
    have hany : ∀ t : Table Order, (t.find? o).any (fun row => row.status ∈ statuses) =
        ((t.find? o).map Order.status).any (fun status => status ∈ statuses) := by
      intro t
      cases t.find? o with
      | none => rfl
      | some row => rfl
    rw [Option.bind_some, Option.bind_some, hany, hany, h o]

/-- What a sweep finds due that reads the entries now and their orders in a moment,
of the entries that are left. -/
theorem Swept.mem_dueIds (hs : Swept s₀ done s) {orders : Table Order}
    (horders : ∀ o, (orders.find? o).map Order.status = s₀.orderStatus o)
    (statuses : List OrderStatus)
    (hswept : ∀ e, dueWith s₀.now s₀.orders statuses (sweptEntry s₀ e) = false)
    (he : e ∈ s₀.walletEntries.rows) :
    e.id ∈ dueIds (s.walletEntries.rows.filter (due s.now))
        (orders.rows.filter fun o =>
          o.id ∈ (s.walletEntries.rows.filter (due s.now)).filterMap WalletEntry.orderId) statuses ↔
      done e.id = false ∧ dueWith s₀.now s₀.orders statuses e = true := by
  have hrow : (if done e.id then sweptEntry s₀ e else e) ∈ s.walletEntries.rows := by
    rw [hs.rows]
    exact List.mem_map_of_mem he
  have hid : (if done e.id then sweptEntry s₀ e else e).id = e.id := by
    split
    · exact sweptEntry_id
    · rfl
  have hfound := mem_dueIds_iff s.now orders statuses hrow
  rw [hid, hs.now, dueWith_congr horders] at hfound
  rw [hs.now, hfound]
  cases hdone : done e.id with
  | true => simp [hswept e]
  | false => simp

/-! ## One sweep among others -/

/-- A sweep among others: each goes on with the work. -/
def sweepContract (s₀ : Db) : Contract machine where
  rely := SweepMove s₀
  guar _ _ := SweepMove s₀

/-- All the work is done. -/
def AllSwept (s₀ s : Db) : Prop :=
  ∃ done, Swept s₀ done s ∧
    ∀ e ∈ s₀.walletEntries.rows, done e.id = true ∨ sweptEntry s₀ e = e

theorem AllSwept.rows (h : AllSwept s₀ s) :
    s.walletEntries.rows = s₀.walletEntries.rows.map (sweptEntry s₀) := by
  obtain ⟨done, hs, hall⟩ := h
  rw [hs.rows]
  apply List.map_congr_left
  intro e he
  rcases hall e he with hdone | hstays
  · rw [if_pos hdone]
  · rw [hstays, ite_self]

theorem AllSwept.move (h : AllSwept s₀ s) (hmove : SweepMove s₀ s s') : AllSwept s₀ s' := by
  obtain ⟨done, hs, hall⟩ := h
  obtain ⟨done', hle, hs'⟩ := hmove done hs
  exact ⟨done', hs', fun e he => (hall e he).imp_left (hle e.id)⟩

variable {h : List (StepRecord machine)} {ids : List WalletEntryId}

/-- A guarded write has moved what it was to move, if there was anything. -/
def SweepWritten (s₀ : Db) (done : WalletEntryId → Bool) (ids : List WalletEntryId) : Post machine Unit :=
  fun _ r s => r = .ok () ∧ ∃ done', Swept s₀ done' s ∧
    (∀ id, done id = true → done' id = true) ∧ ∀ id ∈ ids, done' id = true

theorem sat_sweepWrite (hs : Swept s₀ done s) (site : Site) (f : WalletEntry → WalletEntry)
    (hf : ∀ e, (f e).id = e.id)
    (hids : ∀ e ∈ s₀.walletEntries.rows, e.id ∈ ids →
      e.status = .pending ∧ sweptEntry s₀ e = f e ∧ (f e).status ≠ .pending) :
    Sat (sweepContract s₀) (SweepWritten s₀ done ids) (runIf (¬ids.isEmpty) (await site fun _ =>
      updateWalletEntries (fun e => e.id ∈ ids && e.status = .pending) f hf)) h s := by
  unfold runIf
  split
  · refine sat_await_ok fun s₁ hR i => ⟨⟨_, rfl⟩, fun u s₂ hrun => ?_⟩
    rw [updateWalletEntries_ok.mp hrun]
    obtain ⟨done₁, hle, hs₁⟩ := hR done hs
    refine ⟨fun done' hs' => ⟨_, fun id h => ?_, hs'.write hf hids⟩, rfl, _,
      hs₁.write hf hids, fun id h => ?_, fun id hid => ?_⟩
    · simp [h]
    · simp [hle id h]
    · simp [hid]
  · rename_i hempty
    have hnil : ids = [] := List.isEmpty_iff.mp (not_not.mp hempty)
    refine ⟨rfl, done, hs, fun _ h => h, fun id hid => ?_⟩
    rw [hnil] at hid
    cases hid

theorem sat_release (hs : Swept s₀ done s) {now : Time} (hnow : now = s₀.now)
    (hids : ∀ e ∈ s₀.walletEntries.rows, e.id ∈ ids → releases s₀ e = true) :
    Sat (sweepContract s₀) (SweepWritten s₀ done ids)
      (runIf (¬ids.isEmpty) (await .releaseDue fun _ => releaseEntries ids now)) h s := by
  refine sat_sweepWrite hs .releaseDue
    (fun e => { e with status := .available, releasedAt := some now }) (fun _ => rfl)
    fun e he hid => ?_
  have hrel := hids e he hid
  refine ⟨pending_of_dueWith hrel, ?_, fun h => by cases h⟩
  rw [sweptEntry, if_pos hrel, hnow]

theorem sat_reverse (hs : Swept s₀ done s)
    (hids : ∀ e ∈ s₀.walletEntries.rows, e.id ∈ ids → reverses s₀ e = true) :
    Sat (sweepContract s₀) (SweepWritten s₀ done ids)
      (runIf (¬ids.isEmpty) (await .reverseDue fun _ => reverseEntries ids)) h s := by
  refine sat_sweepWrite hs .reverseDue (fun e => { e with status := .cancelled }) cancelled_id
    fun e he hid => ?_
  have hrev := hids e he hid
  have hnot : releases s₀ e = false := Bool.eq_false_iff.mpr fun hrel => by
    rw [not_reverses_of_releases hrel] at hrev
    cases hrev
  refine ⟨pending_of_dueWith hrev, ?_, fun h => by cases h⟩
  rw [sweptEntry, hnot, if_neg Bool.false_ne_true, if_pos hrev]

/-- **One sweep among others.** Whatever the others do in between, when it is over
all the work is done. -/
theorem releaseDuePendingEntries_sweeps (hs : Swept s₀ done s) :
    Sat (sweepContract s₀) (fun _ r s' => (∃ n, r = .ok n) ∧ AllSwept s₀ s')
      releaseDuePendingEntries h s := by
  refine sat_read_bind fun s₁ hR₁ => ⟨.refl _ _, ?_⟩
  obtain ⟨done₁, -, hs₁⟩ := hR₁ done hs
  refine sat_ite (fun hempty => ?_) fun _ => ?_
  · -- nothing is due: what is left is to stay
    refine sat_pure ⟨⟨0, rfl⟩, done₁, hs₁, fun e he => ?_⟩
    cases hdone : done₁ e.id with
    | true => exact .inl rfl
    | false =>
      right
      have hrow : e ∈ s₁.walletEntries.rows := by
        rw [hs₁.rows]
        exact List.mem_map.mpr ⟨e, he, by rw [hdone]; rfl⟩
      have hnot : due s₀.now e = false := by
        rw [← hs₁.now, ← Bool.not_eq_true]
        intro hdue
        have hmem := List.mem_filter.mpr ⟨hrow, hdue⟩
        rw [List.isEmpty_iff.mp hempty] at hmem
        cases hmem
      simp [sweptEntry, releases, reverses, dueWith, hnot]
  · refine sat_read_bind fun s₂ hR₂ => ⟨.refl _ _, ?_⟩
    obtain ⟨done₂, hle₂, hs₂⟩ := hR₂ done₁ hs₁
    -- the entries to release and those to reverse, of the ones that are left
    have hrelease := fun e he => hs₁.mem_dueIds (e := e) hs₂.orders [.delivered, .completed]
      (fun e => (not_dueWith_sweptEntry s₀ e).1) he
    have hreverse := fun e he => hs₁.mem_dueIds (e := e) hs₂.orders [.cancelled, .refunded]
      (fun e => (not_dueWith_sweptEntry s₀ e).2) he
    refine sat_bind ((sat_release hs₂ hs₁.now fun e he hid =>
      ((hrelease e he).mp hid).2).post fun h r s₃ hQ => ?_)
    obtain ⟨rfl, done₃, hs₃, hle₃, hdone₃⟩ := hQ
    refine sat_bind ((sat_reverse hs₃ fun e he hid =>
      ((hreverse e he).mp hid).2).post fun h r s₄ hQ => ?_)
    obtain ⟨rfl, done₄, hs₄, hle₄, hdone₄⟩ := hQ
    refine sat_pure ⟨⟨_, rfl⟩, done₄, hs₄, fun e he => ?_⟩
    -- swept before the first read, or found by it, or to stay
    cases hdone : done₁ e.id with
    | true => exact .inl (hle₄ _ (hle₃ _ (hle₂ _ hdone)))
    | false =>
      by_cases hrel : releases s₀ e = true
      · exact .inl (hle₄ _ (hdone₃ _ ((hrelease e he).mpr ⟨hdone, hrel⟩)))
      · by_cases hrev : reverses s₀ e = true
        · exact .inl (hdone₄ _ ((hreverse e he).mpr ⟨hdone, hrev⟩))
        · exact .inr (by rw [sweptEntry, if_neg hrel, if_neg hrev])

/-! ## The result -/

/-- The sweep as a service: the cron job and the workers call it at any time. Anything
else may happen meanwhile that leaves the clock, the ledger and the statuses of the
orders alone. -/
def sweepService : Service machine where
  Call := Unit
  Reply := Nat
  Event := Db
  handle _ _ := releaseDuePendingEntries
  admits _ _ := true
  event world db :=
    if world.orders.rows.map (fun o => (o.id, o.status)) =
        db.orders.rows.map (fun o => (o.id, o.status)) then
      { world with now := db.now, walletEntries := db.walletEntries }
    else db

/-- Tables with the same keys and statuses, row by row, give the same statuses. -/
theorem orderStatus_congr (h : s'.orders.rows.map (fun o => (o.id, o.status)) =
    s.orders.rows.map (fun o => (o.id, o.status))) (o : OrderId) :
    s'.orderStatus o = s.orderStatus o := by
  have hlookup : ∀ rows : List Order, (rows.find? fun r => r.id = o).map Order.status =
      ((rows.map fun o => (o.id, o.status)).find? fun p => p.1 = o).map Prod.snd := by
    intro rows
    rw [List.find?_map, Option.map_map]
    rfl
  show (s'.orders.rows.find? fun r => r.id = o).map Order.status =
    (s.orders.rows.find? fun r => r.id = o).map Order.status
  rw [hlookup, hlookup, h]

/-- What happens between the sweeps' statements does not touch their work. -/
theorem sweepMove_event (world db : Db) : SweepMove s₀ db (sweepService.event world db) := by
  intro done hs
  refine ⟨done, fun _ h => h, ?_⟩
  show Swept s₀ done (if _ then _ else _)
  split
  · rename_i hsame
    exact ⟨hs.now, fun o => (orderStatus_congr (s := db) hsame o).trans (hs.orders o), hs.rows⟩
  · exact hs

/-- Only the ledger changes. -/
def LedgerOnly (s s' : Db) : Prop := s' = { s with walletEntries := s'.walletEntries }

theorem LedgerOnly.trans {a b c : Db} (hab : LedgerOnly a b) (hbc : LedgerOnly b c) :
    LedgerOnly a c := by
  unfold LedgerOnly at *
  rw [hbc, hab]

theorem releaseDuePendingEntries_ledgerOnly :
    Free (movesContract LedgerOnly) releaseDuePendingEntries := by
  refine releaseDuePendingEntries_of (fun _ _ => rfl) (fun ids now => ?_) fun ids => ?_
  · refine free_await (fun _ _ => rfl) fun h _ s _ s' hrun => ?_
    rw [updateWalletEntries_ok.mp hrun]
    exact rfl
  · refine free_await (fun _ _ => rfl) fun h _ s _ s' hrun => ?_
    rw [updateWalletEntries_ok.mp hrun]
    exact rfl

/-- One sweep alone. -/
theorem releaseDuePendingEntries_exec (s : Db) (w : Nat → Answer) :
    let out := releaseDuePendingEntries.exec w s
    (∃ n, out.result = .ok n) ∧
      out.state.walletEntries.rows = s.walletEntries.rows.map (sweptEntry s) ∧
      LedgerOnly s out.state := by
  intro out
  have hsat := releaseDuePendingEntries_sweeps (h := []) (Swept.none s)
  obtain ⟨-, hresult, hall⟩ := hsat.exec (SweepMove.refl s) w
  refine ⟨hresult, hall.rows, ?_⟩
  exact releaseDuePendingEntries_ledgerOnly.moves (fun _ => rfl) fun _ _ _ => LedgerOnly.trans

/-- Any number of sweeps: once one of them is over, the ledger is that of one sweep. -/
theorem sweeps_confluent (s₀ : Db) (actions : List (Pool.Action sweepService)) {j : Nat}
    {r : Except Err Nat} (hj : (poolRun s₀ actions).result? j = some r) :
    (∃ n, r = .ok n) ∧
      (poolRun s₀ actions).state.walletEntries.rows = s₀.walletEntries.rows.map (sweptEntry s₀) := by
  have hany : (poolRun s₀ actions).Steps fun _ _ => True := fun _ _ => trivial
  have hsound : Pool.Sound (S := sweepService) (fun _ => sweepContract s₀)
      (fun _ _ _ r s' => (∃ n, r = .ok n) ∧ AllSwept s₀ s') (fun _ => True) s₀
      (poolRun s₀ actions) := by
    apply Pool.sound trivial
    · exact fun _ s _ => .refl s₀ s
    · exact fun _ _ _ _ hab hbc => hab.trans hbc
    · exact fun _ _ _ _ _ _ hmove hQ => ⟨hQ.1, hQ.2.move hmove⟩
    · exact fun _ _ _ _ _ _ _ _ => trivial
    · exact fun _ _ _ _ _ _ _ _ _ hmove => hmove
    · exact fun world s _ => ⟨trivial, fun _ => sweepMove_event world s⟩
    · intro j c s _ hmove _
      obtain ⟨done, -, hs⟩ := hmove _ (Swept.none s₀)
      exact releaseDuePendingEntries_sweeps hs
    · exact hany
  obtain ⟨c, -, hok, hall⟩ := hsound.result hj
  exact ⟨hok, hall.rows⟩

theorem sweptEntry_sweptEntry (s : Db) (e : WalletEntry) :
    sweptEntry s (sweptEntry s e) = sweptEntry s e := by
  obtain ⟨hrel, hrev⟩ := not_dueWith_sweptEntry s e
  rw [sweptEntry, hrel, hrev]
  rfl

/-- **The law of the release sweep.** On any ledger, orders and clock: one sweep makes
available exactly the due earnings of delivered and completed orders, cancels
exactly those of cancelled and refunded orders, and changes nothing else; a second
one at the same time changes nothing; and sweeps that interleave statement by
statement, while the order statuses stay, have made the ledger of one sweep as soon
as one of them is over. -/
theorem release_sweep_law (s : Db) :
    (∀ w, let out := releaseDuePendingEntries.exec w s
      out.state.walletEntries.rows = s.walletEntries.rows.map (sweptEntry s) ∧
        LedgerOnly s out.state ∧
        ∀ w', (releaseDuePendingEntries.exec w' out.state).state = out.state) ∧
      ∀ (actions : List (Pool.Action sweepService)) (j : Nat) (r : Except Err Nat),
        (poolRun s actions).result? j = some r →
          (poolRun s actions).state.walletEntries.rows = s.walletEntries.rows.map (sweptEntry s) := by
  constructor
  · intro w out
    obtain ⟨-, hrows, hframe⟩ := releaseDuePendingEntries_exec s w
    refine ⟨hrows, hframe, fun w' => ?_⟩
    -- the sweep reads the orders and the clock, and it touches neither
    obtain ⟨-, hrows', hframe'⟩ := releaseDuePendingEntries_exec out.state w'
    have hsame : ∀ e, sweptEntry out.state e = sweptEntry s e := by
      intro e
      rw [hframe]
      rfl
    have hledger : (releaseDuePendingEntries.exec w' out.state).state.walletEntries =
        out.state.walletEntries := by
      apply Table.ext_rows
      rw [hrows', hrows, List.map_map]
      apply List.map_congr_left
      intro e _
      rw [Function.comp_apply, hsame, sweptEntry_sweptEntry]
    rw [hframe', hledger]
  · exact fun actions j r hj => (sweeps_confluent s actions hj).2

end IncaCook
