import IncaCook.Steps.Push

/-!
# Whose devices hear what

A dispatch reads the tokens and sends later; meanwhile a device may be handed over to somebody else,
and its row with it. The table keeps one row for each token all the same.

Main results:

* `push_to_addressee`: a push goes to a device that the call has read as that of a user whom it
  addresses, and that has been theirs since, unless it changed hands in between;
* `registration_lasts`: a device stays registered, until somebody else logs in on it, its user logs
  out, or Firebase has called its token invalid;
* `one_push_each`: no call sends two pushes to one token.
-/

namespace IncaCook

open Prog DeviceTokens Fcm Notifications

/-- The registration is still there: the same row, token and user. -/
def Held (s : PushDb) (row : DeviceToken) : Prop :=
  ∃ row' ∈ s.deviceTokens.rows, row'.id = row.id ∧ row'.token = row.token ∧ row'.userId = row.userId

/-- What ends a registration, at a step after the steps `h` of its call: somebody else registers the
token, its user removes it, or it is pruned as one that Firebase has called invalid. -/
def Ends (row : DeviceToken) (call : PushCall) (h : List (StepRecord pushMachine)) (site : PushSite) : Prop :=
  (∃ sub dto u, call = .register sub dto ∧ dto.token = row.token ∧ site = .register row.token u ∧
    CalledBy h sub u ∧ u ≠ row.userId) ∨
  (∃ sub, call = .remove sub row.token ∧ site = .remove row.token row.userId ∧ CalledBy h sub row.userId) ∨
  ∃ ids, site = .prune ids ∧ row.id ∈ ids ∧ ReadDead h row.id

section

variable {me : Nat} {call : PushCall} {h : List (StepRecord pushMachine)} {site : PushSite}
  {s s' : PushDb} {row : DeviceToken} {ready : Bool}

/-! ## What a step does to the rows -/

/-- The row of the token is pointed at the user; without one there is a new row. -/
theorem upsertToken_ok {dto : RegisterDeviceTokenDto} {u : UserId} {x : Unit}
    (hrun : upsertToken me dto u s = .ok (x, s')) :
    (∃ found, s.rowOf dto.token = some found ∧
      s' = { s with deviceTokens := s.deviceTokens.update found.id (pointedAt dto u) }) ∨
    (s.rowOf dto.token = none ∧ ∃ tokens,
      s.deviceTokens.insert? ⟨generateUlid me 0, dto.token, dto.platform, u⟩ = some tokens ∧
      s' = { s with deviceTokens := tokens }) := by
  simp only [upsertToken, Stmt.bind_ok, Stmt.get_ok] at hrun
  obtain ⟨db, _, ⟨hdb, rfl⟩, hrun⟩ := hrun
  subst hdb
  cases hfound : db.rowOf dto.token with
  | some found =>
    rw [hfound] at hrun
    exact .inl ⟨found, rfl, Stmt.set_ok.mp hrun⟩
  | none =>
    rw [hfound] at hrun
    simp only [Stmt.bind_ok, Stmt.orThrow_ok, Stmt.set_ok] at hrun
    obtain ⟨tokens, _, ⟨hnew, rfl⟩, rfl⟩ := hrun
    exact .inr ⟨rfl, tokens, hnew, rfl⟩

theorem rowOf_some {token : String} {found : DeviceToken} (hfound : s.rowOf token = some found) :
    found ∈ s.deviceTokens.rows ∧ found.token = token :=
  ⟨List.mem_of_find?_eq_some hfound, by simpa using List.find?_some hfound⟩

/-- The rows after an upsert: the old ones, but for the one that is pointed at the user. -/
theorem pointed_row {id : Ulid} {dto : RegisterDeviceTokenDto} {u : UserId} {r : DeviceToken}
    (hr : r ∈ (s.deviceTokens.update id (pointedAt dto u)).rows) :
    ∃ r₀ ∈ s.deviceTokens.rows, r.id = r₀.id ∧ r.token = r₀.token := by
  obtain ⟨r₀, hr₀, ⟨-, rfl⟩ | ⟨-, rfl⟩⟩ := Table.mem_update_cases hr
  · exact ⟨r₀, hr₀, rfl, rfl⟩
  · exact ⟨r, hr₀, rfl, rfl⟩

/-- A row after an upsert, if it is the one, and else as it was. -/
theorem row_pointed (id : Ulid) (dto : RegisterDeviceTokenDto) (u : UserId) {r : DeviceToken}
    (hr : r ∈ s.deviceTokens.rows) :
    (if r.id = id then pointedAt dto u r else r) ∈ (s.deviceTokens.update id (pointedAt dto u)).rows :=
  Table.mem_update.mpr ⟨r, hr, rfl⟩

/-- A registration outlives a step, or the step ends it. -/
theorem PushStep.held (hstep : PushStep me call h site s s') (hheld : Held s row) :
    Held s' row ∨ Ends row call h site := by
  obtain ⟨row', hrow', hid, htoken, huser⟩ := hheld
  cases hstep with
  | noop _ _ _ => exact .inl ⟨row', hrow', hid, htoken, huser⟩
  | send _ _ _ _ _ => exact .inl ⟨row', hrow', hid, htoken, huser⟩
  | register u hcall hcaller hrun =>
    rename_i sub dto
    rcases upsertToken_ok hrun with ⟨found, hfound, rfl⟩ | ⟨-, tokens, hnew, rfl⟩
    · obtain ⟨hmem, hsame⟩ := rowOf_some hfound
      have hpointed := row_pointed found.id dto u hrow'
      by_cases hkey : row'.id = found.id
      · -- it is the row that the upsert points at its caller
        obtain rfl : row' = found := Table.eq_of_key_eq hrow' hmem hkey
        by_cases hu : u = row.userId
        · rw [if_pos rfl] at hpointed
          exact .inl ⟨pointedAt dto u row', hpointed, hid, htoken, hu⟩
        · have hfor : dto.token = row.token := hsame.symm.trans htoken
          exact .inr (.inl ⟨sub, dto, u, hcall, hfor, by rw [hfor], hcaller, hu⟩)
      · rw [if_neg hkey] at hpointed
        exact .inl ⟨row', hpointed, hid, htoken, huser⟩
    · exact .inl ⟨row', (Table.mem_insert hnew).mpr (.inr hrow'), hid, htoken, huser⟩
  | remove token u hcall hcaller =>
    rename_i sub
    by_cases hgone : row'.token = token ∧ row'.userId = u
    · obtain ⟨rfl, rfl⟩ := hgone
      rw [htoken] at hcall ⊢
      rw [huser] at hcaller ⊢
      exact .inr (.inr (.inl ⟨sub, hcall, rfl, hcaller⟩))
    · refine .inl ⟨row', Table.mem_removeMany.mpr ⟨hrow', ?_⟩, hid, htoken, huser⟩
      simpa using hgone
  | prune ids hdead =>
    by_cases hgone : row'.id ∈ ids
    · rw [hid] at hgone
      exact .inr (.inr (.inr ⟨ids, rfl, hgone, hdead _ hgone⟩))
    · refine .inl ⟨row', Table.mem_removeMany.mpr ⟨hrow', ?_⟩, hid, htoken, huser⟩
      simpa using hgone

/-- One row for each token stays one row for each token. -/
theorem PushStep.oneRowEach (hstep : PushStep me call h site s s') (hone : s.OneRowEach) : s'.OneRowEach := by
  cases hstep with
  | noop _ _ _ => exact hone
  | send _ _ _ _ _ => exact hone
  | remove token u _ _ =>
    intro r hr r' hr' hsame
    exact hone r (Table.mem_removeMany.mp hr).1 r' (Table.mem_removeMany.mp hr').1 hsame
  | prune ids _ =>
    intro r hr r' hr' hsame
    exact hone r (Table.mem_removeMany.mp hr).1 r' (Table.mem_removeMany.mp hr').1 hsame
  | register u hcall _ hrun =>
    intro r hr r' hr' hsame
    rcases upsertToken_ok hrun with ⟨found, hfound, rfl⟩ | ⟨hnone, tokens, hnew, rfl⟩
    · -- rows keep their ids, so equal tokens are those of one row
      obtain ⟨r₀, hr₀, hid, htoken⟩ := pointed_row hr
      obtain ⟨r₁, hr₁, hid', htoken'⟩ := pointed_row hr'
      obtain rfl := hone r₀ hr₀ r₁ hr₁ (htoken.symm.trans (hsame.trans htoken'))
      exact Table.eq_of_key_eq hr hr' (hid.trans hid'.symm)
    · have hfresh : ∀ r ∈ s.deviceTokens.rows, r.token ≠ _ := fun r hr =>
        of_decide_eq_false (Bool.eq_false_iff.mpr (List.find?_eq_none.mp hnone r hr))
      rcases (Table.mem_insert hnew).mp hr with rfl | hr
      · rcases (Table.mem_insert hnew).mp hr' with rfl | hr'
        · rfl
        · exact absurd hsame.symm (hfresh r' hr')
      · rcases (Table.mem_insert hnew).mp hr' with rfl | hr'
        · exact absurd hsame (hfresh r hr)
        · exact hone r hr r' hr' hsame

/-- A row is an old one, or a new one of a call that registers its token. -/
theorem PushStep.row_new (hstep : PushStep me call h site s s') (hrow : row ∈ s'.deviceTokens.rows) :
    (∃ r ∈ s.deviceTokens.rows, row.id = r.id ∧ row.token = r.token) ∨
      row.id = generateUlid me 0 ∧ ∃ sub dto, call = .register sub dto ∧ dto.token = row.token := by
  cases hstep with
  | noop _ _ _ => exact .inl ⟨row, hrow, rfl, rfl⟩
  | send _ _ _ _ _ => exact .inl ⟨row, hrow, rfl, rfl⟩
  | remove token u _ _ => exact .inl ⟨row, (Table.mem_removeMany.mp hrow).1, rfl, rfl⟩
  | prune ids _ => exact .inl ⟨row, (Table.mem_removeMany.mp hrow).1, rfl, rfl⟩
  | register u hcall _ hrun =>
    rcases upsertToken_ok hrun with ⟨found, hfound, rfl⟩ | ⟨-, tokens, hnew, rfl⟩
    · exact .inl (pointed_row hrow)
    · rcases (Table.mem_insert hnew).mp hrow with rfl | hrow
      · exact .inr ⟨rfl, _, _, hcall, rfl⟩
      · exact .inl ⟨row, hrow, rfl, rfl⟩

/-- Firebase forgets no token that it has called invalid. -/
theorem PushStep.refused (hstep : PushStep me call h site s s') {token : String} (ht : token ∈ s.refused) :
    token ∈ s'.refused := by
  cases hstep with
  | send id result _ _ _ =>
    simp only [recordSend]
    split
    · exact List.mem_cons_of_mem _ ht
    · exact ht
  | register u hcall _ hrun =>
    rcases upsertToken_ok hrun with ⟨_, _, rfl⟩ | ⟨_, _, _, rfl⟩
    · exact ht
    · exact ht
  | _ => exact ht

theorem PushStep.sent (hstep : PushStep me call h site s s') {token : String} {push : Push}
    (hsite : site = .send token push) :
    call.push? = some push ∧ Unsent h [token] ∧ ∃ id, ReadToken call h id token := by
  cases hstep with
  | noop _ _ hother => exact absurd hsite (hother token push)
  | send id result hpush hread hunsent =>
    cases hsite
    exact ⟨hpush, hunsent, id, hread⟩
  | _ => cases hsite

/-! ## Runs -/

theorem push_step {s₀ : PushDb} {actions : List (Pool.Action (pushService ready))}
    {later earlier : List (Entry pushMachine)} {e : Entry pushMachine}
    (hsplit : (poolRun s₀ actions).trace = later ++ e :: earlier) :
    ∃ c, (poolRun s₀ actions).call? e.thread = some c ∧
      PushStep e.thread c (Pool.ownSteps e.thread earlier) e.site e.pre e.post :=
  Pool.own_step (C := pushContract) (fun _ _ _ _ => trivial) pushHandle_sat hsplit

/-- Nobody but the services writes the table of tokens. -/
theorem applyPushEvent_tokens (e : PushEvent) (s : PushDb) :
    (applyPushEvent e s).deviceTokens = s.deviceTokens ∧ (applyPushEvent e s).refused = s.refused := by
  cases e
  all_goals exact ⟨rfl, rfl⟩

/-- The step that follows those of `trace` ends the registration. -/
def EndedAt (p : Pool (pushService ready)) (row : DeviceToken) (e : Entry pushMachine)
    (trace : List (Entry pushMachine)) : Prop :=
  ∃ c, p.call? e.thread = some c ∧ Ends row c (Pool.ownSteps e.thread trace) e.site

/-- What was registered after a step of the trace still is, or a later step has ended it. -/
def RegistrationsLast (p : Pool (pushService ready)) (s : PushDb) (trace : List (Entry pushMachine)) : Prop :=
  ∀ later e earlier, trace = later ++ e :: earlier → ∀ row ∈ e.post.deviceTokens.rows, Held s row ∨
    ∃ after e' before, later = after ++ e' :: before ∧ EndedAt p row e' (before ++ e :: earlier)

theorem registrations_last (s₀ : PushDb) (actions : List (Pool.Action (pushService ready))) :
    RegistrationsLast (poolRun s₀ actions) (poolRun s₀ actions).state (poolRun s₀ actions).trace ∧
      ∀ later e earlier, (poolRun s₀ actions).trace = later ++ e :: earlier →
        RegistrationsLast (poolRun s₀ actions) e.pre earlier := by
  have hnone : RegistrationsLast (poolRun s₀ actions) s₀ [] := by
    intro later e earlier hsplit
    simp at hsplit
  refine Pool.history_past (S := pushService ready)
    (I := fun s trace => RegistrationsLast (poolRun s₀ actions) s trace) hnone ?_ actions ?_
  · intro e s trace hs later e' earlier hsplit row hrow
    rcases hs later e' earlier hsplit row hrow with ⟨row', hrow', hsame⟩ | hended
    · refine .inl ⟨row', ?_, hsame⟩
      exact (congrArg (fun t : Table DeviceToken => row' ∈ t.rows) (applyPushEvent_tokens e s).1).mpr hrow'
    · exact .inr hended
  · intro later e earlier hsplit hpre _ after e' before hcons row hrow
    obtain ⟨c, hc, hstep⟩ := push_step hsplit
    -- the last step itself, or one before it: then the new step may end what has lasted so far
    cases after with
    | nil =>
      obtain ⟨rfl, -⟩ := List.cons.inj hcons
      exact .inl ⟨row, hrow, rfl, rfl, rfl⟩
    | cons e₁ after =>
      obtain ⟨rfl, rfl⟩ := List.cons.inj hcons
      rcases hpre after e' before rfl row hrow with hheld | ⟨after', e₂, before', rfl, hended⟩
      · rcases hstep.held hheld with hkept | hended
        · exact .inl hkept
        · exact .inr ⟨[], e, after, rfl, c, hc, hended⟩
      · exact .inr ⟨e :: after', e₂, before', rfl, hended⟩

/-- **A push reaches whom it is for.** In every interleaving, whenever a token is sent a push, the push is that
of the call, which has read the token, at a step of its own that reads tokens of users, as that of a user whom
it addresses (the buyer or the seller of the order, a driver who was online, the caller, or those whom it was
told); and the device has been theirs ever since, unless, between that step and the push, somebody else has
registered it, they have removed it, or it was pruned. -/
theorem push_to_addressee (ready : Bool) (s₀ : PushDb) (actions : List (Pool.Action (pushService ready)))
    {e : Entry pushMachine} (he : e ∈ (poolRun s₀ actions).trace) {token : String} {push : Push}
    (hsite : e.site = .send token push) :
    ∃ later after e₁ before c row, (poolRun s₀ actions).trace = later ++ e :: (after ++ e₁ :: before) ∧
      (poolRun s₀ actions).call? e.thread = some c ∧ c.push? = some push ∧ e₁.thread = e.thread ∧
      Reads row e₁.toStepRecord ∧ row.token = token ∧
      Addressed c (Pool.ownSteps e.thread (after ++ e₁ :: before)) row.userId ∧
      (Held e.pre row ∨ ∃ after' e' before', after = after' ++ e' :: before' ∧
        EndedAt (poolRun s₀ actions) row e' (before' ++ e₁ :: before)) := by
  obtain ⟨later, earlier, hsplit⟩ := List.append_of_mem he
  obtain ⟨c, hc, hstep⟩ := push_step hsplit
  obtain ⟨hpush, -, id, t, ht, row, hreads, -, htoken, haddressed⟩ := hstep.sent hsite
  -- what has happened to the row since the call read it
  obtain ⟨e₁, he₁, hthread, rfl⟩ := Pool.mem_of_ownSteps ht
  obtain ⟨after, before, rfl⟩ := List.append_of_mem he₁
  have hrow : row ∈ e₁.post.deviceTokens.rows := by
    obtain ⟨-, -, -, hrow⟩ := hreads
    exact hrow
  have hlast := (registrations_last s₀ actions).2 _ _ _ hsplit after e₁ before rfl row hrow
  exact ⟨later, after, e₁, before, c, row, hsplit, hc, hpush, hthread, hreads, htoken, haddressed, hlast⟩

/-- A seller and a buyer, and no devices yet. -/
def lendingTown : PushDb where
  users := ⟨[⟨⟨0, 101⟩, "seller", "seller@town", .seller, false, none, none, false, none, none⟩,
    ⟨⟨0, 102⟩, "buyer", "buyer@town", .buyer, true, none, none, false, none, none⟩], by decide⟩
  orders := .empty
  online := []
  deviceTokens := .empty
  delivered := []
  refused := []

def takesPush : PushAnswer := ⟨true, .delivered⟩

/-- The seller registers a phone (call 0) and an order of theirs is paid (call 1); before the push goes out
the buyer logs in on that phone (call 2). -/
def lentPhone : List (Pool.Action (pushService true)) :=
  [.arrive (.register "seller" ⟨"phone", .android⟩), .run 0 takesPush, .run 0 takesPush,
    .arrive (.notifyOrderPaid ⟨0, 101⟩ ⟨0, 1⟩), .run 1 takesPush,
    .arrive (.register "buyer" ⟨"phone", .android⟩), .run 2 takesPush, .run 2 takesPush, .run 1 takesPush]

/-- The push, at the last step. -/
def pushToLentPhone : Entry pushMachine :=
  (poolRun lendingTown lentPhone).trace.head (by decide +kernel)

theorem lentPhone_addressee :
    ∃ later after e₁ before c row, (poolRun lendingTown lentPhone).trace =
        later ++ pushToLentPhone :: (after ++ e₁ :: before) ∧
      (poolRun lendingTown lentPhone).call? pushToLentPhone.thread = some c ∧
      c.push? = some ⟨"Nouvelle commande payée", "Vous avez reçu une nouvelle commande.",
        .event "order_paid" ⟨0, 1⟩ none⟩ ∧
      e₁.thread = pushToLentPhone.thread ∧ Reads row e₁.toStepRecord ∧ row.token = "phone" ∧
      Addressed c (Pool.ownSteps pushToLentPhone.thread (after ++ e₁ :: before)) row.userId ∧
      (Held pushToLentPhone.pre row ∨ ∃ after' e' before', after = after' ++ e' :: before' ∧
        EndedAt (poolRun lendingTown lentPhone) row e' (before' ++ e₁ :: before)) :=
  push_to_addressee true lendingTown lentPhone (List.head_mem _) (by decide +kernel)

/-- The phone is the buyer's when the push goes out. -/
example : pushToLentPhone.pre.deviceTokens.rows = [⟨generateUlid 0 0, "phone", .android, ⟨0, 102⟩⟩] := by
  decide +kernel

/-! ## Which token a row is for -/

/-- A row that a call has registered: its id says which call, and so which token. -/
def Issued (p : Pool (pushService ready)) (row : DeviceToken) : Prop :=
  ∃ n sub dto, row.id = generateUlid n 0 ∧ p.call? n = some (.register sub dto) ∧ dto.token = row.token

theorem Issued.token_eq {p : Pool (pushService ready)} {r r' : DeviceToken} (hr : Issued p r) (hr' : Issued p r')
    (hid : r.id = r'.id) : r.token = r'.token := by
  obtain ⟨n, sub, dto, hn, hcall, htoken⟩ := hr
  obtain ⟨n', sub', dto', hn', hcall', htoken'⟩ := hr'
  obtain rfl : n = n' := congrArg Ulid.call (hn.symm.trans (hid.trans hn'))
  rw [hcall] at hcall'
  cases hcall'
  exact htoken.symm.trans htoken'

structure IssuedSince (p : Pool (pushService ready)) (s : PushDb) (trace : List (Entry pushMachine)) : Prop where
  oneRowEach : s.OneRowEach
  rows : ∀ row ∈ s.deviceTokens.rows, Issued p row
  past : ∀ e ∈ trace, e.post.OneRowEach ∧ ∀ row ∈ e.post.deviceTokens.rows, Issued p row
  refused : ∀ e ∈ trace, ∀ token ∈ e.post.refused, token ∈ s.refused

theorem issued_since {s₀ : PushDb} (hstart : s₀.deviceTokens.rows = [])
    (actions : List (Pool.Action (pushService ready))) :
    IssuedSince (poolRun s₀ actions) (poolRun s₀ actions).state (poolRun s₀ actions).trace ∧
      ∀ later e earlier, (poolRun s₀ actions).trace = later ++ e :: earlier →
        IssuedSince (poolRun s₀ actions) e.pre earlier := by
  have hnone : ∀ row, row ∉ s₀.deviceTokens.rows := by
    rw [hstart]
    exact fun _ => List.not_mem_nil
  have hempty : IssuedSince (poolRun s₀ actions) s₀ [] :=
    ⟨fun r hr => absurd hr (hnone r), fun r hr => absurd hr (hnone r), fun _ he => absurd he List.not_mem_nil,
      fun _ he => absurd he List.not_mem_nil⟩
  refine Pool.history_past (S := pushService ready)
    (I := fun s trace => IssuedSince (poolRun s₀ actions) s trace) hempty ?_ actions ?_
  · intro e s trace hs
    cases e with
    | user u => exact ⟨hs.oneRowEach, hs.rows, hs.past, hs.refused⟩
    | order o => exact ⟨hs.oneRowEach, hs.rows, hs.past, hs.refused⟩
    | online drivers => exact ⟨hs.oneRowEach, hs.rows, hs.past, hs.refused⟩
  · intro later e earlier hsplit hpre _
    obtain ⟨c, hc, hstep⟩ := push_step hsplit
    -- a row keeps its id and its token: both are of the call that has created it
    have hrows : ∀ row ∈ e.post.deviceTokens.rows, Issued (poolRun s₀ actions) row := by
      intro row hrow
      rcases hstep.row_new hrow with ⟨r, hr, hid, htoken⟩ | ⟨hid, sub, dto, rfl, htoken⟩
      · obtain ⟨n, sub, dto, hn, hcall, hfor⟩ := hpre.rows r hr
        exact ⟨n, sub, dto, hid.trans hn, hcall, hfor.trans htoken.symm⟩
      · exact ⟨e.thread, sub, dto, hid, hc, htoken⟩
    have hone := hstep.oneRowEach hpre.oneRowEach
    refine ⟨hone, hrows, fun e' he' => ?_, fun e' he' token ht => ?_⟩
    · rcases List.mem_cons.mp he' with rfl | he'
      · exact ⟨hone, hrows⟩
      · exact hpre.past e' he'
    · rcases List.mem_cons.mp he' with rfl | he'
      · exact ht
      · exact hstep.refused (hpre.refused e' he' token ht)

/-- **A registered device stays registered.** In every interleaving that starts without devices, each token has
one row at most, and so one user; and a registration that a step has left is still there at the end, unless a
later step has ended it: a call in which somebody else registers the token, one in which its user removes it,
or a pruning of dead tokens, and then Firebase has called this very token invalid. -/
theorem registration_lasts (ready : Bool) (s₀ : PushDb) (hstart : s₀.deviceTokens.rows = [])
    (actions : List (Pool.Action (pushService ready))) :
    (poolRun s₀ actions).state.OneRowEach ∧
      ∀ later e earlier, (poolRun s₀ actions).trace = later ++ e :: earlier →
        ∀ row ∈ e.post.deviceTokens.rows, Held (poolRun s₀ actions).state row ∨
          ∃ after e' before c, later = after ++ e' :: before ∧ (poolRun s₀ actions).call? e'.thread = some c ∧
            ((∃ sub dto u, c = .register sub dto ∧ dto.token = row.token ∧ u ≠ row.userId ∧
              CalledBy (Pool.ownSteps e'.thread (before ++ e :: earlier)) sub u) ∨
            (∃ sub, c = .remove sub row.token ∧
              CalledBy (Pool.ownSteps e'.thread (before ++ e :: earlier)) sub row.userId) ∨
            (∃ ids, e'.site = .prune ids ∧ row.id ∈ ids) ∧ row.token ∈ e'.pre.refused) := by
  obtain ⟨hissued, hpast⟩ := issued_since hstart actions
  refine ⟨hissued.oneRowEach, fun later e earlier hsplit row hrow => ?_⟩
  rcases (registrations_last s₀ actions).1 later e earlier hsplit row hrow with hheld | hended
  · exact .inl hheld
  obtain ⟨after, e', before, rfl, c, hc, hends⟩ := hended
  refine .inr ⟨after, e', before, c, rfl, hc, ?_⟩
  have hsplit' : (poolRun s₀ actions).trace = after ++ e' :: (before ++ e :: earlier) := by
    rw [hsplit, List.append_assoc]
    rfl
  rcases hends with ⟨sub, dto, u, rfl, htoken, -, hcaller, hother⟩ | ⟨sub, rfl, -, hcaller⟩ |
    ⟨ids, hsite, hpruned, t, ht, dead, ⟨-, -, -, hdead⟩, hid, t', ht', hrefused⟩
  · exact .inl ⟨sub, dto, u, rfl, htoken, hother, hcaller⟩
  · exact .inr (.inl ⟨sub, rfl, hcaller⟩)
  · -- the dead row has the id of ours, and so its token
    obtain ⟨e₁, he₁, -, rfl⟩ := Pool.mem_of_ownSteps ht
    obtain ⟨e₂, he₂, -, rfl⟩ := Pool.mem_of_ownSteps ht'
    have hthen := hpast _ _ _ hsplit'
    have hdeadIssued : Issued (poolRun s₀ actions) dead := (hthen.past e₁ he₁).2 dead hdead
    have hrowIssued : Issued (poolRun s₀ actions) row := (hissued.past e (by simp [hsplit])).2 row hrow
    rw [hdeadIssued.token_eq hrowIssued hid] at hrefused
    exact .inr (.inr ⟨⟨ids, hsite, hpruned⟩, hthen.refused e₂ he₂ _ hrefused⟩)

theorem lentPhone_lasts :
    (poolRun lendingTown lentPhone).state.OneRowEach ∧
      ∀ later e earlier, (poolRun lendingTown lentPhone).trace = later ++ e :: earlier →
        ∀ row ∈ e.post.deviceTokens.rows, Held (poolRun lendingTown lentPhone).state row ∨
          ∃ after e' before c, later = after ++ e' :: before ∧
            (poolRun lendingTown lentPhone).call? e'.thread = some c ∧
            ((∃ sub dto u, c = .register sub dto ∧ dto.token = row.token ∧ u ≠ row.userId ∧
              CalledBy (Pool.ownSteps e'.thread (before ++ e :: earlier)) sub u) ∨
            (∃ sub, c = .remove sub row.token ∧
              CalledBy (Pool.ownSteps e'.thread (before ++ e :: earlier)) sub row.userId) ∨
            (∃ ids, e'.site = .prune ids ∧ row.id ∈ ids) ∧ row.token ∈ e'.pre.refused) :=
  registration_lasts true lendingTown rfl lentPhone

/-! ## No push twice -/

/-- **A device hears a thing once.** In every interleaving that starts without devices, no call sends two
pushes to one token, even while tokens change hands under it. -/
theorem one_push_each (ready : Bool) (s₀ : PushDb) (hstart : s₀.deviceTokens.rows = [])
    (actions : List (Pool.Action (pushService ready))) :
    (poolRun s₀ actions).trace.Pairwise fun e e' => e.thread = e'.thread →
      ∀ token push push', e.site = .send token push → e'.site ≠ .send token push' := by
  refine List.pairwise_iff_forall_sublist.mpr fun {e e'} hsub hthread token push push' hsite hsite' => ?_
  -- the earlier push is among the steps of the call before the later one
  obtain ⟨later, earlier, htrace, he, he'⟩ := List.cons_sublist_iff.mp hsub
  obtain ⟨later, between, rfl⟩ := List.append_of_mem he
  have hsplit : (poolRun s₀ actions).trace = later ++ e :: (between ++ earlier) := by
    rw [htrace, List.append_assoc]
    rfl
  have hown : e'.toStepRecord ∈ Pool.ownSteps e.thread (between ++ earlier) := by
    have hmem : e' ∈ between ++ earlier := List.mem_append_right _ (List.singleton_sublist.mp he')
    exact List.mem_map.mpr ⟨e', List.mem_filter.mpr ⟨hmem, decide_eq_true hthread.symm⟩, rfl⟩
  obtain ⟨c, -, hstep⟩ := push_step hsplit
  obtain ⟨-, hunsent, -⟩ := hstep.sent hsite
  have hones : ∀ t ∈ Pool.ownSteps e.thread (between ++ earlier), t.post.OneRowEach := by
    intro t ht
    obtain ⟨e₁, he₁, -, rfl⟩ := Pool.mem_of_ownSteps ht
    exact (((issued_since hstart actions).2 _ _ _ hsplit).past e₁ he₁).1
  exact (hunsent hones).2 token (List.mem_singleton.mpr rfl) ⟨_, hown, push', hsite'⟩

theorem lentPhone_once :
    (poolRun lendingTown lentPhone).trace.Pairwise fun e e' => e.thread = e'.thread →
      ∀ token push push', e.site = .send token push → e'.site ≠ .send token push' :=
  one_push_each true lendingTown rfl lentPhone

end

end IncaCook
