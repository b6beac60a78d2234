import IncaCook.Steps.Identities

/-!
# Accounts

`createFromJwt` looks first whether the identity has an account, whether its email is another's and
whether its phone is, and opens the account some statements later. Two calls may open one for the
same identity, and a phone may be taken meanwhile; the unique columns of `User` and the transaction
decide.

Main results:

* `accounts_well_formed`: one account for a login, an email and a phone, each with the profile of its
  role and no other, and an account lasts;
* `account_written_by_owner`: who writes an account.
-/

namespace IncaCook

open Prog Users Auth

/-! ## What an account keeps -/

/-- Names, phone and avatar change; what was verified stays verified; the rest stays as it is. -/
structure UserRecord.Keeps (a a' : UserRecord) : Prop where
  same : { a' with
    firstName := a.firstName
    lastName := a.lastName
    phone := a.phone
    avatarPath := a.avatarPath
    emailVerified := a.emailVerified
    phoneVerified := a.phoneVerified } = a
  emailVerified : a.emailVerified = true → a'.emailVerified = true
  phoneVerified : a.phoneVerified = true → a'.phoneVerified = true

theorem UserRecord.Keeps.refl (a : UserRecord) : a.Keeps a := ⟨rfl, fun h => h, fun h => h⟩

theorem UserRecord.Keeps.trans (a b c : UserRecord) (hab : a.Keeps b) (hbc : b.Keeps c) : a.Keeps c where
  same := by
    have hsame := hbc.same
    have hfirst := hab.same
    rw [← hsame] at hfirst
    exact hfirst
  emailVerified h := hbc.emailVerified (hab.emailVerified h)
  phoneVerified h := hbc.phoneVerified (hab.phoneVerified h)

theorem UserRecord.Keeps.supabaseId {a a' : UserRecord} (h : a.Keeps a') : a'.supabaseId = a.supabaseId := by
  have hsame := congrArg UserRecord.supabaseId h.same
  exact hsame

theorem UserRecord.Keeps.email {a a' : UserRecord} (h : a.Keeps a') : a'.email = a.email := by
  have hsame := congrArg UserRecord.email h.same
  exact hsame

theorem UserRecord.Keeps.role {a a' : UserRecord} (h : a.Keeps a') : a'.role = a.role := by
  have hsame := congrArg UserRecord.role h.same
  exact hsame

theorem keeps_fields (dto : UpdateUserDto) (a : UserRecord) : a.Keeps (dto.fields a) :=
  ⟨rfl, fun h => h, fun h => h⟩

theorem keeps_emailVerified (a : UserRecord) : a.Keeps { a with emailVerified := true } :=
  ⟨rfl, fun _ => rfl, fun h => h⟩

theorem keeps_phoneVerified (phone : String) (a : UserRecord) :
    a.Keeps { a with phone := some phone, phoneVerified := true } :=
  ⟨rfl, fun h => h, fun _ => rfl⟩

/-- Accounts last. -/
def IdentityDb.KeepsAccounts (s s' : IdentityDb) : Prop := s.users.Carries UserRecord.Keeps s'.users

theorem IdentityDb.KeepsAccounts.refl (s : IdentityDb) : s.KeepsAccounts s :=
  Table.Carries.refl UserRecord.Keeps.refl s.users

theorem IdentityDb.KeepsAccounts.trans (a b c : IdentityDb) (hab : a.KeepsAccounts b)
    (hbc : b.KeepsAccounts c) : a.KeepsAccounts c :=
  Table.Carries.trans UserRecord.Keeps.trans hab hbc

/-! ## One account for each -/

/-- The account has the profile of the role. -/
def IdentityDb.hasProfile (s : IdentityDb) (u : UserId) : UserRole → Prop
  | .buyer => (s.buyerProfiles.find? u).isSome = true
  | .seller => (s.sellerProfiles.find? u).isSome = true
  | .driver => (s.driverProfiles.find? u).isSome = true
  | .admin | .moderator => False

/-- No two rows agree in a unique column. -/
def SameUnique (a b : UserRecord) : Prop :=
  a.supabaseId = b.supabaseId ∨ a.email = b.email ∨ a.phone.isSome = true ∧ a.phone = b.phone

structure IdentityDb.WellFormed (s : IdentityDb) : Prop where
  unique : ∀ a ∈ s.users.rows, ∀ b ∈ s.users.rows, SameUnique a b → a = b
  profiles : ∀ u role, s.hasProfile u role ↔
    role ∈ signupRoles ∧ ∃ a, s.users.find? u = some a ∧ a.role = role

section

variable {cfg : PreludeConfig} {call : IdentityCall} {h : List (StepRecord identityMachine)}
  {site : IdentitySite} {s s' : IdentityDb} {row a a' : UserRecord} {id u : UserId} {sub : String}

theorem IdentityDb.accountOf_some (hrow : s.accountOf sub = some row) :
    row ∈ s.users.rows ∧ row.supabaseId = sub :=
  ⟨List.mem_of_find?_eq_some hrow, by simpa using List.find?_some hrow⟩

/-! ## The statements on accounts -/

theorem insertUser_ok {x : Unit} (hrun : insertUser row s = .ok (x, s')) :
    ∃ users, s.users.insert? row = some users ∧ s' = { s with users } ∧
      ∀ a ∈ s.users.rows, ¬SameUnique row a := by
  simp only [insertUser, Stmt.bind_ok, Stmt.get_ok, Stmt.throwIf_ok, Stmt.orThrow_ok,
    Stmt.set_ok] at hrun
  obtain ⟨_, _, ⟨rfl, rfl⟩, _, _, ⟨hfree, rfl⟩, users, _, ⟨hnew, rfl⟩, rfl⟩ := hrun
  refine ⟨users, hnew, rfl, fun a ha hsame => hfree (List.any_eq_true.mpr ⟨a, ha, ?_⟩)⟩
  rcases hsame with hsub | hemail | ⟨hsome, hphone⟩
  · simp [hsub]
  · simp [hemail]
  · rw [hphone] at hsome
    simp [hsome, hphone]

/-- Exactly the profile of the role is added. -/
theorem insertProfile_ok {role : UserRole} {x : Unit} (hrole : role ∈ signupRoles)
    (hrun : insertProfile u role s = .ok (x, s')) :
    s'.users = s.users ∧ s'.authUsers = s.authUsers ∧ s'.accepted = s.accepted ∧
      ∀ v role', s'.hasProfile v role' ↔ s.hasProfile v role' ∨ v = u ∧ role' = role := by
  have hadded : ∀ (t t' : Table ProfileStub), t.insert? ⟨u⟩ = some t' →
      ∀ v, (t'.find? v).isSome = true ↔ (t.find? v).isSome = true ∨ v = u := by
    intro t t' hnew v
    have hkey : Keyed.key (⟨u⟩ : ProfileStub) = u := rfl
    rw [Table.find?_insert hnew, hkey]
    by_cases hv : v = u
    · rw [if_pos hv]
      exact iff_of_true rfl (.inr hv)
    · rw [if_neg hv]
      exact (or_iff_left hv).symm
  cases role with
  | buyer =>
    simp only [insertProfile, Stmt.bind_ok, Stmt.get_ok, Stmt.orThrow_ok, Stmt.set_ok] at hrun
    obtain ⟨_, _, ⟨rfl, rfl⟩, profiles, _, ⟨hnew, rfl⟩, rfl⟩ := hrun
    refine ⟨rfl, rfl, rfl, fun v role' => ?_⟩
    cases role' <;> simp [IdentityDb.hasProfile, hadded _ _ hnew v]
  | seller =>
    simp only [insertProfile, Stmt.bind_ok, Stmt.get_ok, Stmt.orThrow_ok, Stmt.set_ok] at hrun
    obtain ⟨_, _, ⟨rfl, rfl⟩, profiles, _, ⟨hnew, rfl⟩, rfl⟩ := hrun
    refine ⟨rfl, rfl, rfl, fun v role' => ?_⟩
    cases role' <;> simp [IdentityDb.hasProfile, hadded _ _ hnew v]
  | driver =>
    simp only [insertProfile, Stmt.bind_ok, Stmt.get_ok, Stmt.orThrow_ok, Stmt.set_ok] at hrun
    obtain ⟨_, _, ⟨rfl, rfl⟩, profiles, _, ⟨hnew, rfl⟩, rfl⟩ := hrun
    refine ⟨rfl, rfl, rfl, fun v role' => ?_⟩
    cases role' <;> simp [IdentityDb.hasProfile, hadded _ _ hnew v]
  | admin => simp [signupRoles] at hrole
  | moderator => simp [signupRoles] at hrole

/-- What the transaction adds. -/
theorem openAccount_ok {x : Unit} (hrole : row.role ∈ signupRoles)
    (hrun : openAccount row s = .ok (x, s')) :
    s.users.insert? row = some s'.users ∧ s'.authUsers = s.authUsers ∧ s'.accepted = s.accepted ∧
      (∀ a ∈ s.users.rows, ¬SameUnique row a) ∧
      ∀ v role, s'.hasProfile v role ↔ s.hasProfile v role ∨ v = row.id ∧ role = row.role := by
  obtain ⟨_, s₁, hinsert, hprofile⟩ := Stmt.bind_ok.mp hrun
  obtain ⟨users, hnew, rfl, hunique⟩ := insertUser_ok hinsert
  obtain ⟨husers, hauth, haccepted, hadded⟩ := insertProfile_ok hrole hprofile
  refine ⟨husers ▸ hnew, hauth, haccepted, hunique, fun v role => ?_⟩
  rw [hadded v role]
  cases role <;> exact Iff.rfl

theorem saveProfile_ok {dto : UpdateUserDto} {x : Unit} (hrun : saveProfile id dto s = .ok (x, s')) :
    s' = { s with users := s.users.update id dto.fields } ∧
      (dto.phone.isSent = true → s.phoneTaken id dto.phone.orNull = false) := by
  simp only [saveProfile, Stmt.bind_ok, Stmt.get_ok, Stmt.throwIf_ok, Stmt.orThrow_ok,
    Stmt.set_ok] at hrun
  obtain ⟨_, _, ⟨rfl, rfl⟩, _, _, ⟨-, rfl⟩, _, _, ⟨hfree, rfl⟩, users, _, ⟨hupdate, rfl⟩, rfl⟩ := hrun
  obtain ⟨-, rfl⟩ := Table.update?_eq_some.mp hupdate
  refine ⟨rfl, fun hsent => ?_⟩
  rw [hsent, Bool.true_and] at hfree
  exact Bool.eq_false_iff.mpr hfree

/-! ## What a step keeps -/

theorem IdentityStep.keepsAccounts (hstep : IdentityStep call h site s s') : s.KeepsAccounts s' := by
  cases hstep with
  | noop => exact .refl s
  | getUserById sub user huser => exact .refl s
  | create authUser row hcall htold hsub hrole hphone hemail hverified hrun =>
    exact Table.carries_insert UserRecord.Keeps.refl (openAccount_ok hrole hrun).1
  | profile row hcall hread hrun =>
    obtain ⟨rfl, -⟩ := saveProfile_ok hrun
    exact Table.carries_update UserRecord.Keeps.refl (keeps_fields _) fun _ => rfl
  | emails authUsers hphones => exact .refl s
  | verifyOtp email code user => exact .refl s
  | markEmailVerified sub session row haccepted hown hrow =>
    exact Table.carries_update UserRecord.Keeps.refl keeps_emailVerified fun _ => rfl
  | checkPhoneOtp hcall => exact .refl s
  | confirmPhone hcall haccepted huser => exact .refl s
  | savePhone row hcall haccepted hrow hfree =>
    exact Table.carries_update UserRecord.Keeps.refl (keeps_phoneVerified _) fun _ => rfl

theorem applyIdentityEvent_keepsAccounts (e : IdentityEvent) (s : IdentityDb) :
    s.KeepsAccounts (applyIdentityEvent e s) := by
  cases e with
  | time ms => exact .refl s
  | supabase user => exact .refl s

/-- Rows that agree in a unique column do so after a rewrite that leaves these columns, or gives one
row a phone that no other row has. -/
theorem unique_update {f : UserRecord → UserRecord} (hf : ∀ a, (f a).id = a.id)
    (hwf : ∀ a ∈ s.users.rows, ∀ b ∈ s.users.rows, SameUnique a b → a = b)
    (hsub : ∀ a, (f a).supabaseId = a.supabaseId) (hemail : ∀ a, (f a).email = a.email)
    (hphone : ∀ a, (f a).phone = a.phone ∨ s.phoneTaken id (f a).phone = false) :
    ∀ a ∈ (s.users.update id f hf).rows, ∀ b ∈ (s.users.update id f hf).rows, SameUnique a b → a = b := by
  -- a rewritten row and another one do not share a phone
  have hother : ∀ a b, b ∈ s.users.rows → a.id = id → b.id ≠ id → a ∈ s.users.rows →
      (f a).phone.isSome = true → (f a).phone = b.phone → a = b := by
    intro a b hb ha hne hmem hsome hsame
    rcases hphone a with hkept | hfree
    · rw [hkept] at hsome hsame
      exact hwf a hmem b hb (.inr (.inr ⟨hsome, hsame⟩))
    · exfalso
      have hall := List.any_eq_false.mp hfree b hb
      rw [hsome, hsame] at hall
      simp [hne] at hall
  intro a ha b hb hsame
  obtain ⟨a₀, ha₀, ⟨hka, rfl⟩ | ⟨hka, rfl⟩⟩ := Table.mem_update_cases ha
  · obtain ⟨b₀, hb₀, ⟨hkb, rfl⟩ | ⟨hkb, rfl⟩⟩ := Table.mem_update_cases hb
    · rw [Table.eq_of_key_eq ha₀ hb₀ (hka.trans hkb.symm)]
    · exfalso
      have hne : a₀ ≠ b := fun heq => hkb (heq ▸ hka)
      rcases hsame with h₁ | h₂ | ⟨hsome, h₃⟩
      · exact hne (hwf a₀ ha₀ b hb₀ (.inl ((hsub a₀).symm.trans h₁)))
      · exact hne (hwf a₀ ha₀ b hb₀ (.inr (.inl ((hemail a₀).symm.trans h₂))))
      · exact hne (hother a₀ b hb₀ hka hkb ha₀ hsome h₃)
  · obtain ⟨b₀, hb₀, ⟨hkb, rfl⟩ | ⟨hkb, rfl⟩⟩ := Table.mem_update_cases hb
    · exfalso
      have hne : b₀ ≠ a := fun heq => hka (heq ▸ hkb)
      rcases hsame with h₁ | h₂ | ⟨hsome, h₃⟩
      · exact hne (hwf b₀ hb₀ a ha₀ (.inl ((hsub b₀).symm.trans h₁.symm)))
      · exact hne (hwf b₀ hb₀ a ha₀ (.inr (.inl ((hemail b₀).symm.trans h₂.symm))))
      · exact hne (hother b₀ a ha₀ hkb hka hb₀ (h₃ ▸ hsome) h₃.symm)
    · exact hwf a ha₀ b hb₀ hsame

/-- A rewrite of accounts that leaves their roles leaves the profiles where they belong. -/
theorem profiles_update {f : UserRecord → UserRecord} (hf : ∀ a, (f a).id = a.id)
    (hwf : s.WellFormed) (hrole : ∀ a, (f a).role = a.role) (v : UserId) (role : UserRole) :
    s.hasProfile v role ↔
      role ∈ signupRoles ∧ ∃ a, (s.users.update id f hf).find? v = some a ∧ a.role = role := by
  rw [hwf.profiles v role, Table.find?_update]
  refine and_congr_right fun _ => ?_
  split
  · constructor
    · rintro ⟨a, ha, rfl⟩
      exact ⟨f a, by rw [ha]; rfl, hrole a⟩
    · rintro ⟨b, hb, rfl⟩
      obtain ⟨a, ha, rfl⟩ := Option.map_eq_some_iff.mp hb
      exact ⟨a, ha, (hrole a).symm⟩
  · exact Iff.rfl

theorem wellFormed_update {f : UserRecord → UserRecord} {hf : ∀ a, (f a).id = a.id} (hwf : s.WellFormed)
    (hlogin : ∀ a, (f a).supabaseId = a.supabaseId ∧ (f a).email = a.email ∧ (f a).role = a.role)
    (hphone : ∀ a, (f a).phone = a.phone ∨ s.phoneTaken id (f a).phone = false) :
    { s with users := s.users.update id f hf }.WellFormed where
  unique := unique_update hf hwf.unique (fun a => (hlogin a).1) (fun a => (hlogin a).2.1) hphone
  profiles := profiles_update hf hwf fun a => (hlogin a).2.2

/-- **Every step keeps the accounts well formed.** -/
theorem IdentityStep.wellFormed (hstep : IdentityStep call h site s s') (hwf : s.WellFormed) :
    s'.WellFormed := by
  cases hstep with
  | noop => exact hwf
  | getUserById sub user huser => exact ⟨hwf.unique, hwf.profiles⟩
  | create authUser row hcall htold hsub hrole hphone hemail hverified hrun =>
    obtain ⟨hnew, -, -, hunique, hadded⟩ := openAccount_ok hrole hrun
    constructor
    · intro a ha b hb hsame
      rcases (Table.mem_insert hnew).mp ha with rfl | ha
      · rcases (Table.mem_insert hnew).mp hb with rfl | hb
        · rfl
        · exact absurd hsame (hunique b hb)
      · rcases (Table.mem_insert hnew).mp hb with rfl | hb
        · refine absurd ?_ (hunique a ha)
          rcases hsame with h₁ | h₂ | ⟨hsome, h₃⟩
          · exact .inl h₁.symm
          · exact .inr (.inl h₂.symm)
          · exact .inr (.inr ⟨h₃ ▸ hsome, h₃.symm⟩)
        · exact hwf.unique a ha b hb hsame
    · intro v role
      have habsent := (Table.insert?_eq_some.mp hnew).1
      rw [hadded v role, hwf.profiles v role, Table.find?_insert hnew]
      constructor
      · rintro (⟨hsign, a, ha, harole⟩ | ⟨rfl, rfl⟩)
        · refine ⟨hsign, a, ?_, harole⟩
          have hne : v ≠ row.id := by
            rintro rfl
            cases ha.symm.trans habsent
          exact (if_neg hne).trans ha
        · exact ⟨hrole, row, if_pos rfl, rfl⟩
      · rintro ⟨hsign, a, ha, harole⟩
        split at ha
        · rename_i hv
          cases ha
          exact .inr ⟨hv, harole.symm⟩
        · exact .inl ⟨hsign, a, ha, harole⟩
  | profile row hcall hread hrun =>
    obtain ⟨rfl, hfree⟩ := saveProfile_ok hrun
    refine wellFormed_update hwf ?_ ?_
    · exact fun _ => ⟨rfl, rfl, rfl⟩
    intro a
    rename_i dto
    have hwritten : (dto.fields a).phone = dto.phone.written a.phone := rfl
    rw [hwritten]
    cases hsent : dto.phone with
    | missing => exact .inl rfl
    | null =>
      rw [hsent] at hfree
      exact .inr (hfree rfl)
    | value phone =>
      rw [hsent] at hfree
      exact .inr (hfree rfl)
  | emails authUsers hphones => exact ⟨hwf.unique, hwf.profiles⟩
  | verifyOtp email code user => exact ⟨hwf.unique, hwf.profiles⟩
  | markEmailVerified sub session row haccepted hown hrow =>
    refine wellFormed_update hwf ?_ ?_
    · exact fun _ => ⟨rfl, rfl, rfl⟩
    · exact fun _ => .inl rfl
  | checkPhoneOtp hcall => exact ⟨hwf.unique, hwf.profiles⟩
  | confirmPhone hcall haccepted huser => exact ⟨hwf.unique, hwf.profiles⟩
  | savePhone row hcall haccepted hrow hfree =>
    refine wellFormed_update hwf ?_ ?_
    · exact fun _ => ⟨rfl, rfl, rfl⟩
    · exact fun _ => .inr hfree

/-! ## Runs -/

/-- A step of a run is one of the steps of its call, and the accounts that the call has read are
still there. -/
theorem identity_step {s₀ : IdentityDb} {actions : List (Pool.Action (identityService cfg))}
    {later earlier : List (Entry identityMachine)} {e : Entry identityMachine}
    (hsplit : (poolRun s₀ actions).trace = later ++ e :: earlier) :
    ∃ c, (poolRun s₀ actions).call? e.thread = some c ∧
      IdentityStep c (Pool.ownSteps e.thread earlier) e.site e.pre e.post ∧
      ∀ t ∈ Pool.ownSteps e.thread earlier, t.pre.KeepsAccounts e.pre := by
  have hsteps : ∀ e ∈ (poolRun s₀ actions).trace, e.pre.KeepsAccounts e.post := by
    intro e he
    obtain ⟨later, earlier, hsplit⟩ := List.append_of_mem he
    obtain ⟨c, -, hstep⟩ := Pool.own_step (fun _ _ _ _ => trivial) (fun _ => identityHandle_sat) hsplit
    exact IdentityStep.keepsAccounts hstep
  have hchain := Pool.chain IdentityDb.KeepsAccounts.refl IdentityDb.KeepsAccounts.trans
    applyIdentityEvent_keepsAccounts actions hsteps
  obtain ⟨c, hc, hstep⟩ := Pool.own_step (fun _ _ _ _ => trivial) (fun _ => identityHandle_sat) hsplit
  refine ⟨c, hc, hstep, fun t ht => ?_⟩
  obtain ⟨e', he', rfl⟩ := List.mem_map.mp ht
  have hmem := (List.mem_filter.mp he').1
  have hnow := hchain.between later e earlier hsplit e' hmem
  refine IdentityDb.KeepsAccounts.trans _ _ _ (hsteps e' ?_) hnow
  rw [hsplit]
  exact List.mem_append_right _ (List.mem_cons_of_mem _ hmem)

/-- A row after a rewrite of one account. -/
theorem mem_rewritten {f : UserRecord → UserRecord} (hf : ∀ a, (f a).id = a.id)
    (ha : a ∈ (s.users.update id f hf).rows) :
    ∃ a₀ ∈ s.users.rows, a₀.id = id ∧ a = f a₀ ∨ a₀.id ≠ id ∧ a = a₀ :=
  Table.mem_update_cases ha

/-- A row that a rewrite has changed is the one that it is about. -/
theorem written_update {f : UserRecord → UserRecord} (hf : ∀ a, (f a).id = a.id)
    (ha : (s.users.update row.id f hf).find? id = some a') (hmoved : s.users.find? id ≠ some a') :
    ∃ a, s.users.find? id = some a ∧ id = row.id ∧ a' = f a := by
  obtain ⟨a, ha₀, ⟨hid, rfl⟩ | ⟨-, rfl⟩⟩ := Table.find?_update_some ha
  · exact ⟨a, ha₀, hid, rfl⟩
  · exact absurd ha₀ hmoved

/-- What a step writes to an account. -/
theorem IdentityStep.written (hstep : IdentityStep call h site s s')
    (hlater : ∀ t ∈ h, t.pre.KeepsAccounts s) (ha : s'.users.find? id = some a')
    (hmoved : s.users.find? id ≠ some a') :
    call.login = some a'.supabaseId ∨ call.login = none ∧ (∃ t ∈ h, AcceptsEmail a'.supabaseId t) ∧
      ∃ a, s.users.find? id = some a ∧ a' = { a with emailVerified := true } := by
  cases hstep with
  | noop => exact absurd ha hmoved
  | getUserById sub user huser => exact absurd ha hmoved
  | create authUser row hcall htold hsub hrole hphone hemail hverified hrun =>
    have hnew := (openAccount_ok hrole hrun).1
    rw [Table.find?_insert hnew] at ha
    split at ha
    · cases ha
      rw [hcall, hsub]
      exact .inl rfl
    · exact absurd ha hmoved
  | profile row hcall hread hrun =>
    obtain ⟨rfl, -⟩ := saveProfile_ok hrun
    obtain ⟨a, ha₀, rfl, rfl⟩ := written_update (by intro _; rfl) ha hmoved
    -- the row under this id is the one that the call found under its login
    obtain ⟨t, ht, hfound⟩ := hread
    obtain ⟨hmem, hlogin⟩ := IdentityDb.accountOf_some hfound
    obtain ⟨row', hrow', hkeeps⟩ := hlater t ht row hmem
    obtain rfl : row' = a := Option.some.inj (hrow'.symm.trans ha₀)
    rw [hcall]
    refine .inl (congrArg some ?_)
    exact hlogin.symm.trans hkeeps.supabaseId.symm
  | emails authUsers hphones => exact absurd ha hmoved
  | verifyOtp email code user => exact absurd ha hmoved
  | markEmailVerified sub session row haccepted hown hrow =>
    obtain ⟨a, ha₀, rfl, rfl⟩ := written_update (by intro _; rfl) ha hmoved
    obtain ⟨hmem, hlogin⟩ := IdentityDb.accountOf_some hrow
    obtain rfl : row = a := Option.some.inj ((Table.find?_of_mem hmem).symm.trans ha₀)
    rcases hown with hown | ⟨hnone, rfl⟩
    · rw [hown, ← hlogin]
      exact .inl rfl
    · rw [← hlogin] at haccepted
      exact .inr ⟨hnone, haccepted, row, ha₀, rfl⟩
  | checkPhoneOtp hcall => exact absurd ha hmoved
  | confirmPhone hcall haccepted huser => exact absurd ha hmoved
  | savePhone row hcall haccepted hrow hfree =>
    obtain ⟨a, ha₀, rfl, rfl⟩ := written_update (by intro _; rfl) ha hmoved
    obtain ⟨hmem, hlogin⟩ := IdentityDb.accountOf_some hrow
    obtain rfl : row = a := Option.some.inj ((Table.find?_of_mem hmem).symm.trans ha₀)
    rw [hcall]
    exact .inl (congrArg some hlogin.symm)

end

/-- **One account for each.** In every interleaving of any calls, and of what Supabase does by itself,
from a state in which it is so: no two accounts share a login, an email or a phone, each has the profile
of its role and no other, and no profile is without its account. An account lasts, under its login, with
its email, its role and its consents. -/
theorem accounts_well_formed (cfg : PreludeConfig) (s₀ : IdentityDb) (hwf : s₀.WellFormed)
    (before after : List (Pool.Action (identityService cfg))) :
    (poolRun s₀ (before ++ after)).state.WellFormed ∧
      (poolRun s₀ before).state.KeepsAccounts (poolRun s₀ (before ++ after)).state := by
  constructor
  · refine Pool.history (S := identityService cfg) (I := fun s _ => IdentityDb.WellFormed s) hwf ?_ _
      fun later e earlier hsplit hpre => ?_
    · intro e s trace hs
      cases e with
      | time ms => exact ⟨hs.unique, hs.profiles⟩
      | supabase user => exact ⟨hs.unique, hs.profiles⟩
    · obtain ⟨c, -, hstep, -⟩ := identity_step hsplit
      exact hstep.wellFormed hpre
  · refine Pool.leads IdentityDb.KeepsAccounts.refl IdentityDb.KeepsAccounts.trans
      applyIdentityEvent_keepsAccounts before after fun e he => ?_
    obtain ⟨later, earlier, hsplit⟩ := List.append_of_mem he
    obtain ⟨c, -, hstep, -⟩ := identity_step hsplit
    exact hstep.keepsAccounts

/-- Alice has signed up and confirmed her email; nobody has an account. -/
def signedUp : IdentityDb where
  now := 0
  authUsers := ⟨[⟨"alice", some "alice@mail.fr", true, none, false, .null, []⟩], by decide⟩
  users := .empty
  buyerProfiles := .empty
  sellerProfiles := .empty
  driverProfiles := .empty
  accepted := []
  told := []

theorem signedUp_wellFormed : signedUp.WellFormed where
  unique a ha := nomatch ha
  profiles u role := by
    have hnone : signedUp.users.find? u = none := rfl
    rw [hnone]
    refine iff_of_false ?_ fun h => ?_
    · cases role <;> exact fun h => nomatch h
    · obtain ⟨-, a, ha, -⟩ := h
      cases ha

def alice : JwtIdentity := ⟨"alice", some "alice@mail.fr", none⟩

def signupForm (role : UserRole) (hrole : role ∈ signupRoles) : CreateUserDto :=
  ⟨"Alice", "Martin", role, none, true, true, hrole, rfl, rfl⟩

theorem buyer_signs_up : UserRole.buyer ∈ signupRoles := List.mem_cons_self ..

/-- A remote service goes through, and an account gets the id. -/
def goesThrough (id : Nat) : IdentityAnswer := ⟨true, none, .success, "success", ⟨id, 0⟩, "", false⟩

/-- Two requests of Alice at once, for a buyer's and for a seller's account. -/
def twoSignups : List (Pool.Action (identityService ⟨"key"⟩)) :=
  [.arrive (.createFromJwt alice (signupForm .buyer buyer_signs_up)),
    .arrive (.createFromJwt alice (signupForm .seller (by decide))),
    .run 0 (goesThrough 1), .run 1 (goesThrough 2), .run 0 (goesThrough 1), .run 1 (goesThrough 2),
    .run 0 (goesThrough 1), .run 1 (goesThrough 2), .run 1 (goesThrough 2), .run 0 (goesThrough 1)]

theorem twoSignups_well_formed :
    (poolRun signedUp (twoSignups.take 9 ++ twoSignups.drop 9)).state.WellFormed ∧
      (poolRun signedUp (twoSignups.take 9)).state.KeepsAccounts
        (poolRun signedUp (twoSignups.take 9 ++ twoSignups.drop 9)).state :=
  accounts_well_formed ⟨"key"⟩ signedUp signedUp_wellFormed (twoSignups.take 9) (twoSignups.drop 9)

/-- **Only the owner writes an account.** In every interleaving, a step that writes the row of an
account is of a call under the login of this account; or it marks the email as verified, in a social
login for which Supabase has accepted a code and opened a session of this login. -/
theorem account_written_by_owner (cfg : PreludeConfig) (s₀ : IdentityDb)
    (actions : List (Pool.Action (identityService cfg))) {e : Entry identityMachine}
    (he : e ∈ (poolRun s₀ actions).trace) {id : UserId} {a' : UserRecord}
    (ha : e.post.users.find? id = some a') (hmoved : e.pre.users.find? id ≠ some a') :
    ∃ c, (poolRun s₀ actions).call? e.thread = some c ∧
      (c.login = some a'.supabaseId ∨
        c.login = none ∧
          (∃ t ∈ Pool.ownSteps e.thread (poolRun s₀ actions).trace, AcceptsEmail a'.supabaseId t) ∧
          ∃ a, e.pre.users.find? id = some a ∧ a' = { a with emailVerified := true }) := by
  obtain ⟨later, earlier, hsplit⟩ := List.append_of_mem he
  obtain ⟨c, hc, hstep, hlater⟩ := identity_step hsplit
  refine ⟨c, hc, (hstep.written hlater ha hmoved).imp_right ?_⟩
  rintro ⟨hnone, ⟨t, ht, haccepts⟩, hmarked⟩
  refine ⟨hnone, ⟨t, ?_, haccepts⟩, hmarked⟩
  rw [Pool.ownSteps_of_split hsplit]
  exact List.mem_append_right _ (List.mem_cons_of_mem _ ht)

/-- The step that opens Alice's account. -/
def signupStep : Entry identityMachine := (poolRun signedUp twoSignups).trace.get ⟨1, by decide +kernel⟩

/-- The account as it is then. -/
def newAccount : UserRecord := (signupStep.post.users.find? ⟨2, 0⟩).get (by decide +kernel)

theorem newAccount_written_by_owner :
    ∃ c, (poolRun signedUp twoSignups).call? signupStep.thread = some c ∧
      (c.login = some newAccount.supabaseId ∨
        c.login = none ∧
          (∃ t ∈ Pool.ownSteps signupStep.thread (poolRun signedUp twoSignups).trace,
            AcceptsEmail newAccount.supabaseId t) ∧
          ∃ a, signupStep.pre.users.find? ⟨2, 0⟩ = some a ∧ newAccount = { a with emailVerified := true }) :=
  account_written_by_owner ⟨"key"⟩ signedUp twoSignups (List.get_mem _ _) (Option.some_get _).symm
    (by decide +kernel)

end IncaCook
