import IncaCook.Library.Statement
import IncaCook.Model.Identities

/-!
# The steps of the identities

`IdentityStep` lists what one step of a call can do, given the steps that the call took before it:
what it writes rests on what it has read itself, and on the codes that it has had accepted. In
between, the other calls and Supabase may have changed anything.

Main result:

* `identityHandle_sat`: every call takes only such steps.
-/

namespace IncaCook

open Prog Users Auth

/-! ## What a call goes by -/

/-- The phone of an auth user, and whether it is confirmed. -/
def IdentityDb.authPhone (db : IdentityDb) (sub : String) : Option String × Bool :=
  let user := db.authUsers.find? sub
  (user.bind AuthUser.phone, user.any AuthUser.phoneConfirmed)

/-- Prelude has accepted a code for the phone. -/
def AcceptsPhone (phone : String) (t : StepRecord identityMachine) : Prop :=
  ∃ code, t.post.accepted = .phone phone code :: t.pre.accepted

/-- Supabase has accepted a code and opened a session of the auth user. -/
def AcceptsEmail (session : String) (t : StepRecord identityMachine) : Prop :=
  ∃ email code, t.post.accepted = .email email code session :: t.pre.accepted

/-- A call has asked Supabase for the auth user, and this is what it was told. -/
structure Tells (sub : String) (user : Option AuthUser) (t : StepRecord identityMachine) : Prop where
  site : t.site = .getUserById sub
  told : t.post.told = (sub, user) :: t.pre.told
  /-- what is told of a user is so at the time -/
  user : ∀ u, user = some u → t.pre.authUsers.find? sub = some u

/-- The identity behind a call. The social logins have none yet. -/
def IdentityCall.login : IdentityCall → Option String
  | .createFromJwt identity _ | .syncFromJwt identity | .updateProfile identity _
  | .requestEmailOtp identity _ | .attachEmail identity _ | .verifyEmailOtp identity _ _
  | .requestPhoneOtp identity _ | .verifyPhoneOtp identity _ _ => some identity.supabaseId
  | .requestSocialEmailOtp _ _ | .verifySocialEmailOtp _ _ _ => none

/-- What one step of a call can do after its steps `h`. -/
inductive IdentityStep (call : IdentityCall) (h : List (StepRecord identityMachine)) :
    IdentitySite → IdentityDb → IdentityDb → Prop where
  /-- a read, a remote call, or a statement that failed -/
  | noop (site : IdentitySite) (s : IdentityDb) : IdentityStep call h site s s
  /-- without an answer nobody is told anything -/
  | getUserById {s : IdentityDb} (sub : String) (user : Option AuthUser)
      (huser : ∀ u, user = some u → s.authUsers.find? sub = some u) :
      IdentityStep call h (.getUserById sub) s { s with told := (sub, user) :: s.told }
  /-- the row goes by the auth user that the call was told of -/
  | create {identity : JwtIdentity} {dto : CreateUserDto} {s s' : IdentityDb} (authUser : Option AuthUser)
      (row : UserRecord) (hcall : call = .createFromJwt identity dto)
      (htold : ∃ t ∈ h, Tells identity.supabaseId authUser t)
      (hsub : row.supabaseId = identity.supabaseId) (hrole : row.role ∈ signupRoles)
      (hphone : (truthy (knownPhone identity authUser)).isSome = true →
        row.phone = knownPhone identity authUser)
      (hemail : row.emailVerified = authUser.any AuthUser.emailConfirmed)
      (hverified : row.phoneVerified = authUser.any AuthUser.phoneConfirmed)
      (hrun : openAccount row s = .ok ((), s')) :
      IdentityStep call h (.createAccount identity.supabaseId) s s'
  | profile {identity : JwtIdentity} {dto : UpdateUserDto} {s s' : IdentityDb} (row : UserRecord)
      (hcall : call = .updateProfile identity dto)
      (hread : ∃ t ∈ h, t.pre.accountOf identity.supabaseId = some row)
      (hrun : saveProfile row.id dto s = .ok ((), s')) :
      IdentityStep call h (.updateProfile row.id) s s'
  /-- the emails of the auth users -/
  | emails {site : IdentitySite} {s : IdentityDb} (authUsers : Table AuthUser)
      (hphones : ∀ sub, { s with authUsers }.authPhone sub = s.authPhone sub) :
      IdentityStep call h site s { s with authUsers }
  | verifyOtp {s : IdentityDb} (email code : String) (user : AuthUser) :
      IdentityStep call h (.verifyOtp email) s { s with
        authUsers := s.authUsers.update user.id fun u : AuthUser => { u with emailConfirmed := true }
        accepted := .email email code user.id :: s.accepted }
  | markEmailVerified {s : IdentityDb} (sub session : String) (row : UserRecord)
      (haccepted : ∃ t ∈ h, AcceptsEmail session t)
      (hown : call.login = some sub ∨ call.login = none ∧ session = sub)
      (hrow : s.accountOf sub = some row) :
      IdentityStep call h (.markEmailVerified sub) s { s with
        users := s.users.update row.id fun a : UserRecord => { a with emailVerified := true } }
  | checkPhoneOtp {identity : JwtIdentity} {phone : E164} {code : String} {s : IdentityDb}
      (hcall : call = .verifyPhoneOtp identity phone code) :
      IdentityStep call h (.checkPhoneOtp phone.text) s
        { s with accepted := .phone phone.text code :: s.accepted }
  | confirmPhone {identity : JwtIdentity} {phone : E164} {code : String} {s : IdentityDb}
      {user : AuthUser} (hcall : call = .verifyPhoneOtp identity phone code)
      (haccepted : ∃ t ∈ h, AcceptsPhone phone.text t)
      (huser : s.authUsers.find? identity.supabaseId = some user) :
      IdentityStep call h (.confirmPhone identity.supabaseId) s { s with
        authUsers := s.authUsers.update identity.supabaseId fun u : AuthUser =>
          { u with phone := some (withoutPlus phone.text), phoneConfirmed := true } }
  | savePhone {identity : JwtIdentity} {phone : E164} {code : String} {s : IdentityDb}
      (row : UserRecord) (hcall : call = .verifyPhoneOtp identity phone code)
      (haccepted : ∃ t ∈ h, AcceptsPhone phone.text t)
      (hrow : s.accountOf identity.supabaseId = some row)
      (hfree : s.phoneTaken row.id (some phone.text) = false) :
      IdentityStep call h (.savePhone identity.supabaseId) s { s with
        users := s.users.update row.id fun a : UserRecord =>
          { a with phone := some phone.text, phoneVerified := true } }

/-- The contract of a call: it takes such steps, whatever the others do. -/
def identityContract (call : IdentityCall) : Contract identityMachine where
  rely _ _ := True
  guar h site s s' := IdentityStep call h site s s'

section

variable {α : Type} {call : IdentityCall} {h : List (StepRecord identityMachine)} {s : IdentityDb}
  {cfg : PreludeConfig} {identity : JwtIdentity} {sub : String}

/-! ## The auth users -/

/-- A change of one auth user that leaves the phone. -/
theorem authPhone_update {s' : IdentityDb} {id : String} {f : AuthUser → AuthUser}
    (hf : ∀ u, (f u).id = u.id) (hs : s'.authUsers = s.authUsers.update id f hf)
    (hphone : ∀ u, (f u).phone = u.phone ∧ (f u).phoneConfirmed = u.phoneConfirmed) (sub : String) :
    s'.authPhone sub = s.authPhone sub := by
  simp only [IdentityDb.authPhone]
  rw [hs, Table.find?_update]
  split
  · cases s.authUsers.find? sub with
    | none => rfl
    | some u =>
      obtain ⟨hsame, hconfirmed⟩ := hphone u
      simp [hsame, hconfirmed]
  · rfl

/-- A new auth user has no phone. -/
theorem authPhone_insert {user : AuthUser} {authUsers : Table AuthUser}
    (hnew : s.authUsers.insert? user = some authUsers) (hphone : user.phone = none)
    (hconfirmed : user.phoneConfirmed = false) (sub : String) :
    { s with authUsers }.authPhone sub = s.authPhone sub := by
  have habsent := (Table.insert?_eq_some.mp hnew).1
  simp only [IdentityDb.authPhone]
  rw [Table.find?_insert hnew]
  split
  · rename_i hsub
    rw [hsub, habsent]
    simp [hphone, hconfirmed]
  · rfl

theorem updateUserById_ok {answer : IdentityAnswer} {f : AuthUser → AuthUser}
    {hf : ∀ u, (f u).id = u.id} {s s' : IdentityDb} {u : Unit} :
    updateUserById sub answer f hf s = .ok (u, s') →
      (∃ user, s.authUsers.find? sub = some user) ∧
        s' = { s with authUsers := s.authUsers.update sub f hf } := by
  intro hrun
  simp only [updateUserById, Stmt.bind_ok, Stmt.get_ok, Stmt.throwIf_ok, Stmt.orThrow_ok,
    Stmt.set_ok] at hrun
  obtain ⟨_, _, ⟨rfl, rfl⟩, _, _, ⟨-, rfl⟩, authUsers, _, ⟨hupdate, rfl⟩, rfl⟩ := hrun
  obtain ⟨hfound, rfl⟩ := Table.update?_eq_some.mp hupdate
  exact ⟨hfound, rfl⟩

/-! ## The handlers -/

theorem identity_noop (call : IdentityCall) (h : List (StepRecord identityMachine)) (site : IdentitySite)
    (s : IdentityDb) : (identityContract call).guar h site s s := .noop site s

theorem identity_query {f : IdentityDb → α} : Free (identityContract call) (read .query f) :=
  free_read fun h s => identity_noop call h .query s

/-- What Supabase tells a call of an auth user, is so at the time. -/
theorem getUserById_bind {k : Option AuthUser → IdentityHandler α} {Q : Post identityMachine α}
    (hk : ∀ user t s, Tells sub user t → Sat (identityContract call) Q (k user) (t :: h) s)
    (herr : ∀ t e s, Q (t :: h) (.error e) s) :
    Sat (identityContract call) Q (getUserById sub >>= k) h s := by
  refine sat_await_bind fun s' _ i => ⟨fun _ _ => ⟨identity_noop .., herr _ _ _⟩, fun user s'' hrun => ?_⟩
  simp only [Stmt.bind_ok, Stmt.get_ok, Stmt.set_ok, Stmt.pure_ok] at hrun
  obtain ⟨_, _, ⟨rfl, rfl⟩, _, _, rfl, rfl, rfl⟩ := hrun
  refine ⟨.getUserById sub _ ?_, hk _ _ _ ⟨rfl, rfl, ?_⟩⟩
  · exact fun u hu => (Option.ite_none_right_eq_some.mp hu).2
  · exact fun u hu => (Option.ite_none_right_eq_some.mp hu).2

theorem attachEmail_free {email : String} : Free (identityContract call) (attachEmail sub email) := by
  refine free_await (fun h s => identity_noop call h _ s) fun h i s u s' hrun => ?_
  obtain ⟨-, rfl⟩ := updateUserById_ok hrun
  refine .emails _ (authPhone_update (by intro _; rfl) rfl ?_)
  exact fun _ => ⟨rfl, rfl⟩

theorem signInWithOtp_free {email : String} {create : Bool} :
    Free (identityContract call) (await (.signInWithOtp email) fun i => signInWithOtp email create i) := by
  refine free_await (fun h s => identity_noop call h _ s) fun h i s u s' hrun => ?_
  simp only [signInWithOtp, Stmt.bind_ok, Stmt.get_ok, Stmt.throwIf_ok] at hrun
  obtain ⟨_, _, ⟨rfl, rfl⟩, _, _, ⟨-, rfl⟩, hrun⟩ := hrun
  split at hrun
  · simp only [Stmt.bind_ok, Stmt.orThrow_ok, Stmt.set_ok] at hrun
    obtain ⟨authUsers, _, ⟨hnew, rfl⟩, rfl⟩ := hrun
    exact .emails authUsers (authPhone_insert hnew rfl rfl)
  · obtain ⟨-, rfl⟩ := Stmt.pure_ok.mp hrun
    exact .noop _ s'

theorem requestEmailOtp_free {email : String} {attach : Bool} :
    Free (identityContract call) (requestEmailOtp sub email attach) := by
  cases attach with
  | true => exact free_bind attachEmail_free fun _ => signInWithOtp_free
  | false => exact signInWithOtp_free

theorem assertSupportedSocialProvider_free {provider : String} :
    Free (identityContract call) (assertSupportedSocialProvider provider) := by
  unfold assertSupportedSocialProvider
  exact free_throwIf

theorem requestSocialEmailOtp_free {provider email : String} :
    Free (identityContract call) (requestSocialEmailOtp provider email) := by
  refine free_bind assertSupportedSocialProvider_free fun _ => ?_
  refine free_bind (free_bind identity_query fun owner => ?_) fun _ => signInWithOtp_free
  exact free_throwIf

theorem assertPhoneAvailable_free {phone : String} :
    Free (identityContract call) (assertPhoneAvailable sub phone) :=
  free_bind identity_query fun _ => free_throwIf

theorem requestPhoneOtp_free {phone : String} :
    Free (identityContract call) (requestPhoneOtp cfg sub phone) := by
  refine free_bind assertPhoneAvailable_free fun _ => free_bind ?_ fun _ => free_throwIf
  refine free_bind free_throwIf fun _ => ?_
  exact free_bind (free_ask fun h s => identity_noop call h _ s) fun _ => free_orThrow

theorem findBySupabaseId_free : Free (identityContract call) (findBySupabaseId sub) :=
  free_bind identity_query fun _ => free_orThrow

theorem syncFromJwt_free : Free (identityContract call) (syncFromJwt identity) := by
  refine free_bind identity_query fun existing => free_ite ?_ ?_
  · exact free_bind findBySupabaseId_free fun _ => free_pure
  · refine fun h s => getUserById_bind (fun authUser t s _ => ?_) fun _ _ _ => trivial
    generalize pickEmail identity.email authUser = picked
    obtain ⟨email, source⟩ := picked
    cases email with
    | none => exact free_pure _ _
    | some email => exact free_bind (free_bind identity_query fun _ => free_throwIf) (fun _ => free_pure) _ _

/-- After a code was accepted, the account is marked. -/
theorem mirrorEmailVerified_sat {session : String} (haccepted : ∃ t ∈ h, AcceptsEmail session t)
    (hown : call.login = some sub ∨ call.login = none ∧ session = sub) :
    Sat (identityContract call) anyPost (mirrorEmailVerified sub) h s := by
  refine sat_tryCatch (sat_await fun s' _ i => ⟨fun e _ => ⟨identity_noop .., ?_⟩, fun u s'' hrun => ?_⟩)
  · exact free_ite free_pure free_throw _ _
  · simp only [markEmailVerified, Stmt.bind_ok, Stmt.get_ok, Stmt.orThrow_ok, Stmt.set_ok] at hrun
    obtain ⟨_, _, ⟨rfl, rfl⟩, row, _, ⟨hrow, rfl⟩, rfl⟩ := hrun
    exact ⟨.markEmailVerified sub session row haccepted hown hrow, trivial⟩

/-- A code for an email is refused, or it opens a session. -/
theorem verifyOtp_bind {email code : String} {k : Except (Option AuthError) String → IdentityHandler α}
    (herror : ∀ e h s, Sat (identityContract call) anyPost (k (.error e)) h s)
    (hok : ∀ session h s, (∃ t ∈ h, AcceptsEmail session t) →
      Sat (identityContract call) anyPost (k (.ok session)) h s) :
    Sat (identityContract call) anyPost (verifyOtp email code >>= k) h s := by
  refine sat_await_bind fun s' _ i => ⟨fun _ _ => ⟨identity_noop .., trivial⟩, fun outcome s'' hrun => ?_⟩
  simp only [Stmt.bind_ok, Stmt.get_ok] at hrun
  obtain ⟨_, _, ⟨rfl, rfl⟩, hrun⟩ := hrun
  generalize (if i.ok = true then IdentityDb.authUserByEmail _ email else none) = found at hrun
  cases found with
  | none =>
    obtain ⟨rfl, rfl⟩ := Stmt.pure_ok.mp hrun
    exact ⟨identity_noop .., herror _ _ _⟩
  | some user =>
    simp only [Stmt.bind_ok, Stmt.set_ok, Stmt.pure_ok] at hrun
    obtain ⟨_, _, rfl, rfl, rfl⟩ := hrun
    refine ⟨.verifyOtp email code user, hok _ _ _ ⟨_, List.mem_cons_self .., email, code, rfl⟩⟩

theorem verifyEmailOtp_sat {email code : String} (hlogin : call.login = some sub) :
    Sat (identityContract call) anyPost (verifyEmailOtp sub email code) h s := by
  refine verifyOtp_bind (fun _ _ _ => trivial) fun session h s haccepted => ?_
  exact sat_bind_free (mirrorEmailVerified_sat haccepted (.inl hlogin)) fun _ => free_pure

theorem verifySocialEmailOtp_sat {provider email code : String} (hlogin : call.login = none) :
    Sat (identityContract call) anyPost (verifySocialEmailOtp provider email code) h s := by
  refine sat_throwIf_bind (fun _ => trivial) fun _ => ?_
  refine verifyOtp_bind (fun _ _ _ => trivial) fun session h s haccepted => ?_
  exact sat_bind_free (mirrorEmailVerified_sat haccepted (.inr ⟨hlogin, rfl⟩)) fun _ => free_pure

/-- Confirming a phone ends well only when Supabase has it. -/
def PhoneConfirmed (sub phone : String) (t : StepRecord identityMachine) : Prop :=
  t.site = .confirmPhone sub ∧ t.post.authPhone sub = (some (withoutPlus phone), true)

theorem savePhone_sat {phone : E164} {code : String} {Q : Post identityMachine Unit}
    (hcall : call = .verifyPhoneOtp identity phone code) (haccepted : ∃ t ∈ h, AcceptsPhone phone.text t)
    (herr : ∀ h s e, Q h (.error e) s) (hok : ∀ t s, Q (t :: h) (.ok ()) s) :
    Sat (identityContract call) Q
      (tryCatch (await (.savePhone identity.supabaseId) fun _ => savePhone identity.supabaseId phone.text)
        fun e => if e = .of .uniqueViolation then
          throw (.phoneAlreadyUsed "Ce numéro de téléphone est déjà utilisé.") else throw e) h s := by
  refine sat_tryCatch (sat_await fun s' _ i => ⟨fun e _ => ⟨identity_noop .., ?_⟩, fun u s'' hrun => ?_⟩)
  · exact sat_ite (fun _ => herr _ _ _) fun _ => herr _ _ _
  · simp only [savePhone, Stmt.bind_ok, Stmt.get_ok] at hrun
    obtain ⟨_, s₁, ⟨rfl, rfl⟩, hrun⟩ := hrun
    cases hrow : IdentityDb.accountOf s₁ identity.supabaseId with
    | none =>
      rw [hrow] at hrun
      obtain ⟨-, rfl⟩ := Stmt.pure_ok.mp hrun
      exact ⟨identity_noop .., hok _ _⟩
    | some row =>
      rw [hrow] at hrun
      simp only [Stmt.bind_ok, Stmt.throwIf_ok, Stmt.set_ok] at hrun
      obtain ⟨_, _, ⟨hfree, rfl⟩, rfl⟩ := hrun
      exact ⟨.savePhone row hcall haccepted hrow (Bool.eq_false_iff.mpr hfree), hok _ _⟩

/-- Only with an accepted code does the phone reach Supabase and the account. -/
theorem verifyPhoneOtp_sat {phone : E164} {code : String}
    (hcall : call = .verifyPhoneOtp identity phone code) :
    Sat (identityContract call)
      (fun h r _ => ∀ a, r = .ok a → ∃ t ∈ h, PhoneConfirmed identity.supabaseId phone.text t)
      (verifyPhoneOtp cfg identity.supabaseId phone.text code) h s := by
  have herr : ∀ {β : Type} {h : List (StepRecord identityMachine)} {e : IdentityError} (a : β),
      (Except.error e : Except IdentityError β) = .ok a →
        ∃ t ∈ h, PhoneConfirmed identity.supabaseId phone.text t := fun _ he => by cases he
  refine sat_bind (sat_throwIf_bind (fun _ => herr) fun _ => sat_await fun s₁ _ i => ?_)
  refine ⟨fun _ _ => ⟨identity_noop .., herr⟩, fun status s₂ hrun => ?_⟩
  simp only [Stmt.bind_ok, Stmt.get_ok, Stmt.throwIf_ok] at hrun
  obtain ⟨_, _, ⟨rfl, rfl⟩, _, s₁, ⟨-, rfl⟩, hrun⟩ := hrun
  split at hrun
  case isFalse hrefused =>
    -- Prelude did not accept the code: the call ends at one of the two checks
    obtain ⟨rfl, rfl⟩ := Stmt.pure_ok.mp hrun
    refine ⟨identity_noop .., ?_⟩
    refine sat_throwIf_bind (fun _ => herr) fun _ => sat_throwIf_bind (fun _ => herr) fun hsuccess => ?_
    exact absurd (not_not.mp hsuccess) hrefused
  case isTrue hstatus =>
    simp only [Stmt.bind_ok, Stmt.set_ok, Stmt.pure_ok] at hrun
    obtain ⟨_, _, rfl, rfl, rfl⟩ := hrun
    refine ⟨.checkPhoneOtp hcall, ?_⟩
    refine sat_throwIf_bind (fun _ => herr) fun _ => sat_throwIf_bind (fun _ => herr) fun _ => ?_
    refine sat_bind (sat_read_bind fun s₂ _ => ⟨identity_noop .., ?_⟩)
    refine sat_throwIf (fun _ => herr) fun _ => ?_
    refine sat_await_bind fun s₃ _ j => ⟨fun _ _ => ⟨identity_noop .., herr⟩, fun u s₄ hrun => ?_⟩
    obtain ⟨⟨user, huser⟩, rfl⟩ := updateUserById_ok hrun
    have haccepted : ∀ t : StepRecord identityMachine, ∃ t' ∈ t ::
        ⟨.checkPhoneOtp phone.text, s₁, { s₁ with accepted := .phone phone.text code :: s₁.accepted }⟩ :: h,
        AcceptsPhone phone.text t' :=
      fun t => ⟨_, List.mem_cons_of_mem _ (List.mem_cons_self ..), code, rfl⟩
    refine ⟨.confirmPhone hcall (haccepted _) huser, ?_⟩
    have hconfirmed : PhoneConfirmed identity.supabaseId phone.text ⟨.confirmPhone identity.supabaseId, s₃,
        { s₃ with authUsers := s₃.authUsers.update identity.supabaseId fun u : AuthUser =>
          { u with phone := some (withoutPlus phone.text), phoneConfirmed := true } }⟩ := by
      refine ⟨rfl, ?_⟩
      simp only [IdentityDb.authPhone]
      rw [Table.find?_update_self, huser]
      rfl
    refine sat_bind (savePhone_sat hcall ?_ (fun _ _ _ => herr) fun t s => ?_)
    · obtain ⟨t, ht, hphone⟩ := haccepted ⟨.query, s₂, s₂⟩
      exact ⟨t, List.mem_cons_of_mem _ ht, hphone⟩
    · intro _ _
      exact ⟨_, List.mem_cons_of_mem _ (List.mem_cons_self ..), hconfirmed⟩

/-- The names and the phone of an account are written by its own login. -/
theorem updateProfile_sat {dto : UpdateUserDto} (hcall : call = .updateProfile identity dto) :
    Sat (identityContract call) anyPost (updateProfile identity.supabaseId dto) h s := by
  refine sat_read_bind fun s₁ _ => ⟨identity_noop .., ?_⟩
  refine sat_orThrow_bind (fun _ => trivial) fun row hrow => ?_
  refine sat_await_bind fun s₂ _ i => ⟨fun _ _ => ⟨identity_noop .., trivial⟩, fun _ s₃ hrun => ?_⟩
  exact ⟨.profile row hcall ⟨_, List.mem_cons_self .., hrow⟩ hrun, findBySupabaseId_free _ _⟩

/-- A phone that Supabase has is not replaced by the one that was typed. -/
theorem phoneFor_sat {dto : CreateUserDto} {authUser : Option AuthUser} {P : StepRecord identityMachine → Prop}
    (hP : ∃ t ∈ h, P t) :
    Sat (identityContract call)
      (fun h r _ => (∃ t ∈ h, P t) ∧ ∀ phone, r = .ok phone →
        (truthy (knownPhone identity authUser)).isSome = true → phone = knownPhone identity authUser)
      (phoneFor identity dto authUser) h s := by
  obtain ⟨t, ht, hPt⟩ := hP
  unfold phoneFor
  split
  · rename_i hnone hphone
    refine sat_read_bind fun s₁ _ => ⟨identity_noop .., ⟨t, List.mem_cons_of_mem _ ht, hPt⟩, ?_⟩
    intro _ _ hsome
    rw [hnone] at hsome
    cases hsome
  · refine ⟨⟨t, ht, hPt⟩, fun phone hr _ => ?_⟩
    cases hr
    rfl

/-- An account is opened as Supabase has told of its user. -/
theorem createFromJwt_sat {dto : CreateUserDto} (hcall : call = .createFromJwt identity dto) :
    Sat (identityContract call) anyPost (createFromJwt identity dto) h s := by
  refine sat_read_bind fun s₁ _ => ⟨identity_noop .., ?_⟩
  refine sat_throwIf_bind (fun _ => trivial) fun _ => ?_
  refine getUserById_bind (fun authUser t s₂ htells => ?_) fun _ _ _ => trivial
  refine sat_orThrow_bind (fun _ => trivial) fun email _ => ?_
  -- what it was told stays on record while the email and the phone are looked up
  refine sat_bind (sat_read_bind fun s₃ _ => ⟨identity_noop .., ?_⟩)
  refine sat_throwIf (fun _ => trivial) fun _ => ?_
  have htold : ∃ t' ∈ (⟨.query, s₃, s₃⟩ :: t :: ⟨.query, s₁, s₁⟩ :: h : List (StepRecord identityMachine)),
      Tells identity.supabaseId authUser t' :=
    ⟨t, List.mem_cons_of_mem _ (List.mem_cons_self ..), htells⟩
  refine sat_bind ((phoneFor_sat htold).post fun h' r s₄ hr => ?_)
  obtain ⟨htold, hphone⟩ := hr
  cases r with
  | error e => trivial
  | ok phone =>
    refine sat_await_bind fun s₅ _ j => ⟨fun _ _ => ⟨identity_noop .., trivial⟩, fun _ s₆ hrun => ?_⟩
    simp only [Stmt.bind_ok, Stmt.get_ok] at hrun
    obtain ⟨_, _, ⟨rfl, rfl⟩, hrun⟩ := hrun
    refine ⟨?_, findBySupabaseId_free _ _⟩
    exact .create authUser _ hcall htold rfl dto.valid.1 (hphone phone rfl) rfl rfl hrun

/-- **Every call takes only the steps that `IdentityStep` lists.** -/
theorem identityHandle_sat (call : IdentityCall) (s : IdentityDb) :
    Sat (identityContract call) anyPost (identityHandle cfg call) [] s := by
  cases call with
  | createFromJwt identity dto => exact sat_bind_free (createFromJwt_sat rfl) fun _ => free_pure
  | syncFromJwt identity => exact sat_bind_free (syncFromJwt_free _ _) fun _ => free_pure
  | updateProfile identity dto => exact sat_bind_free (updateProfile_sat rfl) fun _ => free_pure
  | requestEmailOtp identity body =>
    simp only [identityHandle]
    generalize requestedEmail identity body = email
    exact free_bind free_throwIf (fun _ => free_bind requestEmailOtp_free fun _ => free_pure) _ _
  | attachEmail identity body =>
    simp only [identityHandle]
    generalize jsTrim body = email
    exact free_bind free_throwIf (fun _ => free_bind attachEmail_free fun _ => free_pure) _ _
  | verifyEmailOtp identity body code =>
    simp only [identityHandle]
    generalize requestedEmail identity body = email
    refine sat_throwIf_bind (fun _ => trivial) fun _ => ?_
    exact sat_bind_free (verifyEmailOtp_sat rfl) fun _ => free_pure
  | requestSocialEmailOtp provider email =>
    exact free_bind requestSocialEmailOtp_free (fun _ => free_pure) _ _
  | verifySocialEmailOtp provider email code =>
    exact sat_bind_free (verifySocialEmailOtp_sat rfl) fun _ => free_pure
  | requestPhoneOtp identity phone =>
    exact free_bind requestPhoneOtp_free (fun _ => free_pure) _ _
  | verifyPhoneOtp identity phone code =>
    exact sat_bind_free (verifyPhoneOtp_sat rfl).any fun _ => free_pure

end

end IncaCook
