import IncaCook.Properties.Accounts

/-!
# Verified phones and emails

`phoneVerified` and `emailVerified` are copies. Prelude accepts a code, `verifyPhoneOtp` tells Supabase
and then the account, which may not be there yet; `createFromJwt` asks for the auth user, and opens the
account from what it was told some statements later. `updateProfile` writes a new phone and leaves the
mark. Supabase does what it likes between the steps, except for confirming phones where that is assumed.

Main results:

* `phone_verified_by_code`: a phone counts as verified only after a code of the account's own login;
* `email_verified_by_supabase`: the same of emails;
* `verified_phone_reaches_account`: a phone that was verified before the account was opened is the phone
  of the account.
-/

namespace IncaCook

open Prog Users Auth

/-! ## Phone numbers -/

theorem isE164_digits {phone : String} (h : isE164 phone = true) :
    ∃ digits, phone.toList = '+' :: digits ∧ digits ≠ [] ∧ digits.head? ≠ some '+' := by
  unfold isE164 at h
  split at h
  · rename_i first rest heq
    refine ⟨first :: rest, heq, by simp, ?_⟩
    rintro hplus
    obtain rfl : first = '+' := Option.some.inj hplus
    simp [Char.isDigit] at h
  · cases h

theorem withoutPlus_digits {phone : String} {digits : List Char} (hphone : phone.toList = '+' :: digits) :
    withoutPlus phone = String.ofList digits := by
  rw [withoutPlus, hphone]
  rfl

/-- Supabase has the digits of a number, and they make the number again. -/
theorem known_number (phone : E164) :
    truthy (some (withoutPlus phone.text)) = some (withoutPlus phone.text) ∧
      "+" ++ withoutPlus (withoutPlus phone.text) = phone.text := by
  obtain ⟨digits, hphone, hne, hplus⟩ := isE164_digits phone.valid
  rw [withoutPlus_digits hphone]
  constructor
  · have hnonempty : String.ofList digits ≠ "" := by
      intro hempty
      exact hne (by simpa using congrArg String.toList hempty)
    simp [truthy, Option.filter, hnonempty]
  · -- the digits have no sign of their own
    have hdigits : withoutPlus (String.ofList digits) = String.ofList digits := by
      rw [withoutPlus]
      split
      · rename_i rest heq
        rw [String.toList_ofList] at heq
        rw [heq] at hplus
        exact absurd rfl hplus
      · rfl
    rw [hdigits]
    apply String.toList_inj.mp
    rw [String.toList_append, String.toList_ofList, hphone]
    simp

/-! ## What a mark rests on -/

section

variable {cfg : PreludeConfig} {p : Pool (identityService cfg)} {trace earlier : List (Entry identityMachine)}
  {e : Entry identityMachine} {s : IdentityDb} {sub : String}

/-- Prelude accepts a code for the phone, in a call of the login. -/
def AcceptedFor (p : Pool (identityService cfg)) (sub phone : String) (e : Entry identityMachine) : Prop :=
  ∃ identity number code, p.call? e.thread = some (.verifyPhoneOtp identity number code) ∧
    identity.supabaseId = sub ∧ number.text = phone ∧ AcceptsPhone phone e.toStepRecord

def CodeAccepted (p : Pool (identityService cfg)) (trace : List (Entry identityMachine))
    (sub phone : String) : Prop :=
  ∃ e ∈ trace, AcceptedFor p sub phone e

/-- The login has written the phone into its profile. -/
def PhoneTyped (p : Pool (identityService cfg)) (trace : List (Entry identityMachine)) (sub : String)
    (phone : Option String) : Prop :=
  ∃ e ∈ trace, ∃ identity dto id, p.call? e.thread = some (.updateProfile identity dto) ∧
    identity.supabaseId = sub ∧ e.site = .updateProfile id ∧ dto.phone.isSent = true ∧
    dto.phone.orNull = phone

/-- The phone goes back to an accepted code of the login: the code was for it, or the login has typed
it since. -/
def PhoneEarned (p : Pool (identityService cfg)) (trace : List (Entry identityMachine)) (sub : String)
    (phone : Option String) : Prop :=
  ∃ since e before number, trace = since ++ e :: before ∧ AcceptedFor p sub number e ∧
    (phone = some number ∨ PhoneTyped p since sub phone)

theorem CodeAccepted.later {phone : String} (h : CodeAccepted p earlier sub phone)
    (later : List (Entry identityMachine)) : CodeAccepted p (later ++ earlier) sub phone := by
  obtain ⟨e, he, hrest⟩ := h
  exact ⟨e, List.mem_append_right _ he, hrest⟩

/-- The phone of an accepted code. -/
theorem CodeAccepted.earned {phone : String} (h : CodeAccepted p trace sub phone) :
    PhoneEarned p trace sub (some phone) := by
  obtain ⟨e, he, haccepted⟩ := h
  obtain ⟨since, before, rfl⟩ := List.append_of_mem he
  exact ⟨since, e, before, phone, rfl, haccepted, .inl rfl⟩

theorem PhoneEarned.later {phone : Option String} (h : PhoneEarned p earlier sub phone)
    (later : List (Entry identityMachine)) : PhoneEarned p (later ++ earlier) sub phone := by
  obtain ⟨since, e, before, number, rfl, haccepted, hphone⟩ := h
  refine ⟨later ++ since, e, before, number, (List.append_assoc ..).symm, haccepted, hphone.imp_right ?_⟩
  rintro ⟨e', he', htyped⟩
  exact ⟨e', List.mem_append_right _ he', htyped⟩

/-- A phone that is typed takes the place of one that was earned. -/
theorem PhoneEarned.typed {old phone : Option String} (h : PhoneEarned p earlier sub old)
    (htyped : PhoneTyped p [e] sub phone) : PhoneEarned p (e :: earlier) sub phone := by
  obtain ⟨since, e₀, before, number, rfl, haccepted, -⟩ := h
  obtain ⟨e', he', htyped⟩ := htyped
  obtain rfl := List.mem_singleton.mp he'
  exact ⟨e' :: since, e₀, before, number, rfl, haccepted, .inr ⟨e', List.mem_cons_self, htyped⟩⟩

/-- A call that has had a code accepted. -/
theorem CodeAccepted.of_own {identity : JwtIdentity} {phone : E164} {code : String} {j : Nat}
    (hcall : p.call? j = some (.verifyPhoneOtp identity phone code))
    (haccepted : ∃ t ∈ Pool.ownSteps j trace, AcceptsPhone phone.text t) :
    CodeAccepted p trace identity.supabaseId phone.text := by
  obtain ⟨t, ht, haccepts⟩ := haccepted
  obtain ⟨e, he, rfl, rfl⟩ := Pool.mem_of_ownSteps ht
  exact ⟨e, he, identity, phone, code, hcall, rfl, rfl, haccepts⟩

/-- What is confirmed at Supabase, and what is marked on an account, was earned by a code. -/
structure PhonesEarned (p : Pool (identityService cfg)) (s : IdentityDb)
    (trace : List (Entry identityMachine)) : Prop where
  auth : ∀ sub, (s.authPhone sub).2 = true → ∃ phone : E164,
    (s.authPhone sub).1 = some (withoutPlus phone.text) ∧ CodeAccepted p trace sub phone.text
  account : ∀ a ∈ s.users.rows, a.phoneVerified = true → PhoneEarned p trace a.supabaseId a.phone

theorem PhonesEarned.later (h : PhonesEarned p s earlier) (later : List (Entry identityMachine)) :
    PhonesEarned p s (later ++ earlier) where
  auth sub hconfirmed := by
    obtain ⟨phone, hphone, haccepted⟩ := h.auth sub hconfirmed
    exact ⟨phone, hphone, haccepted.later later⟩
  account a ha hverified := (h.account a ha hverified).later later

theorem PhonesEarned.cons (h : PhonesEarned p s earlier) : PhonesEarned p s (e :: earlier) := h.later [e]

/-- The auth users and the marks are as they were. -/
theorem PhonesEarned.of_same {s' : IdentityDb} (h : PhonesEarned p s trace)
    (hauth : ∀ sub, s'.authPhone sub = s.authPhone sub)
    (husers : ∀ a' ∈ s'.users.rows, ∃ a ∈ s.users.rows, a.supabaseId = a'.supabaseId ∧
      a.phone = a'.phone ∧ a.phoneVerified = a'.phoneVerified) : PhonesEarned p s' trace where
  auth sub hconfirmed := by
    rw [hauth] at hconfirmed ⊢
    exact h.auth sub hconfirmed
  account a' ha' hverified := by
    obtain ⟨a, ha, hsub, hphone, hsame⟩ := husers a' ha'
    rw [← hsub, ← hphone]
    exact h.account a ha (hsame.trans hverified)

theorem users_same (s : IdentityDb) : ∀ a' ∈ s.users.rows, ∃ a ∈ s.users.rows,
    a.supabaseId = a'.supabaseId ∧ a.phone = a'.phone ∧ a.phoneVerified = a'.phoneVerified :=
  fun a ha => ⟨a, ha, rfl, rfl, rfl⟩

/-- The phone of a new account with a confirmed auth user. -/
theorem knownPhone_of_confirmed (identity : JwtIdentity) {user : AuthUser} {phone : E164}
    (hphone : user.phone = some (withoutPlus phone.text)) :
    knownPhone identity (some user) = some phone.text := by
  obtain ⟨htruthy, hnumber⟩ := known_number phone
  have hbind : (some user).bind AuthUser.phone = some (withoutPlus phone.text) := hphone
  rw [knownPhone, hbind, htruthy]
  exact congrArg some hnumber

theorem truthy_number (phone : E164) : (truthy (some phone.text)).isSome = true := by
  obtain ⟨digits, hphone, -⟩ := isE164_digits phone.valid
  have hnonempty : phone.text ≠ "" := by
    intro hempty
    rw [hempty] at hphone
    cases hphone
  simp [truthy, Option.filter, hnonempty]

/-- The auth user that a login has, with a confirmed phone. -/
theorem authPhone_of_find {user : AuthUser} (huser : s.authUsers.find? sub = some user) :
    s.authPhone sub = (user.phone, user.phoneConfirmed) := by
  rw [IdentityDb.authPhone, huser]
  rfl

/-- A body leaves the phone, or it is sent and written. -/
theorem fields_phone (dto : UpdateUserDto) (a : UserRecord) :
    (dto.fields a).phone = a.phone ∨
      dto.phone.isSent = true ∧ (dto.fields a).phone = dto.phone.orNull := by
  have hwritten : (dto.fields a).phone = dto.phone.written a.phone := rfl
  rw [hwritten]
  cases dto.phone with
  | missing => exact .inl rfl
  | null => exact .inr ⟨rfl, rfl⟩
  | value phone => exact .inr ⟨rfl, rfl⟩

/-- **One step.** What the call was told, was earned when it was told. -/
theorem PhonesEarned.step {c : IdentityCall} (hc : p.call? e.thread = some c)
    (hstep : IdentityStep c (Pool.ownSteps e.thread earlier) e.site e.pre e.post)
    (hlater : ∀ t ∈ Pool.ownSteps e.thread earlier, t.pre.KeepsAccounts e.pre)
    (hpre : PhonesEarned p e.pre earlier)
    (hpast : ∀ e' ∈ earlier, PhonesEarned p e'.pre earlier) : PhonesEarned p e.post (e :: earlier) := by
  obtain ⟨⟨site, s, s'⟩, j⟩ := e
  simp only at hc hstep hlater hpre ⊢
  cases hstep with
  | noop => exact hpre.cons
  | getUserById sub user huser => exact PhonesEarned.cons ⟨hpre.auth, hpre.account⟩
  | create authUser row hcall htold hsub hrole hphone hemail hverified hrun =>
    rename_i identity dto
    obtain ⟨hnew, hauth, -, -⟩ := openAccount_ok hrole hrun
    refine PhonesEarned.cons ⟨fun sub hconfirmed => ?_, fun a ha hmarked => ?_⟩
    · rw [IdentityDb.authPhone, hauth] at hconfirmed ⊢
      exact hpre.auth sub hconfirmed
    · rcases (Table.mem_insert hnew).mp ha with rfl | ha
      · -- the mark is that of the auth user whom the call was told of, and so is the phone
        rw [hverified] at hmarked
        obtain ⟨user, huser, hconfirmed⟩ := Option.any_eq_true _ _ |>.mp hmarked
        obtain ⟨t, ht, htells⟩ := htold
        obtain ⟨e', he', -, rfl⟩ := Pool.mem_of_ownSteps ht
        have hauthPhone := authPhone_of_find (htells.user user huser)
        obtain ⟨number, hnumber, haccepted⟩ := (hpast e' he').auth identity.supabaseId
          (by rw [hauthPhone]; exact hconfirmed)
        rw [hauthPhone] at hnumber
        have hknown := knownPhone_of_confirmed identity hnumber
        rw [huser, hknown] at hphone
        rw [hsub, hphone (truthy_number number)]
        exact haccepted.earned
      · exact hpre.account a ha hmarked
  | profile row hcall hread hrun =>
    rename_i identity dto
    obtain ⟨rfl, -⟩ := saveProfile_ok hrun
    refine ⟨fun sub hconfirmed => ?_, fun a ha hmarked => ?_⟩
    · obtain ⟨phone, hphone, haccepted⟩ := hpre.auth sub hconfirmed
      exact ⟨phone, hphone, haccepted.later [_]⟩
    · obtain ⟨a₀, ha₀, ⟨hid, rfl⟩ | ⟨-, rfl⟩⟩ := mem_rewritten (by intro _; rfl) ha
      · have hearned := hpre.account a₀ ha₀ hmarked
        -- the row under this id is the one that the call found under its login
        obtain ⟨t, ht, hfound⟩ := hread
        obtain ⟨hmem, hlogin⟩ := IdentityDb.accountOf_some hfound
        obtain ⟨row', hrow', hkeeps⟩ := hlater t ht row hmem
        obtain rfl : row' = a₀ :=
          Table.eq_of_key_eq (Table.mem_of_find? hrow') ha₀ ((Table.key_of_find? hrow').trans hid.symm)
        have hsame : row'.supabaseId = identity.supabaseId := hkeeps.supabaseId.trans hlogin
        rcases fields_phone dto row' with hkept | ⟨hsent, hwritten⟩
        · rw [hkept]
          exact hearned.later [_]
        · rw [hcall] at hc
          refine hearned.typed ⟨_, List.mem_singleton_self _, identity, dto, row.id, hc, hsame.symm, rfl, hsent, ?_⟩
          exact hwritten.symm
      · exact (hpre.account a ha₀ hmarked).later [_]
  | emails authUsers hphones => exact (hpre.of_same hphones (users_same s)).cons
  | verifyOtp email code user =>
    refine PhonesEarned.cons (hpre.of_same (authPhone_update (by intro _; rfl) rfl ?_) ?_)
    · exact fun _ => ⟨rfl, rfl⟩
    · exact users_same s
  | markEmailVerified sub session row haccepted hown hrow =>
    refine PhonesEarned.cons (hpre.of_same ?_ ?_)
    · exact fun _ => rfl
    · intro a ha
      obtain ⟨a₀, ha₀, ⟨-, rfl⟩ | ⟨-, rfl⟩⟩ := mem_rewritten (by intro _; rfl) ha
      · exact ⟨a₀, ha₀, rfl, rfl, rfl⟩
      · exact ⟨a, ha₀, rfl, rfl, rfl⟩
  | checkPhoneOtp hcall =>
    refine PhonesEarned.cons (hpre.of_same ?_ ?_)
    · exact fun _ => rfl
    · exact users_same s
  | confirmPhone hcall haccepted huser =>
    rename_i identity phone code user
    rw [hcall] at hc
    have hearned := CodeAccepted.of_own hc haccepted
    refine PhonesEarned.cons ⟨fun sub hconfirmed => ?_, hpre.account⟩
    by_cases hsub : sub = identity.supabaseId
    · rw [hsub]
      refine ⟨phone, ?_, hearned⟩
      simp only [IdentityDb.authPhone]
      rw [Table.find?_update_self, huser]
      rfl
    · simp only [IdentityDb.authPhone] at hconfirmed ⊢
      rw [Table.find?_update_of_ne _ _ _ hsub] at hconfirmed ⊢
      exact hpre.auth sub hconfirmed
  | savePhone row hcall haccepted hrow hfree =>
    rename_i identity phone code
    rw [hcall] at hc
    have hearned := (CodeAccepted.of_own hc haccepted).earned
    refine PhonesEarned.cons ⟨hpre.auth, fun a ha hmarked => ?_⟩
    obtain ⟨a₀, ha₀, ⟨hid, rfl⟩ | ⟨-, rfl⟩⟩ := mem_rewritten (by intro _; rfl) ha
    · obtain ⟨hmem, hlogin⟩ := IdentityDb.accountOf_some hrow
      obtain rfl : row = a₀ := Table.eq_of_key_eq hmem ha₀ hid.symm
      rw [← hlogin] at hearned
      exact hearned
    · exact hpre.account a ha₀ hmarked

/-- Supabase confirms no phone of its own accord: an auth user that is new or changes has the phone
that it had. -/
def ConfirmsNoPhone (s₀ : IdentityDb) (actions : List (Pool.Action (identityService cfg))) : Prop :=
  ∀ before user after, actions = before ++ .event (.supabase user) :: after →
    (user.phone, user.phoneConfirmed) = IdentityDb.authPhone (poolRun s₀ before).state user.id

/-- Then no event changes a phone. -/
theorem ConfirmsNoPhone.authPhone {s₀ : IdentityDb} {actions before after : List (Pool.Action (identityService cfg))}
    {event : IdentityEvent} (h : ConfirmsNoPhone s₀ actions) (hsplit : actions = before ++ .event event :: after)
    (sub : String) :
    (applyIdentityEvent event (poolRun s₀ before).state).authPhone sub =
      IdentityDb.authPhone (poolRun s₀ before).state sub := by
  cases event with
  | time ms => rfl
  | supabase user =>
    have hkey : Keyed.key user = user.id := rfl
    simp only [IdentityDb.authPhone, applyIdentityEvent]
    rw [Table.find?_put, hkey]
    by_cases hsub : sub = user.id
    · rw [if_pos hsub, hsub]
      exact h before user after hsplit
    · rw [if_neg hsub]

theorem confirmsNoPhone_of_no_event {s₀ : IdentityDb} {actions : List (Pool.Action (identityService cfg))}
    (h : ∀ event, Pool.Action.event event ∉ actions) : ConfirmsNoPhone s₀ actions := by
  rintro before user after rfl
  exact absurd (List.mem_append_right _ (List.mem_cons_self ..)) (h _)

theorem applyIdentityEvent_users (e : IdentityEvent) (s : IdentityDb) :
    (applyIdentityEvent e s).users = s.users := by
  cases e <;> rfl

/-! ## Emails -/

/-- Supabase has vouched for an email of the login: it has accepted a code in one of its calls, or in a
social login whose session was the login's; or it has told one of its calls that the email is confirmed.
Nobody compares the session that a code opens with the login that has sent the code. -/
def EmailVouched (p : Pool (identityService cfg)) (trace : List (Entry identityMachine)) (sub : String) :
    Prop :=
  ∃ e ∈ trace, ∃ c, p.call? e.thread = some c ∧
    (c.login = some sub ∧ ((∃ session, AcceptsEmail session e.toStepRecord) ∨
        ∃ user, Tells sub (some user) e.toStepRecord ∧ user.emailConfirmed = true) ∨
      c.login = none ∧ AcceptsEmail sub e.toStepRecord)

theorem EmailVouched.cons (h : EmailVouched p earlier sub) : EmailVouched p (e :: earlier) sub := by
  obtain ⟨e', he', hrest⟩ := h
  exact ⟨e', List.mem_cons_of_mem _ he', hrest⟩

/-- The marks on the accounts were vouched for. -/
def EmailsVouched (p : Pool (identityService cfg)) (s : IdentityDb)
    (trace : List (Entry identityMachine)) : Prop :=
  ∀ a ∈ s.users.rows, a.emailVerified = true → EmailVouched p trace a.supabaseId

theorem EmailsVouched.of_same {s' : IdentityDb} (h : EmailsVouched p s earlier)
    (husers : ∀ a' ∈ s'.users.rows, ∃ a ∈ s.users.rows, a.supabaseId = a'.supabaseId ∧
      a.emailVerified = a'.emailVerified) : EmailsVouched p s' (e :: earlier) := by
  intro a' ha' hmarked
  obtain ⟨a, ha, hsub, hsame⟩ := husers a' ha'
  rw [← hsub]
  exact (h a ha (hsame.trans hmarked)).cons

theorem EmailsVouched.step {c : IdentityCall} (hc : p.call? e.thread = some c)
    (hstep : IdentityStep c (Pool.ownSteps e.thread earlier) e.site e.pre e.post)
    (hpre : EmailsVouched p e.pre earlier) : EmailsVouched p e.post (e :: earlier) := by
  obtain ⟨⟨site, s, s'⟩, j⟩ := e
  simp only at hc hstep hpre ⊢
  cases hstep with
  | create authUser row hcall htold hsub hrole hphone hemail hverified hrun =>
    rename_i identity dto
    intro a ha hmarked
    rcases (Table.mem_insert (openAccount_ok hrole hrun).1).mp ha with rfl | ha
    · -- the mark is that of the auth user whom the call was told of
      rw [hemail] at hmarked
      obtain ⟨user, rfl, hconfirmed⟩ := Option.any_eq_true _ _ |>.mp hmarked
      obtain ⟨t, ht, htells⟩ := htold
      obtain ⟨e', he', hj, rfl⟩ := Pool.mem_of_ownSteps ht
      rw [hsub]
      refine ⟨e', List.mem_cons_of_mem _ he', c, hj ▸ hc, .inl ⟨?_, .inr ⟨user, htells, hconfirmed⟩⟩⟩
      rw [hcall]
      rfl
    · exact (hpre a ha hmarked).cons
  | markEmailVerified sub session row haccepted hown hrow =>
    intro a ha hmarked
    obtain ⟨a₀, ha₀, ⟨hid, rfl⟩ | ⟨-, rfl⟩⟩ := mem_rewritten (by intro _; rfl) ha
    · -- the update is by id, and the id is that of the account behind the login
      obtain ⟨hmem, hlogin⟩ := IdentityDb.accountOf_some hrow
      obtain rfl : row = a₀ := Table.eq_of_key_eq hmem ha₀ hid.symm
      obtain ⟨t, ht, haccepts⟩ := haccepted
      obtain ⟨e', he', hj, rfl⟩ := Pool.mem_of_ownSteps ht
      have hsame : row.supabaseId = sub := hlogin
      refine ⟨e', List.mem_cons_of_mem _ he', c, hj ▸ hc, ?_⟩
      rcases hown with hown | ⟨hnone, rfl⟩
      · exact .inl ⟨hown.trans (congrArg some hsame.symm), .inl ⟨session, haccepts⟩⟩
      · exact .inr ⟨hnone, hsame.symm ▸ haccepts⟩
    · exact (hpre a ha₀ hmarked).cons
  | profile row hcall hread hrun =>
    obtain ⟨rfl, -⟩ := saveProfile_ok hrun
    refine hpre.of_same fun a ha => ?_
    obtain ⟨a₀, ha₀, ⟨-, rfl⟩ | ⟨-, rfl⟩⟩ := mem_rewritten (by intro _; rfl) ha
    · exact ⟨a₀, ha₀, rfl, rfl⟩
    · exact ⟨a, ha₀, rfl, rfl⟩
  | savePhone row hcall haccepted hrow hfree =>
    refine hpre.of_same fun a ha => ?_
    obtain ⟨a₀, ha₀, ⟨-, rfl⟩ | ⟨-, rfl⟩⟩ := mem_rewritten (by intro _; rfl) ha
    · exact ⟨a₀, ha₀, rfl, rfl⟩
    · exact ⟨a, ha₀, rfl, rfl⟩
  | _ => exact hpre.of_same fun a ha => ⟨a, ha, rfl, rfl⟩

/-! ## From the auth user to the account -/

/-- A login for which no code of another phone is accepted keeps its phone at Supabase. -/
theorem IdentityStep.authPhone {call : IdentityCall} {h : List (StepRecord identityMachine)}
    {site : IdentitySite} {s' : IdentityDb} {number : String} (hstep : IdentityStep call h site s s')
    (honly : ∀ identity phone code, call = .verifyPhoneOtp identity phone code →
      identity.supabaseId = sub → (∃ t ∈ h, AcceptsPhone phone.text t) → phone.text = number)
    (hphone : s.authPhone sub = (some (withoutPlus number), true)) :
    s'.authPhone sub = (some (withoutPlus number), true) := by
  cases hstep with
  | create authUser row hcall htold hsub hrole hphone' hemail hverified hrun =>
    obtain ⟨-, hauth, -, -⟩ := openAccount_ok hrole hrun
    rw [← hphone, IdentityDb.authPhone, hauth]
    rfl
  | profile row hcall hread hrun =>
    obtain ⟨rfl, -⟩ := saveProfile_ok hrun
    exact hphone
  | emails authUsers hphones => rw [hphones, hphone]
  | verifyOtp email code user =>
    rw [authPhone_update (by intro _; rfl) rfl (by intro _; exact ⟨rfl, rfl⟩), hphone]
  | confirmPhone hcall haccepted huser =>
    rename_i identity phone code user
    -- the login's own codes are all for the one number, and other logins write elsewhere
    by_cases hsub : sub = identity.supabaseId
    · rw [← honly identity phone code hcall hsub.symm haccepted, hsub]
      simp only [IdentityDb.authPhone]
      rw [Table.find?_update_self, huser]
      rfl
    · rw [← hphone]
      simp only [IdentityDb.authPhone]
      rw [Table.find?_update_of_ne _ _ _ hsub]
  | _ => exact hphone

/-- The account that a call opens goes by the auth user whom it was told of. -/
theorem IdentityStep.opens {call : IdentityCall} {h : List (StepRecord identityMachine)} {s' : IdentityDb}
    {a : UserRecord} (hstep : IdentityStep call h (.createAccount sub) s s') (ha : a ∈ s'.users.rows)
    (hfresh : a ∉ s.users.rows) :
    a.supabaseId = sub ∧ ∃ identity authUser, (∃ t ∈ h, Tells sub authUser t) ∧
      ((truthy (knownPhone identity authUser)).isSome = true → a.phone = knownPhone identity authUser) ∧
      a.emailVerified = authUser.any AuthUser.emailConfirmed ∧
      a.phoneVerified = authUser.any AuthUser.phoneConfirmed := by
  cases hstep with
  | noop => exact absurd ha hfresh
  | emails authUsers hphones => exact absurd ha hfresh
  | create authUser row hcall htold hsub hrole hphone hemail hverified hrun =>
    rename_i identity dto
    rcases (Table.mem_insert (openAccount_ok hrole hrun).1).mp ha with rfl | ha
    · exact ⟨hsub, identity, authUser, htold, hphone, hemail, hverified⟩
    · exact absurd ha hfresh

/-- A verified phone was confirmed at Supabase. -/
theorem verifyPhone_sat {identity : JwtIdentity} {phone : E164} {code : String} (s : IdentityDb) :
    Sat (identityContract (.verifyPhoneOtp identity phone code))
      (fun h r _ => ∀ a, r = .ok a → ∃ t ∈ h, PhoneConfirmed identity.supabaseId phone.text t)
      (identityHandle cfg (.verifyPhoneOtp identity phone code)) [] s := by
  refine sat_bind ((verifyPhoneOtp_sat rfl).post fun h r s hr => ?_)
  cases r with
  | ok a => exact fun _ _ => hr a rfl
  | error e => exact fun _ he => by cases he

/-- Steps of a later call come after all of the steps before its arrival. -/
theorem mem_before {T₁ T₂ L B : List (Entry identityMachine)} (h : L ++ e :: B = T₂ ++ T₁) (he : e ∉ T₁) :
    ∀ x ∈ T₁, x ∈ B := by
  rcases List.append_eq_append_iff.mp h with ⟨c, rfl, hc⟩ | ⟨c, rfl, hc⟩
  · cases c with
    | nil =>
      rw [List.nil_append] at hc
      exact absurd (hc ▸ List.mem_cons_self ..) he
    | cons _ c =>
      obtain ⟨rfl, rfl⟩ := List.cons.inj hc
      exact fun x hx => List.mem_append_right _ hx
  · exact absurd (hc ▸ List.mem_append_right _ (List.mem_cons_self ..)) he

end

/-- Nothing is verified yet. -/
def IdentityDb.Unverified (s : IdentityDb) : Prop :=
  (∀ a ∈ s.users.rows, a.phoneVerified = false ∧ a.emailVerified = false) ∧
    ∀ u ∈ s.authUsers.rows, u.phoneConfirmed = false

/-- **A verified phone has had its code.** In every interleaving of any calls, and of what Supabase does
by itself short of confirming a phone, from a state in which nothing is verified: where an account's phone
counts as verified, Prelude has accepted a code in a call of the account's own login, and the phone of the
account is the one that the code was for, or one that the login has typed into its profile since. -/
theorem phone_verified_by_code (cfg : PreludeConfig) (s₀ : IdentityDb) (hnew : s₀.Unverified)
    (actions : List (Pool.Action (identityService cfg))) (hsupabase : ConfirmsNoPhone s₀ actions)
    {a : UserRecord} (ha : a ∈ (poolRun s₀ actions).state.users.rows) (hverified : a.phoneVerified = true) :
    PhoneEarned (poolRun s₀ actions) (poolRun s₀ actions).trace a.supabaseId a.phone := by
  have hstart : PhonesEarned (poolRun s₀ actions) s₀ [] := by
    constructor
    · intro sub hconfirmed
      obtain ⟨user, huser, hmark⟩ := Option.any_eq_true _ _ |>.mp hconfirmed
      rw [hnew.2 user (Table.mem_of_find? huser)] at hmark
      cases hmark
    · intro a ha hmark
      rw [(hnew.1 a ha).1] at hmark
      cases hmark
  have hearned := Pool.history_past_scheduled (I := fun s trace => PhonesEarned (poolRun s₀ actions) s trace)
    hstart actions
    (fun before e after hsplit hs => hs.of_same (hsupabase.authPhone hsplit)
      (applyIdentityEvent_users e (poolRun s₀ before).state ▸ users_same _))
    fun later e earlier hsplit hpre hpast => by
      obtain ⟨c, hc, hstep, hlater⟩ := identity_step hsplit
      refine hpre.step hc hstep hlater fun e' he' => ?_
      -- what was earned before an earlier step, was earned before this one
      obtain ⟨after, before, rfl⟩ := List.append_of_mem he'
      have hbefore := (hpast after e' before rfl).later (after ++ [e'])
      rwa [List.append_assoc] at hbefore
  exact hearned.1.account a ha hverified

/-- Alice's phone, verified before she has an account. -/
def alicePhone : E164 := ⟨"+33612345678", by decide +kernel⟩

def phoneFirst : List (Pool.Action (identityService ⟨"key"⟩)) :=
  .arrive (.verifyPhoneOtp alice alicePhone "123456") :: List.replicate 4 (.run 0 (goesThrough 0))

/-- Her account, opened afterwards. -/
def thenAccount : List (Pool.Action (identityService ⟨"key"⟩)) :=
  .arrive (.createFromJwt alice (signupForm .buyer buyer_signs_up)) :: List.replicate 5 (.run 1 (goesThrough 1))

theorem signedUp_unverified : signedUp.Unverified := by
  constructor
  · exact fun _ ha => nomatch ha
  · simp [signedUp]

def verifiedAccount : UserRecord :=
  ((poolRun signedUp (phoneFirst ++ thenAccount)).state.users.find? ⟨1, 0⟩).get (by decide +kernel)

theorem onlyCalls : ConfirmsNoPhone signedUp (phoneFirst ++ thenAccount) := by
  refine confirmsNoPhone_of_no_event fun event => ?_
  simp [phoneFirst, thenAccount]

theorem verifiedAccount_by_code :
    PhoneEarned (poolRun signedUp (phoneFirst ++ thenAccount))
      (poolRun signedUp (phoneFirst ++ thenAccount)).trace verifiedAccount.supabaseId verifiedAccount.phone :=
  phone_verified_by_code ⟨"key"⟩ signedUp signedUp_unverified (phoneFirst ++ thenAccount) onlyCalls
    (Table.mem_of_find? (Option.some_get _).symm) (by decide +kernel)

/-- **A verified email was vouched for.** So it is with emails: where an account's email counts as
verified, Supabase has accepted a code in one of the login's calls or in a social login of it, or has
told one of the login's calls that its email is confirmed. -/
theorem email_verified_by_supabase (cfg : PreludeConfig) (s₀ : IdentityDb) (hnew : s₀.Unverified)
    (actions : List (Pool.Action (identityService cfg))) {a : UserRecord}
    (ha : a ∈ (poolRun s₀ actions).state.users.rows) (hverified : a.emailVerified = true) :
    EmailVouched (poolRun s₀ actions) (poolRun s₀ actions).trace a.supabaseId := by
  have hstart : EmailsVouched (poolRun s₀ actions) s₀ [] := by
    intro a ha hmark
    rw [(hnew.1 a ha).2] at hmark
    cases hmark
  have hvouched := Pool.history (I := fun s trace => EmailsVouched (poolRun s₀ actions) s trace) hstart
    (fun e s trace hs a ha => hs a (applyIdentityEvent_users e s ▸ ha)) actions
    fun later e earlier hsplit hpre => by
      obtain ⟨c, hc, hstep, -⟩ := identity_step hsplit
      exact hpre.step hc hstep
  exact hvouched a ha hverified

theorem verifiedAccount_vouched :
    EmailVouched (poolRun signedUp (phoneFirst ++ thenAccount))
      (poolRun signedUp (phoneFirst ++ thenAccount)).trace verifiedAccount.supabaseId :=
  email_verified_by_supabase ⟨"key"⟩ signedUp signedUp_unverified (phoneFirst ++ thenAccount)
    (Table.mem_of_find? (Option.some_get _).symm) (by decide +kernel)

/-- **A phone that was verified first reaches the account.** Once `verifyPhoneOtp` has gone through for a
login, and as long as no code of another phone is accepted for it, an account that a later call opens for
the login has this phone and counts as verified; else Supabase has told that call nothing of its auth user,
and the account starts with nothing verified. -/
theorem verified_phone_reaches_account (cfg : PreludeConfig) (s₀ : IdentityDb)
    (before after : List (Pool.Action (identityService cfg)))
    (hsupabase : ConfirmsNoPhone s₀ (before ++ after)) {j : Nat} {identity : JwtIdentity}
    {phone : E164} {code : String}
    (hj : (poolRun s₀ before).call? j = some (.verifyPhoneOtp identity phone code))
    (hok : ((poolRun s₀ before).result? j).any Except.isOk = true)
    (honly : ∀ other, CodeAccepted (poolRun s₀ (before ++ after)) (poolRun s₀ (before ++ after)).trace
      identity.supabaseId other → other = phone.text)
    {e : Entry identityMachine} (he : e ∈ (poolRun s₀ (before ++ after)).trace)
    (hlate : (poolRun s₀ before).call? e.thread = none)
    (hsite : e.site = .createAccount identity.supabaseId) {a : UserRecord}
    (ha : a ∈ e.post.users.rows) (hfresh : a ∉ e.pre.users.rows) :
    a.supabaseId = identity.supabaseId ∧
      (a.phone = some phone.text ∧ a.phoneVerified = true ∨
        (∃ t ∈ Pool.ownSteps e.thread (poolRun s₀ (before ++ after)).trace,
          Tells identity.supabaseId none t) ∧
        a.phoneVerified = false ∧ a.emailVerified = false) := by
  -- the call that is over has confirmed the phone at Supabase
  obtain ⟨result, hresult, hgone⟩ := Option.any_eq_true _ _ |>.mp hok
  obtain ⟨reply, rfl⟩ : ∃ reply, result = .ok reply := by
    cases result with
    | ok reply => exact ⟨reply, rfl⟩
    | error e => cases hgone
  obtain ⟨t, ht, hconfirmed⟩ := (Pool.own_sat (fun _ _ => trivial) verifyPhone_sat hj).2 _ hresult reply rfl
  obtain ⟨e₁, he₁, -, rfl⟩ := Pool.mem_of_ownSteps ht
  obtain ⟨T₂, htrace⟩ : ∃ later, (poolRun s₀ (before ++ after)).trace =
      later ++ (poolRun s₀ before).trace := Pool.trace_append before after
  -- and there it stays
  have hstays := Pool.history_past_scheduled (I := fun s trace => e₁ ∈ trace →
      IdentityDb.authPhone s identity.supabaseId = (some (withoutPlus phone.text), true))
    (fun h => nomatch h) (before ++ after)
    (fun before' event after' hsplit hs h => (hsupabase.authPhone hsplit _).trans (hs h))
    fun later e earlier hsplit hpre _ hmem => by
      obtain ⟨c, hc, hstep, -⟩ := identity_step hsplit
      rcases List.mem_cons.mp hmem with rfl | hmem
      · exact hconfirmed.2
      · refine hstep.authPhone (fun identity' phone' code' hcall hsub haccepted => ?_) (hpre hmem)
        rw [hcall] at hc
        have hcode := (CodeAccepted.of_own hc haccepted).later (later ++ [e])
        rw [List.append_assoc, List.singleton_append, ← hsplit, hsub] at hcode
        exact honly _ hcode
  -- the call that opens the account is told of its auth user after that
  obtain ⟨later, earlier, hsplit⟩ := List.append_of_mem he
  obtain ⟨c, hc, hstep, -⟩ := identity_step hsplit
  rw [hsite] at hstep
  obtain ⟨hsub, identity', authUser, ⟨t, ht, htells⟩, hphone, hemail, hverified⟩ := hstep.opens ha hfresh
  refine ⟨hsub, ?_⟩
  cases authUser with
  | none =>
    refine .inr ⟨⟨t, ?_, htells⟩, hverified, hemail⟩
    rw [Pool.ownSteps_of_split hsplit]
    exact List.mem_append_right _ (List.mem_cons_of_mem _ ht)
  | some user =>
    obtain ⟨e₂, he₂, hthread, rfl⟩ := Pool.mem_of_ownSteps ht
    obtain ⟨l, b, rfl⟩ := List.append_of_mem he₂
    have habsent : e₂ ∉ (poolRun s₀ before).trace := by
      intro hmem
      obtain ⟨c, hcall⟩ := Pool.call?_of_mem hmem
      rw [hthread, hlate] at hcall
      cases hcall
    have hsplit₂ : (poolRun s₀ (before ++ after)).trace = (later ++ e :: l) ++ e₂ :: b := by
      rw [hsplit, List.append_assoc]
      rfl
    have hb := mem_before (hsplit₂.symm.trans htrace) habsent e₁ he₁
    have hauth := hstays.2 _ _ _ hsplit₂ hb
    rw [authPhone_of_find (htells.user user rfl)] at hauth
    obtain ⟨hnumber, hmark⟩ := Prod.mk.inj hauth
    rw [knownPhone_of_confirmed _ hnumber] at hphone
    refine .inl ⟨hphone (truthy_number phone), ?_⟩
    rw [hverified]
    exact hmark

/-- No code of another phone is accepted in this run. -/
theorem only_alicePhone : ∀ other, CodeAccepted (poolRun signedUp (phoneFirst ++ thenAccount))
    (poolRun signedUp (phoneFirst ++ thenAccount)).trace alice.supabaseId other → other = alicePhone.text := by
  rintro other ⟨e, -, identity, number, code, hcall, -, rfl, -⟩
  have harrive := Pool.arrive_of_call? hcall
  simp only [phoneFirst, thenAccount, List.mem_append, List.mem_cons, List.mem_replicate] at harrive
  rcases harrive with (hverify | ⟨-, hrun⟩) | hcreate | ⟨-, hrun⟩
  · cases hverify
    rfl
  · cases hrun
  · cases hcreate
  · cases hrun

theorem phoneFirst_call :
    (poolRun signedUp phoneFirst).call? 0 = some (.verifyPhoneOtp alice alicePhone "123456") := by
  unfold phoneFirst
  exact Pool.call?_first rfl _

/-- The step that opens the account. -/
def openingStep : Entry identityMachine :=
  (poolRun signedUp (phoneFirst ++ thenAccount)).trace.get ⟨1, by decide +kernel⟩

def openedAccount : UserRecord := (openingStep.post.users.find? ⟨1, 0⟩).get (by decide +kernel)

theorem alicePhone_reaches_account :
    openedAccount.supabaseId = alice.supabaseId ∧
      (openedAccount.phone = some alicePhone.text ∧ openedAccount.phoneVerified = true ∨
        (∃ t ∈ Pool.ownSteps openingStep.thread (poolRun signedUp (phoneFirst ++ thenAccount)).trace,
          Tells alice.supabaseId none t) ∧
        openedAccount.phoneVerified = false ∧ openedAccount.emailVerified = false) :=
  verified_phone_reaches_account ⟨"key"⟩ signedUp phoneFirst thenAccount onlyCalls
    phoneFirst_call (by decide +kernel) only_alicePhone (List.get_mem _ _) (by decide +kernel) (by decide +kernel)
    (Table.mem_of_find? (Option.some_get _).symm) (by decide +kernel)

end IncaCook
