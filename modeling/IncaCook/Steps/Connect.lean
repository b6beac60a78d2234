import IncaCook.Steps.Statements
import IncaCook.Model.Connect

/-!
# The steps of the Connect accounts

`ConnectStep` lists what one step of a call can do, given the steps that the call took before it:
an account is stored for whom it was opened, a link is for the account that was read or stored just
before, and money goes where the call has read that it may.

Main result:

* `connectHandle_sat`: every call takes only such steps.
-/

namespace IncaCook

open Prog StripeOnboarding Wallets

/-! ## What the profiles say -/

/-- The account on the driver's or the seller's profile. -/
def Db.accountOf (db : Db) : Bool → UserId → Option String
  | true, u => (db.driverProfiles.find? u).bind DriverProfile.stripeConnectAccountId
  | false, u => (db.sellerProfiles.find? u).bind SellerProfile.stripeConnectAccountId

/-- The onboarding counts as complete. -/
def Db.onboarded (db : Db) : Bool → UserId → Bool
  | true, u => ((db.driverProfiles.find? u).map DriverProfile.stripeOnboardingCompleted).getD false
  | false, u => ((db.sellerProfiles.find? u).map SellerProfile.stripeOnboardingCompleted).getD false

/-- Stripe has opened the account for the user. -/
def ConnectDb.OpenedFor (s : ConnectDb) (accountId : String) (u : UserId) : Prop :=
  (s.accounts.find? accountId).bind ConnectAccount.userId = some u

/-! ## Payouts -/

/-- A payout target was read: an account whose onboarding is complete. -/
def ReadPayout (db : Db) (t : StripeTransfer) : Prop :=
  ∃ driver, db.accountOf driver t.userId = some t.destination ∧ db.onboarded driver t.userId = true

/-- What a step of a withdrawal can do. -/
inductive PayoutStep (sub : String) (h : List (StepRecord machine)) : Site → Db → Db → Prop where
  | noop (site : Site) (s : Db) : PayoutStep sub h site s s
  | transfer {s : Db} (t : StripeTransfer) (ids : List WalletEntryId) (user : User)
      (huser : ∃ r ∈ h, r.pre.userBySupabaseId sub = some user) (hpaid : t.userId = user.id)
      (hread : ∃ r ∈ h, r.site = .query ∧ ReadPayout r.pre t) :
      PayoutStep sub h (.createTransfer t.userId t.withdrawalId ids) s
        { s with transfers := (s.transfers.insert? t).getD s.transfers }
  | settle {s : Db} (site : Site) (walletEntries : Table WalletEntry) :
      PayoutStep sub h site s { s with walletEntries }

def payoutContract (sub : String) : Contract machine where
  rely _ _ := True
  guar h site s s' := PayoutStep sub h site s s'

theorem eq_some_of_truthy {o : Option String} {text : String} (h : truthy o = some text) : o = some text := by
  exact (Option.filter_eq_some_iff.mp h).1

/-- The target is that of one of the user's profiles. -/
theorem resolvePayoutTarget_reads {α : Type} {sub : String} {u : UserId} {role : UserRole} {k : PayoutTarget → Handler α}
    {h : List (StepRecord machine)} {s : Db}
    (hk : ∀ s' driver, Sat (payoutContract sub) anyPost (k ⟨s'.accountOf driver u, s'.onboarded driver u⟩)
      (⟨.query, s', s'⟩ :: h) s') :
    Sat (payoutContract sub) anyPost (resolvePayoutTarget u role >>= k) h s := by
  unfold resolvePayoutTarget
  split
  · exact sat_read_bind fun s' _ => ⟨.noop _ _, hk s' true⟩
  · exact sat_read_bind fun s' _ => ⟨.noop _ _, hk s' false⟩

theorem requestWithdrawal_payout {me : Nat} {sub : String} {s : Db} :
    Sat (payoutContract sub) anyPost (requestWithdrawal me sub) [] s := by
  refine sat_read_bind fun s₀ _ => ⟨.noop _ _, sat_orThrow_bind (fun _ => trivial) fun user huser => ?_⟩
  refine sat_read_bind fun s₁ _ => ⟨.noop _ _, ?_⟩
  refine sat_throwIf_bind (fun _ => trivial) fun _ => sat_throwIf_bind (fun _ => trivial) fun _ => ?_
  refine resolvePayoutTarget_reads fun s₂ driver => ?_
  refine sat_throwIf_bind (fun _ => trivial) fun hcompleted => ?_
  refine sat_orThrow_bind (fun _ => trivial) fun account haccount => ?_
  refine sat_await_bind fun s₃ _ i => ⟨fun _ _ => ⟨.noop _ _, trivial⟩, fun _ s₄ hrun => ?_⟩
  simp only [createTransfer, Stmt.bind_ok, Tx.throwIf_ok, Stmt.modify_ok] at hrun
  obtain ⟨_, _, ⟨-, rfl⟩, rfl⟩ := hrun
  have hread : ReadPayout s₂ ⟨generateUlid me 11, total (availableEntries s₁ user.id), account, user.id⟩ :=
    ⟨driver, eq_some_of_truthy haccount, Bool.not_eq_false _ ▸ hcompleted⟩
  have hlooked : ∃ r ∈ ([⟨.query, s₂, s₂⟩, ⟨.readAvailable user.id, s₁, s₁⟩, ⟨.query, s₀, s₀⟩] :
      List (StepRecord machine)), r.pre.userBySupabaseId sub = some user := ⟨⟨.query, s₀, s₀⟩, by simp, huser⟩
  refine ⟨.transfer _ _ user hlooked rfl ⟨⟨.query, s₂, s₂⟩, List.mem_cons_self .., rfl, hread⟩, ?_⟩
  refine sat_await_bind fun s₅ _ i => ⟨fun _ _ => ⟨.noop _ _, trivial⟩, fun _ s₆ hrun => ?_⟩
  simp only [settle, Stmt.bind_ok, Tx.throwIf_ok, updateWalletEntries_ok, Stmt.get_ok, Tx.orThrow_ok,
    Stmt.set_ok] at hrun
  obtain ⟨_, _, ⟨-, rfl⟩, _, _, rfl, _, _, ⟨rfl, rfl⟩, walletEntries, _, ⟨-, rfl⟩, rfl⟩ := hrun
  exact ⟨.settle _ walletEntries, trivial⟩

/-! ## Steps -/

/-- What one step of a call can do after its steps `h`. -/
inductive ConnectStep (call : ConnectCall) (h : List (StepRecord connectMachine)) :
    ConnectSite → ConnectDb → ConnectDb → Prop where
  /-- a read, or a statement that failed -/
  | noop (site : ConnectSite) (s : ConnectDb) (hsite : ∀ id, site ≠ .mintLink id) : ConnectStep call h site s s
  /-- the step before has read the account on the profile, or stored it there -/
  | mintLink {sub : String} {s : ConnectDb} (user : User) (driver : Bool) (accountId : String)
      (hcall : call = .createAccountLink sub)
      (huser : ∃ t ∈ h, t.pre.userBySupabaseId sub = some user)
      (hstored : ∃ t rest, h = t :: rest ∧ t.post.accountOf driver user.id = some accountId) :
      ConnectStep call h (.mintLink accountId) s s
  | createAccount {s : ConnectDb} {accounts : Table ConnectAccount} (user : User) (account : ConnectAccount)
      (hfor : account.userId = some user.id) (hnew : s.accounts.insert? account = some accounts) :
      ConnectStep call h (.createAccount user.id) s { s with accounts }
  | saveAccount {s s' : ConnectDb} (user : User) (accountId : String)
      (hopened : ∃ t ∈ h, t.post.OpenedFor accountId user.id)
      (hrun : saveAccount user.id user.role accountId s = .ok ((), s')) :
      ConnectStep call h (.saveAccount user.id) s s'
  | sellerUpdated {s : ConnectDb} (account : AccountUpdate) (hcall : call = .accountUpdated account) :
      ConnectStep call h (.accountUpdated account.id account.onboardingCompleted) s { s with
        sellerProfiles := s.sellerProfiles.updateMany
          (fun p => p.stripeConnectAccountId = some account.id)
          fun p : SellerProfile => { p with stripeOnboardingCompleted := account.onboardingCompleted } }
  | driverUpdated {s : ConnectDb} (account : AccountUpdate) (hcall : call = .accountUpdated account) :
      ConnectStep call h (.accountUpdated account.id account.onboardingCompleted) s { s with
        driverProfiles := s.driverProfiles.updateMany
          (fun p => p.stripeConnectAccountId = some account.id)
          fun p : DriverProfile => { p with stripeOnboardingCompleted := account.onboardingCompleted } }
  | transfer {sub : String} {s : ConnectDb} (t : StripeTransfer) (ids : List WalletEntryId) (user : User)
      (hcall : call = .requestWithdrawal sub) (huser : ∃ r ∈ h, r.pre.userBySupabaseId sub = some user)
      (hpaid : t.userId = user.id) (hread : ∃ r ∈ h, r.site = .wallet .query ∧ ReadPayout r.pre.toDb t) :
      ConnectStep call h (.wallet (.createTransfer t.userId t.withdrawalId ids)) s
        { s with transfers := (s.transfers.insert? t).getD s.transfers }
  | settle {s : ConnectDb} (site : Site) (walletEntries : Table WalletEntry) :
      ConnectStep call h (.wallet site) s { s with walletEntries }

/-- The contract of a call: it takes such steps, whatever the others do. -/
def connectContract (call : ConnectCall) : Contract connectMachine where
  rely _ _ := True
  guar h site s s' := ConnectStep call h site s s'

section

variable {call : ConnectCall} {h : List (StepRecord connectMachine)} {s : ConnectDb}
  {cfg : StripeConfig} {sub : String} {user : User}

theorem connect_query (call : ConnectCall) (h : List (StepRecord connectMachine)) (s : ConnectDb) :
    (connectContract call).guar h .query s s :=
  .noop .query s fun _ hsite => by cases hsite

/-! ## Withdrawals -/

theorem requestWithdrawal_connect {me : Nat} (hcall : call = .requestWithdrawal sub) :
    Sat (connectContract call) anyPost (within connectWallets (requestWithdrawal me sub)) [] s := by
  refine sat_within (V := fun h (h' : List (StepRecord connectMachine)) =>
      ∀ t ∈ h, ∃ t' ∈ h', t'.site = .wallet t.site ∧ t'.pre.toDb = t.pre)
    (fun _ _ _ => trivial) ?_ ?_ (fun _ _ _ _ _ _ => trivial) requestWithdrawal_payout ?_
  · intro h h' site s a hV hg
    cases hg with
    | noop site s => exact .noop _ _ fun _ hsite => by cases hsite
    | transfer t ids user huser hpaid hread =>
      obtain ⟨u, hu, huser⟩ := huser
      obtain ⟨u', hu', -, hsameUser⟩ := hV u hu
      obtain ⟨r, hr, hquery, hpayout⟩ := hread
      obtain ⟨r', hr', hsite, hsame⟩ := hV r hr
      rw [hquery] at hsite
      exact .transfer t ids user hcall ⟨u', hu', by rwa [hsameUser]⟩ hpaid ⟨r', hr', hsite, by rwa [hsame]⟩
    | settle site walletEntries => exact .settle site walletEntries
  · intro h h' site s a hV _ t ht
    rcases List.mem_cons.mp ht with rfl | ht
    · exact ⟨_, List.mem_cons_self .., rfl, rfl⟩
    · obtain ⟨t', ht', hsame⟩ := hV t ht
      exact ⟨t', List.mem_cons_of_mem _ ht', hsame⟩
  · intro t ht
    exact absurd ht List.not_mem_nil

/-! ## Notices -/

theorem updateSellerOnboarding_free {account : AccountUpdate} (hcall : call = .accountUpdated account) :
    Free (connectContract call) (updateSellerOnboarding account.id account.onboardingCompleted) := by
  refine free_await (fun h s => .noop _ s fun _ hsite => by cases hsite) fun h i s u s' hrun => ?_
  rw [Stmt.modify_ok.mp hrun]
  exact .sellerUpdated account hcall

theorem updateDriverOnboarding_free {account : AccountUpdate} (hcall : call = .accountUpdated account) :
    Free (connectContract call) (updateDriverOnboarding account.id account.onboardingCompleted) := by
  refine free_await (fun h s => .noop _ s fun _ hsite => by cases hsite) fun h i s u s' hrun => ?_
  rw [Stmt.modify_ok.mp hrun]
  exact .driverUpdated account hcall

theorem handleAccountUpdated_free {account : AccountUpdate} (hcall : call = .accountUpdated account) :
    Free (connectContract call) (handleAccountUpdated account) := by
  have hseller := updateSellerOnboarding_free hcall
  have hdriver := updateDriverOnboarding_free hcall
  have hquery : ∀ f : ConnectDb → Bool, Free (connectContract call) (read .query f) :=
    fun f => free_read (connect_query call)
  unfold handleAccountUpdated
  split
  · exact hseller
  · exact hdriver
  · refine free_bind (hquery _) fun sellerHit => free_ite hseller ?_
    exact free_bind (hquery _) fun driverHit => free_ite hdriver free_pure

/-! ## Links -/

/-- A row that was found keeps the account it is given. -/
theorem saveAccount_ok {role : UserRole} {u : UserId} {accountId : String} {s s' : ConnectDb} {x : Unit}
    (hrun : saveAccount u role accountId s = .ok (x, s')) :
    (role = .seller ∧ (∃ p, s.sellerProfiles.find? u = some p) ∧
      s' = { s with sellerProfiles := s.sellerProfiles.update u fun p : SellerProfile =>
        { p with stripeConnectAccountId := some accountId } }) ∨
    (role ≠ .seller ∧ (∃ p, s.driverProfiles.find? u = some p) ∧
      s' = { s with driverProfiles := s.driverProfiles.update u fun p : DriverProfile =>
        { p with stripeConnectAccountId := some accountId } }) := by
  simp only [saveAccount, Stmt.bind_ok, Stmt.get_ok] at hrun
  obtain ⟨_, _, ⟨rfl, rfl⟩, hrun⟩ := hrun
  split at hrun
  · rename_i hrole
    simp only [Stmt.bind_ok, Stmt.throwIf_ok, Stmt.orThrow_ok, Stmt.set_ok] at hrun
    obtain ⟨_, _, ⟨-, rfl⟩, profiles, _, ⟨hupdate, rfl⟩, rfl⟩ := hrun
    obtain ⟨hfound, rfl⟩ := Table.update?_eq_some.mp hupdate
    exact .inl ⟨hrole, hfound, rfl⟩
  · rename_i hrole
    simp only [Stmt.bind_ok, Stmt.throwIf_ok, Stmt.orThrow_ok, Stmt.set_ok] at hrun
    obtain ⟨_, _, ⟨-, rfl⟩, profiles, _, ⟨hupdate, rfl⟩, rfl⟩ := hrun
    obtain ⟨hfound, rfl⟩ := Table.update?_eq_some.mp hupdate
    exact .inr ⟨hrole, hfound, rfl⟩

theorem saveAccount_stores {role : UserRole} {u : UserId} {accountId : String} {s s' : ConnectDb} {x : Unit}
    (hrun : saveAccount u role accountId s = .ok (x, s')) :
    ∃ driver, s'.accountOf driver u = some accountId := by
  rcases saveAccount_ok hrun with ⟨-, ⟨p, hp⟩, rfl⟩ | ⟨-, ⟨p, hp⟩, rfl⟩
  · refine ⟨false, ?_⟩
    simp only [Db.accountOf]
    rw [Table.find?_update_self, hp]
    rfl
  · refine ⟨true, ?_⟩
    simp only [Db.accountOf]
    rw [Table.find?_update_self, hp]
    rfl

/-- The step before has the account on the profile of the user. -/
def JustStored (u : UserId) (accountId : String) (h : List (StepRecord connectMachine)) : Prop :=
  ∃ t rest driver, h = t :: rest ∧ t.post.accountOf driver u = some accountId

/-- The call has looked the user up under its login. -/
def LookedUp (sub : String) (user : User) (h : List (StepRecord connectMachine)) : Prop :=
  ∃ t ∈ h, t.pre.userBySupabaseId sub = some user

theorem LookedUp.cons {t : StepRecord connectMachine} (hl : LookedUp sub user h) : LookedUp sub user (t :: h) := by
  obtain ⟨t', ht', huser⟩ := hl
  exact ⟨t', List.mem_cons_of_mem _ ht', huser⟩

/-- A link was handed out, for an account that Stripe knew. -/
def Minted (t : StepRecord connectMachine) : Prop :=
  ∃ id, t.site = .mintLink id ∧ (t.pre.accounts.find? id).any ConnectAccount.known = true

theorem createExpressAccount_sat (hl : LookedUp sub user h) :
    Sat (connectContract call)
      (fun h r _ => LookedUp sub user h ∧ ∀ id, r = .ok id → JustStored user.id id h)
      (createExpressAccount cfg user) h s := by
  have hfailed : ∀ {h : List (StepRecord connectMachine)} {e : ConnectError} (id : String),
      (Except.error e : Except ConnectError String) = .ok id → JustStored user.id id h :=
    fun _ he => by cases he
  refine sat_await_bind fun s₁ _ i => ⟨fun _ _ => ⟨.noop _ _ (by intro _ hsite; cases hsite), hl.cons, hfailed⟩, ?_⟩
  intro accountId s₂ hrun
  simp only [openAccount, Stmt.bind_ok, Stmt.get_ok, Stmt.throwIf_ok, Stmt.orThrow_ok, Stmt.set_ok,
    Stmt.pure_ok] at hrun
  obtain ⟨_, _, ⟨rfl, rfl⟩, _, _, ⟨-, rfl⟩, accounts, _, ⟨hnew, rfl⟩, _, _, rfl, rfl, rfl⟩ := hrun
  refine ⟨.createAccount user _ rfl hnew, ?_⟩
  refine sat_await_bind fun s₃ _ j => ⟨fun _ _ => ⟨.noop _ _ (by intro _ hsite; cases hsite), hl.cons.cons, hfailed⟩, ?_⟩
  intro _ s₄ hsaved
  refine ⟨.saveAccount user i.account ⟨_, List.mem_cons_self .., ?_⟩ hsaved, hl.cons.cons, ?_⟩
  · have hfound := (Table.find?_insert hnew i.account).trans (if_pos rfl)
    exact congrArg (fun a => Option.bind a ConnectAccount.userId) hfound
  · intro id hid
    cases hid
    obtain ⟨driver, hstored⟩ := saveAccount_stores hsaved
    exact ⟨_, _, driver, rfl, hstored⟩

theorem mintAccountLink_sat {accountId : String} (hcall : call = .createAccountLink sub)
    (hl : LookedUp sub user h) (hstored : JustStored user.id accountId h) :
    Sat (connectContract call)
      (fun h r _ => LookedUp sub user h ∧ ∀ link, r = .ok link → ∃ t ∈ h, Minted t)
      (mintAccountLink accountId) h s := by
  obtain ⟨t, rest, driver, hhead, haccount⟩ := hstored
  refine sat_ask_bind fun s₁ _ i => ⟨.mintLink user driver accountId hcall hl ⟨t, rest, hhead, haccount⟩, ?_⟩
  split
  · rename_i hmint
    split at hmint
    · rename_i hknown
      obtain ⟨-, hknown⟩ := Bool.and_eq_true_iff.mp hknown
      exact ⟨hl.cons, fun _ _ => ⟨_, List.mem_cons_self .., accountId, rfl, hknown⟩⟩
    · cases hmint
  · exact ⟨hl.cons, fun _ hlink => by cases hlink⟩

theorem accountLink_sat {stored : Option String} (hcall : call = .createAccountLink sub)
    (hl : LookedUp sub user h) (hread : ∀ id, stored = some id → JustStored user.id id h) :
    Sat (connectContract call) (fun h r _ => ∀ link, r = .ok link → ∃ t ∈ h, Minted t)
      (accountLink cfg user stored) h s := by
  -- an account that Stripe does not know is replaced once
  have hmint : ∀ accountId h s, LookedUp sub user h → JustStored user.id accountId h →
      Sat (connectContract call) (fun h r _ => ∀ link, r = .ok link → ∃ t ∈ h, Minted t)
        (tryCatch (mintAccountLink accountId) fun e => do
          throwIf (isNoSuchAccountError e = false) e
          let accountId ← createExpressAccount cfg user
          mintAccountLink accountId) h s := by
    intro accountId h s hl hstored
    refine sat_tryCatch ((mintAccountLink_sat hcall hl hstored).post fun h r s hr => ?_)
    cases r with
    | ok link => exact hr.2
    | error e =>
      refine sat_throwIf_bind (fun _ _ hlink => by cases hlink) fun _ => ?_
      refine sat_bind ((createExpressAccount_sat hr.1).post fun h r s hr => ?_)
      cases r with
      | error e => exact fun _ hlink => by cases hlink
      | ok id => exact (mintAccountLink_sat hcall hr.1 (hr.2 id rfl)).post fun _ _ _ hr => hr.2
  unfold accountLink
  cases stored with
  | some id => exact hmint id h s hl (hread id rfl)
  | none =>
    refine sat_bind ((createExpressAccount_sat hl).post fun h r s hr => ?_)
    cases r with
    | error e => exact fun _ hlink => by cases hlink
    | ok id => exact hmint id h s hr.1 (hr.2 id rfl)

theorem profileAccount_stored {id : String} (h : profileAccount s user = some (some id)) :
    ∃ driver, s.accountOf driver user.id = some id := by
  unfold profileAccount at h
  split at h
  · obtain ⟨p, hp, haccount⟩ := Option.map_eq_some_iff.mp h
    refine ⟨false, ?_⟩
    simp only [Db.accountOf]
    rw [hp]
    exact haccount
  · obtain ⟨p, hp, haccount⟩ := Option.map_eq_some_iff.mp h
    refine ⟨true, ?_⟩
    simp only [Db.accountOf]
    rw [hp]
    exact haccount

theorem createAccountLink_sat (hcall : call = .createAccountLink sub) :
    Sat (connectContract call) (fun h r _ => ∀ link, r = .ok link → ∃ t ∈ h, Minted t)
      (createAccountLink cfg sub) [] s := by
  have hfailed : ∀ {h : List (StepRecord connectMachine)} {e : ConnectError} (link : AccountLink),
      (Except.error e : Except ConnectError AccountLink) = .ok link → ∃ t ∈ h, Minted t :=
    fun _ he => by cases he
  refine sat_throwIf_bind (fun _ => hfailed) fun _ => ?_
  refine sat_read_bind fun s₁ _ => ⟨connect_query .., ?_⟩
  refine sat_orThrow_bind (fun _ => hfailed) fun user huser => ?_
  refine sat_throwIf_bind (fun _ => hfailed) fun _ => ?_
  refine sat_orThrow_bind (fun _ => hfailed) fun stored hstored => ?_
  have hl : LookedUp sub user [(⟨.query, s₁, s₁⟩ : StepRecord connectMachine)] :=
    ⟨_, List.mem_cons_self .., huser⟩
  refine sat_tryCatch ((accountLink_sat hcall hl fun id hid => ?_).post fun h r s hr => ?_)
  · subst hid
    rw [huser] at hstored
    obtain ⟨driver, haccount⟩ := profileAccount_stored hstored
    exact ⟨_, _, driver, rfl, haccount⟩
  · cases r with
    | ok link => exact hr
    | error e => exact hfailed

/-- **Every call takes only the steps that `ConnectStep` lists.** -/
theorem connectHandle_sat (me : Nat) (call : ConnectCall) (s : ConnectDb) :
    Sat (connectContract call) anyPost (connectHandle cfg me call) [] s := by
  cases call with
  | createAccountLink sub => exact sat_bind_free (createAccountLink_sat rfl).any fun _ => free_pure
  | accountUpdated account => exact sat_bind_free (handleAccountUpdated_free rfl _ _) fun _ => free_pure
  | requestWithdrawal sub => exact sat_bind_free (requestWithdrawal_connect rfl) fun _ => free_pure

end

end IncaCook
