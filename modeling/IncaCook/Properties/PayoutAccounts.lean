import IncaCook.Model.System
import IncaCook.Steps.Connect

/-!
# Where payouts go

A withdrawal reads the profile and pays later, `createAccountLink` reads the profile and stores an
account later, Stripe's notices come in between, and nothing holds the row meanwhile. What is so all
the same in every interleaving:

* `payout_to_own_account`: money goes to accounts that Stripe has opened for the user who is paid,
  so that no two users are ever paid to one account;
* `onboarded_by_stripe`: where an onboarding counts as complete, Stripe has said so, of the account
  that was on the profile then. A fresh account that replaces it takes the mark over;
* `link_for_own_account`: a link is for an account of the caller that Stripe knew, and that is still
  the one on the profile, unless another call for the same user has stored its own.
-/

namespace IncaCook

open Prog StripeOnboarding

section

variable {call : ConnectCall} {h : List (StepRecord connectMachine)} {site : ConnectSite}
  {s s' : ConnectDb} {cfg : StripeConfig}

/-! ## What a step does to the profiles -/

theorem saveAccount_profiles {role : UserRole} {u : UserId} {accountId : String} {x : Unit}
    (hrun : saveAccount u role accountId s = .ok (x, s')) (driver : Bool) (v : UserId) :
    (s'.accountOf driver v = s.accountOf driver v ∨
      v = u ∧ s'.accountOf driver v = some accountId) ∧
    s'.onboarded driver v = s.onboarded driver v := by
  rcases saveAccount_ok hrun with ⟨-, ⟨p, hp⟩, rfl⟩ | ⟨-, ⟨p, hp⟩, rfl⟩
  · cases driver with
    | true => exact ⟨.inl rfl, rfl⟩
    | false =>
      simp only [Db.accountOf, Db.onboarded]
      by_cases hv : v = u
      · rw [hv, Table.find?_update_self, hp]
        exact ⟨.inr ⟨rfl, rfl⟩, rfl⟩
      · rw [Table.find?_update_of_ne _ _ _ hv]
        exact ⟨.inl rfl, rfl⟩
  · cases driver with
    | false => exact ⟨.inl rfl, rfl⟩
    | true =>
      simp only [Db.accountOf, Db.onboarded]
      by_cases hv : v = u
      · rw [hv, Table.find?_update_self, hp]
        exact ⟨.inr ⟨rfl, rfl⟩, rfl⟩
      · rw [Table.find?_update_of_ne _ _ _ hv]
        exact ⟨.inl rfl, rfl⟩

theorem saveAccount_others {role : UserRole} {u : UserId} {accountId : String} {x : Unit}
    (hrun : saveAccount u role accountId s = .ok (x, s')) :
    s'.accounts = s.accounts ∧ s'.transfers = s.transfers := by
  rcases saveAccount_ok hrun with ⟨-, -, rfl⟩ | ⟨-, -, rfl⟩
  · exact ⟨rfl, rfl⟩
  · exact ⟨rfl, rfl⟩

/-- A profile gets another account only when one of its user is stored. -/
theorem ConnectStep.accountOf (hstep : ConnectStep call h site s s') (driver : Bool) (u : UserId) :
    s'.accountOf driver u = s.accountOf driver u ∨
      site = .saveAccount u ∧ ∃ id, s'.accountOf driver u = some id ∧ ∃ t ∈ h, t.post.OpenedFor id u := by
  cases hstep with
  -- an account is stored on one profile of one user, whose other columns the notices write
  | saveAccount user accountId hopened hrun =>
    rcases (saveAccount_profiles hrun driver u).1 with hkept | ⟨rfl, hstored⟩
    · exact .inl hkept
    · exact .inr ⟨rfl, accountId, hstored, hopened⟩
  | sellerUpdated account hcall =>
    left
    cases driver with
    | true => rfl
    | false =>
      simp only [Db.accountOf]
      rw [Table.find?_updateMany]
      cases s.sellerProfiles.find? u with
      | none => rfl
      | some p =>
        simp only [Option.map_some, Option.bind_some]
        split
        · rfl
        · rfl
  | driverUpdated account hcall =>
    left
    cases driver with
    | false => rfl
    | true =>
      simp only [Db.accountOf]
      rw [Table.find?_updateMany]
      cases s.driverProfiles.find? u with
      | none => rfl
      | some p =>
        simp only [Option.map_some, Option.bind_some]
        split
        · rfl
        · rfl
  | _ => exact .inl rfl

/-- A mark changes only by a notice about the account on the profile. -/
theorem ConnectStep.onboarded (hstep : ConnectStep call h site s s') (driver : Bool) (u : UserId) :
    s'.onboarded driver u = s.onboarded driver u ∨
      ∃ account, call = .accountUpdated account ∧ s.accountOf driver u = some account.id ∧
        s'.accountOf driver u = some account.id ∧ s'.onboarded driver u = account.onboardingCompleted := by
  cases hstep with
  | saveAccount user accountId hopened hrun => exact .inl (saveAccount_profiles hrun driver u).2
  | sellerUpdated account hcall =>
    cases driver with
    | true => exact .inl rfl
    | false =>
      simp only [Db.onboarded, Db.accountOf]
      rw [Table.find?_updateMany]
      cases s.sellerProfiles.find? u with
      | none => exact .inl rfl
      | some p =>
        simp only [Option.map_some, Option.bind_some, Option.getD_some]
        split
        · rename_i hmatch
          exact .inr ⟨account, hcall, of_decide_eq_true hmatch, of_decide_eq_true hmatch, rfl⟩
        · exact .inl rfl
  | driverUpdated account hcall =>
    cases driver with
    | false => exact .inl rfl
    | true =>
      simp only [Db.onboarded, Db.accountOf]
      rw [Table.find?_updateMany]
      cases s.driverProfiles.find? u with
      | none => exact .inl rfl
      | some p =>
        simp only [Option.map_some, Option.bind_some, Option.getD_some]
        split
        · rename_i hmatch
          exact .inr ⟨account, hcall, of_decide_eq_true hmatch, of_decide_eq_true hmatch, rfl⟩
        · exact .inl rfl
  | _ => exact .inl rfl

/-- An account stays that of its user. -/
theorem ConnectStep.opened (hstep : ConnectStep call h site s s') {id : String} {u : UserId}
    (hopened : s.OpenedFor id u) : s'.OpenedFor id u := by
  cases hstep with
  | createAccount user account hfor hnew =>
    obtain ⟨a, ha, huser⟩ := Option.bind_eq_some_iff.mp hopened
    exact Option.bind_eq_some_iff.mpr ⟨a, Table.find?_insert_of_some hnew ha, huser⟩
  | saveAccount user accountId _ hrun =>
    rw [ConnectDb.OpenedFor, (saveAccount_others hrun).1]
    exact hopened
  | _ => exact hopened

/-- Money goes to the user behind the call, where the call has read that it may. -/
theorem ConnectStep.transfers (hstep : ConnectStep call h site s s') {t : StripeTransfer}
    (ht : t ∈ s'.transfers.rows) : t ∈ s.transfers.rows ∨ ∃ sub user, call = .requestWithdrawal sub ∧
      LookedUp sub user h ∧ t.userId = user.id ∧
      ∃ r ∈ h, r.site = .wallet .query ∧ ReadPayout r.pre.toDb t := by
  cases hstep with
  | saveAccount user accountId _ hrun =>
    rw [(saveAccount_others hrun).2] at ht
    exact .inl ht
  | transfer t' ids user hcall huser hpaid hread =>
    replace ht : t ∈ ((s.transfers.insert? t').getD s.transfers).rows := ht
    cases hnew : s.transfers.insert? t' with
    | none =>
      rw [hnew] at ht
      exact .inl ht
    | some transfers =>
      rw [hnew] at ht
      rcases (Table.mem_insert hnew).mp ht with rfl | ht
      · exact .inr ⟨_, user, hcall, huser, hpaid, hread⟩
      · exact .inl ht
  | _ => exact .inl ht

theorem ConnectStep.minted (hstep : ConnectStep call h site s s') {id : String} (hsite : site = .mintLink id) :
    ∃ sub user, call = .createAccountLink sub ∧ LookedUp sub user h ∧ JustStored user.id id h := by
  cases hstep with
  | noop _ _ hother => exact absurd hsite (hother id)
  | mintLink user driver accountId hcall huser hstored =>
    cases hsite
    obtain ⟨t, rest, hhead, haccount⟩ := hstored
    exact ⟨_, user, hcall, huser, t, rest, driver, hhead, haccount⟩
  | _ => cases hsite

/-! ## What happens by itself -/

theorem applyConnectEvent_profiles (e : ConnectEvent) (s : ConnectDb) (driver : Bool) (u : UserId) :
    (applyConnectEvent e s).accountOf driver u = s.accountOf driver u ∧
      (applyConnectEvent e s).onboarded driver u = s.onboarded driver u := by
  cases e with
  | seller p =>
    cases driver with
    | true => exact ⟨rfl, rfl⟩
    | false =>
      exact ⟨Table.find?_insert_fresh (fun p => p.bind SellerProfile.stripeConnectAccountId) rfl u,
        Table.find?_insert_fresh (fun p => (p.map SellerProfile.stripeOnboardingCompleted).getD false) rfl u⟩
  | driver p =>
    cases driver with
    | false => exact ⟨rfl, rfl⟩
    | true =>
      exact ⟨Table.find?_insert_fresh (fun p => p.bind DriverProfile.stripeConnectAccountId) rfl u,
        Table.find?_insert_fresh (fun p => (p.map DriverProfile.stripeOnboardingCompleted).getD false) rfl u⟩
  | _ =>
    cases driver with
    | true => exact ⟨rfl, rfl⟩
    | false => exact ⟨rfl, rfl⟩

theorem applyConnectEvent_opened (e : ConnectEvent) {id : String} {u : UserId}
    (hopened : s.OpenedFor id u) : (applyConnectEvent e s).OpenedFor id u := by
  obtain ⟨a, ha, huser⟩ := Option.bind_eq_some_iff.mp hopened
  cases e with
  | support account =>
    simp only [ConnectDb.OpenedFor, applyConnectEvent]
    cases hnew : s.accounts.insert? account with
    | none => exact hopened
    | some accounts =>
      exact Option.bind_eq_some_iff.mpr ⟨a, Table.find?_insert_of_some hnew ha, huser⟩
  | forget closed =>
    simp only [ConnectDb.OpenedFor, applyConnectEvent]
    rw [Table.find?_update]
    split
    · rw [ha]
      exact huser
    · exact hopened
  | _ => exact hopened

theorem applyConnectEvent_transfers (e : ConnectEvent) {t : StripeTransfer}
    (ht : t ∈ (applyConnectEvent e s).transfers.rows) : t ∈ s.transfers.rows := by
  cases e
  all_goals exact ht

/-! ## Whose account it is -/

structure ConnectDb.Owned (s : ConnectDb) : Prop where
  profiles : ∀ driver u id, s.accountOf driver u = some id → s.OpenedFor id u
  transfers : ∀ t ∈ s.transfers.rows, s.OpenedFor t.destination t.userId

/-- What holds of a state after the steps of `trace`: an account that one of them saw opened, or saw on
a profile, is still known to be its user's. -/
structure OwnedSince (s : ConnectDb) (trace : List (Entry connectMachine)) : Prop extends s.Owned where
  opened : ∀ e ∈ trace, ∀ id u, e.post.OpenedFor id u → s.OpenedFor id u
  read : ∀ e ∈ trace, ∀ driver u id, e.pre.accountOf driver u = some id → s.OpenedFor id u

theorem connect_step {s₀ : ConnectDb} {actions : List (Pool.Action (connectService cfg))}
    {later earlier : List (Entry connectMachine)} {e : Entry connectMachine}
    (hsplit : (poolRun s₀ actions).trace = later ++ e :: earlier) :
    ∃ c, (poolRun s₀ actions).call? e.thread = some c ∧
      ConnectStep c (Pool.ownSteps e.thread earlier) e.site e.pre e.post :=
  Pool.own_step (C := fun _ => connectContract) (fun _ _ _ _ => trivial) connectHandle_sat hsplit

/-- **The step.** Whatever is on record of the accounts and their users stays true. -/
theorem OwnedSince.step {e : Entry connectMachine} {earlier : List (Entry connectMachine)}
    (hpre : OwnedSince e.pre earlier)
    (hstep : ConnectStep call (Pool.ownSteps e.thread earlier) e.site e.pre e.post) :
    OwnedSince e.post (e :: earlier) := by
  have hread : ∀ t ∈ e :: earlier, ∀ driver u id, t.pre.accountOf driver u = some id → e.pre.OpenedFor id u := by
    intro t ht driver u id hid
    rcases List.mem_cons.mp ht with rfl | ht
    · exact hpre.profiles driver u id hid
    · exact hpre.read t ht driver u id hid
  refine ⟨⟨fun driver u id hid => ?_, fun t ht => ?_⟩, fun t ht id u hopened => ?_, fun t ht driver u id hid =>
    hstep.opened (hread t ht driver u id hid)⟩
  · rcases hstep.accountOf driver u with hkept | ⟨-, id', hstored, t, ht, hopened⟩
    · rw [hkept] at hid
      exact hstep.opened (hpre.profiles driver u id hid)
    · obtain rfl : id' = id := Option.some.inj (hstored.symm.trans hid)
      obtain ⟨e', he', -, rfl⟩ := Pool.mem_of_ownSteps ht
      exact hstep.opened (hpre.opened e' he' _ _ hopened)
  · rcases hstep.transfers ht with hold | ⟨-, -, -, -, -, r, hr, -, driver, haccount, -⟩
    · exact hstep.opened (hpre.transfers t hold)
    · obtain ⟨e', he', -, rfl⟩ := Pool.mem_of_ownSteps hr
      exact hstep.opened (hpre.read e' he' driver _ _ haccount)
  · rcases List.mem_cons.mp ht with rfl | ht
    · exact hopened
    · exact hstep.opened (hpre.opened t ht id u hopened)

theorem OwnedSince.event {trace : List (Entry connectMachine)} (e : ConnectEvent) (hs : OwnedSince s trace) :
    OwnedSince (applyConnectEvent e s) trace := by
  refine ⟨⟨fun driver u id hid => ?_, fun t ht => ?_⟩, fun t ht id u hopened => ?_, fun t ht driver u id hid => ?_⟩
  · rw [(applyConnectEvent_profiles e s driver u).1] at hid
    exact applyConnectEvent_opened e (hs.profiles driver u id hid)
  · exact applyConnectEvent_opened e (hs.transfers t (applyConnectEvent_transfers e ht))
  · exact applyConnectEvent_opened e (hs.opened t ht id u hopened)
  · exact applyConnectEvent_opened e (hs.read t ht driver u id hid)

theorem owned_since {s₀ : ConnectDb} (hstart : s₀.Owned) (actions : List (Pool.Action (connectService cfg))) :
    OwnedSince (poolRun s₀ actions).state (poolRun s₀ actions).trace ∧
      ∀ later e earlier, (poolRun s₀ actions).trace = later ++ e :: earlier → OwnedSince e.pre earlier := by
  have hnone : OwnedSince s₀ [] :=
    ⟨hstart, fun _ ht => absurd ht List.not_mem_nil, fun _ ht => absurd ht List.not_mem_nil⟩
  refine Pool.history_past (S := connectService cfg) hnone (fun e s trace hs => hs.event e) actions ?_
  intro later e earlier hsplit hpre _
  obtain ⟨c, -, hstep⟩ := connect_step hsplit
  exact hpre.step hstep

/-- **Payouts go to the user's own account.** In every interleaving of withdrawals, requests for links,
notices of Stripe and whatever the rest of the server does, from a state in which it is so: every account
on a profile is one that Stripe has opened for this user, every transfer went to an account that Stripe has
opened for the user who is paid, and no two users are paid to one account. -/
theorem payout_to_own_account (cfg : StripeConfig) (s₀ : ConnectDb) (hstart : s₀.Owned)
    (actions : List (Pool.Action (connectService cfg))) :
    (poolRun s₀ actions).state.Owned ∧
      ∀ t ∈ (poolRun s₀ actions).state.transfers.rows, ∀ t' ∈ (poolRun s₀ actions).state.transfers.rows,
        t.destination = t'.destination → t.userId = t'.userId := by
  have howned := (owned_since hstart actions).1.toOwned
  refine ⟨howned, fun t ht t' ht' hsame => ?_⟩
  have hfor := howned.transfers t ht
  have hfor' := howned.transfers t' ht'
  rw [hsame] at hfor
  exact Option.some.inj (hfor.symm.trans hfor')

/-- The driver has earned 70 € and has no account yet. -/
def unpaidTown : ConnectDb :=
  { smallTown with
    sellerProfiles := .empty
    driverProfiles := ⟨[⟨⟨0, 102⟩, .approved, none, false⟩], by decide⟩
    walletEntries := ⟨[⟨⟨0, 9⟩, .user ⟨0, 102⟩, none, .deliveryEarning, 7000, .available, none, none, none,
      none⟩], by decide⟩
    accounts := .empty
    updates := [] }

/-- No profile of the town has an account or a mark. -/
theorem unpaidTown_profiles (driver : Bool) (u : UserId) :
    unpaidTown.accountOf driver u = none ∧ unpaidTown.onboarded driver u = false := by
  cases driver with
  | false => exact ⟨rfl, rfl⟩
  | true =>
    simp only [Db.accountOf, Db.onboarded]
    cases hp : unpaidTown.driverProfiles.find? u with
    | none => exact ⟨rfl, rfl⟩
    | some p =>
      obtain rfl := List.mem_singleton.mp (Table.mem_of_find? hp)
      exact ⟨rfl, rfl⟩

theorem unpaidTown_owned : unpaidTown.Owned where
  profiles driver u id hid := by
    rw [(unpaidTown_profiles driver u).1] at hid
    cases hid
  transfers t ht := nomatch ht

/-- Stripe goes along with everything. -/
def stripeAgrees : ConnectAnswer := ⟨true, "acct_1", ⟨"https://connect", 60⟩, ⟨none, ""⟩, ⟨true, "", ""⟩⟩

def townStripe : StripeConfig := ⟨"https://return", "https://refresh", "FR"⟩

/-- What Stripe says once the driver has filled in its form. -/
def driverOnboarded : AccountUpdate := ⟨"acct_1", some .driver, true, true, true⟩

/-- The driver asks for a link (call 0), Stripe's notice comes in (call 1), and the driver withdraws (call 2). -/
def firstPayout : List (Pool.Action (connectService townStripe)) :=
  .arrive (.createAccountLink "driver") :: (List.replicate 4 (.run 0 stripeAgrees) ++
    [.event (.notice driverOnboarded), .arrive (.accountUpdated driverOnboarded), .run 1 stripeAgrees,
      .arrive (.requestWithdrawal "driver")] ++ List.replicate 5 (.run 2 stripeAgrees))

theorem firstPayout_owned :
    (poolRun unpaidTown firstPayout).state.Owned ∧
      ∀ t ∈ (poolRun unpaidTown firstPayout).state.transfers.rows,
        ∀ t' ∈ (poolRun unpaidTown firstPayout).state.transfers.rows,
        t.destination = t'.destination → t.userId = t'.userId :=
  payout_to_own_account townStripe unpaidTown unpaidTown_owned firstPayout

/-! ## Accounts that are replaced -/

/-- A profile has the account that it had after a step of the trace, unless one was stored since. -/
def AccountsStay (s : ConnectDb) (trace : List (Entry connectMachine)) : Prop :=
  ∀ later e earlier, trace = later ++ e :: earlier → ∀ driver u,
    s.accountOf driver u = e.post.accountOf driver u ∨ ∃ e' ∈ later, e'.site = .saveAccount u

theorem accounts_stay {s₀ : ConnectDb} {actions : List (Pool.Action (connectService cfg))}
    {later earlier : List (Entry connectMachine)} {e : Entry connectMachine}
    (hsplit : (poolRun s₀ actions).trace = later ++ e :: earlier) : AccountsStay e.pre earlier := by
  rintro between e₀ before rfl driver u
  refine Pool.holds_until (S := connectService cfg)
    (P := fun s : ConnectDb => s.accountOf driver u = e₀.post.accountOf driver u)
    (E := fun e' => e'.site = .saveAccount u)
    (fun ev s hkept => (applyConnectEvent_profiles ev s driver u).1.trans hkept) actions ?_ hsplit rfl
  intro e' he' hkept
  obtain ⟨later', earlier', hsplit'⟩ := List.append_of_mem he'
  obtain ⟨c, -, hstep⟩ := connect_step hsplit'
  rcases hstep.accountOf driver u with hsame | ⟨hsite, -⟩
  · exact .inl (hsame.trans hkept)
  · exact .inr hsite

/-! ## Onboarding that is complete -/

/-- Stripe has said that the onboarding is complete, of an account that was on the profile then and that
is on it in `s`, unless another one was stored since. -/
def OnboardedBy (p : Pool (connectService cfg)) (trace : List (Entry connectMachine)) (s : ConnectDb)
    (driver : Bool) (u : UserId) : Prop :=
  ∃ later e earlier account, trace = later ++ e :: earlier ∧
    p.call? e.thread = some (.accountUpdated account) ∧ account.onboardingCompleted = true ∧
    e.pre.accountOf driver u = some account.id ∧
    (s.accountOf driver u = some account.id ∨ ∃ e' ∈ later, e'.site = .saveAccount u)

/-- Where a profile is marked, a notice has marked it. -/
def MarkedByNotice (p : Pool (connectService cfg)) (s : ConnectDb) (trace : List (Entry connectMachine)) : Prop :=
  ∀ driver u, s.onboarded driver u = true → ∃ later e earlier account, trace = later ++ e :: earlier ∧
    p.call? e.thread = some (.accountUpdated account) ∧ account.onboardingCompleted = true ∧
    e.pre.accountOf driver u = some account.id ∧ e.post.accountOf driver u = some account.id

theorem marked_by_notice {s₀ : ConnectDb} (hnew : ∀ driver u, s₀.onboarded driver u = false)
    (actions : List (Pool.Action (connectService cfg))) :
    MarkedByNotice (poolRun s₀ actions) (poolRun s₀ actions).state (poolRun s₀ actions).trace ∧
      ∀ later e earlier, (poolRun s₀ actions).trace = later ++ e :: earlier →
        MarkedByNotice (poolRun s₀ actions) e.pre earlier := by
  have hnone : MarkedByNotice (poolRun s₀ actions) s₀ [] := by
    intro driver u hmark
    rw [hnew driver u] at hmark
    cases hmark
  refine Pool.history_past (S := connectService cfg)
    (I := fun s trace => MarkedByNotice (poolRun s₀ actions) s trace) hnone ?_ actions ?_
  · intro e s trace hs driver u hmark
    exact hs driver u ((applyConnectEvent_profiles e s driver u).2.symm.trans hmark)
  · intro later e earlier hsplit hpre _ driver u hmark
    obtain ⟨c, hc, hstep⟩ := connect_step hsplit
    rcases hstep.onboarded driver u with hkept | ⟨account, rfl, haccount, hsame, hcompleted⟩
    · rw [hkept] at hmark
      obtain ⟨after, e', before, account, rfl, hrest⟩ := hpre driver u hmark
      exact ⟨e :: after, e', before, account, rfl, hrest⟩
    · rw [hcompleted] at hmark
      exact ⟨[], e, earlier, account, rfl, hc, hmark, haccount, hsame⟩

/-- A mark that a notice has left is about the account on the profile, unless another one was stored. -/
theorem OnboardedBy.of_marked {p : Pool (connectService cfg)} {trace : List (Entry connectMachine)}
    (hmarked : MarkedByNotice p s trace) (hstay : AccountsStay s trace) {driver : Bool} {u : UserId}
    (hmark : s.onboarded driver u = true) : OnboardedBy p trace s driver u := by
  obtain ⟨later, e, earlier, account, hsplit, hcall, hcompleted, hpre, hpost⟩ := hmarked driver u hmark
  refine ⟨later, e, earlier, account, hsplit, hcall, hcompleted, hpre, ?_⟩
  rcases hstay later e earlier hsplit driver u with hkept | hstored
  · exact .inl (hkept.trans hpost)
  · exact .inr hstored

/-- **No payout before Stripe's word.** In every interleaving from a state in which no onboarding counts as
complete, every transfer that is made is made by a withdrawal of the user who is paid, and goes to the account
that this very call had read on the user's profile, some steps before; and by then Stripe had declared the
onboarding of this account complete, or else that of the one that `createAccountLink` has since replaced: it
leaves the mark of the profile as it is. -/
theorem payout_after_onboarding (cfg : StripeConfig) (s₀ : ConnectDb)
    (hnew : ∀ driver u, s₀.onboarded driver u = false) (actions : List (Pool.Action (connectService cfg)))
    {t : StripeTransfer} (ht : t ∈ (poolRun s₀ actions).state.transfers.rows) (hmade : t ∉ s₀.transfers.rows) :
    ∃ later paid between read earlier sub user driver,
      (poolRun s₀ actions).trace = later ++ paid :: (between ++ read :: earlier) ∧
      t ∉ paid.pre.transfers.rows ∧ t ∈ paid.post.transfers.rows ∧
      (poolRun s₀ actions).call? paid.thread = some (.requestWithdrawal sub) ∧
      LookedUp sub user (Pool.ownSteps paid.thread (between ++ read :: earlier)) ∧ t.userId = user.id ∧
      read.thread = paid.thread ∧ read.site = .wallet .query ∧
      read.pre.accountOf driver t.userId = some t.destination ∧
      OnboardedBy (poolRun s₀ actions) earlier read.pre driver t.userId := by
  have hpaid := Pool.comes_about (P := fun s : ConnectDb => t ∈ s.transfers.rows)
    (fun _ _ => applyConnectEvent_transfers _) actions ht
  rcases hpaid with hstart | ⟨later, paid, before, hsplit, hfresh, hthere⟩
  · exact absurd hstart hmade
  obtain ⟨c, hc, hstep⟩ := connect_step hsplit
  rcases hstep.transfers hthere with hold | ⟨sub, user, rfl, huser, hsame, r, hr, hquery, driver, haccount, hmark⟩
  · exact absurd hold hfresh
  -- what the call has read was so at the time, and so was the mark
  obtain ⟨read, hread, hown, rfl⟩ := Pool.mem_of_ownSteps hr
  obtain ⟨between, earlier, rfl⟩ := List.append_of_mem hread
  have hthen : (poolRun s₀ actions).trace = (later ++ paid :: between) ++ read :: earlier := by
    rw [hsplit, List.append_assoc]
    rfl
  have hmarked := (marked_by_notice hnew actions).2 _ _ _ hthen
  have hstay := accounts_stay hthen
  exact ⟨later, paid, between, read, earlier, sub, user, driver, hsplit, hfresh, hthere, hc, huser, hsame, hown,
    hquery, haccount, .of_marked hmarked hstay hmark⟩

/-- The 70 €. -/
def firstTransfer : StripeTransfer :=
  ((poolRun unpaidTown firstPayout).state.transfers.find? (generateUlid 2 11)).get (by decide +kernel)

theorem firstTransfer_onboarded :
    ∃ later paid between read earlier sub user driver,
      (poolRun unpaidTown firstPayout).trace = later ++ paid :: (between ++ read :: earlier) ∧
      firstTransfer ∉ paid.pre.transfers.rows ∧ firstTransfer ∈ paid.post.transfers.rows ∧
      (poolRun unpaidTown firstPayout).call? paid.thread = some (.requestWithdrawal sub) ∧
      LookedUp sub user (Pool.ownSteps paid.thread (between ++ read :: earlier)) ∧
      firstTransfer.userId = user.id ∧ read.thread = paid.thread ∧ read.site = .wallet .query ∧
      read.pre.accountOf driver firstTransfer.userId = some firstTransfer.destination ∧
      OnboardedBy (poolRun unpaidTown firstPayout) earlier read.pre driver firstTransfer.userId :=
  payout_after_onboarding townStripe unpaidTown (fun driver u => (unpaidTown_profiles driver u).2) firstPayout
    (Table.mem_of_find? (Option.some_get _).symm) (fun ht => nomatch ht)

/-! ## Links -/

/-- **A link is for an account of one's own.** Whenever `createAccountLink` has answered with a link, in any
interleaving from a state in which the accounts on the profiles are their users' own, the link is for an
account that Stripe knew and had opened for the user behind the login; and it was then the one on the user's
profile, unless another call for the same user had meanwhile stored its own. -/
theorem link_for_own_account (cfg : StripeConfig) (s₀ : ConnectDb) (hstart : s₀.Owned)
    (actions : List (Pool.Action (connectService cfg))) {j : Nat} {sub : String}
    (hj : (poolRun s₀ actions).call? j = some (.createAccountLink sub))
    (hok : ((poolRun s₀ actions).result? j).any Except.isOk = true) :
    ∃ later e earlier id user driver, (poolRun s₀ actions).trace = later ++ e :: earlier ∧ e.thread = j ∧
      e.site = .mintLink id ∧ (e.pre.accounts.find? id).any ConnectAccount.known = true ∧
      LookedUp sub user (Pool.ownSteps j earlier) ∧ e.pre.OpenedFor id user.id ∧
      (e.pre.accountOf driver user.id = some id ∨
        ∃ e' ∈ earlier, e'.thread ≠ j ∧ e'.site = .saveAccount user.id) := by
  obtain ⟨result, hresult, hdone⟩ := Option.any_eq_true _ _ |>.mp hok
  obtain ⟨reply, rfl⟩ : ∃ reply, result = .ok reply := by
    cases result with
    | ok reply => exact ⟨reply, rfl⟩
    | error e => cases hdone
  have hend : ∀ s, Sat (connectContract (.createAccountLink sub))
      (fun h r _ => ∀ reply, r = .ok reply → ∃ t ∈ h, Minted t)
      (connectHandle cfg j (.createAccountLink sub)) [] s := by
    intro s
    refine sat_bind ((createAccountLink_sat rfl).post fun h r s hr => ?_)
    cases r with
    | ok link => exact fun _ _ => hr link rfl
    | error e => exact fun _ he => by cases he
  obtain ⟨t, ht, id, hsite, hknown⟩ := (Pool.own_sat (fun _ _ => trivial) hend hj).2 _ hresult reply rfl
  obtain ⟨e, he, rfl, rfl⟩ := Pool.mem_of_ownSteps ht
  obtain ⟨later, earlier, hsplit⟩ := List.append_of_mem he
  obtain ⟨c, hc, hstep⟩ := connect_step hsplit
  obtain ⟨sub', user, rfl, hl, t, rest, driver, hhead, hstored⟩ := hstep.minted hsite
  obtain rfl : sub' = sub := by
    rw [hj] at hc
    cases hc
    rfl
  -- since its last step before the link, only others have written
  obtain ⟨after, e₁, before, hearlier, rfl, hothers⟩ := Pool.ownSteps_head hhead
  refine ⟨later, e, earlier, id, user, driver, hsplit, rfl, hsite, hknown, hl, ?_, ?_⟩
  · have hsplit₁ : (poolRun s₀ actions).trace = (later ++ e :: after) ++ e₁ :: before := by
      rw [hsplit, hearlier, List.append_assoc]
      rfl
    obtain ⟨c₁, -, hstep₁⟩ := connect_step hsplit₁
    have hthen := ((owned_since hstart actions).2 _ _ _ hsplit₁).step hstep₁
    have hnow := (owned_since hstart actions).2 _ _ _ hsplit
    exact hnow.opened e₁ (by simp [hearlier]) _ _ (hthen.profiles driver user.id id hstored)
  · rcases accounts_stay hsplit after e₁ before hearlier driver user.id with hkept | hreplaced
    · exact .inl (hkept.trans hstored)
    · obtain ⟨e₂, he₂, hsaved⟩ := hreplaced
      exact .inr ⟨e₂, by simp [hearlier, he₂], hothers e₂ he₂, hsaved⟩

theorem firstLink_own :
    ∃ later e earlier id user driver, (poolRun unpaidTown firstPayout).trace = later ++ e :: earlier ∧
      e.thread = 0 ∧ e.site = .mintLink id ∧ (e.pre.accounts.find? id).any ConnectAccount.known = true ∧
      LookedUp "driver" user (Pool.ownSteps 0 earlier) ∧ e.pre.OpenedFor id user.id ∧
      (e.pre.accountOf driver user.id = some id ∨
        ∃ e' ∈ earlier, e'.thread ≠ 0 ∧ e'.site = .saveAccount user.id) :=
  link_for_own_account townStripe unpaidTown unpaidTown_owned firstPayout (Pool.call?_first rfl _)
    (by decide +kernel)

end

end IncaCook
