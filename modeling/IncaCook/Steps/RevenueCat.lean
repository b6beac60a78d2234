import IncaCook.Library.Crash
import IncaCook.Model.Subscriptions

/-!
# What RevenueCat's writers do

The webhook and the sync endpoint write the rows of sellers with the same
`buildSubscriptionFields`. Here each of them, run alone, is reduced to the change that
it makes of its input (`RevenueCatEvent.change`, `syncChange`), the rows that it
writes, and the database that it leaves.
-/

namespace IncaCook

open Prog Subscriptions

variable {db : PlanDb} {w : Nat → PlanAnswer} {appUserId : AppUserId} {input : SubscriptionUpdateInput}

/-! ## The webhook -/

/-- The ids of the entitlements of an event. -/
def Subscriptions.RevenueCatEvent.entitlements (event : RevenueCatEvent) : List String :=
  event.entitlementIds.getD (event.entitlementId.filter (· ≠ "")).toList

/-- The user whom an event names. -/
def Subscriptions.RevenueCatEvent.user (event : RevenueCatEvent) : Option AppUserId :=
  (event.appUserId <|> event.originalAppUserId).filter AppUserId.truthy

/-- The user whom an event names and the change that it asks for, if it is not ignored. -/
def Subscriptions.RevenueCatEvent.change (event : RevenueCatEvent) :
    Option (AppUserId × SubscriptionUpdateInput) := do
  let type ← event.type.filter (· ≠ "")
  let appUserId ← event.user
  let status ← webhookEventToStatus type event.periodType
  return (appUserId, ⟨status, pickActiveEntitlement event.entitlements, event.productId,
    event.expirationAtMs, (event.periodType.getD "").toUpper = "TRIAL", none, some appUserId⟩)

/-- What there is to an event that is not ignored. -/
theorem RevenueCatEvent.change_eq_some {event : RevenueCatEvent} :
    event.change = some (appUserId, input) ↔
      ∃ type status, event.type = some type ∧ type ≠ "" ∧ event.user = some appUserId ∧
        webhookEventToStatus type event.periodType = some status ∧
        input = ⟨status, pickActiveEntitlement event.entitlements, event.productId,
          event.expirationAtMs, (event.periodType.getD "").toUpper = "TRIAL", none, some appUserId⟩ := by
  simp only [RevenueCatEvent.change, Option.bind_eq_bind, Option.bind_eq_some_iff, Option.pure_def,
    Option.filter_eq_some_iff, Option.some.injEq, Prod.mk.injEq, decide_eq_true_eq]
  constructor
  · rintro ⟨type, ⟨htype, hnonempty⟩, user, huser, status, hstatus, rfl, rfl⟩
    exact ⟨type, status, htype, hnonempty, huser, hstatus, rfl⟩
  · rintro ⟨type, status, htype, hnonempty, huser, hstatus, rfl⟩
    exact ⟨type, ⟨htype, hnonempty⟩, appUserId, huser, status, hstatus, rfl, rfl⟩

theorem handleRevenueCatEvent_eq (event : RevenueCatEvent) :
    handleRevenueCatEvent event = match event.change with
      | none => pure ()
      | some (appUserId, input) => applyEntitlement appUserId input := by
  unfold handleRevenueCatEvent RevenueCatEvent.change RevenueCatEvent.user
  cases event.type.filter (· ≠ "") with
  | none => rfl
  | some type =>
    cases (event.appUserId <|> event.originalAppUserId).filter AppUserId.truthy with
    | none => rfl
    | some appUserId =>
      dsimp only
      cases hstatus : webhookEventToStatus type event.periodType with
      | none => simp [hstatus]
      | some status => simp [hstatus, RevenueCatEvent.entitlements]

/-- The rows of a user: the one under the user's id or, if there is none, those with
the id as their customer. -/
def PlanDb.addressed (db : PlanDb) (appUserId : AppUserId) (p : SellerPlan) : Bool :=
  if db.sellerProfiles.rows.any fun q => .user q.userId = appUserId then .user p.userId = appUserId
  else p.revenueCatCustomerId = some appUserId

/-- The database with the change made to some of the rows. -/
def PlanDb.changed (db : PlanDb) (rows : SellerPlan → Bool) (input : SubscriptionUpdateInput) : PlanDb :=
  { db with sellerProfiles := db.sellerProfiles.updateMany rows (buildSubscriptionFields db.now input) }

theorem PlanDb.changed_congr {p q : SellerPlan → Bool}
    (hpq : ∀ r ∈ db.sellerProfiles.rows, p r = q r) : db.changed p input = db.changed q input := by
  have hrows : (db.changed p input).sellerProfiles = (db.changed q input).sellerProfiles := by
    refine Table.ext_rows (List.map_congr_left fun r hr => ?_)
    rw [hpq r hr]
  simpa [PlanDb.changed] using hrows

theorem PlanDb.changed_of_none {p : SellerPlan → Bool}
    (hnone : ∀ r ∈ db.sellerProfiles.rows, p r = false) : db.changed p input = db := by
  have hrows : (db.changed p input).sellerProfiles = db.sellerProfiles :=
    Table.ext_rows (Table.rewritten_of_none hnone)
  cases db
  simpa [PlanDb.changed] using hrows

theorem updatePlans_run {p : SellerPlan → Bool} :
    updatePlans p db.now input db = .ok (db.sellerProfiles.rows.countP p, db.changed p input) := rfl

theorem applyEntitlement_exec :
    ((applyEntitlement appUserId input).exec w db).state =
      db.changed (db.addressed appUserId) input := by
  unfold applyEntitlement
  rw [exec_read_bind, exec_run_bind_ok updatePlans_run]
  by_cases hcount : db.sellerProfiles.rows.countP (fun p => .user p.userId = appUserId) = 0
  · -- nobody has the id: the first statement changes nothing
    have hnone : ∀ p ∈ db.sellerProfiles.rows, decide (.user p.userId = appUserId) = false := by
      simpa using hcount
    have hany : (db.sellerProfiles.rows.any fun p => .user p.userId = appUserId) = false :=
      List.any_eq_false.mpr fun p hp => by simp [hnone p hp]
    dsimp only
    rw [if_pos hcount, PlanDb.changed_of_none hnone, exec_run_bind_ok updatePlans_run]
    refine PlanDb.changed_congr fun p _ => ?_
    rw [PlanDb.addressed, hany, if_neg Bool.false_ne_true]
  · have hany : (db.sellerProfiles.rows.any fun p => .user p.userId = appUserId) = true := by
      obtain ⟨p, hp, hid⟩ := List.countP_pos_iff.mp (Nat.pos_of_ne_zero hcount)
      exact List.any_eq_true.mpr ⟨p, hp, hid⟩
    dsimp only
    rw [if_neg hcount]
    refine PlanDb.changed_congr fun p _ => ?_
    rw [PlanDb.addressed, hany, if_pos rfl]

/-- **What the webhook leaves**: the rows of the event's user with the change. -/
theorem handleRevenueCatEvent_exec (event : RevenueCatEvent) :
    ((handleRevenueCatEvent event).exec w db).state = match event.change with
      | none => db
      | some (appUserId, input) => db.changed (db.addressed appUserId) input := by
  rw [handleRevenueCatEvent_eq]
  cases event.change with
  | none => rfl
  | some change => exact applyEntitlement_exec

/-! ## The sync -/

/-- The seller who calls. -/
def PlanDb.caller (db : PlanDb) (supabaseId : String) : Option UserId :=
  (db.accountBySupabaseId supabaseId).bind fun (user, profile) =>
    if user.role ≠ .seller ∨ profile = none then none else some user.id

/-- What the verification says, if there is a key and the call goes through. -/
def verifiedBy (key : Option String) (answer : PlanAnswer) (now : Time) : Option Verified :=
  (key.filter (· ≠ "")).bind fun _ => if answer.ok then some (verifiedOf answer.subscriber now) else none

/-- The change that a sync asks for. -/
def syncChange (verified : Option Verified) (userId : UserId) (dto : SyncSubscriptionDto) :
    SubscriptionUpdateInput :=
  let entitlement := verified.bind Verified.entitlement <|> dto.entitlementId
  let isTrial := (verified.map Verified.isTrial <|> dto.isTrial).getD false
  ⟨if entitlement.any (· ≠ "") then activeStatusForPeriod (some (if isTrial then "TRIAL" else "NORMAL"))
    else .none,
    entitlement, verified.bind Verified.productId <|> dto.productId,
    verified.bind Verified.expiresAtMs <|> dto.expiresAtMs, isTrial, dto.category,
    some (dto.revenueCatCustomerId.getD (.user userId))⟩

theorem syncFields_run {u : UserId} {p : SellerPlan} (hp : db.sellerProfiles.find? u = some p) :
    syncFields u db.now input db =
      .ok (buildSubscriptionFields db.now input p, db.changed (fun q => q.userId = u) input) := by
  simp only [syncFields, Stmt.bind_ok, Stmt.get_ok, Stmt.orThrow_ok, Stmt.set_ok, Stmt.pure_ok]
  exact ⟨_, _, ⟨rfl, rfl⟩, p, _, ⟨hp, rfl⟩, (), _, rfl, rfl, rfl⟩

section

variable {key : Option String} {supabaseId : String} {u : UserId} {p : SellerPlan}
  {dto : SyncSubscriptionDto}

theorem PlanDb.caller_eq_some : db.caller supabaseId = some u ↔
    ∃ user p, db.accountBySupabaseId supabaseId = some (user, some p) ∧ user.role = .seller ∧ user.id = u := by
  unfold caller
  cases db.accountBySupabaseId supabaseId with
  | none => simp
  | some account =>
    obtain ⟨user, profile⟩ := account
    cases profile with
    | none => simp
    | some p => simp

/-- The row of a caller. -/
theorem PlanDb.caller_row (hu : db.caller supabaseId = some u) :
    ∃ p, db.sellerProfiles.find? u = some p := by
  obtain ⟨user, p, haccount, -, rfl⟩ := caller_eq_some.mp hu
  unfold accountBySupabaseId at haccount
  obtain ⟨user', -, heq⟩ := Option.map_eq_some_iff.mp haccount
  obtain ⟨rfl, hp⟩ := Prod.mk.inj heq
  exact ⟨p, hp⟩

theorem assertSeller_exec (hu : db.caller supabaseId = some u) :
    (Subscriptions.assertSeller supabaseId).exec w db = ⟨.ok u, db, [⟨.query, db, db⟩]⟩ := by
  obtain ⟨user, p, haccount, hrole, rfl⟩ := PlanDb.caller_eq_some.mp hu
  unfold Subscriptions.assertSeller
  rw [exec_read_bind, haccount, exec_orThrow_bind, exec_throwIf_bind (by simp [hrole])]
  rfl

theorem assertSeller_refuses (hnone : db.caller supabaseId = none) :
    ∃ e, (Subscriptions.assertSeller supabaseId).exec w db = ⟨.error e, db, [⟨.query, db, db⟩]⟩ := by
  unfold Subscriptions.assertSeller
  rw [exec_read_bind]
  unfold PlanDb.caller at hnone
  cases haccount : db.accountBySupabaseId supabaseId with
  | none => exact ⟨_, rfl⟩
  | some account =>
    obtain ⟨user, profile⟩ := account
    have hrefused : user.role ≠ .seller ∨ profile = none := by
      by_contra hseller
      simp [haccount, hseller] at hnone
    dsimp only
    rw [exec_orThrow_bind]
    dsimp only
    unfold throwIf
    rw [if_pos hrefused]
    exact ⟨_, rfl⟩

/-- The verification reads, at most. -/
theorem verifyWithRevenueCat_exec {w : Nat → PlanAnswer} : ∃ steps,
    (verifyWithRevenueCat key u).exec w db = ⟨.ok (verifiedBy key (w 0) db.now), db, steps⟩ := by
  unfold verifyWithRevenueCat verifiedBy
  cases key.filter (· ≠ "") with
  | none => exact ⟨_, rfl⟩
  | some key => exact ⟨_, rfl⟩

/-- **What the sync leaves**: the caller's row with the change. -/
theorem syncRevenueCatSubscription_exec :
    ((syncRevenueCatSubscription key supabaseId dto).exec w db).state =
      match db.caller supabaseId with
      | none => db
      | some u => db.changed (fun p => p.userId = u) (syncChange (verifiedBy key (w 1) db.now) u dto) := by
  unfold syncRevenueCatSubscription
  cases hcaller : db.caller supabaseId with
  | none =>
    obtain ⟨e, hrefused⟩ := assertSeller_refuses hcaller
    rw [exec_bind_of_error hrefused]
  | some u =>
    obtain ⟨p, hp⟩ := PlanDb.caller_row hcaller
    obtain ⟨steps, hverified⟩ : ∃ steps, (verifyWithRevenueCat key u).exec (fun m => w (m + 1)) db =
        ⟨.ok (verifiedBy key (w 1) db.now), db, steps⟩ := verifyWithRevenueCat_exec
    rw [exec_bind_of_ok (assertSeller_exec hcaller)]
    dsimp only [List.length_singleton]
    rw [exec_bind_of_ok hverified]
    dsimp only
    rw [exec_read_bind, exec_run_bind_ok (syncFields_run hp)]
    rfl

end

end IncaCook
