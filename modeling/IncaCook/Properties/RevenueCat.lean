import IncaCook.Properties.PremiumSellers
import IncaCook.Steps.RevenueCat

/-!
# RevenueCat's writers: redelivery, activation, verification

Main results:

* `redelivery_restarts`: an event that is delivered again changes nothing more, except
  that an activation without an expiration date starts its month anew;
* `activation_entitled_iff`: when an active status is set only with one of the two
  entitlements;
* `verified_wins_iff`: when the client's hints do not reach the gate fields of a
  verified subscriber.
-/

namespace IncaCook

open Prog Subscriptions

variable {db : PlanDb} {w : Nat → PlanAnswer} {appUserId : AppUserId} {input : SubscriptionUpdateInput}
  {cfg : PlanConfig} {event : RevenueCatEvent}

/-! ## Redelivery -/

/-- An activation without an expiration date. -/
def Subscriptions.SubscriptionUpdateInput.openEnded (input : SubscriptionUpdateInput) : Bool :=
  isActive input.status && (input.expiresAtMs.filter (· ≠ 0)).isNone

/-- The row with the month of the plan starting now. -/
def SellerPlan.restarted (now : Time) (isTrial : Bool) (p : SellerPlan) : SellerPlan :=
  { p with
    subscriptionCurrentPeriodEnd := some (oneMonthFrom now)
    trialEndsAt := if isTrial then some (oneMonthFrom now) else none }

/-- The change, made again to a row that has it. -/
theorem buildSubscriptionFields_again {now later : Time} {p : SellerPlan} :
    buildSubscriptionFields later input (buildSubscriptionFields now input p) =
      if input.openEnded then (buildSubscriptionFields now input p).restarted later input.isTrial
      else buildSubscriptionFields now input p := by
  have hcategory : (input.category <|> (input.category <|> p.subscriptionCategory)) =
      (input.category <|> p.subscriptionCategory) := by
    cases input.category <;> rfl
  have hcustomer : (input.revenueCatCustomerId.filter AppUserId.truthy <|>
        (input.revenueCatCustomerId.filter AppUserId.truthy <|> p.revenueCatCustomerId)) =
      (input.revenueCatCustomerId.filter AppUserId.truthy <|> p.revenueCatCustomerId) := by
    cases input.revenueCatCustomerId.filter AppUserId.truthy <;> rfl
  unfold SubscriptionUpdateInput.openEnded SellerPlan.restarted buildSubscriptionFields
  cases hexpires : input.expiresAtMs.filter (· ≠ 0) with
  | some ms =>
    -- the event's own date does not depend on the clock
    simp only [hcategory, hcustomer, Option.isNone_some, Bool.and_false, Bool.false_eq_true, if_false]
  | none =>
    cases hactive : isActive input.status with
    | true => simp only [hcategory, hcustomer, Option.isNone_none, Bool.and_true, if_true]
    | false => simp only [hcategory, hcustomer, Bool.false_and, Bool.false_eq_true, if_false]

/-- The rows that a redelivery rewrites. -/
def Subscriptions.RevenueCatEvent.restarts (event : RevenueCatEvent) (db : PlanDb) (p : SellerPlan) :
    Bool :=
  event.change.any fun (appUserId, input) => input.openEnded && db.addressed appUserId p

def Subscriptions.RevenueCatEvent.isTrial (event : RevenueCatEvent) : Bool :=
  (event.periodType.getD "").toUpper = "TRIAL"

/-- A change carries the name of its user. -/
theorem RevenueCatEvent.change_some (hchange : event.change = some (appUserId, input)) :
    input.isTrial = event.isTrial ∧
      input.revenueCatCustomerId.filter AppUserId.truthy = some appUserId := by
  obtain ⟨type, status, -, -, huser, -, rfl⟩ := RevenueCatEvent.change_eq_some.mp hchange
  exact ⟨rfl, Option.filter_eq_some_iff.mpr ⟨rfl, (Option.filter_eq_some_iff.mp huser).2⟩⟩

/-- A change under the user's name does not change whom the name stands for. -/
theorem PlanDb.addressed_changed
    (hcustomer : input.revenueCatCustomerId.filter AppUserId.truthy = some appUserId) (p : SellerPlan) :
    (db.changed (db.addressed appUserId) input).addressed appUserId
        (if db.addressed appUserId p then buildSubscriptionFields db.now input p else p) =
      db.addressed appUserId p := by
  have hids : ((db.changed (db.addressed appUserId) input).sellerProfiles.rows.any
      fun q => .user q.userId = appUserId) = db.sellerProfiles.rows.any fun q => .user q.userId = appUserId := by
    have hmap := Table.map_rewritten db.sellerProfiles.rows (db.addressed appUserId)
      (f := buildSubscriptionFields db.now input) (g := fun q => q.userId) fun _ => rfl
    calc _ = (((db.changed (db.addressed appUserId) input).sellerProfiles.rows.map fun q => q.userId).any
            fun u => .user u = appUserId) := List.any_map.symm
      _ = ((db.sellerProfiles.rows.map fun q => q.userId).any fun u => .user u = appUserId) :=
          congrArg (fun ids => ids.any fun u => decide (AppUserId.user u = appUserId)) hmap
      _ = _ := List.any_map
  unfold PlanDb.addressed at hids ⊢
  rw [hids]
  cases hany : db.sellerProfiles.rows.any fun q => .user q.userId = appUserId with
  | true =>
    -- the id is in the row, and stays
    simp only [if_true]
    split
    · rfl
    · rfl
  | false =>
    -- the customer is in the row, or is written there
    simp only [Bool.false_eq_true, if_false]
    split
    · rename_i hcalled
      have hnew : (buildSubscriptionFields db.now input p).revenueCatCustomerId = some appUserId := by
        unfold buildSubscriptionFields
        rw [hcustomer]
        rfl
      rw [hnew]
      simpa using hcalled.symm
    · rfl

/-- The rows that a name stands for after a change under it all have the change. -/
theorem PlanDb.has_change
    (hcustomer : input.revenueCatCustomerId.filter AppUserId.truthy = some appUserId) {p : SellerPlan}
    (hp : p ∈ (db.changed (db.addressed appUserId) input).sellerProfiles.rows)
    (hcalled : (db.changed (db.addressed appUserId) input).addressed appUserId p = true) :
    ∃ p₀, p = buildSubscriptionFields db.now input p₀ := by
  obtain ⟨p₀, -, ⟨-, rfl⟩ | ⟨hother, rfl⟩⟩ := Table.mem_rewritten hp
  · exact ⟨p₀, rfl⟩
  · have hsame : (db.changed (db.addressed appUserId) input).addressed appUserId
        (if db.addressed appUserId p then buildSubscriptionFields db.now input p else p) =
          db.addressed appUserId p := PlanDb.addressed_changed hcustomer p
    rw [hother, if_neg Bool.false_ne_true, hcalled] at hsame
    cases hsame

theorem revenueCatEvent_step {r : Serial (planService cfg)} :
    (r.step (.call (.revenueCatEvent event) w)).state =
      ((handleRevenueCatEvent event).exec w r.state).state :=
  exec_bind_pure.1

/-- **Redelivery.** When an event is handled a second time, some time after the first,
nothing more changes, except that an activation without an expiration date starts the
month of its rows anew. -/
theorem redelivery_restarts (cfg : PlanConfig) (db : PlanDb) (event : RevenueCatEvent) (ms : Nat)
    (w w' : Nat → PlanAnswer) :
    let first := (serialRun (S := planService cfg) db [.call (.revenueCatEvent event) w]).state
    let second := (serialRun (S := planService cfg) db
      [.call (.revenueCatEvent event) w, .event ms, .call (.revenueCatEvent event) w']).state
    second = { first with
      now := first.now + ms
      sellerProfiles := first.sellerProfiles.updateMany (event.restarts first)
        (SellerPlan.restarted (first.now + ms) event.isTrial) } := by
  intro first second
  have hfirst : first = ((handleRevenueCatEvent event).exec w db).state :=
    revenueCatEvent_step (r := ⟨db, []⟩)
  have hsecond : second =
      ((handleRevenueCatEvent event).exec w' { first with now := first.now + ms }).state :=
    revenueCatEvent_step
  rw [handleRevenueCatEvent_exec] at hfirst hsecond
  rw [hsecond]
  cases hchange : event.change with
  | none =>
    -- an ignored event rewrites no row
    have hsame : first.sellerProfiles.updateMany (event.restarts first)
        (SellerPlan.restarted (first.now + ms) event.isTrial) = first.sellerProfiles := by
      refine Table.ext_rows (Table.rewritten_of_none fun p _ => ?_)
      rw [RevenueCatEvent.restarts, hchange]
      rfl
    rw [hsame]
  | some change =>
    obtain ⟨appUserId, input⟩ := change
    obtain ⟨htrial, hcustomer⟩ := RevenueCatEvent.change_some hchange
    rw [hchange] at hfirst
    dsimp only at hfirst ⊢
    have hrows : (PlanDb.changed { first with now := first.now + ms }
          (PlanDb.addressed { first with now := first.now + ms } appUserId) input).sellerProfiles =
        first.sellerProfiles.updateMany (event.restarts first)
          (SellerPlan.restarted (first.now + ms) event.isTrial) := by
      refine Table.ext_rows (List.map_congr_left fun p hp => ?_)
      have hrestarts : event.restarts first p = (input.openEnded && first.addressed appUserId p) := by
        rw [RevenueCatEvent.restarts, hchange]
        rfl
      rw [hrestarts, ← htrial]
      change (if first.addressed appUserId p = true then _ else p) = _
      cases hcalled : first.addressed appUserId p with
      | false => simp
      | true =>
        obtain ⟨p₀, rfl⟩ : ∃ p₀, p = buildSubscriptionFields db.now input p₀ := by
          rw [hfirst] at hp hcalled
          exact PlanDb.has_change hcustomer hp hcalled
        rw [if_pos rfl, buildSubscriptionFields_again, Bool.and_true]
    rw [← hrows]
    rfl

/-- A purchase of the premium plan without an expiration date, as in the sandbox. -/
def openEndedPurchase : RevenueCatEvent :=
  ⟨some "INITIAL_PURCHASE", some (.user ⟨0, 101⟩), none, none, some "seller_premium", none, none, none⟩

/-- Delivered again a day later, it moves the end of the period by a day. -/
theorem month_restarted :
    (serialRun (S := planService planTownConfig) planTown
      [.call (.revenueCatEvent openEndedPurchase) fun _ => quietAnswer, .event (86400000 : Nat),
        .call (.revenueCatEvent openEndedPurchase) fun _ => quietAnswer]).state.sellerProfiles.rows ≠
    (serialRun (S := planService planTownConfig) planTown
      [.call (.revenueCatEvent openEndedPurchase) fun _ => quietAnswer]).state.sellerProfiles.rows := by
  decide +kernel

/-! ## Activation -/

/-- The row has one of the two entitlements, and the plan that goes with it. -/
def SellerPlan.Entitled (p : SellerPlan) : Prop :=
  p.revenueCatEntitlement ∈ [some sellerStandardEntitlement, some sellerPremiumEntitlement] ∧
    p.subscriptionPlan ≠ none

/-- Of the rows that are written, those that come out active are entitled. -/
def ActivationEntitled (written : SellerPlan → Bool) (db db' : PlanDb) : Prop :=
  ∀ u p p', db.sellerProfiles.find? u = some p → written p = true →
    db'.sellerProfiles.find? u = some p' → isActive p'.subscriptionStatus = true → p'.Entitled

theorem entitlementToPlan_ne_none {entitlement : Option String} : entitlementToPlan entitlement ≠ none ↔
    entitlement ∈ [some sellerStandardEntitlement, some sellerPremiumEntitlement] := by
  unfold entitlementToPlan
  split
  case isTrue hpremium => simp [hpremium]
  case isFalse hpremium =>
    split
    case isTrue hstandard => simp [hstandard]
    case isFalse hstandard => simp [hpremium, hstandard]

theorem buildSubscriptionFields_entitled {now : Time} {p : SellerPlan} :
    (buildSubscriptionFields now input p).Entitled ↔ entitlementToPlan input.entitlement ≠ none := by
  unfold SellerPlan.Entitled
  rw [← entitlementToPlan_ne_none]
  exact and_self_iff

theorem activation_changed_iff {rows : SellerPlan → Bool} :
    ActivationEntitled rows db (db.changed rows input) ↔
      (isActive input.status = true → (∃ p ∈ db.sellerProfiles.rows, rows p = true) →
        entitlementToPlan input.entitlement ≠ none) := by
  have hafter : ∀ u p, db.sellerProfiles.find? u = some p → rows p = true →
      (db.changed rows input).sellerProfiles.find? u = some (buildSubscriptionFields db.now input p) := by
    intro u p hp hrow
    unfold PlanDb.changed
    rw [Table.find?_updateMany, hp, Option.map_some, if_pos hrow]
  constructor
  · rintro hentitled hactive ⟨p, hp, hrow⟩
    have hfind := Table.find?_of_mem hp
    exact buildSubscriptionFields_entitled.mp
      (hentitled _ p _ hfind hrow (hafter _ p hfind hrow) hactive)
  · intro hinput u p p' hp hrow hp' hactive
    rw [hafter u p hp hrow] at hp'
    obtain rfl := Option.some.inj hp'
    exact buildSubscriptionFields_entitled.mpr (hinput hactive ⟨p, Table.mem_of_find? hp, hrow⟩)

theorem pickActiveEntitlement_plan {ids : List String} :
    entitlementToPlan (pickActiveEntitlement ids) ≠ none ↔
      sellerStandardEntitlement ∈ ids ∨ sellerPremiumEntitlement ∈ ids := by
  rw [entitlementToPlan_ne_none]
  unfold pickActiveEntitlement
  split
  case isTrue hpremium => simp [List.contains_iff_mem.mp hpremium]
  case isFalse hpremium =>
    have hpremium : sellerPremiumEntitlement ∉ ids := fun h => hpremium (List.contains_iff_mem.mpr h)
    split
    case isTrue hstandard => simp [List.contains_iff_mem.mp hstandard]
    case isFalse hstandard =>
      have hstandard : sellerStandardEntitlement ∉ ids := fun h => hstandard (List.contains_iff_mem.mpr h)
      simp [hpremium, hstandard]

/-- The events that activate a plan. -/
def activatingTypes : List String :=
  ["INITIAL_PURCHASE", "RENEWAL", "PRODUCT_CHANGE", "UNCANCELLATION", "SUBSCRIPTION_EXTENDED",
    "NON_RENEWING_PURCHASE"]

theorem isActive_activeStatusForPeriod {periodType : Option String} :
    isActive (activeStatusForPeriod periodType) = true := by
  unfold activeStatusForPeriod
  dsimp only
  split
  · rfl
  · rfl

/-- The status goes by the type of the event. -/
theorem webhookEventToStatus_active {type : String} {periodType : Option String} {status : SubscriptionStatus}
    (hstatus : webhookEventToStatus type periodType = some status) :
    isActive status = true ↔ type ∈ activatingTypes := by
  unfold webhookEventToStatus at hstatus
  split at hstatus
  case isTrue htype =>
    obtain rfl := Option.some.inj hstatus
    exact iff_of_true isActive_activeStatusForPeriod htype
  case isFalse htype =>
    refine iff_of_false (fun hactive => ?_) htype
    split at hstatus
    · obtain rfl := Option.some.inj hstatus
      cases hactive
    · split at hstatus
      · obtain rfl := Option.some.inj hstatus
        cases hactive
      · split at hstatus
        · obtain rfl := Option.some.inj hstatus
          cases hactive
        · cases hstatus

/-- The rows that the event writes. -/
def Subscriptions.RevenueCatEvent.writes (event : RevenueCatEvent) (db : PlanDb) (p : SellerPlan) : Bool :=
  event.change.any fun (appUserId, _) => db.addressed appUserId p

/-- An event that activates the plan of someone names one of the two entitlements. -/
def Subscriptions.RevenueCatEvent.NamesPlan (event : RevenueCatEvent) (db : PlanDb) : Prop :=
  (∃ type ∈ event.type, type ∈ activatingTypes) →
    (∃ appUserId ∈ event.user, ∃ p ∈ db.sellerProfiles.rows, db.addressed appUserId p = true) →
    sellerStandardEntitlement ∈ event.entitlements ∨ sellerPremiumEntitlement ∈ event.entitlements

/-- The verification finds an entitlement, or the client hints at none, or at one of the two. -/
def HintNamesPlan (verified : Option Verified) (dto : SyncSubscriptionDto) : Prop :=
  verified.bind Verified.entitlement ≠ none ∨
    dto.entitlementId ∈ [none, some "", some sellerStandardEntitlement, some sellerPremiumEntitlement]

/-- An event of an activating type is not ignored. -/
theorem RevenueCatEvent.activates {type : String} (htype : event.type = some type)
    (hactivating : type ∈ activatingTypes) (huser : event.user = some appUserId) :
    ∃ input, event.change = some (appUserId, input) := by
  have hnonempty : type ≠ "" := by
    rintro rfl
    exact absurd hactivating (by decide)
  exact ⟨_, RevenueCatEvent.change_eq_some.mpr
    ⟨type, _, htype, hnonempty, huser, if_pos hactivating, rfl⟩⟩

theorem webhook_entitled_iff :
    ActivationEntitled (event.writes db) db ((handleRevenueCatEvent event).exec w db).state ↔
      event.NamesPlan db := by
  rw [handleRevenueCatEvent_exec]
  cases hchange : event.change with
  | none =>
    -- nothing is written
    refine iff_of_true (fun u p p' _ hwritten => ?_) fun ⟨type, htype, hactivating⟩ ⟨a, ha, _⟩ => ?_
    · rw [RevenueCatEvent.writes, hchange] at hwritten
      cases hwritten
    · obtain ⟨input, hinput⟩ := RevenueCatEvent.activates htype hactivating ha
      rw [hchange] at hinput
      cases hinput
  | some change =>
    obtain ⟨appUserId, input⟩ := change
    have hwrites : event.writes db = db.addressed appUserId := by
      funext p
      rw [RevenueCatEvent.writes, hchange]
      rfl
    obtain ⟨type, status, htype, -, huser, hstatus, rfl⟩ := RevenueCatEvent.change_eq_some.mp hchange
    dsimp only
    rw [hwrites, activation_changed_iff, pickActiveEntitlement_plan, webhookEventToStatus_active hstatus]
    simp [RevenueCatEvent.NamesPlan, htype, huser]

section

variable {key : Option String} {supabaseId : String} {u : UserId} {dto : SyncSubscriptionDto}
  {verified : Option Verified}

theorem pickActiveEntitlement_some {ids : List String} {e : String}
    (he : pickActiveEntitlement ids = some e) :
    some e ∈ [some sellerStandardEntitlement, some sellerPremiumEntitlement] := by
  unfold pickActiveEntitlement at he
  split at he
  · simp [← he]
  · split at he
    · simp [← he]
    · cases he

theorem verifiedOf_entitlement (subscriber : RevenueCatSubscriber) (now : Time) :
    ∃ ids, (verifiedOf subscriber now).entitlement = pickActiveEntitlement ids := by
  unfold verifiedOf
  dsimp only
  split
  · rename_i hnone
    exact ⟨_, hnone.symm⟩
  · rename_i hsome
    exact ⟨_, hsome.symm⟩

/-- What a verification finds is one of the two entitlements. -/
theorem verifiedBy_entitlement {answer : PlanAnswer} {now : Time} {e : String}
    (he : (verifiedBy key answer now).bind Verified.entitlement = some e) :
    some e ∈ [some sellerStandardEntitlement, some sellerPremiumEntitlement] := by
  obtain ⟨v, hv, hentitlement⟩ := Option.bind_eq_some_iff.mp he
  obtain ⟨-, -, hok⟩ := Option.bind_eq_some_iff.mp hv
  split at hok
  · obtain rfl := Option.some.inj hok
    obtain ⟨ids, hids⟩ := verifiedOf_entitlement answer.subscriber now
    exact pickActiveEntitlement_some (hids.symm.trans hentitlement)
  · cases hok

/-- Any text counts as an entitlement, but for the empty one. -/
theorem syncChange_active :
    isActive (syncChange verified u dto).status = true ↔
      ∃ e ∈ (syncChange verified u dto).entitlement, e ≠ "" := by
  have hstatus : (syncChange verified u dto).status =
      if (syncChange verified u dto).entitlement.any (· ≠ "") then activeStatusForPeriod
        (some (if (verified.map Verified.isTrial <|> dto.isTrial).getD false then "TRIAL" else "NORMAL"))
      else .none := rfl
  rw [hstatus]
  split
  case isTrue hany =>
    refine iff_of_true isActive_activeStatusForPeriod ?_
    simpa [Option.any_eq_true] using hany
  case isFalse hany =>
    refine iff_of_false (by decide) ?_
    simpa [Option.any_eq_true] using hany

theorem syncChange_entitled (hverified : ∀ e, verified.bind Verified.entitlement = some e →
      some e ∈ [some sellerStandardEntitlement, some sellerPremiumEntitlement]) :
    (isActive (syncChange verified u dto).status = true →
        entitlementToPlan (syncChange verified u dto).entitlement ≠ none) ↔
      HintNamesPlan verified dto := by
  have hentitlement : (syncChange verified u dto).entitlement =
      (verified.bind Verified.entitlement <|> dto.entitlementId) := rfl
  rw [syncChange_active, entitlementToPlan_ne_none, hentitlement]
  unfold HintNamesPlan
  cases hv : verified.bind Verified.entitlement with
  | some e =>
    -- the client's hint is not used
    exact iff_of_true (fun _ => hverified e hv) (.inl (by simp))
  | none =>
    cases hhint : dto.entitlementId with
    | none => simp
    | some e =>
      by_cases hempty : e = ""
      · simp [hempty]
      · simp [hempty]

theorem sync_entitled_iff :
    ActivationEntitled (fun p => db.caller supabaseId = some p.userId) db
        ((syncRevenueCatSubscription key supabaseId dto).exec w db).state ↔
      (db.caller supabaseId = none ∨ HintNamesPlan (verifiedBy key (w 1) db.now) dto) := by
  rw [syncRevenueCatSubscription_exec]
  cases hcaller : db.caller supabaseId with
  | none => exact iff_of_true (fun u p p' _ hwritten => by cases of_decide_eq_true hwritten) (.inl rfl)
  | some u =>
    obtain ⟨p, hp⟩ := PlanDb.caller_row hcaller
    have hrow : ∃ p ∈ db.sellerProfiles.rows, decide (p.userId = u) = true :=
      ⟨p, Table.mem_of_find? hp, decide_eq_true (Table.key_of_find? hp)⟩
    have hwritten : (fun p : SellerPlan => decide (some u = some p.userId)) =
        fun p => decide (p.userId = u) := by
      funext p
      simp [eq_comm]
    dsimp only
    rw [hwritten, activation_changed_iff, ← syncChange_entitled (u := u) fun e => verifiedBy_entitlement]
    simp only [hrow, true_imp_iff, reduceCtorEq, false_or]

end

/-- **Activation and entitlement.** The webhook activates only with one of the two
entitlements, if and only if an event of an activating type, for a seller, names one of
them; the sync, if and only if the verification finds one, or the client hints at one of
them or at none. -/
theorem activation_entitled_iff (db : PlanDb) (w : Nat → PlanAnswer) :
    (∀ event : RevenueCatEvent,
      ActivationEntitled (event.writes db) db ((handleRevenueCatEvent event).exec w db).state ↔
        event.NamesPlan db) ∧
    ∀ (key : Option String) (supabaseId : String) (dto : SyncSubscriptionDto),
      ActivationEntitled (fun p => db.caller supabaseId = some p.userId) db
          ((syncRevenueCatSubscription key supabaseId dto).exec w db).state ↔
        (db.caller supabaseId = none ∨ HintNamesPlan (verifiedBy key (w 1) db.now) dto) :=
  ⟨fun _ => webhook_entitled_iff, fun _ _ _ => sync_entitled_iff⟩

/-- A purchase that names no entitlement. -/
def namelessPurchase : RevenueCatEvent :=
  ⟨some "INITIAL_PURCHASE", some (.user ⟨0, 101⟩), none, none, none, none, none, some 1000⟩

/-- It activates the seller, who has no plan. -/
theorem active_without_plan : ¬ActivationEntitled (namelessPurchase.writes planTown) planTown
    ((handleRevenueCatEvent namelessPurchase).exec (fun _ => quietAnswer) planTown).state := by
  have hlisted : ∀ db', ActivationEntitled (namelessPurchase.writes planTown) planTown db' →
      ∀ p ∈ planTown.sellerProfiles.rows, namelessPurchase.writes planTown p = true →
        ∀ p' ∈ db'.sellerProfiles.find? p.userId, isActive p'.subscriptionStatus = true →
          p'.subscriptionPlan ≠ none :=
    fun db' h p hp hwritten p' hp' hactive =>
      (h _ p p' (Table.find?_of_mem hp) hwritten hp' hactive).2
  intro h
  exact absurd (hlisted _ h) (by decide +kernel)

/-! ## Verification -/

/-- The fields of a row that the gates read. -/
structure GateFields where
  subscriptionStatus : SubscriptionStatus
  isPremium : Bool
  subscriptionPlan : Option String
  subscriptionProductId : Option String
  subscriptionCurrentPeriodEnd : Option Time
  trialEndsAt : Option Time
  deriving DecidableEq

def SellerPlan.gateFields (p : SellerPlan) : GateFields :=
  ⟨p.subscriptionStatus, p.isPremium, p.subscriptionPlan, p.subscriptionProductId,
    p.subscriptionCurrentPeriodEnd, p.trialEndsAt⟩

/-- The gate fields of a seller. -/
def PlanDb.gateFields (db : PlanDb) (u : UserId) : Option GateFields :=
  (db.sellerProfiles.find? u).map SellerPlan.gateFields

section

variable {key : Option String} {supabaseId : String} {u : UserId} {verified : Verified}

/-- The gate fields that a sync with this body writes. -/
def syncedFields (key : Option String) (supabaseId : String) (w : Nat → PlanAnswer) (db : PlanDb)
    (u : UserId) (dto : SyncSubscriptionDto) : Option GateFields :=
  PlanDb.gateFields ((syncRevenueCatSubscription key supabaseId dto).exec w db).state u

theorem syncedFields_eq {p : SellerPlan} (hcaller : db.caller supabaseId = some u)
    (hp : db.sellerProfiles.find? u = some p)
    (hverified : verifiedBy key (w 1) db.now = some verified) (dto : SyncSubscriptionDto) :
    syncedFields key supabaseId w db u dto =
      some (buildSubscriptionFields db.now (syncChange (some verified) u dto) p).gateFields := by
  have hkey : p.userId = u := Table.key_of_find? hp
  unfold syncedFields PlanDb.gateFields
  rw [syncRevenueCatSubscription_exec, hcaller, hverified]
  unfold PlanDb.changed
  dsimp only
  rw [Table.find?_updateMany, hp, Option.map_some, Option.map_some, if_pos (decide_eq_true hkey)]

/-- **Verification and hints.** What a sync writes to the gate fields of a verified
subscriber does not depend on the client's body if and only if the entitlement has a
product and an expiration date. -/
theorem verified_wins_iff (hcaller : db.caller supabaseId = some u)
    (hverified : verifiedBy key (w 1) db.now = some verified) (hentitled : verified.entitlement ≠ none) :
    (∀ dto dto', syncedFields key supabaseId w db u dto = syncedFields key supabaseId w db u dto') ↔
      verified.productId ≠ none ∧ verified.expiresAtMs ≠ none := by
  obtain ⟨p, hp⟩ := PlanDb.caller_row hcaller
  obtain ⟨e, he⟩ := Option.ne_none_iff_exists'.mp hentitled
  have heq := syncedFields_eq hcaller hp hverified
  constructor
  · intro hsame
    constructor
    · -- two clients with different products
      intro hproduct
      have htwo := hsame ⟨none, some "a", none, none, none, none⟩ ⟨none, some "b", none, none, none, none⟩
      rw [heq, heq] at htwo
      have hfield := congrArg GateFields.subscriptionProductId (Option.some.inj htwo)
      simp [SellerPlan.gateFields, buildSubscriptionFields, syncChange, hproduct] at hfield
    · -- two clients with different dates
      intro hexpires
      have htwo := hsame ⟨none, none, some 1, none, none, none⟩ ⟨none, none, some 2, none, none, none⟩
      rw [heq, heq] at htwo
      have hfield := congrArg GateFields.subscriptionCurrentPeriodEnd (Option.some.inj htwo)
      simp [SellerPlan.gateFields, buildSubscriptionFields, syncChange, hexpires, Option.filter] at hfield
  · rintro ⟨hproduct, hexpires⟩ dto dto'
    obtain ⟨product, hproduct⟩ := Option.ne_none_iff_exists'.mp hproduct
    obtain ⟨ms, hexpires⟩ := Option.ne_none_iff_exists'.mp hexpires
    rw [heq, heq]
    simp [SellerPlan.gateFields, buildSubscriptionFields, syncChange, he, hproduct, hexpires]

/-- RevenueCat knows the standard entitlement of a subscriber, until a date. -/
def datedAnswer : PlanAnswer :=
  ⟨true, ⟨[("seller_standard", ⟨some 86400000, some "monthly"⟩)], []⟩, quietAnswer.subscription, .stripe 0⟩

/-- Whatever the client says, the sync writes the same: the period ends at RevenueCat's date. -/
theorem dated_wins :
    (∀ dto dto', syncedFields (some "sk") "seller" (fun _ => datedAnswer) planTown ⟨0, 101⟩ dto =
      syncedFields (some "sk") "seller" (fun _ => datedAnswer) planTown ⟨0, 101⟩ dto') ∧
      (syncedFields (some "sk") "seller" (fun _ => datedAnswer) planTown ⟨0, 101⟩
        ⟨none, none, some 1000, none, none, none⟩).bind GateFields.subscriptionCurrentPeriodEnd = some 86400000 := by
  have hverified : verifiedBy (some "sk") datedAnswer 0 =
      some ⟨some "seller_standard", some "monthly", some 86400000, false⟩ := by
    decide +kernel
  exact ⟨(verified_wins_iff (by decide +kernel) hverified (by decide +kernel)).mpr (by decide +kernel),
    by decide +kernel⟩

/-- RevenueCat knows the standard entitlement of a subscriber, for life. -/
def lifetimeAnswer : PlanAnswer :=
  ⟨true, ⟨[("seller_standard", ⟨none, some "monthly"⟩)], []⟩, quietAnswer.subscription, .stripe 0⟩

/-- The client sets the end of the period. -/
theorem hint_sets_period :
    syncedFields (some "sk") "seller" (fun _ => lifetimeAnswer) planTown ⟨0, 101⟩
        ⟨none, none, some 1000, none, none, none⟩ ≠
      syncedFields (some "sk") "seller" (fun _ => lifetimeAnswer) planTown ⟨0, 101⟩
        ⟨none, none, some 2000, none, none, none⟩ := by
  decide +kernel

end

end IncaCook
