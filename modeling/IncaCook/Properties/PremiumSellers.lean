import IncaCook.Model.Subscriptions

/-!
# Premium sellers

A premium seller pays the reduced commission. The row of a seller is coherent when a
premium seller has an active plan and the premium entitlement. RevenueCat's writers
set all of these fields together; Stripe's set the status alone.

Main results:

* `PlanStep.coherent_iff`: the only step that breaks coherence is a Stripe write of a
  status that is not active to the row of a premium seller;
* `premium_coherent_iff`: the rows are coherent all along a run if and only if no such
  write happens in it.
-/

namespace IncaCook

open Prog Subscriptions

variable {s s' : PlanDb} {u : UserId} {sub : StripeSubscription} {cfg : PlanConfig}

/-- A premium seller has an active plan and the premium entitlement. -/
def SellerPlan.Coherent (p : SellerPlan) : Prop :=
  p.isPremium = true → isActive p.subscriptionStatus = true ∧
    p.revenueCatEntitlement = some sellerPremiumEntitlement

def PremiumCoherent (db : PlanDb) : Prop := ∀ p ∈ db.sellerProfiles.rows, p.Coherent

/-- A Stripe write leaves premium sellers alone, or finds them active, or is refused
because another seller has the subscription. -/
def Harmless (site : PlanSite) (db : PlanDb) : Prop :=
  ∀ u sub, site = .writeState u sub → ∀ p, db.sellerProfiles.find? u = some p → p.isPremium = true →
    isActive (subscriptionStatusFromStripe sub.status) = true ∨ subscriptionTaken db u sub.id = true

/-! ## The writes -/

theorem buildSubscriptionFields_coherent {now : Time} {input : SubscriptionUpdateInput} {p : SellerPlan} :
    (buildSubscriptionFields now input p).Coherent := by
  intro hpremium
  obtain ⟨hactive, hentitlement⟩ := Bool.and_eq_true_iff.mp hpremium
  exact ⟨hactive, of_decide_eq_true hentitlement⟩

/-- A write of RevenueCat makes the rows it writes coherent. -/
theorem updateMany_coherent {p : SellerPlan → Bool} {now : Time} {input : SubscriptionUpdateInput}
    (h : PremiumCoherent s) : PremiumCoherent { s with
      sellerProfiles := s.sellerProfiles.updateMany p (buildSubscriptionFields now input) } := by
  intro r hr
  obtain ⟨r₀, hr₀, ⟨-, rfl⟩ | ⟨-, rfl⟩⟩ := Table.mem_rewritten hr
  · exact buildSubscriptionFields_coherent
  · exact h r hr₀

theorem syncFields_coherent {now : Time} {input : SubscriptionUpdateInput} {p : SellerPlan}
    (hrun : syncFields u now input s = .ok (p, s')) (h : PremiumCoherent s) : PremiumCoherent s' := by
  simp only [syncFields, Stmt.bind_ok, Stmt.get_ok, Stmt.orThrow_ok, Stmt.set_ok, Stmt.pure_ok] at hrun
  obtain ⟨_, s₁, ⟨rfl, rfl⟩, _, s₂, ⟨-, rfl⟩, _, s₃, rfl, -, rfl⟩ := hrun
  exact updateMany_coherent h

theorem mirrorSubscription_ok {x : Unit} : mirrorSubscription u sub s = .ok (x, s') ↔
    (∃ p, s.sellerProfiles.find? u = some p) ∧ subscriptionTaken s u sub.id = false ∧
      s' = { s with sellerProfiles := s.sellerProfiles.update u (mirrored sub) } := by
  simp only [mirrorSubscription, Stmt.bind_ok, Stmt.get_ok, Stmt.orThrow_ok, Stmt.throwIf_ok,
    Stmt.set_ok, Bool.not_eq_true]
  constructor
  · rintro ⟨_, s₁, ⟨rfl, rfl⟩, p, s₂, ⟨hp, rfl⟩, _, s₃, ⟨htaken, rfl⟩, rfl⟩
    exact ⟨⟨p, hp⟩, htaken, rfl⟩
  · rintro ⟨⟨p, hp⟩, htaken, rfl⟩
    exact ⟨_, _, ⟨rfl, rfl⟩, p, _, ⟨hp, rfl⟩, (), _, ⟨htaken, rfl⟩, rfl⟩

/-- The step is a Stripe write. -/
def PlanSite.writesState : PlanSite → Bool
  | .writeState _ _ => true
  | _ => false

/-- What the steps of the billing calls do: a Stripe write, or a step that keeps the
rows coherent. -/
inductive PlanStep : PlanSite → PlanDb → PlanDb → Prop where
  | keeps {site : PlanSite} {s s' : PlanDb} (other : site.writesState = false)
      (coherent : PremiumCoherent s → PremiumCoherent s') : PlanStep site s s'
  | refused {site : PlanSite} {s : PlanDb} (taken : ∀ u sub, site = .writeState u sub →
      (∃ p, s.sellerProfiles.find? u = some p) → subscriptionTaken s u sub.id = true) : PlanStep site s s
  | mirrors {s : PlanDb} (u : UserId) (sub : StripeSubscription)
      (exists_row : ∃ p, s.sellerProfiles.find? u = some p)
      (free : subscriptionTaken s u sub.id = false) :
      PlanStep (.writeState u sub) s
        { s with sellerProfiles := s.sellerProfiles.update u (mirrored sub) }

theorem PlanStep.read {site : PlanSite} (hsite : site.writesState = false) (s : PlanDb) :
    PlanStep site s s :=
  .keeps hsite id

/-- **What breaks coherence**, step by step. -/
theorem PlanStep.coherent_iff {site : PlanSite} (h : PlanStep site s s') (hs : PremiumCoherent s) :
    PremiumCoherent s' ↔ Harmless site s := by
  cases h with
  | keeps other coherent =>
    refine iff_of_true (coherent hs) fun u sub hsite => ?_
    subst hsite
    cases other
  | refused taken =>
    exact iff_of_true hs fun u sub hsite p hp _ => .inr (taken u sub hsite ⟨p, hp⟩)
  | mirrors u sub exists_row free =>
    constructor
    · intro hpost u' sub' hsite p hp hpremium
      cases hsite
      have hnew : (s.sellerProfiles.update u (mirrored sub)).find? u = some (mirrored sub p) :=
        Table.find?_update_of_eq hp
      exact .inl (hpost _ (Table.mem_of_find? hnew) hpremium).1
    · intro hharmless r hr
      obtain ⟨r₀, hr₀, ⟨hkey, rfl⟩ | ⟨-, rfl⟩⟩ := Table.mem_rewritten hr
      · -- the mirrored row keeps premium and entitlement, and gets the status
        intro hpremium
        have hfind : s.sellerProfiles.find? u = some r₀ :=
          of_decide_eq_true hkey ▸ Table.find?_of_mem hr₀
        rcases hharmless u sub rfl r₀ hfind hpremium with hactive | htaken
        · exact ⟨hactive, (hs r₀ hr₀ hpremium).2⟩
        · rw [free] at htaken
          cases htaken
      · exact hs r hr₀

/-! ## The handlers -/

def planContract : Contract planMachine where
  rely _ _ := True
  guar _ site s s' := PlanStep site s s'

theorem planQuery_free {α : Type} {f : PlanDb → α} :
    Free planContract (read PlanSite.query f : PlanHandler α) :=
  free_read fun _ s => .read rfl s

theorem planAsk_free {α : Type} {site : PlanSite} (hsite : site.writesState = false)
    {f : PlanAnswer → PlanDb → α} : Free planContract (ask site f : PlanHandler α) :=
  free_ask fun _ s => .read hsite s

/-- A write that is refused has found no row, or the subscription taken. -/
theorem writeStateFromSub_free : Free planContract (writeStateFromSub u sub) := by
  intro h _
  refine sat_await fun s _ answer => ⟨fun e hrun => ⟨?_, trivial⟩, fun x s' hrun => ⟨?_, trivial⟩⟩
  · refine .refused fun u' sub' hsite hrow => ?_
    cases hsite
    by_contra hfree
    have hok : mirrorSubscription u sub s = .ok ((), _) :=
      mirrorSubscription_ok.mpr ⟨hrow, Bool.eq_false_iff.mpr hfree, rfl⟩
    rw [hok] at hrun
    cases hrun
  · obtain ⟨hrow, hfree, rfl⟩ := mirrorSubscription_ok.mp hrun
    exact .mirrors u sub hrow hfree

theorem retrieveSubscription_free : Free planContract retrieveSubscription :=
  free_bind (planAsk_free rfl) fun _ => free_orThrow

theorem applySubscriptionState_free : Free planContract (applySubscriptionState sub) := by
  refine free_bind (free_bind planQuery_free fun byMetadata => ?_) fun seller => ?_
  · cases byMetadata with
    | some userId => exact free_pure
    | none => exact planQuery_free
  · cases seller with
    | none => exact free_pure
    | some userId => exact writeStateFromSub_free

theorem assertSeller_free {supabaseId : String} : Free planContract (Subscriptions.assertSeller supabaseId) :=
  free_bind planQuery_free fun _ => free_bind free_orThrow fun _ =>
    free_bind free_throwIf fun _ => free_pure

theorem syncRevenueCatSubscription_free {key : Option String} {supabaseId : String}
    {dto : SyncSubscriptionDto} :
    Free planContract (syncRevenueCatSubscription key supabaseId dto) := by
  refine free_bind assertSeller_free fun userId => free_bind ?_ fun verified =>
    free_bind planQuery_free fun now => free_bind ?_ fun _ => free_pure
  · unfold verifyWithRevenueCat
    split
    · exact free_pure
    · exact planAsk_free rfl
  · exact free_await (fun _ s => .read rfl s) fun _ _ _ _ _ hrun =>
      .keeps rfl (syncFields_coherent hrun)

theorem updatePlans_free {appUserId : AppUserId} {p : SellerPlan → Bool} {now : Time}
    {input : SubscriptionUpdateInput} :
    Free planContract (await (.webhook appUserId) fun _ => updatePlans p now input) :=
  free_await_total fun _ _ _ => ⟨_, _, rfl, .keeps rfl updateMany_coherent⟩

theorem handleRevenueCatEvent_free {event : RevenueCatEvent} :
    Free planContract (handleRevenueCatEvent event) := by
  unfold handleRevenueCatEvent
  split
  · split
    · exact free_pure
    · exact free_bind planQuery_free fun _ => free_bind updatePlans_free fun _ =>
        free_ite (free_bind updatePlans_free fun _ => free_pure) free_pure
  · exact free_pure

theorem reuseExisting_free {existingId : Option StripeSubscriptionId} :
    Free planContract (reuseExisting u existingId) := by
  unfold reuseExisting
  split
  · exact free_pure
  · refine free_tryCatch (free_bind retrieveSubscription_free fun existing => ?_) fun e => ?_
    · exact free_ite (free_bind writeStateFromSub_free fun _ => free_throw)
        (free_ite free_pure free_pure)
    · split
      · exact free_throw
      · exact free_pure

theorem saveCustomer_sellers {customer : CustomerId} {x : Unit}
    (hrun : Subscriptions.saveCustomer u customer s = .ok (x, s')) :
    s'.sellerProfiles = s.sellerProfiles := by
  simp only [Subscriptions.saveCustomer, Stmt.bind_ok, Stmt.get_ok, Stmt.throwIf_ok, Stmt.orThrow_ok,
    Stmt.set_ok] at hrun
  obtain ⟨_, s₁, ⟨rfl, rfl⟩, _, s₂, ⟨-, rfl⟩, _, s₃, ⟨-, rfl⟩, rfl⟩ := hrun
  rfl

theorem ensureCustomer_free {existing : Option CustomerId} :
    Free planContract (ensureCustomer u existing) := by
  refine free_bind ?_ fun reusable => ?_
  · unfold reusableCustomer
    split
    · exact planAsk_free rfl
    · exact free_pure
  · cases reusable with
    | some customer => exact free_pure
    | none =>
      refine free_bind (planAsk_free rfl) fun _ => free_bind free_orThrow fun customer =>
        free_bind (free_await (fun _ s => .read rfl s) fun _ _ s _ s' hrun => ?_) fun _ => free_pure
      refine .keeps rfl fun hs => ?_
      unfold PremiumCoherent
      rw [saveCustomer_sellers hrun]
      exact hs

theorem createSubscription_free {priceId : Option String} {supabaseId : String} :
    Free planContract (createSubscription priceId supabaseId) := by
  refine free_bind free_throwIf fun _ => free_bind planQuery_free fun _ => free_bind free_orThrow fun _ =>
    free_bind free_throwIf fun _ => free_bind free_orThrow fun _ => free_bind free_throwIf fun _ =>
    free_bind reuseExisting_free fun reused => ?_
  cases reused with
  | some intent => exact free_pure
  | none =>
    exact free_bind ensureCustomer_free fun _ => free_bind (planAsk_free rfl) fun _ =>
      free_bind free_orThrow fun _ => free_bind writeStateFromSub_free fun _ => free_pure

theorem getStatus_free {supabaseId : String} : Free planContract (getStatus supabaseId) := by
  refine free_bind planQuery_free fun _ => free_bind free_orThrow fun _ =>
    free_bind (free_tryCatch ?_ fun _ => free_pure) fun _ => free_bind planQuery_free fun _ => free_pure
  exact free_ite (free_bind retrieveSubscription_free fun _ => free_bind writeStateFromSub_free fun _ =>
    free_pure) free_pure

theorem planHandle_free (c : PlanCall) : Free planContract (planHandle cfg c) := by
  cases c with
  | syncRevenueCatSubscription sub dto =>
    exact free_bind syncRevenueCatSubscription_free fun _ => free_pure
  | revenueCatEvent event => exact free_bind handleRevenueCatEvent_free fun _ => free_pure
  | subscriptionEvent sub => exact free_bind applySubscriptionState_free fun _ => free_pure
  | checkoutCompleted session =>
    refine free_bind ?_ fun _ => free_pure
    unfold handleCheckoutCompleted
    refine free_ite free_pure ?_
    split
    · exact free_pure
    · exact free_bind retrieveSubscription_free fun _ => applySubscriptionState_free
  | invoicePaymentFailed subscription =>
    refine free_bind ?_ fun _ => free_pure
    unfold handleInvoicePaymentFailed
    split
    · exact free_pure
    · exact free_bind retrieveSubscription_free fun _ => applySubscriptionState_free
  | getStatus sub => exact free_bind getStatus_free fun _ => free_pure
  | createSubscription sub => exact free_bind createSubscription_free fun _ => free_pure

/-! ## Runs -/

/-- **Premium coherence, and what it takes.** In every interleaving of RevenueCat
syncs and webhooks, Stripe webhooks, status reads and subscriptions, premium sellers
have an active premium plan in every state if and only if no Stripe write of a status
that is not active reaches a premium seller. -/
theorem premium_coherent_iff {s₀ : PlanDb} (h0 : PremiumCoherent s₀)
    (actions : List (Pool.Action (planService cfg))) :
    Pool.Always PremiumCoherent s₀ actions ↔ (poolRun s₀ actions).Steps Harmless := by
  refine Pool.always_iff h0 (fun ms s hs => hs) actions fun e he hpre => ?_
  obtain ⟨h, hstep⟩ := Pool.free_step (fun _ _ => trivial) (fun _ c => planHandle_free c) s₀ actions e he
  exact hstep.coherent_iff hpre

/-! ## A lapsed premium seller -/

/-- One seller, without a plan. -/
def planTown : PlanDb where
  now := 0
  users := ⟨[⟨⟨0, 101⟩, "seller", "seller@town", .seller, false, some (.stripe 7), none, false, none, none⟩],
    by decide⟩
  sellerProfiles := ⟨[⟨⟨⟨0, 101⟩, .approved, some 300, false, .none, none, none, false⟩, none, none, none,
    none, none, none, none⟩], by decide⟩

/-- An answer of a Stripe and a RevenueCat that know nothing. -/
def quietAnswer : PlanAnswer := ⟨false, ⟨[], []⟩, ⟨"", "", none, none, none, none⟩, .stripe 0⟩

def planTownConfig : PlanConfig := ⟨none, some "price"⟩

/-- RevenueCat reports the purchase of the premium plan. -/
def premiumPurchase : RevenueCatEvent :=
  ⟨some "INITIAL_PURCHASE", some (.user ⟨0, 101⟩), none, none, some "seller_premium", none, none, some 1000⟩

/-- Then Stripe reports the end of an old subscription of the seller. -/
def premiumThenCanceled : List (Pool.Action (planService planTownConfig)) :=
  [.arrive (.revenueCatEvent premiumPurchase), .run 0 quietAnswer, .run 0 quietAnswer,
    .arrive (.subscriptionEvent ⟨"sub_old", "canceled", some 1, some ⟨0, 101⟩, none, none⟩),
    .run 1 quietAnswer, .run 1 quietAnswer]

theorem planTown_coherent : PremiumCoherent planTown := by
  intro p hp hpremium
  rw [List.mem_singleton.mp hp] at hpremium
  cases hpremium

theorem premiumThenCanceled_iff :
    Pool.Always PremiumCoherent planTown premiumThenCanceled ↔
      (poolRun planTown premiumThenCanceled).Steps Harmless :=
  premium_coherent_iff planTown_coherent premiumThenCanceled

/-- The canceled seller is still premium, and pays the reduced commission. -/
theorem canceled_seller_premium : PremiumCoherent planTown ∧
    ¬PremiumCoherent (poolRun planTown premiumThenCanceled).state := by
  have hcoherent : ∀ db : PlanDb, PremiumCoherent db → ∀ p ∈ db.sellerProfiles.rows,
      p.isPremium = true → isActive p.subscriptionStatus = true := fun db h p hp hpremium => (h p hp hpremium).1
  refine ⟨planTown_coherent, fun h => ?_⟩
  exact absurd (hcoherent _ h) (by decide +kernel)

end IncaCook
