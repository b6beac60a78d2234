import IncaCook.Library.Crash
import IncaCook.Properties.PremiumSellers

/-!
# A seller with several Stripe subscriptions

A seller whose subscription has lapsed may start another one, and Stripe goes on
reporting both. The row of the seller has room for one of them, and the webhook
handler writes whichever it is told about: it does not compare the subscription with
the stored one, nor the age of the report with that of the last one.

Main results:

* `processed_state`: after any deliveries the row mirrors the subscription of the last one;
* `not_locked_out_iff`: a seller with a paid subscription is served if and only if the
  last delivery was about a subscription that was active in it.
-/

namespace IncaCook

open Prog Subscriptions

variable {s s₀ : PlanDb} {seller : UserId} {sub : StripeSubscription} {cfg : PlanConfig}
  {w : Nat → PlanAnswer}

/-- A `customer.subscription` event: the state of a subscription at some time. -/
structure SubscriptionReport where
  created : Nat
  subscription : StripeSubscription
  deriving DecidableEq

/-- No report of the same subscription is younger. -/
def Latest (deliveries : List SubscriptionReport) (e : SubscriptionReport) : Prop :=
  e ∈ deliveries ∧ ∀ e' ∈ deliveries, e'.subscription.id = e.subscription.id → e'.created ≤ e.created

/-- Active or trialing, and paid up to a time to come. -/
def Paid (now : Time) (sub : StripeSubscription) : Prop :=
  isActive (subscriptionStatusFromStripe sub.status) = true ∧ ∃ t, periodEnd sub = some t ∧ now < t

/-- The gate lets the seller through. -/
def Served (db : PlanDb) (seller : UserId) (now : Time) : Prop :=
  ∃ p, db.sellerProfiles.find? seller = some p ∧
    Orders.isSubscriptionActive p.subscriptionStatus p.subscriptionCurrentPeriodEnd now = true

/-- The seller whom the handler finds for a subscription. -/
def ownerOf (db : PlanDb) (sub : StripeSubscription) : Option UserId :=
  sellerByMetadata db sub <|> sellerByCustomer db sub

/-- The reports are about subscriptions of the seller, and of nobody else. -/
structure Owned (db : PlanDb) (seller : UserId) (deliveries : List SubscriptionReport) : Prop where
  owner : ∀ e ∈ deliveries, ownerOf db e.subscription = some seller
  free : ∀ e ∈ deliveries, subscriptionTaken db seller e.subscription.id = false

/-- The calls of the webhook, one for each delivery. -/
def processing (cfg : PlanConfig) (w : Nat → PlanAnswer) (deliveries : List SubscriptionReport) :
    List (Input (planService cfg)) :=
  deliveries.map fun e => .call (.subscriptionEvent e.subscription) w

/-- The row of the seller mirrors the subscription. -/
def PlanDb.mirror (db : PlanDb) (seller : UserId) (sub : StripeSubscription) : PlanDb :=
  { db with
    sellerProfiles := db.sellerProfiles.update seller (mirrored sub) (mirrored_userId sub) }

/-! ## One report -/

/-- A seller who is found has a row. -/
theorem ownerOf_row (h : ownerOf s sub = some seller) : ∃ p, s.sellerProfiles.find? seller = some p := by
  unfold ownerOf at h
  cases hmeta : sellerByMetadata s sub with
  | some u =>
    rw [hmeta] at h
    obtain ⟨p, hp, rfl⟩ := Option.map_eq_some_iff.mp hmeta
    obtain ⟨u', -, hfind⟩ := Option.bind_eq_some_iff.mp hp
    obtain rfl : p.userId = seller := Option.some.inj h
    have hkey : p.userId = u' := Table.key_of_find? hfind
    exact ⟨p, hkey ▸ hfind⟩
  | none =>
    rw [hmeta] at h
    obtain ⟨customer, -, hcustomer⟩ := Option.bind_eq_some_iff.mp h
    obtain ⟨u, hu, rfl⟩ := Option.map_eq_some_iff.mp hcustomer
    have hfound : u.stripeCustomerId = some customer ∧ (s.sellerProfiles.find? u.id).isSome = true := by
      simpa using List.find?_some hu
    exact Option.isSome_iff_exists.mp hfound.2

/-- The handler, alone, mirrors the subscription onto the row of its seller. -/
theorem applySubscriptionState_sat (howner : ownerOf s sub = some seller)
    (hfree : subscriptionTaken s seller sub.id = false) {h : List (StepRecord planMachine)} :
    Sat (movesContract fun _ _ => True) (fun _ _ s' => s' = s.mirror seller sub)
      (applySubscriptionState sub) h s := by
  have hwrite : ∀ h, Sat (movesContract fun _ _ => True) (fun _ _ s' => s' = s.mirror seller sub)
      (writeStateFromSub seller sub) h s := by
    intro h
    have hok : mirrorSubscription seller sub s = .ok ((), s.mirror seller sub) :=
      mirrorSubscription_ok.mpr ⟨ownerOf_row howner, hfree, rfl⟩
    refine sat_await fun s' hs answer => ?_
    cases hs
    rw [hok]
    refine ⟨nofun, fun a s'' hrun => ⟨trivial, ?_⟩⟩
    cases hrun
    rfl
  unfold applySubscriptionState findSeller
  refine sat_bind (sat_read_bind fun s' hs => ⟨trivial, ?_⟩)
  cases hs
  unfold ownerOf at howner
  -- the owner by the metadata of the subscription, else by its customer
  cases hmeta : sellerByMetadata s sub with
  | some u =>
    rw [hmeta] at howner
    obtain rfl : u = seller := Option.some.inj howner
    exact hwrite _
  | none =>
    rw [hmeta] at howner
    refine sat_read fun s' hs => ⟨trivial, ?_⟩
    cases hs
    have hcustomer : sellerByCustomer s sub = some seller := howner
    rw [hcustomer]
    exact hwrite _

/-! ## Any deliveries -/

/-- The last report hides the one before. -/
theorem mirror_mirror (sub sub' : StripeSubscription) :
    (s.mirror seller sub).mirror seller sub' = s.mirror seller sub' := by
  have hrows : (s.sellerProfiles.update seller (mirrored sub)).update seller (mirrored sub') =
      s.sellerProfiles.update seller (mirrored sub') := by
    apply Table.ext_rows
    show List.map _ (List.map _ _) = List.map _ _
    rw [List.map_map]
    apply List.map_congr_left
    intro p _
    by_cases hp : p.userId = seller
    · simp [Keyed.key, hp, mirrored]
    · simp [Keyed.key, hp]
  exact congrArg (fun rows => { s with sellerProfiles := rows }) hrows

/-- Whose subscription it is does not depend on what was mirrored. -/
theorem ownerOf_mirror (sub' : StripeSubscription) : ownerOf (s.mirror seller sub') sub = ownerOf s sub := by
  have hrow : ∀ u, ((s.mirror seller sub').sellerProfiles.find? u).map (fun p => p.userId) =
      (s.sellerProfiles.find? u).map fun p => p.userId := by
    intro u
    show ((s.sellerProfiles.update seller (mirrored sub')).find? u).map _ = _
    rw [Table.find?_update]
    split
    · rw [Option.map_map]
      rfl
    · rfl
  have hsome : ∀ u, ((s.mirror seller sub').sellerProfiles.find? u).isSome =
      (s.sellerProfiles.find? u).isSome := by
    intro u
    rw [← Option.isSome_map, hrow u, Option.isSome_map]
  unfold ownerOf
  congr 1
  · unfold sellerByMetadata
    cases sub.metadataUserId with
    | none => rfl
    | some u => exact hrow u
  · unfold sellerByCustomer
    simp only [hsome]
    rfl

theorem subscriptionTaken_mirror (id : StripeSubscriptionId) (sub' : StripeSubscription) :
    subscriptionTaken (s.mirror seller sub') seller id = subscriptionTaken s seller id := by
  unfold subscriptionTaken PlanDb.mirror Table.update Table.updateMany
  rw [List.any_map]
  congr 1
  funext p
  by_cases hp : p.userId = seller
  · simp [Keyed.key, hp, mirrored]
  · simp [Keyed.key, hp]

/-- **Last write wins.** After any deliveries, old reports and repetitions among them,
the database is the first one with the last subscription mirrored. -/
theorem processed_state {deliveries : List SubscriptionReport} (howned : Owned s₀ seller deliveries) :
    (serialRun s₀ (processing cfg w deliveries)).state =
      match deliveries.getLast? with
      | none => s₀
      | some e => s₀.mirror seller e.subscription := by
  induction deliveries using List.reverseRecOn with
  | nil => rfl
  | append_singleton deliveries e ih =>
    have hbefore := ih ⟨fun e' he' => howned.owner e' (List.mem_append_left _ he'),
      fun e' he' => howned.free e' (List.mem_append_left _ he')⟩
    have howner : ownerOf s₀ e.subscription = some seller := howned.owner e (by simp)
    have hfree : subscriptionTaken s₀ seller e.subscription.id = false := howned.free e (by simp)
    -- the reports before leave the owner, and the unique column, as they were
    have hsame : ∀ s, s = (serialRun s₀ (processing cfg w deliveries)).state →
        ownerOf s e.subscription = some seller ∧ subscriptionTaken s seller e.subscription.id = false ∧
          s.mirror seller e.subscription = s₀.mirror seller e.subscription := by
      rintro s rfl
      rw [hbefore]
      cases deliveries.getLast? with
      | none => exact ⟨howner, hfree, rfl⟩
      | some e' =>
        exact ⟨(ownerOf_mirror e'.subscription).trans howner,
          (subscriptionTaken_mirror _ e'.subscription).trans hfree, mirror_mirror _ _⟩
    obtain ⟨howner', hfree', hmirror⟩ := hsame _ rfl
    unfold processing at hbefore ⊢
    rw [List.map_append, List.map_singleton, serialRun_append, List.getLast?_concat]
    show ((planHandle cfg (.subscriptionEvent e.subscription)).exec w
      (serialRun s₀ (processing cfg w deliveries)).state).state = s₀.mirror seller e.subscription
    have hexec := ((applySubscriptionState_sat howner' hfree').exec (h := []) (fun _ => rfl) w).2
    rw [planHandle, exec_bind_pure.1, hexec, hmirror]

/-! ## Locked out -/

theorem served_mirror (hrow : ∃ p, s.sellerProfiles.find? seller = some p) (now : Time) :
    Served (s.mirror seller sub) seller now ↔
      Orders.isSubscriptionActive (subscriptionStatusFromStripe sub.status) (periodEnd sub) now = true := by
  obtain ⟨p, hp⟩ := hrow
  have hfind : (s.mirror seller sub).sellerProfiles.find? seller = some (mirrored sub p) :=
    Table.find?_update_of_eq hp
  constructor
  · rintro ⟨p', hp', hactive⟩
    rw [hfind, Option.some.injEq] at hp'
    rw [← hp'] at hactive
    exact hactive
  · exact fun hactive => ⟨mirrored sub p, hfind, hactive⟩

/-- **Who is not locked out.** For every order of processing of reports of a seller's
subscriptions, repetitions included: if one of the subscriptions is paid for, by its
latest report, the gate lets the seller through, exactly when no subscription is paid
for or the report processed last is itself one that passes the gate. -/
theorem not_locked_out_iff {deliveries : List SubscriptionReport}
    (howned : Owned s₀ seller deliveries) (now : Time) :
    ((∃ e, Latest deliveries e ∧ Paid now e.subscription) →
        Served (serialRun s₀ (processing cfg w deliveries)).state seller now) ↔
      (∀ e, Latest deliveries e → ¬Paid now e.subscription) ∨
        ∃ last, deliveries.getLast? = some last ∧
          Orders.isSubscriptionActive (subscriptionStatusFromStripe last.subscription.status)
            (periodEnd last.subscription) now = true := by
  have hstate : (serialRun s₀ (processing cfg w deliveries)).state = _ := processed_state howned
  rw [hstate]
  cases hlast : deliveries.getLast? with
  | none =>
    -- nothing was delivered
    have hnil : deliveries = [] := List.getLast?_eq_none_iff.mp hlast
    have hnone : ∀ e, ¬Latest deliveries e := fun e he => List.not_mem_nil (hnil ▸ he.1)
    exact iff_of_true (fun ⟨e, he, _⟩ => absurd he (hnone e)) (.inl fun e he => absurd he (hnone e))
  | some last =>
    have hmem : last ∈ deliveries := List.mem_of_getLast? hlast
    have hserved : Served (s₀.mirror seller last.subscription) seller now ↔ _ :=
      served_mirror (ownerOf_row (howned.owner last hmem)) now
    simp only [Option.some.injEq, exists_eq_left', hserved]
    constructor
    · intro h
      by_cases hpaid : ∃ e, Latest deliveries e ∧ Paid now e.subscription
      · exact .inr (h hpaid)
      · exact .inl fun e he hp => hpaid ⟨e, he, hp⟩
    · rintro (hnone | hpasses) ⟨e, he, hp⟩
      · exact absurd hp (hnone e he)
      · exact hpasses

/-- The seller's old subscription, and the new one, paid up to a day to come. -/
def oldCanceled : SubscriptionReport := ⟨1, ⟨"sub_old", "canceled", some 1, some ⟨0, 101⟩, none, none⟩⟩
def newActive : SubscriptionReport := ⟨2, ⟨"sub_new", "active", some 86400, some ⟨0, 101⟩, none, none⟩⟩

/-- The end of the old subscription is reported twice, once too late. -/
def redelivered : List SubscriptionReport := [oldCanceled, newActive, oldCanceled]

theorem redelivered_owned : Owned planTown ⟨0, 101⟩ redelivered :=
  ⟨by decide, by decide⟩

theorem redelivered_iff :
    ((∃ e, Latest redelivered e ∧ Paid 0 e.subscription) →
        Served (serialRun planTown (processing planTownConfig (fun _ => quietAnswer) redelivered)).state
          ⟨0, 101⟩ 0) ↔
      (∀ e, Latest redelivered e → ¬Paid 0 e.subscription) ∨
        ∃ last, redelivered.getLast? = some last ∧
          Orders.isSubscriptionActive (subscriptionStatusFromStripe last.subscription.status)
            (periodEnd last.subscription) 0 = true :=
  not_locked_out_iff redelivered_owned 0

/-- The new subscription is paid, and the seller is locked out. -/
theorem redelivered_locked_out : Owned planTown ⟨0, 101⟩ redelivered ∧ Latest redelivered newActive ∧
    Paid 0 newActive.subscription ∧
    ¬Served (serialRun planTown (processing planTownConfig (fun _ => quietAnswer) redelivered)).state
      ⟨0, 101⟩ 0 := by
  have hgate : ∀ p ∈ (serialRun planTown (processing planTownConfig (fun _ => quietAnswer)
      redelivered)).state.sellerProfiles.rows, Orders.isSubscriptionActive p.subscriptionStatus
        p.subscriptionCurrentPeriodEnd 0 = false := by decide
  refine ⟨redelivered_owned, ⟨by decide, by decide⟩, ⟨by decide, 86400000, by decide, by decide⟩, ?_⟩
  rintro ⟨p, hp, hserved⟩
  rw [hgate p (Table.mem_of_find? hp)] at hserved
  cases hserved

end IncaCook
