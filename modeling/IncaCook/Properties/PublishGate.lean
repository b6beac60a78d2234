import IncaCook.Properties.Listings
import IncaCook.Properties.Onboarding

/-!
# Who may publish

The onboarding says in `canList` whether a seller has all that a publication takes. `create`
does not read it: it has a gate of its own, that asks for an approved account, a running
subscription and a category.

Main results:

* `canList_of_create_iff`: a seller who publishes may list exactly when the steps that the
  gate does not ask for are done, too.
-/

namespace IncaCook

open Prog Listings Onboarding

variable {db db' : ListingDb} {supabaseId : String} {user : User} {p : SellerSetup}

/-- `canList` of the seller's onboarding state. -/
def reportsCanList (db : ListingDb) (supabaseId : String) : Bool :=
  match getOnboardingState db.onboarding supabaseId with
  | .ok (.seller _ _ _ canList) => canList
  | _ => false

/-- What a seller needs besides an approved account and a category: the rest of the profile,
and the other steps of the wizard. -/
structure RestDone (db : OnboardingDb) (p : SellerSetup) : Prop where
  displayName : ∃ name, p.displayName = some name ∧ name ≠ ""
  profilePhotoUrl : ∃ url, p.profilePhotoUrl = some url ∧ url ≠ ""
  dateOfBirth : p.dateOfBirth.isSome
  steps : ∀ k, k ≠ .profile → SellerAsks Approved db p k

/-! ## Before and after -/

theorem asks_iff_restDone {odb : OnboardingDb} (hcategory : p.category.isSome) :
    (∀ k, SellerAsks Approved odb p k) ↔ RestDone odb p := by
  constructor
  · intro h
    obtain ⟨hname, hphoto, hbirth, -⟩ := h .profile
    exact ⟨hname, hphoto, hbirth, fun k _ => h k⟩
  · intro h k
    by_cases hk : k = .profile
    · rw [hk]
      exact ⟨h.displayName, h.profilePhotoUrl, h.dateOfBirth, hcategory⟩
    · exact h.steps k hk

/-- The onboarding of a seller whose account is approved. -/
theorem reportsCanList_iff (huser : db.kyc.userBySupabaseId supabaseId = some user) (hrole : user.role = .seller)
    (hp : db.kyc.sellerProfiles.find? user.id = some p) (hkyc : p.kycStatus = .approved)
    (hcategory : p.category.isSome) : reportsCanList db supabaseId = true ↔ RestDone db.onboarding p := by
  have hp' : db.onboarding.sellerProfiles.find? user.id = some p := hp
  obtain ⟨next, steps, canList, hstate, hverdict⟩ := seller_verdict hp'
  have hreport : getOnboardingState db.onboarding supabaseId = .ok (.seller next steps p.kycStatus canList) := by
    have huser' : db.onboarding.users.rows.find? (fun u => u.supabaseId = supabaseId) = some user := huser
    unfold getOnboardingState
    rw [huser']
    dsimp only
    rw [hrole, hp', ← hstate]
  unfold reportsCanList
  rw [hreport]
  dsimp only
  rw [hverdict.allowed_iff, and_iff_right hkyc, asks_iff_restDone hcategory]

/-- A seller's charters are neither the CGU nor the CGV. -/
theorem asks_charters {odb : OnboardingDb} {charters : Table UserCharter}
    (h : ∀ r, r.charter ≠ .cgu → r.charter ≠ .cgv → (r ∈ charters.rows ↔ r ∈ odb.userCharters.rows))
    (k : SellerStepKey) :
    SellerAsks Approved { odb with userCharters := charters } p k ↔ SellerAsks Approved odb p k := by
  have haccepted : ∀ charter, charter ≠ .cgu → charter ≠ .cgv →
      (OnboardingDb.Accepted { odb with userCharters := charters } p.userId charter ↔ odb.Accepted p.userId charter) := by
    intro charter hcgu hcgv
    unfold OnboardingDb.Accepted
    constructor
    · rintro ⟨r, hr, hu, rfl, hversion⟩
      exact ⟨r, (h r hcgu hcgv).mp hr, hu, rfl, hversion⟩
    · rintro ⟨r, hr, hu, rfl, hversion⟩
      exact ⟨r, (h r hcgu hcgv).mpr hr, hu, rfl, hversion⟩
  cases k with
  | charter =>
    have hhygiene := haccepted .hygiene (by decide) (by decide)
    have hfaitMaison := haccepted .faitMaison (by decide) (by decide)
    exact and_congr hhygiene (imp_congr_right fun _ => hfaitMaison)
  | _ => exact Iff.rfl

/-- A publication only adds consents that the onboarding of a seller does not ask for. -/
theorem restDone_of_terms (h : db.TermsOnly db') : RestDone db'.onboarding p ↔ RestDone db.onboarding p := by
  obtain ⟨charters, rfl, hrows⟩ := h
  have hsteps : ∀ k, SellerAsks Approved { db.onboarding with userCharters := charters } p k ↔
      SellerAsks Approved db.onboarding p k := asks_charters hrows
  constructor
  · rintro ⟨hname, hphoto, hbirth, hrest⟩
    exact ⟨hname, hphoto, hbirth, fun k hk => (hsteps k).mp (hrest k hk)⟩
  · rintro ⟨hname, hphoto, hbirth, hrest⟩
    exact ⟨hname, hphoto, hbirth, fun k hk => (hsteps k).mpr (hrest k hk)⟩

/-- **Who publishes, and who may list.** When `create` accepts a listing, from any database,
the onboarding of its seller says `canList`, before as after, if and only if the seller has
a name, a photo and a date of birth, and has done the other steps of the wizard: a pickup
address, a cuisine, the charters, and unless fait maison a business, an identity document
and a selfie that are approved. -/
theorem canList_of_create_iff {me : Nat} {w : Nat → Answer} {dto : CreateListingDto} {r : ListingWithAddOns}
    (hcreate : ((create me supabaseId dto).exec w db).result = .ok r) :
    ∃ s, db.kyc.gate supabaseId ⟨true, true⟩ = some s ∧
      (reportsCanList db supabaseId = true ↔ RestDone db.onboarding s.profile) ∧
      (reportsCanList ((create me supabaseId dto).exec w db).state supabaseId = true ↔
        RestDone db.onboarding s.profile) := by
  obtain ⟨row, listings, addOns, hpublished, -, hterms⟩ := create_ends ⟨hcreate, rfl⟩
  obtain ⟨s, hgate, -, hcategory⟩ := hpublished.seller
  obtain ⟨user, huser, hrole, hp, -, -, hkyc, -⟩ := KycDb.gate_eq_some.mp hgate
  have hsome : s.profile.category.isSome = true := by rw [hcategory]; rfl
  refine ⟨s, hgate, reportsCanList_iff huser hrole hp (hkyc rfl) hsome, ?_⟩
  -- the accounts are those of before
  have hsame : ((create me supabaseId dto).exec w db).state.kyc = db.kyc := by
    obtain ⟨charters, hstate, -⟩ := hterms
    rw [hstate]
  have hrest : RestDone ((create me supabaseId dto).exec w db).state.onboarding s.profile ↔
      RestDone ({ db with listings, addOns } : ListingDb).onboarding s.profile := restDone_of_terms hterms
  rw [← hsame] at huser hp
  exact (reportsCanList_iff huser hrole hp (hkyc rfl) hsome).trans hrest

/-! ## Two caterers -/

/-- The caterer has gone through the wizard. -/
def fullWizard : WizardTables :=
  { papersOnly with
    businesses := ⟨[⟨⟨0, 1⟩, "Chez Amel SARL"⟩], by decide⟩
    cuisines := ⟨[⟨⟨0, 1⟩, "ORIENTALE"⟩], by decide⟩
    addresses := ⟨[⟨⟨0, 10⟩, ⟨0, 1⟩, .sellerPickup, none⟩], by decide⟩
    userCharters := ⟨[⟨⟨0, 1⟩, .hygiene, "v1.0"⟩], by decide⟩ }

theorem fullKitchen_canList_iff : ∃ s, (kitchen fullWizard).kyc.gate "chef" ⟨true, true⟩ = some s ∧
    (reportsCanList (kitchen fullWizard) "chef" = true ↔ RestDone (kitchen fullWizard).onboarding s.profile) ∧
    (reportsCanList ((create 0 "chef" (stew (some "noix") none)).exec (fun _ => ⟨true, "", ""⟩)
        (kitchen fullWizard)).state "chef" = true ↔ RestDone (kitchen fullWizard).onboarding s.profile) := by
  have hcreate : ((create 0 "chef" (stew (some "noix") none)).exec (fun _ => ⟨true, "", ""⟩)
      (kitchen fullWizard)).result = .ok (stewRow (some "noix") none, []) := rfl
  exact canList_of_create_iff hcreate

/-- The full kitchen may list. -/
example : reportsCanList (kitchen fullWizard) "chef" = true := rfl

/-- A caterer without an address, a cuisine or a charter publishes all the same. -/
theorem skipped_wizard : ¬∀ (me : Nat) (w : Nat → Answer) (db : ListingDb) (supabaseId : String)
    (dto : CreateListingDto) (r : ListingWithAddOns), ((create me supabaseId dto).exec w db).result = .ok r →
      reportsCanList db supabaseId = true := by
  intro h
  have hcreate : ((create 0 "chef" (stew (some "noix") none)).exec (fun _ => ⟨true, "", ""⟩)
      (kitchen papersOnly)).result = .ok (stewRow (some "noix") none, []) := rfl
  have hrefused : reportsCanList (kitchen papersOnly) "chef" = false := rfl
  cases hrefused.symm.trans (h _ _ _ _ _ _ hcreate)

end IncaCook
