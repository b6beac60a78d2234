import IncaCook.Model.Onboarding

/-!
# The onboarding verdict

What a role asks of a user, step by step, in terms of the tables: `SellerMeets` and
`DriverMeets` say when nothing is left to wait for, `SellerMustAct` and `DriverMustAct` when
something is left for the user to do. A document under review is neither.

Main results:

* `onboarding_verdict`: a seller may list, and a driver deliver, exactly when the account is
  approved and all the role asks for is met, and `next` is the first step to act on.
-/

namespace IncaCook

open Onboarding

/-! ## What a role asks for -/

namespace OnboardingDb

variable (db : OnboardingDb) (u : UserId)

def LiveAddress (kind : AddressKind) : Prop :=
  ∃ a ∈ db.addresses.rows, a.userId = u ∧ a.kind = kind ∧ a.deletedAt = none

/-- The current version of the charter is accepted. -/
def Accepted (charter : CharterKind) : Prop :=
  ∃ r ∈ db.userCharters.rows, r.userId = u ∧ r.charter = charter ∧ r.version = activeCharterVersions charter

/-- The document is there, and its review is in the state. -/
def Reviewed (P : KycStatus → Prop) (type : KycDocType) : Prop :=
  ∃ d ∈ db.kycDocuments.rows, d.userId = u ∧ d.type = type ∧ P d.reviewState

end OnboardingDb

/-- The kind of identity document has a verso. -/
def KycSlot.TwoSided (d : KycSlot) : Prop :=
  ∃ fields value, d.metadata = .object fields ∧ fields.lookup "idDocumentType" = some (.string value) ∧
    (value = "CARTE_IDENTITE" ∨ value = "TITRE_SEJOUR")

/-- The identity document is there, with its verso if it has one, in the state. -/
def OnboardingDb.Identified (db : OnboardingDb) (u : UserId) (P : KycStatus → Prop) : Prop :=
  ∃ d ∈ db.kycDocuments.rows, d.userId = u ∧ d.type = .idFront ∧ P d.reviewState ∧
    (d.TwoSided → db.Reviewed u P .idBack)

/-- The review of a document that counts, and of one that the user need not upload again. -/
def Approved (s : KycStatus) : Prop := s = .approved

@[inherit_doc Approved]
def NotRejected (s : KycStatus) : Prop := s ≠ .rejected

def SellerSetup.ProfileFilled (p : SellerSetup) : Prop :=
  (∃ name, p.displayName = some name ∧ name ≠ "") ∧ (∃ url, p.profilePhotoUrl = some url ∧ url ≠ "") ∧
    p.dateOfBirth.isSome ∧ p.category.isSome

def SellerSetup.IsFaitMaison (p : SellerSetup) : Prop := p.category = some .faitMaison

/-- What a step asks of a seller, documents being as `P` says. -/
def SellerAsks (P : KycStatus → Prop) (db : OnboardingDb) (p : SellerSetup) : SellerStepKey → Prop
  | .profile => p.ProfileFilled
  | .addresses => db.LiveAddress p.userId .sellerPickup
  | .business => p.IsFaitMaison ∨ ∃ b ∈ db.businesses.rows, b.userId = p.userId
  | .cuisines => ∃ c ∈ db.cuisines.rows, c.userId = p.userId
  | .kycId => p.IsFaitMaison ∨ db.Identified p.userId P
  | .kycSelfie => p.IsFaitMaison ∨ db.Reviewed p.userId P .selfie
  | .charter => db.Accepted p.userId .hygiene ∧ (p.IsFaitMaison → db.Accepted p.userId .faitMaison)

def IsMotorized (v : DriverVehicleType) : Prop := v = .scooter ∨ v = .car

/-- What a step asks of a driver, documents being as `P` says. -/
def DriverAsks (P : KycStatus → Prop) (db : OnboardingDb) (p : DriverRecord) : DriverStepKey → Prop
  | .addresses => db.LiveAddress p.userId .driverHome
  | .vehicle => p.vehicleType.isSome ∧ p.dateOfBirth.isSome
  | .zones => ∃ z ∈ db.zones.rows, z.userId = p.userId
  | .kycId => db.Identified p.userId P
  | .kycSelfie => db.Reviewed p.userId P .selfie
  | .documents => ∃ v, p.vehicleType = some v ∧ (IsMotorized v →
      db.Reviewed p.userId P .drivingLicense ∧ db.Reviewed p.userId P .carteGrise)
  | .charter => db.Accepted p.userId .punctuality ∧ db.Accepted p.userId .care

/-- The first step of the order that has the property. -/
def FirstIn {K : Type} (order : List K) (P : K → Prop) (k : K) : Prop :=
  ∃ before after, order = before ++ k :: after ∧ P k ∧ ∀ j ∈ before, ¬P j

/-- The law of a verdict: what it says, from what each step asks for. -/
structure Verdict {K : Type} (order : List K) (asks : (KycStatus → Prop) → K → Prop) (kycStatus : KycStatus)
    (next : Option K) (steps : K → StepStatus) (allowed : Bool) : Prop where
  allowed_iff : allowed = true ↔ kycStatus = .approved ∧ ∀ k, asks Approved k
  next_iff : ∀ k, next = some k ↔ FirstIn order (fun k => ¬asks NotRejected k) k
  next_none : next = none ↔ ∀ k, steps k ≠ .incomplete

/-! ## Verdicts from steps -/

theorem firstIn_iff {K : Type} {order : List K} {P : K → Prop} [DecidablePred P] {k : K} :
    order.find? (fun k => P k) = some k ↔ FirstIn order P k := by
  rw [List.find?_eq_some_iff_append]
  constructor
  · rintro ⟨hk, before, after, rfl, hbefore⟩
    exact ⟨before, after, rfl, of_decide_eq_true hk, fun j hj => by simpa using hbefore j hj⟩
  · rintro ⟨before, after, rfl, hk, hbefore⟩
    exact ⟨decide_eq_true hk, before, after, rfl, fun j hj => by simpa using hbefore j hj⟩

/-- A step that is done is met, and one that is incomplete is one to act on. -/
theorem verdict_of {K : Type} {order : List K} {asks : (KycStatus → Prop) → K → Prop}
    {kycStatus : KycStatus} {steps : K → StepStatus} (hall : ∀ k, k ∈ order)
    (hdone : ∀ k, (steps k).isDone = true ↔ asks Approved k)
    (hincomplete : ∀ k, steps k = .incomplete ↔ ¬asks NotRejected k) :
    Verdict order asks kycStatus (firstIncomplete order steps) steps
      (order.all (fun step => (steps step).isDone) && kycStatus = .approved) := by
  constructor
  · rw [Bool.and_eq_true, List.all_eq_true, decide_eq_true_eq, and_comm]
    exact and_congr_right fun _ => ⟨fun h k => (hdone k).mp (h k (hall k)), fun h k _ => (hdone k).mpr (h k)⟩
  · intro k
    rw [firstIncomplete, firstIn_iff]
    simp only [hincomplete]
  · rw [firstIncomplete, List.find?_eq_none]
    exact ⟨fun h k => by simpa using h k (hall k), fun h k _ => by simpa using h k⟩

/-! ## Documents -/

section

variable {db : OnboardingDb} {u : UserId} {t : KycDocType} {P : KycStatus → Prop}

/-- Looking through a user's documents is looking a document up by its key. -/
theorem find_document : (documentsOf db u).find? (fun d => d.type = t) = db.kycDocuments.find? (u, t) := by
  unfold documentsOf Table.find?
  rw [List.find?_filter]
  congr 1
  funext d
  simp [Keyed.key]

theorem reviewed_iff : db.Reviewed u P t ↔ ∃ d, db.kycDocuments.find? (u, t) = some d ∧ P d.reviewState := by
  simp only [OnboardingDb.Reviewed, Table.find?_eq_some, Keyed.key, Prod.mk.injEq]
  constructor
  · rintro ⟨d, hd, rfl, rfl, hP⟩
    exact ⟨d, ⟨hd, rfl, rfl⟩, hP⟩
  · rintro ⟨d, ⟨hd, rfl, rfl⟩, hP⟩
    exact ⟨d, hd, rfl, rfl, hP⟩

theorem identified_iff : db.Identified u P ↔ ∃ d, db.kycDocuments.find? (u, .idFront) = some d ∧
    P d.reviewState ∧ (d.TwoSided → db.Reviewed u P .idBack) := by
  simp only [OnboardingDb.Identified, Table.find?_eq_some, Keyed.key, Prod.mk.injEq]
  constructor
  · rintro ⟨d, hd, rfl, ht, hP⟩
    exact ⟨d, ⟨hd, rfl, ht⟩, hP⟩
  · rintro ⟨d, ⟨hd, rfl, ht⟩, hP⟩
    exact ⟨d, hd, rfl, ht, hP⟩

/-- The status of a document's review as the status of its step. -/
def KycStatus.slot (s : KycStatus) : StepStatus :=
  if s = .rejected then .incomplete else if s = .pending then .pendingReview else .complete

theorem KycStatus.slot_done (s : KycStatus) : s.slot.isDone = true ↔ Approved s := by
  unfold Approved
  cases s <;> decide

theorem KycStatus.slot_incomplete (s : KycStatus) : s.slot = .incomplete ↔ ¬NotRejected s := by
  unfold NotRejected
  cases s <;> decide

theorem slotStatus_done :
    (derivSlotStatus (documentsOf db u) t).isDone = true ↔ db.Reviewed u Approved t := by
  unfold derivSlotStatus
  rw [find_document, reviewed_iff]
  cases db.kycDocuments.find? (u, t) with
  | none => simp [StepStatus.isDone]
  | some d =>
    simp only [Option.some.injEq, exists_eq_left']
    exact d.reviewState.slot_done

theorem slotStatus_incomplete :
    derivSlotStatus (documentsOf db u) t = .incomplete ↔ ¬db.Reviewed u NotRejected t := by
  unfold derivSlotStatus
  rw [find_document, reviewed_iff]
  cases db.kycDocuments.find? (u, t) with
  | none => simp
  | some d =>
    simp only [Option.some.injEq, exists_eq_left']
    exact d.reviewState.slot_incomplete

theorem aggregate_incomplete {slots : List StepStatus} :
    aggregateStepStatuses slots = .incomplete ↔ .incomplete ∈ slots := by
  unfold aggregateStepStatuses
  split
  · simp_all
  · split <;> simp_all

/-- No slot of a document is skipped. -/
theorem aggregate_done {slots : List StepStatus} :
    (aggregateStepStatuses slots).isDone = true ↔ ∀ s ∈ slots, s.isDone = true := by
  have hslot : ∀ s : StepStatus, s.isDone = true ↔ s ≠ .incomplete ∧ s ≠ .pendingReview := by
    intro s
    cases s <;> decide
  -- the statuses of a document are done, waiting or incomplete
  unfold aggregateStepStatuses
  simp only [hslot]
  split
  · rename_i hany
    obtain ⟨s, hs, hincomplete⟩ := List.any_eq_true.mp hany
    exact iff_of_false (fun h => h.1 rfl) fun h => (h s hs).1 (of_decide_eq_true hincomplete)
  · rename_i hincomplete
    split
    · rename_i hany
      obtain ⟨s, hs, hpending⟩ := List.any_eq_true.mp hany
      exact iff_of_false (fun h => h.2 rfl) fun h => (h s hs).2 (of_decide_eq_true hpending)
    · rename_i hpending
      refine iff_of_true (by decide) fun s hs => ⟨?_, ?_⟩
      · rintro rfl
        exact hincomplete (List.any_eq_true.mpr ⟨_, hs, rfl⟩)
      · rintro rfl
        exact hpending (List.any_eq_true.mpr ⟨_, hs, rfl⟩)

/-- Two of the three kinds have a verso. -/
theorem twoSided_kind {value : String} :
    (idDocumentType? value).any (· ∈ idDocumentTypesRequiringVerso) = true ↔
      value = "CARTE_IDENTITE" ∨ value = "TITRE_SEJOUR" := by
  unfold idDocumentType?
  split
  · rename_i h
    exact iff_of_true (by decide) (.inl h)
  · rename_i hcarte
    split
    · rename_i h
      exact iff_of_false (by decide) (by rw [h]; decide)
    · split
      · rename_i h
        exact iff_of_true (by decide) (.inr h)
      · rename_i htitre
        exact iff_of_false Bool.false_ne_true fun h => h.elim hcarte htitre

theorem requiresVerso_iff {d : KycSlot} :
    (readIdDocumentType d.metadata).any (· ∈ idDocumentTypesRequiringVerso) = true ↔ d.TwoSided := by
  unfold KycSlot.TwoSided readIdDocumentType
  cases d.metadata with
  | object fields =>
    simp only [JsonValue.object.injEq, exists_and_left, exists_eq_left']
    -- only a text under that key names a kind of document
    cases hvalue : fields.lookup "idDocumentType" with
    | none => simp
    | some v =>
      cases v with
      | string value => simpa using twoSided_kind
      | null => simp
      | bool b => simp
      | number n => simp
      | array items => simp
      | object fields => simp
  | null => simp
  | bool b => simp
  | number n => simp
  | string s => simp
  | array items => simp

/-- The slots of the identity document. -/
theorem kycIdStatus_eq {d : KycSlot} (hd : db.kycDocuments.find? (u, .idFront) = some d) :
    (¬d.TwoSided → derivKycIdStatus (documentsOf db u) = d.reviewState.slot) ∧
      (d.TwoSided → derivKycIdStatus (documentsOf db u) =
        aggregateStepStatuses [d.reviewState.slot, derivSlotStatus (documentsOf db u) .idBack]) := by
  unfold derivKycIdStatus
  rw [find_document, hd]
  constructor
  · intro hone
    have hverso : (readIdDocumentType d.metadata).any (· ∈ idDocumentTypesRequiringVerso) = false := by
      rw [← Bool.not_eq_true, requiresVerso_iff]
      exact hone
    dsimp only
    rw [hverso]
    cases d.reviewState <;> rfl
  · intro htwo
    have hverso : (readIdDocumentType d.metadata).any (· ∈ idDocumentTypesRequiringVerso) = true :=
      requiresVerso_iff.mpr htwo
    unfold derivSlotStatus
    dsimp only
    rw [hverso, find_document]
    -- the verso, then the front
    cases db.kycDocuments.find? (u, .idBack) with
    | none => cases d.reviewState <;> rfl
    | some back => cases d.reviewState <;> cases hback : back.reviewState <;> simp [hback] <;> rfl

theorem kycIdStatus_none (hd : db.kycDocuments.find? (u, .idFront) = none) :
    derivKycIdStatus (documentsOf db u) = .incomplete := by
  unfold derivKycIdStatus
  rw [find_document, hd]

theorem kycIdStatus_done :
    (derivKycIdStatus (documentsOf db u)).isDone = true ↔ db.Identified u Approved := by
  rw [identified_iff]
  cases hd : db.kycDocuments.find? (u, .idFront) with
  | none => simp [kycIdStatus_none hd, StepStatus.isDone]
  | some d =>
    simp only [Option.some.injEq, exists_eq_left']
    by_cases htwo : d.TwoSided
    · rw [(kycIdStatus_eq hd).2 htwo, aggregate_done]
      simp [htwo, d.reviewState.slot_done, slotStatus_done]
    · rw [(kycIdStatus_eq hd).1 htwo]
      simp [htwo, d.reviewState.slot_done]

theorem kycIdStatus_incomplete :
    derivKycIdStatus (documentsOf db u) = .incomplete ↔ ¬db.Identified u NotRejected := by
  rw [identified_iff]
  cases hd : db.kycDocuments.find? (u, .idFront) with
  | none => simp [kycIdStatus_none hd]
  | some d =>
    simp only [Option.some.injEq, exists_eq_left']
    by_cases htwo : d.TwoSided
    · rw [(kycIdStatus_eq hd).2 htwo, aggregate_incomplete]
      simp only [List.mem_cons, List.not_mem_nil, or_false, eq_comm (a := StepStatus.incomplete),
        d.reviewState.slot_incomplete, slotStatus_incomplete, htwo, forall_const]
      exact not_and_or.symm
    · rw [(kycIdStatus_eq hd).1 htwo, d.reviewState.slot_incomplete]
      simp [htwo]

/-! ## The other steps -/

theorem completeIf_done {c : Bool} : (completeIf c).isDone = true ↔ c = true := by
  cases c <;> decide

theorem completeIf_incomplete {c : Bool} : completeIf c = .incomplete ↔ ¬c = true := by
  cases c <;> decide

/-- A step that some users skip. -/
theorem skipIf_done {c Q : Prop} [Decidable c] {s : StepStatus} (h : s.isDone = true ↔ Q) :
    (if c then .skipped else s : StepStatus).isDone = true ↔ c ∨ Q := by
  split
  · rename_i hc
    exact iff_of_true (by decide) (.inl hc)
  · rename_i hc
    exact h.trans (or_iff_right hc).symm

theorem skipIf_incomplete {c Q : Prop} [Decidable c] {s : StepStatus} (h : s = .incomplete ↔ ¬Q) :
    (if c then .skipped else s : StepStatus) = .incomplete ↔ ¬(c ∨ Q) := by
  split
  · rename_i hc
    exact iff_of_false StepStatus.noConfusion (not_not.mpr (.inl hc))
  · rename_i hc
    exact h.trans (not_congr (or_iff_right hc).symm)

theorem hasLiveAddress_iff {kind : AddressKind} : hasLiveAddress db u kind = true ↔ db.LiveAddress u kind := by
  simp [hasLiveAddress, OnboardingDb.LiveAddress, and_assoc]

theorem charterStatus_eq (db : OnboardingDb) (u : UserId) (required : List CharterKind) : ∃ c : Bool,
    charterStatus db u required = completeIf c ∧ (c = true ↔ ∀ k ∈ required, db.Accepted u k) := by
  unfold charterStatus
  split
  · rename_i hnone
    obtain rfl := List.length_eq_zero_iff.mp hnone
    exact ⟨true, rfl, by simp⟩
  · refine ⟨_, rfl, ?_⟩
    simp only [List.all_eq_true, List.mem_map, List.mem_filter, decide_eq_true_eq, Bool.and_eq_true,
      List.any_eq_true]
    -- an accepted charter is found by its kind, in the version that is current
    refine forall₂_congr fun k hk => ?_
    constructor
    · rintro ⟨r, ⟨hr, hu, c, -, rfl, hversion⟩, rfl⟩
      exact ⟨r, hr, hu, rfl, hversion⟩
    · rintro ⟨r, hr, hu, rfl, hversion⟩
      exact ⟨r, ⟨hr, hu, r.charter, hk, rfl, hversion⟩, rfl⟩

/-- Some row of the user's. -/
theorem count_pos_iff {ρ : Type} {rows : List ρ} {userId : ρ → UserId} :
    decide (0 < (rows.filter fun r => userId r = u).length) = true ↔ ∃ r ∈ rows, userId r = u := by
  simp [List.length_pos_iff_exists_mem]

/-! ## The verdicts -/

theorem profile_iff {p : SellerSetup} (hp : db.sellerProfiles.find? u = some p) :
    ((db.sellerProfiles.find? u).any fun q => (truthy q.displayName).isSome &&
      (truthy q.profilePhotoUrl).isSome && q.dateOfBirth.isSome && p.category.isSome) = true ↔
      p.ProfileFilled := by
  have htruthy : ∀ o : Option String, (truthy o).isSome = true ↔ ∃ s, o = some s ∧ s ≠ "" := by
    intro o
    cases o with
    | none => simp [truthy]
    | some s => simp [truthy]
  rw [hp]
  simp only [Option.any_some, Bool.and_eq_true, htruthy]
  unfold SellerSetup.ProfileFilled
  rw [and_assoc, and_assoc]

theorem business_iff : (db.businesses.find? u).isSome = true ↔ ∃ b ∈ db.businesses.rows, b.userId = u := by
  simp only [Option.isSome_iff_exists, Table.find?_eq_some, Keyed.key]

/-- The charters of a seller. -/
theorem sellerCharters_iff (db : OnboardingDb) (u : UserId) (p : SellerSetup) : ∃ c : Bool,
    charterStatus db u (if p.category = some .faitMaison then [.hygiene, .faitMaison] else [.hygiene]) =
        completeIf c ∧
      (c = true ↔ db.Accepted u .hygiene ∧ (p.IsFaitMaison → db.Accepted u .faitMaison)) := by
  obtain ⟨c, hc, hiff⟩ := charterStatus_eq db u
    (if p.category = some .faitMaison then [.hygiene, .faitMaison] else [.hygiene])
  refine ⟨c, hc, hiff.trans ?_⟩
  unfold SellerSetup.IsFaitMaison
  by_cases hfait : p.category = some .faitMaison
  · simp [hfait]
  · simp [hfait]

theorem seller_verdict {p : SellerSetup} (hp : db.sellerProfiles.find? u = some p) :
    ∃ next steps canList, sellerState db u ⟨p.category, p.kycStatus, (db.businesses.find? u).isSome,
        (db.cuisines.rows.filter fun c => c.userId = u).length⟩ = .seller next steps p.kycStatus canList ∧
      Verdict sellerOrder (fun P => SellerAsks P db p) p.kycStatus next steps canList := by
  obtain rfl : p.userId = u := Table.key_of_find? hp
  obtain ⟨c, hcharter, hc⟩ := sellerCharters_iff db p.userId p
  -- step by step: what makes it done, and what leaves it incomplete
  refine ⟨_, _, _, rfl, verdict_of (fun k => by cases k <;> decide) (fun k => ?_) fun k => ?_⟩
  · cases k with
    | profile => exact completeIf_done.trans (profile_iff hp)
    | addresses => exact completeIf_done.trans hasLiveAddress_iff
    | business => exact skipIf_done (completeIf_done.trans business_iff)
    | cuisines => exact completeIf_done.trans count_pos_iff
    | kycId => exact skipIf_done kycIdStatus_done
    | kycSelfie => exact skipIf_done slotStatus_done
    | charter => exact (congrArg (·.isDone = true) hcharter).to_iff.trans (completeIf_done.trans hc)
  · cases k with
    | profile => exact completeIf_incomplete.trans (not_congr (profile_iff hp))
    | addresses => exact completeIf_incomplete.trans (not_congr hasLiveAddress_iff)
    | business => exact skipIf_incomplete (completeIf_incomplete.trans (not_congr business_iff))
    | cuisines => exact completeIf_incomplete.trans (not_congr count_pos_iff)
    | kycId => exact skipIf_incomplete kycIdStatus_incomplete
    | kycSelfie => exact skipIf_incomplete slotStatus_incomplete
    | charter => exact (congrArg (· = _) hcharter).to_iff.trans (completeIf_incomplete.trans (not_congr hc))

/-- The vehicle's papers. -/
theorem documents_done {vehicle : Option DriverVehicleType} :
    (documentsStatus (documentsOf db u) vehicle).isDone = true ↔ ∃ v, vehicle = some v ∧ (IsMotorized v →
      db.Reviewed u Approved .drivingLicense ∧ db.Reviewed u Approved .carteGrise) := by
  unfold documentsStatus
  cases vehicle with
  | none => simp [StepStatus.isDone]
  | some v =>
    -- only a motorised vehicle has papers to show
    have hmotorized : v ∈ motorizedVehicles ↔ IsMotorized v := by simp [motorizedVehicles, IsMotorized]
    simp only [Option.some.injEq, exists_eq_left']
    split
    · rename_i hv
      rw [aggregate_done]
      simp [hmotorized.mp hv, slotStatus_done]
    · rename_i hv
      exact iff_of_true (by decide) fun h => absurd (hmotorized.mpr h) hv

theorem documents_incomplete {vehicle : Option DriverVehicleType} :
    documentsStatus (documentsOf db u) vehicle = .incomplete ↔ ¬∃ v, vehicle = some v ∧ (IsMotorized v →
      db.Reviewed u NotRejected .drivingLicense ∧ db.Reviewed u NotRejected .carteGrise) := by
  unfold documentsStatus
  cases vehicle with
  | none => simp
  | some v =>
    -- only a motorised vehicle has papers to show
    have hmotorized : v ∈ motorizedVehicles ↔ IsMotorized v := by simp [motorizedVehicles, IsMotorized]
    simp only [Option.some.injEq, exists_eq_left']
    split
    · rename_i hv
      rw [aggregate_incomplete]
      simp only [List.mem_cons, List.not_mem_nil, or_false, eq_comm (a := StepStatus.incomplete),
        slotStatus_incomplete, hmotorized.mp hv, forall_const]
      exact not_and_or.symm
    · rename_i hv
      exact iff_of_false StepStatus.noConfusion (not_not.mpr fun h => absurd (hmotorized.mpr h) hv)

theorem vehicle_iff {p : DriverRecord} (hp : db.driverProfiles.find? u = some p) :
    (p.vehicleType.isSome && (db.driverProfiles.find? u).any fun q => q.dateOfBirth.isSome) = true ↔
      p.vehicleType.isSome ∧ p.dateOfBirth.isSome := by
  rw [hp, Option.any_some, Bool.and_eq_true]

theorem driver_verdict {p : DriverRecord} (hp : db.driverProfiles.find? u = some p) :
    ∃ next steps canDeliver, driverState db u ⟨p.kycStatus, p.vehicleType,
        (db.zones.rows.filter fun z => z.userId = u).length⟩ = .driver next steps p.kycStatus canDeliver ∧
      Verdict driverOrder (fun P => DriverAsks P db p) p.kycStatus next steps canDeliver := by
  obtain rfl : p.userId = u := Table.key_of_find? hp
  obtain ⟨c, hcharter, hc⟩ := charterStatus_eq db p.userId [.punctuality, .care]
  have hc : c = true ↔ db.Accepted p.userId .punctuality ∧ db.Accepted p.userId .care := by simpa using hc
  -- step by step: what makes it done, and what leaves it incomplete
  refine ⟨_, _, _, rfl, verdict_of (fun k => by cases k <;> decide) (fun k => ?_) fun k => ?_⟩
  · cases k with
    | addresses => exact completeIf_done.trans hasLiveAddress_iff
    | vehicle => exact completeIf_done.trans (vehicle_iff hp)
    | zones => exact completeIf_done.trans count_pos_iff
    | kycId => exact kycIdStatus_done
    | kycSelfie => exact slotStatus_done
    | documents => exact documents_done
    | charter => exact (congrArg (·.isDone = true) hcharter).to_iff.trans (completeIf_done.trans hc)
  · cases k with
    | addresses => exact completeIf_incomplete.trans (not_congr hasLiveAddress_iff)
    | vehicle => exact completeIf_incomplete.trans (not_congr (vehicle_iff hp))
    | zones => exact completeIf_incomplete.trans (not_congr count_pos_iff)
    | kycId => exact kycIdStatus_incomplete
    | kycSelfie => exact slotStatus_incomplete
    | documents => exact documents_incomplete
    | charter => exact (congrArg (· = _) hcharter).to_iff.trans (completeIf_incomplete.trans (not_congr hc))

end

/-- **The onboarding verdict.** For every seller and driver, whatever the tables hold, `canList`
(`canDeliver`) is true exactly when the account's verification is approved and every step's
demand is met, with approved documents where there are documents; `next` is the first step of
the role's order that asks for something the user has still to do, an upload that was not
rejected being done; and it is none exactly when no step is incomplete. -/
theorem onboarding_verdict {db : OnboardingDb} {sub : String} {user : User}
    (huser : db.users.rows.find? (fun u => u.supabaseId = sub) = some user) :
    (∀ p, user.role = .seller → db.sellerProfiles.find? user.id = some p → ∃ next steps canList,
      getOnboardingState db sub = .ok (.seller next steps p.kycStatus canList) ∧
      Verdict sellerOrder (fun P => SellerAsks P db p) p.kycStatus next steps canList) ∧
    ∀ p, user.role = .driver → db.driverProfiles.find? user.id = some p → ∃ next steps canDeliver,
      getOnboardingState db sub = .ok (.driver next steps p.kycStatus canDeliver) ∧
      Verdict driverOrder (fun P => DriverAsks P db p) p.kycStatus next steps canDeliver := by
  constructor
  · intro p hrole hp
    obtain ⟨next, steps, canList, hstate, hverdict⟩ := seller_verdict hp
    refine ⟨next, steps, canList, ?_, hverdict⟩
    unfold getOnboardingState
    rw [huser]
    dsimp only
    rw [hrole, hp, ← hstate]
  · intro p hrole hp
    obtain ⟨next, steps, canDeliver, hstate, hverdict⟩ := driver_verdict hp
    refine ⟨next, steps, canDeliver, ?_, hverdict⟩
    unfold getOnboardingState
    rw [huser]
    dsimp only
    rw [hrole, hp, ← hstate]

/-! ## A town -/

def nadia : User := ⟨⟨0, 101⟩, "nadia", "nadia@town", .seller, false, none, none, false, none, none⟩

/-- Her profile: a caterer with a passport. -/
def caterer : SellerSetup where
  userId := ⟨0, 101⟩
  kycStatus := .approved
  deliveryFeeCents := some 300
  isPremium := false
  subscriptionStatus := .none
  subscriptionCurrentPeriodEnd := none
  stripeConnectAccountId := none
  stripeOnboardingCompleted := false
  category := some .traiteur
  displayName := some "Chez Nadia"
  bio := none
  profilePhotoUrl := some "nadia.jpg"
  dateOfBirth := some "1990-01-01"
  neighborhood := none
  deliveryRadiusKm := none
  prepMinMinutes := none
  prepMaxMinutes := none
  hygieneCommitment := none
  faitMaisonCommitment := none

/-- A driver with a scooter, whose identity card still lacks its verso. -/
def scooterDriver : DriverRecord where
  userId := ⟨0, 102⟩
  kycStatus := .pending
  stripeConnectAccountId := none
  stripeOnboardingCompleted := false
  vehicleType := some .scooter
  dateOfBirth := some "1995-01-01"

def wizardTown : OnboardingDb where
  users := ⟨[nadia, ⟨⟨0, 102⟩, "driver", "driver@town", .driver, false, none, none, false, none, none⟩], by decide⟩
  buyerProfiles := .empty
  sellerProfiles := ⟨[caterer], by decide⟩
  driverProfiles := ⟨[scooterDriver], by decide⟩
  businesses := ⟨[⟨⟨0, 101⟩, "Chez Nadia SARL"⟩], by decide⟩
  cuisines := ⟨[⟨⟨0, 101⟩, "ALGERIAN"⟩], by decide⟩
  zones := ⟨[⟨⟨0, 102⟩, "Bastille"⟩], by decide⟩
  addresses := ⟨[⟨⟨0, 120⟩, ⟨0, 101⟩, .sellerPickup, none⟩, ⟨⟨0, 121⟩, ⟨0, 102⟩, .driverHome, none⟩], by decide⟩
  kycDocuments := ⟨[
    ⟨⟨0, 101⟩, .idFront, .approved, .object [("idDocumentType", .string "PASSEPORT")]⟩,
    ⟨⟨0, 101⟩, .selfie, .approved, .null⟩,
    ⟨⟨0, 102⟩, .idFront, .pending, .object [("idDocumentType", .string "CARTE_IDENTITE")]⟩], by decide⟩
  userCharters := ⟨[⟨⟨0, 101⟩, .hygiene, "v1.0"⟩], by decide⟩

theorem caterer_verdict : ∃ next steps canList,
    getOnboardingState wizardTown "nadia" = .ok (.seller next steps .approved canList) ∧
    Verdict sellerOrder (fun P => SellerAsks P wizardTown caterer) .approved next steps canList := by
  have huser : wizardTown.users.rows.find? (fun u => u.supabaseId = "nadia") = some nadia := rfl
  exact (onboarding_verdict huser).1 caterer rfl rfl

/-- The caterer may list; the driver has to photograph the verso. -/
example : (∃ steps, getOnboardingState wizardTown "nadia" = .ok (.seller none steps .approved true)) ∧
    ∃ steps, getOnboardingState wizardTown "driver" = .ok (.driver (some .kycId) steps .pending false) :=
  ⟨⟨_, rfl⟩, ⟨_, rfl⟩⟩

end IncaCook
