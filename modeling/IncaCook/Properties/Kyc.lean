import IncaCook.Library.RelyGuarantee
import IncaCook.Model.Kyc
import IncaCook.Model.System

/-!
# Seller verification cannot be bypassed, but for one edit

A restaurant or a traiteur may list dishes once its `kycStatus` is APPROVED. Of
the steps of the three services only two can make such a seller approved: an
admin's approval that completes the seller's documents, and a profile edit that
turns an approved fait-maison seller, who needed no documents, into one.

Main results:

* `approved_by_admin`: in every interleaving without such an edit, an approved
  restaurant or traiteur has been approved by an admin, and so has each one that
  passes the listing gate;
* `approved_without_review`: two profile edits of a new seller are enough.
-/

namespace IncaCook

open Prog Pool Kyc

/-- A seller whose documents an admin has to review. -/
def SellerSetup.NeedsReview (p : SellerSetup) : Prop :=
  p.category = some .restaurant ∨ p.category = some .traiteur

instance (p : SellerSetup) : Decidable p.NeedsReview :=
  inferInstanceAs (Decidable (_ ∨ _))

/-- The step is an admin's approval of a document of the user, after which all of
the user's documents are approved. -/
def ApprovalOf (u : UserId) (t : StepRecord kycMachine) : Prop :=
  ∃ id d, t.site = .reviewDocument id .approved ∧ t.post.kycDocuments.find? id = some d ∧
    d.userId = u ∧ d.reviewerId ≠ none ∧ ∀ d' ∈ t.post.documentsOf u, d'.reviewState = .approved

/-- An admin has approved the user's documents. -/
def AdminApproved (u : UserId) (trace : List (Entry kycMachine)) : Prop :=
  ∃ e ∈ trace, ApprovalOf u e.toStepRecord

/-- No edit turns an approved fait-maison seller into a restaurant or a traiteur
before an admin has approved the seller's documents. -/
def ReviewedBeforeEdit (trace : List (Entry kycMachine)) : Prop :=
  ∀ later e earlier, trace = later ++ e :: earlier → ∀ u category,
    e.site = .updateProfile u category → category ≠ .faitMaison →
    ∀ p, e.pre.sellerProfiles.find? u = some p → p.category = some .faitMaison →
      p.kycStatus = .approved → AdminApproved u earlier

/-- Nobody is approved yet. -/
def NoneApproved (db : KycDb) : Prop := ∀ p ∈ db.sellerProfiles.rows, p.kycStatus ≠ .approved

/-! ## What a step can do -/

/-- Documents keep their owner. -/
def DocumentsKept (s s' : KycDb) : Prop :=
  ∀ id d, s.kycDocuments.find? id = some d →
    ∃ d', s'.kycDocuments.find? id = some d' ∧ d'.userId = d.userId

/-- The profile of `u` is approved, for a category `c`. -/
def KycDb.ApprovedAs (db : KycDb) (u : UserId) (c : Option SellerCategory) : Prop :=
  ∃ p, db.sellerProfiles.find? u = some p ∧ p.kycStatus = .approved ∧ p.category = c

/-- Where the approval of a seller who is not fait-maison comes from. -/
inductive ApprovalOrigin (u : UserId) (t : StepRecord kycMachine) (c : Option SellerCategory) :
    Prop where
  | kept (before : t.pre.ApprovedAs u c)
  | edited (category : SellerCategory) (site : t.site = .updateProfile u category)
      (other : category ≠ .faitMaison) (b : Option SellerCategory) (before : t.pre.ApprovedAs u b)
  | reviewed (approval : ApprovalOf u t)

structure KycStep (t : StepRecord kycMachine) : Prop where
  documents : DocumentsKept t.pre t.post
  approved : ∀ u c, c ≠ some SellerCategory.faitMaison → t.post.ApprovedAs u c →
    ApprovalOrigin u t c

theorem DocumentsKept.refl (s : KycDb) : DocumentsKept s s := fun _ d hd => ⟨d, hd, rfl⟩

theorem DocumentsKept.trans (a b c : KycDb) (hab : DocumentsKept a b) (hbc : DocumentsKept b c) :
    DocumentsKept a c := by
  intro id d hd
  obtain ⟨d₁, h₁, hu₁⟩ := hab id d hd
  obtain ⟨d₂, h₂, hu₂⟩ := hbc id d₁ h₁
  exact ⟨d₂, h₂, hu₂.trans hu₁⟩

/-- A step that only reads. -/
theorem KycStep.refl (site : KycSite) (s : KycDb) : KycStep ⟨site, s, s⟩ :=
  ⟨DocumentsKept.refl s, fun _ _ _ h => .kept h⟩

@[simp] theorem put_ok {α : Type} {updated : Option α} {store : α → KycDb → KycDb} {s s' : KycDb}
    {x : Unit} : KycTx.put updated store s = .ok (x, s') ↔ ∃ rows, updated = some rows ∧
      s' = store rows s := by
  unfold KycTx.put
  cases updated with
  | none => simp
  | some rows => simp [eq_comm]

@[simp] theorem updateSellerSetup_ok {id : UserId} {f : SellerSetup → SellerSetup}
    {hf : ∀ p, (f p).userId = p.userId} {s s' : KycDb} {x : Unit} :
    updateSellerSetup id f hf s = .ok (x, s') ↔ (∃ p, s.sellerProfiles.find? id = some p) ∧
      s' = { s with sellerProfiles := s.sellerProfiles.update id f hf } := by
  simp [updateSellerSetup, Table.update?_eq_some]

@[simp] theorem updateDriverSetup_ok {id : UserId} {f : DriverSetup → DriverSetup}
    {hf : ∀ p, (f p).userId = p.userId} {s s' : KycDb} {x : Unit} :
    updateDriverSetup id f hf s = .ok (x, s') ↔ (∃ p, s.driverProfiles.find? id = some p) ∧
      s' = { s with driverProfiles := s.driverProfiles.update id f hf } := by
  simp [updateDriverSetup, Table.update?_eq_some]

@[simp] theorem updateDocument_ok {id : KycDocumentId} {f : KycDocument → KycDocument}
    {hf : ∀ d, (f d).id = d.id} {s s' : KycDb} {x : Unit} :
    updateDocument id f hf s = .ok (x, s') ↔ (∃ d, s.kycDocuments.find? id = some d) ∧
      s' = { s with kycDocuments := s.kycDocuments.update id f hf } := by
  simp [updateDocument, Table.update?_eq_some]

theorem documentsKept_update {s : KycDb} {id : KycDocumentId} {f : KycDocument → KycDocument}
    {hf : ∀ d, (f d).id = d.id} (hu : ∀ d, (f d).userId = d.userId) :
    DocumentsKept s { s with kycDocuments := s.kycDocuments.update id f hf } := by
  intro id' d hd
  by_cases h : id' = id
  · subst h
    exact ⟨f d, Table.find?_update_of_eq hd hf, hu d⟩
  · refine ⟨d, ?_, rfl⟩
    show (s.kycDocuments.update id f hf).find? id' = some d
    rw [Table.find?_update_of_ne _ f hf h]
    exact hd

/-- An approval after an update of one profile was there before, or is the update's. -/
theorem approvedAs_update {s : KycDb} {id u : UserId} {f : SellerSetup → SellerSetup}
    {hf : ∀ p, (f p).userId = p.userId} {c : Option SellerCategory}
    (h : KycDb.ApprovedAs { s with sellerProfiles := s.sellerProfiles.update id f hf } u c) :
    s.ApprovedAs u c ∨ u = id ∧ ∃ p, s.sellerProfiles.find? u = some p ∧
      (f p).kycStatus = .approved ∧ (f p).category = c := by
  obtain ⟨p', hp', happ, hcat⟩ := h
  change (s.sellerProfiles.update id f hf).find? u = some p' at hp'
  obtain ⟨p, hp, ⟨hu, rfl⟩ | ⟨-, rfl⟩⟩ := Table.find?_update_some hp'
  · exact Or.inr ⟨hu, p, hp, happ, hcat⟩
  · exact Or.inl ⟨p', hp, happ, hcat⟩

/-! ## The three statements -/

theorem updateProfile_step {cfg : Config} {userId : UserId} {dto : Sellers.UpsertSellerProfileDto}
    {next : Option KycStatus} (hnext : next = some .approved → dto.category = .faitMaison)
    {s s' : KycDb} {x : Unit}
    (hrun : updateSellerSetup userId (Sellers.editedProfile cfg dto next) (fun _ => rfl) s =
      .ok (x, s')) :
    KycStep ⟨.updateProfile userId dto.category, s, s'⟩ := by
  obtain ⟨-, rfl⟩ := updateSellerSetup_ok.mp hrun
  refine ⟨DocumentsKept.refl s, fun u c hc happ => ?_⟩
  rcases approvedAs_update happ with hkept | ⟨rfl, p, hp, hstatus, hcat⟩
  · exact .kept hkept
  · -- the edited profile: its status is the old one, unless the category is fait-maison
    have hdto : dto.category ≠ .faitMaison := by
      rintro heq
      exact hc (hcat.symm.trans (congrArg some heq))
    cases next with
    | none => exact .edited dto.category rfl hdto p.category ⟨p, hp, hstatus, rfl⟩
    | some k =>
      have hk : k = .approved := hstatus
      subst hk
      exact absurd (hnext rfl) hdto

theorem saveDocument_effect {me : Nat} {userId : UserId} {dto : UpsertKycDocumentDto}
    {s s' : KycDb} {x : Unit} (hrun : saveDocument me userId dto s = .ok (x, s')) :
    DocumentsKept s s' ∧ s'.sellerProfiles = s.sellerProfiles := by
  simp only [saveDocument, Stmt.bind_ok, Stmt.get_ok] at hrun
  obtain ⟨db, s₁, ⟨rfl, rfl⟩, hrun⟩ := hrun
  generalize List.find? _ s₁.kycDocuments.rows = existing at hrun
  cases existing with
  | some d =>
    obtain ⟨-, rfl⟩ := updateDocument_ok.mp hrun
    exact ⟨documentsKept_update fun _ => rfl, rfl⟩
  | none =>
    obtain ⟨rows, hrows, rfl⟩ := put_ok.mp hrun
    exact ⟨fun id d hd => ⟨d, Table.find?_insert_of_some hrows hd, rfl⟩, rfl⟩

/-- A reset only takes approvals away. -/
theorem resetRejected_effect {account : Account} {s s' : KycDb} {x : Unit}
    (hrun : resetRejected account s = .ok (x, s')) : s'.kycDocuments = s.kycDocuments ∧
      ∀ u c, s'.ApprovedAs u c → s.ApprovedAs u c := by
  unfold resetRejected at hrun
  split at hrun
  · obtain ⟨-, rfl⟩ := updateSellerSetup_ok.mp hrun
    refine ⟨rfl, fun u c happ => ?_⟩
    rcases approvedAs_update happ with hkept | ⟨-, p, -, hstatus, -⟩
    · exact hkept
    · cases hstatus
  · split at hrun
    · obtain ⟨-, rfl⟩ := updateDriverSetup_ok.mp hrun
      exact ⟨rfl, fun _ _ happ => happ⟩
    · obtain ⟨-, rfl⟩ := Stmt.pure_ok.mp hrun
      exact ⟨rfl, fun _ _ happ => happ⟩

theorem upsertDocument_step {me : Nat} {account : Account} {dto : UpsertKycDocumentDto}
    {s s' : KycDb} {x : Unit} (hrun : upsertDocument me account dto s = .ok (x, s')) :
    KycStep ⟨.upsertDocument account.user.id dto.type, s, s'⟩ := by
  obtain ⟨⟨⟩, s₁, hsave, hreset⟩ := Stmt.bind_ok.mp hrun
  obtain ⟨hdocs, hprofiles⟩ := saveDocument_effect hsave
  obtain ⟨hdocs', happroved⟩ := resetRejected_effect hreset
  refine ⟨?_, fun u c _ happ => .kept ?_⟩
  · show DocumentsKept s s'
    unfold DocumentsKept
    rw [hdocs']
    exact hdocs
  · have h₁ : s₁.ApprovedAs u c := happroved u c happ
    unfold KycDb.ApprovedAs at h₁ ⊢
    rwa [hprofiles] at h₁

theorem aggregateState_approved {states : List KycStatus}
    (h : aggregateState states = .approved) : states ≠ [] ∧ ∀ k ∈ states, k = .approved := by
  unfold aggregateState at h
  split at h
  · cases h
  · split at h
    · cases h
    · split at h
      · cases h
      · rename_i hrejected hpending hlen
        refine ⟨fun hnil => hlen (by simp [hnil]), fun k hk => ?_⟩
        cases k with
        | approved => rfl
        | pending => exact absurd (by simpa using hk) hpending
        | rejected => exact absurd (by simpa using hk) hrejected

theorem mirrorStatus_effect {owner : User} {agg : KycStatus} {s s' : KycDb} {x : Unit}
    (hrun : mirrorStatus owner agg s = .ok (x, s')) : s'.kycDocuments = s.kycDocuments ∧
      ∀ u c, s'.ApprovedAs u c → s.ApprovedAs u c ∨ u = owner.id ∧ agg = .approved := by
  unfold mirrorStatus at hrun
  split at hrun
  · obtain rfl := Stmt.modify_ok.mp hrun
    refine ⟨rfl, fun u c happ => ?_⟩
    rcases approvedAs_update happ with hkept | ⟨hu, p, -, hstatus, -⟩
    · exact Or.inl hkept
    · exact Or.inr ⟨hu, hstatus⟩
  · split at hrun
    · obtain rfl := Stmt.modify_ok.mp hrun
      exact ⟨rfl, fun _ _ happ => Or.inl happ⟩
    · obtain ⟨-, rfl⟩ := Stmt.pure_ok.mp hrun
      exact ⟨rfl, fun _ _ happ => Or.inl happ⟩

theorem reviewedDocument_id (args : TransitionArgs) (reviewerId : UserId) (now : Time)
    (d : KycDocument) : (reviewedDocument args reviewerId now d).id = d.id := rfl

theorem reviewDocument_step {args : TransitionArgs} {reviewerId : UserId} {owner : User}
    {s s' : KycDb} {x : Unit} {d : KycDocument}
    (hd : s.kycDocuments.find? args.documentId = some d) (howner : d.userId = owner.id)
    (hrun : reviewDocument args reviewerId owner s = .ok (x, s')) :
    KycStep ⟨.reviewDocument args.documentId args.newState, s, s'⟩ := by
  simp only [reviewDocument, Stmt.bind_ok, Stmt.get_ok, updateDocument_ok] at hrun
  obtain ⟨_, s₁, ⟨rfl, rfl⟩, ⟨⟩, _, ⟨-, hs₂⟩, _, s₂, ⟨rfl, rfl⟩, hmirror⟩ := hrun
  obtain ⟨hdocs, happroved⟩ := mirrorStatus_effect hmirror
  have hdoc : s'.kycDocuments.find? args.documentId =
      some (reviewedDocument args reviewerId s₁.now d) := by
    rw [hdocs, hs₂]
    exact Table.find?_update_of_eq hd (reviewedDocument_id args reviewerId s₁.now)
  refine ⟨?_, fun u c _ happ => ?_⟩
  · show DocumentsKept s₁ s'
    unfold DocumentsKept
    rw [hdocs, hs₂]
    exact documentsKept_update fun _ => rfl
  · rcases happroved u _ happ with hkept | ⟨rfl, hagg⟩
    · rw [hs₂] at hkept
      exact .kept hkept
    · -- all documents of the owner are approved, so the reviewed one is
      have hall : ∀ d' ∈ s'.documentsOf owner.id, d'.reviewState = .approved := by
        intro d' hd'
        have hsame : s'.documentsOf owner.id = s₂.documentsOf owner.id := by
          unfold KycDb.documentsOf
          rw [hdocs]
        exact (aggregateState_approved hagg).2 _ (List.mem_map_of_mem (hsame ▸ hd'))
      have hmem : reviewedDocument args reviewerId s₁.now d ∈ s'.documentsOf owner.id := by
        unfold KycDb.documentsOf
        rw [List.mem_filter, decide_eq_true_eq]
        exact ⟨Table.mem_of_find? hdoc, howner⟩
      have hstate : args.newState = .approved := hall _ hmem
      exact .reviewed ⟨args.documentId, _, by rw [hstate], hdoc, howner, nofun, hall⟩

/-! ## The handlers -/

/-- Others keep the owners of the documents; the call's own steps are classified. -/
def kycContract : Contract kycMachine where
  rely := DocumentsKept
  guar _ site s s' := KycStep ⟨site, s, s'⟩

theorem kycRead_free {α : Type} {f : KycDb → α} :
    Free kycContract (read KycSite.query f : KycHandler α) :=
  free_read fun _ s => KycStep.refl _ s

theorem upsertProfile_free (cfg : Config) (sub : String) (dto : Sellers.UpsertSellerProfileDto) :
    Free kycContract (Sellers.upsertProfile cfg sub dto) := by
  unfold Sellers.upsertProfile Sellers.assertSeller
  refine free_bind (free_bind kycRead_free fun _ => free_bind free_orThrow fun _ =>
    free_bind free_throwIf fun _ => free_pure) fun userId => ?_
  refine free_bind free_throwIf fun _ => free_bind free_throwIf fun _ =>
    free_bind kycRead_free fun next => ?_
  refine free_await (fun _ s => KycStep.refl _ s) fun _ _ s _ s' hrun => ?_
  refine updateProfile_step (fun hnext => ?_) hrun
  by_contra hcat
  rw [if_neg fun h => hcat h.1] at hnext
  cases hnext

theorem checkSellerSlot_free (profile : Option SellerSetup) (type : KycDocType) :
    Free kycContract (checkSellerSlot profile type) :=
  free_bind free_orThrow fun _ => free_bind free_throwIf fun _ => free_throwIf

theorem checkDriverSlot_free (profile : Option DriverSetup) (type : KycDocType) :
    Free kycContract (checkDriverSlot profile type) :=
  free_bind free_orThrow fun _ =>
    free_ite (free_bind free_orThrow fun _ => free_throwIf) free_pure

theorem upsert_free (me : Nat) (sub : String) (dto : UpsertKycDocumentDto) :
    Free kycContract (Kyc.upsert me sub dto) := by
  unfold Kyc.upsert
  refine free_bind kycRead_free fun _ => free_bind free_orThrow fun account =>
    free_bind free_throwIf fun _ => ?_
  have hsave : Free kycContract (do
      throwIf ((dto.type = .idFront ∨ dto.type = .idBack) ∧ dto.idDocumentType = none)
        (.badRequest "idDocumentType is required for ID_FRONT / ID_BACK")
      await (.upsertDocument account.user.id dto.type) fun _ => upsertDocument me account dto) :=
    free_bind free_throwIf fun _ => free_await (fun _ s => KycStep.refl _ s)
      fun _ _ _ _ _ hrun => upsertDocument_step hrun
  by_cases hrole : account.user.role = .seller
  · rw [if_pos hrole]
    exact free_bind (checkSellerSlot_free _ _) fun _ => hsave
  · rw [if_neg hrole]
    exact free_bind (checkDriverSlot_free _ _) fun _ => hsave

/-- The review acts on the profile of the user whose document it has read. -/
theorem transitionStatus_free (args : TransitionArgs) :
    Free kycContract (transitionStatus args) := by
  refine free_bind kycRead_free fun _ => free_bind free_orThrow fun reviewer h s => ?_
  refine sat_read_bind fun s₁ _ => ⟨KycStep.refl _ s₁, ?_⟩
  refine sat_orThrow_bind (fun _ => trivial) fun ⟨d, owner⟩ hfound => ?_
  obtain ⟨d', hd', hown⟩ := Option.bind_eq_some_iff.mp hfound
  obtain ⟨owner', howner, heq⟩ := Option.map_eq_some_iff.mp hown
  cases heq
  refine sat_throwIf_bind (fun _ => trivial) fun _ => ?_
  refine sat_await fun s₂ hkept _ => ⟨fun _ _ => ⟨KycStep.refl _ s₂, trivial⟩, fun _ s' hrun => ?_⟩
  obtain ⟨d₂, hd₂, hsame⟩ := hkept _ d hd'
  have hid : owner.id = d.userId := Table.key_of_find? howner
  exact ⟨reviewDocument_step hd₂ (hsame.trans hid.symm) hrun, trivial⟩

theorem kycHandle_free (cfg : Config) (me : Nat) (c : KycCall) :
    Free kycContract (kycHandle cfg me c) := by
  cases c with
  | upsertProfile sub dto => exact upsertProfile_free cfg sub dto
  | upsertDocument sub dto => exact upsert_free me sub dto
  | approve id reviewer => exact transitionStatus_free _
  | reject id reviewer reason => exact transitionStatus_free _

/-! ## The law -/

variable {cfg : Config} {s₀ : KycDb}

theorem kyc_steps (actions : List (Pool.Action (kycService cfg))) :
    ∀ e ∈ (poolRun s₀ actions).trace, KycStep e.toStepRecord := by
  intro e he
  obtain ⟨_, hstep⟩ := Pool.sat_step DocumentsKept.refl DocumentsKept.trans
    (fun _ _ _ _ hstep => KycStep.documents hstep) (fun _ => DocumentsKept.refl)
    (fun j c => kycHandle_free cfg j c []) s₀ actions e he
  exact hstep

/-- The invariant of a run without the forbidden edits. -/
def Reviewed (db : KycDb) (trace : List (Entry kycMachine)) : Prop :=
  ∀ u c, c ≠ some SellerCategory.faitMaison → db.ApprovedAs u c → AdminApproved u trace

theorem AdminApproved.cons {u : UserId} {trace : List (Entry kycMachine)} (e : Entry kycMachine)
    (h : AdminApproved u trace) : AdminApproved u (e :: trace) := by
  obtain ⟨e', he', happ⟩ := h
  exact ⟨e', List.mem_cons_of_mem _ he', happ⟩

theorem run_reviewed (h₀ : NoneApproved s₀) (actions : List (Pool.Action (kycService cfg)))
    (hc : ReviewedBeforeEdit (poolRun s₀ actions).trace) :
    Reviewed (poolRun s₀ actions).state (poolRun s₀ actions).trace := by
  refine Pool.history ?_ (fun _ _ _ hI => hI) actions fun later e earlier hsplit hI u c hne happ => ?_
  · rintro u c - ⟨p, hp, happ, -⟩
    exact absurd happ (h₀ p (Table.mem_of_find? hp))
  · have hstep : KycStep e.toStepRecord := kyc_steps actions e (by rw [hsplit]; simp)
    cases hstep.approved u c hne happ with
    | kept before => exact (hI u c hne before).cons e
    | reviewed approval => exact ⟨e, List.mem_cons_self .., approval⟩
    | edited category site other b before =>
      -- an approved seller is edited: a fait-maison one is what the condition is about
      by_cases hb : b = some .faitMaison
      · obtain ⟨p, hp, hstatus, hcat⟩ := before
        exact (hc later e earlier hsplit u category site other p hp (hcat.trans hb) hstatus).cons e
      · exact (hI u b hb before).cons e

theorem SellerSetup.NeedsReview.category {p : SellerSetup} (h : p.NeedsReview) :
    p.category ≠ some .faitMaison := by
  rcases h with h | h
  · simp [h]
  · simp [h]

/-- A seller who passes the listing gate has an approved profile. -/
theorem assertSeller_approved {db : KycDb} {sub : String} {opts : Listings.AssertSellerOptions}
    {w : Nat → Answer} {seller : Listings.AssertedSeller} (hopts : opts.requireKycApproved = true)
    (hrun : (Listings.assertSeller sub opts).Returns w db seller) :
    db.ApprovedAs seller.sellerId seller.profile.category := by
  unfold Listings.assertSeller at hrun
  simp only [returns_read_bind, returns_orThrow_bind, returns_throwIf_bind, returns_pure] at hrun
  obtain ⟨account, haccount, -, profile, hprofile, hkyc, -, rfl⟩ := hrun
  obtain ⟨user, -, rfl⟩ := Option.map_eq_some_iff.mp haccount
  refine ⟨profile, hprofile, ?_, rfl⟩
  by_contra hstatus
  exact hkyc ⟨hopts, hstatus⟩

/-- **An approved restaurant or traiteur was approved by an admin.** In every
interleaving of profile edits, document uploads and reviews in which no edit
turns an approved fait-maison seller into a restaurant or a traiteur before an
admin has approved the seller's documents, every approved restaurant or
traiteur, and every one that passes the listing gate, has been approved by an
admin. -/
theorem approved_by_admin (h₀ : NoneApproved s₀) (actions : List (Pool.Action (kycService cfg)))
    (hc : ReviewedBeforeEdit (poolRun s₀ actions).trace) :
    (∀ p ∈ (poolRun s₀ actions).state.sellerProfiles.rows, p.NeedsReview →
      p.kycStatus = .approved → AdminApproved p.userId (poolRun s₀ actions).trace) ∧
    ∀ sub opts w seller, opts.requireKycApproved = true →
      ((Listings.assertSeller sub opts).exec w (poolRun s₀ actions).state).result = .ok seller →
      seller.profile.NeedsReview → AdminApproved seller.sellerId (poolRun s₀ actions).trace := by
  have hI := run_reviewed h₀ actions hc
  refine ⟨fun p hp hneeds happ => ?_, fun sub opts w seller hopts hrun hneeds => ?_⟩
  · exact hI p.userId p.category hneeds.category ⟨p, Table.find?_of_mem hp, happ, rfl⟩
  · exact hI seller.sellerId _ hneeds.category (assertSeller_approved hopts hrun)

/-! ## The edit that bypasses it -/

/-- A new seller, and an admin. -/
def newSeller : KycDb where
  now := 0
  users := ⟨[
    ⟨⟨0, 101⟩, "seller", "seller@town", .seller, false, none, none, false, none, none⟩,
    ⟨⟨0, 109⟩, "admin", "admin@town", .admin, false, none, none, false, none, none⟩], by decide⟩
  sellerProfiles := ⟨[⟨⟨⟨0, 101⟩, .pending, none, false, .active, none, none, false⟩, none, none,
    none, none, none, none, none, none, none, none, none⟩], by decide⟩
  driverProfiles := .empty
  kycDocuments := .empty

theorem newSeller_noneApproved : NoneApproved newSeller := by
  unfold NoneApproved
  decide

/-- The profile form, with a category. -/
def profileForm (category : SellerCategory) : Sellers.UpsertSellerProfileDto :=
  ⟨category, "Chez Lina", none, "avatars/lina", "1990-01-01", none, none, none, none, none, none, none⟩

/-- A call that runs `steps` steps, with no other in between. -/
def runAlone (j : Nat) (c : KycCall) (steps : Nat) : List (Pool.Action (kycService smallTownConfig)) :=
  .arrive c :: List.replicate steps (.run j ⟨true, "token", ""⟩)

/-- The seller signs up as a restaurant, sends a document, and the admin approves it. -/
def reviewedSeller : List (Pool.Action (kycService smallTownConfig)) :=
  runAlone 0 (.upsertProfile "seller" (profileForm .restaurant)) 3 ++
  runAlone 1 (.upsertDocument "seller" ⟨.selfie, "kyc/selfie", none⟩) 2 ++
  runAlone 2 (.approve ⟨1, 0⟩ "admin") 3

/-- The seller edits the profile twice: fait-maison first, then restaurant. -/
def editedSeller : List (Pool.Action (kycService smallTownConfig)) :=
  runAlone 0 (.upsertProfile "seller" (profileForm .faitMaison)) 3 ++
  runAlone 1 (.upsertProfile "seller" (profileForm .restaurant)) 3

/-- The reviewed restaurant is approved, and by an admin. -/
theorem reviewed_restaurant_approved :
    AdminApproved ⟨0, 101⟩ (poolRun newSeller reviewedSeller).trace := by
  have hnever : ∀ e ∈ (poolRun newSeller reviewedSeller).trace,
      ∀ p ∈ e.pre.sellerProfiles.rows, p.category ≠ some .faitMaison := by
    decide +kernel
  have hc : ReviewedBeforeEdit (poolRun newSeller reviewedSeller).trace := by
    intro later e earlier hsplit u category _ _ p hp hcat _
    exact absurd hcat (hnever e (by rw [hsplit]; simp) p (Table.mem_of_find? hp))
  have happ : ∃ p ∈ (poolRun newSeller reviewedSeller).state.sellerProfiles.rows,
      p.userId = ⟨0, 101⟩ ∧ p.NeedsReview ∧ p.kycStatus = .approved := by
    decide +kernel
  obtain ⟨p, hp, hid, hneeds, hstatus⟩ := happ
  exact hid ▸ (approved_by_admin newSeller_noneApproved reviewedSeller hc).1 p hp hneeds hstatus

/-- **Two profile edits make an approved restaurant.** No admin has seen a document. -/
theorem approved_without_review : NoneApproved newSeller ∧
    ¬∀ p ∈ (poolRun newSeller editedSeller).state.sellerProfiles.rows, p.NeedsReview →
      p.kycStatus = .approved → AdminApproved p.userId (poolRun newSeller editedSeller).trace := by
  refine ⟨newSeller_noneApproved, fun hclaim => ?_⟩
  have hsites : ∀ site ∈ (poolRun newSeller editedSeller).trace.map (fun e => e.site),
      site ∈ [KycSite.query, .updateProfile ⟨0, 101⟩ .faitMaison,
        .updateProfile ⟨0, 101⟩ .restaurant] := by
    decide +kernel
  have happ : ∃ p ∈ (poolRun newSeller editedSeller).state.sellerProfiles.rows,
      p.NeedsReview ∧ p.kycStatus = .approved := by
    decide +kernel
  obtain ⟨p, hp, hneeds, hstatus⟩ := happ
  obtain ⟨e, he, id, d, hsite, -⟩ := hclaim p hp hneeds hstatus
  have hmem := hsites e.site (List.mem_map_of_mem he)
  rw [hsite] at hmem
  simp at hmem

end IncaCook
