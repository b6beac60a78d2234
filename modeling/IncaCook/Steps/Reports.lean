import IncaCook.Library.Statement
import IncaCook.Model.Reports

/-!
# The steps of the moderation reports

`ReportStep` lists what one step of a call can do, given the steps that the call took before it: it
files a report that it has checked, or it puts a review on one.

Main result:

* `reportHandle_sat`: every call takes only such steps.
-/

namespace IncaCook

open Prog Reports

/-- The call is one of the user: it has looked the login up. -/
def CalledFor (h : List (StepRecord reportMachine)) (sub : String) (u : UserId) : Prop :=
  ∃ t ∈ h, ∃ user, t.pre.userBySupabaseId sub = some user ∧ user.id = u

/-- What a report asks of the listing, if it is on one, has been seen: the listing was there, and for
"non fait maison" it was a home-made dish. -/
def ListingSeen (h : List (StepRecord reportMachine)) (dto : CreateReportDto) : Prop :=
  (∀ id, dto.listingId = some id → ∃ t ∈ h, ∃ listing, t.pre.listings.find? id = some listing ∧
    (dto.type = .nonFaitMaison → listing.category = .faitMaison)) ∧
  (dto.type = .nonFaitMaison → dto.listingId.isSome = true)

/-- The call has seen no pending report of the kind. -/
def NoneSeen (h : List (StepRecord reportMachine)) (reporter : UserId) (targetId : Ulid) (reason : ReportReason) :
    Prop :=
  ∃ t ∈ h, t.site = .findPending reporter targetId reason ∧ t.post.findPending reporter targetId reason = none

/-- What one step of call number `me` can do after its steps `h`. -/
inductive ReportStep (me : Nat) (call : ReportCall) (h : List (StepRecord reportMachine)) :
    ReportSite → ReportDb → ReportDb → Prop where
  /-- a read, or a statement that failed -/
  | noop (site : ReportSite) (s : ReportDb) : ReportStep me call h site s s
  | file {sub : String} {dto : CreateReportDto} {s : ReportDb} (r : Report) (reports : Table Report)
      (hcall : call = .create sub dto) (hreporter : CalledFor h sub r.reporterId)
      (htarget : dto.target = some (r.targetType, r.targetId)) (hlisting : ListingSeen h dto)
      (hnone : NoneSeen h r.reporterId r.targetId dto.type)
      (hrow : r.id = generateUlid me 0 ∧ r.reason = dto.type ∧ r.description = dto.reason ∧ r.status = .pending ∧
        r.reviewedBy = none ∧ r.adminNote = none)
      (hnew : s.reports.insert? r = some reports) :
      ReportStep me call h .file s { s with reports }
  | review {sub : String} {dto : UpdateReportStatusDto} {s : ReportDb} (id : Ulid) (reviewer : Option User)
      (hcall : call = .updateStatus id dto sub) (hstatus : dto.status = .resolved ∨ dto.status = .rejected)
      (hreviewer : ∀ user, reviewer = some user → CalledFor h sub user.id) :
      ReportStep me call h (.review id) s { s with reports := s.reports.update id (reviewed dto reviewer) }

/-- The contract of a call: it takes such steps, whatever the others do. -/
def moderationContract (me : Nat) (call : ReportCall) : Contract reportMachine where
  rely _ _ := True
  guar h site s s' := ReportStep me call h site s s'

section

variable {α : Type} {me : Nat} {call : ReportCall} {h : List (StepRecord reportMachine)} {s s' : ReportDb}
  {t : StepRecord reportMachine}

theorem report_noop (h : List (StepRecord reportMachine)) (site : ReportSite) (s : ReportDb) :
    (moderationContract me call).guar h site s s :=
  .noop site s

theorem CalledFor.cons {sub : String} {u : UserId} (hr : CalledFor h sub u) : CalledFor (t :: h) sub u := by
  obtain ⟨t', ht', hrest⟩ := hr
  exact ⟨t', List.mem_cons_of_mem _ ht', hrest⟩

theorem ListingSeen.cons {dto : CreateReportDto} (hl : ListingSeen h dto) : ListingSeen (t :: h) dto := by
  refine ⟨fun id hid => ?_, hl.2⟩
  obtain ⟨t', ht', hrest⟩ := hl.1 id hid
  exact ⟨t', List.mem_cons_of_mem _ ht', hrest⟩

/-! ## The two statements -/

theorem insertReport_ok {r : Report} {x : Unit} (hrun : insertReport r s = .ok (x, s')) :
    ∃ reports, s.reports.insert? r = some reports ∧ s' = { s with reports } := by
  simp only [insertReport, Stmt.bind_ok, Stmt.get_ok, Stmt.orThrow_ok, Stmt.set_ok] at hrun
  obtain ⟨db, _, ⟨hdb, rfl⟩, reports, _, ⟨hnew, rfl⟩, rfl⟩ := hrun
  subst hdb
  exact ⟨reports, hnew, rfl⟩

theorem reviewReport_ok {id : Ulid} {dto : UpdateReportStatusDto} {reviewer : Option User} {x : Unit}
    (hrun : reviewReport id dto reviewer s = .ok (x, s')) :
    s' = { s with reports := s.reports.update id (reviewed dto reviewer) } := by
  simp only [reviewReport, Stmt.bind_ok, Stmt.get_ok, Stmt.orThrow_ok, Stmt.set_ok] at hrun
  obtain ⟨db, _, ⟨hdb, rfl⟩, _, _, ⟨-, rfl⟩, rfl⟩ := hrun
  subst hdb
  rfl

/-! ## Filing -/

/-- The target of a listing report is its listing. -/
theorem checkListing_bind {dto : CreateReportDto} {k : Unit → ReportHandler α} {sub : String} {u : UserId}
    (hreporter : CalledFor h sub u)
    (hk : ∀ h s, CalledFor h sub u → ListingSeen h dto → Sat (moderationContract me call) anyPost (k ()) h s) :
    Sat (moderationContract me call) anyPost (checkListing dto >>= k) h s := by
  unfold checkListing
  by_cases htype : dto.type = .nonFaitMaison
  · rw [if_pos htype]
    cases hid : dto.listingId with
    | none => trivial
    | some id =>
      refine sat_bind (sat_read_bind fun s' _ => ⟨report_noop _ _ _, ?_⟩)
      refine sat_orThrow_bind (fun _ => trivial) fun listing hlisting => ?_
      refine sat_throwIf (fun _ => trivial) fun hcategory => ?_
      refine hk _ _ hreporter.cons ⟨fun id' hid' => ?_, fun _ => by rw [hid]; rfl⟩
      rw [hid] at hid'
      cases hid'
      exact ⟨_, List.mem_cons_self, listing, hlisting, fun _ => of_not_not hcategory⟩
  · rw [if_neg htype]
    cases hid : dto.listingId with
    | none =>
      refine hk h s hreporter ⟨fun id hid' => ?_, fun hother => absurd hother htype⟩
      rw [hid] at hid'
      cases hid'
    | some id =>
      refine sat_bind (sat_read_bind fun s' _ => ⟨report_noop _ _ _, ?_⟩)
      refine sat_orThrow_bind (fun _ => trivial) fun listing hlisting => ?_
      refine hk _ _ hreporter.cons ⟨fun id' hid' => ?_, fun hother => absurd hother htype⟩
      rw [hid] at hid'
      cases hid'
      exact ⟨_, List.mem_cons_self, listing, hlisting, fun hother => absurd hother htype⟩

theorem createReport_sat (me : Nat) (sub : String) (dto : CreateReportDto) (s : ReportDb) :
    Sat (moderationContract me (.create sub dto)) anyPost (create me sub dto) [] s := by
  refine sat_read_bind fun s' _ => ⟨report_noop _ _ _, ?_⟩
  refine sat_orThrow_bind (fun _ => trivial) fun reporter hreporter => ?_
  refine sat_orThrow_bind (fun _ => trivial) fun target htarget => ?_
  have hcaller : CalledFor [⟨.query, s', s'⟩] sub reporter.id := ⟨_, List.mem_cons_self, reporter, hreporter, rfl⟩
  refine checkListing_bind hcaller fun h s hcaller hlisting => ?_
  refine sat_read_bind fun s' _ => ⟨report_noop _ _ _, ?_⟩
  refine sat_throwIf_bind (fun _ => trivial) fun hdup => ?_
  refine sat_bind_free (sat_await fun s'' _ _ => ⟨fun _ _ => ⟨report_noop _ _ _, trivial⟩, ?_⟩) fun _ => free_pure
  intro _ s₁ hrun
  obtain ⟨reports, hnew, rfl⟩ := insertReport_ok hrun
  have hnone : s'.findPending reporter.id target.2 dto.type = none := by simpa using hdup
  exact ⟨.file _ reports rfl hcaller.cons htarget hlisting.cons ⟨_, List.mem_cons_self, rfl, hnone⟩
    ⟨rfl, rfl, rfl, rfl, rfl, rfl⟩ hnew, trivial⟩

/-! ## Reviewing -/

theorem updateStatus_sat (me : Nat) (id : Ulid) (dto : UpdateReportStatusDto) (sub : String) (s : ReportDb) :
    Sat (moderationContract me (.updateStatus id dto sub)) anyPost (updateStatus id dto sub) [] s := by
  refine sat_throwIf_bind (fun _ => trivial) fun hstatus => ?_
  refine sat_read_bind fun s' _ => ⟨report_noop _ _ _, ?_⟩
  refine sat_orThrow_bind (fun _ => trivial) fun _ _ => ?_
  refine sat_read_bind fun s'' _ => ⟨report_noop _ _ _, ?_⟩
  refine sat_bind_free (sat_await fun s₁ _ _ => ⟨fun _ _ => ⟨report_noop _ _ _, trivial⟩, ?_⟩) fun _ => free_pure
  intro _ s₂ hrun
  rw [reviewReport_ok hrun]
  refine ⟨.review id _ rfl ?_ fun user huser => ⟨_, List.mem_cons_self, user, huser, rfl⟩, trivial⟩
  by_cases hresolved : dto.status = .resolved
  · exact .inl hresolved
  · exact .inr (of_not_not fun hrejected => hstatus ⟨hresolved, hrejected⟩)

/-- **Every call takes only the steps that `ReportStep` lists.** -/
theorem reportHandle_sat (me : Nat) (call : ReportCall) (s : ReportDb) :
    Sat (moderationContract me call) anyPost (reportHandle me call) [] s := by
  cases call with
  | create sub dto => exact createReport_sat me sub dto s
  | updateStatus id dto sub => exact updateStatus_sat me id dto sub s

end

end IncaCook
