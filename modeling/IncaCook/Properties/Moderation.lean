import IncaCook.Steps.Reports

/-!
# Reports and their reviews

Any number of calls file and review reports at once. The look for a pending report and the filing are
two steps, so what the look promises holds only for calls that do not overlap; the rest holds of every
interleaving.

Main results:

* `report_has_author`: every report is what somebody filed, with what it needs seen before, and every
  review is that of a call;
* `reported_twice_overlapped`: two pending reports of one kind come from calls that overlapped;
* `changed_by_review`: no report is lost, and nothing but a review of it changes one.
-/

namespace IncaCook

open Prog Reports

/-- Of one reporter, on one target, for one reason. -/
def SameKind (r r' : Report) : Prop :=
  r.reporterId = r'.reporterId ∧ r.targetId = r'.targetId ∧ r.reason = r'.reason

/-- The step has filed the report. -/
def Files (e : Entry reportMachine) (r : Report) : Prop :=
  e.site = .file ∧ r.id = generateUlid e.thread 0

section

variable {me : Nat} {call : ReportCall} {h : List (StepRecord reportMachine)} {site : ReportSite}
  {s s' : ReportDb} {r : Report}

/-! ## What a step does to the reports -/

/-- The reports after a review: the old ones, but for the one that it is on. -/
theorem of_mem_reviewed {id : Ulid} {dto : UpdateReportStatusDto} {reviewer : Option User}
    (hr : r ∈ (s.reports.update id (reviewed dto reviewer)).rows) :
    r ∈ s.reports.rows ∨ ∃ r₀ ∈ s.reports.rows, r₀.id = id ∧ r = reviewed dto reviewer r₀ := by
  obtain ⟨r₀, hr₀, ⟨hid, rfl⟩ | ⟨-, rfl⟩⟩ := Table.mem_update_cases hr
  · exact .inr ⟨r₀, hr₀, hid, rfl⟩
  · exact .inl hr₀

/-- A pending report was so before the step, or the step files it, having seen none of its kind. -/
theorem ReportStep.pending (hstep : ReportStep me call h site s s') (hr : r ∈ s'.reports.rows)
    (hpending : r.status = .pending) :
    r ∈ s.reports.rows ∨ site = .file ∧ r.id = generateUlid me 0 ∧ NoneSeen h r.reporterId r.targetId r.reason := by
  cases hstep with
  | noop _ _ => exact .inl hr
  | file new reports _ _ _ _ hnone hrow hnew =>
    rcases (Table.mem_insert hnew).mp hr with rfl | hr
    · rw [← hrow.2.1] at hnone
      exact .inr ⟨rfl, hrow.1, hnone⟩
    · exact .inl hr
  | review id reviewer _ hstatus _ =>
    rcases of_mem_reviewed hr with hr | ⟨r₀, -, -, rfl⟩
    · exact .inl hr
    · -- a review never leaves a report pending
      rcases hstatus with hstatus | hstatus
      · cases hstatus.symm.trans hpending
      · cases hstatus.symm.trans hpending

/-- A report outlives the step, as it was or with the review that the step puts on it. -/
theorem ReportStep.kept (hstep : ReportStep me call h site s s') (hr : r ∈ s.reports.rows) :
    r ∈ s'.reports.rows ∨ ∃ dto sub reviewer, call = .updateStatus r.id dto sub ∧ reviewed dto reviewer r ∈ s'.reports.rows ∧
      (dto.status = .resolved ∨ dto.status = .rejected) ∧ ∀ user, reviewer = some user → CalledFor h sub user.id := by
  cases hstep with
  | noop _ _ => exact .inl hr
  | file new reports _ _ _ _ _ _ hnew => exact .inl ((Table.mem_insert hnew).mpr (.inr hr))
  | review i reviewer hcall hstatus hreviewer =>
    rename_i sub dto
    by_cases hid : r.id = i
    · have hnow : reviewed dto reviewer r ∈ (s.reports.update i (reviewed dto reviewer)).rows :=
        Table.mem_update.mpr ⟨r, hr, if_pos hid⟩
      rw [← hid] at hcall
      exact .inr ⟨dto, sub, reviewer, hcall, hnow, hstatus, hreviewer⟩
    · have hsame : r ∈ (s.reports.update i (reviewed dto reviewer)).rows :=
        Table.mem_update.mpr ⟨r, hr, if_neg hid⟩
      exact .inl hsame

/-! ## Runs -/

theorem report_step {s₀ : ReportDb} {actions : List (Pool.Action reportService)}
    {later earlier : List (Entry reportMachine)} {e : Entry reportMachine}
    (hsplit : (poolRun s₀ actions).trace = later ++ e :: earlier) :
    ∃ c, (poolRun s₀ actions).call? e.thread = some c ∧
      ReportStep e.thread c (Pool.ownSteps e.thread earlier) e.site e.pre e.post :=
  Pool.own_step (C := moderationContract) (fun _ _ _ _ => trivial) reportHandle_sat hsplit

/-- Nobody but the services writes the reports. -/
theorem applyReportEvent_reports (e : ReportEvent) (s : ReportDb) : (applyReportEvent e s).reports = s.reports := by
  cases e
  all_goals rfl

theorem mem_reports_event (e : ReportEvent) (s : ReportDb) :
    r ∈ (applyReportEvent e s).reports.rows ↔ r ∈ s.reports.rows := by
  rw [applyReportEvent_reports]

/-! ## Authors -/

/-- The step, after those of `earlier`, is that of a call which has filed the report. -/
def FiledBy (p : Pool reportService) (r : Report) (e : Entry reportMachine) (earlier : List (Entry reportMachine)) :
    Prop :=
  ∃ sub dto, p.call? e.thread = some (.create sub dto) ∧ Files e r ∧
    CalledFor (Pool.ownSteps e.thread earlier) sub r.reporterId ∧ dto.target = some (r.targetType, r.targetId) ∧
    ListingSeen (Pool.ownSteps e.thread earlier) dto ∧ r.reason = dto.type ∧ r.description = dto.reason

/-- The step, after those of `earlier`, is that of a call which has put this review on the report. -/
def ReviewedBy (p : Pool reportService) (r : Report) (e : Entry reportMachine)
    (earlier : List (Entry reportMachine)) : Prop :=
  ∃ dto sub, p.call? e.thread = some (.updateStatus r.id dto sub) ∧
    (dto.status = .resolved ∨ dto.status = .rejected) ∧ r.status = dto.status ∧ r.adminNote = dto.adminNote ∧
    ∀ u, r.reviewedBy = some u → CalledFor (Pool.ownSteps e.thread earlier) sub u

/-- Every report was filed by a step of the trace, and is as it was then, or as the last review left it. -/
def Authored (p : Pool reportService) (s : ReportDb) (trace : List (Entry reportMachine)) : Prop :=
  ∀ r ∈ s.reports.rows, ∃ later e earlier, trace = later ++ e :: earlier ∧ FiledBy p r e earlier ∧
    (r.status = .pending ∧ r.reviewedBy = none ∧ r.adminNote = none ∨
      ∃ after e' before, later = after ++ e' :: before ∧ ReviewedBy p r e' (before ++ e :: earlier))

theorem Authored.cons {p : Pool reportService} {trace : List (Entry reportMachine)} (hs : Authored p s trace)
    (e : Entry reportMachine) (hr : r ∈ s.reports.rows) :
    ∃ later e₁ earlier, e :: trace = later ++ e₁ :: earlier ∧ FiledBy p r e₁ earlier ∧
      (r.status = .pending ∧ r.reviewedBy = none ∧ r.adminNote = none ∨
        ∃ after e' before, later = after ++ e' :: before ∧ ReviewedBy p r e' (before ++ e₁ :: earlier)) := by
  obtain ⟨later, e₁, earlier, rfl, hfiled, hstate⟩ := hs r hr
  refine ⟨e :: later, e₁, earlier, rfl, hfiled, ?_⟩
  rcases hstate with hnew | ⟨after, e', before, rfl, hreviewed⟩
  · exact .inl hnew
  · exact .inr ⟨e :: after, e', before, rfl, hreviewed⟩

/-- **Every report has an author, and every review.** In every interleaving that starts without reports, each
report was filed by a call of the user whom it names, on the target and for the reason of that call; a listing
that it is on was there when the call looked, and was a home-made dish if the reason is "non fait maison", which
is never given without a listing. The report is pending, with neither reviewer nor note, or it is as a later
call left it that reviewed this very report: resolved or rejected, with the note of that call, and the reviewer,
if there is one, is the user behind its login. -/
theorem report_has_author (s₀ : ReportDb) (hstart : s₀.reports.rows = [])
    (actions : List (Pool.Action reportService)) :
    Authored (poolRun s₀ actions) (poolRun s₀ actions).state (poolRun s₀ actions).trace := by
  have hnone : Authored (poolRun s₀ actions) s₀ [] := by
    intro r hr
    rw [hstart] at hr
    exact absurd hr List.not_mem_nil
  refine Pool.history (S := reportService) (I := fun s trace => Authored (poolRun s₀ actions) s trace) hnone ?_
    actions ?_
  · intro e s trace hs r hr
    exact hs r ((mem_reports_event e s).mp hr)
  · intro later e earlier hsplit hpre r hr
    obtain ⟨c, hc, hstep⟩ := report_step hsplit
    generalize hsite : e.site = site at hstep
    generalize hpost : e.post = s' at hstep hr
    -- a report that is not of this step keeps its author and its review
    cases hstep with
    | noop _ _ => exact hpre.cons e hr
    | file new reports hcall hreporter htarget hlisting _ hrow hnew =>
      rename_i sub dto _
      obtain ⟨hid, hreason, hdescription, hfresh⟩ := hrow
      rcases (Table.mem_insert hnew).mp hr with rfl | hr
      · refine ⟨[], e, earlier, rfl, ⟨sub, dto, ?_, ⟨hsite, hid⟩, hreporter, htarget, hlisting, hreason,
          hdescription⟩, .inl hfresh⟩
        rw [hc, hcall]
      · exact hpre.cons e hr
    | review i reviewer hcall hstatus hreviewer =>
      rename_i sub dto
      rcases of_mem_reviewed hr with hr | ⟨r₀, hr₀, hid, rfl⟩
      · exact hpre.cons e hr
      · -- the new review takes the place of whatever the report was before
        obtain ⟨between, e₁, before, rfl, hfiled, -⟩ := hpre r₀ hr₀
        refine ⟨e :: between, e₁, before, rfl, hfiled, .inr ⟨[], e, between, rfl, dto, sub, ?_, hstatus, rfl, rfl,
          fun u hu => ?_⟩⟩
        · rw [hc, hcall, ← hid]
          rfl
        · obtain ⟨user, huser, rfl⟩ := Option.map_eq_some_iff.mp hu
          exact hreviewer user huser

/-! ## The same report twice -/

/-- A pending report was there after an earlier step, or has been filed since. -/
theorem pending_since {s₀ : ReportDb} {actions : List (Pool.Action reportService)}
    {later after before : List (Entry reportMachine)} {e look : Entry reportMachine} {r : Report}
    (hsplit : (poolRun s₀ actions).trace = later ++ e :: (after ++ look :: before))
    (hr : r ∈ e.pre.reports.rows) (hpending : r.status = .pending) :
    r ∈ look.post.reports.rows ∨ ∃ e' ∈ after, Files e' r := by
  by_cases hthen : r ∈ look.post.reports.rows
  · exact .inl hthen
  -- it was missing then, and only who files it ends that
  have hsince := Pool.holds_until (S := reportService) (P := fun s : ReportDb => r ∉ s.reports.rows)
    (E := fun e => Files e r) (fun e s hnone hr => hnone ((mem_reports_event e s).mp hr)) actions
    (fun e' he' hnone => ?_) hsplit hthen
  · exact .inr (hsince.resolve_left fun hnone => hnone hr)
  · obtain ⟨later', earlier', hsplit'⟩ := List.append_of_mem he'
    obtain ⟨c, -, hstep⟩ := report_step hsplit'
    by_cases hnow : r ∈ e'.post.reports.rows
    · rcases hstep.pending hnow hpending with hold | ⟨hsite, hid, -⟩
      · exact absurd hold hnone
      · exact .inr ⟨hsite, hid⟩
    · exact .inl hnow

/-- The call of `r` has looked for a report like it, then `r'` was filed, and then `r`. -/
def FiledUnseen (trace : List (Entry reportMachine)) (r r' : Report) : Prop :=
  ∃ later e after look before, trace = later ++ e :: (after ++ look :: before) ∧ Files e r ∧
    look.thread = e.thread ∧ look.site = .findPending r.reporterId r.targetId r.reason ∧ ∃ e' ∈ after, Files e' r'

theorem FiledUnseen.cons {trace : List (Entry reportMachine)} {r r' : Report} (hu : FiledUnseen trace r r')
    (e : Entry reportMachine) : FiledUnseen (e :: trace) r r' := by
  obtain ⟨later, e₁, after, look, before, rfl, hrest⟩ := hu
  exact ⟨e :: later, e₁, after, look, before, rfl, hrest⟩

/-- A report that is filed while another of its kind is pending has been looked for before that one came. -/
theorem filed_unseen {s₀ : ReportDb} {actions : List (Pool.Action reportService)}
    {later earlier : List (Entry reportMachine)} {e : Entry reportMachine} {r r' : Report}
    (hsplit : (poolRun s₀ actions).trace = later ++ e :: earlier) (hfiles : Files e r)
    (hnone : NoneSeen (Pool.ownSteps e.thread earlier) r.reporterId r.targetId r.reason)
    (hr' : r' ∈ e.pre.reports.rows) (hpending : r'.status = .pending) (hkind : SameKind r' r) :
    FiledUnseen (e :: earlier) r r' := by
  obtain ⟨t, ht, hsite, hfound⟩ := hnone
  obtain ⟨look, hlook, hthread, rfl⟩ := Pool.mem_of_ownSteps ht
  obtain ⟨after, before, rfl⟩ := List.append_of_mem hlook
  refine ⟨[], e, after, look, before, rfl, hfiles, hthread, hsite, ?_⟩
  rcases pending_since hsplit hr' hpending with hthen | hsince
  · -- the look would have found it
    have hnot := List.find?_eq_none.mp hfound r' hthen
    obtain ⟨hreporter, htarget, hreason⟩ := hkind
    simp [Report.isOf, hreporter, htarget, hreason, hpending] at hnot
  · exact hsince

/-- Two pending reports of one kind: one of them was filed unseen by the other's call. -/
def TwinsUnseen (s : ReportDb) (trace : List (Entry reportMachine)) : Prop :=
  ∀ r ∈ s.reports.rows, ∀ r' ∈ s.reports.rows, r.status = .pending → r'.status = .pending → SameKind r r' → r ≠ r' →
    FiledUnseen trace r r' ∨ FiledUnseen trace r' r

/-- **The same thing is reported twice only at once.** In every interleaving that starts without reports, two
different reports of one user on one target for one reason are pending together only if their calls have
overlapped: one of the two looked for such a report, then the other was filed, and then the first. -/
theorem reported_twice_overlapped (s₀ : ReportDb) (hstart : s₀.reports.rows = [])
    (actions : List (Pool.Action reportService)) :
    TwinsUnseen (poolRun s₀ actions).state (poolRun s₀ actions).trace := by
  have hnone : TwinsUnseen s₀ [] := by
    intro r hr
    rw [hstart] at hr
    exact absurd hr List.not_mem_nil
  refine Pool.history (S := reportService) (I := fun s trace => TwinsUnseen s trace) hnone ?_ actions ?_
  · intro e s trace hs r hr r' hr'
    exact hs r ((mem_reports_event e s).mp hr) r' ((mem_reports_event e s).mp hr')
  · intro later e earlier hsplit hpre r hr r' hr' hpending hpending' hkind hne
    obtain ⟨c, -, hstep⟩ := report_step hsplit
    -- at most one of the two is of this step, since a step files under one id
    rcases hstep.pending hr hpending with hold | ⟨hsite, hid, hnone⟩
    · rcases hstep.pending hr' hpending' with hold' | ⟨hsite', hid', hnone'⟩
      · rcases hpre r hold r' hold' hpending hpending' hkind hne with hunseen | hunseen
        · exact .inl (hunseen.cons e)
        · exact .inr (hunseen.cons e)
      · exact .inr (filed_unseen hsplit ⟨hsite', hid'⟩ hnone' hold hpending hkind)
    · rcases hstep.pending hr' hpending' with hold' | ⟨-, hid', -⟩
      · obtain ⟨hreporter, htarget, hreason⟩ := hkind
        exact .inl (filed_unseen hsplit ⟨hsite, hid⟩ hnone hold' hpending'
          ⟨hreporter.symm, htarget.symm, hreason.symm⟩)
      · exact absurd (Table.eq_of_key_eq hr hr' (hid.trans hid'.symm)) hne

/-- Somebody has spam to report, and there are no reports yet. -/
def spamTown : ReportDb where
  users := ⟨[⟨⟨0, 102⟩, "buyer", "buyer@town", .buyer, true, none, none, false, none, none⟩], by decide⟩
  listings := ⟨[⟨⟨0, 1⟩, .traiteur⟩], by decide⟩
  reports := .empty

/-- The button is pressed. -/
def press : Pool.Action reportService :=
  .arrive (ReportCall.create "buyer" ⟨.spam, some ⟨0, 1⟩, none, none⟩)

/-- The next steps of a call. -/
def goesOn (n steps : Nat) : List (Pool.Action reportService) := List.replicate steps (.run n ())

/-- Pressed twice at once: the first call has looked when the second one files. -/
def pressedTwice : List (Pool.Action reportService) :=
  [press, press] ++ goesOn 0 3 ++ goesOn 1 4 ++ goesOn 0 1

/-- The report of a call. -/
def spamReport (n : Nat) : Report :=
  ⟨generateUlid n 0, ⟨0, 102⟩, .listing, ⟨0, 1⟩, .spam, none, .pending, none, none⟩

theorem pressedTwice_unseen :
    FiledUnseen (poolRun spamTown pressedTwice).trace (spamReport 0) (spamReport 1) ∨
      FiledUnseen (poolRun spamTown pressedTwice).trace (spamReport 1) (spamReport 0) :=
  reported_twice_overlapped spamTown rfl pressedTwice _ (by decide +kernel) _ (by decide +kernel) rfl rfl
    ⟨rfl, rfl, rfl⟩ (by decide)

theorem pressedTwice_authors :
    Authored (poolRun spamTown pressedTwice) (poolRun spamTown pressedTwice).state
      (poolRun spamTown pressedTwice).trace :=
  report_has_author spamTown rfl pressedTwice

/-- Pressed twice in a row, the second call is refused. -/
example : (poolRun spamTown ([press] ++ goesOn 0 4 ++ [press] ++ goesOn 1 4)).state.reports.rows = [spamReport 0] := by
  decide +kernel

/-! ## Reviews -/

/-- What somebody has filed stays: only what a review writes may differ. -/
def SameFiling (r' r : Report) : Prop :=
  r' = { r with status := r'.status, adminNote := r'.adminNote, reviewedBy := r'.reviewedBy }

/-- What was there after a step of the trace still is, as it was or as the last review has left it. -/
def ReviewsStand (p : Pool reportService) (s : ReportDb) (trace : List (Entry reportMachine)) : Prop :=
  ∀ later e earlier, trace = later ++ e :: earlier → ∀ r ∈ e.post.reports.rows,
    ∃ r' ∈ s.reports.rows, SameFiling r' r ∧
      (r' = r ∨ ∃ after e' before, later = after ++ e' :: before ∧ ReviewedBy p r' e' (before ++ e :: earlier))

theorem reviews_stand (s₀ : ReportDb) (actions : List (Pool.Action reportService)) :
    ReviewsStand (poolRun s₀ actions) (poolRun s₀ actions).state (poolRun s₀ actions).trace := by
  have hnone : ReviewsStand (poolRun s₀ actions) s₀ [] := by
    intro later e earlier hsplit
    simp at hsplit
  refine Pool.history (S := reportService) (I := fun s trace => ReviewsStand (poolRun s₀ actions) s trace) hnone ?_
    actions ?_
  · intro e s trace hs later e' earlier hsplit r hr
    obtain ⟨r', hr', hrest⟩ := hs later e' earlier hsplit r hr
    exact ⟨r', (mem_reports_event e s).mpr hr', hrest⟩
  · intro later e earlier hsplit hpre after e' before hcons r hr
    obtain ⟨c, hc, hstep⟩ := report_step hsplit
    -- the report was left by the last step itself, or by one before it
    cases after with
    | nil =>
      obtain ⟨rfl, -⟩ := List.cons.inj hcons
      exact ⟨r, hr, rfl, .inl rfl⟩
    | cons e₁ after =>
      obtain ⟨rfl, rfl⟩ := List.cons.inj hcons
      obtain ⟨r₁, hr₁, hfiling, hstate⟩ := hpre after e' before rfl r hr
      rcases hstep.kept hr₁ with hkept | ⟨dto, sub, reviewer, rfl, hnow, hstatus, hreviewer⟩
      · refine ⟨r₁, hkept, hfiling, hstate.imp_right ?_⟩
        rintro ⟨after', e₂, before', rfl, hreviewed⟩
        exact ⟨e :: after', e₂, before', rfl, hreviewed⟩
      · -- the new review takes the place of whatever the report was before
        refine ⟨reviewed dto reviewer r₁, hnow, ?_, .inr ⟨[], e, after, rfl, dto, sub, hc, hstatus, rfl, rfl, ?_⟩⟩
        · rw [hfiling]
          rfl
        · intro u hu
          obtain ⟨user, huser, rfl⟩ := Option.map_eq_some_iff.mp hu
          exact hreviewer user huser

/-- **Only a review changes a report.** In every interleaving, a report that a step has left is still there at the
end, filed by the same user, on the same target, for the same reason and with the same text. It is as it was, or
as a later call has left it that reviewed this very report, which may have overturned an earlier review; a report
that had been reviewed is not pending again. -/
theorem changed_by_review (s₀ : ReportDb) (actions : List (Pool.Action reportService))
    {later earlier : List (Entry reportMachine)} {e : Entry reportMachine}
    (hsplit : (poolRun s₀ actions).trace = later ++ e :: earlier) {r : Report} (hr : r ∈ e.post.reports.rows) :
    ∃ r' ∈ (poolRun s₀ actions).state.reports.rows, SameFiling r' r ∧
      (r' = r ∨ ∃ after e' before, later = after ++ e' :: before ∧
        ReviewedBy (poolRun s₀ actions) r' e' (before ++ e :: earlier)) ∧
      (r.status ≠ .pending → r'.status ≠ .pending) := by
  obtain ⟨r', hr', hfiling, hstate⟩ := reviews_stand s₀ actions later e earlier hsplit r hr
  refine ⟨r', hr', hfiling, hstate, fun hreviewed => ?_⟩
  rcases hstate with rfl | ⟨-, e', -, -, dto, sub, -, hstatus, hsame, -⟩
  · exact hreviewed
  · rw [hsame]
    rcases hstatus with hstatus | hstatus
    · simp [hstatus]
    · simp [hstatus]

/-- The same with an admin. -/
def moderatedTown : ReportDb :=
  { spamTown with
    users := ⟨[⟨⟨0, 100⟩, "admin", "admin@town", .admin, false, none, none, false, none, none⟩,
      ⟨⟨0, 102⟩, "buyer", "buyer@town", .buyer, true, none, none, false, none, none⟩], by decide⟩ }

/-- The admin resolves the report (call 1), and then rejects it (call 2). -/
def reviewedTwice : List (Pool.Action reportService) :=
  [press] ++ goesOn 0 4 ++
    [.arrive (.updateStatus (generateUlid 0 0) ⟨.resolved, some "spam"⟩ "admin")] ++ goesOn 1 3 ++
    [.arrive (.updateStatus (generateUlid 0 0) ⟨.rejected, none⟩ "admin")] ++ goesOn 2 3

/-- The first review, and the report then. -/
def firstReview : Entry reportMachine :=
  (poolRun moderatedTown reviewedTwice).trace.get ⟨3, by decide +kernel⟩

def resolvedReport : Report :=
  { spamReport 0 with status := .resolved, adminNote := some "spam", reviewedBy := some ⟨0, 100⟩ }

theorem firstReview_overturned :
    ∃ r' ∈ (poolRun moderatedTown reviewedTwice).state.reports.rows, SameFiling r' resolvedReport ∧
      (r' = resolvedReport ∨ ∃ after e' before,
        (poolRun moderatedTown reviewedTwice).trace.take 3 = after ++ e' :: before ∧
        ReviewedBy (poolRun moderatedTown reviewedTwice) r' e'
          (before ++ firstReview :: (poolRun moderatedTown reviewedTwice).trace.drop 4)) ∧
      (resolvedReport.status ≠ .pending → r'.status ≠ .pending) := by
  have hsplit : (poolRun moderatedTown reviewedTwice).trace =
      (poolRun moderatedTown reviewedTwice).trace.take 3 ++
        firstReview :: (poolRun moderatedTown reviewedTwice).trace.drop 4 := by
    rw [firstReview, List.get_eq_getElem, List.getElem_cons_drop, List.take_append_drop]
  exact changed_by_review moderatedTown reviewedTwice hsplit (by decide +kernel)

end

end IncaCook
