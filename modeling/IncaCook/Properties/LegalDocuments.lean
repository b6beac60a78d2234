import IncaCook.Library.Crash
import IncaCook.Model.LegalDocuments

/-!
# The lifecycle of legal documents

Creating, editing and publishing, one call after the other. Each write keeps what
the rows must satisfy, keeps the date of every published document, and leaves an
active document to every kind that has one; publishing gives one to its kind.

Main results:

* `insertDraft_step`, `editDocument_step`, `publishDocument_step`: what each write keeps;
* `legal_documents_lifecycle`: the five invariants, after every run.
-/

namespace IncaCook

open Prog LegalDocuments

variable {s s' : LegalDb} {id : LegalDocumentId} {adminId : Option UserId} {answer : Answer}
  {doc : LegalDocument} {kind : CharterKind}

/-! ## What the rows satisfy -/

structure WellKept (db : LegalDb) : Prop where
  oneActive : ∀ d ∈ db.legalDocuments.rows, ∀ d' ∈ db.legalDocuments.rows, d.isActive = true →
    d'.isActive = true → d.kind = d'.kind → d = d'
  oneVersion : ∀ d ∈ db.legalDocuments.rows, ∀ d' ∈ db.legalDocuments.rows, d.kind = d'.kind →
    d.version = d'.version → d = d'
  published : ∀ d ∈ db.legalDocuments.rows, d.isActive = true → d.publishedAt ≠ none

/-- The kind has an active document. -/
def Current (db : LegalDb) (kind : CharterKind) : Prop :=
  ∃ d ∈ db.legalDocuments.rows, d.kind = kind ∧ d.isActive = true

/-- Published documents stay, with the date of their publication. -/
def DatesKept (s s' : LegalDb) : Prop :=
  ∀ id d t, s.legalDocuments.find? id = some d → d.publishedAt = some t →
    ∃ d', s'.legalDocuments.find? id = some d' ∧ d'.publishedAt = some t

/-- What every step keeps. -/
structure LegalStep (s s' : LegalDb) : Prop where
  wellKept : WellKept s → WellKept s'
  dates : DatesKept s s'
  current : ∀ kind, Current s kind → Current s' kind

theorem LegalStep.refl (s : LegalDb) : LegalStep s s :=
  ⟨id, fun _ d _ hd ht => ⟨d, hd, ht⟩, fun _ h => h⟩

theorem LegalStep.trans (a b c : LegalDb) (hab : LegalStep a b) (hbc : LegalStep b c) :
    LegalStep a c := by
  refine ⟨fun h => hbc.wellKept (hab.wellKept h), fun id d t hd ht => ?_,
    fun kind h => hbc.current kind (hab.current kind h)⟩
  obtain ⟨d₁, hd₁, ht₁⟩ := hab.dates id d t hd ht
  exact hbc.dates id d₁ t hd₁ ht₁

/-- A step that does not touch the documents. -/
theorem LegalStep.of_eq (h : s'.legalDocuments = s.legalDocuments) : LegalStep s s' := by
  refine ⟨fun hs => ?_, fun id d t hd ht => ⟨d, h ▸ hd, ht⟩, fun kind hs => ?_⟩
  · refine ⟨?_, ?_, ?_⟩
    · rw [h]
      exact hs.oneActive
    · rw [h]
      exact hs.oneVersion
    · rw [h]
      exact hs.published
  · unfold Current
    rw [h]
    exact hs

/-! ## The writes -/

theorem uniqueKindVersion_ok {version : String} {u : Unit} :
    uniqueKindVersion id kind version s = .ok (u, s') ↔
      (∀ d ∈ s.legalDocuments.rows, d.id ≠ id → d.kind = kind → d.version ≠ version) ∧ s' = s := by
  simp only [uniqueKindVersion, Stmt.bind_ok, Stmt.get_ok, Stmt.throwIf_ok]
  constructor
  · rintro ⟨_, _, ⟨rfl, rfl⟩, hunique, rfl⟩
    refine ⟨fun d hd hid hkind hversion => hunique ?_, rfl⟩
    rw [List.any_eq_true]
    exact ⟨d, hd, by simp [hid, hkind, hversion]⟩
  · rintro ⟨hunique, rfl⟩
    refine ⟨_, _, ⟨rfl, rfl⟩, fun hany => ?_, rfl⟩
    obtain ⟨d, hd, hsame⟩ := List.any_eq_true.mp hany
    simp only [Bool.and_eq_true, decide_eq_true_eq] at hsame
    exact hunique d hd hsame.1.1 hsame.1.2 hsame.2

theorem insertDraft_ok {dto : CreateLegalDocumentDto}
    (hrun : insertDraft id dto adminId answer s = .ok (doc, s')) :
    (∀ d ∈ s.legalDocuments.rows, d.kind = doc.kind → d.version ≠ doc.version) ∧
      doc.isActive = false ∧ ∃ legalDocuments, s.legalDocuments.insert? doc = some legalDocuments ∧
        s' = { s with legalDocuments } := by
  simp only [insertDraft, Stmt.bind_ok, Stmt.throwIf_ok, uniqueKindVersion_ok, Stmt.get_ok,
    Stmt.orThrow_ok, Stmt.set_ok, Stmt.pure_ok] at hrun
  obtain ⟨_, s₁, ⟨-, rfl⟩, _, s₂, ⟨hunique, rfl⟩, _, s₃, ⟨rfl, rfl⟩, legalDocuments, s₄,
    ⟨hinsert, rfl⟩, _, s₅, rfl, rfl, rfl⟩ := hrun
  have hfresh := (Table.insert?_eq_some.mp hinsert).1
  refine ⟨fun d hd => hunique d hd ?_, rfl, legalDocuments, hinsert, rfl⟩
  exact Table.find?_eq_none.mp hfresh d hd

/-- A draft is new, and not active. -/
theorem insertDraft_step {dto : CreateLegalDocumentDto}
    (hrun : insertDraft id dto adminId answer s = .ok (doc, s')) : LegalStep s s' := by
  obtain ⟨hother, hdraft, legalDocuments, hinsert, rfl⟩ := insertDraft_ok hrun
  have hmem : ∀ d, d ∈ legalDocuments.rows ↔ d = doc ∨ d ∈ s.legalDocuments.rows :=
    fun _ => Table.mem_insert hinsert
  have hactive : ∀ d ∈ legalDocuments.rows, d.isActive = true → d ∈ s.legalDocuments.rows := by
    intro d hd hactive
    rcases (hmem d).mp hd with rfl | hd
    · rw [hdraft] at hactive
      cases hactive
    · exact hd
  refine ⟨fun hs => ⟨?_, ?_, ?_⟩, ?_, ?_⟩
  · intro d hd d' hd' ha ha' hk
    exact hs.oneActive d (hactive d hd ha) d' (hactive d' hd' ha') ha ha' hk
  · intro d hd d' hd' hk hv
    rcases (hmem d).mp hd with rfl | hd
    · rcases (hmem d').mp hd' with rfl | hd'
      · rfl
      · exact absurd hv.symm (hother d' hd' hk.symm)
    · rcases (hmem d').mp hd' with rfl | hd'
      · exact absurd hv (hother d hd hk)
      · exact hs.oneVersion d hd d' hd' hk hv
  · intro d hd ha
    exact hs.published d (hactive d hd ha) ha
  · intro id d t hd ht
    exact ⟨d, Table.find?_insert_of_some hinsert hd, ht⟩
  · rintro kind ⟨d, hd, hk, ha⟩
    exact ⟨d, (hmem d).mpr (.inr hd), hk, ha⟩

theorem editDocument_ok {dto : UpdateLegalDocumentDto}
    (hrun : editDocument id dto adminId answer s = .ok (doc, s')) :
    ∃ d, s.legalDocuments.find? id = some d ∧ (∀ d' ∈ s.legalDocuments.rows, d'.id ≠ id →
      d'.kind = d.kind → d'.version ≠ (edited dto adminId s.now d).version) ∧
      s' = { s with legalDocuments := s.legalDocuments.update id (edited dto adminId s.now) } := by
  simp only [editDocument, Stmt.bind_ok, Stmt.throwIf_ok, uniqueKindVersion_ok, Stmt.get_ok,
    Stmt.orThrow_ok, Stmt.set_ok, Stmt.pure_ok] at hrun
  obtain ⟨_, s₁, ⟨-, rfl⟩, _, s₂, ⟨rfl, rfl⟩, d, s₃, ⟨hd, rfl⟩, _, s₄, ⟨hunique, rfl⟩, _, s₅, rfl,
    -, rfl⟩ := hrun
  exact ⟨d, hd, hunique, rfl⟩

/-- The row that an update of the row `id` makes of a row of the table. -/
def rewritten (id : LegalDocumentId) (f : LegalDocument → LegalDocument) (d : LegalDocument) :
    LegalDocument :=
  if d.id = id then f d else d

theorem rows_update (t : Table LegalDocument) (f : LegalDocument → LegalDocument)
    (hf : ∀ d, (f d).id = d.id) : (t.update id f hf).rows = t.rows.map (rewritten id f) := by
  apply List.map_congr_left
  intro d _
  simp only [decide_eq_true_eq]
  rfl

/-- A write that rewrites the rows one by one, keeping id and kind. -/
theorem LegalStep.of_map {g : LegalDocument → LegalDocument}
    (hrows : s'.legalDocuments.rows = s.legalDocuments.rows.map g) (hid : ∀ d, (g d).id = d.id)
    (hkind : ∀ d, (g d).kind = d.kind)
    (hactive : WellKept s → ∀ d ∈ s.legalDocuments.rows, ∀ d' ∈ s.legalDocuments.rows,
      (g d).isActive = true → (g d').isActive = true → d.kind = d'.kind → d = d')
    (hversion : WellKept s → ∀ d ∈ s.legalDocuments.rows, ∀ d' ∈ s.legalDocuments.rows,
      d.kind = d'.kind → (g d).version = (g d').version → d = d')
    (hpublished : WellKept s → ∀ d ∈ s.legalDocuments.rows, (g d).isActive = true →
      (g d).publishedAt ≠ none)
    (hdate : ∀ d ∈ s.legalDocuments.rows, ∀ t, d.publishedAt = some t → (g d).publishedAt = some t)
    (hcurrent : ∀ d ∈ s.legalDocuments.rows, d.isActive = true →
      ∃ d' ∈ s.legalDocuments.rows, d'.kind = d.kind ∧ (g d').isActive = true) :
    LegalStep s s' := by
  have hmem : ∀ d, d ∈ s'.legalDocuments.rows ↔ ∃ r ∈ s.legalDocuments.rows, g r = d := by
    intro d
    rw [hrows, List.mem_map]
  refine ⟨fun hs => ⟨?_, ?_, ?_⟩, ?_, ?_⟩
  · intro d hd d' hd' ha ha' hk
    obtain ⟨r, hr, rfl⟩ := (hmem d).mp hd
    obtain ⟨r', hr', rfl⟩ := (hmem d').mp hd'
    rw [hactive hs r hr r' hr' ha ha' ((hkind r).symm.trans (hk.trans (hkind r')))]
  · intro d hd d' hd' hk hv
    obtain ⟨r, hr, rfl⟩ := (hmem d).mp hd
    obtain ⟨r', hr', rfl⟩ := (hmem d').mp hd'
    rw [hversion hs r hr r' hr' ((hkind r).symm.trans (hk.trans (hkind r'))) hv]
  · intro d hd ha
    obtain ⟨r, hr, rfl⟩ := (hmem d).mp hd
    exact hpublished hs r hr ha
  · intro id d t hd ht
    have hr := Table.mem_of_find? hd
    refine ⟨g d, ?_, hdate d hr t ht⟩
    exact Table.find?_eq_some.mpr ⟨(hmem _).mpr ⟨d, hr, rfl⟩, (hid d).trans (Table.key_of_find? hd)⟩
  · rintro kind ⟨d, hd, rfl, ha⟩
    obtain ⟨d', hd', hk, ha'⟩ := hcurrent d hd ha
    exact ⟨g d', (hmem _).mpr ⟨d', hd', rfl⟩, (hkind d').trans hk, ha'⟩

/-- An edit keeps kind, activity and date, and the unique index guards the version. -/
theorem editDocument_step {dto : UpdateLegalDocumentDto}
    (hrun : editDocument id dto adminId answer s = .ok (doc, s')) : LegalStep s s' := by
  obtain ⟨d₀, hd₀, hunique, rfl⟩ := editDocument_ok hrun
  have hsame : ∀ d ∈ s.legalDocuments.rows, d.id = id → d = d₀ := fun d hd hid =>
    Table.eq_of_key_eq hd (Table.mem_of_find? hd₀) (hid.trans (Table.key_of_find? hd₀).symm)
  have hkeep : ∀ d, (rewritten id (edited dto adminId s.now) d).id = d.id ∧
      (rewritten id (edited dto adminId s.now) d).kind = d.kind ∧
      (rewritten id (edited dto adminId s.now) d).isActive = d.isActive ∧
      (rewritten id (edited dto adminId s.now) d).publishedAt = d.publishedAt := by
    intro d
    unfold rewritten
    split
    · exact ⟨rfl, rfl, rfl, rfl⟩
    · exact ⟨rfl, rfl, rfl, rfl⟩
  -- the new version of the edited row is not that of another row of its kind
  have hother : ∀ d ∈ s.legalDocuments.rows, ∀ d' ∈ s.legalDocuments.rows, d.id = id → d'.id ≠ id →
      d.kind = d'.kind → d'.version ≠ (edited dto adminId s.now d).version := by
    intro d hd d' hd' hid hid' hk
    rw [hsame d hd hid]
    exact hunique d' hd' hid' (by rw [← hsame d hd hid, hk])
  apply LegalStep.of_map (rows_update _ (edited dto adminId s.now) fun _ => rfl) (fun d => (hkeep d).1) (fun d => (hkeep d).2.1)
  · intro hs d hd d' hd' ha ha' hk
    exact hs.oneActive d hd d' hd' ((hkeep d).2.2.1 ▸ ha) ((hkeep d').2.2.1 ▸ ha') hk
  · intro hs d hd d' hd' hk hv
    unfold rewritten at hv
    by_cases hid : d.id = id
    · by_cases hid' : d'.id = id
      · rw [hsame d hd hid, hsame d' hd' hid']
      · rw [if_pos hid, if_neg hid'] at hv
        exact absurd hv.symm (hother d hd d' hd' hid hid' hk)
    · by_cases hid' : d'.id = id
      · rw [if_neg hid, if_pos hid'] at hv
        exact absurd hv (hother d' hd' d hd hid' hid hk.symm)
      · rw [if_neg hid, if_neg hid'] at hv
        exact hs.oneVersion d hd d' hd' hk hv
  · intro hs d hd ha
    rw [(hkeep d).2.2.2]
    exact hs.published d hd ((hkeep d).2.2.1 ▸ ha)
  · intro d _ t ht
    rw [(hkeep d).2.2.2, ht]
  · intro d hd ha
    exact ⟨d, hd, rfl, (hkeep d).2.2.1.trans ha⟩

/-! ## Publishing -/

/-- The row that a publication makes of a row of the table. -/
def afterPublish (target : LegalDocument) (adminId : Option UserId) (now : Time) (d : LegalDocument) :
    LegalDocument :=
  if d.id = target.id then activated target adminId now d
  else if d.kind = target.kind ∧ d.isActive = true then { d with isActive := false, updatedAt := now }
  else d

/-- Among the rows that a publication deactivates is not its own. -/
theorem publishDocument_ok {target : LegalDocument}
    (hrun : publishDocument target adminId answer s = .ok (doc, s')) :
    s'.legalDocuments.rows = s.legalDocuments.rows.map (afterPublish target adminId s.now) ∧
      ∃ d, s.legalDocuments.find? target.id = some d ∧ doc.kind = d.kind := by
  simp only [publishDocument, Stmt.bind_ok, Stmt.throwIf_ok, Stmt.modify_ok, Stmt.get_ok,
    Stmt.orThrow_ok, Stmt.set_ok, Stmt.pure_ok] at hrun
  obtain ⟨_, s₁, ⟨-, rfl⟩, _, s₂, hs₂, _, s₃, ⟨rfl, rfl⟩, d, s₄, ⟨hd, rfl⟩, _, s₅, rfl, rfl, rfl⟩ := hrun
  subst hs₂
  constructor
  · show List.map _ (List.map _ _) = _
    rw [List.map_map]
    apply List.map_congr_left
    intro r _
    -- its own row, a row it deactivates, or any other
    by_cases hid : r.id = target.id
    · simp [afterPublish, hid, Keyed.key]
    · by_cases hactive : r.kind = target.kind ∧ r.isActive = true
      · simp [afterPublish, hid, hactive.1, hactive.2, Keyed.key]
      · simp [afterPublish, hid, hactive, Keyed.key]
  · rw [Table.find?_updateMany, Option.map_eq_some_iff] at hd
    obtain ⟨r, hr, rfl⟩ := hd
    refine ⟨r, hr, ?_⟩
    show LegalDocument.kind (if _ then _ else _) = _
    split
    · rfl
    · rfl

/-- The published document is the active one of its kind, with its first date. -/
theorem publishDocument_step {target : LegalDocument}
    (htarget : s.legalDocuments.find? target.id = some target)
    (hrun : publishDocument target adminId answer s = .ok (doc, s')) :
    LegalStep s s' ∧ Current s' doc.kind := by
  obtain ⟨hrows, d₀, hd₀, hdoc⟩ := publishDocument_ok hrun
  obtain rfl : d₀ = target := Option.some.inj (hd₀.symm.trans htarget)
  have hmem₀ : d₀ ∈ s.legalDocuments.rows := Table.mem_of_find? hd₀
  have hsame : ∀ d ∈ s.legalDocuments.rows, d.id = d₀.id → d = d₀ :=
    fun d hd hid => Table.eq_of_key_eq hd hmem₀ hid
  have hkeep : ∀ d, (afterPublish d₀ adminId s.now d).id = d.id ∧
      (afterPublish d₀ adminId s.now d).kind = d.kind ∧
      (afterPublish d₀ adminId s.now d).version = d.version := by
    intro d
    unfold afterPublish
    split
    · exact ⟨rfl, rfl, rfl⟩
    · split
      · exact ⟨rfl, rfl, rfl⟩
      · exact ⟨rfl, rfl, rfl⟩
  have hself : afterPublish d₀ adminId s.now d₀ = activated d₀ adminId s.now d₀ := if_pos rfl
  -- another active document is of another kind, and was active before
  have hactive : ∀ d, d.id ≠ d₀.id → (afterPublish d₀ adminId s.now d).isActive = true →
      d.kind ≠ d₀.kind ∧ d.isActive = true ∧ afterPublish d₀ adminId s.now d = d := by
    intro d hid ha
    unfold afterPublish at ha ⊢
    rw [if_neg hid] at ha ⊢
    split at ha
    case isTrue => cases ha
    case isFalse hnot =>
      rw [if_neg hnot]
      exact ⟨fun hk => hnot ⟨hk, ha⟩, ha, rfl⟩
  constructor
  · apply LegalStep.of_map hrows (fun d => (hkeep d).1) (fun d => (hkeep d).2.1)
    · intro hs d hd d' hd' ha ha' hk
      by_cases hid : d.id = d₀.id
      · by_cases hid' : d'.id = d₀.id
        · rw [hsame d hd hid, hsame d' hd' hid']
        · rw [hsame d hd hid] at hk
          exact absurd hk.symm (hactive d' hid' ha').1
      · by_cases hid' : d'.id = d₀.id
        · rw [hsame d' hd' hid'] at hk
          exact absurd hk (hactive d hid ha).1
        · exact hs.oneActive d hd d' hd' (hactive d hid ha).2.1 (hactive d' hid' ha').2.1 hk
    · intro hs d hd d' hd' hk hv
      rw [(hkeep d).2.2, (hkeep d').2.2] at hv
      exact hs.oneVersion d hd d' hd' hk hv
    · intro hs d hd ha
      by_cases hid : d.id = d₀.id
      · rw [hsame d hd hid, hself]
        exact Option.some_ne_none _
      · rw [(hactive d hid ha).2.2]
        exact hs.published d hd (hactive d hid ha).2.1
    · intro d hd t ht
      by_cases hid : d.id = d₀.id
      · rw [hsame d hd hid] at ht ⊢
        rw [hself]
        show some (d₀.publishedAt.getD s.now) = some t
        rw [ht, Option.getD_some]
      · unfold afterPublish
        rw [if_neg hid]
        split
        · exact ht
        · exact ht
    · intro d hd ha
      by_cases hk : d.kind = d₀.kind
      · exact ⟨d₀, hmem₀, hk.symm, by rw [hself]; rfl⟩
      · refine ⟨d, hd, rfl, ?_⟩
        have hid : d.id ≠ d₀.id := fun hid => hk (by rw [hsame d hd hid])
        unfold afterPublish
        rw [if_neg hid, if_neg fun h => hk h.1]
        exact ha
  · refine ⟨activated d₀ adminId s.now d₀, ?_, hdoc.symm, rfl⟩
    rw [hrows, ← hself]
    exact List.mem_map_of_mem hmem₀

/-! ## The handlers -/

/-- Nothing happens in between the steps of a call. -/
abbrev legalContract : Contract legalMachine := movesContract LegalStep

theorem legalRead_free {α : Type} {f : LegalDb → α} :
    Free legalContract (read LegalSite.query f : LegalHandler α) :=
  free_read fun _ s => LegalStep.refl s

theorem create_free (me : Nat) (dto : CreateLegalDocumentDto) (sub : String) :
    Free legalContract (LegalDocuments.create me dto sub) := by
  refine free_bind legalRead_free fun _ => free_bind free_throwIf fun _ =>
    free_bind legalRead_free fun _ => free_bind ?_ fun _ => free_pure
  exact free_await (fun _ s => LegalStep.refl s) fun _ _ _ _ _ hrun => insertDraft_step hrun

theorem getOrThrow_free : Free legalContract (getOrThrow id) :=
  free_bind legalRead_free fun _ => free_orThrow

theorem checkVersion_free {current : LegalDocument} {version : Option String} :
    Free legalContract (checkVersion id current version) := by
  unfold checkVersion
  cases version with
  | none => exact free_pure
  | some version =>
    exact free_ite free_pure (free_bind legalRead_free fun _ => free_throwIf)

theorem update_free (dto : UpdateLegalDocumentDto) (sub : String) :
    Free legalContract (LegalDocuments.update id dto sub) := by
  refine free_bind getOrThrow_free fun _ => free_bind checkVersion_free fun _ =>
    free_bind legalRead_free fun _ => free_bind ?_ fun _ => free_pure
  exact free_await (fun _ s => LegalStep.refl s) fun _ _ _ _ _ hrun => editDocument_step hrun

theorem notifyUsersOfUpdate_free {version : String} :
    Free legalContract (notifyUsersOfUpdate kind version) :=
  free_bind legalRead_free fun _ => free_ite free_pure (free_ask fun _ s => LegalStep.refl s)

theorem getOrThrow_sat {h : List (StepRecord legalMachine)} :
    Sat legalContract (fun _ r s' => s' = s ∧ ∀ d, r = .ok d → s.legalDocuments.find? id = some d)
      (getOrThrow id) h s := by
  refine sat_read_bind fun s' hs => ⟨LegalStep.refl s', ?_⟩
  cases hs
  cases hfind : s.legalDocuments.find? id with
  | none => exact ⟨rfl, nofun⟩
  | some d =>
    by_cases hkind : d.kind ∈ legalKinds
    · rw [Option.filter_some, if_pos (decide_eq_true hkind)]
      exact ⟨rfl, fun _ hd => by cases hd; rfl⟩
    · rw [Option.filter_some, if_neg (by simpa using hkind)]
      exact ⟨rfl, nofun⟩

/-- A publication that returns has made its document the active one of its kind. -/
theorem publish_sat (sub : String) (h : List (StepRecord legalMachine)) :
    Sat legalContract (fun _ r s => ∀ view, r = .ok view → Current s view.kind)
      (LegalDocuments.publish id sub) h s := by
  refine sat_bind (getOrThrow_sat.post fun h r s₁ hr => ?_)
  obtain ⟨rfl, htarget⟩ := hr
  cases r with
  | error e => exact nofun
  | ok target =>
    have hid : target.id = id := Table.key_of_find? (htarget target rfl)
    refine sat_read_bind fun s₂ hs₂ => ⟨LegalStep.refl s₂, ?_⟩
    cases hs₂
    refine sat_await_bind fun s₃ hs₃ answer => ⟨fun e _ => ⟨LegalStep.refl s₃, nofun⟩, fun doc s' hrun => ?_⟩
    cases hs₃
    obtain ⟨hstep, hcurrent⟩ := publishDocument_step (hid ▸ htarget target rfl) hrun
    refine ⟨hstep, ?_⟩
    -- telling the users changes nothing
    have hnotify : Free legalContract (notifyUsersOfUpdate doc.kind doc.version) :=
      notifyUsersOfUpdate_free
    refine sat_bind ((hnotify.leads LegalStep.refl LegalStep.trans (fun _ _ h => h)
      (fun _ _ _ _ hg => hg)).post fun h r s'' hkept => ?_)
    cases r with
    | error e => exact nofun
    | ok u =>
      intro view hview
      cases hview
      exact hkept.current _ hcurrent

/-- Every call is made of steps that keep the documents. -/
theorem legalHandle_free (me : Nat) (c : LegalCall) : Free legalContract (legalHandle me c) := by
  cases c with
  | create dto sub => exact free_bind (create_free me dto sub) fun _ => free_pure
  | update id dto sub => exact free_bind (update_free dto sub) fun _ => free_pure
  | publish id sub => exact free_bind (fun h s => (publish_sat sub h).any) fun _ => free_pure
  | activeAll => exact free_bind legalRead_free fun _ => free_pure

theorem legalHandle_step (me : Nat) (c : LegalCall) (w : Nat → Answer) :
    LegalStep s ((legalHandle me c).exec w s).state :=
  (legalHandle_free me c).moves LegalStep.refl LegalStep.trans

/-! ## Runs -/

/-- The call published a document of the kind. -/
def Publishes (kind : CharterKind) (c : CallRecord legalService) : Prop :=
  ∃ id sub view, c.call = .publish id sub ∧ c.outcome.result = .ok (.document view) ∧ view.kind = kind

/-- The five invariants of the documents, for a run from `s₀`. -/
structure Lifecycle (s₀ : LegalDb) (inputs : List (Input legalService)) : Prop where
  oneActive : ∀ d ∈ (serialRun s₀ inputs).state.legalDocuments.rows,
    ∀ d' ∈ (serialRun s₀ inputs).state.legalDocuments.rows,
      d.isActive = true → d'.isActive = true → d.kind = d'.kind → d = d'
  oneVersion : ∀ d ∈ (serialRun s₀ inputs).state.legalDocuments.rows,
    ∀ d' ∈ (serialRun s₀ inputs).state.legalDocuments.rows,
      d.kind = d'.kind → d.version = d'.version → d = d'
  activeDated : ∀ d ∈ (serialRun s₀ inputs).state.legalDocuments.rows,
    d.isActive = true → d.publishedAt ≠ none
  /-- a date once set is the same in every later state -/
  dateFixed : ∀ before after, inputs = before ++ after →
    DatesKept (serialRun s₀ before).state (serialRun s₀ inputs).state
  /-- once a document of the kind was published, one is active ever after -/
  onceActive : ∀ kind, (∃ c ∈ (serialRun s₀ inputs).calls, Publishes kind c) →
    ∃! d, d ∈ (serialRun s₀ inputs).state.legalDocuments.rows ∧ d.kind = kind ∧ d.isActive = true

theorem applyLegalEvent_step (e : LegalEvent) : LegalStep s (applyLegalEvent e s) := by
  cases e with
  | tick ms => exact LegalStep.of_eq rfl
  | accounts users => exact LegalStep.of_eq rfl

/-- What every step keeps, going on with a run keeps. -/
theorem legalRun_step (r : Serial legalService) (inputs : List (Input legalService)) :
    LegalStep r.state (r.run inputs).state :=
  serial_invariant (I := fun s' _ => LegalStep r.state s') (P := fun _ _ => True) (LegalStep.refl _)
    (fun e _ _ h => h.trans _ _ _ (applyLegalEvent_step e))
    (fun c w _ calls h _ _ => h.trans _ _ _ (legalHandle_step calls.length c w)) inputs
    fun _ _ _ _ => trivial

/-- The call that publishes leaves an active document of the kind. -/
theorem publishes_current {me : Nat} {c : LegalCall} {w : Nat → Answer}
    (h : Publishes kind ⟨c, s, (legalHandle me c).exec w s⟩) :
    Current ((legalHandle me c).exec w s).state kind := by
  obtain ⟨id, sub, view, hcall, hresult, rfl⟩ := h
  obtain rfl : c = .publish id sub := hcall
  have hsat : Sat legalContract (fun _ r s => ∀ reply, r = .ok reply →
      ∃ view, reply = .document view ∧ Current s view.kind) (legalHandle me (.publish id sub)) [] s := by
    refine sat_bind ((publish_sat sub []).post fun h r s hr => ?_)
    cases r with
    | error e => exact nofun
    | ok view => exact fun reply hreply => by cases hreply; exact ⟨view, rfl, hr view rfl⟩
  obtain ⟨view', hview', hcurrent⟩ := (hsat.exec (fun _ => rfl) w).2 _ hresult
  cases hview'
  exact hcurrent

/-- Whatever was published has an active document ever after. -/
theorem legalRun_published {s₀ : LegalDb} (inputs : List (Input legalService)) :
    ∀ c ∈ (serialRun s₀ inputs).calls, ∀ kind, Publishes kind c →
      Current (serialRun s₀ inputs).state kind := by
  refine serial_invariant (r := ⟨s₀, []⟩)
    (I := fun s calls => ∀ c ∈ calls, ∀ kind, Publishes kind c → Current s kind)
    (P := fun _ _ => True) (fun _ hc => absurd hc List.not_mem_nil) ?_ ?_ inputs fun _ _ _ _ => trivial
  · intro e s calls h c hc kind hp
    exact (applyLegalEvent_step e).current kind (h c hc kind hp)
  · intro c w s calls h _ o _ c' hc' kind hp
    rcases List.mem_cons.mp hc' with rfl | hold
    · exact publishes_current hp
    · exact (legalHandle_step calls.length c w).current kind (h c' hold kind hp)

/-- **The lifecycle of legal documents.** From the migrated table, after every run of
creations, edits and publications with any arguments, refused ones among them: each
kind has at most one active document, no two documents have one kind and version,
active documents are dated, dates never change, and a kind that was published has
exactly one active document from then on. -/
theorem legal_documents_lifecycle (now : Time) (users : Table User)
    (inputs : List (Input legalService)) : Lifecycle (LegalDb.migrated now users) inputs := by
  have hempty : WellKept (LegalDb.migrated now users) :=
    ⟨fun _ hd => absurd hd List.not_mem_nil, fun _ hd => absurd hd List.not_mem_nil,
      fun _ hd => absurd hd List.not_mem_nil⟩
  have hkept : WellKept (serialRun (LegalDb.migrated now users) inputs).state :=
    (legalRun_step ⟨LegalDb.migrated now users, []⟩ inputs).wellKept hempty
  refine ⟨hkept.oneActive, hkept.oneVersion, hkept.published, ?_, ?_⟩
  · rintro before after rfl
    rw [serialRun_append]
    exact (legalRun_step (serialRun (LegalDb.migrated now users) before) after).dates
  · rintro kind ⟨c, hc, hp⟩
    obtain ⟨d, hd, hk, ha⟩ := legalRun_published inputs c hc kind hp
    refine ⟨d, ⟨hd, hk, ha⟩, fun d' h => ?_⟩
    exact hkept.oneActive d' h.1 d hd h.2.2 ha (h.2.1.trans hk.symm)

end IncaCook
