import IncaCook.Steps.Uploads

/-!
# Whose file lies where

Objects are put by whoever holds a URL, so all that the storage knows of them is their path. The path
starts with the login that asked for the URL and ends with a fresh id.

Main result:

* `own_uploads`: every URL is for a fresh object of the login that asked, and every object lies where
  such a call has had it signed.
-/

namespace IncaCook

open Prog Uploads

/-- The step, after those of `earlier`, has had the URL signed: the path is that of its call, and the call has
seen that its user may. -/
def SignedBy (buckets : SupabaseBuckets) (p : Pool (uploadService buckets)) (url : SignedUpload)
    (e : Entry uploadMachine) (earlier : List (Entry uploadMachine)) : Prop :=
  ∃ c : UploadCall, p.call? e.thread = some c ∧ e.site = .sign url.path ∧ url.path = c.path buckets e.thread ∧
    SeenAllowed (Pool.ownSteps e.thread earlier) c.supabaseId c.purpose

/-- What the storage holds, and where it comes from. -/
structure OwnUploads (buckets : SupabaseBuckets) (p : Pool (uploadService buckets)) (s : UploadDb)
    (trace : List (Entry uploadMachine)) : Prop where
  signed : ∀ url ∈ s.signed.rows, ∃ later e earlier, trace = later ++ e :: earlier ∧ SignedBy buckets p url e earlier
  apart : ∀ url ∈ s.signed.rows, ∀ url' ∈ s.signed.rows, url.path = url'.path → url = url'
  objects : ∀ o ∈ s.objects.rows, ∃ later e earlier, trace = later ++ e :: earlier ∧
    SignedBy buckets p ⟨o.token, o.path⟩ e earlier

section

variable {buckets : SupabaseBuckets} {s : UploadDb} {trace : List (Entry uploadMachine)}

/-- Putting a file needs a URL for its path, and so a call that has had it signed. -/
theorem OwnUploads.event {p : Pool (uploadService buckets)} (hs : OwnUploads buckets p s trace) (e : UploadEvent) :
    OwnUploads buckets p (applyUploadEvent e s) trace := by
  cases e with
  | user u => exact ⟨hs.signed, hs.apart, hs.objects⟩
  | sellerProfiles rows => exact ⟨hs.signed, hs.apart, hs.objects⟩
  | put token content =>
    cases hurl : s.signed.find? token with
    | none =>
      rw [applyUploadEvent, hurl]
      exact hs
    | some url =>
      have hafter : applyUploadEvent (.put token content) s =
          { s with objects := (s.objects.insert? ⟨url.path, token, content⟩).getD s.objects } := by
        rw [applyUploadEvent, hurl]
      rw [hafter]
      refine ⟨hs.signed, hs.apart, fun o ho => ?_⟩
      cases hnew : s.objects.insert? ⟨url.path, token, content⟩ with
      | none =>
        rw [hnew] at ho
        exact hs.objects o ho
      | some objects =>
        rw [hnew] at ho
        rcases (Table.mem_insert hnew).mp ho with rfl | ho
        · have htoken : url.token = token := Table.key_of_find? hurl
          rw [← htoken]
          exact hs.signed url (Table.mem_of_find? hurl)
        · exact hs.objects o ho

/-- No earlier step has had this path signed: the call has only looked. -/
theorem path_unsigned {p : Pool (uploadService buckets)} {c : UploadCall} {me : Nat}
    {later earlier : List (Entry uploadMachine)} {e : Entry uploadMachine} {url : SignedUpload}
    (htrace : trace = later ++ e :: earlier) (honce : ∀ t ∈ Pool.ownSteps me trace, t.site = .query)
    (hsigned : SignedBy buckets p url e earlier) :
    url.path ≠ c.path buckets me := by
  intro hsame
  obtain ⟨c', -, hsite, hpath, -⟩ := hsigned
  have hthread : e.thread = me := congrArg (fun path => path.ulid.call) (hpath.symm.trans hsame)
  have hown : e.toStepRecord ∈ Pool.ownSteps me trace := by
    rw [htrace]
    exact List.mem_map.mpr ⟨e, List.mem_filter.mpr ⟨by simp, decide_eq_true hthread⟩, rfl⟩
  have hquery := honce _ hown
  rw [hsite] at hquery
  cases hquery

/-- **A file lies in the folder of the login that asked for it.** In every interleaving that starts with an empty
storage, every URL was signed by a step of one call, for the bucket of the purpose, the login and the number of
that call, which had seen the user behind the login in a role that the purpose allows, and not as a home-made
seller where these are left out. No two URLs are for one object. And every object lies at a path that such a
call has had signed, in the folder of its login. -/
theorem own_uploads (buckets : SupabaseBuckets) (s₀ : UploadDb)
    (hstart : s₀.signed.rows = [] ∧ s₀.objects.rows = []) (actions : List (Pool.Action (uploadService buckets))) :
    OwnUploads buckets (poolRun s₀ actions) (poolRun s₀ actions).state (poolRun s₀ actions).trace := by
  have hnone : OwnUploads buckets (poolRun s₀ actions) s₀ [] := by
    refine ⟨fun url hurl => ?_, fun url hurl => ?_, fun o ho => ?_⟩
    · rw [hstart.1] at hurl
      exact absurd hurl List.not_mem_nil
    · rw [hstart.1] at hurl
      exact absurd hurl List.not_mem_nil
    · rw [hstart.2] at ho
      exact absurd ho List.not_mem_nil
  refine Pool.history (S := uploadService buckets)
    (I := fun s trace => OwnUploads buckets (poolRun s₀ actions) s trace) hnone (fun e s trace hs => hs.event e)
    actions ?_
  intro later e earlier hsplit hpre
  obtain ⟨c, hc, hstep⟩ := Pool.own_step (C := uploadContract buckets) (fun _ _ _ _ => trivial)
    (createUploadUrl_sat buckets) hsplit
  -- what was signed before this step was signed by then
  have hearlier : ∀ url, (∃ later e₁ before, earlier = later ++ e₁ :: before ∧
      SignedBy buckets (poolRun s₀ actions) url e₁ before) →
      ∃ later e₁ before, e :: earlier = later ++ e₁ :: before ∧
        SignedBy buckets (poolRun s₀ actions) url e₁ before := by
    rintro url ⟨between, e₁, before, rfl, hsigned⟩
    exact ⟨e :: between, e₁, before, rfl, hsigned⟩
  have hold := fun url hurl => hearlier url (hpre.signed url hurl)
  have hstored := fun o ho => hearlier _ (hpre.objects o ho)
  generalize hsite : e.site = site at hstep
  generalize hpost : e.post = s' at hstep ⊢
  cases hstep with
  | noop _ _ => exact ⟨hold, hpre.apart, hstored⟩
  | sign token signed hallowed honce hnew =>
    have hfresh : ∀ url ∈ e.pre.signed.rows, url.path ≠ c.path buckets e.thread := by
      intro url hurl
      obtain ⟨between, e₁, before, htrace, hsigned⟩ := hpre.signed url hurl
      exact path_unsigned htrace honce hsigned
    refine ⟨fun url hurl => ?_, fun url hurl url' hurl' hsame => ?_, fun o ho => ?_⟩
    · rcases (Table.mem_insert hnew).mp hurl with rfl | hurl
      · exact ⟨[], e, earlier, rfl, c, hc, hsite, rfl, hallowed⟩
      · exact hold url hurl
    · rcases (Table.mem_insert hnew).mp hurl with rfl | hurl
      · rcases (Table.mem_insert hnew).mp hurl' with rfl | hurl'
        · rfl
        · exact absurd hsame.symm (hfresh url' hurl')
      · rcases (Table.mem_insert hnew).mp hurl' with rfl | hurl'
        · exact absurd hsame (hfresh url hurl)
        · exact hpre.apart url hurl url' hurl' hsame
    · exact hstored o ho

end

/-- A seller who may upload, and nothing stored. -/
def kitchenTown : UploadDb where
  users := ⟨[⟨⟨0, 131⟩, "cook", "cook@town", .seller, false, none, none, false, none, none⟩], by decide⟩
  sellerProfiles := .empty
  signed := .empty
  objects := .empty

def signs (token : String) : SignAnswer := ⟨true, token, none⟩

/-- The seller asks for the URL of a dish's photo and puts the photo there, and then another one. -/
def dishPhoto : List (Pool.Action (uploadService {})) :=
  [.arrive ⟨"cook", .listingImage⟩, .run 0 (signs "t"), .run 0 (signs "t"), .event (.put "t" "tajine"),
    .event (.put "t" "couscous")]

theorem dishPhoto_own :
    OwnUploads {} (poolRun kitchenTown dishPhoto) (poolRun kitchenTown dishPhoto).state
      (poolRun kitchenTown dishPhoto).trace :=
  own_uploads {} kitchenTown ⟨rfl, rfl⟩ dishPhoto

/-- The second photo does not take the place of the first. -/
example : (poolRun kitchenTown dishPhoto).state.objects.rows =
    [⟨⟨"listings", "cook", generateUlid 0 0⟩, "t", "tajine"⟩] := by
  decide +kernel

end IncaCook
