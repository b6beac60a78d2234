import IncaCook.Library.Statement
import IncaCook.Model.Uploads

/-!
# The steps of the uploads

A call looks its user up and has one URL signed.

Main result:

* `createUploadUrl_sat`: it signs only once it has seen that the user may, and only the path that it
  has made up.
-/

namespace IncaCook

open Prog Uploads

/-- The call has seen that the user behind the login may upload for the purpose. -/
def SeenAllowed (h : List (StepRecord uploadMachine)) (sub : String) (purpose : UploadPurpose) : Prop :=
  ∃ t ∈ h, ∃ user, t.pre.userBySupabaseId sub = some user ∧ user.role ∈ (purposeRules purpose).allowedRoles ∧
    (purposeRules purpose).blockedFor (t.pre.categoryOf user.id) = none

/-- The path that call number `me` makes up. -/
def UploadCall.path (call : UploadCall) (buckets : SupabaseBuckets) (me : Nat) : ObjectPath :=
  ⟨bucketName buckets (purposeRules call.purpose).bucketConfigKey, call.supabaseId, generateUlid me 0⟩

/-- What one step of call number `me` can do after its steps `h`. -/
inductive UploadStep (buckets : SupabaseBuckets) (me : Nat) (call : UploadCall)
    (h : List (StepRecord uploadMachine)) : UploadSite → UploadDb → UploadDb → Prop where
  /-- a read, or a statement that failed -/
  | noop (site : UploadSite) (s : UploadDb) : UploadStep buckets me call h site s s
  | sign {s : UploadDb} (token : String) (signed : Table SignedUpload)
      (hallowed : SeenAllowed h call.supabaseId call.purpose) (honce : ∀ t ∈ h, t.site = .query)
      (hnew : s.signed.insert? ⟨token, call.path buckets me⟩ = some signed) :
      UploadStep buckets me call h (.sign (call.path buckets me)) s { s with signed }

/-- The contract of a call: it takes such steps, whatever the others do. -/
def uploadContract (buckets : SupabaseBuckets) (me : Nat) (call : UploadCall) : Contract uploadMachine where
  rely _ _ := True
  guar h site s s' := UploadStep buckets me call h site s s'

section

variable {buckets : SupabaseBuckets} {s s' : UploadDb}

theorem createSignedUploadUrl_ok {path : ObjectPath} {answer : SignAnswer} {token : String}
    (hrun : createSignedUploadUrl path answer s = .ok (token, s')) :
    ∃ signed, s.signed.insert? ⟨answer.token, path⟩ = some signed ∧ s' = { s with signed } := by
  simp only [createSignedUploadUrl, Stmt.bind_ok, Stmt.get_ok, Stmt.throwIf_ok, Stmt.orThrow_ok, Stmt.set_ok,
    Stmt.pure_ok] at hrun
  obtain ⟨db, _, ⟨hdb, rfl⟩, _, _, ⟨-, rfl⟩, signed, _, ⟨hnew, rfl⟩, _, _, rfl, -, rfl⟩ := hrun
  subst hdb
  exact ⟨signed, hnew, rfl⟩

/-- **A URL is signed only for those who may**, and only for the path of the call. -/
theorem createUploadUrl_sat (buckets : SupabaseBuckets) (me : Nat) (call : UploadCall) (s : UploadDb) :
    Sat (uploadContract buckets me call) anyPost (createUploadUrl buckets me call.supabaseId call.purpose) [] s := by
  refine sat_read_bind fun s' _ => ⟨.noop _ _, ?_⟩
  refine sat_orThrow_bind (fun _ => trivial) fun found hfound => ?_
  obtain ⟨user, huser, rfl⟩ := Option.map_eq_some_iff.mp hfound
  refine sat_throwIf_bind (fun _ => trivial) fun hrole => ?_
  refine sat_throwIf_bind (fun _ => trivial) fun hblocked => ?_
  refine sat_bind_free (sat_await fun s'' _ answer => ⟨fun _ _ => ⟨.noop _ _, trivial⟩, ?_⟩) fun _ => free_pure
  intro token s₁ hrun
  obtain ⟨signed, hnew, rfl⟩ := createSignedUploadUrl_ok hrun
  have hallowed : SeenAllowed [⟨.query, s', s'⟩] call.supabaseId call.purpose :=
    ⟨_, List.mem_cons_self, user, huser, of_not_not hrole, by simpa using hblocked⟩
  exact ⟨.sign _ signed hallowed (fun t ht => by rw [List.mem_singleton.mp ht]) hnew, trivial⟩

end

end IncaCook
