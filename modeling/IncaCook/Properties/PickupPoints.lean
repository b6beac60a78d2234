import IncaCook.Properties.Addresses

/-!
# The pickup point on the profile

The radius search reads a seller's point from `SellerProfile.location`, a copy of the one
on the pickup address. Whatever writes the point of an address writes the copy, too; a
deletion writes neither.

Main results:

* `MirrorsPickup.move`: inserting or editing an address keeps the copy right;
* `mirrors_always_iff`: along a run, it is right until a pickup address with a point is
  deleted.
-/

namespace IncaCook

open Prog Users

variable {db db' : AddressDb} {w : Nat → AddressId} {dto : UpsertAddressDto} {u : UserId}

/-- The pickup address of a user, if it is not deleted. -/
def SavedAddress.IsPickup (a : SavedAddress) (u : UserId) : Prop :=
  a.userId = u ∧ a.kind = .sellerPickup ∧ a.deletedAt = none

/-- The location of every seller is the point of the pickup address, and none without one. -/
structure MirrorsPickup (db : AddressDb) : Prop where
  point : ∀ p ∈ db.sellerProfiles.rows, ∀ a ∈ db.addresses.rows, a.IsPickup p.userId → p.location = a.point
  absent : ∀ p ∈ db.sellerProfiles.rows, (∀ a ∈ db.addresses.rows, ¬a.IsPickup p.userId) → p.location = none

/-- The call deletes a pickup address with a point, of a seller with a profile. -/
def AddressCall.strands (c : AddressCall) (db : AddressDb) : Prop :=
  ∃ user a, c.deletes db = some (user, a) ∧ a.kind = .sellerPickup ∧ a.point ≠ none ∧
    ∃ p, db.sellerProfiles.find? user.id = some p

/-! ## One step -/

theorem no_pickup_iff :
    (∀ a ∈ db.addresses.rows, ¬a.IsPickup u) ↔ ∀ a ∈ db.saved, ¬a.IsPickup u := by
  rw [AddressDb.saved, List.forall_mem_map]

theorem OneAddressPerKind.pickup_unique (hone : OneAddressPerKind db) {a b : AddressRecord}
    (ha : a ∈ db.addresses.rows) (hb : b ∈ db.addresses.rows) (hpa : a.IsPickup u) (hpb : b.IsPickup u) :
    a = b := by
  have hsingle : a.kind.isSingleton = true := by rw [hpa.2.1]; rfl
  have hsame := hone _ (List.mem_map_of_mem ha) _ (List.mem_map_of_mem hb) (hpa.1.trans hpb.1.symm)
    (hpa.2.1.trans hpb.2.1.symm) hsingle
  exact Table.eq_of_key_eq ha hb (congrArg SavedAddress.id hsame)

/-- A new address has no point yet, and its owner had no pickup address. -/
theorem MirrorsPickup.inserted (h : MirrorsPickup db) {row : AddressRecord} {addresses : Table AddressRecord}
    (hvacant : row.kind.isSingleton = true → db.Vacant row.userId row.kind)
    (hinsert : db.addresses.insert? row = some addresses) (hpoint : row.point = none) :
    MirrorsPickup (db.inserted addresses) := by
  constructor
  · intro p hp a ha hpickup
    rcases (Table.mem_insert hinsert).mp ha with rfl | ha
    · have hnone : ∀ b ∈ db.saved, ¬b.IsPickup p.userId := by
        intro b hb hb'
        have hsingle : a.kind.isSingleton = true := by rw [hpickup.2.1]; rfl
        exact hvacant hsingle b hb ⟨hb'.1.trans hpickup.1.symm, hb'.2.1.trans hpickup.2.1.symm⟩
      rw [h.absent p hp (no_pickup_iff.mpr hnone), hpoint]
    · exact h.point p hp a ha hpickup
  · intro p hp hnone
    exact h.absent p hp fun a ha => hnone a ((Table.mem_insert hinsert).mpr (.inr ha))

/-- Editing an address leaves its owner and its point. -/
theorem MirrorsPickup.edited (h : MirrorsPickup db) {id : AddressId} {f : AddressRecord → AddressRecord}
    {hf : ∀ a, (f a).id = a.id} (hsaved : ∀ a, (f a).toSavedAddress = a.toSavedAddress)
    (hpoint : ∀ a, (f a).point = a.point) : MirrorsPickup (db.edited id f hf) := by
  constructor
  · intro p hp a ha ha'
    obtain ⟨a₀, ha₀, rfl⟩ := AddressDb.mem_edited.mp ha
    by_cases hid : a₀.id = id
    · rw [if_pos hid, hsaved] at ha'
      rw [if_pos hid, hpoint]
      exact h.point p hp a₀ ha₀ ha'
    · rw [if_neg hid] at ha' ⊢
      exact h.point p hp a₀ ha₀ ha'
  · intro p hp hnone
    have hsame : (db.edited id f hf).saved = db.saved := saved_update hsaved hf
    rw [no_pickup_iff, hsame] at hnone
    exact h.absent p hp (no_pickup_iff.mpr hnone)

/-- The point and its copy are written together. -/
theorem MirrorsPickup.withPoint (h : MirrorsPickup db) (hone : OneAddressPerKind db) {a : AddressRecord}
    (ha : a ∈ db.addresses.rows) (hlive : a.deletedAt = none) :
    MirrorsPickup (db.withPoint a.id a.userId a.kind dto) := by
  have hsaved : (db.withPoint a.id a.userId a.kind dto).saved = db.saved := AddressDb.withPoint_saved
  unfold AddressDb.withPoint at hsaved ⊢
  split
  case isFalse => exact h
  case isTrue hsent =>
    rw [if_pos hsent] at hsaved
    generalize makePoint dto.lng.orNull dto.lat.orNull = point at hsaved ⊢
    dsimp only at hsaved ⊢
    -- the other rows stay, and so do the profiles of other sellers
    have hrows : ∀ b ∈ (db.addresses.update a.id fun a : AddressRecord => { a with point }).rows,
        b.toSavedAddress = a.toSavedAddress ∧ b.point = point ∨ b ∈ db.addresses.rows ∧ b ≠ a := by
      intro b hb
      obtain ⟨b₀, hb₀, ⟨hid, rfl⟩ | ⟨hid, rfl⟩⟩ := Table.mem_update_cases hb
      · obtain rfl := Table.eq_of_key_eq hb₀ ha hid
        exact .inl ⟨rfl, rfl⟩
      · exact .inr ⟨hb₀, fun heq => hid (congrArg _ heq)⟩
    by_cases hkind : a.kind = .sellerPickup
    · have hown : a.IsPickup a.userId := ⟨rfl, hkind, hlive⟩
      rw [if_pos hkind] at hsaved ⊢
      have hprofiles : ∀ p ∈ (db.sellerProfiles.update a.userId fun p : SellerLocation =>
          { p with location := point }).rows,
          p.userId = a.userId ∧ p.location = point ∨ p.userId ≠ a.userId ∧ p ∈ db.sellerProfiles.rows := by
        intro p hp
        obtain ⟨p₀, hp₀, ⟨hid, rfl⟩ | ⟨hid, rfl⟩⟩ := Table.mem_update_cases hp
        · exact .inl ⟨hid, rfl⟩
        · exact .inr ⟨hid, hp₀⟩
      constructor
      · intro p hp b hb hpickup
        rcases hprofiles p hp with ⟨hid, hlocation⟩ | ⟨hid, hp⟩
        · rcases hrows b hb with ⟨-, hpoint⟩ | ⟨hb, hne⟩
          · rw [hlocation, hpoint]
          · exact absurd (hone.pickup_unique hb ha (hid ▸ hpickup) hown) hne
        · rcases hrows b hb with ⟨hsame, -⟩ | ⟨hb, -⟩
          · rw [hsame] at hpickup
            exact absurd hpickup.1.symm hid
          · exact h.point p hp b hb hpickup
      · intro p hp hnone
        rw [no_pickup_iff, hsaved] at hnone
        rcases hprofiles p hp with ⟨hid, -⟩ | ⟨-, hp⟩
        · exact absurd (hid ▸ hown) (hnone _ (List.mem_map_of_mem ha))
        · exact h.absent p hp (no_pickup_iff.mpr hnone)
    · rw [if_neg hkind] at hsaved ⊢
      constructor
      · intro p hp b hb hpickup
        rcases hrows b hb with ⟨hsame, -⟩ | ⟨hb, -⟩
        · rw [hsame] at hpickup
          exact absurd hpickup.2.1 hkind
        · exact h.point p hp b hb hpickup
      · intro p hp hnone
        rw [no_pickup_iff, hsaved] at hnone
        exact h.absent p hp (no_pickup_iff.mpr hnone)

/-- Every call but a deletion keeps the copy right. -/
theorem MirrorsPickup.move (h : MirrorsPickup db) (hone : OneAddressPerKind db) (hmove : AddressMove db db') :
    MirrorsPickup db' := by
  cases hmove with
  | stays => exact h
  | inserts row addresses dto hvacant hinsert hlive hpoint =>
    have hnew : row ∈ (db.inserted addresses).addresses.rows := (Table.mem_insert hinsert).mpr (.inl rfl)
    have hone' : OneAddressPerKind (db.inserted addresses) := by
      have hmove : AddressMove db ((db.inserted addresses).withPoint row.id row.userId row.kind
        ⟨"", "", .missing, none, none, none, none, none, none, .missing, .missing⟩) :=
        .inserts row addresses _ hvacant hinsert hlive hpoint
      exact hone.move hmove
    exact (h.inserted hvacant hinsert hpoint).withPoint hone' hnew hlive
  | edits a f hf dto ha hlive hsaved hpoint =>
    have hnew : f a ∈ (db.edited a.id f hf).addresses.rows := AddressDb.mem_edited.mpr ⟨a, ha, if_pos rfl⟩
    have hone' : OneAddressPerKind (db.edited a.id f hf) := by
      have hsame : (db.edited a.id f hf).saved = db.saved := saved_update hsaved hf
      unfold OneAddressPerKind
      rw [hsame]
      exact hone
    have hedited : MirrorsPickup (db.edited a.id f hf) := h.edited hsaved hpoint
    have hlive' : (f a).deletedAt = none := by rw [hsaved]; exact hlive
    have hpointed : MirrorsPickup ((db.edited a.id f hf).withPoint (f a).id (f a).userId (f a).kind dto) :=
      hedited.withPoint hone' hnew hlive'
    rw [hsaved] at hpointed
    exact hpointed

/-- A deletion keeps it right unless it takes away the point that was copied. -/
theorem mirrors_retired_iff (h : MirrorsPickup db) (hone : OneAddressPerKind db) {a : AddressRecord}
    (ha : a ∈ db.addresses.rows) (hlive : a.deletedAt = none) :
    MirrorsPickup (db.retired a.id) ↔
      ¬(a.kind = .sellerPickup ∧ a.point ≠ none ∧ ∃ p, db.sellerProfiles.find? a.userId = some p) := by
  -- the pickup addresses that are left
  have hleft : ∀ b u, b ∈ (db.retired a.id).addresses.rows → b.IsPickup u →
      b ∈ db.addresses.rows ∧ b ≠ a := by
    intro b u hb hpickup
    obtain ⟨b₀, hb₀, rfl⟩ := AddressDb.mem_retired.mp hb
    by_cases hid : b₀.id = a.id
    · rw [if_pos hid] at hpickup
      cases hpickup.2.2
    · rw [if_neg hid]
      exact ⟨hb₀, fun heq => hid (by rw [heq])⟩
  constructor
  · rintro hafter ⟨hkind, hpoint, p, hp⟩
    obtain ⟨hp, howner⟩ := Table.find?_eq_some.mp hp
    have hpickup : a.IsPickup p.userId := ⟨howner.symm, hkind, hlive⟩
    have hnone : p.location = none := by
      refine hafter.absent p hp fun b hb hb' => ?_
      obtain ⟨hb, hne⟩ := hleft b _ hb hb'
      exact hne (hone.pickup_unique hb ha hb' hpickup)
    rw [h.point p hp a ha hpickup] at hnone
    exact hpoint hnone
  · intro hkeeps
    constructor
    · intro p hp b hb hpickup
      exact h.point p hp b (hleft b _ hb hpickup).1 hpickup
    · intro p hp hnone
      by_cases hpickup : a.IsPickup p.userId
      · rw [h.point p hp a ha hpickup]
        by_contra hpoint
        exact hkeeps ⟨hpickup.2.1, hpoint, p, Table.find?_eq_some.mpr ⟨hp, hpickup.1.symm⟩⟩
      · refine h.absent p hp fun b hb hb' => hnone b ?_ hb'
        have hid : b.id ≠ a.id := fun heq => hpickup (Table.eq_of_key_eq hb ha heq ▸ hb')
        exact AddressDb.mem_retired.mpr ⟨b, hb, if_neg hid⟩

theorem addressHandle_mirrors (c : AddressCall) (h : MirrorsPickup db) (hone : OneAddressPerKind db) :
    MirrorsPickup ((addressHandle c).exec w db).state ↔ ¬c.strands db := by
  have hleaves := @addressHandle_leaves db w c
  cases hd : c.deletes db with
  | none =>
    rw [hd] at hleaves
    refine iff_of_true (h.move hone hleaves) ?_
    rintro ⟨user, a, hsome, -⟩
    cases hd.symm.trans hsome
  | some d =>
    obtain ⟨user, a⟩ := d
    rw [hd] at hleaves
    obtain ⟨-, ha, howner, hlive⟩ := AddressCall.deletes_eq_some hd
    rw [hleaves]
    refine (mirrors_retired_iff h hone ha hlive).trans (not_congr ?_)
    rw [howner]
    constructor
    · exact fun hstrands => ⟨user, a, hd, hstrands⟩
    · rintro ⟨v, b, hsome, hstrands⟩
      cases hd.symm.trans hsome
      exact hstrands

/-! ## Runs -/

/-- **The point on the profile.** In every sequence of calls, from a state where the index
holds and every profile has the point of its seller's pickup address, they all do all
along if and only if no seller with a profile deletes a pickup address with a point. -/
theorem mirrors_always_iff {s₀ : AddressDb} (hone : OneAddressPerKind s₀) (hmirrors : MirrorsPickup s₀)
    (inputs : List (Input addressService)) :
    Serial.Always MirrorsPickup s₀ inputs ↔ Serial.Unbroken AddressCall.strands s₀ inputs := by
  refine serial_always_iff (I := OneAddressPerKind) hone hmirrors (fun _ _ hI => hI)
    (fun _ _ _ hP => ⟨hP.point, hP.absent⟩) (fun _ _ => rfl)
    (fun _ c _ _ hI => addressHandle_onePerKind c hI) (fun _ c w db hI hP => ?_) inputs
  exact addressHandle_mirrors c hP hI

/-! ## A seller who deletes the pickup address -/

/-- Where every address is deleted, no profile has a point. -/
theorem MirrorsPickup.nowhere (h : MirrorsPickup db) (hnone : ∀ a ∈ db.addresses.rows, a.deletedAt ≠ none) :
    ∀ p ∈ db.sellerProfiles.rows, p.location = none :=
  fun p hp => h.absent p hp fun a ha hpickup => hnone a ha hpickup.2.2

theorem sellersRow_mirrors : MirrorsPickup sellersRow := by
  constructor
  · intro p _ a ha
    cases ha
  · intro p hp _
    obtain rfl := List.mem_singleton.mp hp
    rfl

/-- The seller saves a pickup address with a point, and moves it. -/
theorem pickupMoved_iff :
    Serial.Always MirrorsPickup sellersRow (pickupInputs 2) ↔
      Serial.Unbroken AddressCall.strands sellersRow (pickupInputs 2) :=
  mirrors_always_iff sellersRow_onePerKind sellersRow_mirrors _

/-- The seller deletes it, and is still found there. -/
theorem stranded_point : ¬Serial.Always MirrorsPickup sellersRow (pickupInputs 3) := by
  intro halways
  have hend := halways (pickupInputs 3) [] (List.append_nil _).symm
  have hnone : ∀ a ∈ (serialRun sellersRow (pickupInputs 3)).state.addresses.rows, a.deletedAt ≠ none := by
    decide +kernel
  have hstranded : ¬∀ p ∈ (serialRun sellersRow (pickupInputs 3)).state.sellerProfiles.rows,
      p.location = none := by decide +kernel
  exact hstranded (hend.nowhere hnone)

end IncaCook
