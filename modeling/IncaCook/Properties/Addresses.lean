import IncaCook.Library.Runs
import IncaCook.Steps.Addresses

/-!
# Replacing a deleted address

Sellers and drivers have one address of their kind. The code looks for it among the rows
that are not deleted, the index among all. So a deleted address stays in the way of the
next one.

Main results:

* `replaceable_iff`: whoever has no live address can save one if and only if no address
  of a seller or a driver is deleted;
* `replaceable_always_iff`: along a run, that lasts until one of them deletes theirs.
-/

namespace IncaCook

open Prog Users

variable {db db' : AddressDb} {w : Nat → AddressId} {supabaseId : String} {dto : UpsertAddressDto}
  {user : User} {kind : AddressKind} {u : UserId}

/-- The unique index: one row of a user and a kind, deleted or not. -/
def OneAddressPerKind (db : AddressDb) : Prop :=
  ∀ a ∈ db.saved, ∀ b ∈ db.saved, a.userId = b.userId → a.kind = b.kind → a.kind.isSingleton = true → a = b

/-- The call succeeded and left the user one live address of the kind. -/
def LeavesOne {α : Type} (u : UserId) (kind : AddressKind) (o : Outcome addressMachine α) : Prop :=
  (∃ a, o.result = .ok a) ∧ (o.state.liveAddresses u kind).length = 1

/-- Sellers and drivers who have no live address of their kind can save one, as long as
its new id is not taken. -/
def Replaceable (db : AddressDb) : Prop :=
  ∀ supabaseId user, db.userBySupabaseId supabaseId = some user →
    user.role = .seller ∨ user.role = .driver →
    db.liveAddresses user.id (kindForRole user.role) = [] →
    ∀ (dto : UpsertAddressDto) (w : Nat → AddressId), (∀ n, db.addresses.find? (w n) = none) →
      LeavesOne user.id (kindForRole user.role)
        ((upsertAddress supabaseId (kindForRole user.role) dto).exec w db) ∧
      LeavesOne user.id (kindForRole user.role) ((createAddress supabaseId dto).exec w db)

/-- No address of a seller or a driver is deleted. -/
def NothingRetired (db : AddressDb) : Prop :=
  ∀ supabaseId user, db.userBySupabaseId supabaseId = some user →
    user.role = .seller ∨ user.role = .driver →
    ∀ a ∈ db.saved, a.userId = user.id → a.kind = kindForRole user.role → a.deletedAt = none

/-- The call deletes the address of a seller or a driver. -/
def AddressCall.retires (c : AddressCall) (db : AddressDb) : Prop :=
  ∃ user a, c.deletes db = some (user, a) ∧ (user.role = .seller ∨ user.role = .driver) ∧
    a.kind = kindForRole user.role

/-! ## The kinds of sellers and drivers -/

theorem isSingleton_kindForRole {role : UserRole} (hrole : role = .seller ∨ role = .driver) :
    (kindForRole role).isSingleton = true := by
  rcases hrole with rfl | rfl
  · rfl
  · rfl

theorem roleForKind_kindForRole {role : UserRole} (hrole : role = .seller ∨ role = .driver) :
    role = roleForKind (kindForRole role) := by
  rcases hrole with rfl | rfl
  · rfl
  · rfl

/-! ## Saving a first address -/

/-- Ids do not run out. -/
instance : Infinite Ulid :=
  Infinite.of_injective (fun n : Nat => (⟨n, 0⟩ : Ulid)) fun _ _ h => congrArg Ulid.call h

theorem liveAddresses_eq_nil :
    db.liveAddresses u kind = [] ↔ ∀ a ∈ db.saved, a.userId = u → a.kind = kind → a.deletedAt ≠ none := by
  rw [← List.length_eq_zero_iff, AddressDb.length_liveAddresses, List.countP_eq_zero]
  simp

/-- Where nothing is deleted, having no live address is having none. -/
theorem NothingRetired.vacant (h : NothingRetired db) (hu : db.userBySupabaseId supabaseId = some user)
    (hrole : user.role = .seller ∨ user.role = .driver)
    (hnone : db.liveAddresses user.id (kindForRole user.role) = []) :
    db.Vacant user.id (kindForRole user.role) := by
  rintro a ha ⟨howner, hkind⟩
  exact liveAddresses_eq_nil.mp hnone a ha howner hkind (h supabaseId user hu hrole a ha howner hkind)

/-- A first row goes in, and is the only live one. -/
theorem insertAddress_first {row : AddressRecord} (hvacant : db.Vacant row.userId row.kind)
    (hlive : row.deletedAt = none) (hfresh : db.addresses.find? row.id = none) :
    ∃ db₁, insertAddress row db = .ok (row, db₁) ∧ ∀ id u kind dto,
      ((db₁.withPoint id u kind dto).liveAddresses row.userId row.kind).length = 1 := by
  obtain ⟨addresses, hinsert⟩ := Table.exists_insert hfresh
  refine ⟨db.inserted addresses, insertAddress_ok.mpr ⟨fun _ => hvacant, rfl, addresses, hinsert, rfl⟩, ?_⟩
  intro id u kind dto
  have hsaved : (db.inserted addresses).saved = row.toSavedAddress :: db.saved := by
    rw [AddressDb.saved, AddressDb.inserted, (Table.insert?_eq_some.mp hinsert).2]
    rfl
  have hothers : db.saved.countP (fun a => a.userId = row.userId && a.kind = row.kind &&
      a.deletedAt = none) = 0 := by
    rw [List.countP_eq_zero]
    intro a ha hlive
    simp only [Bool.and_eq_true, decide_eq_true_eq] at hlive
    exact hvacant a ha hlive.1
  rw [AddressDb.length_liveAddresses, AddressDb.withPoint_saved, hsaved, List.countP_cons_of_pos (by simp [hlive]),
    hothers]

theorem createAddress_first (hu : db.userBySupabaseId supabaseId = some user)
    (hvacant : db.Vacant user.id (kindForRole user.role)) (hfresh : ∀ n, db.addresses.find? (w n) = none) :
    LeavesOne user.id (kindForRole user.role) ((createAddress supabaseId dto).exec w db) := by
  let row := newAddress (w 1) user.id (kindForRole user.role) dto dto.postalCode.orNull db.now
  obtain ⟨db₁, hrun, hone⟩ := @insertAddress_first db row hvacant rfl (hfresh 1)
  obtain ⟨coords, steps, hexec⟩ := createAddress_exec hu hrun
  rw [hexec]
  exact ⟨⟨_, rfl⟩, hone _ _ _ _⟩

theorem upsertAddress_first (hu : db.userBySupabaseId supabaseId = some user) (hrole : user.role = roleForKind kind)
    (hnone : db.liveAddresses user.id kind = []) (hvacant : db.Vacant user.id kind)
    (hfresh : ∀ n, db.addresses.find? (w n) = none) :
    LeavesOne user.id kind ((upsertAddress supabaseId kind dto).exec w db) := by
  let row := newAddress (w 2) user.id kind dto (truthy dto.postalCode.orNull) db.now
  obtain ⟨db₁, hrun, hone⟩ := @insertAddress_first db row hvacant rfl (hfresh 2)
  have hsave : saveAddress (w 2) user.id kind (db.latestAddress user.id kind) dto db =
      .ok (row, db₁.withPoint row.id user.id kind dto) := by
    rw [AddressDb.latestAddress_none.mpr hnone]
    exact saveAddress_ok.mpr ⟨db₁, hrun, rfl⟩
  obtain ⟨steps, hexec⟩ := upsertAddress_exec hu hrole hsave
  rw [hexec]
  exact ⟨⟨_, rfl⟩, hone _ _ _ _⟩

/-- **Who can save an address**: everyone without one, unless one is deleted. -/
theorem replaceable_iff (hone : OneAddressPerKind db) : Replaceable db ↔ NothingRetired db := by
  constructor
  · intro h supabaseId user hu hrole a ha howner hkind
    by_contra hretired
    -- the deleted row is the only one, and still in the index
    have hnone : db.liveAddresses user.id (kindForRole user.role) = [] := by
      refine liveAddresses_eq_nil.mpr fun b hb hb' hbkind => ?_
      have hsingle : b.kind.isSingleton = true := hbkind ▸ isSingleton_kindForRole hrole
      rw [hone b hb a ha (hb'.trans howner.symm) (hbkind.trans hkind.symm) hsingle]
      exact hretired
    obtain ⟨id, hid⟩ := db.addresses.exists_unused
    let dto : UpsertAddressDto := ⟨"", "", .missing, none, none, none, none, none, none, .missing, .missing⟩
    obtain ⟨⟨r, hr⟩, -⟩ := (h supabaseId user hu hrole hnone dto (fun _ => id) fun _ => hid).2
    cases hrun : insertAddress (newAddress id user.id (kindForRole user.role) dto dto.postalCode.orNull
        db.now) db with
    | ok r =>
      obtain ⟨hvacant, -⟩ := insertAddress_ok.mp hrun
      exact hvacant (isSingleton_kindForRole hrole) a ha ⟨howner, hkind⟩
    | error e =>
      obtain ⟨steps, hexec⟩ := createAddress_refused (w := fun _ => id) hu hrun
      rw [hexec] at hr
      cases hr
  · intro h supabaseId user hu hrole hnone dto w hfresh
    have hvacant := h.vacant hu hrole hnone
    exact ⟨upsertAddress_first hu (roleForKind_kindForRole hrole) hnone hvacant hfresh,
      createAddress_first hu hvacant hfresh⟩

/-! ## Runs -/

theorem OneAddressPerKind.move (hone : OneAddressPerKind db) (hmove : AddressMove db db') :
    OneAddressPerKind db' := by
  obtain ⟨-, hsame | ⟨row, -, hvacant, hsaved⟩⟩ := hmove.saved
  · unfold OneAddressPerKind
    rw [hsame]
    exact hone
  · intro a ha b hb howner hkind hsingle
    rw [hsaved] at ha hb
    rcases List.mem_cons.mp ha with rfl | ha
    · rcases List.mem_cons.mp hb with rfl | hb
      · rfl
      · exact absurd ⟨howner.symm, hkind.symm⟩ (hvacant hsingle b hb)
    · rcases List.mem_cons.mp hb with rfl | hb
      · exact absurd ⟨howner, hkind⟩ (hvacant (hkind ▸ hsingle) a (by assumption))
      · exact hone a ha b hb howner hkind hsingle

theorem OneAddressPerKind.retired (hone : OneAddressPerKind db) (id : AddressId) :
    OneAddressPerKind (db.retired id) := by
  intro a ha b hb howner hkind hsingle
  obtain ⟨a₀, ha₀, rfl⟩ := AddressDb.mem_saved_retired.mp ha
  obtain ⟨b₀, hb₀, rfl⟩ := AddressDb.mem_saved_retired.mp hb
  have hkeeps : ∀ c : SavedAddress, (if c.id = id then { c with deletedAt := some db.now } else c).userId = c.userId ∧
      (if c.id = id then { c with deletedAt := some db.now } else c).kind = c.kind := by
    intro c
    split
    · exact ⟨rfl, rfl⟩
    · exact ⟨rfl, rfl⟩
  rw [(hkeeps _).1, (hkeeps _).1] at howner
  rw [(hkeeps _).2] at hsingle
  rw [(hkeeps _).2, (hkeeps _).2] at hkind
  rw [hone a₀ ha₀ b₀ hb₀ howner hkind hsingle]

/-- Every call keeps the index. -/
theorem addressHandle_onePerKind (c : AddressCall) (hone : OneAddressPerKind db) :
    OneAddressPerKind ((addressHandle c).exec w db).state := by
  have hleaves := @addressHandle_leaves db w c
  cases hd : c.deletes db with
  | none =>
    rw [hd] at hleaves
    exact hone.move hleaves
  | some d =>
    rw [hd] at hleaves
    rw [hleaves]
    exact hone.retired _

theorem NothingRetired.move (h : NothingRetired db) (hmove : AddressMove db db') : NothingRetired db' := by
  obtain ⟨husers, hsaved⟩ := hmove.saved
  intro supabaseId user hu hrole a ha howner hkind
  have hbefore : db.userBySupabaseId supabaseId = some user := by
    rw [AddressDb.userBySupabaseId, husers] at hu
    exact hu
  rcases hsaved with hsame | ⟨row, hlive, -, hcons⟩
  · exact h supabaseId user hbefore hrole a (hsame ▸ ha) howner hkind
  · rw [hcons] at ha
    rcases List.mem_cons.mp ha with rfl | ha
    · exact hlive
    · exact h supabaseId user hbefore hrole a ha howner hkind

/-- A deletion leaves nothing deleted exactly if the address is not of its owner's kind. -/
theorem nothingRetired_retired_iff {a : AddressRecord} (h : NothingRetired db)
    (hu : db.userBySupabaseId supabaseId = some user) (ha : a ∈ db.addresses.rows) (howner : a.userId = user.id) :
    NothingRetired (db.retired a.id) ↔
      ¬((user.role = .seller ∨ user.role = .driver) ∧ a.kind = kindForRole user.role) := by
  have hsaved : a.toSavedAddress ∈ db.saved := List.mem_map_of_mem ha
  have hrow : { a.toSavedAddress with deletedAt := some db.now } ∈ (db.retired a.id).saved :=
    AddressDb.mem_saved_retired.mpr ⟨_, hsaved, if_pos rfl⟩
  constructor
  · rintro hafter ⟨hrole, hkind⟩
    cases hafter supabaseId user hu hrole _ hrow howner hkind
  · intro hother sub v hv hrole b hb hb' hbkind
    obtain ⟨b₀, hb₀, rfl⟩ := AddressDb.mem_saved_retired.mp hb
    by_cases hid : b₀.id = a.id
    · exfalso
      rw [if_pos hid] at hb' hbkind
      -- the deleted row is the user's own
      obtain ⟨b₁, hb₁, rfl⟩ := List.mem_map.mp hb₀
      obtain rfl : b₁ = a := Table.eq_of_key_eq hb₁ ha hid
      have hsame : v = user :=
        Table.eq_of_key_eq (List.mem_of_find?_eq_some hv) (List.mem_of_find?_eq_some hu)
          (hb'.symm.trans howner)
      subst hsame
      exact hother ⟨hrole, hbkind⟩
    · rw [if_neg hid] at hb' hbkind ⊢
      exact h sub v hv hrole b₀ hb₀ hb' hbkind

theorem addressHandle_nothingRetired (c : AddressCall) (h : NothingRetired db) :
    NothingRetired ((addressHandle c).exec w db).state ↔ ¬c.retires db := by
  have hleaves := @addressHandle_leaves db w c
  cases hd : c.deletes db with
  | none =>
    rw [hd] at hleaves
    refine iff_of_true (h.move hleaves) ?_
    rintro ⟨user, a, hsome, -⟩
    cases hd.symm.trans hsome
  | some d =>
    obtain ⟨user, a⟩ := d
    rw [hd] at hleaves
    obtain ⟨⟨sub, hu⟩, ha, howner, -⟩ := AddressCall.deletes_eq_some hd
    rw [hleaves]
    refine (nothingRetired_retired_iff h hu ha howner).trans (not_congr ?_)
    constructor
    · exact fun hown => ⟨user, a, hd, hown⟩
    · rintro ⟨v, b, hsome, hown⟩
      cases hd.symm.trans hsome
      exact hown

/-- **Replacing a deleted address.** In every sequence of calls, from a state where the
index holds and sellers and drivers without a live address can save one, they can all
along if and only if none of them deletes the address of their kind. -/
theorem replaceable_always_iff {s₀ : AddressDb} (hone : OneAddressPerKind s₀) (hreplace : Replaceable s₀)
    (inputs : List (Input addressService)) :
    Serial.Always Replaceable s₀ inputs ↔ Serial.Unbroken AddressCall.retires s₀ inputs := by
  refine serial_always_iff (I := OneAddressPerKind) hone hreplace (fun _ _ hI => hI) (fun ms db hI hP => ?_) (fun _ _ => rfl)
    (fun _ c _ _ hI => addressHandle_onePerKind c hI) (fun _ c w db hI hP => ?_) inputs
  · -- time passes, the rows stay
    have hlater : OneAddressPerKind (addressService.event ms db) := hI
    exact (replaceable_iff hlater).mpr ((replaceable_iff hI).mp hP)
  · rw [replaceable_iff hI] at hP
    exact (replaceable_iff (addressHandle_onePerKind c hI)).trans (addressHandle_nothingRetired c hP)

/-! ## A seller who moves -/

/-- One seller, with a profile. -/
def sellersRow : AddressDb where
  now := 0
  users := ⟨[⟨⟨0, 1⟩, "seller", "seller@town", .seller, false, none, none, false, none, none⟩], by decide⟩
  sellerProfiles := ⟨[⟨⟨0, 1⟩, none⟩], by decide⟩
  addresses := .empty

def sellersBody (lng lat : Rat) : UpsertAddressDto :=
  ⟨"1 rue du Four", "Paris", .missing, none, none, none, none, none, none, .value lat, .value lng⟩

/-- The first of: the seller saves a pickup address, moves it, deletes it and saves another. -/
def pickupInputs (n : Nat) : List (Input addressService) :=
  [.call (.upsertAddress "seller" .sellerPickup (sellersBody 2 48)) fun _ => ⟨1, 0⟩,
    .call (.updateAddressById "seller" ⟨1, 0⟩ (sellersBody 3 49)) fun _ => ⟨2, 0⟩,
    .call (.deleteAddressById "seller" ⟨1, 0⟩) fun _ => ⟨3, 0⟩,
    .call (.createAddress "seller" (sellersBody 4 50)) fun _ => ⟨4, 0⟩].take n

theorem sellersRow_onePerKind : OneAddressPerKind sellersRow := by
  intro a ha
  cases ha

theorem sellersRow_replaceable : Replaceable sellersRow := by
  refine (replaceable_iff sellersRow_onePerKind).mpr ?_
  intro supabaseId user _ _ a ha
  cases ha

theorem pickupReplaced_iff :
    Serial.Always Replaceable sellersRow (pickupInputs 4) ↔
      Serial.Unbroken AddressCall.retires sellersRow (pickupInputs 4) :=
  replaceable_always_iff sellersRow_onePerKind sellersRow_replaceable _

/-- Once the address is deleted, there is no other. -/
theorem irreplaceable_address : ¬Serial.Always Replaceable sellersRow (pickupInputs 3) := by
  intro halways
  have hend := halways (pickupInputs 3) [] (List.append_nil _).symm
  let last := (serialRun sellersRow (pickupInputs 3)).state
  let seller : User := ⟨⟨0, 1⟩, "seller", "seller@town", .seller, false, none, none, false, none, none⟩
  have hseller : last.userBySupabaseId "seller" = some seller := by decide +kernel
  have hnone : last.liveAddresses ⟨0, 1⟩ .sellerPickup = [] := by decide +kernel
  have hfresh : last.addresses.find? ⟨4, 0⟩ = none := by decide +kernel
  have hrefused : ((createAddress "seller" (sellersBody 4 50)).exec (fun _ => ⟨4, 0⟩) last).result.isOk =
    false := by decide +kernel
  obtain ⟨⟨r, hr⟩, -⟩ := (hend "seller" seller hseller (.inl rfl) hnone (sellersBody 4 50) _ fun _ => hfresh).2
  rw [hr] at hrefused
  cases hrefused

end IncaCook
