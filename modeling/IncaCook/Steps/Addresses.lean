import IncaCook.Library.Crash
import IncaCook.Model.Addresses

/-!
# What the address calls do

Each of the four operations, run alone, is reduced to the state that it leaves. An
upsert, a creation and an update insert a row or edit one that is not deleted, and then
write its point (`AddressDb.withPoint`); a deletion retires a row (`AddressDb.retired`).
-/

namespace IncaCook

open Prog Users

variable {db db' : AddressDb} {w : Nat → AddressId} {supabaseId : String} {dto : UpsertAddressDto}
  {user : User} {kind : AddressKind} {id : AddressId} {u : UserId}

/-! ## States -/

/-- Whose the addresses are, and whether they are deleted. -/
def AddressDb.saved (db : AddressDb) : List SavedAddress :=
  db.addresses.rows.map AddressRecord.toSavedAddress

/-- A new row. -/
def AddressDb.inserted (db : AddressDb) (addresses : Table AddressRecord) : AddressDb :=
  { db with addresses }

/-- One row rewritten. -/
def AddressDb.edited (db : AddressDb) (id : AddressId) (f : AddressRecord → AddressRecord)
    (hf : ∀ a, (f a).id = a.id) : AddressDb :=
  { db with addresses := db.addresses.update id f hf }

/-- The point of a row and its mirror, when both coordinates are sent. -/
def AddressDb.withPoint (db : AddressDb) (id : AddressId) (u : UserId) (kind : AddressKind)
    (dto : UpsertAddressDto) : AddressDb :=
  if dto.lat.isSent && dto.lng.isSent then
    let point := makePoint dto.lng.orNull dto.lat.orNull
    { db with
      addresses := db.addresses.update id fun a : AddressRecord => { a with point }
      sellerProfiles :=
        if kind = .sellerPickup then
          db.sellerProfiles.update u fun p : SellerLocation => { p with location := point }
        else db.sellerProfiles }
  else db

/-- The row is deleted now. -/
def AddressDb.retired (db : AddressDb) (id : AddressId) : AddressDb :=
  { db with
    addresses := db.addresses.update id fun a : AddressRecord =>
      { a with deletedAt := some db.now, updatedAt := db.now } }

theorem saved_update {addresses : Table AddressRecord} {f : AddressRecord → AddressRecord}
    (hsaved : ∀ a, (f a).toSavedAddress = a.toSavedAddress) (hf : ∀ a, (f a).id = a.id) :
    (addresses.update id f hf).rows.map AddressRecord.toSavedAddress =
      addresses.rows.map AddressRecord.toSavedAddress :=
  Table.map_rewritten _ _ hsaved

@[simp] theorem AddressDb.withPoint_users : (db.withPoint id u kind dto).users = db.users := by
  unfold withPoint
  split
  · rfl
  · rfl

@[simp] theorem AddressDb.withPoint_saved : (db.withPoint id u kind dto).saved = db.saved := by
  unfold withPoint
  split
  · exact saved_update (f := fun a => { a with point := makePoint dto.lng.orNull dto.lat.orNull })
      (fun _ => rfl) fun _ => rfl
  · rfl

theorem AddressDb.mem_edited {f : AddressRecord → AddressRecord} {hf : ∀ a, (f a).id = a.id}
    {a : AddressRecord} :
    a ∈ (db.edited id f hf).addresses.rows ↔ ∃ b ∈ db.addresses.rows, (if b.id = id then f b else b) = a := by
  simp only [edited, Table.mem_update]
  rfl

theorem AddressDb.mem_retired {a : AddressRecord} :
    a ∈ (db.retired id).addresses.rows ↔ ∃ b ∈ db.addresses.rows,
      (if b.id = id then { b with deletedAt := some db.now, updatedAt := db.now } else b) = a := by
  simp only [retired, Table.mem_update]
  rfl

/-- The live addresses are counted on what is saved. -/
theorem AddressDb.length_liveAddresses :
    (db.liveAddresses u kind).length =
      db.saved.countP fun a => a.userId = u && a.kind = kind && a.deletedAt = none := by
  rw [liveAddresses, saved, List.countP_map, List.countP_eq_length_filter]
  rfl

theorem AddressDb.ownAddress_eq_some {a : AddressRecord} :
    db.ownAddress u id = some a ↔
      a ∈ db.addresses.rows ∧ a.id = id ∧ a.userId = u ∧ a.deletedAt = none := by
  unfold ownAddress
  rw [Option.filter_eq_some_iff, Table.find?_eq_some, and_assoc]
  simp only [Bool.and_eq_true, decide_eq_true_eq]
  rfl

theorem AddressDb.latestAddress_some {a : AddressRecord} (ha : db.latestAddress u kind = some a) :
    a ∈ db.addresses.rows ∧ a.userId = u ∧ a.kind = kind ∧ a.deletedAt = none := by
  have hmem := Paging.mem_orderBy.mp (List.mem_of_mem_head? ha)
  simpa [liveAddresses, and_assoc] using hmem

theorem AddressDb.latestAddress_none : db.latestAddress u kind = none ↔ db.liveAddresses u kind = [] := by
  unfold latestAddress
  rw [List.head?_eq_none_iff, ← List.length_eq_zero_iff, Paging.length_orderBy, List.length_eq_zero_iff]

/-! ## Statements -/

/-- The index has no row of the user and the kind. -/
def AddressDb.Vacant (db : AddressDb) (u : UserId) (kind : AddressKind) : Prop :=
  ∀ a ∈ db.saved, ¬(a.userId = u ∧ a.kind = kind)

theorem insertAddress_ok {row row' : AddressRecord} :
    insertAddress row db = .ok (row', db') ↔
      (row.kind.isSingleton = true → db.Vacant row.userId row.kind) ∧ row' = row ∧
        ∃ addresses, db.addresses.insert? row = some addresses ∧ db' = db.inserted addresses := by
  unfold insertAddress
  simp only [Stmt.bind_ok, Stmt.get_ok, Stmt.throwIf_ok, Stmt.orThrow_ok, Stmt.set_ok, Stmt.pure_ok]
  have hvacant : ¬((row.kind.isSingleton && db.addresses.rows.any fun a =>
      decide (a.userId = row.userId) && decide (a.kind = row.kind)) = true) ↔
      (row.kind.isSingleton = true → db.Vacant row.userId row.kind) := by
    simp [AddressDb.Vacant, AddressDb.saved]
  constructor
  · rintro ⟨_, _, ⟨rfl, rfl⟩, _, _, ⟨hfree, rfl⟩, addresses, _, ⟨hins, rfl⟩, _, _, rfl, rfl, rfl⟩
    exact ⟨hvacant.mp hfree, rfl, addresses, hins, rfl⟩
  · rintro ⟨hfree, rfl, addresses, hins, rfl⟩
    exact ⟨db, db, ⟨rfl, rfl⟩, (), db, ⟨hvacant.mpr hfree, rfl⟩, addresses, db, ⟨hins, rfl⟩, ⟨⟩, _, rfl,
      rfl, rfl⟩

theorem updateAddress_ok {a : AddressRecord} {f : AddressRecord → AddressRecord}
    {hf : ∀ a, (f a).id = a.id} :
    updateAddress id f hf db = .ok (a, db') ↔
      ∃ a₀, db.addresses.find? id = some a₀ ∧ a = f a₀ ∧ db' = db.edited id f hf := by
  unfold updateAddress
  simp only [Stmt.bind_ok, Stmt.get_ok, Stmt.orThrow_ok, Stmt.set_ok, Stmt.pure_ok]
  constructor
  · rintro ⟨_, _, ⟨rfl, rfl⟩, a₀, _, ⟨hfound, rfl⟩, _, _, rfl, rfl, rfl⟩
    exact ⟨a₀, hfound, rfl, rfl⟩
  · rintro ⟨a₀, hfound, rfl, rfl⟩
    exact ⟨db, db, ⟨rfl, rfl⟩, a₀, db, ⟨hfound, rfl⟩, ⟨⟩, _, rfl, rfl, rfl⟩

theorem writePointIfPresent_exec :
    ∃ steps, (writePointIfPresent id u kind dto).exec w db = ⟨.ok (), db.withPoint id u kind dto, steps⟩ := by
  unfold writePointIfPresent AddressDb.withPoint
  split
  · dsimp only
    by_cases hkind : kind = .sellerPickup
    · rw [if_pos hkind, if_pos hkind]
      exact ⟨_, rfl⟩
    · rw [if_neg hkind, if_neg hkind]
      exact ⟨_, rfl⟩
  · exact ⟨_, rfl⟩

/-- What is written before the point. -/
def savedRow (addressId : AddressId) (u : UserId) (kind : AddressKind) (existing : Option AddressRecord)
    (dto : UpsertAddressDto) (now : Time) : AddressTx AddressRecord :=
  let postalCode := truthy dto.postalCode.orNull
  match existing with
  | some existing => updateAddress existing.id (addressFields dto postalCode now)
  | none => insertAddress (newAddress addressId u kind dto postalCode now)

theorem saveAddress_ok {existing : Option AddressRecord} {a : AddressRecord} :
    saveAddress id u kind existing dto db = .ok (a, db') ↔
      ∃ db₁, savedRow id u kind existing dto db.now db = .ok (a, db₁) ∧
        db' = db₁.withPoint a.id u kind dto := by
  have hpoint : ∀ a db₁, ((do
      if dto.lat.isSent && dto.lng.isSent then
        let point := makePoint dto.lng.orNull dto.lat.orNull
        setPoint a.id point
        if kind = .sellerPickup then
          setLocation u point
      return a : AddressTx AddressRecord) db₁) = .ok (a, db₁.withPoint a.id u kind dto) := by
    intro a db₁
    unfold AddressDb.withPoint
    split
    · dsimp only
      by_cases hkind : kind = .sellerPickup
      · rw [if_pos hkind, if_pos hkind]
        rfl
      · rw [if_neg hkind, if_neg hkind]
        rfl
    · rfl
  have hsave : saveAddress id u kind existing dto db =
      (savedRow id u kind existing dto db.now >>= fun a => do
        if dto.lat.isSent && dto.lng.isSent then
          let point := makePoint dto.lng.orNull dto.lat.orNull
          setPoint a.id point
          if kind = .sellerPickup then
            setLocation u point
        return a) db := by
    unfold savedRow
    cases existing with
    | none => rfl
    | some existing => rfl
  rw [hsave, Stmt.bind_ok]
  constructor
  · rintro ⟨b, db₁, hrun, hrest⟩
    rw [hpoint] at hrest
    cases hrest
    exact ⟨db₁, hrun, rfl⟩
  · rintro ⟨db₁, hrun, rfl⟩
    exact ⟨a, db₁, hrun, hpoint a db₁⟩

/-! ## Calls -/

/-- Where the caller has no row of the kind yet, a creation goes through. -/
theorem createAddress_exec {row : AddressRecord} (hu : db.userBySupabaseId supabaseId = some user)
    (hrun : insertAddress (newAddress (w 1) user.id (kindForRole user.role) dto dto.postalCode.orNull db.now) db =
      .ok (row, db')) :
    ∃ coords steps, (createAddress supabaseId dto).exec w db =
      ⟨.ok (row, coords), db'.withPoint row.id user.id (kindForRole user.role) dto, steps⟩ := by
  unfold createAddress
  obtain ⟨steps, hpoint⟩ := @writePointIfPresent_exec db' (fun n => w (n + 2)) dto (kindForRole user.role)
    row.id user.id
  rw [exec_read_bind, hu, exec_orThrow_bind, exec_await_bind_ok hrun, exec_bind_of_ok hpoint]
  exact ⟨_, _, rfl⟩

theorem createAddress_refused {e : Err} (hu : db.userBySupabaseId supabaseId = some user)
    (hrun : insertAddress (newAddress (w 1) user.id (kindForRole user.role) dto dto.postalCode.orNull db.now) db =
      .error e) : ∃ steps, (createAddress supabaseId dto).exec w db = ⟨.error e, db, steps⟩ := by
  unfold createAddress
  rw [exec_read_bind, hu, exec_orThrow_bind, exec_await_bind_error hrun]
  exact ⟨_, rfl⟩

theorem upsertAddress_exec {a : AddressRecord} (hu : db.userBySupabaseId supabaseId = some user)
    (hrole : user.role = roleForKind kind)
    (hrun : saveAddress (w 2) user.id kind (db.latestAddress user.id kind) dto db = .ok (a, db')) :
    ∃ steps, (upsertAddress supabaseId kind dto).exec w db = ⟨.ok a, db', steps⟩ := by
  unfold upsertAddress
  rw [exec_read_bind, hu, exec_orThrow_bind, exec_throwIf_bind (not_not_intro hrole), exec_read_bind,
    exec_await_ok hrun]
  exact ⟨_, rfl⟩

/-- The user has no live address of the kind, or the row is its latest one. -/
theorem upsertAddress_state :
    ((upsertAddress supabaseId kind dto).exec w db).state =
      match db.userBySupabaseId supabaseId with
      | none => db
      | some user =>
        if user.role ≠ roleForKind kind then db
        else match saveAddress (w 2) user.id kind (db.latestAddress user.id kind) dto db with
          | .ok (_, db') => db'
          | .error _ => db := by
  unfold upsertAddress
  rw [state_read_bind, state_orThrow_bind]
  cases db.userBySupabaseId supabaseId with
  | none => rfl
  | some user =>
    dsimp only
    rw [state_throwIf_bind, state_read_bind, state_await]
    split
    · rfl
    · have hanswer : w (0 + 1 + 1) = w 2 := rfl
      rw [hanswer]
      cases saveAddress (w 2) user.id kind (db.latestAddress user.id kind) dto db with
      | ok r => rfl
      | error e => rfl

/-- The rewriting of an update. -/
def Users.UpsertAddressDto.rewrite (dto : UpsertAddressDto) (now : Time) (a : AddressRecord) : AddressRecord :=
  addressFields dto (dto.postalCode.written a.postalCode) now a

theorem rewrite_id {now : Time} (a : AddressRecord) : (dto.rewrite now a).id = a.id := rfl

theorem updateAddressById_state :
    ((updateAddressById supabaseId id dto).exec w db).state =
      match (db.userBySupabaseId supabaseId).bind fun user => db.ownAddress user.id id with
      | none => db
      | some a => (db.edited a.id (dto.rewrite db.now) rewrite_id).withPoint a.id a.userId a.kind dto := by
  unfold updateAddressById
  rw [state_read_bind, state_orThrow_bind]
  cases hu : db.userBySupabaseId supabaseId with
  | none => rfl
  | some user =>
    dsimp only [Option.bind_some]
    rw [state_read_bind, state_orThrow_bind]
    cases ha : db.ownAddress user.id id with
    | none => rfl
    | some a =>
      obtain ⟨hmem, -, hown, -⟩ := AddressDb.ownAddress_eq_some.mp ha
      have hrun : updateAddress a.id (dto.rewrite db.now) rewrite_id db = .ok (_, _) :=
        updateAddress_ok.mpr ⟨a, Table.find?_of_mem hmem, rfl, rfl⟩
      obtain ⟨steps, hpoint⟩ := @writePointIfPresent_exec (db.edited a.id (dto.rewrite db.now) rewrite_id)
        (fun n => w (n + 3)) dto a.kind (dto.rewrite db.now a).id a.userId
      dsimp only
      rw [exec_await_bind_ok hrun, ← hown]
      dsimp only
      rw [exec_bind_of_ok hpoint]
      rfl

/-- The address that a call deletes, with its owner. -/
def AddressCall.deletes : AddressCall → AddressDb → Option (User × AddressRecord)
  | .deleteAddressById supabaseId id, db =>
    (db.userBySupabaseId supabaseId).bind fun user => (db.ownAddress user.id id).map fun a => (user, a)
  | .upsertAddress _ _ _, _ => none
  | .createAddress _ _, _ => none
  | .updateAddressById _ _ _, _ => none

theorem deleteAddressById_state :
    ((deleteAddressById supabaseId id).exec w db).state =
      match (AddressCall.deleteAddressById supabaseId id).deletes db with
      | none => db
      | some (_, a) => db.retired a.id := by
  unfold deleteAddressById
  dsimp only [AddressCall.deletes]
  rw [state_read_bind, state_orThrow_bind]
  cases db.userBySupabaseId supabaseId with
  | none => rfl
  | some user =>
    dsimp only [Option.bind_some]
    rw [state_read_bind, state_orThrow_bind]
    cases ha : db.ownAddress user.id id with
    | none => rfl
    | some a =>
      obtain ⟨hmem, -, -, -⟩ := AddressDb.ownAddress_eq_some.mp ha
      have hrun : updateAddress a.id (fun a => { a with deletedAt := some db.now, updatedAt := db.now })
          (fun _ => rfl) db = .ok (_, _) :=
        updateAddress_ok.mpr ⟨a, Table.find?_of_mem hmem, rfl, rfl⟩
      dsimp only
      rw [exec_await_bind_ok hrun]
      rfl

/-! ## Moves -/

/-- What a call other than a deletion can do: nothing, or write a row that is not deleted
and its point. -/
inductive AddressMove (db : AddressDb) : AddressDb → Prop where
  | stays : AddressMove db db
  | inserts (row : AddressRecord) (addresses : Table AddressRecord) (dto : UpsertAddressDto)
      (hvacant : row.kind.isSingleton = true → db.Vacant row.userId row.kind)
      (hinsert : db.addresses.insert? row = some addresses) (hlive : row.deletedAt = none)
      (hpoint : row.point = none) :
      AddressMove db ((db.inserted addresses).withPoint row.id row.userId row.kind dto)
  | edits (a : AddressRecord) (f : AddressRecord → AddressRecord) (hf : ∀ a, (f a).id = a.id)
      (dto : UpsertAddressDto) (ha : a ∈ db.addresses.rows) (hlive : a.deletedAt = none)
      (hsaved : ∀ a, (f a).toSavedAddress = a.toSavedAddress) (hpoint : ∀ a, (f a).point = a.point) :
      AddressMove db ((db.edited a.id f hf).withPoint a.id a.userId a.kind dto)

theorem insertAddress_moves {postalCode : Option String} {a : AddressRecord}
    (hrun : insertAddress (newAddress id u kind dto postalCode db.now) db = .ok (a, db')) :
    AddressMove db (db'.withPoint a.id u kind dto) := by
  obtain ⟨hvacant, rfl, addresses, hinsert, rfl⟩ := insertAddress_ok.mp hrun
  exact .inserts _ addresses dto hvacant hinsert rfl rfl

theorem createAddress_moves : AddressMove db ((createAddress supabaseId dto).exec w db).state := by
  cases hu : db.userBySupabaseId supabaseId with
  | none =>
    unfold createAddress
    rw [state_read_bind, state_orThrow_bind, hu]
    exact .stays
  | some user =>
    cases hrun : insertAddress (newAddress (w 1) user.id (kindForRole user.role) dto dto.postalCode.orNull
        db.now) db with
    | error e =>
      obtain ⟨steps, hexec⟩ := createAddress_refused hu hrun
      rw [hexec]
      exact .stays
    | ok r =>
      obtain ⟨coords, steps, hexec⟩ := createAddress_exec hu hrun
      rw [hexec]
      exact insertAddress_moves hrun

theorem upsertAddress_moves : AddressMove db ((upsertAddress supabaseId kind dto).exec w db).state := by
  rw [upsertAddress_state]
  cases db.userBySupabaseId supabaseId with
  | none => exact .stays
  | some user =>
    dsimp only
    split
    · exact .stays
    · cases hrun : saveAddress (w 2) user.id kind (db.latestAddress user.id kind) dto db with
      | error e => exact .stays
      | ok r =>
        obtain ⟨db₁, hrow, hpoint⟩ := saveAddress_ok.mp hrun
        dsimp only
        rw [hpoint]
        unfold savedRow at hrow
        cases hlatest : db.latestAddress user.id kind with
        | none =>
          rw [hlatest] at hrow
          exact insertAddress_moves hrow
        | some a =>
          rw [hlatest] at hrow
          obtain ⟨hmem, huser, hkind, hlive⟩ := AddressDb.latestAddress_some hlatest
          obtain ⟨a₀, hfound, ha, rfl⟩ := updateAddress_ok.mp hrow
          have hid : r.1.id = a.id := by
            rw [ha]
            exact Table.key_of_find? hfound
          rw [hid, ← huser, ← hkind]
          exact .edits a (addressFields dto (truthy dto.postalCode.orNull) db.now) (fun _ => rfl) dto hmem hlive (fun _ => rfl) fun _ => rfl

theorem updateAddressById_moves : AddressMove db ((updateAddressById supabaseId id dto).exec w db).state := by
  rw [updateAddressById_state]
  cases ha : (db.userBySupabaseId supabaseId).bind fun user => db.ownAddress user.id id with
  | none => exact .stays
  | some a =>
    obtain ⟨user, -, hown⟩ := Option.bind_eq_some_iff.mp ha
    obtain ⟨hmem, -, -, hlive⟩ := AddressDb.ownAddress_eq_some.mp hown
    exact .edits a (dto.rewrite db.now) rewrite_id dto hmem hlive (fun _ => rfl) fun _ => rfl

/-- What a move does to the saved addresses. -/
theorem AddressMove.saved (hmove : AddressMove db db') :
    db'.users = db.users ∧ (db'.saved = db.saved ∨ ∃ row : SavedAddress, row.deletedAt = none ∧
      (row.kind.isSingleton = true → db.Vacant row.userId row.kind) ∧ db'.saved = row :: db.saved) := by
  cases hmove with
  | stays => exact ⟨rfl, .inl rfl⟩
  | inserts row addresses dto hvacant hinsert hlive hpoint =>
    refine ⟨AddressDb.withPoint_users, .inr ⟨row.toSavedAddress, hlive, hvacant, ?_⟩⟩
    rw [AddressDb.withPoint_saved, AddressDb.saved, AddressDb.inserted, (Table.insert?_eq_some.mp hinsert).2]
    rfl
  | edits a f hf dto ha hlive hsaved hpoint =>
    refine ⟨AddressDb.withPoint_users, .inl ?_⟩
    rw [AddressDb.withPoint_saved]
    exact saved_update hsaved hf

theorem AddressDb.mem_saved_retired {a : SavedAddress} :
    a ∈ (db.retired id).saved ↔
      ∃ b ∈ db.saved, (if b.id = id then { b with deletedAt := some db.now } else b) = a := by
  unfold saved retired
  simp only [List.mem_map, Table.mem_update, exists_exists_and_eq_and]
  refine exists_congr fun b => and_congr_right fun _ => ?_
  change (if b.id = id then _ else b).toSavedAddress = a ↔ _
  split
  · rfl
  · rfl

/-! ## The service -/

theorem AddressCall.deletes_eq_some {c : AddressCall} {a : AddressRecord} (h : c.deletes db = some (user, a)) :
    (∃ sub, db.userBySupabaseId sub = some user) ∧ a ∈ db.addresses.rows ∧ a.userId = user.id ∧
      a.deletedAt = none := by
  cases c with
  | upsertAddress sub kind dto => cases h
  | createAddress sub dto => cases h
  | updateAddressById sub id dto => cases h
  | deleteAddressById sub id =>
    simp only [deletes, Option.bind_eq_some_iff, Option.map_eq_some_iff, Prod.mk.injEq] at h
    obtain ⟨v, hu, b, hown, rfl, rfl⟩ := h
    obtain ⟨hmem, -, howner, hlive⟩ := AddressDb.ownAddress_eq_some.mp hown
    exact ⟨⟨sub, hu⟩, hmem, howner, hlive⟩

/-- **What a call leaves**: a deletion retires the row, anything else is a move. -/
theorem addressHandle_leaves (c : AddressCall) :
    match c.deletes db with
    | none => AddressMove db ((addressHandle c).exec w db).state
    | some (_, a) => ((addressHandle c).exec w db).state = db.retired a.id := by
  cases c with
  | upsertAddress sub kind dto =>
    rw [addressHandle, exec_bind_pure.1]
    exact upsertAddress_moves
  | createAddress sub dto =>
    rw [addressHandle, exec_bind_pure.1]
    exact createAddress_moves
  | updateAddressById sub id dto =>
    rw [addressHandle, exec_bind_pure.1]
    exact updateAddressById_moves
  | deleteAddressById sub id =>
    rw [addressHandle, exec_bind_pure.1, deleteAddressById_state]
    cases (AddressCall.deleteAddressById sub id).deletes db with
    | none => exact .stays
    | some d => rfl

end IncaCook
