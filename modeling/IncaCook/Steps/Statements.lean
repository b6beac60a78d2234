import IncaCook.Steps.Step

/-!
# Statements and their effects

What it means that a statement, or a transaction of several, went through: the
rows it found and the state it left. The library's `Stmt.bind_ok` takes a
transaction apart statement by statement; the lemmas here say what each did.
-/

namespace IncaCook

open Prog Orders Deliveries Wallets Webhooks

/-! ## Guards -/

namespace Tx

variable {α : Type} {s s' : Db}

@[simp] theorem throwIf_ok {c : Prop} [Decidable c] {e : Err} {u : Unit} :
    Tx.throwIf c e s = .ok (u, s') ↔ ¬c ∧ s' = s := by
  unfold Tx.throwIf
  split
  · rename_i hc
    constructor
    · intro h
      cases h
    · exact fun h => absurd hc h.1
  · rename_i hc
    rw [Stmt.pure_ok]
    simp [hc]

@[simp] theorem orThrow_ok {o : Option α} {e : Err} {a : α} :
    Tx.orThrow o e s = .ok (a, s') ↔ o = some a ∧ s' = s := by
  cases o with
  | none =>
    constructor
    · intro h
      cases h
    · exact fun h => nomatch h.1
  | some b =>
    change (pure b : Tx α) s = .ok (a, s') ↔ _
    rw [Stmt.pure_ok]
    simp [eq_comm]

theorem refuses_orThrow {P : Err → Prop} {o : Option α} {e : Err} (he : P e) :
    Stmt.Refuses P (Tx.orThrow o e) := by
  intro s e' hrun
  cases o with
  | none =>
    cases hrun
    exact he
  | some a => cases hrun

end Tx

/-! ## Reading -/

theorem Db.find?_latestDelivery {db : Db} {o : OrderId} {d : Delivery}
    (h : db.latestDelivery o = some d) : db.deliveries.find? d.id = some d ∧ d.orderId = o := by
  refine ⟨Table.find?_of_mem (List.mem_of_find?_eq_some h), ?_⟩
  simpa using List.find?_some h

theorem Db.find?_orderByPaymentIntent {db : Db} {pi : PaymentIntentId} {o : Order}
    (h : db.orderByPaymentIntent pi = some o) :
    db.orders.find? o.id = some o ∧ o.stripePaymentIntentId = some pi := by
  refine ⟨Table.find?_of_mem (List.mem_of_find?_eq_some h), ?_⟩
  simpa using List.find?_some h

/-! ## Single statements -/

section

variable {s s' : Db} {u : Unit}

@[simp] theorem updateUser_ok {id : UserId} {f : User → User} {hf : ∀ u, (f u).id = u.id} :
    updateUser id f hf s = .ok (u, s') ↔
      (∃ r, s.users.find? id = some r) ∧ s' = { s with users := s.users.update id f hf } := by
  simp [updateUser, Table.update?_eq_some]

@[simp] theorem updateDriverProfile_ok {id : UserId} {f : DriverProfile → DriverProfile}
    {hf : ∀ d, (f d).userId = d.userId} :
    updateDriverProfile id f hf s = .ok (u, s') ↔
      (∃ r, s.driverProfiles.find? id = some r) ∧
        s' = { s with driverProfiles := s.driverProfiles.update id f hf } := by
  simp [updateDriverProfile, Table.update?_eq_some]

@[simp] theorem updateOrder_ok {id : OrderId} {f : Order → Order} {hf : ∀ o, (f o).id = o.id} :
    updateOrder id f hf s = .ok (u, s') ↔
      (∃ r, s.orders.find? id = some r) ∧ s' = { s with orders := s.orders.update id f hf } := by
  simp [updateOrder, Table.update?_eq_some]

/-- An update fails only on a row that does not exist. -/
theorem updateOrder_error {id : OrderId} {f : Order → Order} {hf : ∀ o, (f o).id = o.id} {e : Err}
    (h : updateOrder id f hf s = .error e) : s.orders.find? id = none := by
  by_contra hsome
  obtain ⟨row, hrow⟩ := Option.ne_none_iff_exists'.mp hsome
  have hok : updateOrder id f hf s = .ok ((), _) := updateOrder_ok.mpr ⟨⟨row, hrow⟩, rfl⟩
  rw [hok] at h
  cases h

@[simp] theorem updateDelivery_ok {id : DeliveryId} {f : Delivery → Delivery}
    {hf : ∀ d, (f d).id = d.id} :
    updateDelivery id f hf s = .ok (u, s') ↔
      (∃ r, s.deliveries.find? id = some r) ∧
        s' = { s with deliveries := s.deliveries.update id f hf } := by
  simp [updateDelivery, Table.update?_eq_some]

theorem updateDelivery_error {id : DeliveryId} {f : Delivery → Delivery} {hf : ∀ d, (f d).id = d.id}
    {e : Err} (h : updateDelivery id f hf s = .error e) : s.deliveries.find? id = none := by
  by_contra hsome
  obtain ⟨row, hrow⟩ := Option.ne_none_iff_exists'.mp hsome
  have hok : updateDelivery id f hf s = .ok ((), _) := updateDelivery_ok.mpr ⟨⟨row, hrow⟩, rfl⟩
  rw [hok] at h
  cases h

@[simp] theorem updateDispute_ok {id : DisputeId} {f : OrderDispute → OrderDispute}
    {hf : ∀ d, (f d).id = d.id} :
    updateDispute id f hf s = .ok (u, s') ↔
      (∃ r, s.disputes.find? id = some r) ∧
        s' = { s with disputes := s.disputes.update id f hf } := by
  simp [updateDispute, Table.update?_eq_some]

theorem createOrderRow_ok {o : Order} (h : createOrderRow o s = .ok (u, s')) :
    ∃ orders, s.orders.insert? o = some orders ∧ s' = { s with orders } := by
  simp only [createOrderRow, Stmt.bind_ok, Stmt.get_ok, Tx.throwIf_ok, Tx.orThrow_ok,
    Stmt.modify_ok] at h
  obtain ⟨_, _, ⟨rfl, rfl⟩, _, _, ⟨-, rfl⟩, _, _, ⟨rfl, rfl⟩, orders, _, ⟨hnew, rfl⟩, rfl⟩ := h
  exact ⟨orders, hnew, rfl⟩

@[simp] theorem createDelivery_ok {d : Delivery} :
    createDelivery d s = .ok (u, s') ↔
      ∃ deliveries, s.deliveries.insert? d = some deliveries ∧ s' = { s with deliveries } := by
  simp [createDelivery]

@[simp] theorem createDisputeRow_ok {d : OrderDispute} :
    createDisputeRow d s = .ok (u, s') ↔
      ∃ disputes, s.disputes.insert? d = some disputes ∧ s' = { s with disputes } := by
  simp [createDisputeRow]

@[simp] theorem updateWalletEntries_ok {p : WalletEntry → Bool} {f : WalletEntry → WalletEntry}
    {hf : ∀ e, (f e).id = e.id} :
    updateWalletEntries p f hf s = .ok (u, s') ↔
      s' = { s with walletEntries := s.walletEntries.updateMany p f hf } := by
  simp [updateWalletEntries, eq_comm]

@[simp] theorem createEntries_ok {rows : List WalletEntry} :
    createEntries rows s = .ok (u, s') ↔
      s' = { s with walletEntries := rows.foldl insertSkippingDuplicate s.walletEntries } := by
  simp [createEntries]

@[simp] theorem restoreInventory_ok {restored : Bool} {items : List OrderItem} :
    restoreInventory restored items s = .ok (u, s') ↔
      s' = { s with listings := giveBack restored items s.listings } := by
  simp [restoreInventory]

theorem uniquePaymentIntent_ok {id : OrderId} {pi : PaymentIntentId}
    (h : uniquePaymentIntent id pi s = .ok (u, s')) : s' = s := by
  simp only [uniquePaymentIntent, Stmt.bind_ok, Stmt.get_ok, Tx.throwIf_ok] at h
  obtain ⟨_, _, ⟨rfl, rfl⟩, -, h⟩ := h
  exact h

theorem uniquePickupToken_ok {id : DeliveryId} {token : String}
    (h : uniquePickupToken id token s = .ok (u, s')) : s' = s := by
  simp only [uniquePickupToken, Stmt.bind_ok, Stmt.get_ok, Tx.throwIf_ok] at h
  obtain ⟨_, _, ⟨rfl, rfl⟩, -, h⟩ := h
  exact h

theorem uniqueDeliveryToken_ok {id : DeliveryId} {token : String}
    (h : uniqueDeliveryToken id token s = .ok (u, s')) : s' = s := by
  simp only [uniqueDeliveryToken, Stmt.bind_ok, Stmt.get_ok, Tx.throwIf_ok] at h
  obtain ⟨_, _, ⟨rfl, rfl⟩, -, h⟩ := h
  exact h

theorem uniqueBackfill_ok {order : Order} {pi : PaymentIntentId}
    (h : uniqueBackfill order pi s = .ok (u, s')) : s' = s := by
  unfold uniqueBackfill at h
  split at h
  · exact (Stmt.pure_ok.mp h).2
  · exact uniquePaymentIntent_ok h

end

end IncaCook
