import IncaCook.Steps.Outlines
import IncaCook.Steps.Quiet

/-!
# What leaves the refunds in order

Every call but the filing of a dispute and the approval of a refund is steady: at
each of its steps no order becomes REFUNDED, no recorded refund is lost, and no
dispute is decided for the buyer.

Main results:

* `handle_steady`: every other call is steady;
* `refundOrderIfNeeded_steady`, `strike_steady`: so are the parts those two share
  with the others.
-/

namespace IncaCook

open Prog Orders Deliveries Wallets Webhooks

/-- The order has a `stripeRefundId`. -/
def Db.refundRecorded (s : Db) (o : OrderId) : Bool :=
  (s.orders.find? o).any fun row => row.stripeRefundId.isSome

/-- The dispute is decided for the buyer. -/
def OrderDispute.granted (d : OrderDispute) : Bool :=
  d.status = .autoRefunded || d.refundApproved

/-- No new REFUNDED order, no refund lost, no dispute newly granted. -/
structure Steady (s s' : Db) : Prop where
  refunded : ∀ o row', s'.orders.find? o = some row' → row'.status = .refunded →
    ∃ row, s.orders.find? o = some row ∧ row.status = .refunded
  recorded : ∀ o, s.refundRecorded o = true → s'.refundRecorded o = true
  granted : ∀ d' ∈ s'.disputes.rows, d'.granted = true →
    ∃ d ∈ s.disputes.rows, d.granted = true ∧ d.orderId = d'.orderId

/-- The contract of a handler that stays steady. -/
def steadyContract : Contract machine where
  rely := Eq
  guar _ _ s s' := Steady s s'

section

variable {cfg : Config} {me : Nat} {h : List (StepRecord machine)} {s s' : Db} {o : OrderId}

theorem Steady.refl (s : Db) : Steady s s :=
  ⟨fun _ row hrow hstatus => ⟨row, hrow, hstatus⟩, fun _ hr => hr,
    fun d hd hgranted => ⟨d, hd, hgranted, rfl⟩⟩

theorem Steady.trans {s'' : Db} (h₁ : Steady s s') (h₂ : Steady s' s'') : Steady s s'' := by
  constructor
  · intro o row'' hrow'' hstatus''
    obtain ⟨row', hrow', hstatus'⟩ := h₂.refunded o row'' hrow'' hstatus''
    exact h₁.refunded o row' hrow' hstatus'
  · exact fun o hr => h₂.recorded o (h₁.recorded o hr)
  · intro d'' hd'' hgranted''
    obtain ⟨d', hd', hgranted', hof'⟩ := h₂.granted d'' hd'' hgranted''
    obtain ⟨d, hd, hgranted, hof⟩ := h₁.granted d' hd' hgranted'
    exact ⟨d, hd, hgranted, hof.trans hof'⟩

/-- Only the orders change. -/
theorem Steady.of_orders (hdisputes : s'.disputes = s.disputes)
    (hrefunded : ∀ o row', s'.orders.find? o = some row' → row'.status = .refunded →
      ∃ row, s.orders.find? o = some row ∧ row.status = .refunded)
    (hrecorded : ∀ o, s.refundRecorded o = true → s'.refundRecorded o = true) : Steady s s' :=
  ⟨hrefunded, hrecorded, fun d hd hgranted => ⟨d, hdisputes ▸ hd, hgranted, rfl⟩⟩

/-- Neither table changes. -/
theorem Steady.of_eq (horders : s'.orders = s.orders) (hdisputes : s'.disputes = s.disputes) :
    Steady s s' := by
  refine .of_orders hdisputes (fun o row hrow hstatus => ⟨row, horders ▸ hrow, hstatus⟩) ?_
  intro o hr
  rw [Db.refundRecorded, horders]
  exact hr

section

variable {listings : Table Listing} {deliveries : Table Delivery} {f : Order → Order}
  {hf : ∀ r : Order, (f r).id = r.id}

/-- An update of an order that neither refunds it nor forgets a refund. -/
theorem Steady.update (hrefunded : ∀ r, (f r).status = .refunded → r.status = .refunded)
    (hrecorded : ∀ r, r.stripeRefundId.isSome → (f r).stripeRefundId.isSome) :
    Steady s { s with listings, orders := s.orders.update o f hf, deliveries } := by
  refine .of_orders rfl (fun o' row' hrow' hstatus => ?_) fun o' hr => ?_
  · dsimp only at hrow'
    obtain ⟨row, hrow, ⟨-, rfl⟩ | ⟨-, rfl⟩⟩ := Table.find?_update_some hrow'
    · exact ⟨row, hrow, hrefunded row hstatus⟩
    · exact ⟨row', hrow, hstatus⟩
  · rw [Db.refundRecorded, Option.any_eq_true] at hr ⊢
    obtain ⟨row, hrow, hsome⟩ := hr
    rw [Table.find?_update, hrow]
    split
    · exact ⟨f row, rfl, hrecorded row hsome⟩
    · exact ⟨row, rfl, hsome⟩

/-- An update of an order to another status that touches no refund. -/
theorem Steady.move (hstatus : ∀ r, (f r).status ≠ .refunded)
    (hrefund : ∀ r, (f r).stripeRefundId = r.stripeRefundId) :
    Steady s { s with listings, orders := s.orders.update o f hf, deliveries } := by
  refine .update (fun r hr => absurd hr (hstatus r)) fun r hr => ?_
  rw [hrefund]
  exact hr

end

/-! ## Reading and writing -/

theorem steady_query (h : List (StepRecord machine)) (s : Db) : steadyContract.guar h .query s s :=
  .refl s

theorem query_steady {α : Type} {f : Db → α} {site : Site} :
    Free steadyContract (read (M := machine) site f) :=
  free_read fun _ s => .refl s

theorem write_steady {α : Type} {site : Site} {stmt : Answer → Tx α}
    (hstmt : ∀ i, Stmt.Within Steady (stmt i)) : Free steadyContract (await site stmt) :=
  free_await (fun _ s => .refl s) fun _ i s a s' hrun => hstmt i s a s' hrun

theorem steady_bind {α β : Type} {x : Tx α} {f : α → Tx β} (hx : Stmt.Within Steady x)
    (hf : ∀ a, Stmt.Within Steady (f a)) : Stmt.Within Steady (x >>= f) :=
  Stmt.within_bind (fun _ _ _ => .trans) hx hf

theorem steady_pure {α : Type} {a : α} : Stmt.Within Steady (pure a : Tx α) :=
  Stmt.within_pure .refl

theorem steady_get : Stmt.Within Steady (get : Tx Db) := Stmt.within_get .refl

theorem steady_throwIf {c : Prop} [Decidable c] {e : Err} : Stmt.Within Steady (Tx.throwIf c e) :=
  Stmt.within_same .refl fun _ _ _ hrun => (Tx.throwIf_ok.mp hrun).2

theorem steady_orThrow {α : Type} {x : Option α} {e : Err} : Stmt.Within Steady (Tx.orThrow x e) :=
  Stmt.within_same .refl fun _ _ _ hrun => (Tx.orThrow_ok.mp hrun).2

/-- Writing the status of an order. -/
theorem steady_updateOrder {f : Order → Order} {hf : ∀ r : Order, (f r).id = r.id}
    (hstatus : ∀ r, (f r).status ≠ .refunded)
    (hrefund : ∀ r, (f r).stripeRefundId = r.stripeRefundId) :
    Stmt.Within Steady (updateOrder o f hf) := by
  intro s _ s' hrun
  obtain ⟨-, rfl⟩ := updateOrder_ok.mp hrun
  exact .move hstatus hrefund

theorem steady_updateDelivery {d : DeliveryId} {f : Delivery → Delivery}
    {hf : ∀ r : Delivery, (f r).id = r.id} : Stmt.Within Steady (updateDelivery d f hf) := by
  intro s _ s' hrun
  obtain ⟨-, rfl⟩ := updateDelivery_ok.mp hrun
  exact .of_eq rfl rfl

theorem steady_restoreInventory {restored : Bool} {items : List OrderItem} :
    Stmt.Within Steady (restoreInventory restored items) := by
  intro s _ s' hrun
  rw [restoreInventory_ok.mp hrun]
  exact .of_eq rfl rfl

theorem steady_updateWalletEntries {p : WalletEntry → Bool} {f : WalletEntry → WalletEntry}
    {hf : ∀ e : WalletEntry, (f e).id = e.id} :
    Stmt.Within Steady (updateWalletEntries p f hf) := by
  intro s _ s' hrun
  rw [updateWalletEntries_ok.mp hrun]
  exact .of_eq rfl rfl

theorem steady_createEntries {rows : List WalletEntry} :
    Stmt.Within Steady (createEntries rows) := by
  intro s _ s' hrun
  rw [createEntries_ok.mp hrun]
  exact .of_eq rfl rfl

/-- What the steps of a steady program do, all of them do. -/
theorem sat_steady {α : Type} {p : Handler α} (hp : Free steadyContract p) :
    Sat aloneContract (fun _ _ s' => Steady s s') p h s := by
  have hleads : Sat steadyContract (fun _ _ s' => Steady s s') p h s :=
    hp.leads .refl (fun _ _ _ => .trans) (fun _ _ hab => hab) fun _ _ _ _ hg => hg
  exact hleads.mono (fun _ _ hR => hR) (fun _ _ _ _ _ => trivial) fun _ _ _ hQ => hQ

/-! ## Refunds, the ledger and strikes -/

theorem refundOrderIfNeeded_steady : Free steadyContract (refundOrderIfNeeded o) := by
  refine refundOrderIfNeeded_of (fun _ s => .refl s) (fun pi => ?_) (fun refund => ?_)
    (write_steady fun _ => steady_updateWalletEntries)
  · refine write_steady fun i s _ s' hrun => ?_
    obtain ⟨refunds, -, -, -, rfl⟩ := createRefund_ok hrun
    exact .of_eq rfl rfl
  · refine write_steady fun i s _ s' hrun => ?_
    obtain rfl := saveRefund_ok hrun
    exact .update (fun r hr => hr) fun r _ => rfl

/-- One entry, dated by the clock. -/
theorem steady_createEntry {row : Db → List WalletEntry} :
    Stmt.Within Steady (do createEntries (row (← get))) :=
  steady_bind steady_get fun _ => steady_createEntries

theorem creditSellerEarning_steady {seller : UserId} {amount : Cents} :
    Free steadyContract (creditSellerEarning me o seller amount) :=
  free_ite free_pure (write_steady fun _ => steady_createEntry)

theorem compensateDriver_steady {driver : UserId} {amount : Cents} :
    Free steadyContract (compensateDriver me o driver amount) :=
  free_ite free_pure (write_steady fun _ => steady_createEntry)

theorem recordDriverDebt_steady {driver : UserId} {amount : Cents} :
    Free steadyContract (recordDriverDebt me o driver amount) :=
  free_ite free_pure (write_steady fun _ => steady_createEntry)

theorem releaseFunds_steady : Free steadyContract (releaseFundsForCompletedOrder cfg me o) := by
  refine free_bind query_steady fun seen => ?_
  obtain ⟨found, delivery, now⟩ := seen
  cases found with
  | none => exact free_pure
  | some row =>
    exact free_ite (free_ite free_pure (write_steady fun _ => steady_createEntries)) free_pure

theorem suspendUser_steady {u : UserId} {reason : StrikeReason} :
    Free steadyContract (Strikes.suspendUser u reason) := by
  refine write_steady fun i s _ s' hrun => ?_
  simp only [Strikes.suspendRow, Stmt.modify_ok] at hrun
  subst hrun
  exact .of_eq rfl rfl

theorem addStrike_steady {input : Strikes.AddStrikeInput} :
    Free steadyContract (Strikes.addStrike me input) := by
  refine addStrike_of (fun _ s => .refl s) (fun id => ?_) suspendUser_steady
  refine write_steady fun i s _ s' hrun => ?_
  obtain ⟨strikes, -, rfl⟩ := createStrike_ok.mp hrun
  exact .of_eq rfl rfl

theorem strike_steady {input : Strikes.AddStrikeInput} :
    Free steadyContract (tryCatch (do
      let _ ← Strikes.addStrike me input
      pure ()) fun _ => pure ()) :=
  strike_of addStrike_steady

/-! ## Orders -/

theorem confirmPaymentForBuyer_steady {sub : String} :
    Free steadyContract (confirmPaymentForBuyer cfg sub o) := by
  refine confirmPaymentForBuyer_of steady_query (fun _ s => .refl s) (write_steady fun _ => ?_)
  exact steady_bind steady_get fun _ => steady_updateOrder (fun _ => nofun) fun _ => rfl

theorem startPreparing_steady {sub : String} : Free steadyContract (startPreparing sub o) :=
  startPreparing_of steady_query (write_steady fun _ => steady_updateOrder (fun _ => nofun) fun _ => rfl)

theorem markReady_steady {sub : String} : Free steadyContract (markReady me sub o) := by
  refine markReady_of steady_query fun choice => write_steady fun _ => ?_
  refine steady_bind steady_get fun _ =>
    steady_bind (steady_updateOrder (fun _ => nofun) fun _ => rfl) fun _ => ?_
  refine Stmt.within_ite (steady_bind ?_ fun _ => ?_) steady_pure
  · exact Stmt.within_same .refl fun _ _ _ => uniquePickupToken_ok
  · intro s _ s' hrun
    obtain ⟨deliveries, -, rfl⟩ := createDelivery_ok.mp hrun
    exact .of_eq rfl rfl

theorem handleNoDriverTimeout_steady : Free steadyContract (handleNoDriverTimeout o) :=
  handleNoDriverTimeout_of steady_query
    (write_steady fun _ => steady_updateOrder (fun _ => nofun) fun _ => rfl)

theorem switchOrderToPickup_steady {d : Option DeliveryId} :
    Free steadyContract (switchOrderToPickup o d) := by
  refine write_steady fun _ => steady_bind steady_get fun _ => ?_
  refine steady_bind (steady_updateOrder (fun _ => nofun) fun _ => rfl) fun _ => ?_
  split
  · exact steady_updateDelivery
  · exact steady_pure

theorem cancelNoDriverOrder_steady {reason : Reason} :
    Free steadyContract (cancelNoDriverOrder o reason) := by
  refine cancelNoDriverOrder_of steady_query (fun row delivery => write_steady fun _ => ?_)
    refundOrderIfNeeded_steady
  refine steady_bind steady_get fun _ => steady_bind steady_restoreInventory fun _ => ?_
  refine steady_bind (steady_updateOrder (fun _ => nofun) fun _ => rfl) fun _ => ?_
  split
  · exact steady_updateDelivery
  · exact steady_pure

theorem decideNoDriver_steady {sub : String} {decision : NoDriverDecision} :
    Free steadyContract (decideNoDriver sub o decision) :=
  decideNoDriver_of steady_query (fun _ _ => switchOrderToPickup_steady) fun _ =>
    cancelNoDriverOrder_steady

theorem autoCancelNoResponse_steady : Free steadyContract (autoCancelNoResponse o) :=
  autoCancelNoResponse_of steady_query fun _ => cancelNoDriverOrder_steady

/-! ## Cancellations -/

theorem cancelForSellerUnavailable_steady {driver : UserId} :
    Free steadyContract (cancelForSellerUnavailable me o driver) := by
  refine free_bind query_steady fun _ => free_bind free_orThrow fun row => ?_
  refine free_bind free_throwIf fun _ => free_bind (write_steady fun _ => ?_) fun _ => ?_
  · exact steady_bind steady_get fun _ => steady_bind steady_restoreInventory fun _ =>
      steady_updateOrder (fun _ => nofun) fun _ => rfl
  · exact free_bind refundOrderIfNeeded_steady fun _ =>
      free_bind compensateDriver_steady fun _ => strike_steady

theorem sellerCannotProvide_steady {sub : String} {dto : SellerCannotProvideDto} :
    Free steadyContract (sellerCannotProvide me sub o dto) := by
  refine sellerCannotProvide_of steady_query (fun row delivery => write_steady fun _ => ?_)
    refundOrderIfNeeded_steady fun _ => addStrike_steady
  refine steady_bind steady_get fun _ => steady_bind steady_restoreInventory fun _ => ?_
  refine steady_bind (steady_updateOrder (fun _ => nofun) fun _ => rfl) fun _ => ?_
  split
  · exact steady_updateDelivery
  · exact steady_pure

theorem cancelAsSeller_steady {sub reason : String} :
    Free steadyContract (cancelAsSeller sub o reason) := by
  refine cancelAsSeller_of steady_query (write_steady fun _ => ?_) refundOrderIfNeeded_steady
  refine steady_bind steady_get fun _ => steady_bind steady_orThrow fun fresh => ?_
  refine Stmt.within_ite (steady_bind steady_restoreInventory fun _ => ?_) steady_pure
  exact steady_updateOrder (fun _ => nofun) fun _ => rfl

theorem resolveDriverDisappeared_steady {row : Order} {d : DeliveryId} {driver : Option UserId} :
    Free steadyContract (resolveDriverDisappeared me row d driver) := by
  refine free_bind (write_steady fun _ => ?_) fun _ => ?_
  · exact steady_bind steady_get fun _ => steady_bind steady_updateDelivery fun _ =>
      steady_updateOrder (fun _ => nofun) fun _ => rfl
  · refine free_bind (write_steady fun _ => steady_updateWalletEntries) fun _ => ?_
    refine free_bind refundOrderIfNeeded_steady fun _ => free_bind creditSellerEarning_steady fun _ => ?_
    cases driver with
    | none => exact free_pure
    | some driver =>
      refine free_bind (free_tryCatch recordDriverDebt_steady fun _ => free_pure) fun _ => ?_
      exact free_tryCatch (free_bind addStrike_steady fun _ => suspendUser_steady) fun _ => free_pure

theorem handleDriverDeliveryTimeout_steady {d : DeliveryId} :
    Free steadyContract (handleDriverDeliveryTimeout me d) := by
  refine free_bind query_steady fun found => ?_
  cases found with
  | none => exact free_pure
  | some delivery =>
    refine free_ite free_pure (free_ite free_pure (free_ite free_pure ?_))
    refine free_bind query_steady fun found => ?_
    cases found with
    | none => exact free_pure
    | some row => exact free_ite free_pure resolveDriverDisappeared_steady

/-! ## Completion and deliveries -/

theorem confirmOrderPickup_steady {sub : String} :
    Free steadyContract (Orders.confirmPickup cfg me sub o) := by
  refine free_bind (assertSellerUser_of steady_query) fun user => free_bind query_steady fun _ => ?_
  refine free_bind free_orThrow fun row => free_bind free_throwIf fun _ => ?_
  refine free_bind free_throwIf fun _ => free_bind free_throwIf fun _ => ?_
  refine free_bind (write_steady fun _ => ?_) fun _ =>
    free_bind releaseFunds_steady fun _ => findOrderWithRelations_of steady_query
  exact steady_updateOrder (fun _ => nofun) fun _ => rfl

theorem confirmDeliveredByDriver_steady :
    Free steadyContract (confirmDeliveredByDriver cfg me o) := by
  refine free_bind query_steady fun _ => free_bind free_orThrow fun row => ?_
  refine free_bind free_throwIf fun _ => free_bind (free_runIf fun _ => write_steady fun _ => ?_)
    fun _ => free_bind releaseFunds_steady fun _ => findOrderWithRelations_of steady_query
  exact steady_updateOrder (fun _ => nofun) fun _ => rfl

theorem claim_steady {sub : String} {d : DeliveryId} : Free steadyContract (claim cfg sub d) := by
  refine claim_of steady_query (fun driver => write_steady ?_) fun driver => write_steady ?_
  · intro _ s _ s' hrun
    obtain ⟨-, rfl⟩ := updateDriverProfile_ok.mp hrun
    exact .of_eq rfl rfl
  · intro _ s _ s' hrun
    simp only [claimUpdate, Stmt.bind_ok, Stmt.get_ok, Stmt.set_ok, Stmt.pure_ok] at hrun
    obtain ⟨_, _, ⟨rfl, rfl⟩, _, _, rfl, -, rfl⟩ := hrun
    exact .of_eq rfl rfl

theorem arriveAtPickup_steady {sub : String} {d : DeliveryId} :
    Free steadyContract (arriveAtPickup sub d) :=
  arriveAtPickup_of steady_query (write_steady fun _ => steady_updateDelivery)

theorem confirmPickup_steady {sub : String} {d : DeliveryId} {dto : ConfirmPickupDto} :
    Free steadyContract (Deliveries.confirmPickup sub d dto) := by
  refine confirmPickup_of steady_query fun row driver => write_steady fun _ => ?_
  refine steady_bind steady_get fun _ => steady_bind ?_ fun _ =>
    steady_bind steady_updateDelivery fun _ => steady_updateOrder (fun _ => nofun) fun _ => rfl
  exact Stmt.within_same .refl fun _ _ _ => uniqueDeliveryToken_ok

theorem checkOutForDelivery_steady {row : Delivery} :
    Free steadyContract (checkOutForDelivery row) :=
  free_bind free_throwIf fun _ => free_throwIf

theorem confirmDelivery_steady {sub : String} {d : DeliveryId} {dto : ConfirmDeliveryDto} :
    Free steadyContract (confirmDelivery cfg me sub d dto) := by
  refine free_bind (assertDriver_of steady_query) fun _ => ?_
  refine free_bind (loadDeliveryForDriver_of steady_query) fun _ => ?_
  refine free_bind checkOutForDelivery_steady fun _ => free_bind free_throwIf fun _ => ?_
  refine free_bind (write_steady fun _ => ?_) fun _ =>
    free_bind confirmDeliveredByDriver_steady fun _ => loadDelivery_of steady_query
  exact steady_bind steady_get fun _ => steady_updateDelivery

theorem confirmAbsentDropoff_steady {sub : String} {d : DeliveryId}
    {dto : ConfirmAbsentDropoffDto} :
    Free steadyContract (confirmAbsentDropoff cfg me sub d dto) := by
  refine free_bind (assertDriver_of steady_query) fun _ => ?_
  refine free_bind (loadDeliveryForDriver_of steady_query) fun _ => ?_
  refine free_bind checkOutForDelivery_steady fun _ => free_bind free_orThrow fun _ => ?_
  refine free_bind free_orThrow fun position => ?_
  refine free_bind (write_steady fun _ => ?_) fun _ =>
    free_bind confirmDeliveredByDriver_steady fun _ => loadDelivery_of steady_query
  exact steady_bind steady_get fun _ => steady_updateDelivery

theorem reportSellerUnavailable_steady {sub : String} {d : DeliveryId}
    {dto : ReportSellerUnavailableDto} :
    Free steadyContract (reportSellerUnavailable me sub d dto) := by
  refine free_bind (assertDriver_of steady_query) fun _ => ?_
  refine free_bind (loadDeliveryForDriver_of steady_query) fun _ => ?_
  refine free_bind free_throwIf fun _ => free_bind free_throwIf fun _ => ?_
  refine free_bind query_steady fun _ => free_bind free_orThrow fun _ => ?_
  refine free_bind free_throwIf fun _ => free_bind free_orThrow fun position => ?_
  refine free_bind (write_steady fun _ => ?_) fun _ =>
    free_bind cancelForSellerUnavailable_steady fun _ => loadDelivery_of steady_query
  exact steady_bind steady_get fun _ => steady_updateDelivery

theorem getSellerPickupQr_steady {sub : String} : Free steadyContract (getSellerPickupQr sub o) := by
  refine getSellerPickupQr_of steady_query fun d => write_steady fun _ => ?_
  refine steady_bind ?_ fun _ => steady_bind steady_updateDelivery fun _ => steady_pure
  exact Stmt.within_same .refl fun _ _ _ => uniquePickupToken_ok

theorem getBuyerDeliveryQr_steady {sub : String} :
    Free steadyContract (getBuyerDeliveryQr sub o) := by
  refine getBuyerDeliveryQr_of steady_query fun d => write_steady fun _ => ?_
  refine steady_bind ?_ fun _ => steady_bind steady_updateDelivery fun _ => steady_pure
  exact Stmt.within_same .refl fun _ _ _ => uniqueDeliveryToken_ok

/-! ## Money -/

theorem releaseDuePendingEntries_steady : Free steadyContract releaseDuePendingEntries :=
  releaseDuePendingEntries_of steady_query (fun _ _ => write_steady fun _ => steady_updateWalletEntries)
    fun _ => write_steady fun _ => steady_updateWalletEntries

theorem requestWithdrawal_steady {sub : String} : Free steadyContract (requestWithdrawal me sub) := by
  refine free_bind query_steady fun _ => free_bind free_orThrow fun user => ?_
  refine free_bind query_steady fun available => free_bind free_throwIf fun _ => ?_
  refine free_bind free_throwIf fun _ => free_bind (free_ite query_steady query_steady) fun payout => ?_
  refine free_bind free_throwIf fun _ => free_bind free_orThrow fun account => ?_
  refine free_bind (write_steady ?_) fun _ => free_bind (write_steady ?_) fun _ => free_pure
  · refine fun _ => steady_bind steady_throwIf fun _ s _ s' hrun => ?_
    rw [Stmt.modify_ok.mp hrun]
    exact .of_eq rfl rfl
  · refine fun _ => steady_bind steady_throwIf fun _ =>
      steady_bind steady_updateWalletEntries fun _ s _ s' hrun => ?_
    simp only [Stmt.bind_ok, Stmt.get_ok, Tx.orThrow_ok, Stmt.set_ok] at hrun
    obtain ⟨_, _, ⟨rfl, rfl⟩, _, _, ⟨-, rfl⟩, rfl⟩ := hrun
    exact .of_eq rfl rfl

/-! ## Checkout -/

theorem prepare_steady {α : Type} {p : Handler α} (hp : Free (prepareContract Eq) p) :
    Free steadyContract p :=
  fun h s => (hp h s).mono (fun _ _ hR => hR)
    (fun _ _ _ _ hg => .of_eq hg.2.aside.orders hg.2.disputes) fun _ _ _ hQ => hQ

/-- A new order is pending. -/
theorem placeOrder_steady {args : InsertOrderArgs} :
    Stmt.Within Steady (placeOrder cfg args) := by
  intro s order s' hrun
  obtain ⟨listings, orders, -, hnew, -, rfl⟩ := placeOrder_ok hrun
  refine .of_orders rfl (fun o row' hrow' hstatus => ?_) fun o hr => ?_
  · dsimp only at hrow'
    rw [Table.find?_insert hnew] at hrow'
    split at hrow'
    · rw [← Option.some.inj hrow'] at hstatus
      cases hstatus
    · exact ⟨row', hrow', hstatus⟩
  · rw [Db.refundRecorded, Option.any_eq_true] at hr ⊢
    obtain ⟨row, hrow, hsome⟩ := hr
    exact ⟨row, Table.find?_insert_of_some hnew hrow, hsome⟩

theorem createOrder_steady {sub : String} {dto : CreateOrderDto} :
    Free steadyContract (createOrder cfg me sub dto) := by
  rw [createOrder_eq]
  refine free_bind (prepare_steady prepareOrder_free) fun p => ?_
  refine free_bind (write_steady fun _ => placeOrder_steady) fun order => ?_
  refine free_bind (free_tryCatch (write_steady fun _ s p s' hrun => ?_) fun _ =>
    free_ite free_pure free_throw) fun payment => ?_
  · obtain ⟨pi, secret⟩ := p
    obtain ⟨paymentIntents, -, -, rfl⟩ := createPaymentIntent_ok hrun
    exact .of_eq rfl rfl
  · refine free_bind (free_tryCatch (write_steady fun _ => ?_) fun _ => free_pure) fun _ =>
      free_bind free_throwIf fun _ => free_pure
    refine steady_bind steady_throwIf fun _ => steady_bind ?_ fun _ s _ s' hrun => ?_
    · exact Stmt.within_same .refl fun _ _ _ => uniquePaymentIntent_ok
    · obtain ⟨-, rfl⟩ := updateOrder_ok.mp hrun
      exact .update (fun _ hr => hr) fun _ hr => hr

/-! ## Webhooks -/

theorem handlePaymentIntentSucceeded_steady {ev : PaymentIntentEvent} :
    Free steadyContract (handlePaymentIntentSucceeded ev) := by
  refine handlePaymentIntentSucceeded_of steady_query fun row => write_steady fun _ => ?_
  refine steady_bind steady_get fun _ => steady_bind ?_ fun _ => ?_
  · exact Stmt.within_same .refl fun _ _ _ => uniqueBackfill_ok
  · refine steady_updateOrder (fun r => ?_) fun r => ?_
    · rw [backfill_status]
      nofun
    · rw [backfill_stripeRefundId]

theorem handlePaymentIntentFailed_steady {ev : PaymentIntentEvent} :
    Free steadyContract (handlePaymentIntentFailed ev) := by
  refine handlePaymentIntentFailed_of steady_query fun row => write_steady fun _ s _ s' hrun => ?_
  rcases paymentFailedTx_ok hrun with ⟨rfl, -⟩ | ⟨fresh, reason, -, -, rfl⟩
  · exact .refl _
  · refine .move (fun r => ?_) fun r => ?_
    · rw [backfill_status]
      nofun
    · rw [backfill_stripeRefundId]
      rfl

/-! ## Disputes that nobody grants -/

/-- Writing a dispute row that is granted only if it was. -/
theorem steady_updateDispute {id : DisputeId} {f : OrderDispute → OrderDispute}
    {hf : ∀ d : OrderDispute, (f d).id = d.id} (horder : ∀ d, (f d).orderId = d.orderId)
    (hgranted : ∀ d, (f d).granted = true → d.granted = true) :
    Stmt.Within Steady (updateDispute id f hf) := by
  intro s _ s' hrun
  obtain ⟨-, rfl⟩ := updateDispute_ok.mp hrun
  refine ⟨(Steady.refl s).refunded, (Steady.refl s).recorded, fun d' hd' hgranted' => ?_⟩
  dsimp only at hd'
  obtain ⟨d, hd, rfl⟩ := Table.mem_update.mp hd'
  split at hgranted'
  · rename_i hid
    exact ⟨d, hd, hgranted d hgranted', by rw [if_pos hid, horder]⟩
  · rename_i hid
    exact ⟨d, hd, hgranted', by rw [if_neg hid]⟩

theorem steady_createDispute {d : OrderDispute} (hgranted : d.granted = false) :
    Stmt.Within Steady (createDisputeRow d) := by
  intro s _ s' hrun
  obtain ⟨disputes, hnew, rfl⟩ := createDisputeRow_ok.mp hrun
  refine ⟨(Steady.refl s).refunded, (Steady.refl s).recorded, fun d' hd' hgranted' => ?_⟩
  dsimp only at hd'
  rcases (Table.mem_insert hnew).mp hd' with rfl | hd
  · rw [hgranted] at hgranted'
    cases hgranted'
  · exact ⟨d', hd, hgranted', rfl⟩

theorem closeDispute_steady {dispute : OrderDispute} {status : DisputeStatus}
    {notes : Option String} (hstatus : status ≠ .autoRefunded) :
    Free steadyContract (closeDispute dispute status notes) := by
  refine write_steady fun _ => steady_bind steady_get fun _ => ?_
  refine steady_bind (steady_updateDispute (fun _ => rfl) fun d hd => ?_) fun _ =>
    steady_bind steady_get fun _ => steady_orThrow
  simp only [OrderDispute.granted, OrderDispute.decide, hstatus, decide_false, Bool.false_or] at hd
  simp [OrderDispute.granted, hd]

theorem handleChargeDispute_steady {dispute : ChargeDispute} :
    Free steadyContract (handleChargeDispute me dispute) := by
  refine handleChargeDispute_of steady_query (fun id metadata => write_steady fun _ => ?_)
    fun row metadata => write_steady fun _ => ?_
  · exact steady_updateDispute (fun _ => rfl) fun _ hd => hd
  · exact steady_bind steady_get fun _ => steady_bind steady_throwIf fun _ => steady_createDispute rfl

/-! ## Every other call -/

/-- **Every call that decides no dispute for a buyer is steady.** -/
theorem handle_steady {call : Call} (hcall : call.decidesDispute = false) :
    Free steadyContract (handle cfg me call) := by
  cases call with
  | createDispute sub o dto => cases hcall
  | adminApproveRefund id notes => cases hcall
  | createOrder sub dto => exact free_bind createOrder_steady fun _ => free_pure
  | confirmPaymentForBuyer sub o => exact free_bind confirmPaymentForBuyer_steady fun _ => free_pure
  | paymentIntentSucceeded ev =>
    exact free_bind handlePaymentIntentSucceeded_steady fun _ => free_pure
  | paymentIntentFailed ev => exact free_bind handlePaymentIntentFailed_steady fun _ => free_pure
  | chargeDispute dispute => exact free_bind handleChargeDispute_steady fun _ => free_pure
  | startPreparing sub o => exact free_bind startPreparing_steady fun _ => free_pure
  | markReady sub o => exact free_bind markReady_steady fun _ => free_pure
  | getSellerPickupQr sub o => exact free_bind getSellerPickupQr_steady fun _ => free_pure
  | getBuyerDeliveryQr sub o => exact free_bind getBuyerDeliveryQr_steady fun _ => free_pure
  | handleNoDriverTimeout o => exact free_bind handleNoDriverTimeout_steady fun _ => free_pure
  | decideNoDriver sub o decision => exact free_bind decideNoDriver_steady fun _ => free_pure
  | autoCancelNoResponse o => exact free_bind autoCancelNoResponse_steady fun _ => free_pure
  | sellerCannotProvide sub o dto => exact free_bind sellerCannotProvide_steady fun _ => free_pure
  | handleDriverDeliveryTimeout d =>
    exact free_bind handleDriverDeliveryTimeout_steady fun _ => free_pure
  | confirmOrderPickup sub o => exact free_bind confirmOrderPickup_steady fun _ => free_pure
  | cancelAsSeller sub o reason => exact free_bind cancelAsSeller_steady fun _ => free_pure
  | adminRejectDispute id notes =>
    exact free_bind (free_bind (getDispute_of steady_query) fun _ => closeDispute_steady nofun) fun _ => free_pure
  | adminResolveDispute id notes =>
    exact free_bind (free_bind (getDispute_of steady_query) fun _ => closeDispute_steady nofun) fun _ => free_pure
  | adminConfirmAllergenViolation id notes =>
    exact free_bind (free_bind (getDispute_of steady_query) fun _ =>
      free_bind strike_steady fun _ => closeDispute_steady nofun) fun _ => free_pure
  | adminConfirmFraudulentChargeback id notes =>
    exact free_bind (free_bind (getDispute_of steady_query) fun _ =>
      free_bind strike_steady fun _ => closeDispute_steady nofun) fun _ => free_pure
  | claim sub d => exact free_bind claim_steady fun _ => free_pure
  | arriveAtPickup sub d => exact free_bind arriveAtPickup_steady fun _ => free_pure
  | confirmPickup sub d dto => exact free_bind confirmPickup_steady fun _ => free_pure
  | confirmDelivery sub d dto => exact free_bind confirmDelivery_steady fun _ => free_pure
  | confirmAbsentDropoff sub d dto => exact free_bind confirmAbsentDropoff_steady fun _ => free_pure
  | reportSellerUnavailable sub d dto =>
    exact free_bind reportSellerUnavailable_steady fun _ => free_pure
  | releaseDuePendingEntries => exact free_bind releaseDuePendingEntries_steady fun _ => free_pure
  | requestWithdrawal sub => exact free_bind requestWithdrawal_steady fun _ => free_pure

end

end IncaCook
