import IncaCook.Steps.Statements

/-!
# Strikes, wallet and refunds, step by step

The handlers that the order and delivery operations call meet `stepContract`.
The ones that need no observation are `Free` and may follow anything.
-/

namespace IncaCook

open Prog Orders Deliveries Wallets Webhooks

section

variable {C : Contract machine} {me : Nat} {o : OrderId} {d : DeliveryId} {sub : String}

/-! ## Parts that only read -/

theorem assertSellerUser_of (hquery : ∀ h s, C.guar h .query s s) : Free C (assertSellerUser sub) :=
  free_bind (free_read hquery) fun _ => free_bind free_orThrow fun _ => free_pure

theorem loadOrderForSellerAction_of (hquery : ∀ h s, C.guar h .query s s) {seller : UserId} :
    Free C (loadOrderForSellerAction o seller) :=
  free_bind (free_read hquery) fun _ => free_bind free_orThrow fun _ =>
    free_bind free_throwIf fun _ => free_pure

theorem findOrderWithRelations_of (hquery : ∀ h s, C.guar h .query s s) :
    Free C (findOrderWithRelations o) :=
  free_bind (free_read hquery) fun _ => free_orThrow

theorem assertDriver_of (hquery : ∀ h s, C.guar h .query s s) : Free C (assertDriver sub) :=
  free_bind (free_read hquery) fun _ => free_bind free_orThrow fun _ => free_bind free_throwIf fun _ =>
    free_bind free_orThrow fun _ => free_pure

theorem loadDelivery_of (hquery : ∀ h s, C.guar h .query s s) : Free C (loadDelivery d) :=
  free_bind (free_read hquery) fun _ => free_orThrow

theorem loadDeliveryForDriver_of (hquery : ∀ h s, C.guar h .query s s) {driver : UserId} :
    Free C (loadDeliveryForDriver d driver) :=
  free_bind (loadDelivery_of hquery) fun _ => free_bind free_throwIf fun _ => free_pure

theorem getDispute_of (hquery : ∀ h s, C.guar h .query s s) {id : DisputeId} : Free C (getDispute id) :=
  free_bind (free_read hquery) fun _ => free_orThrow

end

section

variable {cfg : Config} {R : Db → Db → Prop} {me : Nat} {call : Call}
  {h : List (StepRecord machine)} {s : Db}

/-! ## Reads and paperwork -/

theorem free_query {α : Type} {f : Db → α} {site : Site} :
    Free (stepContract cfg R me call) (read (M := machine) site f) :=
  free_read fun _ s => .noop site s

theorem paperwork_query {α : Type} {f : Db → α} :
    Free (paperworkContract R) (read (M := machine) .query f) :=
  free_read fun _ s => ⟨rfl, .refl s⟩

/-- Paperwork consists of steps. -/
theorem free_paperwork {α : Type} {p : Handler α} (hp : Free (paperworkContract R) p) :
    Free (stepContract cfg R me call) p :=
  fun h s => (hp h s).mono (fun _ _ hR => hR) (fun _ _ _ _ hg => .aside hg.2) fun _ _ _ hQ => hQ

/-- Paperwork keeps whatever is about orders, deliveries, payments and the ledger. -/
theorem paperwork_keeps {α : Type} {p : Handler α} {I : Db → Prop}
    (hp : Free (paperworkContract R) p) (hR : ∀ a b, R a b → I a → I b)
    (haside : ∀ a b, Aside a b → I a → I b) (hI : I s) :
    Sat (stepContract cfg R me call) (fun _ _ s => I s) p h s :=
  ((hp h s).keep (I := fun _ s => I s) (fun _ a b hab => hR a b hab)
    (fun _ _ a b hIa hg => haside a b hg.2 hIa) hI).mono
    (fun _ _ hR => hR) (fun _ _ _ _ hg => .aside hg.2) fun _ _ _ hQ => hQ.2

theorem findOrderWithRelations_free {o : OrderId} :
    Free (stepContract cfg R me call) (findOrderWithRelations o) :=
  findOrderWithRelations_of fun _ s => .noop _ s

theorem loadDelivery_free {d : DeliveryId} :
    Free (stepContract cfg R me call) (loadDelivery d) :=
  loadDelivery_of fun _ s => .noop _ s

/-! ## Strikes -/

theorem createStrike_ok {input : Strikes.AddStrikeInput} {id : StrikeId} {u : Unit} {s' : Db} :
    Strikes.createStrike input id s = .ok (u, s') ↔
      ∃ strikes, s.strikes.insert? (input.row id s.now) = some strikes ∧ s' = { s with strikes } := by
  simp only [Strikes.createStrike, Stmt.bind_ok, Stmt.get_ok, Tx.orThrow_ok, Stmt.set_ok]
  constructor
  · rintro ⟨_, _, ⟨rfl, rfl⟩, strikes, _, ⟨hinsert, rfl⟩, rfl⟩
    exact ⟨strikes, hinsert, rfl⟩
  · rintro ⟨strikes, hinsert, rfl⟩
    exact ⟨s, s, ⟨rfl, rfl⟩, strikes, s, ⟨hinsert, rfl⟩, rfl⟩

theorem createStrike_paperwork {u : UserId} {input : Strikes.AddStrikeInput} {id : StrikeId} :
    Free (paperworkContract R)
      (await (.createStrike u) fun _ => Strikes.createStrike input id) := by
  refine free_await (fun _ s => ⟨rfl, .refl s⟩) fun h _ s _ s' hrun => ⟨rfl, ?_⟩
  obtain ⟨strikes, -, rfl⟩ := createStrike_ok.mp hrun
  exact ⟨rfl, rfl, rfl, rfl, rfl, rfl, rfl, rfl, rfl⟩

theorem suspendUser_paperwork {u : UserId} {reason : StrikeReason} :
    Free (paperworkContract R) (Strikes.suspendUser u reason) := by
  refine free_await (fun _ s => ⟨rfl, .refl s⟩) fun h _ s _ s' hrun => ⟨rfl, ?_⟩
  simp only [Strikes.suspendRow, Stmt.modify_ok] at hrun
  subst hrun
  refine ⟨rfl, rfl, rfl, rfl, rfl, rfl, rfl, rfl, ?_⟩
  exact Table.map_rewritten s.users.rows (fun r => r.id = u && !r.isSuspended) fun _ => rfl

/-- A strike reads, and makes two writes. -/
theorem addStrike_of {C : Contract machine} {input : Strikes.AddStrikeInput}
    (hread : ∀ h s, C.guar h .query s s)
    (hcreate : ∀ id, Free C (await (.createStrike input.userId) fun _ => Strikes.createStrike input id))
    (hsuspend : Free C (Strikes.suspendUser input.userId input.reason)) :
    Free C (Strikes.addStrike me input) := by
  refine free_bind (free_ite (free_read hread) free_pure) fun duplicate => free_ite ?_ ?_
  · exact free_bind (free_read hread) fun _ => free_pure
  · refine free_bind (hcreate _) fun _ => free_bind ?_ fun _ => free_pure
    exact free_bind (free_read hread) fun _ =>
      free_ite (free_bind hsuspend fun _ => free_pure) free_pure

/-- A strike that is added for good measure, its errors ignored. -/
theorem strike_of {C : Contract machine} {input : Strikes.AddStrikeInput}
    (hstrike : Free C (Strikes.addStrike me input)) :
    Free C (tryCatch (do
      let _ ← Strikes.addStrike me input
      pure ()) fun _ => pure ()) :=
  free_tryCatch (free_bind hstrike fun _ => free_pure) fun _ => free_pure

theorem addStrike_paperwork {input : Strikes.AddStrikeInput} :
    Free (paperworkContract R) (Strikes.addStrike me input) :=
  addStrike_of (fun _ s => ⟨rfl, .refl s⟩) (fun _ => createStrike_paperwork) suspendUser_paperwork

theorem immediateExclude_free {u : UserId} {role : ActorRole} {reason : StrikeReason}
    {sourceType : StrikeSourceType} {d : DeliveryId} {o : OrderId} :
    Free (stepContract cfg R me call)
      (Strikes.immediateExclude me u role reason sourceType d o) :=
  free_paperwork (free_bind addStrike_paperwork fun _ => suspendUser_paperwork)

theorem strike_paperwork {input : Strikes.AddStrikeInput} :
    Free (paperworkContract R) (tryCatch (do
      let _ ← Strikes.addStrike me input
      pure ()) fun _ => pure ()) :=
  strike_of addStrike_paperwork

theorem strike_free {input : Strikes.AddStrikeInput} :
    Free (stepContract cfg R me call) (tryCatch (do
      let _ ← Strikes.addStrike me input
      pure ()) fun _ => pure ()) :=
  free_paperwork strike_paperwork

/-! ## Crediting -/

/-- The status in which a credit is booked. -/
def creditStatus (order : Order) : WalletEntryStatus :=
  if order.status = .disputed then .held else .pending

/-- **What an order is credited with**: a row for the seller, one for the platform and one for
the driver, as far as there is something to credit. -/
theorem forall_creditRows {order : Order} {delivery : Option Delivery} {now : Time} {P : WalletEntry → Prop}
    (hseller : ∀ since, P (newEntry (generateUlid me 5) (.user order.sellerId) order.id .orderEarning
      order.sellerEarningsCents (creditStatus order) since none))
    (hplatform : P (newEntry (generateUlid me 6) .platform order.id .commission order.commissionCents
      .available (some now) none))
    (hdriver : ∀ driver since, P (newEntry (generateUlid me 7) (.user driver) order.id .deliveryEarning
      order.fulfillmentFeeCents (creditStatus order) since none)) :
    ∀ e ∈ creditRows cfg me order delivery now, P e := by
  have hite : ∀ (p : Prop) [Decidable p] (row : WalletEntry), P row → ∀ e ∈ if p then [row] else [], P e := by
    intro p _ row hrow e he
    split at he
    · rw [List.mem_singleton.mp he]
      exact hrow
    · cases he
  intro e he
  unfold creditRows at he
  rcases List.mem_append.mp he with he | he
  · rcases List.mem_append.mp he with he | he
    · exact hite _ _ (hseller _) e he
    · exact hite _ _ hplatform e he
  · cases hd : delivery.bind Delivery.driverId with
    | none =>
      rw [hd] at he
      cases he
    | some driver =>
      rw [hd] at he
      exact hite _ _ (hdriver driver _) e he

theorem creditForCompletedOrder_free {o : OrderId} :
    Free (stepContract cfg R me call) (creditForCompletedOrder cfg me o) := by
  refine fun h s => sat_read_bind fun s₀ _ => ⟨.noop _ _, ?_⟩
  cases ho : s₀.orders.find? o with
  | none => trivial
  | some row =>
    refine sat_ite (fun hstatus => sat_ite (fun _ => trivial) fun _ => ?_) fun _ => trivial
    refine sat_await fun s₁ hR i => ⟨fun _ _ => ⟨.noop _ _, trivial⟩, fun u s₂ hrun => ?_⟩
    rw [createEntries_ok.mp hrun]
    exact ⟨.creditCompleted o hR ho hstatus, trivial⟩

theorem compensateDriver_free {o : OrderId} {driver : UserId} {amount : Cents} :
    Free (stepContract cfg R me call) (compensateDriver me o driver amount) := by
  refine free_ite free_pure (free_await (fun _ s => .noop _ s) fun h _ s _ s' hrun => ?_)
  simp only [Stmt.bind_ok, Stmt.get_ok, createEntries_ok] at hrun
  obtain ⟨_, _, ⟨rfl, rfl⟩, rfl⟩ := hrun
  exact .compensateDriver o driver amount

theorem creditSellerEarning_free {o : OrderId} {seller : UserId} {amount : Cents} :
    Free (stepContract cfg R me call) (creditSellerEarning me o seller amount) := by
  refine free_ite free_pure (free_await (fun _ s => .noop _ s) fun h _ s _ s' hrun => ?_)
  simp only [Stmt.bind_ok, Stmt.get_ok, createEntries_ok] at hrun
  obtain ⟨_, _, ⟨rfl, rfl⟩, rfl⟩ := hrun
  exact .creditSeller o seller amount

theorem recordDriverDebt_free {o : OrderId} {driver : UserId} {amount : Cents} :
    Free (stepContract cfg R me call) (recordDriverDebt me o driver amount) := by
  refine free_ite free_pure (free_await (fun _ s => .noop _ s) fun h _ s _ s' hrun => ?_)
  simp only [Stmt.bind_ok, Stmt.get_ok, createEntries_ok] at hrun
  obtain ⟨_, _, ⟨rfl, rfl⟩, rfl⟩ := hrun
  exact .driverDebt o driver amount

/-! ## The sweep and the withdrawal -/

/-- A due entry whose order is in one of the statuses. -/
def dueWith (now : Time) (orders : Table Order) (statuses : List OrderStatus) (e : WalletEntry) :
    Bool :=
  due now e && (e.orderId.bind orders.find?).any fun o => o.status ∈ statuses

/-- The sweep finds the entries that are due with an order in one of the statuses. -/
theorem mem_dueIds_iff (now : Time) {t : Table WalletEntry} (orders : Table Order)
    (statuses : List OrderStatus) {e : WalletEntry} (he : e ∈ t.rows) :
    e.id ∈ dueIds (t.rows.filter (due now))
        (orders.rows.filter fun o => o.id ∈ (t.rows.filter (due now)).filterMap WalletEntry.orderId)
        statuses ↔ dueWith now orders statuses e = true := by
  -- the orders that were read are the orders of the due entries
  have hread : ∀ e ∈ t.rows.filter (due now), (e.orderId.bind fun id =>
      (orders.rows.filter fun o => o.id ∈ (t.rows.filter (due now)).filterMap
        WalletEntry.orderId).find? fun o => o.id = id) = e.orderId.bind orders.find? := by
    intro e he
    cases ho : e.orderId with
    | none => rfl
    | some o =>
      have hwanted : o ∈ (t.rows.filter (due now)).filterMap WalletEntry.orderId :=
        List.mem_filterMap.mpr ⟨e, he, ho⟩
      rw [Option.bind_some, Option.bind_some, List.find?_filter]
      show List.find? _ _ = List.find? _ _
      congr 1
      funext row
      by_cases hrow : row.id = o
      · simpa [hrow, Keyed.key] using hwanted
      · simp [hrow, Keyed.key]
  unfold dueIds dueWith
  rw [Bool.and_eq_true]
  constructor
  · intro hid
    obtain ⟨e₀, he₀, hsame⟩ := List.mem_map.mp hid
    obtain ⟨hmem, hany⟩ := List.mem_filter.mp he₀
    obtain ⟨hrow, hdue⟩ := List.mem_filter.mp hmem
    obtain rfl : e₀ = e := Table.eq_of_key_eq hrow he hsame
    rw [hread e₀ hmem] at hany
    exact ⟨hdue, hany⟩
  · rintro ⟨hdue, hany⟩
    have hmem : e ∈ t.rows.filter (due now) := List.mem_filter.mpr ⟨he, hdue⟩
    refine List.mem_map_of_mem (List.mem_filter.mpr ⟨hmem, ?_⟩)
    rw [hread e hmem]
    exact hany

theorem reverseEntries_free {ids : List WalletEntryId} :
    Free (stepContract cfg R me call) (await .reverseDue fun _ => reverseEntries ids) := by
  refine free_await (fun _ s => .noop _ s) fun h _ s _ s' hrun => ?_
  rw [updateWalletEntries_ok.mp hrun]
  exact .reverseDue ids

theorem releaseDuePendingEntries_sat :
    Sat (stepContract cfg R me .releaseDuePendingEntries) anyPost releaseDuePendingEntries h s := by
  refine sat_read_bind fun s₀ _ => ⟨.noop _ _, sat_ite (fun _ => trivial) fun _ => ?_⟩
  refine sat_read_bind fun s₁ hR₀ => ⟨.noop _ _, ?_⟩
  refine sat_bind_free ?_ fun _ =>
    free_bind (free_runIf fun _ => reverseEntries_free) fun _ => free_pure
  unfold runIf
  split
  · refine sat_await fun s₂ hR₁ i => ⟨fun _ _ => ⟨.noop _ _, trivial⟩, fun u s₃ hrun => ?_⟩
    rw [updateWalletEntries_ok.mp hrun]
    exact ⟨.releaseDue hR₀ hR₁ rfl, trivial⟩
  · trivial

/-- The payout target is read, in whichever profile it is kept. -/
theorem resolvePayoutTarget_bind {α : Type} {C : Contract machine} {u : UserId} {role : UserRole}
    {k : PayoutTarget → Handler α} {Q : Post machine α} (hnoop : ∀ h s, C.guar h .query s s)
    (hk : ∀ s' t, C.rely s s' → Sat C Q (k t) (⟨.query, s', s'⟩ :: h) s') :
    Sat C Q (resolvePayoutTarget u role >>= k) h s := by
  unfold resolvePayoutTarget
  split
  · exact sat_read_bind fun s' hR => ⟨hnoop _ _, hk s' _ hR⟩
  · exact sat_read_bind fun s' hR => ⟨hnoop _ _, hk s' _ hR⟩

theorem requestWithdrawal_sat (htrans : ∀ a b c, R a b → R b c → R a c) {sub : String} :
    Sat (stepContract cfg R me call) anyPost (requestWithdrawal me sub) [] s := by
  refine sat_read_bind fun s₀ _ => ⟨.noop _ _, sat_orThrow_bind (fun _ => trivial) fun user _ => ?_⟩
  refine sat_read_bind fun s₁ _ => ⟨.noop _ _, ?_⟩
  refine sat_throwIf_bind (fun _ => trivial) fun _ => ?_
  refine sat_throwIf_bind (fun _ => trivial) fun _ => ?_
  refine resolvePayoutTarget_bind (fun _ _ => .noop _ _) fun s₂ target hR₁ => ?_
  refine sat_throwIf_bind (fun _ => trivial) fun _ => ?_
  refine sat_orThrow_bind (fun _ => trivial) fun account _ => ?_
  -- the transfer, on the entries read as available in `s₁`
  refine sat_await_bind fun s₃ hR₂ i => ⟨fun _ _ => ⟨.noop _ _, trivial⟩, fun _ s₄ hrun => ?_⟩
  simp only [createTransfer, Stmt.bind_ok, Tx.throwIf_ok, Stmt.modify_ok] at hrun
  obtain ⟨_, _, ⟨-, rfl⟩, rfl⟩ := hrun
  refine ⟨.createTransfer ⟨_, _, account, user.id⟩ (availableEntries s₁ user.id) rfl ?_ rfl ?_ rfl,
    ?_⟩
  · exact ⟨⟨.readAvailable user.id, s₁, s₁⟩, by simp, rfl, htrans _ _ _ hR₁ hR₂, rfl⟩
  · simp
  -- the settling transaction
  refine sat_await_bind fun s₅ hR₃ i => ⟨fun _ _ => ⟨.noop _ _, trivial⟩, fun _ s₆ hrun => ?_⟩
  simp only [settle, Stmt.bind_ok, Tx.throwIf_ok, updateWalletEntries_ok, Stmt.get_ok, Tx.orThrow_ok,
    Stmt.set_ok] at hrun
  obtain ⟨_, _, ⟨-, rfl⟩, _, _, rfl, _, _, ⟨rfl, rfl⟩, walletEntries, _, ⟨hnew, rfl⟩, rfl⟩ := hrun
  refine ⟨.settle user.id (availableEntries s₁ user.id) _ ?_ rfl hnew ?_ ⟨rfl, rfl⟩, trivial⟩
  · exact ⟨_, List.mem_cons_self .., s₁, htrans _ _ _ hR₁ hR₂, hR₃, rfl, rfl, rfl⟩
  · intro t ht u w ids hsite
    simp only [List.mem_cons, List.not_mem_nil, or_false] at ht
    rcases ht with rfl | rfl | rfl | rfl
    · exact (Site.createTransfer.inj hsite).2.2.symm
    · cases hsite
    · cases hsite
    · cases hsite

/-! ## Refunds -/

/-- The statements of `refundOrderIfNeeded`. -/
def refundSites (o : OrderId) : List Site :=
  [.query, .createRefund o, .saveRefund o, .reversePending o]

/-- `stepContract`, restricted to the statements of `refundOrderIfNeeded`. -/
def refundContract (cfg : Config) (R : Db → Db → Prop) (me : Nat) (call : Call) (o : OrderId) :
    Contract machine where
  rely := R
  guar h site s s' := site ∈ refundSites o ∧ Step cfg R me call h site s s'

theorem reversePending_sat {o : OrderId} :
    Sat (refundContract cfg R me call o) (fun _ r _ => r = .ok ())
      (await (.reversePending o) fun _ => reversePending o) h s := by
  refine sat_await fun s' _ i => ⟨fun e hrun => ?_, fun _ s'' hrun => ?_⟩
  · cases hrun
  · rw [updateWalletEntries_ok.mp hrun]
    exact ⟨⟨by simp [refundSites], .reversePending o⟩, rfl⟩

theorem createRefund_ok {o : OrderId} {pi : PaymentIntentId} {answer : Answer} {refund : RefundId}
    {s' : Db} (hrun : createRefund o pi answer s = .ok (refund, s')) :
    ∃ refunds, refund = ⟨s.stripeNext⟩ ∧
      (∃ row, s.paymentIntents.find? pi = some row ∧ row.succeeded = true) ∧
      s.refunds.insert? ⟨⟨s.stripeNext⟩, pi, o⟩ = some refunds ∧
      s' = { s with refunds, stripeNext := s.stripeNext + 1 } := by
  simp only [createRefund, Stmt.bind_ok, Tx.throwIf_ok, Stmt.get_ok, Tx.orThrow_ok, Stmt.set_ok,
    Stmt.pure_ok] at hrun
  obtain ⟨_, _, ⟨-, rfl⟩, _, _, ⟨rfl, rfl⟩, _, _, ⟨hpaid, rfl⟩, _, _, ⟨-, rfl⟩, refunds, _,
    ⟨hnew, rfl⟩, _, _, rfl, rfl, rfl⟩ := hrun
  refine ⟨refunds, rfl, ?_, hnew, rfl⟩
  rw [Decidable.not_not, Option.any_eq_true] at hpaid
  exact hpaid

theorem saveRefund_ok {o : OrderId} {refund : RefundId} {answer : Answer} {u : Unit} {s' : Db}
    (hrun : saveRefund o refund answer s = .ok (u, s')) :
    s' = { s with orders := s.orders.update o fun r =>
      { r with stripeRefundId := some refund, refundedAt := some s.now } } := by
  simp only [saveRefund, Stmt.bind_ok, Tx.throwIf_ok, Stmt.get_ok, updateOrder_ok] at hrun
  obtain ⟨_, _, ⟨-, rfl⟩, _, _, ⟨rfl, rfl⟩, _, _, ⟨-, rfl⟩, -, rfl⟩ := hrun
  rfl

/-- A refund reads, and makes three writes. -/
theorem refundOrderIfNeeded_of {C : Contract machine} {o : OrderId}
    (hread : ∀ h s, C.guar h .query s s)
    (hcreate : ∀ pi, Free C (await (.createRefund o) (createRefund o pi)))
    (hsave : ∀ refund, Free C (await (.saveRefund o) (saveRefund o refund)))
    (hreverse : Free C (await (.reversePending o) fun _ => reversePending o)) :
    Free C (refundOrderIfNeeded o) := by
  refine free_bind (free_read hread) fun found => ?_
  cases found with
  | none => exact free_pure
  | some row =>
    dsimp only
    split
    · exact free_pure
    · exact free_pure
    · refine free_bind (free_tryCatch (free_bind (hcreate _) fun _ => free_pure) fun _ => free_pure)
        fun refund => ?_
      cases refund with
      | none => exact free_pure
      | some refund =>
        exact free_bind (free_tryCatch (hsave refund) fun _ => free_pure) fun _ => hreverse

theorem RefundCause.tail {o : OrderId} {s' : Db} (hc : RefundCause R call s o)
    (hstep : R s s' ∨ s'.orders = s.orders) : RefundCause R call s' o := by
  rcases hc with hc | ⟨s₀, row, hs, hc⟩ | hc
  · exact .inl hc
  · exact .inr (.inl ⟨s₀, row, hs.tail hstep, hc⟩)
  · exact .inr (.inr hc)

/-- The transaction just executed has cancelled the order. -/
theorem RefundCause.of_cancelled {o : OrderId} {row : Order} (hrow : s.orders.find? o = some row)
    (hstatus : row.status = .cancelled) : RefundCause R call s o :=
  .inr (.inl ⟨s, row, .refl, hrow, hstatus⟩)

/-- `refundOrderIfNeeded` swallows the failures of Stripe and of its own update. -/
theorem refundOrderIfNeeded_ok {o : OrderId} (hcause : RefundCause R call s o) :
    Sat (refundContract cfg R me call o) (fun _ r _ => r = .ok ()) (refundOrderIfNeeded o) h s := by
  have hnoop : ∀ h site s', site ∈ refundSites o →
      (refundContract cfg R me call o).guar h site s' s' := fun _ site s' hsite =>
    ⟨hsite, .noop site s'⟩
  refine sat_read_bind fun s₀ hR₀ => ⟨hnoop _ _ _ (by simp [refundSites]), ?_⟩
  cases ho : s₀.orders.find? o with
  | none => exact sat_pure rfl
  | some row =>
    cases hrefund : row.stripeRefundId with
    | some _ =>
      simp only [hrefund]
      exact sat_pure rfl
    | none =>
      cases hpi : row.stripePaymentIntentId with
      | none =>
        simp only [hrefund, hpi]
        exact sat_pure rfl
      | some pi =>
        simp only [hrefund, hpi]
        -- a refusal of Stripe is logged and forgotten; so is a failure to save the
        -- id of the refund, but that refund was made
        refine sat_bind (sat_tryCatch (sat_await_bind fun s₁ hR i => ⟨fun _ _ => ?_, ?_⟩))
        · exact ⟨hnoop _ _ _ (by simp [refundSites]), sat_pure rfl⟩
        · intro refund s₂ hrun
          obtain ⟨refunds, rfl, hpaid, hnew, rfl⟩ := createRefund_ok hrun
          refine ⟨⟨by simp [refundSites],
            .createRefund o pi ⟨s₀, row, hR, ho, hrefund, hpi⟩ hpaid hnew⟩, ?_⟩
          refine sat_bind (sat_tryCatch (sat_await fun s₃ hR' i => ⟨fun _ _ => ?_, ?_⟩))
          · exact ⟨hnoop _ _ _ (by simp [refundSites]), reversePending_sat⟩
          · intro _ s₄ hrun
            obtain rfl := saveRefund_ok hrun
            have hrow : refunds.find? ⟨s₁.stripeNext⟩ = some ⟨⟨s₁.stripeNext⟩, pi, o⟩ :=
              (Table.find?_insert hnew _).trans (if_pos rfl)
            have hafter : RefundCause R call
                ({ s₁ with refunds, stripeNext := s₁.stripeNext + 1 } : Db) o :=
              ((hcause.tail (.inl hR₀)).tail (.inl hR)).tail (.inr rfl)
            exact ⟨⟨by simp [refundSites], .saveRefund o _ ⟨_, _, hR', hrow, rfl⟩
              (hafter.tail (.inl hR'))⟩, reversePending_sat⟩

theorem refundOrderIfNeeded_sat {o : OrderId} (hcause : RefundCause R call s o) :
    Sat (stepContract cfg R me call) anyPost (refundOrderIfNeeded o) h s :=
  (refundOrderIfNeeded_ok hcause).mono (fun _ _ hR => hR) (fun _ _ _ _ hg => hg.2)
    fun _ _ _ _ => trivial

theorem refundForDispute_free {o : OrderId} (hcall : call.decidesDispute = true) :
    Free (stepContract cfg R me call) (refundForDispute o) := by
  refine free_bind (fun h s => refundOrderIfNeeded_sat (.inl hcall)) fun _ => ?_
  refine free_await (fun _ s => .noop _ s) fun h _ s _ s' hrun => ?_
  obtain ⟨-, rfl⟩ := updateOrder_ok.mp hrun
  exact .refundDispute o

end

end IncaCook
