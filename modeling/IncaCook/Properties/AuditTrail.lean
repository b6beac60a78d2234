import IncaCook.Library.Latches
import IncaCook.Properties.PaidOnce
import IncaCook.Steps.Interleaved

/-!
# The trail that orders leave

Accounting, disputes and support all look at rows long after the calls that wrote them.
They can, because the services only ever add to what is recorded: no order, delivery,
wallet entry, PaymentIntent, refund or transfer is deleted, what the parties agreed on is
never rewritten, a delivery never changes hands, and what is once marked on a row (a
confirmation, a token, a proof of drop-off, a refund, a cancellation) stays marked.
An entry of the wallet moves from pending to available to paid out, or is cancelled
before it is available, and in no other way.

Calls read a row and write it later, so a step may well repeat what another call has done
meanwhile, with other values. What survives every interleaving is the order `Db.Trails`
between states, which says what a later state still shows of an earlier one.

Main results:

* `Step.trails`: every step leads to a later state;
* `audit_trail`: so does every part of every interleaving.
-/

namespace IncaCook

open Prog Orders Deliveries Wallets Webhooks

/-! ## Rows -/

/-- What the parties agreed on: the row without the columns that say how far the order got. -/
def Order.terms (o : Order) : Order :=
  { o with
    status := .pending
    fulfillmentChoice := .pickup
    stripePaymentIntentId := none
    inventoryRestored := false
    stripeRefundId := none
    refundedAt := none
    confirmedAt := none
    readyAt := none
    cancelledAt := none
    cancellationReason := none }

/-- What an order can only be marked with. -/
def Order.marks : List (Order → Bool) :=
  [fun o => o.status ≠ .pending, fun o => o.fulfillmentChoice = .pickup,
    fun o => o.stripePaymentIntentId.isSome, Order.inventoryRestored, fun o => o.stripeRefundId.isSome,
    fun o => o.refundedAt.isSome, fun o => o.confirmedAt.isSome, fun o => o.readyAt.isSome,
    fun o => o.cancelledAt.isSome, fun o => o.cancellationReason.isSome]

structure Order.Trails (o o' : Order) : Prop where
  terms : o'.terms = o.terms
  marks : KeepsMarks Order.marks o o'

/-- What a delivery can only be marked with. -/
def Delivery.marks : List (Delivery → Bool) :=
  [fun d => d.status ≠ .searching, fun d => d.driverId.isSome, fun d => d.driverAssignedAt.isSome,
    fun d => d.pickupToken.isSome, fun d => d.pickedUpAt.isSome, fun d => d.pickupConfirmedAt.isSome,
    fun d => d.pickupConfirmedByDriverId.isSome, fun d => d.deliveryToken.isSome,
    fun d => d.deliveredAt.isSome, fun d => d.deliveredConfirmedAt.isSome,
    fun d => d.deliveredConfirmedByDriverId.isSome, Delivery.deliveredAsAbsent,
    fun d => d.absentProofPhotoUrl.isSome, fun d => d.absentProofTakenAt.isSome,
    fun d => d.failedAt.isSome, fun d => d.failureReason.isSome,
    fun d => d.sellerUnavailableReason.isSome, fun d => d.sellerUnavailableAt.isSome]

structure Delivery.Trails (d d' : Delivery) : Prop where
  orderId : d'.orderId = d.orderId
  createdAt : d'.createdAt = d.createdAt
  driver : d.driverId = none ∨ d'.driverId = d.driverId
  marks : KeepsMarks Delivery.marks d d'

/-- Where an entry of this status can get to. -/
def WalletEntryStatus.later : WalletEntryStatus → List WalletEntryStatus
  | .pending => [.pending, .available, .paidOut, .cancelled]
  | .available => [.available, .paidOut]
  | .held => [.held]
  | .paidOut => [.paidOut]
  | .cancelled => [.cancelled]

/-- Whose entry it is, and of how much for what. -/
def WalletEntry.terms (e : WalletEntry) : WalletEntry :=
  { e with status := .pending, withdrawalId := none, releasedAt := none }

structure WalletEntry.Trails (e e' : WalletEntry) : Prop where
  terms : e'.terms = e.terms
  status : e'.status ∈ e.status.later
  settled : e.withdrawalId.isSome = true → e'.withdrawalId.isSome = true
  released : e.releasedAt.isSome = true → e'.releasedAt.isSome = true

/-- A PaymentIntent changes only by succeeding. -/
structure PaymentIntent.Trails (p p' : PaymentIntent) : Prop where
  terms : { p' with succeeded := p.succeeded } = p
  succeeded : p.succeeded = true → p'.succeeded = true

/-- What a later state still shows of an earlier one. -/
structure Db.Trails (s s' : Db) : Prop where
  now : s.now ≤ s'.now
  orders : s.orders.Carries Order.Trails s'.orders
  deliveries : s.deliveries.Carries Delivery.Trails s'.deliveries
  walletEntries : s.walletEntries.Carries WalletEntry.Trails s'.walletEntries
  paymentIntents : s.paymentIntents.Carries PaymentIntent.Trails s'.paymentIntents
  refunds : ∀ r ∈ s.refunds.rows, r ∈ s'.refunds.rows
  transfers : ∀ t ∈ s.transfers.rows, t ∈ s'.transfers.rows

/-! ## The orders of rows and of states -/

theorem Order.Trails.refl (o : Order) : o.Trails o := ⟨rfl, .refl _ _⟩

theorem Order.Trails.trans (a b c : Order) (hab : a.Trails b) (hbc : b.Trails c) : a.Trails c :=
  ⟨hbc.terms.trans hab.terms, hab.marks.trans hbc.marks⟩

theorem Delivery.Trails.refl (d : Delivery) : d.Trails d := ⟨rfl, rfl, .inr rfl, .refl _ _⟩

theorem Delivery.Trails.trans (a b c : Delivery) (hab : a.Trails b) (hbc : b.Trails c) : a.Trails c where
  orderId := hbc.orderId.trans hab.orderId
  createdAt := hbc.createdAt.trans hab.createdAt
  driver := by
    rcases hab.driver with hnone | hsame
    · exact .inl hnone
    · rcases hbc.driver with hnone | hsame'
      · exact .inl (hsame ▸ hnone)
      · exact .inr (hsame'.trans hsame)
  marks := hab.marks.trans hbc.marks

theorem WalletEntryStatus.self_mem_later (a : WalletEntryStatus) : a ∈ a.later := by
  cases a
  all_goals exact List.mem_cons_self ..

/-- The arrows compose. -/
theorem WalletEntryStatus.later_trans {a b c : WalletEntryStatus} (hab : b ∈ a.later) (hbc : c ∈ b.later) :
    c ∈ a.later := by
  have hfinal : ∀ d : WalletEntryStatus, d.later = [d] → b ∈ d.later → c ∈ d.later := by
    intro d hd hb
    rw [hd, List.mem_singleton] at hb
    exact hb ▸ hbc
  cases a with
  | pending =>
    cases b with
    | pending => exact hbc
    | available =>
      have hsub : WalletEntryStatus.available.later ⊆ WalletEntryStatus.pending.later := by decide
      exact hsub hbc
    | held => simp [later] at hab
    | paidOut => exact List.mem_singleton.mp hbc ▸ hab
    | cancelled => exact List.mem_singleton.mp hbc ▸ hab
  | available =>
    cases b with
    | available => exact hbc
    | paidOut => exact List.mem_singleton.mp hbc ▸ hab
    | _ => simp [later] at hab
  | _ => exact hfinal _ rfl hab

theorem WalletEntry.Trails.refl (e : WalletEntry) : e.Trails e :=
  ⟨rfl, e.status.self_mem_later, fun h => h, fun h => h⟩

theorem WalletEntry.Trails.trans (a b c : WalletEntry) (hab : a.Trails b) (hbc : b.Trails c) :
    a.Trails c where
  terms := hbc.terms.trans hab.terms
  status := WalletEntryStatus.later_trans hab.status hbc.status
  settled h := hbc.settled (hab.settled h)
  released h := hbc.released (hab.released h)

theorem PaymentIntent.Trails.refl (p : PaymentIntent) : p.Trails p := ⟨rfl, fun h => h⟩

theorem PaymentIntent.Trails.trans (a b c : PaymentIntent) (hab : a.Trails b) (hbc : b.Trails c) :
    a.Trails c where
  terms := by
    have hb : { c with succeeded := a.succeeded } = { b with succeeded := a.succeeded } := by
      rw [← hbc.terms]
    rw [hb]
    exact hab.terms
  succeeded h := hbc.succeeded (hab.succeeded h)

theorem Db.Trails.refl (s : Db) : s.Trails s where
  now := Nat.le_refl _
  orders := .refl Order.Trails.refl _
  deliveries := .refl Delivery.Trails.refl _
  walletEntries := .refl WalletEntry.Trails.refl _
  paymentIntents := .refl PaymentIntent.Trails.refl _
  refunds _ h := h
  transfers _ h := h

theorem Db.Trails.trans {s s' s'' : Db} (h : s.Trails s') (h' : s'.Trails s'') : s.Trails s'' where
  now := Nat.le_trans h.now h'.now
  orders := Table.Carries.trans Order.Trails.trans h.orders h'.orders
  deliveries := Table.Carries.trans Delivery.Trails.trans h.deliveries h'.deliveries
  walletEntries := Table.Carries.trans WalletEntry.Trails.trans h.walletEntries h'.walletEntries
  paymentIntents := Table.Carries.trans PaymentIntent.Trails.trans h.paymentIntents h'.paymentIntents
  refunds r hr := h'.refunds r (h.refunds r hr)
  transfers t ht := h'.transfers t (h.transfers t ht)

/-! ## What a step writes -/

section

variable {cfg : Config} {R : Db → Db → Prop} {me : Nat} {call : Call} {h : List (StepRecord machine)}
  {site : Site} {s s' : Db}

theorem backfill_trails {read row row' : Order} {pi : PaymentIntentId} (htrails : row.Trails row') :
    row.Trails (backfill read pi row') := by
  unfold backfill
  split
  · exact htrails
  · refine Order.Trails.trans _ _ _ htrails ⟨rfl, ?_⟩
    simp [KeepsMarks, Order.marks]

theorem cancel_trails {now : Time} {reason : Reason} (o : Order) :
    o.Trails (Orders.Order.cancel now reason o) :=
  ⟨rfl, by simp [KeepsMarks, Order.marks, Orders.Order.cancel]⟩

theorem cancelRestored_trails {now : Time} {reason : Reason} (o : Order) :
    o.Trails (Orders.Order.cancelRestored now reason o) :=
  ⟨rfl, by simp [KeepsMarks, Order.marks, Orders.Order.cancelRestored, Orders.Order.cancel]⟩

theorem Step.trails_orders (hstep : Step cfg R me call h site s s') :
    s.orders.Carries Order.Trails s'.orders := by
  have hupdate : ∀ id f (hf : ∀ o : Order, (f o).id = o.id), (∀ o : Order, o.Trails (f o)) →
      s.orders.Carries Order.Trails (s.orders.update id f hf) :=
    fun _ _ hf htrails => Table.carries_update Order.Trails.refl htrails hf
  cases hstep with
  | aside haside =>
    rw [haside.orders]
    exact .refl Order.Trails.refl _
  | placeOrder args hid hstock hnew => exact Table.carries_insert Order.Trails.refl hnew
  | paymentSucceeded ev order hsaw =>
    apply hupdate
    · exact fun _ => backfill_trails ⟨rfl, by simp [KeepsMarks, Order.marks]⟩
    · exact fun _ => backfill_id order ev.id _
  | paymentFailed ev order fresh reason hsaw hfresh hpending =>
    apply hupdate
    · exact fun _ => backfill_trails (cancelRestored_trails _)
    · exact fun _ => backfill_id order ev.id _
  | cancelNoDriver | cancelSellerUnavailable | sellerCannotProvide | cancelAsSeller =>
    apply hupdate
    · exact fun _ => cancelRestored_trails _
    · exact fun _ => rfl
  | driverDisappeared d o hdelivery horder =>
    apply hupdate
    · exact fun _ => cancel_trails _
    · exact fun _ => rfl
  | _ => first
    | exact .refl Order.Trails.refl _
    | (apply hupdate
       · exact fun _ => ⟨rfl, by simp [KeepsMarks, Order.marks]⟩
       · exact fun _ => rfl)

theorem cancelled_trails {now : Time} {reason : Reason} (d : Delivery) :
    d.Trails (Orders.Delivery.cancel now reason d) :=
  ⟨rfl, rfl, .inr rfl, by simp [KeepsMarks, Delivery.marks, Orders.Delivery.cancel]⟩

theorem deliver_trails {driver : UserId} {lat lng : Option JsNumber} {now : Time} (d : Delivery) :
    d.Trails (Deliveries.Delivery.deliver driver lat lng now d) :=
  ⟨rfl, rfl, .inr rfl, by simp [KeepsMarks, Delivery.marks, Deliveries.Delivery.deliver]⟩

theorem Step.trails_deliveries (hstep : Step cfg R me call h site s s') :
    s.deliveries.Carries Delivery.Trails s'.deliveries := by
  have hupdate : ∀ id f (hf : ∀ d : Delivery, (f d).id = d.id), (∀ d : Delivery, d.Trails (f d)) →
      s.deliveries.Carries Delivery.Trails (s.deliveries.update id f hf) :=
    fun _ _ hf htrails => Table.carries_update Delivery.Trails.refl htrails hf
  cases hstep with
  | aside haside =>
    rw [haside.deliveries]
    exact .refl Delivery.Trails.refl _
  | markReady o choice token hsaw hnew =>
    cases choice with
    | pickup => exact hnew ▸ .refl Delivery.Trails.refl _
    | delivery => exact Table.carries_insert Delivery.Trails.refl hnew
  | switchToPickup | cancelNoDriver | sellerCannotProvide =>
    dsimp only
    split
    · exact .refl Delivery.Trails.refl _
    · exact hupdate _ _ _ cancelled_trails
  | claim d driver hcall =>
    apply Table.carries_updateMany Delivery.Trails.refl
    · intro row hclaimable
      -- the update finds nobody on the delivery, so nobody loses it
      simp only [claimable, Bool.and_eq_true, Option.isNone_iff_eq_none] at hclaimable
      exact ⟨rfl, rfl, .inl hclaimable.2, by simp [KeepsMarks, Delivery.marks, Delivery.assign]⟩
    · exact fun _ => rfl
  | confirmPickup d driver token hcall huser hR hsaw hdriver hnot hstatus htoken =>
    apply hupdate
    · exact fun _ => ⟨rfl, rfl, .inr rfl, by simp [KeepsMarks, Delivery.marks, Delivery.pickUp]⟩
    · exact fun _ => rfl
  | confirmDelivery d driver hcall hsaw =>
    apply hupdate
    · exact fun _ => deliver_trails _
    · exact fun _ => rfl
  | confirmAbsentDropoff d driver hcall hphoto hgps hsaw =>
    apply hupdate
    · exact fun _ => ⟨rfl, rfl, .inr rfl, by
        simp [KeepsMarks, Delivery.marks, Delivery.dropOff, Delivery.deliver]⟩
    · exact fun _ => rfl
  | reportSellerUnavailable d driver hcall hsaw =>
    apply hupdate
    · exact fun _ => ⟨rfl, rfl, .inr rfl, by simp [KeepsMarks, Delivery.marks, Delivery.sellerUnavailable]⟩
    · exact fun _ => rfl
  | _ => first
    | exact .refl Delivery.Trails.refl _
    | (apply hupdate
       · exact fun _ => ⟨rfl, rfl, .inr rfl, by simp [KeepsMarks, Delivery.marks]⟩
       · exact fun _ => rfl)

theorem trails_insertSkippingDuplicate (t : Table WalletEntry) (e : WalletEntry) :
    t.Carries WalletEntry.Trails (insertSkippingDuplicate t e) := by
  unfold insertSkippingDuplicate
  split
  · exact .refl WalletEntry.Trails.refl t
  · cases hnew : t.insert? e with
    | none => exact .refl WalletEntry.Trails.refl t
    | some t' => exact Table.carries_insert WalletEntry.Trails.refl hnew

theorem trails_foldl_insertSkippingDuplicate (rows : List WalletEntry) (t : Table WalletEntry) :
    t.Carries WalletEntry.Trails (rows.foldl insertSkippingDuplicate t) := by
  induction rows generalizing t with
  | nil => exact .refl WalletEntry.Trails.refl t
  | cons e rest ih =>
    exact Table.Carries.trans WalletEntry.Trails.trans (trails_insertSkippingDuplicate t e) (ih _)

/-- Only pending entries are cancelled. -/
theorem trails_cancelled {t : Table WalletEntry} {p : WalletEntry → Bool}
    (hpending : ∀ e, p e = true → e.status = .pending) :
    t.Carries WalletEntry.Trails (t.updateMany p fun e => { e with status := .cancelled }) := by
  apply Table.carries_updateMany WalletEntry.Trails.refl
  intro e hp
  have hlater : WalletEntryStatus.cancelled ∈ e.status.later := by
    rw [hpending e hp]
    decide
  exact ⟨rfl, hlater, fun h => h, fun h => h⟩

/-- What was read as available has at most been paid out since. -/
theorem paidOut_mem_later {s₀ : Db} {user : UserId} {e : WalletEntry}
    (hkeeps : s₀.walletEntries.Carries WalletEntry.Trails s.walletEntries)
    (he : e ∈ s.walletEntries.rows) (hread : e.id ∈ (availableEntries s₀ user).map WalletEntry.id) :
    WalletEntryStatus.paidOut ∈ e.status.later := by
  obtain ⟨e₀, he₀, hid⟩ := List.mem_map.mp hread
  obtain ⟨hrow₀, havailable⟩ := List.mem_filter.mp he₀
  simp only [Bool.and_eq_true, decide_eq_true_eq] at havailable
  obtain ⟨e₁, he₁, htrails⟩ := hkeeps e₀ hrow₀
  have hfound : s.walletEntries.find? e.id = some e := Table.find?_of_mem he
  have hsame : e₁ = e := by
    have hkey : Keyed.key e₀ = e.id := hid
    rw [hkey, hfound] at he₁
    exact (Option.some.inj he₁).symm
  have hstatus : e.status ∈ WalletEntryStatus.available.later := by
    rw [← havailable.2, ← hsame]
    exact htrails.status
  rcases List.mem_cons.mp hstatus with hsome | hpaid
  · rw [hsome]
    decide
  · rw [List.mem_singleton.mp hpaid]
    decide

/-- The entries that a call pays out are those it has read as available, however long ago. -/
theorem Step.trails_walletEntries (hstep : Step cfg Db.Trails me call h site s s') :
    s.walletEntries.Carries WalletEntry.Trails s'.walletEntries := by
  have hpending : ∀ {p : WalletEntry → Bool} (e : WalletEntry),
      (p e && decide (e.status = .pending)) = true → e.status = .pending := by
    intro p e hp
    rw [Bool.and_eq_true, decide_eq_true_eq] at hp
    exact hp.2
  cases hstep with
  | aside haside =>
    rw [haside.walletEntries]
    exact .refl WalletEntry.Trails.refl _
  | reverseDriverEarning | reversePending | reverseDue =>
    apply trails_cancelled
    intro e hp
    exact hpending (p := fun e => _) e hp
  | creditCompleted => exact trails_foldl_insertSkippingDuplicate _ _
  | compensateDriver | creditSeller | driverDebt => exact trails_insertSkippingDuplicate _ _
  | releaseDue hR₀ hR₁ hcall =>
    refine Table.carries_updateMany WalletEntry.Trails.refl ?_ ?_
    · intro e hp
      have hlater : WalletEntryStatus.available ∈ e.status.later := by
        rw [hpending (p := fun e => _) e hp]
        decide
      exact ⟨rfl, hlater, fun h => h, fun _ => rfl⟩
    · exact fun _ => rfl
  | settle user entries debit htransfer hdebit hnew =>
    obtain ⟨t, -, s₀, hbefore, hafter, -, rfl, hledger⟩ := htransfer
    have hread : s₀.walletEntries.Carries WalletEntry.Trails s.walletEntries := by
      refine Table.Carries.trans WalletEntry.Trails.trans hbefore.walletEntries ?_
      rw [← hledger]
      exact hafter.walletEntries
    refine Table.Carries.trans WalletEntry.Trails.trans
      (Table.carries_updateMany_of_mem WalletEntry.Trails.refl ?_ ?_)
      (Table.carries_insert WalletEntry.Trails.refl hnew)
    · intro e he hp
      exact ⟨rfl, paidOut_mem_later hread he (of_decide_eq_true hp), fun _ => rfl, fun h => h⟩
    · exact fun _ => rfl
  | _ => exact .refl WalletEntry.Trails.refl _

/-- A PaymentIntent is created, and then only Stripe changes it. -/
theorem Step.trails_paymentIntents (hstep : Step cfg R me call h site s s') :
    s.paymentIntents.Carries PaymentIntent.Trails s'.paymentIntents := by
  cases hstep with
  | aside haside =>
    rw [haside.paymentIntents]
    exact .refl PaymentIntent.Trails.refl _
  | createPaymentIntent row hrow hplaced hnew => exact Table.carries_insert PaymentIntent.Trails.refl hnew
  | _ => exact .refl PaymentIntent.Trails.refl _

/-- A refund that Stripe has executed stays executed. -/
theorem Step.refunds_kept (hstep : Step cfg R me call h site s s') :
    ∀ r ∈ s.refunds.rows, r ∈ s'.refunds.rows := by
  intro r hr
  cases hstep with
  | aside haside => rwa [haside.refunds]
  | createRefund o pi hsaw hpaid hnew => exact (Table.mem_insert hnew).mpr (.inr hr)
  | _ => exact hr

/-- **Every step leads to a later state.** -/
theorem Step.trails (hstep : Step cfg Db.Trails me call h site s s') : s.Trails s' where
  now := by
    cases hstep with
    | aside haside => exact Nat.le_of_eq haside.now.symm
    | _ => exact Nat.le_refl _
  orders := hstep.trails_orders
  deliveries := hstep.trails_deliveries
  walletEntries := hstep.trails_walletEntries
  paymentIntents := hstep.trails_paymentIntents
  refunds := hstep.refunds_kept
  transfers := hstep.transfers_kept

/-- Time passes, and payments succeed. -/
theorem applyEvent_trails (e : Event) (s : Db) : s.Trails (applyEvent e s) := by
  cases e with
  | tick ms => exact { Db.Trails.refl s with now := Nat.le_add_right _ _ }
  | paymentSucceeds pi =>
    refine { Db.Trails.refl s with paymentIntents := Table.carries_update PaymentIntent.Trails.refl ?_ ?_ }
    · exact fun _ => ⟨rfl, fun _ => rfl⟩
    · exact fun _ => rfl

end

/-- **What is recorded stays on record.** In every interleaving of any calls and events, from
any state, each state shows what every state before it showed: no order, delivery, wallet
entry, PaymentIntent, refund or transfer is gone, the terms of each row are the same, a
delivery that has a driver keeps this driver, the marks on a row are still there, and
the status of every entry has moved along `WalletEntryStatus.later` only. -/
theorem audit_trail (cfg : Config) (s₀ : Db) (before after : List (Pool.Action (service cfg))) :
    (poolRun s₀ before).state.Trails (poolRun s₀ (before ++ after)).state := by
  have hany : (poolRun s₀ (before ++ after)).Steps fun _ _ => True := fun _ _ => trivial
  have hsound := interleaved_sound (R := fun _ => Db.Trails) (I := fun _ => True) trivial
    (fun _ s _ => .refl s) (fun _ _ _ _ hab hbc => hab.trans hbc)
    (fun e s _ => ⟨trivial, fun _ => applyEvent_trails e s⟩)
    (fun _ _ _ _ _ _ _ _ hstep => ⟨trivial, fun _ _ => hstep.trails⟩) (before ++ after) hany
  refine Pool.leads Db.Trails.refl (fun _ _ _ hab hbc => hab.trans hbc) applyEvent_trails before after ?_
  intro e he
  obtain ⟨h, -, -, call, hstep⟩ := hsound.step e he
  exact hstep.trails

end IncaCook
