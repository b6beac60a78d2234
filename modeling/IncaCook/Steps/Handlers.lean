import IncaCook.Steps.Lifecycle

/-!
# Every handler, step by step

The driver's handlers, the disputes and the webhooks meet `stepContract`, and
with them every call does.

Main results:

* `handle_sat`: each step of each call is one of the steps of `Step`.
-/

namespace IncaCook

open Prog Orders Deliveries Wallets Webhooks

section

variable {cfg : Config} {R : Db → Db → Prop} {me : Nat} {call : Call}
  {h : List (StepRecord machine)} {s : Db}

/-! ## Deliveries -/

theorem stepContract_query (h : List (StepRecord machine)) (s : Db) :
    (stepContract cfg R me call).guar h .query s s := .noop _ s

section

variable {C : Contract machine} {α : Type} {Q : Post machine α}

theorem assertDriver_bind (hquery : ∀ h s, C.guar h .query s s) {sub : String}
    {k : Driver → Handler α}
    (herr : ∀ s' e, C.rely s s' → Q (⟨.query, s', s'⟩ :: h) (.error e) s')
    (hk : ∀ s' driver user, C.rely s s' → s'.userBySupabaseId sub = some user →
      user.id = driver.userId → Sat C Q (k driver) (⟨.query, s', s'⟩ :: h) s') :
    Sat C Q (assertDriver sub >>= k) h s := by
  refine sat_bind (sat_read_bind fun s' hR => ⟨hquery _ _, ?_⟩)
  refine sat_orThrow_bind (fun _ => herr s' _ hR) fun user huser => ?_
  refine sat_throwIf_bind (fun _ => herr s' _ hR) fun _ => ?_
  refine sat_orThrow_bind (fun _ => herr s' _ hR) fun profile hprofile => ?_
  refine hk s' _ user hR huser ?_
  rw [huser] at hprofile
  have hkey : profile.userId = user.id := Table.key_of_find? hprofile
  exact hkey.symm

theorem loadDeliveryForDriver_bind (hquery : ∀ h s, C.guar h .query s s) {d : DeliveryId}
    {driver : UserId} {k : Delivery → Handler α}
    (herr : ∀ s' e, C.rely s s' → Q (⟨.query, s', s'⟩ :: h) (.error e) s')
    (hk : ∀ s' row, C.rely s s' → s'.deliveries.find? d = some row → row.driverId = some driver →
      Sat C Q (k row) (⟨.query, s', s'⟩ :: h) s') :
    Sat C Q (loadDeliveryForDriver d driver >>= k) h s := by
  refine sat_bind (sat_bind (sat_read_bind fun s' hR => ⟨hquery _ _, ?_⟩))
  cases hd : s'.deliveries.find? d with
  | none => exact herr s' _ hR
  | some row =>
    refine sat_throwIf_bind (fun _ => herr s' _ hR) fun hdriver => ?_
    rw [not_not] at hdriver
    exact hk s' row hR hd hdriver

theorem checkOutForDelivery_bind {row : Delivery} {k : Unit → Handler α}
    (herr : ∀ e, Q h (.error e) s)
    (hk : row.deliveredConfirmedAt = none → row.status ∈ outForDelivery → Sat C Q (k ()) h s) :
    Sat C Q (checkOutForDelivery row >>= k) h s := by
  refine sat_bind (sat_throwIf_bind (fun _ => herr _) fun hdone => ?_)
  rw [not_or] at hdone
  have hnone : row.deliveredConfirmedAt = none := by simpa using hdone.1
  exact sat_throwIf (fun _ => herr _) fun hout => hk hnone (by simpa using hout)

end

theorem requireKyc_free {driver : Driver} :
    Free (stepContract cfg R me call) (requireKyc cfg driver) := by
  refine free_ite free_pure (free_ite (free_await (fun _ s => .noop _ s) ?_) free_throw)
  intro h i s _ s' hrun
  obtain ⟨-, rfl⟩ := updateDriverProfile_ok.mp hrun
  exact .aside ⟨rfl, rfl, rfl, rfl, rfl, rfl, rfl, rfl, rfl⟩

theorem claim_sat {sub : String} {d : DeliveryId} :
    Sat (stepContract cfg R me (.claim sub d)) anyPost (claim cfg sub d) h s := by
  refine assertDriver_bind stepContract_query (fun _ _ _ => trivial) fun s₀ driver user _ _ _ => ?_
  refine sat_throwIf_bind (fun _ => trivial) fun _ => ?_
  refine sat_free_bind requireKyc_free fun _ h s => ?_
  refine sat_await_bind fun s' hR i => ⟨fun _ _ => ⟨.noop _ _, trivial⟩, fun n s'' hrun => ?_⟩
  simp only [claimUpdate, Stmt.bind_ok, Stmt.get_ok, Stmt.set_ok, Stmt.pure_ok] at hrun
  obtain ⟨_, _, ⟨rfl, rfl⟩, _, _, rfl, -, rfl⟩ := hrun
  refine ⟨.claim d driver.userId rfl, ?_⟩
  exact sat_throwIf_bind (fun _ => trivial) fun _ => loadDelivery_free _ _

theorem arriveAtPickup_sat {sub : String} {d : DeliveryId} :
    Sat (stepContract cfg R me (.arriveAtPickup sub d)) anyPost (arriveAtPickup sub d) h s := by
  refine assertDriver_bind stepContract_query (fun _ _ _ => trivial) fun s₀ driver user _ _ _ => ?_
  refine loadDeliveryForDriver_bind stepContract_query (fun _ _ _ => trivial) fun s₁ row _ hrow hdriver => ?_
  refine sat_throwIf_bind (fun _ => trivial) fun hstatus => ?_
  have hassigned : row.status = .assigned := by simpa using hstatus
  refine sat_await_bind fun s₂ hR i => ⟨fun _ _ => ⟨.noop _ _, trivial⟩, fun _ s₃ hrun => ?_⟩
  obtain ⟨-, rfl⟩ := updateDelivery_ok.mp hrun
  refine ⟨.arriveAtPickup d rfl ⟨s₁, row, hR, hrow, hassigned, ?_⟩, loadDelivery_free _ _⟩
  rw [hdriver]
  rfl

theorem confirmPickup_sat {sub : String} {d : DeliveryId} {dto : ConfirmPickupDto} :
    Sat (stepContract cfg R me (.confirmPickup sub d dto)) anyPost
      (Deliveries.confirmPickup sub d dto) h s := by
  refine assertDriver_bind stepContract_query (fun _ _ _ => trivial) fun s₀ driver user _ huser hid => ?_
  refine loadDeliveryForDriver_bind stepContract_query (fun _ _ _ => trivial) fun s₁ row hR₀ hrow hdriver => ?_
  refine sat_throwIf_bind (fun _ => trivial) fun hdone => ?_
  refine sat_throwIf_bind (fun _ => trivial) fun hstatus => ?_
  refine sat_throwIf_bind (fun _ => trivial) fun htoken => ?_
  rw [not_or] at hdone
  rw [not_not] at hstatus htoken
  have hkey : row.id = d := Table.key_of_find? hrow
  have hnone : row.pickupConfirmedAt = none := by simpa using hdone.1
  refine sat_await_bind fun s₂ hR i => ⟨fun _ _ => ⟨.noop _ _, trivial⟩, fun _ s₃ hrun => ?_⟩
  simp only [confirmPickupTx, Stmt.bind_ok, Stmt.get_ok, hkey] at hrun
  obtain ⟨_, _, ⟨rfl, rfl⟩, _, _, hunique, _, _, hpick, hmove⟩ := hrun
  obtain rfl := uniqueDeliveryToken_ok hunique
  obtain ⟨-, rfl⟩ := updateDelivery_ok.mp hpick
  obtain ⟨-, rfl⟩ := updateOrder_ok.mp hmove
  exact ⟨.confirmPickup d driver.userId i.token rfl ⟨s₀, user, hR₀, huser, hid⟩ hR hrow hdriver
    hnone hstatus htoken, loadDelivery_free _ _⟩

/-- What the write of a delivery's new row leaves behind as evidence. -/
theorem MovedDelivery.of_update {d : DeliveryId} {s₀ s₁ s' : Db} {site : Site}
    {status : DeliveryStatus} {seen fresh : Delivery} {f : Delivery → Delivery}
    {hf : ∀ r, (f r).id = r.id} (hR₀ : R s₀ s₁) (hseen : s₀.deliveries.find? d = some seen)
    (hfresh : s₁.deliveries.find? d = some fresh) (hsame : (f fresh).orderId = fresh.orderId)
    (hstatus : (f fresh).status = status)
    (hR : R { s₁ with deliveries := s₁.deliveries.update d f hf } s') :
    MovedDelivery R (⟨site, s₁, { s₁ with deliveries := s₁.deliveries.update d f hf }⟩ :: h)
      status s' seen.orderId :=
  ⟨_, List.mem_cons_self .., s₀, d, seen, fresh, f fresh, _, hR₀, hseen, rfl, hfresh, rfl,
    Table.find?_update_of_eq hfresh hf, hsame, hstatus, hR⟩

theorem confirmDelivery_sat (htrans : ∀ a b c, R a b → R b c → R a c) {sub : String}
    {d : DeliveryId} {dto : ConfirmDeliveryDto} :
    Sat (stepContract cfg R me (.confirmDelivery sub d dto)) anyPost
      (confirmDelivery cfg me sub d dto) h s := by
  refine assertDriver_bind stepContract_query (fun _ _ _ => trivial) fun s₀ driver user _ huser hid => ?_
  refine loadDeliveryForDriver_bind stepContract_query (fun _ _ _ => trivial) fun s₁ row hR₀ hrow hdriver => ?_
  refine checkOutForDelivery_bind (fun _ => trivial) fun hnone hout => ?_
  refine sat_throwIf_bind (fun _ => trivial) fun htoken => ?_
  rw [not_not] at htoken
  refine sat_await_bind fun s₂ hR i => ⟨fun _ _ => ⟨.noop _ _, trivial⟩, fun _ s₃ hrun => ?_⟩
  simp only [Stmt.bind_ok, Stmt.get_ok] at hrun
  obtain ⟨_, _, ⟨rfl, rfl⟩, hrun⟩ := hrun
  obtain ⟨⟨fresh, hfresh⟩, rfl⟩ := updateDelivery_ok.mp hrun
  refine ⟨.confirmDelivery d driver.userId rfl
    ⟨s₀, s₁, user, row, hR₀, hR, huser, hid, hrow, hdriver, hnone, hout, htoken⟩, ?_⟩
  refine sat_bind_free (confirmDeliveredByDriver_sat htrans fun s' hR' => ?_) fun _ =>
    loadDelivery_free
  exact .of_update hR hrow hfresh rfl rfl hR'

theorem confirmAbsentDropoff_sat (htrans : ∀ a b c, R a b → R b c → R a c) {sub : String}
    {d : DeliveryId} {dto : ConfirmAbsentDropoffDto} :
    Sat (stepContract cfg R me (.confirmAbsentDropoff sub d dto)) anyPost
      (confirmAbsentDropoff cfg me sub d dto) h s := by
  refine assertDriver_bind stepContract_query (fun _ _ _ => trivial) fun s₀ driver user _ huser hid => ?_
  refine loadDeliveryForDriver_bind stepContract_query (fun _ _ _ => trivial) fun s₁ row hR₀ hrow hdriver => ?_
  refine checkOutForDelivery_bind (fun _ => trivial) fun hnone hout => ?_
  refine sat_orThrow_bind (fun _ => trivial) fun photo hphoto => ?_
  refine sat_orThrow_bind (fun _ => trivial) fun position hgps => ?_
  obtain ⟨lat, lng⟩ := position
  refine sat_await_bind fun s₂ hR i => ⟨fun _ _ => ⟨.noop _ _, trivial⟩, fun _ s₃ hrun => ?_⟩
  simp only [Stmt.bind_ok, Stmt.get_ok] at hrun
  obtain ⟨_, _, ⟨rfl, rfl⟩, hrun⟩ := hrun
  obtain ⟨⟨fresh, hfresh⟩, rfl⟩ := updateDelivery_ok.mp hrun
  refine ⟨.confirmAbsentDropoff d driver.userId rfl hphoto hgps
    ⟨s₀, s₁, user, row, hR₀, hR, huser, hid, hrow, hdriver, hnone, hout⟩, ?_⟩
  refine sat_bind_free (confirmDeliveredByDriver_sat htrans fun s' hR' => ?_) fun _ =>
    loadDelivery_free
  exact .of_update hR hrow hfresh rfl rfl hR'

theorem reportSellerUnavailable_sat (htrans : ∀ a b c, R a b → R b c → R a c) {sub : String}
    {d : DeliveryId} {dto : ReportSellerUnavailableDto} :
    Sat (stepContract cfg R me (.reportSellerUnavailable sub d dto)) anyPost
      (reportSellerUnavailable me sub d dto) h s := by
  refine assertDriver_bind stepContract_query (fun _ _ _ => trivial) fun s₀ driver user _ huser hid => ?_
  refine loadDeliveryForDriver_bind stepContract_query (fun _ _ _ => trivial) fun s₁ row hR₀ hrow hdriver => ?_
  refine sat_throwIf_bind (fun _ => trivial) fun _ => ?_
  refine sat_throwIf_bind (fun _ => trivial) fun hpicked => ?_
  refine sat_read_bind fun s₂ hR₁ => ⟨.noop _ _, ?_⟩
  refine sat_orThrow_bind (fun _ => trivial) fun order horder => ?_
  refine sat_throwIf_bind (fun _ => trivial) fun hresolved => ?_
  refine sat_orThrow_bind (fun _ => trivial) fun position hgps => ?_
  obtain ⟨lat, lng⟩ := position
  rw [not_or] at hpicked
  have hnone : row.pickupConfirmedAt = none := by simpa using hpicked.1
  refine sat_await_bind fun s₃ hR i => ⟨fun _ _ => ⟨.noop _ _, trivial⟩, fun _ s₄ hrun => ?_⟩
  simp only [Stmt.bind_ok, Stmt.get_ok] at hrun
  obtain ⟨_, _, ⟨rfl, rfl⟩, hrun⟩ := hrun
  obtain ⟨⟨fresh, hfresh⟩, rfl⟩ := updateDelivery_ok.mp hrun
  have hR₂ := htrans _ _ _ hR₁ hR
  refine ⟨.reportSellerUnavailable d driver.userId rfl
    ⟨s₁, s₂, row, order, hR₁, hR, hR₂, hrow, hdriver, hnone, hpicked.2, horder, hresolved⟩, ?_⟩
  refine sat_bind_free (cancelForSellerUnavailable_sat htrans fun s' hR' => ?_) fun _ =>
    loadDelivery_free
  exact .of_update hR₂ hrow hfresh rfl rfl hR'

/-! ## Disputes -/

theorem checkClaim_paperwork {buyer : UserId} {row : Order} {delivery : Option Delivery}
    {dto : CreateDisputeDto} {now : Time} :
    Free (paperworkContract R) (checkClaim buyer row delivery dto now) := by
  refine free_bind free_throwIf fun _ => free_bind free_throwIf fun _ => ?_
  exact free_bind free_throwIf fun _ => free_bind free_throwIf fun _ => free_throwIf

theorem fileDispute_paperwork {sub : String} {o : OrderId} {dto : CreateDisputeDto} :
    Free (paperworkContract R) (fileDispute me sub o dto) := by
  refine free_bind assertSellerUser_paperwork fun buyer => free_bind paperwork_query fun seen => ?_
  refine free_bind free_orThrow fun row => free_bind checkClaim_paperwork fun _ => ?_
  refine free_bind paperwork_query fun existing => free_bind free_throwIf fun _ => ?_
  refine free_bind ?_ fun decision => free_bind ?_ fun _ => free_pure
  · intro h s
    cases decideDispute dto.type seen.2.1 row.buyerTotalCents with
    | error e => trivial
    | ok decision => trivial
  · refine free_await (fun _ s => ⟨rfl, .refl s⟩) fun h _ s _ s' hrun => ⟨rfl, ?_⟩
    simp only [Stmt.bind_ok, Stmt.get_ok, createDisputeRow_ok, Stmt.pure_ok] at hrun
    obtain ⟨_, _, ⟨rfl, rfl⟩, _, _, ⟨disputes, -, rfl⟩, -, rfl⟩ := hrun
    exact ⟨rfl, rfl, rfl, rfl, rfl, rfl, rfl, rfl, rfl⟩

theorem applyDecision_free {dispute : OrderDispute} {decision : DisputeDecision}
    (hcall : call.decidesDispute = true) :
    Free (stepContract cfg R me call) (applyDecision me dispute decision) :=
  free_bind (free_runIf fun _ => refundForDispute_free hcall) fun _ =>
    free_runIf fun _ => strike_free

theorem createDispute_sat {sub : String} {o : OrderId} {dto : CreateDisputeDto} :
    Sat (stepContract cfg R me (.createDispute sub o dto)) anyPost (createDispute me sub o dto)
      h s :=
  free_bind (free_paperwork fileDispute_paperwork)
    (fun _ => free_bind (applyDecision_free rfl) fun _ => free_pure) _ _

theorem writeDecision_paperwork {id : DisputeId} {f : Time → OrderDispute → OrderDispute}
    {hf : ∀ now d, (f now d).id = d.id} :
    Free (paperworkContract R) (await (.updateDispute id) fun _ => writeDecision id f hf) := by
  refine free_await (fun _ s => ⟨rfl, .refl s⟩) fun h _ s _ s' hrun => ⟨rfl, ?_⟩
  simp only [writeDecision, Stmt.bind_ok, Stmt.get_ok, updateDispute_ok, Tx.orThrow_ok] at hrun
  obtain ⟨_, _, ⟨rfl, rfl⟩, _, _, ⟨-, rfl⟩, _, _, ⟨rfl, rfl⟩, -, rfl⟩ := hrun
  exact ⟨rfl, rfl, rfl, rfl, rfl, rfl, rfl, rfl, rfl⟩

theorem getDispute_paperwork {id : DisputeId} : Free (paperworkContract R) (getDispute id) :=
  free_bind paperwork_query fun _ => free_orThrow

theorem adminApproveRefund_sat {id : DisputeId} {notes : Option String} :
    Sat (stepContract cfg R me (.adminApproveRefund id notes)) anyPost (adminApproveRefund id notes)
      h s :=
  free_bind (free_paperwork getDispute_paperwork) (fun _ => free_bind free_query fun _ =>
    free_bind (refundForDispute_free rfl) fun _ => free_paperwork writeDecision_paperwork) _ _

/-- Rejecting, resolving, and confirming a violation or a fraud. -/
theorem adminDecision_free {call : Call} {id : DisputeId} {notes : Option String}
    (hcall : call = .adminRejectDispute id notes ∨ call = .adminResolveDispute id notes ∨
      call = .adminConfirmAllergenViolation id notes ∨
      call = .adminConfirmFraudulentChargeback id notes) :
    Free (stepContract cfg R me call) (handle cfg me call) := by
  refine free_paperwork ?_
  rcases hcall with rfl | rfl | rfl | rfl
  · exact free_bind (free_bind getDispute_paperwork fun _ => writeDecision_paperwork) fun _ => free_pure
  · exact free_bind (free_bind getDispute_paperwork fun _ => writeDecision_paperwork) fun _ => free_pure
  · exact free_bind (free_bind getDispute_paperwork fun _ =>
      free_bind strike_paperwork fun _ => writeDecision_paperwork) fun _ => free_pure
  · exact free_bind (free_bind getDispute_paperwork fun _ =>
      free_bind strike_paperwork fun _ => writeDecision_paperwork) fun _ => free_pure

/-! ## Webhooks -/

theorem findOrderForPaymentIntent_bind (htrans : ∀ a b c, R a b → R b c → R a c) {α : Type}
    {ev : PaymentIntentEvent} {k : Option Order → Handler α}
    (hnone : ∀ h s, Sat (stepContract cfg R me call) anyPost (k none) h s)
    (hk : ∀ h s' row, R s s' → s'.orders.find? row.id = some row →
      (ev.metadataOrderId = some row.id ∨ row.stripePaymentIntentId = some ev.id) →
      Sat (stepContract cfg R me call) anyPost (k (some row)) h s') :
    Sat (stepContract cfg R me call) anyPost (findOrderForPaymentIntent ev >>= k) h s := by
  -- the second lookup, by the recorded id, from a state `s₁` that follows `s`
  have hbyPi : ∀ h s₁, (∀ s', R s₁ s' → R s s') → Sat (stepContract cfg R me call)
      (fun h r s => match r with
        | .ok found => Sat (stepContract cfg R me call) anyPost (k found) h s
        | .error _ => True)
      (read .query fun db => Db.orderByPaymentIntent db ev.id) h s₁ := by
    intro h s₁ hs₁
    refine sat_read fun s' hR => ⟨.noop _ _, ?_⟩
    cases ho : s'.orderByPaymentIntent ev.id with
    | none => exact hnone _ _
    | some row =>
      obtain ⟨hrow, hpi⟩ := Db.find?_orderByPaymentIntent ho
      exact hk _ _ _ (hs₁ s' hR) hrow (.inr hpi)
  cases hmeta : ev.metadataOrderId with
  | none =>
    simp only [findOrderForPaymentIntent, hmeta]
    exact sat_bind (hbyPi _ _ fun s' hR => hR)
  | some o =>
    simp only [findOrderForPaymentIntent, hmeta]
    refine sat_bind (sat_read_bind fun s₁ hR₁ => ⟨.noop _ _, ?_⟩)
    cases ho : s₁.orders.find? o with
    | none => exact hbyPi _ _ fun s' hR => htrans _ _ _ hR₁ hR
    | some row =>
      have hid : row.id = o := Table.key_of_find? ho
      exact hk _ _ _ hR₁ (hid ▸ ho) (.inl (hid ▸ hmeta))

theorem handlePaymentIntentSucceeded_sat (htrans : ∀ a b c, R a b → R b c → R a c)
    {ev : PaymentIntentEvent} (hgenuine : genuine s ev true = true) :
    Sat (stepContract cfg R me call) anyPost (handlePaymentIntentSucceeded ev) h s := by
  refine findOrderForPaymentIntent_bind htrans (fun _ _ => trivial) fun h s₀ row hR₀ hrow hwhy => ?_
  refine sat_ite (fun _ => trivial) fun hpending => ?_
  rw [not_not] at hpending
  refine sat_await fun s₁ hR i => ⟨fun _ _ => ⟨.noop _ _, trivial⟩, fun _ s₂ hrun => ?_⟩
  simp only [Stmt.bind_ok, Stmt.get_ok] at hrun
  obtain ⟨_, _, ⟨rfl, rfl⟩, _, _, hunique, hupdate⟩ := hrun
  obtain rfl := uniqueBackfill_ok hunique
  obtain ⟨-, rfl⟩ := updateOrder_ok.mp hupdate
  exact ⟨.paymentSucceeded ev row ⟨s, s₀, hR₀, hR, hgenuine, hrow, hpending, hwhy⟩, trivial⟩

/-- A failed payment cancels an order that is still pending, and nothing else. -/
theorem paymentFailedTx_ok {row : Order} {ev : PaymentIntentEvent} {u : Unit} {s' : Db}
    (hrun : paymentFailedTx row ev s = .ok (u, s')) :
    (s' = s ∧ ∀ fresh, s.orders.find? row.id = some fresh → fresh.status ≠ .pending) ∨
      ∃ fresh reason, s.orders.find? row.id = some fresh ∧ fresh.status = .pending ∧ s' = { s with
          listings := giveBack fresh.inventoryRestored fresh.items s.listings
          orders := s.orders.update row.id
            (fun o => backfill row ev.id (Orders.Order.cancelRestored s.now reason o))
            (fun _ => (backfill_id row ev.id _).trans rfl) } := by
  unfold paymentFailedTx at hrun
  rw [Stmt.bind_ok] at hrun
  obtain ⟨_, _, hget, hrun⟩ := hrun
  obtain ⟨rfl, rfl⟩ := Stmt.get_ok.mp hget
  cases hfresh : Table.find? (Db.orders _) row.id with
  | none =>
    rw [hfresh] at hrun
    refine .inl ⟨(Stmt.pure_ok.mp hrun).2, fun fresh hfound => ?_⟩
    cases hfound
  | some fresh =>
    rw [hfresh] at hrun
    by_cases hstill : fresh.status = .pending
    · simp only [hstill, ne_eq, not_true_eq_false, if_false, Stmt.bind_ok] at hrun
      obtain ⟨_, _, hrestore, _, _, hunique, hupdate⟩ := hrun
      obtain rfl := restoreInventory_ok.mp hrestore
      obtain rfl := uniqueBackfill_ok hunique
      obtain ⟨-, rfl⟩ := updateOrder_ok.mp hupdate
      exact .inr ⟨fresh, _, rfl, hstill, rfl⟩
    · -- another event was faster
      simp only [hstill, ne_eq, not_false_eq_true, if_true] at hrun
      refine .inl ⟨(Stmt.pure_ok.mp hrun).2, fun found hfound => ?_⟩
      exact Option.some.inj hfound ▸ hstill

theorem handlePaymentIntentFailed_sat (htrans : ∀ a b c, R a b → R b c → R a c)
    {ev : PaymentIntentEvent} (hgenuine : genuine s ev false = true) :
    Sat (stepContract cfg R me call) anyPost (handlePaymentIntentFailed ev) h s := by
  refine findOrderForPaymentIntent_bind htrans (fun _ _ => trivial) fun h s₀ row hR₀ hrow hwhy => ?_
  refine sat_ite (fun _ => trivial) fun hpending => ?_
  rw [not_not] at hpending
  refine sat_await fun s₁ hR i => ⟨fun _ _ => ⟨.noop _ _, trivial⟩, fun _ s₂ hrun => ⟨?_, trivial⟩⟩
  rcases paymentFailedTx_ok hrun with ⟨rfl, -⟩ | ⟨fresh, reason, hfresh, hstill, rfl⟩
  · exact .noop _ _
  · exact .paymentFailed ev row fresh reason ⟨s, s₀, hR₀, hR, hgenuine, hrow, hpending, hwhy⟩ hfresh
      hstill

section

variable {C : Contract machine}

/-- The two lookups of a webhook's order only read. -/
theorem findOrderForPaymentIntent_free (hquery : ∀ h s, C.guar h .query s s)
    {ev : PaymentIntentEvent} : Free C (findOrderForPaymentIntent ev) := by
  unfold findOrderForPaymentIntent
  extract_lets rest
  have hrest : ∀ byMetadata, Free C (rest byMetadata) := by
    intro byMetadata
    cases byMetadata with
    | none => exact free_read hquery
    | some order => exact free_pure
  cases ev.metadataOrderId with
  | none => exact hrest none
  | some o => exact free_bind (free_read hquery) hrest

theorem findOrderForDispute_free (hquery : ∀ h s, C.guar h .query s s) {dispute : ChargeDispute} :
    Free C (findOrderForDispute dispute) := by
  unfold findOrderForDispute
  extract_lets rest
  have hrest : ∀ byPi, Free C (rest byPi) := by
    intro byPi
    cases byPi with
    | some order => exact free_pure
    | none =>
      unfold rest
      cases dispute.metadataOrderId with
      | none => exact free_pure
      | some o => exact free_read hquery
  cases dispute.paymentIntent with
  | none => exact hrest none
  | some pi => exact free_bind (free_read hquery) hrest

end

theorem handleChargeDispute_free {dispute : ChargeDispute} :
    Free (stepContract cfg R me call) (handleChargeDispute me dispute) := by
  refine free_bind (findOrderForDispute_free stepContract_query) fun found => ?_
  cases found with
  | none => exact free_pure
  | some row =>
    refine free_bind free_query fun existing => ?_
    cases existing with
    | some existing =>
      refine free_await (fun _ s => .noop _ s) fun h _ s _ s' hrun => .aside ?_
      obtain ⟨-, rfl⟩ := updateDispute_ok.mp hrun
      exact ⟨rfl, rfl, rfl, rfl, rfl, rfl, rfl, rfl, rfl⟩
    | none =>
      refine free_await (fun _ s => .noop _ s) fun h _ s _ s' hrun => .aside ?_
      simp only [Stmt.bind_ok, Stmt.get_ok, Tx.throwIf_ok, createDisputeRow_ok] at hrun
      obtain ⟨_, _, ⟨rfl, rfl⟩, _, _, ⟨-, rfl⟩, disputes, -, rfl⟩ := hrun
      exact ⟨rfl, rfl, rfl, rfl, rfl, rfl, rfl, rfl, rfl⟩

/-! ## Every call -/

/-- **Every step of every call is a step of `Step`.** A call that can arrive
meets the step contract from the state in which it arrives, whatever it may rely
on of the others, as long as they may make several moves in a row. -/
theorem handle_sat (htrans : ∀ a b c, R a b → R b c → R a c) (call : Call)
    (hadm : admits call s = true) :
    Sat (stepContract cfg R me call) anyPost (handle cfg me call) [] s := by
  cases call with
  | createOrder sub dto => exact sat_bind_free createOrder_sat fun _ => free_pure
  | confirmPaymentForBuyer sub o =>
    exact sat_bind_free (confirmPaymentForBuyer_sat htrans) fun _ => free_pure
  | paymentIntentSucceeded ev =>
    exact sat_bind_free (handlePaymentIntentSucceeded_sat htrans hadm) fun _ => free_pure
  | paymentIntentFailed ev =>
    exact sat_bind_free (handlePaymentIntentFailed_sat htrans hadm) fun _ => free_pure
  | chargeDispute dispute => exact sat_free_bind handleChargeDispute_free fun _ _ _ => trivial
  | startPreparing sub o => exact sat_free_bind startPreparing_free fun _ _ _ => trivial
  | markReady sub o => exact sat_free_bind markReady_free fun _ _ _ => trivial
  | getSellerPickupQr sub o => exact sat_free_bind getSellerPickupQr_free fun _ _ _ => trivial
  | getBuyerDeliveryQr sub o => exact sat_free_bind getBuyerDeliveryQr_free fun _ _ _ => trivial
  | handleNoDriverTimeout o => exact sat_free_bind handleNoDriverTimeout_free fun _ _ _ => trivial
  | decideNoDriver sub o decision => exact sat_free_bind decideNoDriver_free fun _ _ _ => trivial
  | autoCancelNoResponse o => exact sat_free_bind autoCancelNoResponse_free fun _ _ _ => trivial
  | sellerCannotProvide sub o dto =>
    exact sat_free_bind sellerCannotProvide_free fun _ _ _ => trivial
  | handleDriverDeliveryTimeout d =>
    exact sat_free_bind (handleDriverDeliveryTimeout_free htrans) fun _ _ _ => trivial
  | confirmOrderPickup sub o => exact sat_free_bind confirmOrderPickup_free fun _ _ _ => trivial
  | cancelAsSeller sub o reason => exact sat_free_bind cancelAsSeller_free fun _ _ _ => trivial
  | createDispute sub o dto => exact sat_bind_free createDispute_sat fun _ => free_pure
  | adminApproveRefund id notes => exact sat_bind_free adminApproveRefund_sat fun _ => free_pure
  | adminRejectDispute id notes => exact adminDecision_free (.inl rfl) _ _
  | adminResolveDispute id notes => exact adminDecision_free (.inr (.inl rfl)) _ _
  | adminConfirmAllergenViolation id notes => exact adminDecision_free (.inr (.inr (.inl rfl))) _ _
  | adminConfirmFraudulentChargeback id notes =>
    exact adminDecision_free (.inr (.inr (.inr rfl))) _ _
  | claim sub d => exact sat_bind_free claim_sat fun _ => free_pure
  | arriveAtPickup sub d => exact sat_bind_free arriveAtPickup_sat fun _ => free_pure
  | confirmPickup sub d dto => exact sat_bind_free confirmPickup_sat fun _ => free_pure
  | confirmDelivery sub d dto =>
    exact sat_bind_free (confirmDelivery_sat htrans) fun _ => free_pure
  | confirmAbsentDropoff sub d dto =>
    exact sat_bind_free (confirmAbsentDropoff_sat htrans) fun _ => free_pure
  | reportSellerUnavailable sub d dto =>
    exact sat_bind_free (reportSellerUnavailable_sat htrans) fun _ => free_pure
  | releaseDuePendingEntries =>
    exact sat_bind_free releaseDuePendingEntries_sat fun _ => free_pure
  | requestWithdrawal sub => exact sat_bind_free (requestWithdrawal_sat htrans) fun _ => free_pure

end

end IncaCook
