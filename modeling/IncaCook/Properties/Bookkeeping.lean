import IncaCook.Properties.Snapshots
import IncaCook.Steps.Quiet
import IncaCook.Steps.Routine

/-!
# Keeping the books

What the seven calls that keep books do at the statements that keep them, when calls
run one at a time: orders are inserted as they were quoted, one credit is written in a
call, a compensation only after its order was cancelled, and an order that a call hands
over is credited in that call.

Main results:

* `handle_booking`: every bookkeeping step of every call;
* `handle_credits`: what is handed over is credited.
-/

namespace IncaCook

open Prog Pricing Orders Deliveries Wallets

/-! ## The steps -/

/-- The step cancels the order, because its seller was not there or its driver
disappeared. -/
def Abandons (t : StepRecord machine) (o : OrderId) : Prop :=
  ((∃ restores, t.site = .cancelSellerUnavailable o restores) ∨ ∃ d, t.site = .driverDisappeared d o) ∧
    t.pre.orderStatus o ≠ some .cancelled ∧ t.post.orderStatus o = some .cancelled

/-- The calls that hand an order over. -/
def Call.handsOver : Call → Bool
  | .confirmOrderPickup .. | .confirmDelivery .. | .confirmAbsentDropoff .. => true
  | _ => false

/-- No credit was written so far. -/
def NoCredit (h : List (StepRecord machine)) : Prop := ∀ t ∈ h, ∀ o, t.site ≠ .creditCompleted o

/-- What a step of a call does to the books, after the steps `h`. -/
inductive Booking (cfg : Config) (me : Nat) (call : Call) (h : List (StepRecord machine)) :
    Site → Db → Db → Prop where
  | routine {site : Site} {s s' : Db} (hsite : site.bookkeeping = false) : Booking cfg me call h site s s'
  /-- a statement that failed; a credit cannot -/
  | failed {site : Site} {s : Db} (hsite : ∀ o, site ≠ .creditCompleted o) : Booking cfg me call h site s s
  | place {s s' : Db} (o : OrderId) (hquoted : ∀ order, Inserts ⟨.placeOrder o, s, s'⟩ order →
      ∃ db args, Quoted cfg args ∧ order = newOrder db args) : Booking cfg me call h (.placeOrder o) s s'
  | handOver {site : Site} {s s' : Db} (o : OrderId)
      (hsite : site = .pickedUpByBuyer o ∨ site = .deliveredByDriver o)
      (hcall : call.handsOver = true) : Booking cfg me call h site s s'
  | credit {s : Db} {o : OrderId} {row : Order} (hrow : s.orders.find? o = some row)
      (hstatus : row.status = .delivered ∨ row.status = .completed ∨ row.status = .disputed)
      (hfirst : NoCredit h) : Booking cfg me call h (.creditCompleted o) s { s with
        walletEntries := (creditRows cfg me row (deliveredDelivery s o) s.now).foldl
          insertSkippingDuplicate s.walletEntries }
  | compensate {site : Site} {s s' : Db} (o : OrderId)
      (hsite : site = .compensateDriver o ∨ site = .creditSeller o ∨ site = .driverDebt o)
      (habandoned : ∃ t ∈ h, Abandons t o) : Booking cfg me call h site s s'
  | settle {s s' : Db} (u : UserId) (w : WithdrawalId) (ids : List WalletEntryId)
      (hids : ∀ e ∈ s'.walletEntries.rows,
        (∃ e₀ ∈ s.walletEntries.rows, e₀.id = e.id) ∨ e.id = generateUlid me 12) :
      Booking cfg me call h (.settle u w ids) s s'

def bookingContract (cfg : Config) (me : Nat) (call : Call) : Contract machine where
  rely := Eq
  guar h site s s' := Booking cfg me call h site s s'

section

variable {cfg : Config} {me : Nat} {call : Call} {s s' : Db} {o : OrderId}
  {h : List (StepRecord machine)}

theorem routine_booking {α : Type} {p : Handler α} (hp : Free routineContract p) :
    Free (bookingContract cfg me call) p :=
  fun h s => (hp h s).mono (fun _ _ _ => trivial) (fun _ _ _ _ hsite => .routine hsite) fun _ _ _ hQ => hQ

/-- What no routine step undoes, still holds after a routine part. -/
theorem routine_bind {α β : Type} {I : List (StepRecord machine) → Prop} {p : Handler α}
    {k : α → Handler β} (hkeep : ∀ t h, Site.bookkeeping t.site = false → I h → I (t :: h))
    (hp : Free routineContract p) (hI : I h)
    (hk : ∀ a h s, I h → Sat (bookingContract cfg me call) anyPost (k a) h s) :
    Sat (bookingContract cfg me call) anyPost (p >>= k) h s := by
  have hkept := (hp h s).keep (I := fun h _ => I h) (fun _ _ _ _ hI => hI)
    (fun h site s₁ s₂ hI hsite => hkeep ⟨site, s₁, s₂⟩ h hsite hI) hI
  refine sat_bind (hkept.mono (fun _ _ _ => trivial) (fun _ _ _ _ hsite => .routine hsite) ?_)
  intro h r s hr
  cases r with
  | ok a => exact hk a h s hr.2
  | error e => trivial

theorem NoCredit.cons {t : StepRecord machine} (hh : NoCredit h)
    (hsite : ∀ o, t.site ≠ .creditCompleted o) : NoCredit (t :: h) :=
  List.forall_mem_cons.mpr ⟨hsite, hh⟩

theorem noCredit_routine (t : StepRecord machine) (h : List (StepRecord machine))
    (hsite : Site.bookkeeping t.site = false) (hh : NoCredit h) : NoCredit (t :: h) := by
  refine hh.cons fun o hcredit => ?_
  rw [hcredit] at hsite
  cases hsite

theorem mem_routine {P : StepRecord machine → Prop} (t : StepRecord machine)
    (h : List (StepRecord machine)) (_ : Site.bookkeeping t.site = false) (hh : ∃ t ∈ h, P t) :
    ∃ t' ∈ t :: h, P t' := by
  obtain ⟨t', ht', hP⟩ := hh
  exact ⟨t', List.mem_cons_of_mem _ ht', hP⟩

/-! ## Handing over -/

theorem creditForCompletedOrder_booking (hh : NoCredit h) :
    Sat (bookingContract cfg me call) anyPost (creditForCompletedOrder cfg me o) h s := by
  refine sat_read_bind fun s₀ _ => ⟨.routine rfl, ?_⟩
  cases hrow : s₀.orders.find? o with
  | none => trivial
  | some row =>
    refine sat_ite (fun hstatus => sat_ite (fun _ => trivial) fun _ => ?_) fun _ => trivial
    refine sat_await fun s₁ hsame i => ⟨fun e hrun => ?_, fun u s₂ hrun => ?_⟩
    · cases hrun
    · obtain rfl : s₀ = s₁ := hsame
      rw [createEntries_ok.mp hrun]
      exact ⟨.credit hrow hstatus (noCredit_routine _ _ rfl hh), trivial⟩

theorem confirmOrderPickup_booking (hcall : call.handsOver = true) {sub : String} :
    Sat (bookingContract cfg me call) anyPost (Orders.confirmPickup cfg me sub o) [] s := by
  have hstart : NoCredit [] := fun _ ht => absurd ht List.not_mem_nil
  refine routine_bind noCredit_routine (assertSellerUser_of routine_noop) hstart fun user h s hh => ?_
  refine routine_bind noCredit_routine routine_query hh fun found h s hh => ?_
  refine sat_orThrow_bind (fun _ => trivial) fun row _ => sat_throwIf_bind (fun _ => trivial) fun _ => ?_
  refine sat_throwIf_bind (fun _ => trivial) fun _ => sat_throwIf_bind (fun _ => trivial) fun _ => ?_
  refine sat_await_bind fun s₁ _ i => ⟨fun _ _ => ⟨.failed fun _ => nofun, trivial⟩, fun _ s₂ _ => ?_⟩
  refine ⟨.handOver o (.inl rfl) hcall, sat_bind_free ?_ fun _ => ?_⟩
  · exact creditForCompletedOrder_booking (hh.cons fun _ => nofun)
  · exact routine_booking (findOrderWithRelations_of routine_noop)

theorem confirmDeliveredByDriver_booking (hcall : call.handsOver = true) (hh : NoCredit h) :
    Sat (bookingContract cfg me call) anyPost (confirmDeliveredByDriver cfg me o) h s := by
  refine routine_bind noCredit_routine routine_query hh fun found h s hh => ?_
  refine sat_orThrow_bind (fun _ => trivial) fun row _ => sat_throwIf_bind (fun _ => trivial) fun _ => ?_
  have hrest : ∀ h s, NoCredit h → Sat (bookingContract cfg me call) anyPost (do
      releaseFundsForCompletedOrder cfg me o
      findOrderWithRelations o) h s := fun h s hh =>
    sat_bind_free (creditForCompletedOrder_booking hh) fun _ =>
      routine_booking (findOrderWithRelations_of routine_noop)
  refine sat_runIf_bind (fun _ => sat_await_bind fun s₁ _ i => ⟨fun _ _ => ?_, fun _ s₂ _ => ?_⟩)
    fun _ => hrest _ _ hh
  · exact ⟨.failed fun _ => nofun, trivial⟩
  · exact ⟨.handOver o (.inr rfl) hcall, hrest _ _ (hh.cons fun _ => nofun)⟩

theorem confirmDelivery_booking (hcall : call.handsOver = true) {sub : String} {d : DeliveryId}
    {dto : ConfirmDeliveryDto} :
    Sat (bookingContract cfg me call) anyPost (confirmDelivery cfg me sub d dto) [] s := by
  have hstart : NoCredit [] := fun _ ht => absurd ht List.not_mem_nil
  refine routine_bind noCredit_routine (assertDriver_of routine_noop) hstart fun driver h s hh => ?_
  refine routine_bind noCredit_routine (loadDeliveryForDriver_of routine_noop) hh fun delivery h s hh => ?_
  refine routine_bind noCredit_routine (free_bind free_throwIf fun _ => free_throwIf) hh
    fun _ h s hh => sat_throwIf_bind (fun _ => trivial) fun _ => ?_
  refine routine_bind noCredit_routine (routine_await rfl) hh fun _ h s hh => ?_
  exact sat_bind_free (confirmDeliveredByDriver_booking hcall hh) fun _ =>
    routine_booking (loadDelivery_of routine_noop)

theorem confirmAbsentDropoff_booking (hcall : call.handsOver = true) {sub : String} {d : DeliveryId}
    {dto : ConfirmAbsentDropoffDto} :
    Sat (bookingContract cfg me call) anyPost (confirmAbsentDropoff cfg me sub d dto) [] s := by
  have hstart : NoCredit [] := fun _ ht => absurd ht List.not_mem_nil
  refine routine_bind noCredit_routine (assertDriver_of routine_noop) hstart fun driver h s hh => ?_
  refine routine_bind noCredit_routine (loadDeliveryForDriver_of routine_noop) hh fun delivery h s hh => ?_
  refine routine_bind noCredit_routine (free_bind free_throwIf fun _ => free_throwIf) hh
    fun _ h s hh => sat_orThrow_bind (fun _ => trivial) fun photo _ => ?_
  refine sat_orThrow_bind (fun _ => trivial) fun position _ => ?_
  refine routine_bind noCredit_routine (routine_await rfl) hh fun _ h s hh => ?_
  exact sat_bind_free (confirmDeliveredByDriver_booking hcall hh) fun _ =>
    routine_booking (loadDelivery_of routine_noop)

/-! ## Compensating -/

/-- The order was abandoned by an earlier step. -/
def Abandoned (o : OrderId) (h : List (StepRecord machine)) : Prop := ∃ t ∈ h, Abandons t o

/-- An entry that makes up for an abandoned order. -/
theorem compensation_booking {site : Site} {row : Db → List WalletEntry}
    (hsite : site = .compensateDriver o ∨ site = .creditSeller o ∨ site = .driverDebt o)
    (hh : Abandoned o h) : Sat (bookingContract cfg me call) (fun h _ _ => Abandoned o h)
      (await site fun _ => do
        let db ← get
        createEntries (row db)) h s := by
  have hcompensates : ∀ s', Booking cfg me call h site s s' := fun s' => .compensate o hsite hh
  obtain ⟨t, ht, habandons⟩ := hh
  refine sat_await fun s₁ hsame i => ?_
  obtain rfl : s = s₁ := hsame
  exact ⟨fun _ _ => ⟨hcompensates _, t, List.mem_cons_of_mem _ ht, habandons⟩,
    fun _ _ _ => ⟨hcompensates _, t, List.mem_cons_of_mem _ ht, habandons⟩⟩

theorem cancelSellerUnavailableTx_ok {row : Order} {u : Unit}
    (hrun : cancelSellerUnavailableTx row s = .ok (u, s')) :
    s'.orderStatus row.id = some .cancelled := by
  simp only [cancelSellerUnavailableTx, Stmt.bind_ok, Stmt.get_ok, restoreInventory_ok] at hrun
  obtain ⟨_, _, ⟨rfl, rfl⟩, _, _, rfl, hrun⟩ := hrun
  exact orderStatus_of_update hrun fun _ => rfl

theorem cancelForSellerUnavailable_booking {driver : UserId} :
    Free (bookingContract cfg me call) (cancelForSellerUnavailable me o driver) := by
  refine fun h s => sat_read_bind fun s₀ _ => ⟨.routine rfl, ?_⟩
  refine sat_orThrow_bind (fun _ => trivial) fun row hrow => sat_throwIf_bind (fun _ => trivial) ?_
  intro hopen
  have hid : row.id = o := Table.key_of_find? hrow
  refine sat_await_bind fun s₁ hsame i => ⟨fun _ _ => ⟨.routine rfl, trivial⟩, fun _ s₂ hrun => ?_⟩
  obtain rfl : s₀ = s₁ := hsame
  have hbefore : s₀.orderStatus o ≠ some .cancelled := by
    intro hcancelled
    rw [Db.orderStatus, hrow, Option.map_some] at hcancelled
    rw [Option.some.inj hcancelled] at hopen
    exact hopen (by decide)
  have hafter : s₂.orderStatus o = some .cancelled := hid ▸ cancelSellerUnavailableTx_ok hrun
  refine ⟨.routine rfl, ?_⟩
  refine routine_bind (mem_routine (P := fun t => Abandons t o)) refundOrderIfNeeded_routine
    ⟨_, List.mem_cons_self .., .inl ⟨_, rfl⟩, hbefore, hafter⟩ fun _ h s hh => ?_
  refine sat_bind_free ?_ fun _ => routine_booking strike_routine
  exact sat_ite (fun _ => trivial) fun _ => (compensation_booking (.inl rfl) hh).any

theorem resolveDriverDisappeared_booking {row : Order} {d : DeliveryId} {driver : Option UserId}
    (hrow : s.orders.find? row.id = some row) (hstatus : row.status = .inDelivery) :
    Sat (bookingContract cfg me call) anyPost (resolveDriverDisappeared me row d driver) h s := by
  refine sat_await_bind fun s₁ hsame i => ⟨fun _ _ => ⟨.routine rfl, trivial⟩, fun _ s₂ hrun => ?_⟩
  obtain rfl : s = s₁ := hsame
  have hbefore : s.orderStatus row.id ≠ some .cancelled := by
    rw [Db.orderStatus, hrow, Option.map_some, hstatus]
    decide
  -- this call itself moves the order from in delivery to cancelled: it abandons it
  have hafter : s₂.orderStatus row.id = some .cancelled := by
    simp only [driverDisappearedTx, Stmt.bind_ok, Stmt.get_ok] at hrun
    obtain ⟨_, _, ⟨rfl, rfl⟩, _, s₃, -, hrun⟩ := hrun
    exact orderStatus_of_update hrun fun _ => rfl
  refine ⟨.routine rfl, ?_⟩
  have hkeep := mem_routine (P := fun t => Abandons t row.id)
  refine routine_bind hkeep (routine_await rfl)
    ⟨_, List.mem_cons_self .., .inr ⟨_, rfl⟩, hbefore, hafter⟩ fun _ h s hh => ?_
  refine routine_bind hkeep refundOrderIfNeeded_routine hh fun _ h s hh => ?_
  have hseller : Sat (bookingContract cfg me call) (fun h _ _ => Abandoned row.id h)
      (creditSellerEarning me row.id row.sellerId row.sellerEarningsCents) h s :=
    sat_ite (fun _ => hh) fun _ => compensation_booking (.inr (.inl rfl)) hh
  refine sat_bind (hseller.post fun h r s hh => ?_)
  cases r with
  | error e => trivial
  | ok _ =>
    cases driver with
    | none => trivial
    | some driver =>
      refine sat_bind_free ?_ fun _ => routine_booking (free_tryCatch (free_bind addStrike_routine
        fun _ => routine_await rfl) fun _ => free_pure)
      refine sat_tryCatch (Sat.post (Q := anyPost) ?_ fun h r s _ => ?_)
      · exact sat_ite (fun _ => trivial) fun _ => (compensation_booking (.inr (.inr rfl)) hh).any
      · cases r with
        | ok _ => trivial
        | error _ => trivial

theorem handleDriverDeliveryTimeout_booking {d : DeliveryId} :
    Free (bookingContract cfg me call) (handleDriverDeliveryTimeout me d) := by
  refine fun h s => sat_read_bind fun s₀ _ => ⟨.routine rfl, ?_⟩
  cases s₀.deliveries.find? d with
  | none => trivial
  | some delivery =>
    refine sat_ite (fun _ => trivial) fun _ => sat_ite (fun _ => trivial) fun _ => ?_
    refine sat_ite (fun _ => trivial) fun _ => sat_read_bind fun s₁ _ => ⟨.routine rfl, ?_⟩
    cases hrow : s₁.orders.find? delivery.orderId with
    | none => trivial
    | some row =>
      refine sat_ite (fun _ => trivial) fun hstatus => ?_
      have hid : row.id = delivery.orderId := Table.key_of_find? hrow
      exact resolveDriverDisappeared_booking (hid ▸ hrow) (not_not.mp hstatus)

theorem reportSellerUnavailable_booking {sub : String} {d : DeliveryId}
    {dto : ReportSellerUnavailableDto} :
    Free (bookingContract cfg me call) (reportSellerUnavailable me sub d dto) := by
  refine free_bind (routine_booking (assertDriver_of routine_noop)) fun driver => ?_
  refine free_bind (routine_booking (loadDeliveryForDriver_of routine_noop)) fun delivery => ?_
  refine free_bind free_throwIf fun _ => free_bind free_throwIf fun _ => ?_
  refine free_bind (routine_booking routine_query) fun found => free_bind free_orThrow fun row => ?_
  refine free_bind free_throwIf fun _ => free_bind free_orThrow fun position => ?_
  refine free_bind (routine_booking (routine_await rfl)) fun _ => ?_
  exact free_bind cancelForSellerUnavailable_booking fun _ => routine_booking (loadDelivery_of routine_noop)

/-! ## Placing and paying out -/

theorem createOrder_booking {sub : String} {dto : CreateOrderDto} :
    Sat (bookingContract cfg me call) anyPost (createOrder cfg me sub dto) [] s := by
  have hprepare : Free (sitesContract fun site => Site.bookkeeping site = false ∨ ∃ o, site = Site.placeOrder o)
      (prepareOrder cfg me sub dto) := by
    intro h s
    refine (prepareOrder_free (R := fun _ _ => True) h s).mono (fun _ _ hR => hR) ?_ fun _ _ _ hQ => hQ
    intro _ site _ _ hg
    cases site with
    | query => exact .inl rfl
    | stripeQuery => exact .inl rfl
    | createCustomer _ => exact .inl rfl
    | saveCustomer _ => exact .inl rfl
    | createAddress _ => exact .inl rfl
    | _ => cases hg.1
  -- a checkout books one order, and all else it does, or fails to do, is of the
  -- ordinary kind
  have hsites : Free (sitesContract fun site => Site.bookkeeping site = false ∨ ∃ o, site = Site.placeOrder o)
      (createOrder cfg me sub dto) := by
    rw [createOrder_eq]
    refine free_bind hprepare fun p => free_bind (free_await_site (.inr ⟨_, rfl⟩)) fun order => ?_
    refine free_bind (free_tryCatch (free_await_site (.inl rfl)) fun _ => free_ite free_pure free_throw)
      fun payment => ?_
    exact free_bind (free_tryCatch (free_await_site (.inl rfl)) fun _ => free_pure) fun _ =>
      free_bind free_throwIf fun _ => free_pure
  refine (createOrder_charges.and (hsites [] s)).mono (fun _ _ _ => ⟨trivial, trivial⟩) ?_
    fun _ _ _ _ => trivial
  rintro h site s₁ s₂ ⟨⟨hinserts, -⟩, hroutine | ⟨o, rfl⟩⟩
  · exact .routine hroutine
  · exact .place o hinserts

theorem requestWithdrawal_booking {sub : String} :
    Free (bookingContract cfg me call) (requestWithdrawal me sub) := by
  refine free_bind (routine_booking routine_query) fun _ => free_bind free_orThrow fun user => ?_
  refine free_bind (routine_booking (free_read fun _ _ => rfl)) fun available => ?_
  refine free_bind free_throwIf fun _ => free_bind free_throwIf fun _ => ?_
  refine free_bind (routine_booking (free_ite routine_query routine_query)) fun payout => ?_
  refine free_bind free_throwIf fun _ => free_bind free_orThrow fun account => ?_
  refine free_bind (routine_booking (routine_await rfl)) fun _ => free_bind ?_ fun _ => free_pure
  refine free_await (fun _ _ => .failed fun _ => nofun) fun _ i s _ s' hrun => .settle _ _ _ ?_
  simp only [settle, Stmt.bind_ok, Tx.throwIf_ok, updateWalletEntries_ok, Stmt.get_ok, Tx.orThrow_ok,
    Stmt.set_ok] at hrun
  obtain ⟨_, _, ⟨-, rfl⟩, _, _, rfl, _, _, ⟨rfl, rfl⟩, _, _, ⟨hnew, rfl⟩, rfl⟩ := hrun
  intro e he
  rcases (Table.mem_insert hnew).mp he with rfl | he
  · exact .inr rfl
  · simp only [Table.mem_updateMany] at he
    obtain ⟨e₀, he₀, rfl⟩ := he
    refine .inl ⟨e₀, he₀, ?_⟩
    split
    · rfl
    · rfl

/-- **What the steps of a call do to the books.** -/
theorem handle_booking (call : Call) :
    Sat (bookingContract cfg me call) anyPost (handle cfg me call) [] s := by
  by_cases hcall : call.bookkeeping = false
  · exact routine_booking (handle_routine hcall) [] s
  cases call with
  | createOrder sub dto => exact sat_bind_free createOrder_booking fun _ => free_pure
  | confirmOrderPickup sub o => exact sat_bind_free (confirmOrderPickup_booking rfl) fun _ => free_pure
  | confirmDelivery sub d dto => exact sat_bind_free (confirmDelivery_booking rfl) fun _ => free_pure
  | confirmAbsentDropoff sub d dto =>
    exact sat_bind_free (confirmAbsentDropoff_booking rfl) fun _ => free_pure
  | reportSellerUnavailable sub d dto =>
    exact free_bind reportSellerUnavailable_booking (fun _ => free_pure) [] s
  | handleDriverDeliveryTimeout d =>
    exact free_bind handleDriverDeliveryTimeout_booking (fun _ => free_pure) [] s
  | requestWithdrawal sub => exact free_bind requestWithdrawal_booking (fun _ => free_pure) [] s
  | _ => exact absurd rfl hcall

/-! ## What is handed over is credited -/

/-- What the call hands over it credits. -/
def CreditsHandovers (α : Type) (s₀ : Db) : Post machine α := fun h _ s =>
  ∀ o, s.orderStatus o = some .delivered →
    s₀.orderStatus o = some .delivered ∨ ∃ t ∈ h, t.site = .creditCompleted o

theorem CreditsHandovers.of_orders {α : Type} {r : Except Err α} (horders : s'.orders = s.orders) :
    CreditsHandovers α s h r s' := by
  intro o hdelivered
  rw [Db.orderStatus, horders] at hdelivered
  exact .inl hdelivered

/-- The credit of a delivered order whose commission is positive is written. -/
theorem creditForCompletedOrder_credits {row : Order} (hrow : s.orders.find? o = some row)
    (hstatus : row.status = .delivered) (hpaid : 0 < row.commissionCents) :
    Sat aloneContract (fun h _ s' => s'.orders = s.orders ∧ ∃ t ∈ h, t.site = .creditCompleted o)
      (creditForCompletedOrder cfg me o) h s := by
  refine sat_read_bind fun s₀ hsame => ⟨trivial, ?_⟩
  obtain rfl : s = s₀ := hsame
  simp only [hrow]
  have hrows : (creditRows cfg me row (deliveredDelivery s o) s.now).isEmpty = false := by
    simp [creditRows, hpaid]
  rw [if_pos (.inl hstatus), hrows]
  refine sat_await fun s₁ hsame i => ⟨fun e hrun => ?_, fun u s₂ hrun => ⟨trivial, ?_⟩⟩
  · cases hrun
  · obtain rfl : s = s₁ := hsame
    rw [createEntries_ok.mp hrun]
    exact ⟨rfl, _, List.mem_cons_self .., rfl⟩

/-- The end of a handover: the credit, and a last look at the order. -/
theorem releaseFunds_credits {s₀ : Db} {row : Order} (hrow : s.orders.find? o = some row)
    (hstatus : row.status = .delivered) (hpaid : 0 < row.commissionCents)
    (hothers : ∀ o', o' ≠ o → s.orderStatus o' = s₀.orderStatus o') :
    Sat aloneContract (CreditsHandovers Order s₀) (do
      releaseFundsForCompletedOrder cfg me o
      findOrderWithRelations o) h s := by
  refine sat_bind ((creditForCompletedOrder_credits hrow hstatus hpaid).post fun h r s₁ hr => ?_)
  obtain ⟨horders, t, ht, hsite⟩ := hr
  have hdone : ∀ h' : List (StepRecord machine), t ∈ h' → ∀ r, CreditsHandovers Order s₀ h' r s₁ := by
    intro h' ht' _ o' hdelivered
    by_cases ho : o' = o
    · exact .inr ⟨t, ht', ho ▸ hsite⟩
    · rw [Db.orderStatus, horders, ← Db.orderStatus, hothers o' ho] at hdelivered
      exact .inl hdelivered
  cases r with
  | error e => exact hdone h ht _
  | ok _ =>
    refine sat_read_bind fun s₂ hsame => ⟨trivial, ?_⟩
    obtain rfl : s₁ = s₂ := hsame
    cases s₁.orders.find? o with
    | none => exact hdone _ (List.mem_cons_of_mem _ ht) _
    | some row => exact hdone _ (List.mem_cons_of_mem _ ht) _

/-- After the update that marks an order delivered. -/
theorem markDelivered_credits {s₀ : Db} {u : Unit}
    (hpaid : ∀ o row, s₀.orders.find? o = some row → 0 < row.commissionCents)
    (horders : s.orders = s₀.orders)
    (hrun : updateOrder o (fun r => { r with status := .delivered }) (fun _ => rfl) s = .ok (u, s')) :
    Sat aloneContract (CreditsHandovers Order s₀) (do
      releaseFundsForCompletedOrder cfg me o
      findOrderWithRelations o) h s' := by
  obtain ⟨⟨row, hrow⟩, rfl⟩ := updateOrder_ok.mp hrun
  refine releaseFunds_credits (Table.find?_update_of_eq hrow) rfl (hpaid o row (horders ▸ hrow)) ?_
  intro o' ho
  rw [Db.orderStatus, Table.find?_update_of_ne _ _ _ ho, horders, ← Db.orderStatus]

theorem confirmOrderPickup_credits {sub : String}
    (hpaid : ∀ o row, s.orders.find? o = some row → 0 < row.commissionCents) :
    Sat aloneContract (CreditsHandovers Order s) (Orders.confirmPickup cfg me sub o) h s := by
  have hkept : ∀ h r, CreditsHandovers Order s h r s := fun _ _ => .of_orders rfl
  unfold Orders.confirmPickup assertSellerUser
  simp only [bind_assoc]
  refine sat_read_bind fun s₁ hsame => ⟨trivial, sat_orThrow_bind (fun _ => ?_) fun user _ => ?_⟩
  · obtain rfl : s = s₁ := hsame
    exact hkept _ _
  obtain rfl : s = s₁ := hsame
  refine sat_pure_bind (sat_read_bind fun s₁ hsame => ⟨trivial, ?_⟩)
  obtain rfl : s = s₁ := hsame
  refine sat_orThrow_bind (fun _ => hkept _ _) fun row _ => sat_throwIf_bind (fun _ => hkept _ _) ?_
  intro _
  refine sat_throwIf_bind (fun _ => hkept _ _) fun _ => sat_throwIf_bind (fun _ => hkept _ _) fun _ => ?_
  refine sat_await_bind fun s₁ hsame i => ⟨fun _ _ => ⟨trivial, ?_⟩, fun _ s₂ hrun => ⟨trivial, ?_⟩⟩
  · obtain rfl : s = s₁ := hsame
    exact hkept _ _
  · obtain rfl : s = s₁ := hsame
    exact markDelivered_credits hpaid rfl hrun

theorem confirmDeliveredByDriver_credits {s₀ : Db}
    (hpaid : ∀ o row, s₀.orders.find? o = some row → 0 < row.commissionCents)
    (horders : s.orders = s₀.orders) :
    Sat aloneContract (CreditsHandovers Order s₀) (confirmDeliveredByDriver cfg me o) h s := by
  have hkept : ∀ h r, CreditsHandovers Order s₀ h r s := fun _ _ => .of_orders horders
  refine sat_read_bind fun s₁ hsame => ⟨trivial, ?_⟩
  obtain rfl : s = s₁ := hsame
  refine sat_orThrow_bind (fun _ => hkept _ _) fun row hrow => sat_throwIf_bind (fun _ => hkept _ _) ?_
  intro _
  refine sat_runIf_bind (fun _ => ?_) fun hdelivered => ?_
  · refine sat_await_bind fun s₁ hsame i => ⟨fun _ _ => ⟨trivial, ?_⟩, fun _ s₂ hrun => ⟨trivial, ?_⟩⟩
    · obtain rfl : s = s₁ := hsame
      exact hkept _ _
    · obtain rfl : s = s₁ := hsame
      exact markDelivered_credits hpaid horders hrun
  · refine releaseFunds_credits hrow (not_not.mp hdelivered) (hpaid o row (horders ▸ hrow)) fun o' _ => ?_
    rw [Db.orderStatus, horders, ← Db.orderStatus]

/-- The driver's confirmation of the order, and a last look at the delivery. -/
theorem confirmedByDriver_credits {s₀ : Db} {d : DeliveryId}
    (hpaid : ∀ o row, s₀.orders.find? o = some row → 0 < row.commissionCents)
    (horders : s.orders = s₀.orders) :
    Sat aloneContract (CreditsHandovers Delivery s₀) (do
      let _ ← confirmDeliveredByDriver cfg me o
      loadDelivery d) h s := by
  refine sat_bind ((confirmDeliveredByDriver_credits hpaid horders).post fun h r s₁ hr => ?_)
  cases r with
  | error e => exact hr
  | ok _ =>
    refine sat_read_bind fun s₂ hsame => ⟨trivial, ?_⟩
    obtain rfl : s₁ = s₂ := hsame
    have hlook : ∀ r, CreditsHandovers Delivery s₀ (⟨.query, s₁, s₁⟩ :: h) r s₁ := by
      intro _ o hdelivered
      refine (hr o hdelivered).imp_right ?_
      rintro ⟨t, ht, hsite⟩
      exact ⟨t, List.mem_cons_of_mem _ ht, hsite⟩
    cases s₁.deliveries.find? d with
    | none => exact hlook _
    | some delivery => exact hlook _

/-- The checks before a driver's confirmation, of which only the outcome matters. -/
theorem driver_bind {s₀ : Db} {sub : String} {d : DeliveryId}
    {k : Driver → Delivery → Handler Delivery} (horders : s.orders = s₀.orders)
    (hk : ∀ driver delivery h, Sat aloneContract (CreditsHandovers Delivery s₀) (k driver delivery) h s) :
    Sat aloneContract (CreditsHandovers Delivery s₀) (do
      let driver ← assertDriver sub
      let delivery ← loadDeliveryForDriver d driver.userId
      checkOutForDelivery delivery
      k driver delivery) h s := by
  have hkept : ∀ h r, CreditsHandovers Delivery s₀ h r s := fun _ _ => .of_orders horders
  unfold assertDriver loadDeliveryForDriver loadDelivery checkOutForDelivery
  simp only [bind_assoc]
  refine sat_read_bind fun s₁ hsame => ⟨trivial, ?_⟩
  obtain rfl : s = s₁ := hsame
  refine sat_orThrow_bind (fun _ => hkept _ _) fun user _ => sat_throwIf_bind (fun _ => hkept _ _) ?_
  refine fun _ => sat_orThrow_bind (fun _ => hkept _ _) fun profile _ => sat_pure_bind ?_
  refine sat_read_bind fun s₁ hsame => ⟨trivial, ?_⟩
  obtain rfl : s = s₁ := hsame
  refine sat_orThrow_bind (fun _ => hkept _ _) fun delivery _ => sat_throwIf_bind (fun _ => hkept _ _) ?_
  refine fun _ => sat_pure_bind (sat_throwIf_bind (fun _ => hkept _ _) fun _ => ?_)
  exact sat_throwIf_bind (fun _ => hkept _ _) fun _ => hk _ _ _

/-- The write of a delivery and what follows it. -/
theorem deliver_credits {site : Site} {d : DeliveryId} {stmt : Answer → Tx Unit}
    (hpaid : ∀ o row, s.orders.find? o = some row → 0 < row.commissionCents)
    (hstmt : ∀ i u s', stmt i s = .ok (u, s') → s'.orders = s.orders) :
    Sat aloneContract (CreditsHandovers Delivery s) (do
      await site stmt
      let _ ← confirmDeliveredByDriver cfg me o
      loadDelivery d) h s := by
  refine sat_await_bind fun s₁ hsame i => ⟨fun _ _ => ⟨trivial, ?_⟩, fun u s₂ hrun => ⟨trivial, ?_⟩⟩
  · obtain rfl : s = s₁ := hsame
    exact .of_orders rfl
  · obtain rfl : s = s₁ := hsame
    exact confirmedByDriver_credits hpaid (hstmt i u s₂ hrun)

/-- **What a call hands over it credits.** -/
theorem handle_credits {call : Call} (hcall : call.handsOver = true)
    (hpaid : ∀ o row, s.orders.find? o = some row → 0 < row.commissionCents) :
    Sat aloneContract (CreditsHandovers Reply s) (handle cfg me call) [] s := by
  have hreply : ∀ {α : Type} {p : Handler α} {f : α → Reply},
      Sat aloneContract (CreditsHandovers α s) p [] s →
      Sat aloneContract (CreditsHandovers Reply s) (p >>= fun a => pure (f a)) [] s := by
    intro α p f hp
    refine sat_bind (hp.post fun h r s' hr => ?_)
    cases r with
    | error e => exact hr
    | ok a => exact hr
  have hkept : ∀ h r, CreditsHandovers Delivery s h r s := fun _ _ => .of_orders rfl
  cases call with
  | confirmOrderPickup sub o => exact hreply (confirmOrderPickup_credits hpaid)
  | confirmDelivery sub d dto =>
    refine hreply (driver_bind rfl fun driver delivery h => ?_)
    refine sat_throwIf_bind (fun _ => hkept _ _) fun _ => deliver_credits hpaid fun i _ s' hrun => ?_
    simp only [Stmt.bind_ok, Stmt.get_ok, updateDelivery_ok] at hrun
    obtain ⟨_, _, ⟨rfl, rfl⟩, -, rfl⟩ := hrun
    rfl
  | confirmAbsentDropoff sub d dto =>
    refine hreply (driver_bind rfl fun driver delivery h => ?_)
    refine sat_orThrow_bind (fun _ => hkept _ _) fun photo _ => ?_
    refine sat_orThrow_bind (fun _ => hkept _ _) fun position _ => ?_
    refine deliver_credits hpaid fun i _ s' hrun => ?_
    simp only [Stmt.bind_ok, Stmt.get_ok, updateDelivery_ok] at hrun
    obtain ⟨_, _, ⟨rfl, rfl⟩, -, rfl⟩ := hrun
    rfl
  | _ => cases hcall

end

end IncaCook
