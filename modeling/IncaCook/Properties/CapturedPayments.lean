import IncaCook.Steps.Serial

/-!
# Captured payments

Stripe may report a failed attempt on a PaymentIntent and a success on the same
PaymentIntent later. `handlePaymentIntentFailed` cancels a pending order at the
first failure, and `handlePaymentIntentSucceeded` then leaves a cancelled order
alone: the money is captured, the order is cancelled, and nobody refunds it.

Main results:

* `captured_payment_kept_iff`: over all sequences of events and confirmations, a
  captured payment is kept or refunded exactly when no failure was handled while
  the order was pending;
* `captured_payment_lost`: a failed attempt followed by a successful one.
-/

namespace IncaCook

open Prog Orders Webhooks

/-- A pending order that waits for the payment of its PaymentIntent. -/
def Db.awaitsPayment (s : Db) (o : OrderId) (pi : PaymentIntentId) : Bool :=
  (s.orders.find? o).any (fun row => row.status = .pending && row.stripeRefundId = none &&
    (row.stripePaymentIntentId = none || row.stripePaymentIntentId = some pi)) &&
  s.orders.rows.all (fun row => row.stripePaymentIntentId ≠ some pi || row.id = o) &&
  (s.paymentIntents.find? pi).any (fun p => p.orderId = o) &&
  s.refunds.rows.all fun r => r.orderId ≠ o

/-- An event about the PaymentIntent, or a confirmation by a buyer of the order. -/
def aboutPayment {cfg : Config} (o : OrderId) (pi : PaymentIntentId) :
    Input (service cfg) → Prop
  | .call (.paymentIntentSucceeded ev) _ => ev.id = pi
  | .call (.paymentIntentFailed ev) _ => ev.id = pi
  | .call (.confirmPaymentForBuyer _ o') _ => o' = o
  | .call _ _ => False
  | .event _ => True

/-- The call handles a success. -/
def Call.reportsSuccess : Call → Bool
  | .paymentIntentSucceeded _ => true
  | _ => false

/-- The call handles a failure or a cancellation. -/
def Call.reportsFailure : Call → Bool
  | .paymentIntentFailed _ => true
  | _ => false

/-- The statuses of a paid order. -/
def paidStatuses : List OrderStatus :=
  [.confirmed, .preparing, .ready, .pickedUp, .inDelivery, .delivered, .completed,
    .noDriverAvailable, .disputed]

/-- The payment bought something or was given back. -/
def Db.paymentKept (s : Db) (o : OrderId) : Bool :=
  (s.orders.find? o).any (fun row => row.status ∈ paidStatuses || row.stripeRefundId.isSome) ||
    s.refunds.rows.any fun r => r.orderId = o

/-- The order and its PaymentIntent while they are being paid for. -/
structure AtCheckout (s : Db) (o : OrderId) (pi : PaymentIntentId) : Prop where
  row : ∃ row, s.orders.find? o = some row ∧
    row.status ∈ [OrderStatus.pending, .confirmed, .cancelled] ∧ row.stripeRefundId = none ∧
    (row.stripePaymentIntentId = none ∨ row.stripePaymentIntentId = some pi)
  only : ∀ row ∈ s.orders.rows, row.stripePaymentIntentId = some pi → row.id = o
  intent : ∃ p, s.paymentIntents.find? pi = some p ∧ p.orderId = o
  unrefunded : ∀ r ∈ s.refunds.rows, r.orderId ≠ o

section

variable {cfg : Config} {me : Nat} {h : List (StepRecord machine)} {s s' : Db} {o : OrderId}
  {pi : PaymentIntentId} {ev : PaymentIntentEvent}

theorem AtCheckout.of_awaits (h0 : s.awaitsPayment o pi = true) :
    AtCheckout s o pi ∧ s.orderStatus o = some .pending := by
  simp only [Db.awaitsPayment, Bool.and_eq_true, Option.any_eq_true, List.all_eq_true,
    Bool.or_eq_true, decide_eq_true_eq] at h0
  obtain ⟨⟨⟨⟨row, hrow, ⟨hstatus, hrefund⟩, hpi⟩, honly⟩, p, hp, hof⟩, hunrefunded⟩ := h0
  refine ⟨⟨⟨row, hrow, by simp [hstatus], hrefund, hpi⟩, fun row hrow hpi => ?_, ⟨p, hp, hof⟩,
    hunrefunded⟩, ?_⟩
  · exact (honly row hrow).resolve_left fun hne => hne hpi
  · rw [Db.orderStatus, hrow, Option.map_some, hstatus]

/-- Rewriting the row of the order, within the checkout. -/
theorem AtCheckout.update (hI : AtCheckout s o pi) {row : Order} (hrow : s.orders.find? o = some row)
    {f : Order → Order} (hf : ∀ r : Order, (f r).id = r.id) {status : OrderStatus}
    (horders : s'.orders = s.orders.update o f hf)
    (hintents : s'.paymentIntents = s.paymentIntents) (hrefunds : s'.refunds = s.refunds)
    (hstatus : (f row).status = status)
    (hin : status ∈ [OrderStatus.pending, .confirmed, .cancelled])
    (hrefund : (f row).stripeRefundId = row.stripeRefundId)
    (hpi : (f row).stripePaymentIntentId = row.stripePaymentIntentId ∨
      (f row).stripePaymentIntentId = some pi) :
    AtCheckout s' o pi ∧ s'.orderStatus o = some status := by
  obtain ⟨row₀, hrow₀, -, hnone, hrecorded⟩ := hI.row
  obtain rfl := Option.some.inj (hrow.symm.trans hrow₀)
  have hrow' : s'.orders.find? o = some (f row) := by
    rw [horders]
    exact Table.find?_update_of_eq hrow hf
  refine ⟨⟨⟨f row, hrow', hstatus ▸ hin, hrefund.trans hnone, ?_⟩, fun r hr hpi => ?_, ?_, ?_⟩, ?_⟩
  · rcases hpi with hpi | hpi
    · rw [hpi]
      exact hrecorded
    · exact .inr hpi
  · rw [horders] at hr
    obtain ⟨r₀, hr₀, rfl⟩ := Table.mem_update.mp hr
    split
    · rename_i hkey
      exact (hf r₀).trans hkey
    · rename_i hkey
      rw [if_neg hkey] at hpi
      exact hI.only r₀ hr₀ hpi
  · rw [hintents]
    exact hI.intent
  · rw [hrefunds]
    exact hI.unrefunded
  · rw [Db.orderStatus, hrow', Option.map_some, hstatus]

/-! ## The three handlers -/

/-- The call leaves the checkout intact and the order in this status. -/
def Leaves (α : Type) (o : OrderId) (pi : PaymentIntentId) (status : OrderStatus) : Post machine α :=
  fun _ _ s => AtCheckout s o pi ∧ s.orderStatus o = some status

theorem findOrderForPaymentIntent_alone {α : Type} {Q : Post machine α} {row : Order}
    {k : Option Order → Handler α} (hmeta : ev.metadataOrderId = some o)
    (hrow : s.orders.find? o = some row)
    (hk : Sat aloneContract Q (k (some row)) (⟨.query, s, s⟩ :: h) s) :
    Sat aloneContract Q (findOrderForPaymentIntent ev >>= k) h s := by
  simp only [findOrderForPaymentIntent, hmeta]
  refine sat_bind (sat_read_bind fun s' hs => ⟨trivial, ?_⟩)
  subst hs
  rw [hrow]
  exact hk

/-- No other order has the PaymentIntent, so recording it is not refused. -/
theorem uniqueBackfill_ok_of {row : Order}
    (honly : ∀ r ∈ s.orders.rows, r.stripePaymentIntentId = some pi → r.id = row.id) :
    uniqueBackfill row pi s = .ok ((), s) := by
  unfold uniqueBackfill
  split
  · exact Stmt.pure_ok.mpr ⟨rfl, rfl⟩
  · simp only [uniquePaymentIntent, Stmt.bind_ok, Stmt.get_ok, Tx.throwIf_ok]
    refine ⟨s, s, ⟨rfl, rfl⟩, ?_, rfl⟩
    simp only [List.any_eq_true, Bool.and_eq_true, decide_eq_true_eq, not_exists, not_and]
    intro r hr hne hpi
    exact hne (honly r hr hpi)

theorem backfill_stripePaymentIntentId (read r : Order) :
    (backfill read pi r).stripePaymentIntentId = r.stripePaymentIntentId ∨
      (backfill read pi r).stripePaymentIntentId = some pi := by
  unfold backfill
  split
  · exact .inl rfl
  · exact .inr rfl

/-- The row of an order at checkout, and its status. -/
theorem AtCheckout.find (hI : AtCheckout s o pi) {status : OrderStatus}
    (hstatus : s.orderStatus o = some status) :
    ∃ row, s.orders.find? o = some row ∧ row.id = o ∧ row.status = status := by
  obtain ⟨row, hrow, -⟩ := hI.row
  refine ⟨row, hrow, Table.key_of_find? hrow, ?_⟩
  rw [Db.orderStatus, hrow] at hstatus
  exact Option.some.inj hstatus

/-- A success confirms a pending order, and leaves any other alone. -/
theorem handlePaymentIntentSucceeded_alone (hI : AtCheckout s o ev.id)
    (hmeta : ev.metadataOrderId = some o) {status : OrderStatus}
    (hstatus : s.orderStatus o = some status) :
    Sat aloneContract (Leaves Unit o ev.id (if status = .pending then .confirmed else status))
      (handlePaymentIntentSucceeded ev) h s := by
  obtain ⟨row, hrow, rfl, hof⟩ := hI.find hstatus
  refine findOrderForPaymentIntent_alone hmeta hrow (sat_ite (fun hnot => ?_) fun hpending => ?_)
  · rw [if_neg (hof ▸ hnot)]
    exact ⟨hI, hstatus⟩
  · rw [not_not] at hpending
    rw [if_pos (hof.symm.trans hpending)]
    refine sat_await_ok fun s' hs i => ?_
    subst hs
    refine ⟨⟨((), _), Stmt.bind_ok.mpr ⟨s, s, Stmt.get_ok.mpr ⟨rfl, rfl⟩, Stmt.bind_ok.mpr ⟨(), s,
      uniqueBackfill_ok_of hI.only, updateOrder_ok.mpr ⟨⟨row, hrow⟩, rfl⟩⟩⟩⟩, ?_⟩
    intro _ s₂ hrun
    simp only [Stmt.bind_ok, Stmt.get_ok] at hrun
    obtain ⟨_, _, ⟨rfl, rfl⟩, _, _, hunique, hupdate⟩ := hrun
    obtain rfl := uniqueBackfill_ok hunique
    obtain ⟨-, rfl⟩ := updateOrder_ok.mp hupdate
    refine ⟨trivial, hI.update hrow ?_ rfl rfl rfl (by simp) (by simp) (by simp)
      (backfill_stripePaymentIntentId _ _)⟩
    exact fun _ => (backfill_id row ev.id _).trans rfl

/-- The transaction of a failed payment goes through. -/
theorem paymentFailedTx_total (hI : AtCheckout s o ev.id) {row : Order}
    (hrow : s.orders.find? row.id = some row) (hof : row.id = o) (hpending : row.status = .pending) :
    ∃ x, paymentFailedTx row ev s = .ok x := by
  subst hof
  refine Stmt.bind_total s (Stmt.get_ok.mpr ⟨rfl, rfl⟩) ?_
  rw [hrow]
  simp only [hpending, ne_eq, not_true_eq_false, if_false]
  refine Stmt.bind_total () (restoreInventory_ok.mpr rfl) ?_
  refine Stmt.bind_total () (uniqueBackfill_ok_of hI.only) ?_
  exact ⟨((), _), updateOrder_ok.mpr ⟨⟨row, hrow⟩, rfl⟩⟩

/-- A failure cancels a pending order, and leaves any other alone. -/
theorem handlePaymentIntentFailed_alone (hI : AtCheckout s o ev.id)
    (hmeta : ev.metadataOrderId = some o) {status : OrderStatus}
    (hstatus : s.orderStatus o = some status) :
    Sat aloneContract (Leaves Unit o ev.id (if status = .pending then .cancelled else status))
      (handlePaymentIntentFailed ev) h s := by
  obtain ⟨row, hrow, rfl, hof⟩ := hI.find hstatus
  refine findOrderForPaymentIntent_alone hmeta hrow (sat_ite (fun hnot => ?_) fun hpending => ?_)
  · rw [if_neg (hof ▸ hnot)]
    exact ⟨hI, hstatus⟩
  · rw [not_not] at hpending
    rw [if_pos (hof.symm.trans hpending)]
    refine sat_await_ok fun s' hs i => ?_
    subst hs
    refine ⟨paymentFailedTx_total hI hrow rfl hpending, fun _ s₂ hrun => ⟨trivial, ?_⟩⟩
    rcases paymentFailedTx_ok hrun with ⟨-, hgone⟩ | ⟨fresh, reason, hfresh, -, rfl⟩
    · exact absurd hpending (hgone row hrow)
    · refine hI.update hrow ?_ rfl rfl rfl (by simp) (by simp) (by simp)
        (backfill_stripePaymentIntentId _ _)
      exact fun _ => (backfill_id row ev.id _).trans rfl

theorem isPaymentSucceeded_alone {α : Type} {Q : Post machine α} {recorded : Option PaymentIntentId}
    {k : Bool → Handler α} (hk : ∀ h paid, Sat aloneContract Q (k paid) h s) :
    Sat aloneContract Q (isPaymentSucceeded cfg recorded >>= k) h s := by
  unfold isPaymentSucceeded
  split
  · exact hk _ _
  · exact hk _ _
  · refine sat_ask_bind fun s' hs i => ⟨trivial, ?_⟩
    subst hs
    exact hk _ _

/-- The call leaves the checkout intact, and may have confirmed a pending order. -/
def MayConfirm (α : Type) (o : OrderId) (pi : PaymentIntentId) (status : OrderStatus) :
    Post machine α :=
  fun _ _ s => AtCheckout s o pi ∧
    (s.orderStatus o = some status ∨ status = .pending ∧ s.orderStatus o = some .confirmed)

/-- A confirmation confirms a pending order, or changes nothing. -/
theorem confirmPaymentForBuyer_alone {sub : String} (hI : AtCheckout s o pi) {status : OrderStatus}
    (hstatus : s.orderStatus o = some status) :
    Sat aloneContract (MayConfirm Order o pi status) (confirmPaymentForBuyer cfg sub o) h s := by
  obtain ⟨row, hrow, -, hof⟩ := hI.find hstatus
  have hsame : ∀ (h : List (StepRecord machine)) (r : Except Err Order),
      MayConfirm Order o pi status h r s := fun _ _ => ⟨hI, .inl hstatus⟩
  -- the order is read once more for the reply
  have hreply : ∀ h s', (∀ h r, MayConfirm Order o pi status h r s') →
      Sat aloneContract (MayConfirm Order o pi status) (findOrderWithRelations o) h s' := by
    intro h s' hpost
    refine sat_read_bind fun s'' hs => ⟨trivial, ?_⟩
    subst hs
    cases s'.orders.find? o with
    | none => exact hpost _ _
    | some row => exact hpost _ _
  refine sat_read_bind fun s' hs => ⟨trivial, ?_⟩
  subst hs
  refine sat_orThrow_bind (fun _ => hsame _ _) fun user _ => ?_
  refine sat_read_bind fun s' hs => ⟨trivial, ?_⟩
  subst hs
  refine sat_orThrow_bind (fun _ => hsame _ _) fun order horder => ?_
  obtain rfl := Option.some.inj (hrow.symm.trans horder)
  refine sat_throwIf_bind (fun _ => hsame _ _) fun _ => ?_
  refine sat_ite (fun hpending => ?_) fun _ => hreply _ _ hsame
  refine isPaymentSucceeded_alone fun h paid => ?_
  refine sat_throwIf_bind (fun _ => hsame _ _) fun _ => ?_
  refine sat_await_bind fun s' hs i => ?_
  subst hs
  refine ⟨fun _ _ => ⟨trivial, hsame _ _⟩, fun _ s₂ hrun => ⟨trivial, ?_⟩⟩
  simp only [Stmt.bind_ok, Stmt.get_ok] at hrun
  obtain ⟨_, _, ⟨rfl, rfl⟩, hrun⟩ := hrun
  obtain ⟨-, rfl⟩ := updateOrder_ok.mp hrun
  suffices hafter : AtCheckout _ o pi ∧ Db.orderStatus _ o = some .confirmed from
    hreply _ _ fun _ _ => ⟨hafter.1, .inr ⟨hof.symm.trans hpending, hafter.2⟩⟩
  refine hI.update hrow ?_ rfl rfl rfl rfl (by simp) rfl (.inl rfl)
  exact fun _ => rfl

/-! ## Events -/

theorem AtCheckout.event (hI : AtCheckout s o pi) (e : Event) : AtCheckout (applyEvent e s) o pi := by
  cases e with
  | tick ms => exact ⟨hI.row, hI.only, hI.intent, hI.unrefunded⟩
  | paymentSucceeds pi' =>
    refine ⟨hI.row, hI.only, ?_, hI.unrefunded⟩
    obtain ⟨p, hp, hof⟩ := hI.intent
    change ∃ p, (s.paymentIntents.update pi' _).find? pi = some p ∧ p.orderId = o
    rw [Table.find?_update, hp]
    split
    · exact ⟨_, rfl, hof⟩
    · exact ⟨p, rfl, hof⟩

theorem orderStatus_event (e : Event) : (applyEvent e s).orderStatus o = s.orderStatus o := by
  cases e with
  | tick ms => rfl
  | paymentSucceeds pi => rfl

/-! ## Runs -/

/-- A failure was handled while the order was pending. -/
def FailedWhilePending (o : OrderId) (calls : List (CallRecord (service cfg))) : Prop :=
  ∃ c ∈ calls, Call.reportsFailure c.call = true ∧ Db.orderStatus c.pre o = some .pending

/-- Where the payment stands, by the calls so far. -/
structure Paying (o : OrderId) (pi : PaymentIntentId) (s : Db)
    (calls : List (CallRecord (service cfg))) : Prop where
  checkout : AtCheckout s o pi
  cancelled : s.orderStatus o = some .cancelled ↔ FailedWhilePending o calls
  pending : s.orderStatus o = some .pending → ∀ c ∈ calls, Call.reportsSuccess c.call = false

/-- An event's metadata names the order of its PaymentIntent. -/
theorem AtCheckout.metadata (hI : AtCheckout s o ev.id) {succeeded : Bool}
    (hgenuine : genuine s ev succeeded = true) : ev.metadataOrderId = some o := by
  obtain ⟨p, hp, hof⟩ := hI.intent
  rw [genuine, hp, Option.any_some, Bool.and_eq_true, decide_eq_true_eq] at hgenuine
  rw [hgenuine.1, hof]

/-- The status at checkout. -/
theorem AtCheckout.status (hI : AtCheckout s o pi) : ∃ status, s.orderStatus o = some status ∧
    status ∈ [OrderStatus.pending, .confirmed, .cancelled] := by
  obtain ⟨row, hrow, hin, -⟩ := hI.row
  exact ⟨row.status, by rw [Db.orderStatus, hrow]; rfl, hin⟩

/-- What a call does to the status of an order at checkout. -/
inductive Moved (call : Call) : Option OrderStatus → Option OrderStatus → Prop where
  | confirmed (hcall : call.reportsFailure = false) : Moved call (some .pending) (some .confirmed)
  | cancelled (hcall : call.reportsFailure = true) : Moved call (some .pending) (some .cancelled)
  | kept {status : Option OrderStatus} (hfailure : call.reportsFailure = true → status ≠ some .pending)
      (hsuccess : call.reportsSuccess = true → status ≠ some .pending) : Moved call status status

/-- One more call. -/
theorem Paying.call {calls : List (CallRecord (service cfg))} {c : CallRecord (service cfg)}
    (hI : Paying o pi c.pre calls) (hcheckout : AtCheckout c.outcome.state o pi)
    (hmoved : Moved c.call (Db.orderStatus c.pre o) (Db.orderStatus c.outcome.state o)) :
    Paying o pi c.outcome.state (c :: calls) := by
  have hcancelled := hI.cancelled
  have hpending := hI.pending
  generalize hpre : Db.orderStatus c.pre o = before at *
  generalize hpost : Db.orderStatus c.outcome.state o = after at *
  refine ⟨hcheckout, ?_, ?_⟩
  · rw [hpost]
    constructor
    · intro hafter
      cases hmoved with
      | confirmed hcall => cases hafter
      | cancelled hcall => exact ⟨c, List.mem_cons_self .., hcall, hpre⟩
      | kept hfailure hsuccess =>
        obtain ⟨c', hmem, hc'⟩ := hcancelled.mp hafter
        exact ⟨c', List.mem_cons_of_mem _ hmem, hc'⟩
    · rintro ⟨c', hmem, hfails, hwas⟩
      rcases List.mem_cons.mp hmem with rfl | hmem
      · -- this call reports the failure
        obtain rfl := hpre.symm.trans hwas
        cases hmoved with
        | confirmed hcall =>
          rw [hfails] at hcall
          cases hcall
        | cancelled hcall => rfl
        | kept hfailure hsuccess => exact absurd rfl (hfailure hfails)
      · obtain rfl := hcancelled.mpr ⟨c', hmem, hfails, hwas⟩
        cases hmoved with
        | kept hfailure hsuccess => rfl
  · rw [hpost]
    intro hafter c' hmem
    cases hmoved with
    | confirmed hcall => cases hafter
    | cancelled hcall => cases hafter
    | kept hfailure hsuccess =>
      rcases List.mem_cons.mp hmem with rfl | hmem
      · rw [← Bool.not_eq_true]
        exact fun hsucceeds => hsuccess hsucceeds hafter
      · exact hpending hafter c' hmem

/-- Every call about the payment moves the status as it should. -/
theorem handle_alone {call : Call} {w : Nat → Answer} (hI : AtCheckout s o pi)
    (habout : aboutPayment o pi (.call call w : Input (service cfg))) (hadm : admits call s = true) :
    Sat aloneContract (fun _ _ s' => AtCheckout s' o pi ∧
      Moved call (s.orderStatus o) (s'.orderStatus o)) (handle cfg me call) [] s := by
  obtain ⟨status, hstatus, -⟩ := hI.status
  rw [hstatus]
  cases call with
  | paymentIntentSucceeded ev =>
    obtain rfl : ev.id = pi := habout
    refine sat_bind ((handlePaymentIntentSucceeded_alone hI (hI.metadata hadm) hstatus).post ?_)
    intro h r s' hleft
    -- the reply drops what the handler returns: both outcomes leave the same state
    suffices hpost : AtCheckout s' o ev.id ∧
        Moved (.paymentIntentSucceeded ev) (some status) (s'.orderStatus o) by
      cases r with
      | ok a => exact hpost
      | error e => exact hpost
    refine ⟨hleft.1, ?_⟩
    rw [hleft.2]
    by_cases hpending : status = .pending
    · rw [if_pos hpending, hpending]
      exact .confirmed rfl
    · rw [if_neg hpending]
      exact .kept (fun hcall => by cases hcall) fun _ hwas => hpending (Option.some.inj hwas)
  | paymentIntentFailed ev =>
    obtain rfl : ev.id = pi := habout
    refine sat_bind ((handlePaymentIntentFailed_alone hI (hI.metadata hadm) hstatus).post ?_)
    intro h r s' hleft
    suffices hpost : AtCheckout s' o ev.id ∧
        Moved (.paymentIntentFailed ev) (some status) (s'.orderStatus o) by
      cases r with
      | ok a => exact hpost
      | error e => exact hpost
    refine ⟨hleft.1, ?_⟩
    rw [hleft.2]
    by_cases hpending : status = .pending
    · rw [if_pos hpending, hpending]
      exact .cancelled rfl
    · rw [if_neg hpending]
      exact .kept (fun _ hwas => hpending (Option.some.inj hwas)) fun hcall => by cases hcall
  | confirmPaymentForBuyer sub o' =>
    obtain rfl : o' = o := habout
    refine sat_bind ((confirmPaymentForBuyer_alone hI hstatus).post ?_)
    intro h r s' hleft
    suffices hpost : AtCheckout s' o' pi ∧
        Moved (.confirmPaymentForBuyer sub o') (some status) (s'.orderStatus o') by
      cases r with
      | ok a => exact hpost
      | error e => exact hpost
    refine ⟨hleft.1, ?_⟩
    rcases hleft.2 with hsame | ⟨rfl, hconfirmed⟩
    · rw [hsame]
      exact .kept (fun hcall => by cases hcall) fun hcall => by cases hcall
    · rw [hconfirmed]
      exact .confirmed rfl
  | _ => cases habout

/-- An order at checkout has its payment exactly when it is confirmed. -/
theorem AtCheckout.paymentKept (hI : AtCheckout s o pi) :
    s.paymentKept o = true ↔ s.orderStatus o = some .confirmed := by
  obtain ⟨row, hrow, hin, hnone, -⟩ := hI.row
  have hunrefunded : (s.refunds.rows.any fun r => r.orderId = o) = false := by
    simp only [List.any_eq_false, decide_eq_true_eq]
    exact hI.unrefunded
  rw [Db.paymentKept, Db.orderStatus, hrow, hunrefunded, Bool.or_false, Option.any_some, hnone,
    Option.map_some]
  simp only [List.mem_cons, List.not_mem_nil, or_false] at hin
  rcases hin with hstatus | hstatus | hstatus
  · simp [hstatus, paidStatuses]
  · simp [hstatus, paidStatuses]
  · simp [hstatus, paidStatuses]

end

/-- **When a captured payment is kept.** In every sequence of failures, successes
and confirmations about the PaymentIntent of a pending order, whatever their order
and repetition, once a success was handled the order is paid or refunded if and
only if no failure was handled while it was pending. -/
theorem captured_payment_kept_iff (cfg : Config) (s₀ : Db) (o : OrderId) (pi : PaymentIntentId)
    (h0 : s₀.awaitsPayment o pi = true) (inputs : List (Input (service cfg)))
    (habout : ∀ a ∈ inputs, aboutPayment o pi a)
    (hsucceeded : ∃ c ∈ (serialRun s₀ inputs).calls, Call.reportsSuccess c.call = true) :
    Db.paymentKept (serialRun s₀ inputs).state o = true ↔
      ∀ c ∈ (serialRun s₀ inputs).calls, Call.reportsFailure c.call = true →
        Db.orderStatus c.pre o ≠ some .pending := by
  obtain ⟨hcheckout, hpending⟩ := AtCheckout.of_awaits h0
  -- along the run: cancelled exactly if a failure was handled while pending,
  -- still pending only if no success was
  have hI : Paying o pi (serialRun s₀ inputs).state (serialRun s₀ inputs).calls := by
    have hstart : Paying o pi s₀ ([] : List (CallRecord (service cfg))) := by
      refine ⟨hcheckout, ?_, by simp⟩
      simp [hpending, FailedWhilePending]
    refine serial_invariant_of (r := ⟨s₀, []⟩) (I := fun s calls => Paying o pi s calls)
      (P := fun _ _ => True)
      hstart ?_ inputs ?_ fun _ _ _ _ => trivial
    · intro e s calls hI
      have hsame : Db.orderStatus (applyEvent e s) o = s.orderStatus o := orderStatus_event e
      exact ⟨hI.checkout.event e, hsame ▸ hI.cancelled, hsame ▸ hI.pending⟩
    · intro call w s calls hmem hI hadm out _
      obtain ⟨hcheckout, hmoved⟩ :=
        ((handle_alone hI.checkout (habout _ hmem) hadm).exec (fun _ => rfl) w).2
      exact Paying.call (c := ⟨call, s, out⟩) hI hcheckout hmoved
  obtain ⟨status, hstatus, hin⟩ := hI.checkout.status
  have hnotPending : status ≠ .pending := by
    rintro rfl
    obtain ⟨c, hmem, hsucceeds⟩ := hsucceeded
    rw [hI.pending hstatus c hmem] at hsucceeds
    cases hsucceeds
  rw [hI.checkout.paymentKept]
  constructor
  · intro hconfirmed c hmem hfails hwas
    have hcancelled := hI.cancelled.mpr ⟨c, hmem, hfails, hwas⟩
    rw [hconfirmed] at hcancelled
    cases hcancelled
  · intro hnever
    have hnotCancelled : status ≠ .cancelled := by
      rintro rfl
      obtain ⟨c, hmem, hfails, hwas⟩ := hI.cancelled.mp hstatus
      exact hnever c hmem hfails hwas
    simp only [List.mem_cons, List.not_mem_nil, or_false, hnotPending, hnotCancelled, false_or]
      at hin
    rw [hstatus, hin]

/-- The buyer has ordered and not yet paid. -/
def orderPlaced : Db :=
  (serialRun smallTown [smallTownCall (.createOrder "buyer" smallTownOrder)]).state

/-- A success, and a failure that arrives after it. -/
theorem late_failure_keeps_payment :
    Db.paymentKept (serialRun (S := service smallTownConfig) orderPlaced
      [.event (.paymentSucceeds (.stripe 1)),
        smallTownCall (.paymentIntentSucceeded ⟨.stripe 1, some ⟨0, 0⟩, none⟩),
        smallTownCall (.paymentIntentFailed ⟨.stripe 1, some ⟨0, 0⟩, none⟩)]).state ⟨0, 0⟩ = true := by
  refine (captured_payment_kept_iff smallTownConfig orderPlaced ⟨0, 0⟩ (.stripe 1)
    (by decide +kernel) _ ?_ ?_).mpr ?_
  · intro a ha
    simp only [List.mem_cons, List.not_mem_nil, or_false] at ha
    rcases ha with rfl | rfl | rfl
    · trivial
    · rfl
    · rfl
  · decide +kernel
  · decide +kernel

/-- **A captured payment is lost.** A failed attempt cancels the order; the next
attempt on the same PaymentIntent succeeds. -/
theorem captured_payment_lost :
    ¬∀ (cfg : Config) (s₀ : Db) (o : OrderId) (pi : PaymentIntentId)
      (inputs : List (Input (service cfg))), s₀.awaitsPayment o pi = true →
      (∀ a ∈ inputs, aboutPayment o pi a) →
      (∃ c ∈ (serialRun s₀ inputs).calls, Call.reportsSuccess c.call = true) →
        Db.paymentKept (serialRun s₀ inputs).state o = true := by
  intro hclaim
  have hkept := hclaim smallTownConfig orderPlaced ⟨0, 0⟩ (.stripe 1)
    [smallTownCall (.paymentIntentFailed ⟨.stripe 1, some ⟨0, 0⟩, none⟩),
      .event (.paymentSucceeds (.stripe 1)),
      smallTownCall (.paymentIntentSucceeded ⟨.stripe 1, some ⟨0, 0⟩, none⟩)]
    (by decide +kernel) ?_ (by decide +kernel)
  · exact absurd hkept (by decide +kernel)
  · intro a ha
    simp only [List.mem_cons, List.not_mem_nil, or_false] at ha
    rcases ha with rfl | rfl | rfl
    · rfl
    · trivial
    · rfl

end IncaCook
