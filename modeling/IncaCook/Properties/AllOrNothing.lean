import IncaCook.Model.System
import IncaCook.Steps.Lifecycle

/-!
# A failed checkout

`createOrder` takes the stock and inserts the order in one transaction, and asks
Stripe for the PaymentIntent after it has committed. A checkout that fails before
or inside the transaction leaves nothing behind; one that fails after it leaves a
PENDING order and the stock it took.

Main results:

* `prepareOrder_exec`, `chargeOrder_exec`: the parts before and after the
  transaction, run alone;
* `all_or_nothing_iff`: a checkout is all or nothing exactly when Stripe, if it is
  asked, creates the PaymentIntent.
-/

namespace IncaCook

open Prog Pricing Orders

/-- Stripe numbers its objects: no PaymentIntent has the next number or a later one. -/
def StripeFresh (db : Db) : Prop :=
  ∀ pi ∈ db.paymentIntents.rows, ∀ n, pi.id = .stripe n → n < db.stripeNext

/-- A call that ends in an error has changed neither the stock nor the orders. -/
def AllOrNothing (s : Db) (out : Outcome machine CreateOrderResult) : Prop :=
  ∀ e, out.result = .error e → out.state.listings = s.listings ∧ out.state.orders = s.orders

/-- Whenever the call asks Stripe for the PaymentIntent of `o`, Stripe answers with
one that has a client secret. -/
def PaymentStarts (o : OrderId) (w : Nat → Answer) (out : Outcome machine CreateOrderResult) : Prop :=
  ∀ n r, out.steps[n]? = some r → r.site = .createPaymentIntent o →
    (w n).ok = true ∧ (w n).token ≠ ""

variable {cfg : Config} {me : Nat} {sub : String} {dto : CreateOrderDto} {s : Db} {w : Nat → Answer}
  {o : OrderId}

/-! ## Before the transaction -/

theorem Prepares.trans {s' s'' : Db} (h₁ : Prepares s s') (h₂ : Prepares s' s'') : Prepares s s'' := by
  obtain ⟨a₁, d₁, n₁⟩ := h₁
  obtain ⟨a₂, d₂, n₂⟩ := h₂
  exact ⟨⟨a₂.now.trans a₁.now, a₂.orders.trans a₁.orders, a₂.deliveries.trans a₁.deliveries,
    a₂.walletEntries.trans a₁.walletEntries, a₂.listings.trans a₁.listings,
    a₂.paymentIntents.trans a₁.paymentIntents, a₂.refunds.trans a₁.refunds,
    a₂.transfers.trans a₁.transfers, a₂.supabaseIds.trans a₁.supabaseIds⟩,
    d₂.trans d₁, n₁.trans n₂⟩

/-- The preparation keeps the stock, the orders and the PaymentIntents, and creates
no PaymentIntent. -/
theorem prepareOrder_exec :
    let out := (prepareOrder cfg me sub dto).exec w s
    Prepares s out.state ∧ ∀ r ∈ out.steps, r.site.preparation = true := by
  have hfree : Free (prepareContract Eq) (prepareOrder cfg me sub dto) := prepareOrder_free
  obtain ⟨hguar, -⟩ := (hfree [] s).exec (fun _ => rfl) w
  -- the invariant: what the steps so far made, and which steps they were
  let I : List (StepRecord machine) → Db → Prop := fun h s' =>
    Prepares s s' ∧ ∀ r ∈ h, r.site.preparation = true
  have hstep : ∀ h site a b, I h a → True → (prepareContract Eq).guar h site a b →
      I (⟨site, a, b⟩ :: h) b :=
    fun h site a b hI _ hg => ⟨hI.1.trans hg.2, List.forall_mem_cons.mpr ⟨hg.1, hI.2⟩⟩
  have hend := hguar.invariant hstep (exec_leads (prepareOrder cfg me sub dto) w s) (fun _ _ => trivial)
    ⟨.refl s, List.forall_mem_nil _⟩
  refine ⟨hend.1, fun r hr => hend.2 r ?_⟩
  simpa using hr

theorem StripeFresh.prepares {s' : Db} (hfresh : StripeFresh s) (h : Prepares s s') :
    StripeFresh s' := by
  intro pi hpi n hn
  rw [h.aside.paymentIntents] at hpi
  have hlt : n < s.stripeNext := hfresh pi hpi n hn
  have hle : s.stripeNext ≤ s'.stripeNext := h.stripeNext
  omega

/-! ## The transaction -/

/-- The transaction commits both the stock and the order, or neither. -/
theorem commitOrder_exec (p : PreparedOrder) :
    let o := generateUlid me 0
    let out := (commitOrder cfg me dto p).exec w s
    (∃ e, out = ⟨.error e, s, [⟨.placeOrder o, s, s⟩]⟩) ∨
      ∃ order listings orders, s.orders.find? o = none ∧ (∃ row, orders.find? o = some row) ∧
        out = ⟨.ok order, { s with listings, orders },
          [⟨.placeOrder o, s, { s with listings, orders }⟩]⟩ := by
  unfold commitOrder
  cases hplace : placeOrder cfg (p.args me dto (w 0).token) s with
  | error e =>
    left
    exact ⟨e, exec_await_error hplace⟩
  | ok x =>
    right
    obtain ⟨order, s'⟩ := x
    have hexec : (commitOrder cfg me dto p).exec w s = ⟨.ok order, s',
        [⟨.placeOrder (generateUlid me 0), s, s'⟩]⟩ := exec_await_ok hplace
    obtain ⟨listings, orders, -, hnew, -, rfl⟩ := placeOrder_ok hplace
    have hplaced : orders.find? (generateUlid me 0) = some _ :=
      (Table.find?_insert hnew _).trans (if_pos rfl)
    exact ⟨order, listings, orders, (Table.insert?_eq_some.mp hnew).1, ⟨_, hplaced⟩, hexec⟩

/-! ## After the transaction -/

/-- What charging a committed order comes to. -/
structure Charged (o : OrderId) (w : Nat → Answer) (s : Db)
    (out : Outcome machine CreateOrderResult) : Prop where
  fails : (∃ e, out.result = .error e) ↔ ¬((w 0).ok = true ∧ (w 0).token ≠ "")
  steps : ∃ r rest, out.steps = r :: rest ∧ r.site = .createPaymentIntent o ∧
    ∀ r' ∈ rest, r'.site = .savePaymentIntent o
  orders : ∀ o' row, s.orders.find? o' = some row → ∃ row', out.state.orders.find? o' = some row'

/-- Stripe's answer alone decides whether a PaymentIntent is created. -/
theorem createPaymentIntent_run (hfresh : StripeFresh s) (amount : Cents) (customer : CustomerId)
    (answer : Answer) :
    if answer.ok then ∃ paymentIntents, createPaymentIntent o amount customer answer s =
      .ok ((.stripe s.stripeNext, answer.token),
        { s with paymentIntents, stripeNext := s.stripeNext + 1 })
    else createPaymentIntent o amount customer answer s = .error (.internal answer.message) := by
  by_cases hok : answer.ok = true
  · rw [if_pos hok]
    have hnone : s.paymentIntents.find? (.stripe s.stripeNext) = none := by
      rw [Table.find?_eq_none]
      intro pi hpi hid
      exact absurd (hfresh pi hpi _ hid) (Nat.lt_irrefl _)
    obtain ⟨paymentIntents, hnew⟩ :=
      Table.exists_insert (r := (⟨.stripe s.stripeNext, amount, customer, o, false⟩ : PaymentIntent))
        hnone
    refine ⟨paymentIntents, ?_⟩
    simp only [createPaymentIntent, Stmt.bind_ok, Tx.throwIf_ok, Stmt.get_ok, Tx.orThrow_ok,
      Stmt.set_ok, Stmt.pure_ok]
    exact ⟨(), s, ⟨not_not.mpr hok, rfl⟩, s, s, ⟨rfl, rfl⟩, paymentIntents, s, ⟨hnew, rfl⟩, (), _,
      rfl, rfl, rfl⟩
  · rw [if_neg hok]
    unfold createPaymentIntent Tx.throwIf
    rw [if_pos hok]
    rfl

/-- Recording the PaymentIntent removes no order, whether it fails or not. -/
theorem savePaymentIntent_exec (pi : PaymentIntentId) :
    let out := (tryCatch (await (.savePaymentIntent o) (savePaymentIntent o pi)) fun _ => pure ()
      : Handler Unit).exec w s
    out.result = .ok () ∧ (∀ r ∈ out.steps, r.site = .savePaymentIntent o) ∧
      ∀ o' row, s.orders.find? o' = some row → ∃ row', out.state.orders.find? o' = some row' := by
  -- the handler logs a failed update and goes on
  cases hrun : savePaymentIntent o pi (w 0) s with
  | error e =>
    have hexec : (await (.savePaymentIntent o) (savePaymentIntent o pi) : Handler Unit).exec w s = _ :=
      exec_await_error hrun
    rw [exec_tryCatch_of_error hexec]
    refine ⟨rfl, fun r hr => ?_, fun o' row hrow => ⟨row, hrow⟩⟩
    obtain rfl := List.mem_singleton.mp hr
    rfl
  | ok x =>
    obtain ⟨⟨⟩, s'⟩ := x
    have hexec : (await (.savePaymentIntent o) (savePaymentIntent o pi) : Handler Unit).exec w s = _ :=
      exec_await_ok hrun
    rw [exec_tryCatch_of_ok hexec]
    simp only [savePaymentIntent, Stmt.bind_ok, Tx.throwIf_ok, updateOrder_ok] at hrun
    obtain ⟨_, _, ⟨-, rfl⟩, _, _, hunique, -, rfl⟩ := hrun
    obtain rfl := uniquePaymentIntent_ok hunique
    refine ⟨rfl, fun r hr => ?_, fun o' row hrow => ?_⟩
    · obtain rfl := List.mem_singleton.mp hr
      rfl
    · dsimp only
      rw [Table.find?_update, hrow]
      by_cases ho : o' = o
      · rw [if_pos ho]
        exact ⟨_, rfl⟩
      · rw [if_neg ho]
        exact ⟨_, rfl⟩

theorem chargeOrder_exec (hprod : cfg.development = false) (hfresh : StripeFresh s) (p : PreparedOrder)
    (order : Order) : Charged o w s ((chargeOrder cfg o p order).exec w s) := by
  have hpay := createPaymentIntent_run (o := o) hfresh p.totals.buyerTotalCents p.customer (w 0)
  unfold chargeOrder
  by_cases hok : (w 0).ok = true
  · rw [if_pos hok] at hpay
    obtain ⟨paymentIntents, hrun⟩ := hpay
    have hexec : (await (.createPaymentIntent o) (createPaymentIntent o p.totals.buyerTotalCents
        p.customer) : Handler _).exec w s = _ := exec_await_ok hrun
    rw [exec_bind_of_ok (exec_tryCatch_of_ok hexec)]
    -- what is left: recording the PaymentIntent, then the check of its secret
    generalize hs' : ({ s with paymentIntents, stripeNext := s.stripeNext + 1 } : Db) = s'
    have horders : s'.orders = s.orders := by rw [← hs']
    obtain ⟨hresult, hsites, hkeeps⟩ := savePaymentIntent_exec (o := o) (s := s')
      (w := fun n => w (n + 1)) (.stripe s.stripeNext)
    obtain ⟨r, s'', steps, hsave⟩ : ∃ r s'' steps, (tryCatch (await (.savePaymentIntent o)
        (savePaymentIntent o (.stripe s.stripeNext))) fun _ => pure () : Handler Unit).exec
          (fun n => w (n + 1)) s' = ⟨r, s'', steps⟩ := ⟨_, _, _, rfl⟩
    rw [hsave] at hresult hsites hkeeps
    obtain rfl : r = .ok () := hresult
    dsimp only [List.length_singleton]
    rw [exec_bind_of_ok hsave]
    rw [horders] at hkeeps
    have hrest : ∀ r' ∈ steps ++ [], r'.site = Site.savePaymentIntent o := by
      rw [List.append_nil]
      exact hsites
    by_cases htoken : (w 0).token = ""
    · rw [throwIf, if_pos htoken]
      exact ⟨⟨fun _ h => h.2 htoken, fun _ => ⟨_, rfl⟩⟩,
        ⟨_, _, rfl, rfl, hrest⟩, hkeeps⟩
    · rw [throwIf, if_neg htoken]
      exact ⟨⟨fun h => (nomatch h), fun h => absurd ⟨hok, htoken⟩ h⟩,
        ⟨_, _, rfl, rfl, hrest⟩, hkeeps⟩
  · rw [if_neg hok] at hpay
    have hexec : (await (.createPaymentIntent o) (createPaymentIntent o p.totals.buyerTotalCents
        p.customer) : Handler _).exec w s = _ := exec_await_error hpay
    have hcaught := exec_tryCatch_of_error (f := fun _ => if cfg.development then
        pure (PaymentIntentId.dev o, "pi_dev_secret_devbypass")
      else throw (.serviceUnavailable "Payment provider unavailable")) hexec
    rw [hprod, if_neg (by decide)] at hcaught
    rw [hprod, if_neg (by decide), exec_bind_of_error hcaught]
    exact ⟨⟨fun _ h => hok h.1, fun _ => ⟨_, rfl⟩⟩, ⟨_, _, rfl, rfl, by simp [exec, throw]⟩,
      fun o' row hrow => ⟨row, hrow⟩⟩

/-! ## The result -/

/-- A site of the preparation, or the transaction's, is not the payment's. -/
theorem paymentStarts_of_sites {out : Outcome machine CreateOrderResult}
    (hsites : ∀ r ∈ out.steps, r.site ≠ .createPaymentIntent o) : PaymentStarts o w out := by
  intro n r hr hsite
  exact absurd hsite (hsites r (List.mem_of_getElem? hr))

theorem preparation_ne {site : Site} (h : site.preparation = true) :
    site ≠ .createPaymentIntent o := by
  rintro rfl
  exact Bool.noConfusion h

/-- The payment is asked for after `before`, and nowhere else. -/
theorem paymentStarts_iff {out rest : Outcome machine CreateOrderResult}
    {before : List (StepRecord machine)} {w' : Nat → Answer} (hsteps : out.steps = before ++ rest.steps)
    (hbefore : ∀ r ∈ before, r.site ≠ .createPaymentIntent o)
    (hrest : Charged o w' s rest) :
    PaymentStarts o w out ↔ (w before.length).ok = true ∧ (w before.length).token ≠ "" := by
  obtain ⟨r, saved, hrun, hsite, hsaved⟩ := hrest.steps
  rw [hrun] at hsteps
  constructor
  · intro hstarts
    refine hstarts before.length r ?_ hsite
    rw [hsteps, List.getElem?_append_right (Nat.le_refl _), Nat.sub_self]
    rfl
  · intro hanswer n r' hr' hsite'
    rw [hsteps] at hr'
    -- the only step at this site is the first one after `before`
    rcases Nat.lt_trichotomy n before.length with hn | rfl | hn
    · rw [List.getElem?_append_left hn] at hr'
      exact absurd hsite' (hbefore r' (List.mem_of_getElem? hr'))
    · exact hanswer
    · rw [List.getElem?_append_right (Nat.le_of_lt hn)] at hr'
      obtain ⟨k, hk⟩ : ∃ k, n - before.length = k + 1 := ⟨n - before.length - 1, by omega⟩
      rw [hk, List.getElem?_cons_succ] at hr'
      rw [hsaved r' (List.mem_of_getElem? hr')] at hsite'
      cases hsite'

/-- Once the order is committed, a failing call is not all or nothing. -/
theorem committed_iff {out rest : Outcome machine CreateOrderResult}
    {before : List (StepRecord machine)} {w' : Nat → Answer} {s' : Db} {row : Order}
    (hrun : out = ⟨rest.result, rest.state, before ++ rest.steps⟩)
    (hbefore : ∀ r ∈ before, r.site ≠ .createPaymentIntent o)
    (hrest : Charged o w' s' rest) (hw : w' 0 = w before.length)
    (habsent : s.orders.find? o = none) (hrow : s'.orders.find? o = some row) :
    AllOrNothing s out ↔ PaymentStarts o w out := by
  rw [hrun]
  have hfails := hrest.fails
  rw [hw] at hfails
  rw [paymentStarts_iff rfl hbefore hrest, ← not_iff_not, ← hfails]
  constructor
  · intro hchanged
    by_contra hok
    exact hchanged fun e he => absurd ⟨e, he⟩ hok
  · rintro ⟨e, he⟩ hkeeps
    obtain ⟨row', hrow'⟩ := hrest.orders o row hrow
    rw [(hkeeps e he).2, habsent] at hrow'
    cases hrow'

/-- **A checkout is all or nothing exactly when its payment starts.** In production,
for every state, cart and sequence of answers: a call of `createOrder` that throws
leaves every listing and every order as it was, if and only if Stripe, whenever the
call asks it for the order's PaymentIntent, creates one with a client secret. -/
theorem all_or_nothing_iff (hprod : cfg.development = false) (hfresh : StripeFresh s) :
    let out := (createOrder cfg me sub dto).exec w s
    AllOrNothing s out ↔ PaymentStarts (generateUlid me 0) w out := by
  obtain ⟨hprepares, hsites⟩ := @prepareOrder_exec cfg me sub dto s w
  have hbefore : ∀ r ∈ ((prepareOrder cfg me sub dto).exec w s).steps,
      r.site ≠ .createPaymentIntent (generateUlid me 0) :=
    fun r hr => preparation_ne (hsites r hr)
  rw [createOrder_eq]
  obtain ⟨result, s₁, before, hprepare⟩ : ∃ result s₁ before,
      (prepareOrder cfg me sub dto).exec w s = ⟨result, s₁, before⟩ := ⟨_, _, _, rfl⟩
  rw [hprepare] at hprepares hbefore
  have hkept : s₁.listings = s.listings ∧ s₁.orders = s.orders :=
    ⟨hprepares.aside.listings, hprepares.aside.orders⟩
  cases result with
  | error e =>
    -- the preparation refused: nothing was placed
    rw [exec_bind_of_error hprepare]
    exact iff_of_true (fun _ _ => hkept) (paymentStarts_of_sites hbefore)
  | ok p =>
    rcases @commitOrder_exec cfg me dto s₁ (fun n => w (n + before.length)) p with
      ⟨e, hcommit⟩ | ⟨order, listings, orders, habsent, ⟨row, hrow⟩, hcommit⟩
    · -- the transaction was rolled back
      rw [exec_bind_of_ok hprepare, exec_bind_of_error hcommit]
      refine iff_of_true (fun _ _ => hkept) (paymentStarts_of_sites fun r hr => ?_)
      rcases List.mem_append.mp hr with hr | hr
      · exact hbefore r hr
      · rw [List.mem_singleton.mp hr]
        exact nofun
    · -- the transaction has committed: what follows decides
      have hfresh₂ : StripeFresh { s₁ with listings, orders } :=
        (hfresh.prepares hprepares : StripeFresh s₁)
      let first := before ++ [(⟨.placeOrder (generateUlid me 0), s₁, { s₁ with listings, orders }⟩ :
        StepRecord machine)]
      have hfirst : ∀ r ∈ first, r.site ≠ .createPaymentIntent (generateUlid me 0) := by
        intro r hr
        rcases List.mem_append.mp hr with hr | hr
        · exact hbefore r hr
        · rw [List.mem_singleton.mp hr]
          exact nofun
      have hw : w (0 + 1 + before.length) = w first.length := by
        rw [List.length_append, List.length_singleton, Nat.zero_add, Nat.add_comm]
      let rest := (chargeOrder cfg (generateUlid me 0) p order).exec
        (fun n => w (n + 1 + before.length)) { s₁ with listings, orders }
      have hcharged : Charged (generateUlid me 0) _ _ rest := chargeOrder_exec hprod hfresh₂ p order
      have hrun : (prepareOrder cfg me sub dto >>= fun p => commitOrder cfg me dto p >>= fun order =>
          chargeOrder cfg (generateUlid me 0) p order).exec w s =
            ⟨rest.result, rest.state, first ++ rest.steps⟩ := by
        rw [exec_bind_of_ok hprepare, exec_bind_of_ok hcommit]
        exact congrArg (Outcome.mk rest.result rest.state) (List.append_assoc ..).symm
      refine committed_iff hrun hfirst hcharged hw ?_ hrow
      rw [← hkept.2]
      exact habsent

/-- Every call goes through but the one of step `failing`. -/
def stripeFails (failing n : Nat) : Answer := ⟨n ≠ failing, "token", "api_error"⟩

/-- A checkout of the small marketplace asks for its PaymentIntent in its eighth step. -/
theorem stripe_failure_all_or_nothing_iff :
    let out := (createOrder smallTownConfig 0 "buyer" smallTownOrder).exec (stripeFails 7) smallTown
    AllOrNothing smallTown out ↔ PaymentStarts (generateUlid 0 0) (stripeFails 7) out :=
  all_or_nothing_iff rfl fun _ hpi => nomatch hpi

/-- The checkout throws, with a portion gone and a pending order left. -/
theorem stripe_failure_strands_order :
    let out := (createOrder smallTownConfig 0 "buyer" smallTownOrder).exec (stripeFails 7) smallTown
    out.result = .error (.serviceUnavailable "Payment provider unavailable") ∧
      out.state.orders.rows.map (fun o => (o.id, o.status)) = [(⟨0, 0⟩, .pending)] ∧
      out.state.listings.rows.map Listing.portionsLeft = [some 4] ∧ ¬AllOrNothing smallTown out := by
  have hresult : ((createOrder smallTownConfig 0 "buyer" smallTownOrder).exec (stripeFails 7)
      smallTown).result = .error (.serviceUnavailable "Payment provider unavailable") := rfl
  refine ⟨hresult, by decide +kernel, by decide +kernel, fun hall => ?_⟩
  have horders : ((createOrder smallTownConfig 0 "buyer" smallTownOrder).exec (stripeFails 7)
      smallTown).state.orders.rows.length = smallTown.orders.rows.length := by
    rw [(hall _ hresult).2]
  exact absurd horders (by decide +kernel)

end IncaCook
