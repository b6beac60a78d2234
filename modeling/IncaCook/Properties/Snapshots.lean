import IncaCook.Library.Runs
import IncaCook.Model.System
import IncaCook.Steps.Lifecycle

/-!
# Snapshots and charges

`createOrder` reads prices once, when it validates the cart. The totals, the line
snapshots and the amount of the PaymentIntent are three later computations over that
one cart, so edits of the listings in between do not pull them apart.

Main results:

* `newOrder_snapshots`: the line snapshots of a quoted cart add up to its subtotal;
* `createOrder_charges`: what one checkout inserts and charges, whatever happens
  between its steps;
* `snapshots_reproduce_charge`: the same of every checkout in every interleaving.
-/

namespace IncaCook

open Prog Pricing Orders

/-! ## What the snapshots come to -/

/-- The snapshot of a line: the dish and its add-ons, times the quantity. -/
def OrderItem.snapshotCents (item : OrderItem) : Cents :=
  (item.unitPriceCentsSnapshot +
    (item.addOns.map OrderItemAddOn.priceDeltaCentsSnapshot).sum) * item.quantity

def Order.snapshotCents (order : Order) : Cents := (order.items.map OrderItem.snapshotCents).sum

/-- The totals of the arguments are those of their cart. -/
def Quoted (cfg : Config) (args : InsertOrderArgs) : Prop :=
  computeTotals cfg args.dto.items args.cart args.dto.fulfillmentChoice = .ok args.totals

/-- The sum over what is found, against the sum that counts the rest as nothing. -/
theorem sum_filterMap_snapshots {addOns : List ListingAddOn} (ids : List AddOnId) :
    ((ids.filterMap fun id => (addOns.find? fun a => a.id = id).map fun a =>
        (⟨a.label, a.priceDeltaCents⟩ : OrderItemAddOn)).map
          OrderItemAddOn.priceDeltaCentsSnapshot).sum =
      (ids.map fun id =>
        ((addOns.find? fun a => a.id = id).map ListingAddOn.priceDeltaCents).getD 0).sum := by
  induction ids with
  | nil => rfl
  | cons id ids ih =>
    cases hfound : addOns.find? fun a => a.id = id with
    | none =>
      rw [List.filterMap_cons_none (by rw [hfound, Option.map_none]), List.map_cons, List.sum_cons, ih,
        hfound]
      exact (Int.zero_add _).symm
    | some a =>
      rw [List.filterMap_cons_some (by rw [hfound, Option.map_some]), List.map_cons, List.sum_cons, ih,
        List.map_cons, List.sum_cons, hfound]
      rfl

/-- The two loops over the cart agree: its subtotal is what its snapshots come to. -/
theorem newOrder_snapshots {cfg : Config} {db : Db} {args : InsertOrderArgs} (hquoted : Quoted cfg args) :
    (newOrder db args).snapshotCents = (newOrder db args).subtotalCents := by
  unfold Quoted computeTotals at hquoted
  obtain ⟨totals, htotals, hsubtotal⟩ := priceOrder_ok cfg _ args.cart.isPremium
    (args.dto.fulfillmentChoice = .delivery)
  obtain rfl : totals = args.totals := Except.ok.inj (htotals.symm.trans hquoted)
  show ((args.dto.items.map (itemSnapshot db args.cart)).map OrderItem.snapshotCents).sum =
    args.totals.subtotalCents
  rw [hsubtotal, List.map_map]
  congr 1
  apply List.map_congr_left
  intro item _
  show (_ + _) * _ = (_ + _) * _
  rw [itemSnapshot, sum_filterMap_snapshots]

/-! ## What a checkout inserts and charges -/

/-- The order is new in the step. -/
def Inserts (t : StepRecord machine) (order : Order) : Prop :=
  t.pre.orders.find? order.id = none ∧ t.post.orders.find? order.id = some order

/-- The PaymentIntent is new in the step. -/
def Charges (t : StepRecord machine) (pi : PaymentIntent) : Prop :=
  t.pre.paymentIntents.find? pi.id = none ∧ t.post.paymentIntents.find? pi.id = some pi

/-- The PaymentIntent is for the one order that was inserted before, at its total. -/
def Billed (earlier : List (StepRecord machine)) (pi : PaymentIntent) : Prop :=
  (∃ t ∈ earlier, ∃ order, Inserts t order) ∧ ∀ t ∈ earlier, ∀ order, Inserts t order →
    pi.orderId = order.id ∧ pi.amount = order.buyerTotalCents

/-- A checkout inserts quoted orders and charges their totals; the others do as they like. -/
def checkoutContract (cfg : Config) : Contract machine where
  rely _ _ := True
  guar h site s s' :=
    (∀ order, Inserts ⟨site, s, s'⟩ order → ∃ db args, Quoted cfg args ∧ order = newOrder db args) ∧
    ∀ pi, Charges ⟨site, s, s'⟩ pi → Billed h pi

variable {cfg : Config} {me : Nat} {sub : String} {dto : CreateOrderDto} {s s' : Db} {site : Site}
  {h : List (StepRecord machine)}

/-- A step that adds no row inserts and charges nothing. -/
theorem checkout_keeps (horders : ∀ k, s.orders.find? k = none → s'.orders.find? k = none)
    (hpayments : s'.paymentIntents = s.paymentIntents) : (checkoutContract cfg).guar h site s s' := by
  refine ⟨fun order hnew => ?_, fun pi hnew => ?_⟩
  · have hnone := horders order.id hnew.1
    cases hnone.symm.trans hnew.2
  · have hsome := hnew.2
    rw [hpayments] at hsome
    cases hnew.1.symm.trans hsome

/-- The totals that come out of the preparation are those of its cart. -/
theorem prepareOrder_quoted : Sat endContract (fun _ r _ => ∀ p, r = .ok p →
    ∀ orderNumber, Quoted cfg (p.args me dto orderNumber)) (prepareOrder cfg me sub dto) h s := by
  have hskip : ∀ {α : Type} {p : Handler α} {k : α → Handler PreparedOrder} {h s},
      (∀ a h s, Sat endContract (fun _ r _ => ∀ p, r = .ok p →
        ∀ orderNumber, Quoted cfg (p.args me dto orderNumber)) (k a) h s) →
      Sat endContract (fun _ r _ => ∀ p, r = .ok p →
        ∀ orderNumber, Quoted cfg (p.args me dto orderNumber)) (p >>= k) h s :=
    fun hk => sat_end_bind (fun _ _ _ _ => nofun) hk
  unfold prepareOrder
  refine hskip fun _ _ _ => hskip fun buyer _ _ => hskip fun _ _ _ => hskip fun _ _ _ => ?_
  refine hskip fun _ _ _ => hskip fun _ _ _ => hskip fun cart _ _ => hskip fun _ _ _ => ?_
  refine hskip fun _ _ _ => hskip fun _ _ _ => hskip fun _ _ _ => hskip fun dropoff _ _ => ?_
  cases htotals : computeTotals cfg dto.items cart dto.fulfillmentChoice with
  | error e => exact fun _ => nofun
  | ok totals =>
    refine sat_pure_bind (hskip fun customer _ _ => sat_pure fun p hp _ => ?_)
    rw [← Except.ok.inj hp]
    exact htotals

/-- Nothing was inserted so far. -/
def Unplaced (h : List (StepRecord machine)) (_ : Db) : Prop := ∀ t ∈ h, ∀ order, ¬Inserts t order

/-- The preparation inserts nothing. -/
theorem prepareOrder_checkout : Sat (checkoutContract cfg)
    (fun h r s => Unplaced h s ∧
      ∀ p, r = .ok p → ∀ orderNumber, Quoted cfg (p.args me dto orderNumber))
    (prepareOrder cfg me sub dto) [] s := by
  have hfree : Free (prepareContract fun _ _ => True) (prepareOrder cfg me sub dto) := prepareOrder_free
  have hquoted : Sat endContract (fun _ r _ => ∀ p, r = .ok p →
      ∀ orderNumber, Quoted cfg (p.args me dto orderNumber)) (prepareOrder cfg me sub dto) [] s :=
    prepareOrder_quoted
  have hkeep := (hfree [] s).keep (I := Unplaced) (fun _ _ _ _ hI => hI) (fun h site s₁ s₂ hI hg => ?_)
    (fun _ ht => absurd ht List.not_mem_nil)
  · refine (hkeep.and hquoted).mono (fun _ _ _ => ⟨trivial, trivial⟩)
      (fun h site s₁ s₂ hg => ?_) fun h r s hQ => ⟨hQ.1.2, hQ.2⟩
    have haside := hg.1.2.aside
    exact checkout_keeps (fun k hk => haside.orders ▸ hk) haside.paymentIntents
  · intro t ht order hnew
    rcases List.mem_cons.mp ht with rfl | ht
    · have hsome := hnew.2
      rw [hg.2.aside.orders] at hsome
      cases hnew.1.symm.trans hsome
    · exact hI t ht order hnew

theorem checkout_noop : (checkoutContract cfg).guar h site s s := checkout_keeps (fun _ hk => hk) rfl

/-- Recording the PaymentIntent on the order adds no row. -/
theorem savePaymentIntent_checkout {o : OrderId} {pi : PaymentIntentId} :
    Free (checkoutContract cfg)
      (tryCatch (await (.savePaymentIntent o) (savePaymentIntent o pi)) fun _ => pure ()) := by
  refine free_tryCatch (free_await (fun _ _ => checkout_noop) fun h i s _ s' hrun => ?_)
    fun _ => free_pure
  simp only [savePaymentIntent, Stmt.bind_ok, Tx.throwIf_ok, updateOrder_ok] at hrun
  obtain ⟨_, _, ⟨-, rfl⟩, _, _, hunique, -, rfl⟩ := hrun
  obtain rfl := uniquePaymentIntent_ok hunique
  refine checkout_keeps (fun k hk => ?_) rfl
  rw [Table.find?_update, hk, Option.map_none, ite_self]

/-- The payment charges what was quoted. -/
theorem chargeOrder_checkout {o : OrderId} {p : PreparedOrder} {order : Order}
    (hbilled : ∀ pi : PaymentIntent, pi.orderId = o → pi.amount = p.totals.buyerTotalCents →
      Billed h pi) :
    Sat (checkoutContract cfg) anyPost (chargeOrder cfg o p order) h s := by
  have hfinish : ∀ (pi : PaymentIntentId) (secret : String), Free (checkoutContract cfg) (do
      try
        await (.savePaymentIntent o) (savePaymentIntent o pi)
      catch _ =>
        pure ()
      throwIf (secret = "") (.serviceUnavailable "PaymentIntent missing client_secret")
      pure (⟨order, secret⟩ : CreateOrderResult)) :=
    fun pi secret => free_bind savePaymentIntent_checkout fun _ =>
      free_bind free_throwIf fun _ => free_pure
  refine sat_bind (sat_tryCatch (sat_await fun s₁ _ i => ⟨fun _ _ => ⟨checkout_noop, ?_⟩, ?_⟩))
  · -- Stripe failed: the placeholder in development, an error elsewhere
    by_cases hdev : cfg.development = true
    · simp only [hdev, if_true]
      exact hfinish _ _ _ _
    · simp only [hdev]
      trivial
  · rintro ⟨pi, secret⟩ s₂ hcreate
    obtain ⟨paymentIntents, rfl, hnew, rfl⟩ := createPaymentIntent_ok hcreate
    refine ⟨⟨fun order horder => ?_, fun pi hcharge => ?_⟩, hfinish _ _ _ _⟩
    · cases horder.1.symm.trans horder.2
    · obtain rfl := Table.eq_of_insert hnew hcharge.1 hcharge.2
      exact hbilled _ rfl rfl

/-- **What a checkout inserts and charges**, whatever happens between its steps. -/
theorem createOrder_charges : Sat (checkoutContract cfg) anyPost (createOrder cfg me sub dto) [] s := by
  rw [createOrder_eq]
  refine sat_bind (prepareOrder_checkout.post fun h r s hr => ?_)
  obtain ⟨hunplaced, hquoted⟩ := hr
  cases r with
  | error e => trivial
  | ok p =>
    refine sat_await_bind fun s₁ _ i => ⟨fun _ _ => ⟨checkout_noop, trivial⟩, fun order s₂ hrun => ?_⟩
    obtain ⟨listings, orders, -, hnew, -, rfl⟩ := placeOrder_ok hrun
    -- the transaction inserts the one order
    have hone : ∀ order, Inserts ⟨.placeOrder (generateUlid me 0), s₁, { s₁ with listings, orders }⟩
        order → order = newOrder { s₁ with listings } (p.args me dto i.token) :=
      fun order horder => Table.eq_of_insert hnew horder.1 horder.2
    have hinserts : Inserts ⟨.placeOrder (generateUlid me 0), s₁, { s₁ with listings, orders }⟩
        (newOrder { s₁ with listings } (p.args me dto i.token)) :=
      ⟨(Table.insert?_eq_some.mp hnew).1, (Table.find?_insert hnew _).trans (if_pos rfl)⟩
    refine ⟨⟨fun order horder => ⟨_, _, hquoted p rfl i.token, hone order horder⟩, fun pi hcharge => ?_⟩,
      chargeOrder_checkout fun pi horder hamount => ⟨⟨_, List.mem_cons_self .., _, hinserts⟩, ?_⟩⟩
    · cases hcharge.1.symm.trans hcharge.2
    · intro t ht order' horder'
      rcases List.mem_cons.mp ht with rfl | ht
      · rw [hone order' horder', horder, hamount]
        exact ⟨rfl, rfl⟩
      · exact absurd horder' (hunplaced t ht order')

/-! ## The result -/

/-- The service, with any edits of the database by others between its steps. -/
def editedService (cfg : Config) : Service machine :=
  { service cfg with
    Event := Db → Db
    event := fun edit => edit }

/-- **Snapshots reproduce the charge.** In every interleaving of a checkout with any
other calls and any edits of the database: every order that it inserts has line
snapshots that add up to its subtotal, and every PaymentIntent that it creates is for
the one order that it inserted, at that order's total. -/
theorem snapshots_reproduce_charge (cfg : Config) (s₀ : Db)
    (actions : List (Pool.Action (editedService cfg))) (j : Nat) (sub : String) (dto : CreateOrderDto)
    (hj : (poolRun s₀ actions).call? j = some (.createOrder sub dto)) :
    ∀ later t earlier, Pool.ownSteps j (poolRun s₀ actions).trace = later ++ t :: earlier →
      (∀ order, Inserts t order → order.snapshotCents = order.subtotalCents) ∧
      ∀ pi, Charges t pi → Billed earlier pi := by
  have hcall : ∀ s, Sat (checkoutContract cfg) (fun _ _ _ => True)
      ((editedService cfg).handle j (.createOrder sub dto)) [] s := by
    intro s
    refine sat_bind (createOrder_charges.post fun h r s _ => ?_)
    cases r with
    | error e => trivial
    | ok result => trivial
  intro later t earlier hsplit
  obtain ⟨hinserts, hcharges⟩ := (Pool.own_sat (fun _ _ => trivial) hcall hj).1 later t earlier hsplit
  refine ⟨fun order horder => ?_, hcharges⟩
  obtain ⟨db, args, hquoted, rfl⟩ := hinserts order horder
  exact newOrder_snapshots hquoted

/-- The small marketplace, with a sauce for the dish. -/
def sauceTown : Db :=
  { smallTown with addOns := ⟨[⟨⟨0, 130⟩, ⟨0, 110⟩, "Sauce", 50⟩], by decide⟩ }

/-- Two lines of one dish, in the first the sauce twice, delivered. -/
def sauceOrder : CreateOrderDto :=
  ⟨[⟨⟨0, 110⟩, 1, none, some [⟨0, 130⟩, ⟨0, 130⟩], one_portion⟩, ⟨⟨0, 110⟩, 2, none, none, two_portions⟩],
    .delivery, some ⟨0, 120⟩, none, none, none, none, none, some true⟩

/-- The price of the dish is doubled between the validation of the cart and its insertion. -/
def priceDoubled : List (Pool.Action (editedService smallTownConfig)) :=
  .arrive (.createOrder "buyer" sauceOrder) ::
    List.replicate 5 (.run 0 ⟨true, "token", ""⟩) ++
    .event (fun db => { db with
      listings := db.listings.update ⟨0, 110⟩ fun l => { l with priceCents := 2 * l.priceCents } }) ::
    List.replicate 5 (.run 0 ⟨true, "token", ""⟩)

/-- The order and its PaymentIntent are for the old price. -/
theorem priceDoubled_charge :
    (∃ order ∈ (poolRun sauceTown priceDoubled).state.orders.rows, order.snapshotCents = 30100 ∧
      order.buyerTotalCents = 31920 ∧ ∃ pi ∈ (poolRun sauceTown priceDoubled).state.paymentIntents.rows,
        pi.orderId = order.id ∧ pi.amount = 31920) ∧
    ∀ later t earlier,
      Pool.ownSteps 0 (poolRun sauceTown priceDoubled).trace = later ++ t :: earlier →
        (∀ order, Inserts t order → order.snapshotCents = order.subtotalCents) ∧
        ∀ pi, Charges t pi → Billed earlier pi := by
  have hcall : (poolRun sauceTown priceDoubled).call? 0 = some (.createOrder "buyer" sauceOrder) :=
    Pool.call?_first rfl _
  exact ⟨by decide +kernel,
    snapshots_reproduce_charge smallTownConfig sauceTown priceDoubled 0 "buyer" sauceOrder hcall⟩

end IncaCook
