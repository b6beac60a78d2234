import IncaCook.Steps.Serial

/-!
# After an order has moved

The operations that end an order first move it and its delivery, in one
transaction or two, and then refund, credit, compensate and strike. What follows
the move is quiet: it touches neither deliveries nor the status of any order, at
any of its steps.

Main results:

* `refundOrderIfNeeded_quiet`, `immediateExclude_quiet`, …: the quiet handlers;
* `sat_quiet`: a quiet handler ends in a state like the one it starts from.
-/

namespace IncaCook

open Prog Orders Deliveries Wallets

/-- Deliveries and the statuses of orders are as before. -/
structure Quiet (s s' : Db) : Prop where
  deliveries : s'.deliveries = s.deliveries
  status : ∀ o, s'.orderStatus o = s.orderStatus o

/-- The contract of a handler that stays quiet. -/
def quietContract : Contract machine where
  rely := Eq
  guar _ _ s s' := Quiet s s'

section

variable {me : Nat} {h : List (StepRecord machine)} {s s' s'' : Db} {o : OrderId}

theorem Quiet.refl (s : Db) : Quiet s s := ⟨rfl, fun _ => rfl⟩

theorem Quiet.trans (h₁ : Quiet s s') (h₂ : Quiet s' s'') : Quiet s s'' :=
  ⟨h₂.deliveries.trans h₁.deliveries, fun o => (h₂.status o).trans (h₁.status o)⟩

/-- Neither table changes. -/
theorem Quiet.of_eq (hdeliveries : s'.deliveries = s.deliveries) (horders : s'.orders = s.orders) :
    Quiet s s' :=
  ⟨hdeliveries, fun o => by rw [Db.orderStatus, horders, ← Db.orderStatus]⟩

theorem Aside.quiet (haside : Aside s s') : Quiet s s' := .of_eq haside.deliveries haside.orders

/-- An update of an order that keeps its status. -/
theorem orderStatus_update {f : Order → Order} (hf : ∀ r : Order, (f r).id = r.id) {o' : OrderId}
    (horders : s'.orders = s.orders.update o f hf) (hstatus : ∀ r, (f r).status = r.status) :
    s'.orderStatus o' = s.orderStatus o' := by
  rw [Db.orderStatus, horders, Table.find?_update, Db.orderStatus]
  split
  · rw [Option.map_map]
    exact congrArg (Option.map · _) (funext hstatus)
  · rfl

/-- An update that gives an order a status. -/
theorem orderStatus_of_update {f : Order → Order} {hf : ∀ r : Order, (f r).id = r.id}
    {status : OrderStatus} {u : Unit} (hrun : updateOrder o f hf s = .ok (u, s'))
    (hstatus : ∀ r, (f r).status = status) : s'.orderStatus o = some status := by
  obtain ⟨⟨row, hrow⟩, rfl⟩ := updateOrder_ok.mp hrun
  rw [Db.orderStatus, Table.find?_update_of_eq hrow hf, Option.map_some, hstatus]

/-- A quiet program ends in a state like the one it starts from. -/
theorem sat_quiet {α : Type} {p : Handler α} (hp : Free quietContract p) :
    Sat aloneContract (fun _ _ s' => Quiet s s') p h s := by
  have hleads : Sat quietContract (fun _ _ s' => Quiet s s') p h s :=
    hp.leads .refl (fun _ _ _ => .trans) (fun _ _ hab => hab) fun _ _ _ _ hg => hg
  exact hleads.mono (fun _ _ hR => hR) (fun _ _ _ _ _ => trivial) fun _ _ _ hQ => hQ

/-! ## The quiet handlers -/

theorem paperwork_quiet {α : Type} {p : Handler α} (hp : Free (paperworkContract Eq) p) :
    Free quietContract p :=
  fun h s => (hp h s).mono (fun _ _ hR => hR) (fun _ _ _ _ hg => hg.2.quiet) fun _ _ _ hQ => hQ

/-- Writing the ledger. -/
theorem ledger_quiet {site : Site} {f : Answer → Tx Unit}
    (hf : ∀ i s s', f i s = .ok ((), s') → ∃ walletEntries, s' = { s with walletEntries }) :
    Free quietContract (await site f) := by
  refine free_await (fun _ s => .refl s) fun h i s _ s' hrun => ?_
  obtain ⟨walletEntries, rfl⟩ := hf i s s' hrun
  exact .of_eq rfl rfl

theorem createEntries_ledger {rows : Db → List WalletEntry} {s s' : Db}
    (hrun : (do createEntries (rows (← get)) : Tx Unit) s = .ok ((), s')) :
    ∃ walletEntries, s' = { s with walletEntries } := by
  simp only [Stmt.bind_ok, Stmt.get_ok, createEntries_ok] at hrun
  obtain ⟨_, _, ⟨rfl, rfl⟩, rfl⟩ := hrun
  exact ⟨_, rfl⟩

theorem reverseDriverEarning_quiet :
    Free quietContract (await (.reverseDriverEarning o) fun _ => reverseDriverEarning o) :=
  ledger_quiet fun _ _ _ hrun => ⟨_, updateWalletEntries_ok.mp hrun⟩

theorem reversePending_quiet :
    Free quietContract (await (.reversePending o) fun _ => reversePending o) :=
  ledger_quiet fun _ _ _ hrun => ⟨_, updateWalletEntries_ok.mp hrun⟩

theorem creditSellerEarning_quiet {seller : UserId} {amount : Cents} :
    Free quietContract (creditSellerEarning me o seller amount) :=
  free_ite free_pure (ledger_quiet fun _ _ _ hrun => createEntries_ledger hrun)

theorem recordDriverDebt_quiet {driver : UserId} {amount : Cents} :
    Free quietContract (recordDriverDebt me o driver amount) :=
  free_ite free_pure (ledger_quiet fun _ _ _ hrun => createEntries_ledger hrun)

/-- Recording a refund does not touch a status. -/
theorem saveRefund_quiet {refund : RefundId} {answer : Answer} {u : Unit}
    (hrun : saveRefund o refund answer s = .ok (u, s')) : Quiet s s' := by
  obtain rfl := saveRefund_ok hrun
  refine ⟨rfl, fun o' => orderStatus_update ?_ rfl fun _ => rfl⟩
  exact fun _ => rfl

theorem refundOrderIfNeeded_quiet : Free quietContract (refundOrderIfNeeded o) := by
  refine refundOrderIfNeeded_of (fun _ s => .refl s) (fun pi => ?_) (fun refund => ?_)
    reversePending_quiet
  · refine free_await (fun _ s => .refl s) fun h i s _ s' hrun => ?_
    obtain ⟨refunds, -, -, -, rfl⟩ := createRefund_ok hrun
    exact .of_eq rfl rfl
  · exact free_await (fun _ s => .refl s) fun h i s _ s' hrun => saveRefund_quiet hrun

theorem immediateExclude_quiet {u : UserId} {role : ActorRole} {reason : StrikeReason}
    {sourceType : StrikeSourceType} {d : DeliveryId} :
    Free quietContract (Strikes.immediateExclude me u role reason sourceType d o) :=
  paperwork_quiet (free_bind addStrike_paperwork fun _ => suspendUser_paperwork)

end

end IncaCook
