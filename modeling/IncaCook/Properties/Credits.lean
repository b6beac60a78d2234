import IncaCook.Properties.FinishedDeliveries
import IncaCook.Properties.RefundsAndEarnings

/-!
# Credits

What `creditForCompletedOrder` writes for an order, read off the ledger. Rows of
zero or less are not written, and duplicates are skipped; no other statement adds
to the credits of an order or takes from them.

Main results:

* `Step.credits`: only the step that credits an order changes its credits;
* `Step.entry_from`: where the entries of the ledger come from;
* `foldl_insert_fresh`: rows that clash with nothing are all written.
-/

namespace IncaCook

open Prog Orders Deliveries Wallets

/-- What an entry credits, to whom and as what. -/
structure Credit where
  userId : Beneficiary
  type : WalletEntryType
  amountCents : Cents

/-- The credit of the order that the entry books. What makes up for an order that was
cancelled says so in its metadata, and a withdrawal is about no order. -/
def WalletEntry.creditOf (o : OrderId) (e : WalletEntry) : Option Credit :=
  if e.orderId = some o ∧ e.metadata = none then some ⟨e.userId, e.type, e.amountCents⟩ else none

/-- The credits of an order, the newest first. -/
def Db.credits (s : Db) (o : OrderId) : List Credit :=
  s.walletEntries.rows.filterMap (WalletEntry.creditOf o)

/-- What an order is credited with in all. -/
def Db.creditedCents (s : Db) (o : OrderId) : Cents := ((s.credits o).map Credit.amountCents).sum

/-- The credits of a completed order, as they are written. -/
def dueCredits (row : Order) (driver : Option UserId) : List Credit :=
  (if row.sellerEarningsCents > 0 then
    [⟨.user row.sellerId, .orderEarning, row.sellerEarningsCents⟩] else []) ++
  (if row.commissionCents > 0 then [⟨.platform, .commission, row.commissionCents⟩] else []) ++
  match driver with
  | some driver =>
    if row.fulfillmentChoice = .delivery ∧ row.fulfillmentFeeCents > 0 then
      [⟨.user driver, .deliveryEarning, row.fulfillmentFeeCents⟩] else []
  | none => []

section

variable {cfg : Config} {R : Db → Db → Prop} {me : Nat} {call : Call}
  {h : List (StepRecord machine)} {site : Site} {s s' : Db} {o : OrderId} {row : Order}
  {delivery : Option Delivery} {now : Time}

/-! ## The rows -/

theorem creditRows_credits : (creditRows cfg me row delivery now).filterMap
    (WalletEntry.creditOf row.id) = dueCredits row (delivery.bind Delivery.driverId) := by
  have hnew : ∀ id u type amount status since, WalletEntry.creditOf row.id
      (newEntry id u row.id type amount status since none) = some ⟨u, type, amount⟩ :=
    fun _ _ _ _ _ _ => if_pos ⟨rfl, rfl⟩
  simp only [creditRows, dueCredits, List.filterMap_append]
  congr 2
  · split
    · simp [hnew]
    · rfl
  · split
    · simp [hnew]
    · rfl
  · cases delivery.bind Delivery.driverId with
    | none => rfl
    | some driver =>
      dsimp only
      split
      · simp [hnew]
      · rfl

/-- A credit has at most one row for the seller, one for the platform and one for the driver. -/
theorem creditRows_sublist :
    ((creditRows cfg me row delivery now).map fun e => (e.id, e.type, e.metadata)).Sublist
      [(generateUlid me 5, .orderEarning, none), (generateUlid me 6, .commission, none),
        (generateUlid me 7, .deliveryEarning, none)] := by
  have hite : ∀ (p : Prop) [Decidable p] (e : WalletEntry),
      ((if p then [e] else []).map fun e => (e.id, e.type, e.metadata)).Sublist
        [(e.id, e.type, e.metadata)] := by
    intro p _ e
    split
    · exact List.Sublist.refl _
    · exact List.nil_sublist _
  simp only [creditRows, List.map_append]
  refine ((hite _ _).append (hite _ _)).append ?_
  cases delivery.bind Delivery.driverId with
  | none => exact List.nil_sublist _
  | some driver => exact hite _ _

theorem creditRows_apart : (creditRows cfg me row delivery now).Pairwise fun a b =>
    a.id ≠ b.id ∧ a.type ≠ b.type := by
  have hall : ((creditRows cfg me row delivery now).map fun e => (e.id, e.type, e.metadata)).Pairwise
      fun a b => a.1 ≠ b.1 ∧ a.2.1 ≠ b.2.1 :=
    List.Pairwise.sublist creditRows_sublist (by simp [generateUlid])
  exact List.pairwise_map.mp hall

/-- The identifiers that a call has for the rows of a credit. -/
def creditIds (me : Nat) : List WalletEntryId := [generateUlid me 5, generateUlid me 6, generateUlid me 7]

theorem mem_creditRows {e : WalletEntry} (he : e ∈ creditRows cfg me row delivery now) :
    e.id ∈ creditIds me ∧ e.metadata = none := by
  have hmem := creditRows_sublist.subset (List.mem_map_of_mem he)
  simp only [List.mem_cons, Prod.mk.injEq, List.not_mem_nil, or_false] at hmem
  rcases hmem with ⟨hid, -, hmetadata⟩ | ⟨hid, -, hmetadata⟩ | ⟨hid, -, hmetadata⟩
  · exact ⟨by simp [hid, creditIds], hmetadata⟩
  · exact ⟨by simp [hid, creditIds], hmetadata⟩
  · exact ⟨by simp [hid, creditIds], hmetadata⟩

/-! ## The ledger -/

/-- Rows that clash with nothing are all written. -/
theorem foldl_insert_fresh {rows : List WalletEntry} {t : Table WalletEntry}
    (hapart : rows.Pairwise fun a b => a.id ≠ b.id ∧ a.type ≠ b.type)
    (hnew : ∀ e ∈ rows, booked t e = false) :
    (rows.foldl insertSkippingDuplicate t).rows = rows.reverse ++ t.rows := by
  induction rows generalizing t with
  | nil => rfl
  | cons e rest ih =>
    rw [List.pairwise_cons] at hapart
    obtain ⟨hfirst, hrest⟩ := hapart
    rcases insertSkippingDuplicate_cases t e with ⟨hdup, -⟩ | ⟨-, hrows⟩
    · rw [hnew e (List.mem_cons_self ..)] at hdup
      cases hdup
    · have hstill : ∀ e' ∈ rest, booked (insertSkippingDuplicate t e) e' = false := by
        intro e' he'
        have hbefore : booked t e' = false := hnew e' (List.mem_cons_of_mem _ he')
        obtain ⟨hid, htype⟩ := hfirst e' he'
        rw [booked, hrows, List.any_cons, ← booked, hbefore]
        simp [clashes, hid, htype.symm]
      rw [List.foldl_cons, ih hrest hstill, hrows, List.reverse_cons, List.append_assoc]
      rfl

/-- Rows that are about other orders, or make up for something, credit nothing. -/
theorem foldl_insert_credits {rows : List WalletEntry} {t : Table WalletEntry}
    (hnone : ∀ e ∈ rows, WalletEntry.creditOf o e = none) :
    (rows.foldl insertSkippingDuplicate t).rows.filterMap (WalletEntry.creditOf o) =
      t.rows.filterMap (WalletEntry.creditOf o) := by
  obtain ⟨added, hrows, hfrom, -⟩ := foldl_insert_rows rows t
  have hadded : added.filterMap (WalletEntry.creditOf o) = [] :=
    List.filterMap_eq_nil_iff.mpr fun e he => hnone e (hfrom e he)
  rw [hrows, List.filterMap_append, hadded, List.nil_append]

/-- Rewriting entries without touching what they credit. -/
theorem updateMany_credits {t : Table WalletEntry} {p : WalletEntry → Bool}
    {f : WalletEntry → WalletEntry} (hf : ∀ e, (f e).id = e.id)
    (hsame : ∀ e, WalletEntry.creditOf o (f e) = WalletEntry.creditOf o e) :
    (t.updateMany p f hf).rows.filterMap (WalletEntry.creditOf o) =
      t.rows.filterMap (WalletEntry.creditOf o) := by
  show (t.rows.map fun e => if p e then f e else e).filterMap _ = _
  rw [List.filterMap_map]
  congr 1
  funext e
  rw [Function.comp_apply]
  split
  · exact hsame e
  · rfl

/-! ## The steps -/

/-- **Only the step that credits an order changes its credits.** -/
theorem Step.credits (hstep : Step cfg Eq me call h site s s') (hsite : site ≠ .creditCompleted o) :
    s'.credits o = s.credits o := by
  have hstatus : ∀ (p : WalletEntry → Bool) (f : WalletEntry → WalletEntry)
      (hf : ∀ e, (f e).id = e.id), (∀ e, WalletEntry.creditOf o (f e) = WalletEntry.creditOf o e) →
      ({ s with walletEntries := s.walletEntries.updateMany p f hf } : Db).credits o = s.credits o :=
    fun _ _ hf hsame => updateMany_credits hf hsame
  -- what is booked with metadata makes up for something else: no credit
  have hmakesUp : ∀ e : WalletEntry, e.metadata ≠ none → ({ s with
      walletEntries := insertSkippingDuplicate s.walletEntries e } : Db).credits o = s.credits o := by
    intro e hmetadata
    have hnone : ∀ e' ∈ [e], WalletEntry.creditOf o e' = none := by
      intro e' he'
      rw [List.mem_singleton.mp he']
      exact if_neg fun hof => hmetadata hof.2
    exact foldl_insert_credits hnone
  cases hstep with
  | aside haside => rw [Db.credits, haside.walletEntries, ← Db.credits]
  | reverseDriverEarning o' => exact hstatus _ _ _ fun _ => rfl
  | reversePending o' => exact hstatus _ _ _ fun _ => rfl
  | releaseDue hR₀ hR₁ hcall => exact hstatus _ _ _ fun _ => rfl
  | reverseDue ids => exact hstatus _ _ _ fun _ => rfl
  | creditCompleted o' hR hsaw hstatus' =>
    have hkey := Table.key_of_find? hsaw
    refine foldl_insert_credits fun e he => if_neg fun hof => hsite ?_
    rw [creditRows_orderId e he] at hof
    rw [← Option.some.inj hof.1]
    exact congrArg _ hkey.symm
  | compensateDriver o' driver amount => exact hmakesUp _ nofun
  | creditSeller o' seller amount => exact hmakesUp _ nofun
  | driverDebt o' driver amount => exact hmakesUp _ nofun
  | settle user entries debit htransfer hdebit hnew =>
    show List.filterMap _ _ = _
    rw [(Table.insert?_eq_some.mp hnew).2, List.filterMap_cons_none (by simp [WalletEntry.creditOf, hdebit])]
    exact updateMany_credits _ fun _ => rfl
  | _ => rfl

/-- The entry is `e`, as far as it matters whose it is. -/
structure SameEntry (e e' : WalletEntry) : Prop where
  id : e'.id = e.id
  orderId : e'.orderId = e.orderId
  metadata : e'.metadata = e.metadata

/-- What the step adds to the ledger. -/
inductive NewEntry (cfg : Config) (me : Nat) : Site → WalletEntry → Prop where
  | credit {e : WalletEntry} (row : Order) (delivery : Option Delivery) (now : Time)
      (he : e ∈ creditRows cfg me row delivery now) : NewEntry cfg me (.creditCompleted row.id) e
  | compensation {site : Site} {e : WalletEntry} (o : OrderId)
      (hsite : site = .compensateDriver o ∨ site = .creditSeller o ∨ site = .driverDebt o)
      (hid : e.id ∈ [generateUlid me 8, generateUlid me 9, generateUlid me 10])
      (horder : e.orderId = some o) : NewEntry cfg me site e
  | debit {u : UserId} {w : WithdrawalId} {ids : List WalletEntryId} {e : WalletEntry}
      (horder : e.orderId = none) : NewEntry cfg me (.settle u w ids) e

/-- **Where the entries of the ledger come from.** -/
theorem Step.entry_from (hstep : Step cfg Eq me call h site s s') {e : WalletEntry}
    (he : e ∈ s'.walletEntries.rows) :
    (∃ e₀ ∈ s.walletEntries.rows, SameEntry e₀ e) ∨ NewEntry cfg me site e := by
  -- an update rewrites status and transfer id only: the entry was there
  have hrewritten : ∀ (p : WalletEntry → Bool) (f : WalletEntry → WalletEntry),
      (∃ e₀ ∈ s.walletEntries.rows, (if p e₀ then f e₀ else e₀) = e) → (∀ e, SameEntry e (f e)) →
      ∃ e₀ ∈ s.walletEntries.rows, SameEntry e₀ e := by
    rintro p f ⟨e₀, he₀, rfl⟩ hsame
    refine ⟨e₀, he₀, ?_⟩
    split
    · exact hsame e₀
    · exact ⟨rfl, rfl, rfl⟩
  have hsame : e ∈ s.walletEntries.rows → ∃ e₀ ∈ s.walletEntries.rows, SameEntry e₀ e :=
    fun he => ⟨e, he, rfl, rfl, rfl⟩
  cases hstep with
  | aside haside =>
    rw [haside.walletEntries] at he
    exact .inl (hsame he)
  | reverseDriverEarning o =>
    simp only [Table.mem_updateMany] at he
    exact .inl (hrewritten _ _ he fun _ => ⟨rfl, rfl, rfl⟩)
  | reversePending o =>
    simp only [Table.mem_updateMany] at he
    exact .inl (hrewritten _ _ he fun _ => ⟨rfl, rfl, rfl⟩)
  | releaseDue hR₀ hR₁ hcall =>
    simp only [Table.mem_updateMany] at he
    exact .inl (hrewritten _ _ he fun _ => ⟨rfl, rfl, rfl⟩)
  | reverseDue ids =>
    simp only [Table.mem_updateMany] at he
    exact .inl (hrewritten _ _ he fun _ => ⟨rfl, rfl, rfl⟩)
  | creditCompleted o hR hsaw hstatus =>
    have hkey := Table.key_of_find? hsaw
    rcases mem_foldl_insertSkippingDuplicate he with he | he
    · subst hkey
      exact .inr (.credit _ _ _ he)
    · exact .inl (hsame he)
  | compensateDriver o driver amount =>
    rcases mem_insertSkippingDuplicate he with rfl | he
    · exact .inr (.compensation o (.inl rfl) (by simp [newEntry]) rfl)
    · exact .inl (hsame he)
  | creditSeller o seller amount =>
    rcases mem_insertSkippingDuplicate he with rfl | he
    · exact .inr (.compensation o (.inr (.inl rfl)) (by simp [newEntry]) rfl)
    · exact .inl (hsame he)
  | driverDebt o driver amount =>
    rcases mem_insertSkippingDuplicate he with rfl | he
    · exact .inr (.compensation o (.inr (.inr rfl)) (by simp [newEntry]) rfl)
    · exact .inl (hsame he)
  | settle user entries debit htransfer hdebit hnew =>
    rcases (Table.mem_insert hnew).mp he with rfl | he
    · exact .inr (.debit hdebit)
    · simp only [Table.mem_updateMany] at he
      exact .inl (hrewritten _ _ he fun _ => ⟨rfl, rfl, rfl⟩)
  | _ => exact .inl (hsame he)

/-! ## Crediting an order -/

/-- A credit that finds nothing of the order in the ledger is written whole. -/
theorem creditRows_fresh (hids : ∀ e ∈ s.walletEntries.rows, e.id ∉ creditIds me)
    (hcredits : s.credits row.id = [])
    (hplain : ∀ e ∈ s.walletEntries.rows, e.orderId = some row.id → e.metadata = none) :
    ∀ e ∈ creditRows cfg me row delivery now, booked s.walletEntries e = false := by
  intro e he
  obtain ⟨hid, -⟩ := mem_creditRows he
  rw [booked, List.any_eq_false]
  intro e' he' hclash
  rcases Bool.or_eq_true_iff.mp hclash with hsame | hclash
  · rw [decide_eq_true_eq] at hsame
    exact hids e' he' (hsame ▸ hid)
  · simp only [clashes, Bool.and_eq_true, decide_eq_true_eq] at hclash
    have horder : e'.orderId = some row.id := hclash.1.1.2.symm.trans (creditRows_orderId e he)
    have hsome : WalletEntry.creditOf row.id e' = some ⟨e'.userId, e'.type, e'.amountCents⟩ :=
      if_pos ⟨horder, hplain e' he' horder⟩
    have hmem := List.mem_filterMap.mpr ⟨e', he', hsome⟩
    rw [← Db.credits, hcredits] at hmem
    cases hmem

/-- What is credited already is not credited again. -/
theorem creditRows_booked
    (hcredits : s.credits row.id = (dueCredits row (delivery.bind Delivery.driverId)).reverse) :
    (creditRows cfg me row delivery now).all (booked s.walletEntries) = true := by
  rw [List.all_eq_true]
  intro e he
  obtain ⟨-, hmetadata⟩ := mem_creditRows he
  have horder : e.orderId = some row.id := creditRows_orderId e he
  have hsome : WalletEntry.creditOf row.id e = some ⟨e.userId, e.type, e.amountCents⟩ :=
    if_pos ⟨horder, hmetadata⟩
  have hdue := List.mem_filterMap.mpr ⟨e, he, hsome⟩
  rw [creditRows_credits, ← List.mem_reverse, ← hcredits] at hdue
  -- the entry that booked it clashes with the new one
  obtain ⟨e', he', hsame⟩ := List.mem_filterMap.mp hdue
  obtain ⟨hof, heq⟩ := Option.ite_none_right_eq_some.mp hsame
  injection Option.some.inj heq with huser htype _
  refine List.any_eq_true.mpr ⟨e', he', ?_⟩
  simp [clashes, horder, hof.1, huser, htype]

/-- **What a completed order is credited with**, the first time and ever after. -/
theorem credits_written (cfg : Config) (now : Time) (hids : ∀ e ∈ s.walletEntries.rows, e.id ∉ creditIds me)
    (hplain : ∀ e ∈ s.walletEntries.rows, e.orderId = some row.id → e.metadata = none)
    (hcredits : s.credits row.id = [] ∨
      s.credits row.id = (dueCredits row (delivery.bind Delivery.driverId)).reverse) :
    let s' : Db := { s with walletEntries :=
      (creditRows cfg me row delivery now).foldl insertSkippingDuplicate s.walletEntries }
    s'.credits row.id = (dueCredits row (delivery.bind Delivery.driverId)).reverse := by
  rcases hcredits with hnone | hdone
  · show List.filterMap _ _ = _
    rw [foldl_insert_fresh creditRows_apart (creditRows_fresh hids hnone hplain), List.filterMap_append,
      List.filterMap_reverse, creditRows_credits, ← Db.credits, hnone, List.append_nil]
  · obtain ⟨added, hrows, -, hbooked⟩ :=
      foldl_insert_rows (creditRows cfg me row delivery now) s.walletEntries
    show List.filterMap _ _ = _
    rw [hrows, hbooked.mp (creditRows_booked hdone), List.nil_append, ← Db.credits, hdone]

end

end IncaCook
