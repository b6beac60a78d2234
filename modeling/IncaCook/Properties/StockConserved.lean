import IncaCook.Library.Latches
import IncaCook.Properties.NoDriver
import IncaCook.Properties.Overselling
import IncaCook.Steps.Interleaved

/-!
# Stock is conserved

What is left of a listing and what the orders hold of it add up to what there was. An order
holds its portions from the transaction that places it to the one that gives them back, and
`inventoryRestored` says which side of the book they are on. Three transactions do not look at
the flag themselves: they trust what was read before they began, so a cancellation that fires
twice gives the portions back twice.

Main results:

* `Step.accounts`: a step that finds the flag as it was read keeps the books;
* `stock_conserved`: so does every interleaving of such steps, and no order gives its portions
  back twice;
* `portions_given_back_twice`: two answers to one unanswered prompt.
-/

namespace IncaCook

open Prog Orders

/-- The portions that an order holds. -/
def heldPortions (id : ListingId) (o : Order) : ℤ :=
  if o.inventoryRestored then 0 else sumAt id (OrderTransactions.orderLines o)

/-- The portions of a listing that are left; none where they are not counted. -/
def Db.portionsLeft (s : Db) (id : ListingId) : Option ℤ := (s.listings.find? id).bind Listing.portionsLeft

/-- What is left of the listing, and what the orders hold of it, is `total`. -/
def Accounts (id : ListingId) (total : ℤ) (s : Db) : Prop :=
  ∃ left, s.portionsLeft id = some left ∧ left + s.orders.sumBy (heldPortions id) = total

/-- The portions of the order are back. -/
def Restored (o : OrderId) (s : Db) : Prop := ∃ row, s.orders.find? o = some row ∧ row.inventoryRestored = true

/-- The order whose portions a transaction gives back if the flag that was read before it says so. -/
def Site.givesBack : Site → Option (OrderId × Bool)
  | .cancelNoDriver o gives | .cancelSellerUnavailable o gives | .sellerCannotProvide o gives => some (o, gives)
  | _ => none

/-- The flag is as it was read. -/
def FlagAsRead (site : Site) (s : Db) : Prop :=
  ∀ read ∈ site.givesBack,
    ((s.orders.find? read.1).all fun row => decide (row.inventoryRestored = !read.2)) = true

instance (site : Site) (s : Db) : Decidable (FlagAsRead site s) :=
  inferInstanceAs (Decidable (∀ read ∈ site.givesBack, _ = true))

/-- An order keeps its lines, and its portions are given back for good. -/
def KeepsLines (r r' : Order) : Prop :=
  r'.items = r.items ∧ (r.inventoryRestored = true → r'.inventoryRestored = true)

/-- What a call may rely on. -/
def KeepsOrders (_ : Nat) (s s' : Db) : Prop := s.orders.Carries KeepsLines s'.orders

section

variable {id : ListingId} {total left : ℤ} {s s' : Db} {o : OrderId} {row : Order}

/-! ## Portions on their way back -/

theorem Orders.Listing.restock_restock {q q' : Nat} (l : Listing) :
    Listing.restock q' (Listing.restock q l) = Listing.restock (q + q') l := by
  unfold Listing.restock
  cases h : l.portionsLeft with
  | none => simp
  | some n =>
    simp only [Option.map_some, Listing.mk.injEq, Option.some.injEq, true_and, and_true]
    omega

theorem Orders.Listing.restock_zero (l : Listing) : Listing.restock 0 l = l := by
  unfold Listing.restock
  cases h : l.portionsLeft with
  | none => cases l; simp_all
  | some n => cases l; simp_all

theorem find?_foldl_restock {wanted : List (ListingId × Nat)} {t : Table Listing} :
    (wanted.foldl (fun t p => t.update p.1 (Listing.restock p.2)) t).find? id =
      (t.find? id).map (Listing.restock (sumAt id wanted)) := by
  induction wanted generalizing t with
  | nil =>
    rw [List.foldl_nil, sumAt_nil]
    cases t.find? id with
    | none => rfl
    | some l => rw [Option.map_some, Listing.restock_zero]
  | cons p rest ih =>
    rw [List.foldl_cons, ih, Table.find?_update, sumAt_cons]
    cases t.find? id with
    | none => simp
    | some l =>
      by_cases h : id = p.1
      · rw [if_pos h, if_pos h.symm, Option.map_some, Option.map_some, Option.map_some,
          Listing.restock_restock]
      · rw [if_neg h, if_neg (Ne.symm h), Nat.zero_add]

/-- Every listing gets its total back. -/
theorem portionsLeft_restock {items : List OrderItem}
    (hlistings : s'.listings = restockListings s.listings items) (hleft : s.portionsLeft id = some left) :
    s'.portionsLeft id = some (left + sumAt id (items.map fun i => (i.listingId, i.quantity))) := by
  have htotal : ∀ lines, sumAt id (quantityByListing lines) = sumAt id lines := fun lines => sumAt_tally id lines
  obtain ⟨l, hl, hcount⟩ := Option.bind_eq_some_iff.mp hleft
  rw [Db.portionsLeft, hlistings, restockListings, find?_foldl_restock, hl, htotal]
  simp [Listing.restock, hcount]

/-! ## The books -/

/-- A write that moves no portions. -/
theorem Accounts.of_same (h : Accounts id total s) (hlistings : s'.listings = s.listings)
    (horders : s'.orders.sumBy (heldPortions id) = s.orders.sumBy (heldPortions id)) :
    Accounts id total s' := by
  obtain ⟨left, hleft, hsum⟩ := h
  refine ⟨left, ?_, ?_⟩
  · rw [Db.portionsLeft, hlistings]
    exact hleft
  · rw [horders, hsum]

/-- An order whose portions are back holds none. -/
theorem sumBy_returned {f : Order → Order} (hrow : s.orders.find? o = some row)
    (hflag : (f row).inventoryRestored = true)
    (hf : ∀ r : Order, (f r).id = r.id := by intro _; exact Eq.symm rfl) :
    (s.orders.update o f hf).sumBy (heldPortions id) =
      s.orders.sumBy (heldPortions id) - heldPortions id row := by
  have hafter : heldPortions id (f row) = 0 := if_pos hflag
  rw [Table.sumBy_update hrow f hf, hafter]
  omega

/-- A cancellation that gives the portions back exactly if the order still holds them. -/
theorem Accounts.giveBack (h : Accounts id total s)
    (hlistings : s'.listings = Orders.giveBack row.inventoryRestored row.items s.listings)
    (horders : s'.orders.sumBy (heldPortions id) =
      s.orders.sumBy (heldPortions id) - heldPortions id row) : Accounts id total s' := by
  obtain ⟨left, hleft, hsum⟩ := h
  unfold Orders.giveBack at hlistings
  split at hlistings
  · rename_i hback
    have hbefore : heldPortions id row = 0 := if_pos hback
    refine ⟨left, ?_, by rw [horders, hbefore]; omega⟩
    rw [Db.portionsLeft, hlistings]
    exact hleft
  · rename_i hheld
    have hbefore : heldPortions id row = sumAt id (OrderTransactions.orderLines row) := if_neg hheld
    refine ⟨_, portionsLeft_restock hlistings hleft, ?_⟩
    rw [horders, hbefore, OrderTransactions.orderLines]
    omega

/-- What a stale read of the order is worth where its flag is as it was read. -/
theorem KeepsLines.giveBack_eq {seen fresh : Order} {t : Table Listing} (hkeeps : KeepsLines seen fresh)
    (hflag : fresh.inventoryRestored = !(!seen.inventoryRestored)) :
    Orders.giveBack seen.inventoryRestored seen.items t =
      Orders.giveBack fresh.inventoryRestored fresh.items t := by
  rw [hflag, Bool.not_not, hkeeps.1]

end

section

variable {cfg : Config} {R : Db → Db → Prop} {me : Nat} {call : Call} {h : List (StepRecord machine)}
  {site : Site} {s s' : Db} {o : OrderId} {id : ListingId} {total : ℤ}

theorem backfill_lines {read row row' : Order} {pi : PaymentIntentId} (hkeeps : KeepsLines row row') :
    KeepsLines row (Webhooks.backfill read pi row') := by
  unfold Webhooks.backfill
  split
  · exact hkeeps
  · exact hkeeps

theorem backfill_held {read row : Order} {pi : PaymentIntentId} :
    heldPortions id (Webhooks.backfill read pi row) = heldPortions id row := by
  unfold Webhooks.backfill
  split
  · rfl
  · rfl

/-- **No step changes the lines of an order, or takes its portions again.** -/
theorem Step.lines (hstep : Step cfg R me call h site s s') : s.orders.Carries KeepsLines s'.orders := by
  have hrefl : ∀ row, KeepsLines row row := fun _ => ⟨rfl, fun hback => hback⟩
  have hupdate : ∀ id f (hf : ∀ row : Order, (f row).id = row.id), (∀ row, KeepsLines row (f row)) →
      s.orders.Carries KeepsLines (s.orders.update id f hf) :=
    fun _ _ hf hkeeps => Table.carries_update hrefl hkeeps hf
  cases hstep with
  | aside haside =>
    rw [haside.orders]
    exact .refl hrefl _
  | placeOrder args hid hstock hnew => exact Table.carries_insert hrefl hnew
  | paymentSucceeded ev order hsaw =>
    apply hupdate
    · exact fun _ => backfill_lines ⟨rfl, fun hback => hback⟩
    · exact fun _ => Webhooks.backfill_id order ev.id _
  | paymentFailed ev order fresh reason hsaw hfresh hpending =>
    apply hupdate
    · exact fun _ => backfill_lines ⟨rfl, fun _ => rfl⟩
    · exact fun _ => Webhooks.backfill_id order ev.id _
  | cancelNoDriver | cancelSellerUnavailable | sellerCannotProvide | cancelAsSeller =>
    apply hupdate
    · exact fun _ => ⟨rfl, fun _ => rfl⟩
    · exact fun _ => rfl
  | _ => first
    | exact .refl hrefl _
    | (apply hupdate
       · exact fun _ => ⟨rfl, fun hback => hback⟩
       · exact fun _ => rfl)

/-- A new order takes what it holds. -/
theorem Accounts.place (hI : Accounts id total s) {args : InsertOrderArgs} {db : Db} {orders : Table Order}
    (hlistings : s'.listings = takeStock (cartLines args.dto.items) s.listings)
    (hnew : s.orders.insert? (newOrder db args) = some orders) (horders : s'.orders = orders) :
    Accounts id total s' := by
  obtain ⟨left, hleft, hsum⟩ := hI
  have hheld : heldPortions id (newOrder db args) = sumAt id (cartLines args.dto.items) := by
    have hlines : OrderTransactions.orderLines (newOrder db args) = cartLines args.dto.items :=
      OrderTransactions.orderLines_newOrder
    rw [← hlines]
    exact if_neg Bool.false_ne_true
  obtain ⟨l, hl, hcount⟩ := Option.bind_eq_some_iff.mp hleft
  refine ⟨left - sumAt id (cartLines args.dto.items), ?_, ?_⟩
  · rw [Db.portionsLeft, hlistings, find?_takeStock, hl]
    simp [Listing.take, hcount]
  · rw [horders, Table.sumBy_insert hnew, hheld]
    omega

/-- **A step that finds the flag as it was read keeps the books.** -/
theorem Step.accounts (hstep : Step cfg (KeepsOrders me) me call h site s s')
    (hprod : cfg.development = false) (hc : FlagAsRead site s) (hI : Accounts id total s) :
    Accounts id total s' := by
  -- the order that was read is the order that is written
  have hread : ∀ {s₀ : Db} {o : OrderId} {seen : Order}, KeepsOrders me s₀ s →
      s₀.orders.find? o = some seen → site.givesBack = some (o, !seen.inventoryRestored) →
      ∃ fresh, s.orders.find? o = some fresh ∧
        ∀ t, giveBack seen.inventoryRestored seen.items t = giveBack fresh.inventoryRestored fresh.items t := by
    intro s₀ o seen hR hseen hsite
    obtain ⟨fresh, hfresh, hkeeps⟩ := Table.Carries.find? hR hseen
    have hflag := hc _ hsite
    rw [hfresh] at hflag
    exact ⟨fresh, hfresh, fun t => hkeeps.giveBack_eq (of_decide_eq_true hflag)⟩
  cases hstep with
  | aside haside => exact hI.of_same haside.listings (by rw [haside.orders])
  | placeOrder args hid hstock hnew =>
    obtain ⟨-, hs⟩ := (atomicDecrementInventory_ok hprod).mp hstock
    exact hI.place (congrArg Db.listings hs) hnew rfl
  | paymentSucceeded ev order hsaw =>
    refine hI.of_same rfl (Table.sumBy_update_of_same ?_ ?_)
    · exact fun _ => backfill_held.trans rfl
    · exact fun _ => (Webhooks.backfill_id order ev.id _).trans rfl
  | paymentFailed ev order fresh reason hsaw hfresh hpending =>
    refine hI.giveBack rfl (sumBy_returned hfresh ?_ ?_)
    · exact (backfill_lines ⟨rfl, fun hback => hback⟩).2 rfl
    · exact fun _ => (Webhooks.backfill_id order ev.id _).trans rfl
  | cancelNoDriver o reason hR hsaw hprompted =>
    obtain ⟨fresh, hfresh, hgive⟩ := hread hR hsaw rfl
    exact hI.giveBack (hgive _) (sumBy_returned hfresh rfl)
  | cancelSellerUnavailable o hR hsaw hstatus hreported =>
    obtain ⟨fresh, hfresh, hgive⟩ := hread hR hsaw rfl
    exact hI.giveBack (hgive _) (sumBy_returned hfresh rfl)
  | sellerCannotProvide o hR hsaw hstatus hpickup =>
    obtain ⟨fresh, hfresh, hgive⟩ := hread hR hsaw rfl
    exact hI.giveBack (hgive _) (sumBy_returned hfresh rfl)
  | cancelAsSeller o reason hfresh hstatus => exact hI.giveBack rfl (sumBy_returned hfresh rfl)
  | _ => first
    | exact hI.of_same rfl rfl
    | (refine hI.of_same rfl (Table.sumBy_update_of_same ?_ ?_)
       · exact fun _ => rfl
       · exact fun _ => rfl)

/-! ## Once -/

/-- The transactions that may give the portions of an order back. -/
def Site.returns (o : OrderId) : Site → Bool
  | .cancelNoDriver o' _ | .cancelSellerUnavailable o' _ | .sellerCannotProvide o' _ | .cancelAsSeller o'
  | .paymentFailed o' => o' = o
  | _ => false

/-- The step gives the portions of the order back. -/
def Returns (o : OrderId) (e : Entry machine) : Prop :=
  e.site.returns o = true ∧ Db.listings e.post ≠ Db.listings e.pre

theorem not_restored {row : Order} (hrow : s.orders.find? o = some row)
    (hflag : ¬row.inventoryRestored = true) : ¬Restored o s := by
  rintro ⟨row', hrow', hback⟩
  obtain rfl := Option.some.inj (hrow.symm.trans hrow')
  exact hflag hback

theorem restored_update {row : Order} {f : Order → Order} (hrow : s.orders.find? o = some row)
    (hflag : (f row).inventoryRestored = true)
    (hf : ∀ r : Order, (f r).id = r.id := by intro _; exact Eq.symm rfl) :
    ∃ row', (s.orders.update o f hf).find? o = some row' ∧ row'.inventoryRestored = true :=
  ⟨f row, Table.find?_update_of_eq hrow hf, hflag⟩

/-- Portions move only where the flag says that they are still held. -/
theorem not_flag_of_moved {restored : Bool} {items : List OrderItem} {t : Table Listing}
    (hmoved : giveBack restored items t ≠ t) : ¬restored = true :=
  fun hback => hmoved (if_pos hback)

/-- **A step that gives portions back finds them held, and leaves them returned.** -/
theorem Step.returned (hstep : Step cfg (KeepsOrders me) me call h site s s') (hc : FlagAsRead site s)
    (hreturns : site.returns o = true) (hmoved : s'.listings ≠ s.listings) :
    ¬Restored o s ∧ Restored o s' := by
  -- where the flag was read early, it is still as it was read
  have hread : ∀ {s₀ : Db} {o : OrderId} {seen : Order}, KeepsOrders me s₀ s →
      s₀.orders.find? o = some seen → site.givesBack = some (o, !seen.inventoryRestored) →
      ¬seen.inventoryRestored = true →
      ∃ fresh, s.orders.find? o = some fresh ∧ ¬fresh.inventoryRestored = true := by
    intro s₀ o seen hR hseen hsite hheld
    obtain ⟨fresh, hfresh, -⟩ := Table.Carries.find? hR hseen
    have hflag := hc _ hsite
    rw [hfresh] at hflag
    exact ⟨fresh, hfresh, by rw [of_decide_eq_true hflag, Bool.not_not]; exact hheld⟩
  cases hstep with
  | noop => exact absurd rfl hmoved
  | aside haside => exact absurd haside.listings hmoved
  | paymentFailed ev order fresh reason hsaw hfresh hpending =>
    obtain rfl : order.id = o := of_decide_eq_true hreturns
    refine ⟨not_restored hfresh (not_flag_of_moved hmoved), restored_update hfresh ?_ ?_⟩
    · exact (backfill_lines ⟨rfl, fun hback => hback⟩).2 rfl
    · exact fun _ => (Webhooks.backfill_id order ev.id _).trans rfl
  | cancelNoDriver o₁ reason hR hsaw hprompted =>
    obtain rfl : o₁ = o := of_decide_eq_true hreturns
    obtain ⟨fresh, hfresh, hheld⟩ := hread hR hsaw rfl (not_flag_of_moved hmoved)
    exact ⟨not_restored hfresh hheld, restored_update hfresh rfl⟩
  | cancelSellerUnavailable o₁ hR hsaw hstatus hreported =>
    obtain rfl : o₁ = o := of_decide_eq_true hreturns
    obtain ⟨fresh, hfresh, hheld⟩ := hread hR hsaw rfl (not_flag_of_moved hmoved)
    exact ⟨not_restored hfresh hheld, restored_update hfresh rfl⟩
  | sellerCannotProvide o₁ hR hsaw hstatus hpickup =>
    obtain rfl : o₁ = o := of_decide_eq_true hreturns
    obtain ⟨fresh, hfresh, hheld⟩ := hread hR hsaw rfl (not_flag_of_moved hmoved)
    exact ⟨not_restored hfresh hheld, restored_update hfresh rfl⟩
  | cancelAsSeller o₁ reason hfresh hstatus =>
    obtain rfl : o₁ = o := of_decide_eq_true hreturns
    exact ⟨not_restored hfresh (not_flag_of_moved hmoved), restored_update hfresh rfl⟩
  | _ => cases hreturns

end

/-! ## Every interleaving -/

theorem KeepsOrders.refl (me : Nat) (s : Db) : KeepsOrders me s s :=
  Table.Carries.refl (fun _ => ⟨rfl, fun hback => hback⟩) _

theorem KeepsOrders.trans {me : Nat} {s s' s'' : Db} (h : KeepsOrders me s s') (h' : KeepsOrders me s' s'') :
    KeepsOrders me s s'' :=
  Table.Carries.trans (fun _ _ _ hab hbc => ⟨hbc.1.trans hab.1, fun hback => hbc.2 (hab.2 hback)⟩) h h'

section

variable {cfg : Config} {I : Db → Prop} {cond : Site → Db → Prop} {s₀ : Db}
  {actions : List (Pool.Action (service cfg))}

/-- What a step keeps when orders keep their lines. -/
theorem lines_sound (hI : I s₀) (hevent : ∀ e s, I s → I (applyEvent e s))
    (hstep : ∀ me call h site s s', I s → cond site s → Step cfg (KeepsOrders me) me call h site s s' → I s')
    (hc : (poolRun s₀ actions).Steps cond) :
    Pool.Sound (interleaved cfg KeepsOrders) (fun _ _ => anyPost) I s₀ (poolRun s₀ actions) := by
  refine interleaved_sound hI (fun me s _ => .refl me s) (fun _ _ _ _ hab hbc => hab.trans hbc)
    (fun e s hs => ⟨hevent e s hs, fun me => ?_⟩) (fun me call h site s s' hs hsite hg => ?_) actions hc
  · cases e with
    | tick ms => exact .refl me s
    | paymentSucceeds pi => exact .refl me s
  · exact ⟨hstep me call h site s s' hs hsite hg, fun _ _ => hg.lines⟩

/-- Every step of a run is one of the steps of its call. -/
theorem lines_step : ∀ e ∈ (poolRun s₀ actions).trace,
    ∃ h call, Step cfg (KeepsOrders e.thread) e.thread call h e.site e.pre e.post := by
  have hany : (poolRun s₀ actions).Steps fun _ _ => True := fun _ _ => trivial
  have hsound : Pool.Sound (interleaved cfg KeepsOrders) (fun _ _ => anyPost) (fun _ => True) s₀
      (poolRun s₀ actions) :=
    lines_sound trivial (fun _ _ _ => trivial) (fun _ _ _ _ _ _ _ _ _ => trivial) hany
  intro e he
  obtain ⟨h, -, -, call, hstep⟩ := hsound.step e he
  exact ⟨h, call, hstep⟩

/-- Portions that are back stay back. -/
theorem restored_latch (o : OrderId) : Pool.Latch (Restored o) (poolRun s₀ actions) := by
  refine ⟨fun e s => ?_, fun e he hback => ?_⟩
  · cases e with
    | tick ms => exact Iff.rfl
    | paymentSucceeds pi => exact Iff.rfl
  · obtain ⟨_, _, hstep⟩ := lines_step e he
    obtain ⟨row, hrow, hflag⟩ := hback
    obtain ⟨row', hrow', hkeeps⟩ := Table.Carries.find? hstep.lines hrow
    exact ⟨row', hrow', hkeeps.2 hflag⟩

end

/-- The stock of a listing, in a run. -/
structure StockConserved {cfg : Config} (id : ListingId) (s₀ : Db)
    (actions : List (Pool.Action (service cfg))) : Prop where
  /-- what is left and what the orders hold is what there was -/
  conserved : ∀ left, s₀.portionsLeft id = some left →
    Pool.Always (Accounts id (left + s₀.orders.sumBy (heldPortions id))) s₀ actions
  /-- no order gives its portions back twice -/
  once : ∀ o later e earlier, (poolRun s₀ actions).trace = later ++ e :: earlier → Returns o e →
    ∀ e' ∈ earlier, ¬Returns o e'

/-- **Stock is conserved, and what it takes.** Outside development, in every interleaving of any
calls whose cancellations find the flag of the order as it was read, the stock of every counted
listing is conserved, and no order gives its portions back twice. -/
theorem stock_conserved (cfg : Config) (hprod : cfg.development = false) (id : ListingId) (s₀ : Db)
    (actions : List (Pool.Action (service cfg))) (hc : (poolRun s₀ actions).Steps FlagAsRead) :
    StockConserved id s₀ actions := by
  constructor
  · rintro left hleft before after rfl
    refine (lines_sound (I := Accounts id _) ⟨left, hleft, rfl⟩ (fun e s hs => ?_) ?_ (Pool.Steps.before hc)).inv
    · cases e with
      | tick ms => exact hs
      | paymentSucceeds pi => exact hs
    · intro me call h site s s' hs hsite hstep
      exact hstep.accounts hprod hsite hs
  · intro o later e earlier hsplit hreturns e' he' hreturns'
    have hshuts : ∀ e ∈ (poolRun s₀ actions).trace, Returns o e → Pool.Shuts (Restored o) e := by
      intro e he hreturns
      obtain ⟨_, _, hstep⟩ := lines_step e he
      exact hstep.returned (hc e he) hreturns.1 hreturns.2
    have hmem : e ∈ (poolRun s₀ actions).trace := by simp [hsplit]
    have hmem' : e' ∈ (poolRun s₀ actions).trace := by simp [hsplit, he']
    exact (restored_latch o).not_shuts hsplit he' (hshuts e' hmem' hreturns').2 (hshuts e hmem hreturns)

/-! ## Two answers in the small town -/

/-- The calls that move stock. -/
def Call.movesStock : Call → Bool
  | .createOrder .. | .cancelAsSeller .. | .sellerCannotProvide .. | .reportSellerUnavailable ..
  | .decideNoDriver .. | .autoCancelNoResponse _ | .paymentIntentFailed _ => true
  | _ => false

/-- Of the calls, only these arrive. -/
def movingStock {cfg : Config} : Pool.Action (service cfg) → Bool
  | .arrive c => Call.movesStock c
  | _ => true

/-- Nobody has come for the order, and its buyer is asked what to do. -/
def noDriverTown : Db := (serialRun smallTown orderWaiting).state

/-- The prompt runs out as the buyer answers it. -/
def twoAnswers : List (Pool.Action (service smallTownConfig)) :=
  [.arrive (.autoCancelNoResponse ⟨0, 0⟩), .arrive (.decideNoDriver "buyer" ⟨0, 0⟩ .cancelAndRefund)]

/-- Steps of call `j`. -/
def answerSteps (j n : Nat) : List (Pool.Action (service smallTownConfig)) :=
  List.replicate n (.run j ⟨true, "", ""⟩)

/-- The buyer's answer comes after the prompt has run out. -/
def answersInTurn : List (Pool.Action (service smallTownConfig)) :=
  twoAnswers ++ (answerSteps 0 7 ++ answerSteps 1 9)

theorem answersInTurn_conserved :
    noDriverTown.portionsLeft ⟨0, 110⟩ = some 4 ∧
      Db.portionsLeft (poolRun noDriverTown answersInTurn).state ⟨0, 110⟩ = some 5 ∧
      StockConserved ⟨0, 110⟩ noDriverTown answersInTurn :=
  ⟨by decide +kernel, by decide +kernel,
    stock_conserved smallTownConfig rfl ⟨0, 110⟩ noDriverTown answersInTurn (by decide +kernel)⟩

/-- Both look at the order before either has cancelled it. -/
def answersAtOnce : List (Pool.Action (service smallTownConfig)) :=
  twoAnswers ++ (answerSteps 0 2 ++ answerSteps 1 9 ++ answerSteps 0 5)

/-- **One portion, given back twice.** -/
theorem portions_given_back_twice :
    ¬∀ (cfg : Config) (s₀ : Db) (actions : List (Pool.Action (service cfg))) (id : ListingId) (left : ℤ),
      cfg.development = false → (∀ a ∈ actions, movingStock a = true) → s₀.portionsLeft id = some left →
      (∀ j < (poolRun s₀ actions).threads.length, ((poolRun s₀ actions).result? j).isSome = true) →
      Accounts id (left + s₀.orders.sumBy (heldPortions id)) (poolRun s₀ actions).state := by
  intro hclaim
  obtain ⟨left, hleft, hsum⟩ := hclaim smallTownConfig noDriverTown answersAtOnce ⟨0, 110⟩ 4 rfl
    (by decide) (by decide +kernel) (by decide +kernel)
  -- six portions of five
  have hsix : Db.portionsLeft (poolRun noDriverTown answersAtOnce).state ⟨0, 110⟩ = some 6 := by
    decide +kernel
  have hheld : noDriverTown.orders.sumBy (heldPortions ⟨0, 110⟩) = 1 := by decide +kernel
  have hnone : Table.sumBy (Db.orders (poolRun noDriverTown answersAtOnce).state)
      (heldPortions ⟨0, 110⟩) = 0 := by decide +kernel
  obtain rfl := Option.some.inj (hleft.symm.trans hsix)
  rw [hheld, hnone] at hsum
  exact absurd hsum (by decide)

end IncaCook
