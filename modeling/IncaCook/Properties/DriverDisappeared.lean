import IncaCook.Steps.Books
import IncaCook.Properties.Watchdogs

/-!
# The driver has disappeared

`resolveDriverDisappeared` first fails the delivery and cancels the order, in one
transaction, and then refunds the buyer, pays the seller, charges the driver and
excludes them, one after the other. The transaction is also what the watchdog
looks for. When the process dies after it, the watchdog that runs again finds
nothing to do, and what was left to do stays undone.

Main results:

* `disappearance_resumed_iff`: after a crash at any point and a second run, each of
  the three effects is there once exactly when the crash came before the
  transaction or after the debt was booked;
* `disappearance_not_resumed`: a crash after the transaction, and a buyer who is
  not refunded.
-/

namespace IncaCook

open Prog Orders Deliveries Wallets

/-- Whether a resolution that is not interrupted refunds the buyer, pays the seller
and charges the driver, given Stripe's answer to the refund. -/
def Db.resolvable (s : Db) (r : Delivery) (row : Order) (me : Nat) (stripe : Answer) : Bool :=
  s.refundable row stripe &&
    (0 < row.sellerEarningsCents &&
      s.creditable (generateUlid me 9) row.id row.sellerId .orderEarning) &&
    r.driverId.any fun driver => 0 < row.buyerTotalCents &&
      s.creditable (generateUlid me 10) row.id driver .driverDebt

/-- Between two states, the buyer was refunded once, the seller paid once and the
driver charged once. -/
structure ResolvedOnce (r : Delivery) (row : Order) (s s' : Db) : Prop where
  refunded : s'.refundsOf row.id = s.refundsOf row.id + 1
  sellerPaid : s'.availableOf row.id row.sellerId .orderEarning =
    s.availableOf row.id row.sellerId .orderEarning + 1
  driverCharged : ∃ driver ∈ r.driverId, s'.availableOf row.id driver .driverDebt =
    s.availableOf row.id driver .driverDebt + 1

section

variable {cfg : Config} {me : Nat} {s s' : Db} {d : DeliveryId} {r : Delivery} {row : Order}
  {w : Nat → Answer} {n : Nat}

/-! ## The statements of the resolution -/

/-- The driver is charged and excluded. -/
def chargeDriver (me : Nat) (order : Order) (d : DeliveryId) (driver : Option UserId) :
    Handler Unit :=
  match driver with
  | none => return ()
  | some driver => do
    try
      Wallets.recordDriverDebt me order.id driver order.buyerTotalCents
    catch _ =>
      pure ()
    try
      Strikes.immediateExclude me driver .driver .driverDisappearedAfterPickup .delivery d order.id
    catch _ =>
      pure ()

/-- What follows the transaction. -/
def afterDriverDisappeared (me : Nat) (order : Order) (d : DeliveryId) (driver : Option UserId) :
    Handler Unit := do
  await (.reverseDriverEarning order.id) fun _ => reverseDriverEarning order.id
  refundOrderIfNeeded order.id
  Wallets.creditSellerEarning me order.id order.sellerId order.sellerEarningsCents
  chargeDriver me order d driver

theorem resolveDriverDisappeared_eq {driver : Option UserId} :
    resolveDriverDisappeared me row d driver = (do
      await (.driverDisappeared d row.id) fun _ => driverDisappearedTx row.id d
      afterDriverDisappeared me row d driver) := by
  cases driver with
  | none => rfl
  | some driver => rfl

/-- Neither refunds nor entries change. -/
structure SameMoney (s s' : Db) : Prop where
  refunds : s'.refunds = s.refunds
  walletEntries : s'.walletEntries = s.walletEntries

theorem SameMoney.refl (s : Db) : SameMoney s s := ⟨rfl, rfl⟩

theorem SameMoney.trans {a b c : Db} (h₁ : SameMoney a b) (h₂ : SameMoney b c) : SameMoney a c :=
  ⟨h₂.refunds.trans h₁.refunds, h₂.walletEntries.trans h₁.walletEntries⟩

theorem SameMoney.refundsOf (hsame : SameMoney s s') (o : OrderId) : s'.refundsOf o = s.refundsOf o := by
  rw [Db.refundsOf, hsame.refunds, ← Db.refundsOf]

theorem SameMoney.availableOf (hsame : SameMoney s s') (o : OrderId) (u : UserId)
    (type : WalletEntryType) : s'.availableOf o u type = s.availableOf o u type := by
  rw [Db.availableOf, hsame.walletEntries, ← Db.availableOf]

/-- The driver is excluded, if possible. -/
def excludeDriver (me : Nat) (order : Order) (d : DeliveryId) (driver : UserId) : Handler Unit := do
  try
    Strikes.immediateExclude me driver .driver .driverDisappearedAfterPickup .delivery d order.id
  catch _ =>
    pure ()

theorem excludeDriver_money {driver : UserId} :
    SameMoney s ((excludeDriver me row d driver).crash w n s) := by
  have hpaper : Free (paperworkContract Eq) (excludeDriver me row d driver) :=
    free_tryCatch (free_bind addStrike_paperwork fun _ => suspendUser_paperwork) fun _ => free_pure
  have hfree : Free (movesContract SameMoney) (excludeDriver me row d driver) := fun h s =>
    (hpaper h s).mono (fun _ _ hR => hR) (fun _ _ _ _ hg => ⟨hg.2.refunds, hg.2.walletEntries⟩)
      fun _ _ _ hQ => hQ
  exact hfree.crash .refl fun _ _ _ => .trans

/-- The driver is charged by the first step, unless there is no debt to book. -/
theorem chargeDriver_crash (me : Nat) (row : Order) (d : DeliveryId) (driver : Option UserId)
    (w : Nat → Answer) (n : Nat) (s : Db) :
    let s' := (chargeDriver me row d driver).crash w n s
    s'.refundsOf row.id = s.refundsOf row.id ∧
      s'.availableOf row.id row.sellerId .orderEarning = s.availableOf row.id row.sellerId .orderEarning ∧
      ∀ u ∈ driver, s'.availableOf row.id u .driverDebt = s.availableOf row.id u .driverDebt +
        (0 < n && 0 < row.buyerTotalCents &&
          s.creditable (generateUlid me 10) row.id u .driverDebt : Bool).toNat := by
  intro s'
  cases driver with
  | none =>
    have hs' : s' = s := crash_done
    rw [hs']
    exact ⟨rfl, rfl, nofun⟩
  | some driver =>
    have hcharge : chargeDriver me row d (some driver) = (do
        tryCatch (recordDriverDebt me row.id driver row.buyerTotalCents) fun _ => pure ()
        excludeDriver me row d driver) := rfl
    by_cases hpos : row.buyerTotalCents ≤ 0
    · -- no debt to book
      have hs' : s' = (excludeDriver me row d driver).crash w n s := by
        show (chargeDriver me row d (some driver)).crash w n s = _
        rw [hcharge, recordDriverDebt, if_pos hpos]
        rfl
      have hsame : SameMoney s s' := hs' ▸ excludeDriver_money
      refine ⟨hsame.refundsOf _, hsame.availableOf .., ?_⟩
      rintro u -
      have hno : decide (0 < row.buyerTotalCents) = false := by simpa using hpos
      rw [hsame.availableOf, hno, Bool.and_false, Bool.false_and]
      rfl
    · cases n with
      | zero =>
        have hs' : s' = s := crash_zero
        rw [hs']
        refine ⟨rfl, rfl, ?_⟩
        rintro u -
        rfl
      | succ n =>
        let entry := newEntry (generateUlid me 10) (.user driver) row.id .driverDebt
          (-row.buyerTotalCents) .available (some s.now) (some .driverDisappearedRefundDeduction)
        let charged : Db :=
          { s with walletEntries := insertSkippingDuplicate s.walletEntries entry }
        have hdebt : (recordDriverDebt me row.id driver row.buyerTotalCents).exec w s =
            ⟨.ok (), charged, [⟨.driverDebt row.id, s, charged⟩]⟩ := by
          rw [recordDriverDebt, if_neg hpos]
          exact exec_await_ok rfl
        have hs' : s' = (excludeDriver me row d driver).crash (fun m => w (m + 1)) n charged := by
          show (chargeDriver me row d (some driver)).crash w (n + 1) s = _
          rw [hcharge, crash_bind_of_exec (exec_tryCatch_of_ok hdebt) (Nat.le_add_left 1 n)]
          rfl
        have hsame : SameMoney charged s' := hs' ▸ excludeDriver_money
        obtain ⟨hbooked, hother, -⟩ := credit_books (s := s) (e := entry) rfl rfl rfl rfl
        refine ⟨hsame.refundsOf _, ?_, fun u hu => ?_⟩
        · exact (hsame.availableOf ..).trans (hother row.id row.sellerId .orderEarning nofun)
        · obtain rfl : driver = u := Option.some.inj hu
          have hyes : decide (0 < row.buyerTotalCents) = true := by simpa using hpos
          rw [hsame.availableOf, hyes, decide_eq_true (Nat.succ_pos n)]
          exact hbooked

/-- The seller is paid by the one step there is, unless there is nothing to pay. -/
structure SellerPaid (me : Nat) (s : Db) (row : Order) (paid : Bool) (out : Outcome machine Unit) :
    Prop where
  result : out.result = .ok ()
  refunds : out.state.refundsOf row.id = s.refundsOf row.id
  earnings : out.state.availableOf row.id row.sellerId .orderEarning =
    s.availableOf row.id row.sellerId .orderEarning + paid.toNat
  debts : ∀ u, out.state.availableOf row.id u .driverDebt = s.availableOf row.id u .driverDebt
  creditable : ∀ u, out.state.creditable (generateUlid me 10) row.id u .driverDebt =
    s.creditable (generateUlid me 10) row.id u .driverDebt
  length : if paid then out.steps.length = 1 else out.steps.length ≤ 1

theorem creditSellerEarning_books (me : Nat) (row : Order) (w : Nat → Answer) (s : Db) :
    SellerPaid me s row (0 < row.sellerEarningsCents &&
      s.creditable (generateUlid me 9) row.id row.sellerId .orderEarning)
      ((creditSellerEarning me row.id row.sellerId row.sellerEarningsCents).exec w s) := by
  by_cases hpos : row.sellerEarningsCents ≤ 0
  · have hno : decide (0 < row.sellerEarningsCents) = false := by simpa using hpos
    rw [creditSellerEarning, if_pos hpos, hno, Bool.false_and]
    exact ⟨rfl, rfl, rfl, fun _ => rfl, fun _ => rfl, Nat.zero_le 1⟩
  · let entry := newEntry (generateUlid me 9) (.user row.sellerId) row.id .orderEarning
      row.sellerEarningsCents .available (some s.now) (some .driverDisappearedSellerPaid)
    let paid : Db := { s with walletEntries := insertSkippingDuplicate s.walletEntries entry }
    have hcredit : (creditSellerEarning me row.id row.sellerId row.sellerEarningsCents).exec w s =
        ⟨.ok (), paid, [⟨.creditSeller row.id, s, paid⟩]⟩ := by
      rw [creditSellerEarning, if_neg hpos]
      exact exec_await_ok rfl
    obtain ⟨hbooked, hother, hcan⟩ := credit_books (s := s) (e := entry) rfl rfl rfl rfl
    have hyes : decide (0 < row.sellerEarningsCents) = true := by simpa using hpos
    rw [hcredit, hyes, Bool.true_and]
    refine ⟨rfl, rfl, hbooked, fun u => hother row.id u .driverDebt nofun, fun u => ?_, ?_⟩
    · -- the driver's debt has an id and a type of its own: this credit cannot block it
      refine hcan (generateUlid me 10) row.id u .driverDebt ?_ nofun
      intro hid
      have hseq : (10 : Nat) = 9 := congrArg Ulid.seq hid
      omega
    split
    · rfl
    · exact Nat.le_refl 1

/-! ## A crash of the resolution -/

theorem toNat_eq_one {b : Bool} : b.toNat = 1 ↔ b = true := by
  cases b with
  | false => exact ⟨nofun, nofun⟩
  | true => exact ⟨fun _ => rfl, fun _ => rfl⟩

theorem resolvable_iff {stripe : Answer} : s.resolvable r row me stripe = true ↔
    s.refundable row stripe = true ∧
      (0 < row.sellerEarningsCents &&
        s.creditable (generateUlid me 9) row.id row.sellerId .orderEarning) = true ∧
      ∃ driver ∈ r.driverId, (0 < row.buyerTotalCents &&
        s.creditable (generateUlid me 10) row.id driver .driverDebt) = true := by
  rw [Db.resolvable, Bool.and_eq_true, Bool.and_eq_true, Option.any_eq_true, and_assoc]
  rfl

/-- The seller was paid once and the driver charged once. -/
def PaidAndCharged (r : Delivery) (row : Order) (s s' : Db) : Prop :=
  s'.availableOf row.id row.sellerId .orderEarning =
      s.availableOf row.id row.sellerId .orderEarning + 1 ∧
    ∃ driver ∈ r.driverId, s'.availableOf row.id driver .driverDebt =
      s.availableOf row.id driver .driverDebt + 1

/-- Nobody is charged while the debts stay. -/
theorem not_charged
    (hdebts : ∀ u, s'.availableOf row.id u .driverDebt = s.availableOf row.id u .driverDebt) :
    ¬PaidAndCharged r row s s' := by
  rintro ⟨-, driver, -, hcharged⟩
  rw [hdebts] at hcharged
  omega

theorem SameCredits.paidAndCharged {t : Db} (hsame : SameCredits s s') :
    PaidAndCharged r row s' t ↔ PaidAndCharged r row s t := by
  unfold PaidAndCharged
  simp only [hsame.available]

theorem resolvedOnce_iff : ResolvedOnce r row s s' ↔
    s'.refundsOf row.id = s.refundsOf row.id + 1 ∧ PaidAndCharged r row s s' :=
  ⟨fun h => ⟨h.refunded, h.sellerPaid, h.driverCharged⟩, fun h => ⟨h.1, h.2.1, h.2.2⟩⟩

/-- A crash of the payment and the debt. -/
theorem payAndCharge_crash {s' : Db}
    (hs' : s' = (creditSellerEarning me row.id row.sellerId row.sellerEarningsCents >>= fun _ =>
      chargeDriver me row d r.driverId).crash w n s) :
    s'.refundsOf row.id = s.refundsOf row.id ∧
      (PaidAndCharged r row s s' ↔ 2 ≤ n ∧
        (0 < row.sellerEarningsCents &&
          s.creditable (generateUlid me 9) row.id row.sellerId .orderEarning) = true ∧
        ∃ driver ∈ r.driverId, (0 < row.buyerTotalCents &&
          s.creditable (generateUlid me 10) row.id driver .driverDebt) = true) := by
  have hpay := creditSellerEarning_books me row w s
  generalize hout : (creditSellerEarning me row.id row.sellerId row.sellerEarningsCents).exec w s =
    out at hpay
  have hlength : (creditSellerEarning me row.id row.sellerId row.sellerEarningsCents).length w s =
      out.steps.length := by rw [length, hout]
  have hatmost : out.steps.length ≤ 1 := by
    have hlen := hpay.length
    split at hlen
    · exact Nat.le_of_eq hlen
    · exact hlen
  rcases Nat.lt_or_ge out.steps.length n with hn | hn
  · -- the payment is over
    have hs₂ : s' = (chargeDriver me row d r.driverId).crash (fun m => w (m + out.steps.length))
        (n - out.steps.length) out.state := by
      rw [hs', crash_bind_of_ge (hout ▸ hpay.result) (hlength ▸ Nat.le_of_lt hn), hlength, hout]
    obtain ⟨hrefunds, hearnings, hdebts⟩ := chargeDriver_crash me row d r.driverId
      (fun m => w (m + out.steps.length)) (n - out.steps.length) out.state
    rw [← hs₂] at hrefunds hearnings hdebts
    have hpos : decide (0 < n - out.steps.length) = true := by
      rw [decide_eq_true_eq]
      omega
    have hcharged : ∀ u ∈ r.driverId, s'.availableOf row.id u .driverDebt =
        s.availableOf row.id u .driverDebt + (0 < row.buyerTotalCents &&
          s.creditable (generateUlid me 10) row.id u .driverDebt : Bool).toNat := by
      intro u hu
      rw [hdebts u hu, hpay.debts, hpay.creditable, hpos, Bool.true_and]
    rw [hpay.earnings] at hearnings
    refine ⟨hrefunds.trans hpay.refunds, ?_⟩
    constructor
    · rintro ⟨hpaid, u, hu, hdebt⟩
      have hyes : (0 < row.sellerEarningsCents &&
          s.creditable (generateUlid me 9) row.id row.sellerId .orderEarning) = true := by
        rw [← toNat_eq_one]
        omega
      have hlen := hpay.length
      rw [hyes, if_pos rfl] at hlen
      rw [hcharged u hu] at hdebt
      exact ⟨by omega, hyes, u, hu, toNat_eq_one.mp (by omega)⟩
    · rintro ⟨-, hyes, u, hu, hdebt⟩
      refine ⟨?_, u, hu, ?_⟩
      · rw [hearnings, hyes]
        rfl
      · rw [hcharged u hu, hdebt]
        rfl
  · -- the driver is not charged yet
    have hs₁ : s' = s ∨ s' = out.state := by
      rw [hs', crash_bind_of_le (hlength ▸ hn)]
      cases n with
      | zero => exact .inl crash_zero
      | succ n =>
        right
        rw [crash_of_length_le (by omega), hout]
    have hsame : s'.refundsOf row.id = s.refundsOf row.id ∧
        ∀ u, s'.availableOf row.id u .driverDebt = s.availableOf row.id u .driverDebt := by
      rcases hs₁ with rfl | rfl
      · exact ⟨rfl, fun _ => rfl⟩
      · exact ⟨hpay.refunds, hpay.debts⟩
    exact ⟨hsame.1, iff_of_false (not_charged hsame.2) fun h => absurd h.1 (by omega)⟩

/-- The crash of what follows the transaction. -/
theorem afterDriverDisappeared_crash {row' : Order} (hrow : s.orders.find? row.id = some row')
    (hrefund : row'.stripeRefundId = row.stripeRefundId)
    (hpi : row'.stripePaymentIntentId = row.stripePaymentIntentId) :
    ResolvedOnce r row s ((afterDriverDisappeared me row d r.driverId).crash w n s) ↔
      7 ≤ n ∧ s.resolvable r row me (w 2) = true := by
  unfold afterDriverDisappeared
  -- the driver's pending earning
  cases n with
  | zero =>
    rw [crash_zero, resolvedOnce_iff]
    exact iff_of_false (fun h => not_charged (fun _ => rfl) h.2) fun hn => absurd hn.1 (by omega)
  | succ n =>
    let s₀ : Db := { s with
      walletEntries := s.walletEntries.updateMany (fun e => e.orderId = some row.id &&
        e.type = .deliveryEarning && e.status = .pending) fun e => { e with status := .cancelled } }
    have hreverse : (await (M := machine) (.reverseDriverEarning row.id) fun _ =>
        reverseDriverEarning row.id).exec w s =
          ⟨.ok (), s₀, [⟨.reverseDriverEarning row.id, s, s₀⟩]⟩ := exec_await_ok rfl
    have hcredits : SameCredits s s₀ := .reverse fun e he =>
      of_decide_eq_true (Bool.and_eq_true_iff.mp he).2
    rw [crash_bind_of_exec hreverse (Nat.le_add_left 1 n)]
    show ResolvedOnce r row s ((refundOrderIfNeeded row.id >>= fun _ =>
      creditSellerEarning me row.id row.sellerId row.sellerEarningsCents >>= fun _ =>
        chargeDriver me row d r.driverId).crash (fun m => w (m + 1)) n s₀) ↔ _
    -- the refund
    have hrefunded : RefundDone s₀ row.id (s.refundable row (w 2))
        ((refundOrderIfNeeded row.id).exec (fun m => w (m + 1)) s₀) := by
      have hsame : s.refundable row (w 2) = s₀.refundable row' (w 2) := by
        simp only [Db.refundable, hrefund, hpi]
        rfl
      have hrow₀ : s₀.orders.find? row.id = some row' := hrow
      rw [hsame]
      exact refundOrderIfNeeded_books (w := fun m => w (m + 1)) hrow₀
    have hcrash : SameCredits s ((refundOrderIfNeeded row.id).crash (fun m => w (m + 1)) n s₀) :=
      hcredits.trans (refundOrderIfNeeded_credits.crash .refl fun _ _ _ => .trans)
    have hdone : SameCredits s ((refundOrderIfNeeded row.id).exec (fun m => w (m + 1)) s₀).state :=
      hcredits.trans (refundOrderIfNeeded_credits.moves .refl fun _ _ _ => .trans)
    have hlength : (refundOrderIfNeeded row.id).length (fun m => w (m + 1)) s₀ =
        ((refundOrderIfNeeded row.id).exec (fun m => w (m + 1)) s₀).steps.length := rfl
    generalize hout : (refundOrderIfNeeded row.id).exec (fun m => w (m + 1)) s₀ = out
      at hrefunded hdone hlength
    have hatmost : out.steps.length ≤ 4 := by
      have hlen := hrefunded.length
      split at hlen
      · exact Nat.le_of_eq hlen
      · omega
    rw [resolvedOnce_iff, resolvable_iff]
    rcases Nat.lt_or_ge out.steps.length n with hn | hn
    · -- the refund is over
      rw [crash_bind_of_ge (hout ▸ hrefunded.result) (hlength ▸ Nat.le_of_lt hn), hlength, hout]
      obtain ⟨hrefunds, hpaid⟩ := payAndCharge_crash (s := out.state) (r := r) rfl
      rw [hdone.paidAndCharged, hdone.creditable] at hpaid
      simp only [hdone.creditable] at hpaid
      rw [hrefunds, hrefunded.refunds, hpaid]
      have hsame : s₀.refundsOf row.id = s.refundsOf row.id := rfl
      constructor
      · rintro ⟨hone, htwo, hcan⟩
        have hyes : s.refundable row (w 2) = true := by
          rw [← toNat_eq_one]
          omega
        have hlen := hrefunded.length
        rw [hyes, if_pos rfl] at hlen
        exact ⟨by omega, hyes, hcan⟩
      · rintro ⟨hseven, hyes, hcan⟩
        have hlen := hrefunded.length
        rw [hyes, if_pos rfl] at hlen
        rw [hsame, hyes]
        exact ⟨rfl, by omega, hcan⟩
    · rw [crash_bind_of_le (hlength ▸ hn)]
      refine iff_of_false (fun h => ?_) fun h => absurd h.1 (by omega)
      exact not_charged (fun u => hcrash.available _ _ _) h.2

/-! ## A crash of the watchdog -/

/-- The watchdog reads the delivery and the order, and resolves. -/
theorem handleDriverDeliveryTimeout_crash (hr : s.deliveries.find? d = some r)
    (hrow : s.orders.find? r.orderId = some row)
    (htriggers : s.triggers (.handleDriverDeliveryTimeout d) = true) :
    (n ≤ 2 → (handleDriverDeliveryTimeout me d).crash w n s = s) ∧
      (handleDriverDeliveryTimeout me d).crash w (n + 2) s =
        (resolveDriverDisappeared me row d r.driverId).crash (fun m => w (m + 2)) n s := by
  obtain ⟨r₁, row₁, hr₁, hrow₁, hlive, hpicked, hopen, habsent, hstatus⟩ :=
    triggers_driverDelivery.mp htriggers
  obtain rfl : r = r₁ := Option.some.inj (hr.symm.trans hr₁)
  obtain rfl : row = row₁ := Option.some.inj (hrow.symm.trans hrow₁)
  simp only [List.mem_cons, List.not_mem_nil, or_false, not_or] at hlive
  obtain ⟨rest, hreads, hrest⟩ : ∃ rest : Option Order → Handler Unit,
      (∀ n, (handleDriverDeliveryTimeout me d).crash w (n + 1) s =
        (read (M := machine) .query (fun db => db.orders.find? r.orderId) >>= rest).crash
          (fun m => w (m + 1)) n s) ∧
      rest (some row) = resolveDriverDisappeared me row d r.driverId := by
    apply Exists.intro
    apply And.intro
    · intro n
      unfold handleDriverDeliveryTimeout
      rw [crash_read_bind, hr]
      dsimp only
      rw [if_neg (by simp [hlive.1, hopen, habsent]), if_neg (by simp [hlive.2.1, hlive.2.2])]
      exact congrArg (fun p : Handler Unit => p.crash (fun m => w (m + 1)) n s) (if_neg hpicked)
    · exact if_neg (not_not.mpr hstatus)
  constructor
  · intro hn
    cases n with
    | zero => exact crash_zero
    | succ n =>
      rw [hreads]
      cases n with
      | zero => exact crash_zero
      | succ n =>
        obtain rfl : n = 0 := by omega
        rw [crash_read_bind, crash_zero]
  · rw [hreads, crash_read_bind, hrow, hrest]

theorem driverDisappearedTx_ok {o : OrderId} {u : Unit}
    (hrun : driverDisappearedTx o d s = .ok (u, s')) :
    ∃ deliveries orders, s' = { s with deliveries, orders } ∧ ∀ row, s.orders.find? o = some row →
      orders.find? o = some (Orders.Order.cancel s.now .driverDisappeared row) := by
  simp only [driverDisappearedTx, Stmt.bind_ok, Stmt.get_ok, updateDelivery_ok, updateOrder_ok] at hrun
  obtain ⟨_, _, ⟨rfl, rfl⟩, _, _, ⟨-, rfl⟩, -, rfl⟩ := hrun
  exact ⟨_, _, rfl, fun row hrow => Table.find?_update_of_eq hrow⟩

/-- What is left of a crash: nothing happened, or the delivery has failed and the
rest is cut short. -/
theorem timeout_crash (cfg : Config) (me : Nat) (w : Nat → Answer) (n : Nat)
    (hr : s.deliveries.find? d = some r)
    (hrow : s.orders.find? r.orderId = some row)
    (htriggers : s.triggers (.handleDriverDeliveryTimeout d) = true) :
    let s' := (handle cfg me (.handleDriverDeliveryTimeout d)).crash w n s
    (n ≤ 2 → s' = s) ∧
      (2 < n → s'.triggers (.handleDriverDeliveryTimeout d) = false) ∧
      (ResolvedOnce r row s s' ↔ 10 ≤ n ∧ s.resolvable r row me (w 5) = true) := by
  intro s'
  have hs' : s' = (handleDriverDeliveryTimeout me d).crash w n s := crash_bind_pure
  -- the first two steps are reads; the third fails the delivery and cancels the
  -- order, and from there the watchdog does not fire again
  rcases Nat.lt_or_ge 2 n with hn | hn
  · obtain ⟨n, rfl⟩ : ∃ m, n = m + 3 := ⟨n - 3, by omega⟩
    have hid : row.id = r.orderId := Table.key_of_find? hrow
    obtain ⟨⟨u, s₁⟩, htx⟩ := driverDisappearedTx_total hr (hid ▸ hrow : s.orders.find? row.id = some row)
    have hexec : (await (M := machine) (.driverDisappeared d row.id) fun _ =>
        driverDisappearedTx row.id d).exec (fun m => w (m + 2)) s =
          ⟨.ok u, s₁, [⟨.driverDisappeared d row.id, s, s₁⟩]⟩ := exec_await_ok htx
    rw [(handleDriverDeliveryTimeout_crash hr hrow htriggers).2, resolveDriverDisappeared_eq,
      crash_bind_of_exec hexec (Nat.le_add_left 1 n)] at hs'
    obtain ⟨r₁, hr₁, hfailed⟩ := driverDisappearedTx_failed htx
    refine ⟨fun h => absurd h (by omega), fun _ => ?_, ?_⟩
    · have hquiet : Quiet s₁ s' := by
        rw [hs']
        exact Free.crash .refl (fun _ _ _ => .trans) afterDriverDisappeared_quiet
      exact not_triggers_of_failed (hquiet.deliveries ▸ hr₁) hfailed
    · obtain ⟨deliveries, orders, rfl, hcancelled⟩ := driverDisappearedTx_ok htx
      have hafter : ResolvedOnce r row ({ s with deliveries, orders } : Db) s' ↔
          7 ≤ n ∧ s.resolvable r row me (w 5) = true := by
        rw [hs']
        exact afterDriverDisappeared_crash (hcancelled row (hid ▸ hrow)) rfl rfl
      rw [resolvedOnce_iff] at hafter ⊢
      refine Iff.trans hafter (and_congr_left' ?_)
      omega
  · rw [(handleDriverDeliveryTimeout_crash (n := n) hr hrow htriggers).1 hn] at hs'
    refine ⟨fun _ => hs', fun h => absurd h (by omega), ?_⟩
    rw [hs', resolvedOnce_iff]
    exact iff_of_false (fun h => not_charged (fun _ => rfl) h.2) fun h => absurd h.1 (by omega)

theorem SameBooks.money (hsame : SameBooks s s') : SameMoney s s' :=
  ⟨hsame.refunds, hsame.walletEntries⟩

theorem SameMoney.resolvedOnce {t : Db} (hsame : SameMoney s s') :
    (ResolvedOnce r row s t ↔ ResolvedOnce r row s' t) ∧
      (ResolvedOnce r row t s ↔ ResolvedOnce r row t s') := by
  constructor
  · simp only [resolvedOnce_iff, PaidAndCharged, hsame.refundsOf, hsame.availableOf]
  · simp only [resolvedOnce_iff, PaidAndCharged, hsame.refundsOf, hsame.availableOf]

end

/-- **When the resolution can be resumed.** From every state in which the watchdog is
triggered, after a crash at any of its steps and a second run some time later, the
buyer was refunded once, the seller paid once and the driver charged once exactly
when the crash came before the transaction (the third step) and the second run can
do all three, or after the debt was booked (the tenth step) and the first run could. -/
theorem disappearance_resumed_iff (cfg : Config) (s : Db) (d : DeliveryId) (r : Delivery)
    (row : Order) (hr : s.deliveries.find? d = some r) (hrow : s.orders.find? r.orderId = some row)
    (htriggers : s.triggers (.handleDriverDeliveryTimeout d) = true) (me me' : Nat)
    (w w' : Nat → Answer) (k : Nat) (events : List Event) :
    let later := fun s : Db => events.foldl (fun s e => applyEvent e s) s
    let crashed := (handle cfg me (.handleDriverDeliveryTimeout d)).crash w k s
    ResolvedOnce r row s
        ((handle cfg me' (.handleDriverDeliveryTimeout d)).exec w' (later crashed)).state ↔
      k ≤ 2 ∧ (later s).resolvable r row me' (w' 5) = true ∨
        10 ≤ k ∧ s.resolvable r row me (w 5) = true := by
  intro later crashed
  obtain ⟨hearly, hlate, hcrashed⟩ : (k ≤ 2 → crashed = s) ∧
      (2 < k → Db.triggers crashed (.handleDriverDeliveryTimeout d) = false) ∧
      (ResolvedOnce r row s crashed ↔ 10 ≤ k ∧ s.resolvable r row me (w 5) = true) :=
    timeout_crash cfg me w k hr hrow htriggers
  rcases Nat.lt_or_ge 2 k with hk | hk
  · -- the second run finds nothing to do
    obtain ⟨hbooks, hsame⟩ : SameBooks crashed (later crashed) ∧
        Db.triggers (later crashed) (.handleDriverDeliveryTimeout d) =
          Db.triggers crashed (.handleDriverDeliveryTimeout d) :=
      events_between events (.refl crashed)
    have hidle : ((handle cfg me' (.handleDriverDeliveryTimeout d)).exec w' (later crashed)).state =
        later crashed := watchdog_idle rfl (hsame.trans (hlate hk)) w'
    rw [hidle, ← hbooks.money.resolvedOnce.2, hcrashed]
    exact ⟨.inr, fun h => h.resolve_left fun h => absurd h.1 (by omega)⟩
  · -- the second run is the first
    rw [hearly hk]
    obtain ⟨hbooks, hsame⟩ : SameBooks s (later s) ∧
        (later s).triggers (.handleDriverDeliveryTimeout d) =
          s.triggers (.handleDriverDeliveryTimeout d) :=
      events_between events (.refl s)
    let run := handle cfg me' (.handleDriverDeliveryTimeout d)
    have hwhole : (run.exec w' (later s)).state =
        run.crash w' (10 + run.length w' (later s)) (later s) :=
      (crash_of_length_le (Nat.le_add_left ..)).symm
    have hagain := (timeout_crash cfg me' w' (10 + run.length w' (later s))
      (hbooks.deliveries ▸ hr) (hbooks.orders ▸ hrow) (hsame.trans htriggers)).2.2
    rw [hbooks.money.resolvedOnce.1, hwhole]
    refine Iff.trans hagain ⟨fun h => .inl ⟨hk, h.2⟩, fun h => ?_⟩
    rcases h with h | h
    · exact ⟨Nat.le_add_right .., h.2⟩
    · exact absurd h.1 (by omega)

/-- The order of the small marketplace, on its way to the buyer. -/
def pickedUpTown : Db := (serialRun smallTown orderPickedUp).state

/-- Every answer is yes. -/
def allGoesWell : Nat → Answer := fun _ => ⟨true, "token", ""⟩

/-- The process dies while the driver is being excluded. -/
theorem disappearance_resumed :
    ∃ r row, pickedUpTown.deliveries.find? ⟨3, 2⟩ = some r ∧
      ResolvedOnce r row pickedUpTown
        ((handle smallTownConfig 7 (.handleDriverDeliveryTimeout ⟨3, 2⟩)).exec allGoesWell
          ((handle smallTownConfig 6 (.handleDriverDeliveryTimeout ⟨3, 2⟩)).crash allGoesWell 10
            pickedUpTown)).state :=
  ⟨(pickedUpTown.deliveries.find? ⟨3, 2⟩).get (by decide +kernel),
    (pickedUpTown.orders.find? ⟨0, 0⟩).get (by decide +kernel), (Option.some_get _).symm,
    (disappearance_resumed_iff smallTownConfig pickedUpTown ⟨3, 2⟩ _ _ (Option.some_get _).symm
      (by decide +kernel) (by decide +kernel) 6 7 allGoesWell allGoesWell 10 []).mpr
      (.inr ⟨Nat.le_refl 10, by decide +kernel⟩)⟩

/-- **Not resumed.** The process dies before the refund, and the buyer is never
refunded. -/
theorem disappearance_not_resumed :
    ¬∀ (cfg : Config) (s : Db) (d : DeliveryId) (r : Delivery) (row : Order),
      s.deliveries.find? d = some r → s.orders.find? r.orderId = some row →
      s.triggers (.handleDriverDeliveryTimeout d) = true →
      ∀ (me me' : Nat) (w w' : Nat → Answer) (k : Nat),
        s.resolvable r row me (w 5) = true → s.resolvable r row me' (w' 5) = true →
        ResolvedOnce r row s
          ((handle cfg me' (.handleDriverDeliveryTimeout d)).exec w'
            ((handle cfg me (.handleDriverDeliveryTimeout d)).crash w k s)).state := by
  intro hclaim
  have hresolved := hclaim smallTownConfig pickedUpTown ⟨3, 2⟩
    ((pickedUpTown.deliveries.find? ⟨3, 2⟩).get (by decide +kernel))
    ((pickedUpTown.orders.find? ⟨0, 0⟩).get (by decide +kernel)) (Option.some_get _).symm
    (by decide +kernel) (by decide +kernel) 6 7 allGoesWell allGoesWell 4 (by decide +kernel)
    (by decide +kernel)
  exact absurd hresolved.refunded (by decide +kernel)

end IncaCook
