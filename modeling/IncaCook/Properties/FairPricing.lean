import IncaCook.Model.Pricing
import Mathlib.Data.Rat.Floor

/-!
# Fair prices

`priceOrder` as a function of the subtotal. Rounding half up is monotone and
commutes with whole steps, so a rounded share of at most the whole never grows by
more than the subtotal does; a larger cart then never earns anybody less, and the
better tier never earns the seller less.

Main results:

* `mathRound_eq_round`: `Math.round` of the exact quotient rounds half up;
* `priceOrder_fair`: the monotonicity of the split, and its fairness across tiers.
-/

namespace IncaCook

namespace Pricing

/-! ## Rounding -/

/-- Rounding half up, as a fact about the exact quotient. -/
theorem mathRound_eq_round (n : Int) {d : Nat} (hd : 0 < d) :
    mathRound n d = round ((n : ℚ) / d) := by
  have hq : (d : ℚ) ≠ 0 := by
    exact_mod_cast hd.ne'
  have hsum : (n : ℚ) / d + 1 / 2 = ((2 * n + d : Int) : ℚ) / ((2 * d : Nat) : ℚ) := by
    push_cast
    field_simp
  rw [round_eq, hsum, Rat.floor_intCast_div_natCast]
  rfl

theorem mathRound_mono {m n d : Int} (hd : 0 < d) (h : m ≤ n) : mathRound m d ≤ mathRound n d := by
  unfold mathRound
  apply Int.ediv_le_ediv
  · omega
  · omega

/-- Whole steps pass through the rounding. -/
theorem mathRound_add_mul (n k : Int) {d : Int} (hd : 0 < d) :
    mathRound (n + k * d) d = mathRound n d + k := by
  have hsplit : 2 * (n + k * d) + d = 2 * n + d + k * (2 * d) := by
    ring
  have hne : (2 : Int) * d ≠ 0 := by
    omega
  unfold mathRound
  rw [hsplit, Int.add_mul_ediv_right _ _ hne]

/-- A rounded share of at most the whole grows by at most what the whole grows. -/
theorem mathRound_share_gain {s t rate : Int} (hst : s ≤ t) (hrate : rate ≤ 10000) :
    mathRound (t * rate) 10000 ≤ mathRound (s * rate) 10000 + (t - s) := by
  have hgain : (t - s) * rate ≤ (t - s) * 10000 :=
    Int.mul_le_mul_of_nonneg_left hrate (Int.sub_nonneg_of_le hst)
  calc mathRound (t * rate) 10000
      = mathRound (s * rate + (t - s) * rate) 10000 := by
        rw [← Int.add_mul, add_sub_cancel]
    _ ≤ mathRound (s * rate + (t - s) * 10000) 10000 :=
        mathRound_mono (by decide) (Int.add_le_add_left hgain _)
    _ = mathRound (s * rate) 10000 + (t - s) := mathRound_add_mul _ _ (by decide)

/-! ## The parts of the split -/

/-- The rate of a tier. -/
def tierRate (isPremium : Bool) : Int :=
  if isPremium then commissionRateBpsPremium else commissionRateBpsStandard

/-- Both tiers take a share of the dishes, and premium the smaller one. -/
theorem tierRate_share (isPremium : Bool) : 0 ≤ tierRate isPremium ∧ tierRate isPremium ≤ 10000 := by
  cases isPremium
  · decide
  · decide

/-- The seller's commission on a subtotal. -/
def commissionOn (isPremium : Bool) (subtotal : Cents) : Cents :=
  max (mathRound (subtotal * tierRate isPremium) 10000) commissionMinCents

/-- What the platform charges the buyer on top. -/
def platformFeeOn (cfg : Config) (fee subtotal : Cents) : Cents :=
  mathRound ((subtotal + fee) * cfg.platformBuyerFeeBps) 10000

theorem commissionOn_mono (isPremium : Bool) {s t : Cents} (hst : s ≤ t) :
    commissionOn isPremium s ≤ commissionOn isPremium t := by
  unfold commissionOn
  apply max_le_max_right
  apply mathRound_mono (by decide)
  exact Int.mul_le_mul_of_nonneg_right hst (tierRate_share isPremium).1

/-- What the commission gains, floor included, is at most what the subtotal gains. -/
theorem sellerEarnings_mono (isPremium : Bool) {s t : Cents} (hst : s ≤ t) :
    s - commissionOn isPremium s ≤ t - commissionOn isPremium t := by
  have hgain := mathRound_share_gain hst (tierRate_share isPremium).2
  have hmax : commissionOn isPremium t ≤ commissionOn isPremium s + (t - s) := by
    apply max_le
    · exact hgain.trans (Int.add_le_add_right (le_max_left _ _) _)
    · exact (le_max_right _ _).trans (le_add_of_nonneg_right (Int.sub_nonneg_of_le hst))
  linarith

/-- Up to a subtotal of its floor, the commission is the floor. -/
theorem commissionOn_floor (isPremium : Bool) {subtotal : Cents} (hle : subtotal ≤ commissionMinCents) :
    commissionOn isPremium subtotal = commissionMinCents := by
  have hfloor : commissionOn isPremium commissionMinCents = commissionMinCents := by
    cases isPremium
    · decide
    · decide
  have hmono : commissionOn isPremium subtotal ≤ commissionMinCents :=
    hfloor ▸ commissionOn_mono isPremium hle
  exact le_antisymm hmono (le_max_right _ _)

/-- From its floor on, the subtotal covers the commission. -/
theorem commissionOn_le (isPremium : Bool) {subtotal : Cents} (hle : commissionMinCents ≤ subtotal) :
    commissionOn isPremium subtotal ≤ subtotal := by
  have hmono := sellerEarnings_mono isPremium hle
  rw [commissionOn_floor isPremium le_rfl, sub_self] at hmono
  exact Int.le_of_sub_nonneg hmono

theorem platformFeeOn_mono (cfg : Config) (fee : Cents) {s t : Cents} (hst : s ≤ t) :
    platformFeeOn cfg fee s ≤ platformFeeOn cfg fee t := by
  apply mathRound_mono (by decide)
  exact Int.mul_le_mul_of_nonneg_right (Int.add_le_add_right hst fee) (Int.natCast_nonneg _)

/-- The premium tier never costs the seller more: its share of the dishes is smaller,
and below zero both tiers pay the floor. -/
theorem premium_commission_le (subtotal : Cents) :
    commissionOn true subtotal ≤ commissionOn false subtotal := by
  rcases Int.le_total 0 subtotal with hpos | hneg
  · apply max_le_max_right
    apply mathRound_mono (by decide)
    exact Int.mul_le_mul_of_nonneg_left (by decide) hpos
  · have hround : mathRound (subtotal * tierRate true) 10000 ≤ 0 := by
      apply mathRound_mono (n := 0) (by decide)
      exact Int.mul_nonpos_of_nonpos_of_nonneg hneg (tierRate_share true).1
    apply max_le (hround.trans ?_) (le_max_right _ _)
    exact (by decide : (0 : Int) ≤ commissionMinCents).trans (le_max_right _ _)

/-! ## The split -/

/-- The split of a subtotal, by its parts. -/
def totalsOf (cfg : Config) (isDelivery isPremium : Bool) (subtotal : Cents) : OrderTotals :=
  let fee : Cents := if isDelivery then cfg.deliveryFeeCents else 0
  { subtotalCents := subtotal
    fulfillmentFeeCents := fee
    commissionRateBps := tierRate isPremium
    commissionCents := commissionOn isPremium subtotal
    sellerEarningsCents := subtotal - commissionOn isPremium subtotal
    platformBuyerFeeCents := platformFeeOn cfg fee subtotal
    buyerTotalCents := subtotal + fee + platformFeeOn cfg fee subtotal }

theorem priceOrder_totalsOf (cfg : Config) (isDelivery isPremium : Bool) (subtotal : Cents) :
    priceOrder cfg subtotal isPremium isDelivery = .ok (totalsOf cfg isDelivery isPremium subtotal) :=
  priceOrder_eq cfg subtotal isPremium isDelivery

/-- **Pricing is monotone and fair across tiers.** For every fee, every buyer-fee
rate and both choices, the split of `priceOrder` is a function of tier and
subtotal of which no part of interest falls as the subtotal grows; and on every
subtotal the premium tier earns the seller at least as much as the standard one,
for the same buyer total. -/
theorem priceOrder_fair (cfg : Config) (isDelivery : Bool) :
    ∃ totals : Bool → Cents → OrderTotals,
      (∀ isPremium subtotal,
        priceOrder cfg subtotal isPremium isDelivery = .ok (totals isPremium subtotal)) ∧
      (∀ isPremium s t, 0 ≤ s → s ≤ t →
        (totals isPremium s).commissionCents ≤ (totals isPremium t).commissionCents ∧
        (totals isPremium s).sellerEarningsCents ≤ (totals isPremium t).sellerEarningsCents ∧
        (totals isPremium s).platformBuyerFeeCents ≤ (totals isPremium t).platformBuyerFeeCents ∧
        (totals isPremium s).buyerTotalCents ≤ (totals isPremium t).buyerTotalCents) ∧
      ∀ subtotal,
        (totals false subtotal).sellerEarningsCents ≤ (totals true subtotal).sellerEarningsCents ∧
        (totals true subtotal).buyerTotalCents = (totals false subtotal).buyerTotalCents := by
  refine ⟨totalsOf cfg isDelivery, ?_, ?_, ?_⟩
  · intro isPremium subtotal
    exact priceOrder_totalsOf cfg isDelivery isPremium subtotal
  · intro isPremium s t _ hst
    have hfee := platformFeeOn_mono cfg (if isDelivery then cfg.deliveryFeeCents else 0) hst
    refine ⟨commissionOn_mono isPremium hst, sellerEarnings_mono isPremium hst, hfee, ?_⟩
    exact Int.add_le_add (Int.add_le_add_right hst _) hfee
  · intro subtotal
    exact ⟨Int.sub_le_sub_left (premium_commission_le subtotal) subtotal, rfl⟩

end Pricing

end IncaCook
