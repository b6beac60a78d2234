import IncaCook.Model.Database

/-!
# Pricing

`priceOrder` of `pricing.constants.ts`: the split of an order's subtotal between
seller, platform and driver, and what the buyer pays. `Math.round` rounds half
up, on the exact quotient.
-/

namespace IncaCook

namespace Pricing

def commissionRateBpsStandard : Int := 3000
def commissionRateBpsPremium : Int := 2500
def commissionMinCents : Cents := 100

/-- `Math.round(n / d)` for a positive `d`. -/
def mathRound (n d : Int) : Int := (2 * n + d) / (2 * d)

structure OrderTotals where
  subtotalCents : Cents
  fulfillmentFeeCents : Cents
  commissionRateBps : Int
  commissionCents : Cents
  sellerEarningsCents : Cents
  platformBuyerFeeCents : Cents
  buyerTotalCents : Cents
  deriving DecidableEq, Repr

/-- The full split of a subtotal. -/
def priceOrder (cfg : Config) (subtotalCents : Cents) (isPremium isDelivery : Bool) :
    Except Err OrderTotals :=
  let fulfillmentFeeCents : Cents := if isDelivery then cfg.deliveryFeeCents else 0
  let commissionRateBps := if isPremium then commissionRateBpsPremium else commissionRateBpsStandard
  let commissionCents := max (mathRound (subtotalCents * commissionRateBps) 10000) commissionMinCents
  let sellerEarningsCents := subtotalCents - commissionCents
  let platformBuyerFeeCents :=
    mathRound ((subtotalCents + fulfillmentFeeCents) * cfg.platformBuyerFeeBps) 10000
  let buyerTotalCents := subtotalCents + fulfillmentFeeCents + platformBuyerFeeCents
  if commissionCents + sellerEarningsCents + fulfillmentFeeCents + platformBuyerFeeCents
      ≠ buyerTotalCents then
    .error (.internal "Money math mismatch in order totals computation")
  else
    .ok { subtotalCents, fulfillmentFeeCents, commissionRateBps, commissionCents,
          sellerEarningsCents, platformBuyerFeeCents, buyerTotalCents }

/-- The check at the end of `priceOrder` never fires. -/
theorem priceOrder_eq (cfg : Config) (subtotalCents : Cents) (isPremium isDelivery : Bool) :
    let fee : Cents := if isDelivery then cfg.deliveryFeeCents else 0
    let rate := if isPremium then commissionRateBpsPremium else commissionRateBpsStandard
    let commission := max (mathRound (subtotalCents * rate) 10000) commissionMinCents
    let platform := mathRound ((subtotalCents + fee) * cfg.platformBuyerFeeBps) 10000
    priceOrder cfg subtotalCents isPremium isDelivery =
      .ok ⟨subtotalCents, fee, rate, commission, subtotalCents - commission, platform,
        subtotalCents + fee + platform⟩ := by
  have hsplit : ∀ commission fee platform : Int,
      commission + (subtotalCents - commission) + fee + platform = subtotalCents + fee + platform := by
    intro commission fee platform
    omega
  unfold priceOrder
  simp only [hsplit, ne_eq, not_true_eq_false, if_false]

theorem priceOrder_ok (cfg : Config) (subtotalCents : Cents) (isPremium isDelivery : Bool) :
    ∃ totals, priceOrder cfg subtotalCents isPremium isDelivery = .ok totals ∧
      totals.subtotalCents = subtotalCents :=
  ⟨_, priceOrder_eq cfg subtotalCents isPremium isDelivery, rfl⟩

end Pricing

end IncaCook
