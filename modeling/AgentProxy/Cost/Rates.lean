import AgentProxy.Cost.Usage
import Mathlib.Tactic.Linarith
import Mathlib.Tactic.Ring

namespace AgentProxy.Cost

/-- What a pricing charges for one token of each kind and for the request itself. -/
structure Rates where
  input : ℚ := 0
  output : ℚ := 0
  cacheWrite : ℚ := 0
  cacheRead : ℚ := 0
  thinking : ℚ := 0
  fixed : ℚ := 0

namespace Rates

def amount (r : Rates) (usage : Usage) : ℚ :=
  usage.inputTokens.toNat * r.input + usage.outputTokens.toNat * r.output +
    usage.cacheWriteTokens.toNat * r.cacheWrite + usage.cacheReadTokens.toNat * r.cacheRead +
    usage.thinkingTokens.toNat * r.thinking + r.fixed

def perMillion (input output : ℚ) (cacheWrite cacheRead thinking : Option ℚ) : Rates where
  input := input / 1000000
  output := output / 1000000
  cacheWrite := cacheWrite.getD 0 / 1000000
  cacheRead := cacheRead.getD 0 / 1000000
  thinking := thinking.getD 0 / 1000000

end Rates

def TierPrice.rates : TierPrice → Rates
  | .token input output cacheWrite cacheRead thinking => .perMillion input output cacheWrite cacheRead thinking
  | .unit _ => {}

def tierRates (tiers : List PricingTier) (total : UInt64) : Rates :=
  ((tiers.find? (PricingTier.covers total)).map fun t => TierPrice.rates t.price).getD {}

def ratesAt (pricing : Pricing) (total : UInt64) : Rates :=
  match pricing with
  | .perToken input output cacheWrite cacheRead thinking _ => .perMillion input output cacheWrite cacheRead thinking
  | .credits input output perRequest =>
    { input := input.getD 0 / 1000000, output := output.getD 0 / 1000000, fixed := perRequest.getD 0 }
  | .charBased price outputMultiplier =>
    { input := 3 / 4 * price / 1000000, output := 3 / 4 * outputMultiplier.getD 1 * price / 1000000 }
  | .perUnit _ perUnit _ => { fixed := perUnit }
  | .tiered .tokens tiers _ => tierRates tiers total
  | .tiered _ _ _ => {}

def reaches (volume : ℕ) (t : PricingTier) : Bool :=
  match t.upTo with
  | none => true
  | some limit => volume ≤ limit.toNat

def firstTier (tiers : List PricingTier) (volume : ℕ) : Option PricingTier := tiers.find? (reaches volume)

theorem covers_eq_reaches (total : UInt64) : PricingTier.covers total = reaches total.toNat := by
  funext ⟨upTo, price⟩
  cases upTo with
  | none => rfl
  | some limit => simp only [PricingTier.covers, reaches, UInt64.le_iff_toNat_le]

/-- Tiers are looked up with the sum of two `u64` counters, which is exact below `2^64`. -/
theorem tierRates_sum {tiers : List PricingTier} {x y : UInt64} (h : x.toNat + y.toNat < 2 ^ 64) :
    tierRates tiers (x + y) =
      ((firstTier tiers (x.toNat + y.toNat)).map fun t => TierPrice.rates t.price).getD {} := by
  have hsum : (x + y).toNat = x.toNat + y.toNat := by rw [UInt64.toNat_add, Nat.mod_eq_of_lt h]
  rw [tierRates, firstTier, covers_eq_reaches, hsum]

theorem calcPerToken_eq (usage : Usage) (input output : ℚ) (cacheWrite cacheRead thinking : Option ℚ)
    (currency : String) :
    calcPerToken usage input output cacheWrite cacheRead thinking currency =
      ((Rates.perMillion input output cacheWrite cacheRead thinking).amount usage, currency) := by
  simp only [calcPerToken, perMtok, Rates.amount, Rates.perMillion, Prod.mk.injEq, and_true]
  ring

theorem amount_zero (usage : Usage) : Rates.amount {} usage = 0 := by
  simp [Rates.amount]

theorem calcTieredTokens_eq (usage : Usage) (tiers : List PricingTier) (currency : String) :
    calcTieredTokens usage tiers currency =
      ((tierRates tiers (usage.inputTokens + usage.outputTokens)).amount usage, currency) := by
  unfold calcTieredTokens tierRates
  rcases htier : tiers.find? (PricingTier.covers (usage.inputTokens + usage.outputTokens)) with _ | ⟨upTo, price⟩
  · rw [Option.map_none, Option.getD_none, amount_zero]
  · cases price with
    | token input output cacheWrite cacheRead thinking => exact calcPerToken_eq usage ..
    | unit perUnit =>
      rw [Option.map_some, Option.getD_some, TierPrice.rates, amount_zero]

theorem calcCost_amount (usage : Usage) (pricing : Pricing) :
    (calcCost usage pricing).1 = (ratesAt pricing (usage.inputTokens + usage.outputTokens)).amount usage := by
  cases pricing with
  | perToken input output cacheWrite cacheRead thinking currency =>
    rw [calcCost, calcPerToken_eq]
    rfl
  | credits input output perRequest =>
    simp only [calcCost, perMtok, ratesAt, Rates.amount]
    ring
  | charBased price outputMultiplier =>
    simp only [calcCost, ratesAt, Rates.amount]
    ring
  | perUnit metric perUnit currency => simp [calcCost, ratesAt, Rates.amount]
  | tiered dimension tiers currency =>
    cases dimension with
    | tokens =>
      rw [calcCost, calcTieredTokens_eq]
      rfl
    | duration resolution => exact (amount_zero usage).symm
    | images quality => exact (amount_zero usage).symm

end AgentProxy.Cost
