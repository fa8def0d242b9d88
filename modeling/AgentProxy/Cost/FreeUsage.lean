import AgentProxy.Cost.Rates
import AgentProxy.Router.Resolve
import Mathlib.Algebra.Order.Field.Basic
import Mathlib.Tactic.Positivity

namespace AgentProxy.Cost

def AllPositive : TierPrice → Prop
  | .token input output cacheWrite cacheRead thinking =>
    0 < input ∧ 0 < output ∧ (∀ q ∈ cacheWrite, 0 < q) ∧ (∀ q ∈ cacheRead, 0 < q) ∧ ∀ q ∈ thinking, 0 < q
  | .unit perUnit => 0 < perUnit

def isTokenPrice : TierPrice → Bool
  | .token .. => true
  | .unit _ => false

def TokenPriced (tiers : List PricingTier) (total : ℕ) : Prop :=
  ∃ tier, firstTier tiers total = some tier ∧ isTokenPrice tier.price = true

section

variable {usage : Usage} {tiers : List PricingTier}

theorem getD_nonneg {q : Option ℚ} (h : ∀ p ∈ q, 0 < p) : 0 ≤ q.getD 0 := by
  cases q with
  | none => exact le_refl _
  | some p => exact le_of_lt (h p rfl)

theorem amount_pos {price : TierPrice} (hprice : AllPositive price) (htoken : isTokenPrice price = true)
    (htokens : 0 < usage.inputTokens.toNat + usage.outputTokens.toNat) : 0 < (TierPrice.rates price).amount usage := by
  cases price with
  | unit perUnit => cases htoken
  | token input output cacheWrite cacheRead thinking =>
    obtain ⟨hinput, houtput, hwrite, hread, hthinking⟩ := hprice
    have hwrite := getD_nonneg hwrite
    have hread := getD_nonneg hread
    have hthinking := getD_nonneg hthinking
    have hmain : 0 < (usage.inputTokens.toNat : ℚ) * (input / 1000000) + usage.outputTokens.toNat * (output / 1000000) := by
      by_cases hzero : usage.inputTokens.toNat = 0
      · have hout : 0 < usage.outputTokens.toNat := by omega
        rw [hzero]
        positivity
      · have hin : 0 < usage.inputTokens.toNat := by omega
        positivity
    have hrest : 0 ≤ (usage.cacheWriteTokens.toNat : ℚ) * (cacheWrite.getD 0 / 1000000) +
        usage.cacheReadTokens.toNat * (cacheRead.getD 0 / 1000000) +
        usage.thinkingTokens.toNat * (thinking.getD 0 / 1000000) := by positivity
    simp only [TierPrice.rates, Rates.amount, Rates.perMillion]
    linarith

theorem calcCost_of_tokenPriced (hprices : ∀ tier ∈ tiers, AllPositive tier.price)
    (htokens : 0 < usage.inputTokens.toNat + usage.outputTokens.toNat)
    (hsum : usage.inputTokens.toNat + usage.outputTokens.toNat < 2 ^ 64) (currency : String)
    (h : TokenPriced tiers (usage.inputTokens.toNat + usage.outputTokens.toNat)) :
    0 < (calcCost usage (.tiered .tokens tiers currency)).1 := by
  obtain ⟨tier, hfind, htoken⟩ := h
  rw [calcCost, calcTieredTokens_eq, tierRates_sum hsum, hfind]
  exact amount_pos (hprices tier (List.mem_of_find?_eq_some hfind)) htoken htokens

theorem calcCost_of_not_tokenPriced (hsum : usage.inputTokens.toNat + usage.outputTokens.toNat < 2 ^ 64)
    (currency : String) (h : ¬ TokenPriced tiers (usage.inputTokens.toNat + usage.outputTokens.toNat)) :
    (calcCost usage (.tiered .tokens tiers currency)).1 = 0 := by
  rw [calcCost, calcTieredTokens_eq, tierRates_sum hsum]
  rcases hfind : firstTier tiers (usage.inputTokens.toNat + usage.outputTokens.toNat) with _ | ⟨upTo, price⟩
  · exact amount_zero usage
  · cases price with
    | token input output cacheWrite cacheRead thinking => exact absurd ⟨_, hfind, rfl⟩ h
    | unit perUnit => exact amount_zero usage

end

theorem tiered_cost_positive_iff (tiers : List PricingTier) (currency : String) (usage : Usage)
    (hprices : ∀ tier ∈ tiers, AllPositive tier.price)
    (htokens : 0 < usage.inputTokens.toNat + usage.outputTokens.toNat)
    (hsum : usage.inputTokens.toNat + usage.outputTokens.toNat < 2 ^ 64) :
    (TokenPriced tiers (usage.inputTokens.toNat + usage.outputTokens.toNat) →
      0 < (calcCost usage (.tiered .tokens tiers currency)).1) ∧
    (¬ TokenPriced tiers (usage.inputTokens.toNat + usage.outputTokens.toNat) →
      (calcCost usage (.tiered .tokens tiers currency)).1 = 0) :=
  ⟨calcCost_of_tokenPriced hprices htokens hsum currency, calcCost_of_not_tokenPriced hsum currency⟩

namespace Sample

def boundedTiers : List PricingTier := [⟨some 1000000, .token 1 2 none none none⟩]

def boundedText : String :=
  "\x7b\"type\":\"tiered\",\"dimension\":\x7b\"type\":\"tokens\"\x7d,\"tiers\":[\x7b\"up_to\":1000000,\"price\":\x7b" ++
    "\"type\":\"token\",\"input_per_mtok\":1.0,\"output_per_mtok\":2.0\x7d\x7d]\x7d"

def boundedSerde : Serde :=
  { Router.Sample.serde with
    pricing := fun s =>
      if s = boundedText then .ok (.tiered .tokens boundedTiers "USD") else .error AgentProxy.Sample.parseError }

end Sample

theorem boundedTiers_positive : ∀ tier ∈ Sample.boundedTiers, AllPositive tier.price := by
  intro tier htier
  rw [List.mem_singleton.mp htier]
  refine ⟨by norm_num, by norm_num, ?_, ?_, ?_⟩
  all_goals exact fun q hq => absurd hq (by simp)

theorem tiered_cost_positive_within_bound :
    0 < (calcCost { inputTokens := 1000 } (.tiered .tokens Sample.boundedTiers "USD")).1 :=
  (tiered_cost_positive_iff Sample.boundedTiers "USD" { inputTokens := 1000 } boundedTiers_positive (by decide)
    (by decide)).1 ⟨_, rfl, rfl⟩

theorem usage_above_tiers_free :
    ChannelBilling.fromStorage Sample.boundedSerde.pricing Sample.boundedSerde.flatFee "metered" Sample.boundedText =
      .ok (.metered (.tiered .tokens Sample.boundedTiers "USD")) ∧ Sample.boundedTiers ≠ [] ∧
    (∀ tier ∈ Sample.boundedTiers, AllPositive tier.price) ∧
    ¬ 0 < (calcCost { inputTokens := 1000001 } (.tiered .tokens Sample.boundedTiers "USD")).1 := by
  have hread : Sample.boundedSerde.pricing Sample.boundedText = .ok (.tiered .tokens Sample.boundedTiers "USD") := by
    simp only [Sample.boundedSerde, if_true]
  refine ⟨by rw [ChannelBilling.fromStorage, if_pos rfl, hread], List.cons_ne_nil _ _, boundedTiers_positive, ?_⟩
  have hgap : ¬ TokenPriced Sample.boundedTiers 1000001 := by
    rintro ⟨tier, htier, -⟩
    cases htier
  have hzero := @calcCost_of_not_tokenPriced { inputTokens := 1000001 } Sample.boundedTiers (by decide) "USD" hgap
  rw [hzero]
  exact lt_irrefl 0

end AgentProxy.Cost
