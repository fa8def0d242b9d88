import Mathlib.Data.Rat.Defs

namespace AgentProxy

inductive BillingDimension where
  | tokens
  | duration (resolution : Option String)
  | images (quality : Option String)
  deriving DecidableEq

inductive TierPrice where
  | token (inputPerMtok outputPerMtok : ℚ)
      (cacheWritePerMtok cacheReadPerMtok thinkingPerMtok : Option ℚ)
  | unit (perUnit : ℚ)
  deriving DecidableEq

structure PricingTier where
  upTo : Option UInt64
  price : TierPrice
  deriving DecidableEq

inductive Pricing where
  | perToken (inputPerMtok outputPerMtok : ℚ)
      (cacheWritePerMtok cacheReadPerMtok thinkingPerMtok : Option ℚ) (currency : String)
  | credits (creditsPerMtokInput creditsPerMtokOutput creditsPerRequest : Option ℚ)
  | charBased (pricePerMillionChars : ℚ) (outputMultiplier : Option ℚ)
  | perUnit (metric : BillingDimension) (perUnit : ℚ) (currency : String)
  | tiered (dimension : BillingDimension) (tiers : List PricingTier) (currency : String)
  deriving DecidableEq

inductive Quota where
  | unlimited
  | maxRequests (perMonth : UInt64)
  | maxTokens (perMonth : UInt64)
  deriving DecidableEq

inductive ExhaustedAction where
  | fallbackToMetered
  | block
  deriving DecidableEq

inductive ChannelBilling where
  | metered (pricing : Pricing)
  | flatFee (monthlyCostHint : Option ℚ) (quota : Option Quota) (onExhausted : ExhaustedAction)
  deriving DecidableEq

structure FlatFeeConfig where
  monthlyCostHint : Option ℚ
  quota : Option Quota
  onExhausted : Option ExhaustedAction

namespace ChannelBilling

def isFlatFee : ChannelBilling → Bool
  | flatFee .. => true
  | metered _ => false

def fromStorage (parsePricing : String → Except String Pricing)
    (parseFlatFee : String → Except String FlatFeeConfig) (billing pricingJson : String) :
    Except String ChannelBilling :=
  if billing = "metered" then
    match parsePricing pricingJson with
    | .ok p => .ok (metered p)
    | .error e => .error ("failed to parse pricing JSON: " ++ e)
  else if billing = "flatfee" then
    let cfg := (parseFlatFee pricingJson).toOption.getD ⟨none, none, none⟩
    .ok (flatFee cfg.monthlyCostHint cfg.quota (cfg.onExhausted.getD .fallbackToMetered))
  else .error ("unknown billing type: " ++ billing)

end ChannelBilling

structure QuotaUsage where
  requestsThisMonth : UInt64
  tokensThisMonth : UInt64
  monthKey : ℕ
  deriving DecidableEq

namespace QuotaUsage

def new (month : ℕ) : QuotaUsage := ⟨0, 0, month⟩

def maybeReset (u : QuotaUsage) (month : ℕ) : QuotaUsage :=
  if month ≠ u.monthKey then ⟨0, 0, month⟩ else u

def recordUsage (u : QuotaUsage) (month : ℕ) (tokens : UInt64) : QuotaUsage :=
  let u := u.maybeReset month
  { u with requestsThisMonth := u.requestsThisMonth + 1, tokensThisMonth := u.tokensThisMonth + tokens }

def isWithinQuota (u : QuotaUsage) : Option Quota → Bool
  | none => true
  | some .unlimited => true
  | some (.maxRequests perMonth) => decide (u.requestsThisMonth < perMonth)
  | some (.maxTokens perMonth) => decide (u.tokensThisMonth < perMonth)

end QuotaUsage

end AgentProxy
