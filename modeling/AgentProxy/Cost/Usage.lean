import AgentProxy.Core.Types
import Mathlib.Data.Rat.Cast.Defs

namespace AgentProxy.Cost

structure Usage where
  inputTokens : UInt64 := 0
  outputTokens : UInt64 := 0
  cacheWriteTokens : UInt64 := 0
  cacheReadTokens : UInt64 := 0
  thinkingTokens : UInt64 := 0
  deriving DecidableEq

def cachedTokens (usage : Json) (details : String) : UInt64 :=
  (((usage.get details).bind fun d => d.get "cached_tokens").bind Json.asU64).getD 0

def extractAnthropic (body : Json) : Usage :=
  match body.get "usage" with
  | none => {}
  | some usage =>
    { inputTokens := usage.counter "input_tokens"
      outputTokens := usage.counter "output_tokens"
      cacheWriteTokens := usage.counter "cache_creation_input_tokens"
      cacheReadTokens := usage.counter "cache_read_input_tokens" }

def chatTokens (usage : Json) : UInt64 × UInt64 :=
  let promptTokens := usage.counter "prompt_tokens"
  let completionTokens := usage.counter "completion_tokens"
  if 0 < promptTokens ∨ 0 < completionTokens then (promptTokens, completionTokens)
  else
    match (usage.get "total_tokens").bind Json.asU64 with
    | some total => (total / 2, total / 2)
    | none => (usage.counter "input", usage.counter "output")

def extractOpenaiChat (body : Json) : Usage :=
  match body.get "usage" with
  | none => {}
  | some usage =>
    { inputTokens := (chatTokens usage).1
      outputTokens := (chatTokens usage).2
      cacheReadTokens := cachedTokens usage "prompt_tokens_details" }

def extractOpenaiResponses (body : Json) : Usage :=
  match body.get "usage" with
  | none => {}
  | some usage =>
    { inputTokens := usage.counter "input_tokens"
      outputTokens := usage.counter "output_tokens"
      cacheReadTokens := cachedTokens usage "input_tokens_details" }

def autoDetectUsage (body : Json) : Usage :=
  match body.get "usage" with
  | none => {}
  | some usage =>
    if (usage.get "prompt_tokens").isSome then extractOpenaiChat body
    else if (usage.get "input_tokens_details").isSome then extractOpenaiResponses body
    else if (usage.get "input_tokens").isSome then extractAnthropic body
    else {}

def extractUsage (body : Json) : Option ApiFormat → Usage
  | some .anthropicMessages => extractAnthropic body
  | some .openaiChat => extractOpenaiChat body
  | some .openaiResponses => extractOpenaiResponses body
  | none => autoDetectUsage body

def perMtok (tokens : UInt64) (price : ℚ) : ℚ := tokens.toNat / 1000000 * price

def calcPerToken (usage : Usage) (inputPerMtok outputPerMtok : ℚ)
    (cacheWritePerMtok cacheReadPerMtok thinkingPerMtok : Option ℚ) (currency : String) : ℚ × String :=
  (perMtok usage.inputTokens inputPerMtok + perMtok usage.outputTokens outputPerMtok +
    perMtok usage.cacheWriteTokens (cacheWritePerMtok.getD 0) +
    perMtok usage.cacheReadTokens (cacheReadPerMtok.getD 0) +
    perMtok usage.thinkingTokens (thinkingPerMtok.getD 0), currency)

def PricingTier.covers (total : UInt64) (t : PricingTier) : Bool :=
  match t.upTo with
  | none => true
  | some limit => total ≤ limit

def calcTieredTokens (usage : Usage) (tiers : List PricingTier) (currency : String) : ℚ × String :=
  match tiers.find? (PricingTier.covers (usage.inputTokens + usage.outputTokens)) with
  | some ⟨_, .token input output cacheWrite cacheRead thinking⟩ =>
    calcPerToken usage input output cacheWrite cacheRead thinking currency
  | _ => (0, currency)

/-- Exact rationals stand for the `f64` of the source. -/
def calcCost (usage : Usage) : Pricing → ℚ × String
  | .perToken input output cacheWrite cacheRead thinking currency =>
    calcPerToken usage input output cacheWrite cacheRead thinking currency
  | .credits input output perRequest =>
    (perMtok usage.inputTokens (input.getD 0) + perMtok usage.outputTokens (output.getD 0) +
      perRequest.getD 0, "credits")
  | .charBased price outputMultiplier =>
    let inputChars : ℚ := usage.inputTokens.toNat * (3 / 4)
    let outputChars : ℚ := usage.outputTokens.toNat * (3 / 4) * outputMultiplier.getD 1
    ((inputChars + outputChars) / 1000000 * price, "CNY")
  | .perUnit _ perUnit currency => (perUnit, currency)
  | .tiered .tokens tiers currency => calcTieredTokens usage tiers currency
  | .tiered _ _ currency => (0, currency)

end AgentProxy.Cost
