import AgentProxy.Core.Types

namespace AgentProxy

/-- An internally tagged variant: the tag is one more field of the object. -/
def tagged (variant : String) (fields : List (String × Json)) : Json := .obj (("type", .str variant) :: fields)

def writeFloat (q : ℚ) : Json := .num (.float q)

def writeOption {α : Type} (write : α → Json) : Option α → Json
  | some a => write a
  | none => .null

/-- A field with `skip_serializing_if = "Option::is_none"`. -/
def unlessNone {α : Type} (key : String) (write : α → Json) : Option α → List (String × Json)
  | some a => [(key, write a)]
  | none => []

def readFloat : Json → Option ℚ
  | .num (.posInt n) => some n.toNat
  | .num (.negInt n) => some n.toInt
  | .num (.float q) => some q
  | _ => none

def readOption {α : Type} (read : Json → Option α) : Json → Option (Option α)
  | .null => some none
  | v => (read v).map some

def required {α : Type} (read : Json → Option α) (v : Json) (key : String) : Option α := (v.get key).bind read

def defaulted {α : Type} (read : Json → Option α) (default : α) (v : Json) (key : String) : Option α :=
  match v.get key with
  | some w => read w
  | none => some default

/-- An optional field: absent and `null` are both `None`. -/
def optional {α : Type} (read : Json → Option α) (v : Json) (key : String) : Option (Option α) :=
  defaulted (readOption read) none v key

def defaultCurrency : String := "USD"

namespace BillingDimension

def toValue : BillingDimension → Json
  | tokens => tagged "tokens" []
  | duration resolution => tagged "duration" (unlessNone "resolution" .str resolution)
  | images quality => tagged "images" (unlessNone "quality" .str quality)

def ofValue (v : Json) : Option BillingDimension := do
  let variant ← required Json.asStr v "type"
  if variant = "tokens" then some tokens
  else if variant = "duration" then return duration (← optional Json.asStr v "resolution")
  else if variant = "images" then return images (← optional Json.asStr v "quality")
  else none

theorem ofValue_toValue (d : BillingDimension) : ofValue d.toValue = some d := by
  cases d with
  | tokens => rfl
  | duration resolution => cases resolution <;> rfl
  | images quality => cases quality <;> rfl

end BillingDimension

namespace TierPrice

def toValue : TierPrice → Json
  | token input output cacheWrite cacheRead thinking => tagged "token" ([("input_per_mtok", writeFloat input),
      ("output_per_mtok", writeFloat output)] ++ unlessNone "cache_write_per_mtok" writeFloat cacheWrite ++
      unlessNone "cache_read_per_mtok" writeFloat cacheRead ++ unlessNone "thinking_per_mtok" writeFloat thinking)
  | unit perUnit => tagged "unit" [("per_unit", writeFloat perUnit)]

def ofValue (v : Json) : Option TierPrice := do
  let variant ← required Json.asStr v "type"
  if variant = "token" then
    return token (← required readFloat v "input_per_mtok") (← required readFloat v "output_per_mtok")
      (← optional readFloat v "cache_write_per_mtok") (← optional readFloat v "cache_read_per_mtok")
      (← optional readFloat v "thinking_per_mtok")
  else if variant = "unit" then return unit (← required readFloat v "per_unit")
  else none

theorem ofValue_toValue (p : TierPrice) : ofValue p.toValue = some p := by
  cases p with
  | token input output cacheWrite cacheRead thinking =>
    rcases cacheWrite with _ | cacheWrite
    all_goals rcases cacheRead with _ | cacheRead
    all_goals rcases thinking with _ | thinking
    all_goals rfl
  | unit perUnit => rfl

end TierPrice

namespace PricingTier

def toValue (t : PricingTier) : Json :=
  .obj [("up_to", writeOption (fun n => .num (.posInt n)) t.upTo), ("price", t.price.toValue)]

def ofValue (v : Json) : Option PricingTier := do
  return ⟨← optional Json.asU64 v "up_to", ← required TierPrice.ofValue v "price"⟩

theorem ofValue_toValue (t : PricingTier) : ofValue t.toValue = some t := by
  obtain ⟨upTo, price⟩ := t
  have hprice : required TierPrice.ofValue (toValue ⟨upTo, price⟩) "price" = some price := price.ofValue_toValue
  have hupTo : optional Json.asU64 (toValue ⟨upTo, price⟩) "up_to" = some upTo := by cases upTo <;> rfl
  rw [ofValue, hprice, hupTo]
  rfl

end PricingTier

namespace Pricing

def toValue : Pricing → Json
  | perToken input output cacheWrite cacheRead thinking currency => tagged "per_token" [("input_per_mtok", writeFloat input),
      ("output_per_mtok", writeFloat output), ("cache_write_per_mtok", writeOption writeFloat cacheWrite),
      ("cache_read_per_mtok", writeOption writeFloat cacheRead), ("thinking_per_mtok", writeOption writeFloat thinking),
      ("currency", .str currency)]
  | credits input output perRequest => tagged "credits" [("credits_per_mtok_input", writeOption writeFloat input),
      ("credits_per_mtok_output", writeOption writeFloat output), ("credits_per_request", writeOption writeFloat perRequest)]
  | charBased price outputMultiplier => tagged "char_based" [("price_per_million_chars", writeFloat price),
      ("output_multiplier", writeOption writeFloat outputMultiplier)]
  | perUnit metric price currency => tagged "per_unit" [("metric", metric.toValue), ("per_unit", writeFloat price),
      ("currency", .str currency)]
  | tiered dimension tiers currency => tagged "tiered" [("dimension", dimension.toValue),
      ("tiers", .arr (tiers.map PricingTier.toValue)), ("currency", .str currency)]

def readTiers (v : Json) : Option (List PricingTier) := v.asArray.bind fun items => items.mapM PricingTier.ofValue

def ofValue (v : Json) : Option Pricing := do
  let variant ← required Json.asStr v "type"
  if variant = "per_token" then
    return perToken (← required readFloat v "input_per_mtok") (← required readFloat v "output_per_mtok")
      (← optional readFloat v "cache_write_per_mtok") (← optional readFloat v "cache_read_per_mtok")
      (← optional readFloat v "thinking_per_mtok") (← defaulted Json.asStr defaultCurrency v "currency")
  else if variant = "credits" then
    return credits (← optional readFloat v "credits_per_mtok_input") (← optional readFloat v "credits_per_mtok_output")
      (← optional readFloat v "credits_per_request")
  else if variant = "char_based" then
    return charBased (← required readFloat v "price_per_million_chars") (← optional readFloat v "output_multiplier")
  else if variant = "per_unit" then
    return perUnit (← required BillingDimension.ofValue v "metric") (← required readFloat v "per_unit")
      (← defaulted Json.asStr defaultCurrency v "currency")
  else if variant = "tiered" then
    return tiered (← required BillingDimension.ofValue v "dimension") (← required readTiers v "tiers")
      (← defaulted Json.asStr defaultCurrency v "currency")
  else none

theorem readTiers_toValue (tiers : List PricingTier) :
    readTiers (.arr (tiers.map PricingTier.toValue)) = some tiers := by
  have hread : (tiers.map PricingTier.toValue).mapM PricingTier.ofValue = some tiers := by
    induction tiers with
    | nil => rfl
    | cons tier tiers ih =>
      rw [List.map_cons, List.mapM_cons, PricingTier.ofValue_toValue, ih]
      rfl
  exact hread

theorem ofValue_toValue (p : Pricing) : ofValue p.toValue = some p := by
  cases p with
  | perToken input output cacheWrite cacheRead thinking currency =>
    rcases cacheWrite with _ | cacheWrite
    all_goals rcases cacheRead with _ | cacheRead
    all_goals rcases thinking with _ | thinking
    all_goals rfl
  | credits input output perRequest =>
    rcases input with _ | input
    all_goals rcases output with _ | output
    all_goals rcases perRequest with _ | perRequest
    all_goals rfl
  | charBased price outputMultiplier => cases outputMultiplier <;> rfl
  | perUnit metric price currency =>
    have hmetric : required BillingDimension.ofValue (toValue (.perUnit metric price currency)) "metric" = some metric :=
      metric.ofValue_toValue
    have htype : required Json.asStr (toValue (.perUnit metric price currency)) "type" = some "per_unit" := rfl
    rw [ofValue, htype, hmetric]
    rfl
  | tiered dimension tiers currency =>
    have hdimension : required BillingDimension.ofValue (toValue (.tiered dimension tiers currency)) "dimension" =
        some dimension := dimension.ofValue_toValue
    have htiers : required readTiers (toValue (.tiered dimension tiers currency)) "tiers" = some tiers :=
      readTiers_toValue tiers
    have htype : required Json.asStr (toValue (.tiered dimension tiers currency)) "type" = some "tiered" := rfl
    rw [ofValue, htype, hdimension, htiers]
    rfl

end Pricing

end AgentProxy
