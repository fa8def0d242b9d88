import AgentProxy.Cost.Record
import AgentProxy.Router.Middleware
import AgentProxy.Router.PricingJson

namespace AgentProxy.Cost

open Router

/-- `serde_json` writes the document of a pricing and reads its own text as that document. -/
structure DerivedPricing (serde : Serde) (pricing : Pricing) : Prop where
  written : serde.pricingToString pricing = serde.valueToString pricing.toValue
  read : ∀ p, Pricing.ofValue pricing.toValue = some p →
    serde.pricing (serde.valueToString pricing.toValue) = .ok p

def recordedUsage (r : CostRecord) : Usage where
  inputTokens := r.inputTokens.toUInt64
  outputTokens := r.outputTokens.toUInt64
  cacheWriteTokens := r.cacheWriteTokens.toUInt64
  cacheReadTokens := r.cacheReadTokens.toUInt64
  thinkingTokens := r.thinkingTokens.toUInt64

section

variable {serde : Serde} {pricing : Pricing}

theorem fromStorage_snapshot (hserde : DerivedPricing serde pricing) :
    ChannelBilling.fromStorage serde.pricing serde.flatFee "metered" (serde.pricingToString pricing) =
      .ok (.metered pricing) := by
  have hread := hserde.read pricing pricing.ofValue_toValue
  rw [ChannelBilling.fromStorage, if_pos rfl, hserde.written, hread]

theorem recordedUsage_record (env : RecordEnv) (ctx : ConnectionContext) (body : Json) :
    recordedUsage (record env ctx body) = extractUsage body ctx.detectedFormat := by
  simp only [recordedUsage, record, UInt64.toUInt64_toInt64]

theorem record_snapshot {info : SelectedMappingInfo} {ctx : ConnectionContext} (hinfo : ctx.selectedMapping = some info)
    (hpricing : info.pricing = some pricing) (env : RecordEnv) (body : Json) :
    (record env ctx body).pricingSnapshotJson = info.pricingSnapshotJson ∧
      calcCost (extractUsage body ctx.detectedFormat) pricing = ((record env ctx body).cost, (record env ctx body).unit) := by
  constructor
  · simp only [record, hinfo]
    rfl
  · simp only [record, hinfo, Option.bind_some, hpricing]

theorem onRequest_snapshot {now month : ℕ} {r : RouterState} {req req' : ProxyRequest} {ctx ctx' : ConnectionContext}
    {info : SelectedMappingInfo} (h : (onRequest serde now month r req ctx).1 = .ok (req', ctx'))
    (hinfo : ctx'.selectedMapping = some info) (hpricing : info.pricing = some pricing) :
    info.pricingSnapshotJson = serde.pricingToString pricing := by
  obtain ⟨body, c, -, hroute⟩ := onRequest_ok serde now month h
  obtain ⟨target, url, rewritePath, -, -, -, rfl⟩ := routeTo_ok serde hroute
  cases hinfo
  rcases hbilling : c.2.billing with pricing' | ⟨hint, quota, action⟩
  · simp only [mappingInfo, hbilling, pricingSnapshot, Option.some.injEq] at hpricing ⊢
    rw [hpricing]
  · simp [mappingInfo, hbilling, pricingSnapshot] at hpricing

end

theorem snapshot_reproduces_cost (serde : Serde) (now month : ℕ) (r : RouterState) (req req' : ProxyRequest)
    (ctx ctx' : ConnectionContext) (info : SelectedMappingInfo) (pricing : Pricing)
    (hroute : (onRequest serde now month r req ctx).1 = .ok (req', ctx')) (hinfo : ctx'.selectedMapping = some info)
    (hmetered : info.pricing = some pricing) (hserde : DerivedPricing serde pricing) (later : ConnectionContext)
    (hlater : later.selectedMapping = ctx'.selectedMapping) (env : RecordEnv) (body : Json) :
    ChannelBilling.fromStorage serde.pricing serde.flatFee "metered" (record env later body).pricingSnapshotJson =
        .ok (.metered pricing) ∧
      calcCost (recordedUsage (record env later body)) pricing =
        ((record env later body).cost, (record env later body).unit) := by
  rw [hinfo] at hlater
  obtain ⟨hsnapshot, hcost⟩ := record_snapshot hlater hmetered env body
  constructor
  · rw [hsnapshot, onRequest_snapshot hroute hinfo hmetered]
    exact fromStorage_snapshot hserde
  · rw [recordedUsage_record]
    exact hcost

namespace Sample

def tieredPrice : Pricing :=
  .tiered .tokens
    [⟨some 32000, .token (1 / 2) 1 none (some (1 / 10)) none⟩, ⟨none, .token (3 / 2) 3 none none none⟩] "CNY"

def tieredText : String :=
  "\x7b\"type\":\"tiered\",\"dimension\":\x7b\"type\":\"tokens\"\x7d,\"tiers\":[\x7b\"up_to\":32000,\"price\":" ++
    "\x7b\"type\":\"token\",\"input_per_mtok\":0.5,\"output_per_mtok\":1.0,\"cache_read_per_mtok\":0.1\x7d\x7d," ++
    "\x7b\"up_to\":null,\"price\":\x7b\"type\":\"token\",\"input_per_mtok\":1.5,\"output_per_mtok\":3.0\x7d\x7d]," ++
    "\"currency\":\"CNY\"\x7d"

def snapshotSerde : Serde :=
  { Router.Sample.serde with
    pricing := fun s => if s = tieredText then .ok tieredPrice else .error AgentProxy.Sample.parseError
    pricingToString := fun _ => tieredText
    valueToString := fun v => if v == tieredPrice.toValue then tieredText else AgentProxy.Sample.compact v }

def snapshotState : RouterState :=
  fromStorage snapshotSerde
    { Router.Sample.database "deepseek" "DeepSeek" "sk" with
      mappings := .single (Router.Sample.mapping "m1" "deepseek" "metered" tieredText) }

def snapshotEnv : RecordEnv := ⟨"user", "r1", 0, "2026-01-01T00:00:00+00:00"⟩

def snapshotBody : Json :=
  .obj [("usage", .obj [("prompt_tokens", .num (.posInt 1000)), ("completion_tokens", .num (.posInt 200)),
    ("prompt_tokens_details", .obj [("cached_tokens", .num (.posInt 400))])])]

end Sample

theorem snapshotSerde_derived : DerivedPricing Sample.snapshotSerde Sample.tieredPrice := by
  have htext : Sample.snapshotSerde.valueToString Sample.tieredPrice.toValue = Sample.tieredText := by
    decide +kernel
  constructor
  · exact htext.symm
  · intro p hp
    rw [Sample.tieredPrice.ofValue_toValue] at hp
    cases hp
    rw [htext]
    simp only [Sample.snapshotSerde, if_true]

theorem snapshot_reproduces_cost_tiered : ∃ req' ctx', (onRequest Sample.snapshotSerde 0 0 Sample.snapshotState
      Router.Sample.request Router.Sample.context).1 = .ok (req', ctx') ∧
    (record Sample.snapshotEnv ctx' Sample.snapshotBody).cost = 37 / 50000 ∧
    ChannelBilling.fromStorage Sample.snapshotSerde.pricing Sample.snapshotSerde.flatFee "metered"
        (record Sample.snapshotEnv ctx' Sample.snapshotBody).pricingSnapshotJson = .ok (.metered Sample.tieredPrice) ∧
      calcCost (recordedUsage (record Sample.snapshotEnv ctx' Sample.snapshotBody)) Sample.tieredPrice =
        ((record Sample.snapshotEnv ctx' Sample.snapshotBody).cost,
          (record Sample.snapshotEnv ctx' Sample.snapshotBody).unit) := by
  have hrouted : ((onRequest Sample.snapshotSerde 0 0 Sample.snapshotState Router.Sample.request
      Router.Sample.context).1.toOption.map fun routed =>
        (routed.2.selectedMapping.bind (·.pricing), (record Sample.snapshotEnv routed.2 Sample.snapshotBody).cost)) =
      some (some Sample.tieredPrice, 37 / 50000) := by
    decide +kernel
  obtain ⟨⟨req', ctx'⟩, hok, hpair⟩ := Option.map_eq_some_iff.mp hrouted
  obtain ⟨hmapping, hcost⟩ := Prod.mk.inj hpair
  obtain ⟨info, hinfo, hpricing⟩ := Option.bind_eq_some_iff.mp hmapping
  have hroute : (onRequest Sample.snapshotSerde 0 0 Sample.snapshotState Router.Sample.request
      Router.Sample.context).1 = .ok (req', ctx') := by
    cases hresult : (onRequest Sample.snapshotSerde 0 0 Sample.snapshotState Router.Sample.request
        Router.Sample.context).1 with
    | error e =>
      rw [hresult] at hok
      cases hok
    | ok routed =>
      rw [hresult] at hok
      cases hok
      rfl
  exact ⟨req', ctx', hroute, hcost, snapshot_reproduces_cost Sample.snapshotSerde 0 0 Sample.snapshotState
    Router.Sample.request req' Router.Sample.context ctx' info Sample.tieredPrice hroute hinfo hpricing
    snapshotSerde_derived ctx' rfl Sample.snapshotEnv Sample.snapshotBody⟩

end AgentProxy.Cost
