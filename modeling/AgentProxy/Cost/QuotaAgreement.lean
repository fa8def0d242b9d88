import AgentProxy.Cost.Record
import AgentProxy.Lib.Counter
import AgentProxy.Server.Bookkeeping

namespace AgentProxy.Cost

open Counter Router Server

def u64At (read : String → Option Json) (k : String) : UInt64 := ((read k).bind Json.asU64).getD 0

def billedCounters (format : ApiFormat) (read : String → Option Json) : UInt64 × UInt64 :=
  match format with
  | .openaiChat =>
    if 0 < u64At read "prompt_tokens" ∨ 0 < u64At read "completion_tokens" then
      (u64At read "prompt_tokens", u64At read "completion_tokens")
    else
      match (read "total_tokens").bind Json.asU64 with
      | some total => (total / 2, total / 2)
      | none => (u64At read "input", u64At read "output")
  | _ => (u64At read "input_tokens", u64At read "output_tokens")

def usageField (body : Json) (k : String) : Option Json := (body.get "usage").bind fun usage => usage.get k

def streamField (serde : Serde) (body : Body) (k : String) : Option Json :=
  match body with
  | .utf8 text => lastReported (valuesOf k (reportedFields (sseEvents serde text.toList)))
  | .binary _ => none

def documentField (serde : Serde) (body : Body) (k : String) : Option Json :=
  (serde.fromSlice body).toOption.bind fun v => usageField v k

/-- The fields the quota adds up and the fields the record bills give one number. `document` reads the
usage object of the body taken as a JSON document, `events` those of its events. -/
def FieldsAgree (format : ApiFormat) (named streaming : Bool) (document events : String → Option Json) : Prop :=
  let counted :=
    if named then ((u64At document "input_tokens").toNat + (u64At document "output_tokens").toNat) % 2 ^ 64 else 0
  let billed := if streaming then events else document
  match format with
  | .openaiChat =>
    if 0 < u64At billed "prompt_tokens" ∨ 0 < u64At billed "completion_tokens" then
      StoredSum (u64At billed "prompt_tokens") (u64At billed "completion_tokens") counted
    else
      match (billed "total_tokens").bind Json.asU64 with
      | some total => total.toNat / 2 * 2 = counted
      | none => StoredSum (u64At billed "input") (u64At billed "output") counted
  | _ =>
    if named = true ∧ streaming = false then
      Storable (u64At document "input_tokens") (u64At document "output_tokens")
    else StoredSum (u64At billed "input_tokens") (u64At billed "output_tokens") counted

theorem extractUsage_counters (body : Json) (format : ApiFormat) :
    ((extractUsage body (some format)).inputTokens, (extractUsage body (some format)).outputTokens) =
      billedCounters format (usageField body) := by
  cases hu : body.get "usage" with
  | none =>
    have hread : usageField body = fun _ => none := by
      funext k
      simp [usageField, hu]
    cases format <;> simp [extractUsage, extractAnthropic, extractOpenaiChat, extractOpenaiResponses, hu, hread,
      billedCounters, u64At]
  | some usage =>
    have hread : usageField body = usage.get := by
      funext k
      simp [usageField, hu]
    rw [hread]
    cases format with
    | anthropicMessages => simp [extractUsage, extractAnthropic, hu, billedCounters, u64At, Json.counter]
    | openaiResponses => simp [extractUsage, extractOpenaiResponses, hu, billedCounters, u64At, Json.counter]
    | openaiChat =>
      simp only [extractUsage, extractOpenaiChat, hu, Prod.mk.eta]
      rfl

theorem extractTokenCount_eq (body : Json) :
    extractTokenCount body = u64At (usageField body) "input_tokens" + u64At (usageField body) "output_tokens" := by
  cases hu : body.get "usage" with
  | none => simp [extractTokenCount, usageField, u64At, hu]
  | some usage => simp [extractTokenCount, usageField, u64At, Json.counter, hu]

theorem streamField_eq (serde : Serde) (body : Body) :
    streamField serde body = usageField (extractUsageFromSse serde body) := by
  funext k
  cases body with
  | utf8 text => exact (extractUsageFromSse_get serde text k).symm
  | binary bytes => rfl

def tokensAdded (mappingId : String) (ops : List SharedOp) : UInt64 :=
  (ops.filterMap fun
    | .router (.recordUsage id tokens) => if id = mappingId then some tokens else none
    | _ => none).sum

section

variable {inst : Installation} {s : ProxyState} {ctx : ConnectionContext} {format : ApiFormat}

def compressed (inst : Installation) (s : ProxyState) (res : ProxyResponse) : ProxyResponse :=
  if s.compressEnabled then (compressOnResponse inst.serde inst.compressors res).2 else res

variable (inst s) in
theorem responseChain_same_format (hc : ctx.detectedFormat = some format)
    (ht : ctx.targetProtocol = some format) (res : ProxyResponse) :
    ∃ stats : List ResponseStats, runOnResponseChain inst.middlewares s res ctx =
      ((Router.onResponse inst.serde res ctx).map .router ++ stats.map .responseStats,
        .ok (compressed inst s res)) := by
  have hchain : inst.middlewares.reverse =
      [inst.bridge, inst.modelRouter, modelAlias inst.serde inst.aliasMap, inst.compress] := rfl
  have hbridge : (Bridge.onResponse inst.serde inst.core res ctx).2 = .ok res := by
    have hp : Bridge.ConversionDirection.resolve format format = .passthrough :=
      Bridge.resolve_eq_passthrough.mpr rfl
    simp only [Bridge.onResponse, hc, ht, hp, ↓reduceDIte, ite_self]
  simp only [runOnResponseChain, hchain, runResponses, Installation.bridge, hbridge, Installation.modelRouter,
    modelAlias, Installation.compress, List.nil_append, compressed]
  cases s.compressEnabled with
  | true => exact ⟨(compressOnResponse inst.serde inst.compressors res).1.toList, by simp⟩
  | false => exact ⟨[], by simp⟩

theorem tokensAdded_onResponse {channel : ChannelConfig} {info : SelectedMappingInfo} {res : ProxyResponse}
    (hch : ctx.selectedChannel = some channel) (hinfo : ctx.selectedMapping = some info)
    (hflat : info.isFlatFee = true) (stats : List ResponseStats) :
    tokensAdded info.mappingId ((Router.onResponse inst.serde res ctx).map .router ++ stats.map .responseStats) =
      if channel.name.isEmpty then 0 else quotaTokens inst.serde res.body := by
  have hstats : (stats.map SharedOp.responseStats).filterMap (fun
      | .router (.recordUsage id tokens) => if id = info.mappingId then some tokens else none
      | _ => none) = [] := by simp
  rw [tokensAdded, List.filterMap_append, hstats, List.append_nil]
  simp only [Router.onResponse, hch, hinfo, hflat, Option.map_some, Option.getD_some, ↓reduceIte]
  cases channel.name.isEmpty <;> simp

theorem quotaTokens_eq (serde : Serde) (body : Body) :
    quotaTokens serde body =
      u64At (documentField serde body) "input_tokens" + u64At (documentField serde body) "output_tokens" := by
  unfold quotaTokens
  cases h : serde.fromSlice body with
  | error e =>
    have hread : documentField serde body = fun _ => none := by
      funext k
      simp [documentField, h, Except.toOption]
    simp [hread, u64At]
  | ok v =>
    have hread : documentField serde body = usageField v := by
      funext k
      simp [documentField, h, Except.toOption]
    rw [hread]
    exact extractTokenCount_eq v

theorem record_tokens (env : RecordEnv) (hc : ctx.detectedFormat = some format) (body : Json) :
    (record env ctx body).inputTokens = (billedCounters format (usageField body)).1.toInt64 ∧
      (record env ctx body).outputTokens = (billedCounters format (usageField body)).2.toInt64 := by
  rw [← extractUsage_counters, ← hc]
  exact ⟨rfl, rfl⟩

theorem costBody_streaming {req : ProxyRequest} {status : StatusCode} {headers : HeaderMap} {body : Body}
    (hc : ctx.detectedFormat = some format) (ht : ctx.targetProtocol = some format)
    (hs : req.isStreaming inst.serde = true) :
    (handleOutcome inst.serde inst.middlewares s ctx req (.answered status headers (.ok body))).costBody =
      some (extractUsageFromSse inst.serde body) := by
  obtain ⟨stats, hchain⟩ := responseChain_same_format inst s hc ht ⟨status, headers, body, true⟩
  have hsame : compressed inst s ⟨status, headers, body, true⟩ = ⟨status, headers, body, true⟩ := by
    simp [compressed, compressOnResponse]
  simp [handleOutcome, hs, handleStreamingResponse, handleResponse, hchain, hsame]

theorem costBody_plain {req : ProxyRequest} {status : StatusCode} {headers : HeaderMap} {body : Body}
    (hc : ctx.detectedFormat = some format) (ht : ctx.targetProtocol = some format)
    (hs : req.isStreaming inst.serde = false) :
    (handleOutcome inst.serde inst.middlewares s ctx req (.answered status headers (.ok body))).costBody =
      (inst.serde.fromSlice (compressed inst s ⟨status, headers, body, false⟩).body).toOption := by
  obtain ⟨stats, hchain⟩ := responseChain_same_format inst s hc ht ⟨status, headers, body, false⟩
  simp [handleOutcome, hs, handleNonStreamingResponse, handleResponse, hchain]

theorem compressed_unparsed {res : ProxyResponse} {e : String} (h : inst.serde.fromSlice res.body = .error e) :
    compressed inst s res = res := by
  simp only [compressed, compressOnResponse, h]
  split_ifs <;> rfl

theorem costBody_reads {req : ProxyRequest} {status : StatusCode} {headers : HeaderMap} {body : Body}
    (hc : ctx.detectedFormat = some format) (ht : ctx.targetProtocol = some format)
    (hkeep : ∀ v, inst.serde.fromSlice body = .ok v → ∃ w, inst.serde.fromSlice
      (compressOnResponse inst.serde inst.compressors ⟨status, headers, body, false⟩).2.body = .ok w ∧
        w.get "usage" = v.get "usage") :
    let costBody :=
      (handleOutcome inst.serde inst.middlewares s ctx req (.answered status headers (.ok body))).costBody
    (costBody.isSome ↔ req.isStreaming inst.serde = true ∨ ∃ v, inst.serde.fromSlice body = .ok v) ∧
      ∀ w, costBody = some w → usageField w =
        if req.isStreaming inst.serde then streamField inst.serde body else documentField inst.serde body := by
  cases hs : req.isStreaming inst.serde with
  | true =>
    rw [costBody_streaming hc ht hs]
    refine ⟨by simp, ?_⟩
    rintro w ⟨rfl⟩
    exact (streamField_eq inst.serde body).symm
  | false =>
    rw [costBody_plain hc ht hs]
    cases h : inst.serde.fromSlice body with
    | error e =>
      rw [compressed_unparsed h, h]
      simp [Except.toOption]
    | ok v =>
      have hw : ∃ w, inst.serde.fromSlice (compressed inst s ⟨status, headers, body, false⟩).body = .ok w ∧
          w.get "usage" = v.get "usage" := by
        unfold compressed
        split_ifs
        · exact hkeep v h
        · exact ⟨v, h, rfl⟩
      obtain ⟨w, hparse, husage⟩ := hw
      rw [hparse]
      refine ⟨by simp [Except.toOption], ?_⟩
      rintro w' ⟨rfl⟩
      funext k
      simp only [usageField, husage, documentField, h, Except.toOption, Option.bind_some, Bool.false_eq_true,
        ↓reduceIte]

end

def QuotaAgrees (env : RecordEnv) (f : Forwarded) (info : SelectedMappingInfo) (ops : List SharedOp)
    (costBody : Json) : Prop :=
  ((tokensAdded info.mappingId ops).toNat : ℤ) =
    (record env f.ctx costBody).inputTokens.toInt + (record env f.ctx costBody).outputTokens.toInt

theorem fieldsAgree_iff {format : ApiFormat} {named streaming : Bool} {document events : String → Option Json} :
    FieldsAgree format named streaming document events ↔
      StoredSum (billedCounters format (if streaming then events else document)).1
        (billedCounters format (if streaming then events else document)).2
        (if named then u64At document "input_tokens" + u64At document "output_tokens" else 0).toNat := by
  have hcounted : (if named then u64At document "input_tokens" + u64At document "output_tokens" else 0).toNat =
      if named then ((u64At document "input_tokens").toNat + (u64At document "output_tokens").toNat) % 2 ^ 64
      else 0 := by
    split_ifs
    · exact UInt64.toNat_add _ _
    · rfl
  rw [hcounted]
  cases format with
  | openaiChat =>
    simp only [FieldsAgree, billedCounters]
    generalize (if named = true then _ else 0 : ℕ) = counted
    generalize (if streaming = true then events else document) = billed
    by_cases hpositive : 0 < u64At billed "prompt_tokens" ∨ 0 < u64At billed "completion_tokens"
    · simp only [hpositive, ↓reduceIte]
    · simp only [hpositive, ↓reduceIte]
      cases (billed "total_tokens").bind Json.asU64 with
      | none => rfl
      | some total => exact storedSum_half.symm
  | anthropicMessages | openaiResponses =>
    simp only [FieldsAgree, billedCounters]
    by_cases hplain : named = true ∧ streaming = false
    · obtain ⟨rfl, rfl⟩ := hplain
      exact storedSum_wrapped.symm
    · rw [if_neg hplain]

theorem quota_agrees_iff (inst : Installation) (around : Surroundings) (upstream : Outgoing → UpstreamOutcome)
    (maxBodySize : ℕ) (s : ProxyState) (inc : Incoming) {f : Forwarded}
    (hf : (handleProxyRequest inst.serde inst.middlewares around upstream maxBodySize s inc).forwarded =
      some f)
    {info : SelectedMappingInfo} (hinfo : f.ctx.selectedMapping = some info) (hflat : info.isFlatFee = true)
    {format : ApiFormat} (hc : f.ctx.detectedFormat = some format) (ht : f.ctx.targetProtocol = some format)
    {status : StatusCode} {headers : HeaderMap} {body : Body}
    (hout : f.outcome = .answered status headers (.ok body))
    (hkeep : ∀ v, inst.serde.fromSlice body = .ok v → ∃ w, inst.serde.fromSlice
      (compressOnResponse inst.serde inst.compressors ⟨status, headers, body, false⟩).2.body = .ok w ∧
        w.get "usage" = v.get "usage")
    (env : RecordEnv) :
    let phase := (handleProxyRequest inst.serde inst.middlewares around upstream maxBodySize s inc).phase
    (phase.costBody.isSome ↔ f.req.isStreaming inst.serde = true ∨ ∃ v, inst.serde.fromSlice body = .ok v) ∧
      ∀ w, phase.costBody = some w →
        (QuotaAgrees env f info phase.ops w ↔
          FieldsAgree format (!f.channel.name.isEmpty) (f.req.isStreaming inst.serde)
            (documentField inst.serde body) (streamField inst.serde body)) := by
  obtain ⟨_, s', -, -, hch, -, hphase⟩ := handle_forwarded inst.serde inst.middlewares around upstream hf
  obtain ⟨hsome, hreads⟩ := @costBody_reads inst s' f.ctx format f.req status headers body hc ht hkeep
  obtain ⟨stats, hchain⟩ := responseChain_same_format inst s' hc ht
    ⟨status, headers, body, f.req.isStreaming inst.serde⟩
  rw [hphase, hout]
  refine ⟨hsome, ?_⟩
  intro w hw
  obtain ⟨hin, hout'⟩ := record_tokens env hc w
  rw [QuotaAgrees, handleOutcome_answered, hchain, tokensAdded_onResponse hch hinfo hflat stats,
    quotaTokens_eq, hin, hout', hreads w hw, ← storedSum_iff, fieldsAgree_iff]
  cases f.channel.name.isEmpty <;> rfl

namespace QuotaSample

def state (protocol : String) : ProxyState where
  router :=
    { channels := [
        { channelId := "c1", channelName := "c1", apiKey := "sk"
          protocols := [⟨protocol, "https://api.example", none⟩], enabled := true, forceProtocol := none
          priority := 0
          mappings := [
            { mappingId := "m1", clientName := "sonnet", upstreamName := "sonnet"
              billing := .flatFee none none .block, allowedProtocols := [] }] }]
      health := fun _ => none, quotaUsage := fun _ => none, channelApiKeys := fun _ => none }
  compressEnabled := true

def answer (input output : String) : Json :=
  .obj [("usage", .obj [(input, .num (.posInt 10)), (output, .num (.posInt 5))])]

def installation (body : Json) : Installation :=
  { Server.Sample.installation with serde := AgentProxy.Sample.serdeOn [Router.Sample.requestBody, body] }

def incoming (path : String) : Incoming :=
  { Server.Sample.incoming with request := { Router.Sample.request with path } }

def handled (path protocol : String) (body : Json) : Handled ProxyState SharedOp :=
  handleProxyRequest (installation body).serde (installation body).middlewares Server.Sample.around
    (fun _ => .answered .ok [] (.ok (.utf8 (AgentProxy.Sample.compact body)))) 1024 (state protocol)
    (incoming path)

def env : RecordEnv := ⟨"unknown", "r1", 0, "2026-01-01T00:00:00+00:00"⟩

end QuotaSample

open QuotaSample in
theorem quota_agrees_anthropic : ∃ f info w,
    (handled "/v1/messages" "anthropic_messages" (answer "input_tokens" "output_tokens")).forwarded = some f ∧
      f.ctx.selectedMapping = some info ∧
      (handled "/v1/messages" "anthropic_messages" (answer "input_tokens" "output_tokens")).phase.costBody =
        some w ∧
      QuotaAgrees env f info (handled "/v1/messages" "anthropic_messages"
        (answer "input_tokens" "output_tokens")).phase.ops w := by
  obtain ⟨-, hiff⟩ := quota_agrees_iff (installation (answer "input_tokens" "output_tokens"))
    Server.Sample.around (fun _ => .answered .ok []
      (.ok (.utf8 (AgentProxy.Sample.compact (answer "input_tokens" "output_tokens")))))
    1024 (state "anthropic_messages") (incoming "/v1/messages") rfl rfl rfl rfl rfl rfl
    (fun v hv => ⟨v, hv, rfl⟩) env
  have hstorable : Storable 10 5 := .inl ⟨by decide, by decide⟩
  exact ⟨_, _, _, rfl, rfl, rfl, (hiff _ rfl).mpr hstorable⟩

open QuotaSample in
theorem quota_misses_chat : ∃ f info w,
    (handled "/v1/chat/completions" "openai_chat" (answer "prompt_tokens" "completion_tokens")).forwarded =
        some f ∧
      f.ctx.selectedMapping = some info ∧ info.isFlatFee = true ∧
      (handled "/v1/chat/completions" "openai_chat" (answer "prompt_tokens" "completion_tokens")).phase.costBody =
        some w ∧
      ¬ QuotaAgrees env f info (handled "/v1/chat/completions" "openai_chat"
        (answer "prompt_tokens" "completion_tokens")).phase.ops w := by
  refine ⟨_, _, _, rfl, rfl, rfl, rfl, ?_⟩
  unfold QuotaAgrees
  decide

end AgentProxy.Cost
