import AgentProxy.Admin.Handlers
import AgentProxy.Router.Resolution
import AgentProxy.Server.Bookkeeping
import Mathlib.Data.List.DropRight

namespace AgentProxy.Admin

open Storage Router Server

structure ProbeResponse where
  result : ProbeResult
  model : String
  latencyMs : UInt64
  httpStatus : ℕ
  deriving DecidableEq

def noProtocolResponse : ProbeResponse := ⟨.noProtocols, "", 0, 0⟩

def noModelResponse : ProbeResponse := ⟨.noModels, "", 0, 0⟩

def buildProbeRequest (protocol : ProtocolEntry) (modelName : String) : Option (String × Json) :=
  let baseUrl := trimEndSlashes protocol.baseUrl
  if protocol.protocol = "openai_chat" then some (baseUrl ++ "/v1/chat/completions",
    .obj [("model", .str modelName), ("max_tokens", .num (.posInt 1)),
      ("messages", .arr [.obj [("role", .str "user"), ("content", .str "hi")]])])
  else if protocol.protocol = "anthropic_messages" then some (baseUrl ++ "/v1/messages",
    .obj [("model", .str modelName), ("max_tokens", .num (.posInt 1)),
      ("messages", .arr [.obj [("role", .str "user"), ("content", .str "hi")]])])
  else if protocol.protocol = "openai_responses" then some (baseUrl ++ "/v1/responses",
    .obj [("model", .str modelName), ("input", .str "hi")])
  else none

/-- The `reqwest` client of a probe: whether it can be built, and the status or the error that answers
a request, with the milliseconds that took. -/
structure ProbeClient where
  builds : Bool
  send : Outgoing → Except (Option StatusCode) StatusCode × UInt64

def probeOutgoing (serde : Serde) (channel : Channel) (protocol : ProtocolEntry) (url : String) (body : Json) :
    Outgoing where
  method := "POST"
  url := url
  headers := ("content-type", .text "application/json") ::
    if channel.apiKey.isEmpty then []
    else if protocol.protocol = "anthropic_messages" then
      [("x-api-key", .text channel.apiKey), ("anthropic-version", .text "2023-06-01")]
    else [("authorization", .text ("Bearer " ++ channel.apiKey))]
  body := .utf8 (serde.valueToString body)

def probeResult (status : StatusCode) : ProbeResult :=
  if 200 ≤ status.code ∧ status.code ≤ 299 then .healthy
  else if status.code = 401 ∨ status.code = 403 then .invalidKey
  else if status.code = 429 then .rateLimited
  else .unknown

def sendProbe (serde : Serde) (client : ProbeClient) (channel : Channel) (protocol : ProtocolEntry)
    (url : String) (body : Json) (modelName : String) : ProbeResponse :=
  if client.builds = false then ⟨.unreachable, modelName, 0, 0⟩
  else
    match client.send (probeOutgoing serde channel protocol url body) with
    | (.ok status, latency) => ⟨probeResult status, modelName, latency, status.code⟩
    | (.error status, latency) => ⟨.unreachable, modelName, latency, (status.map (·.code)).getD 0⟩

/-- `findCheapestModel` reads the mappings and the prices; no URL depends on its answer. -/
def probeChannel (serde : Serde) (client : ProbeClient) (findCheapestModel : String → Option String)
    (channel : Channel) : ProbeResponse :=
  match (parseProtocols serde channel).head? with
  | none => noProtocolResponse
  | some firstProtocol =>
    match findCheapestModel channel.id with
    | none => noModelResponse
    | some modelName =>
      match buildProbeRequest firstProtocol modelName with
      | none => ⟨.noProtocols, modelName, 0, 0⟩
      | some (url, body) => sendProbe serde client channel firstProtocol url body modelName

def standardPath : ApiFormat → String
  | .anthropicMessages => "/v1/messages"
  | .openaiChat => "/v1/chat/completions"
  | .openaiResponses => "/v1/responses"

section

variable {e : ProtocolEntry} {p : ApiFormat}

theorem trimEndSlashes_idem (s : String) : trimEndSlashes (trimEndSlashes s) = trimEndSlashes s := by
  have hlist : ∀ t : String, trimEndSlashes t = String.ofList (t.toList.rdropWhile fun c => c = '/') := fun _ => rfl
  rw [hlist, hlist, String.toList_ofList, List.rdropWhile_idempotent]

theorem detectApiFormat_standardPath (p : ApiFormat) : detectApiFormat (standardPath p) = some p := by
  rcases p with _ | _ | _
  all_goals decide

theorem buildProbeRequest_url (h : e.protocol = protocolToStr p) (modelName : String) :
    (buildProbeRequest e modelName).map Prod.fst = some (trimEndSlashes e.baseUrl ++ standardPath p) := by
  unfold buildProbeRequest
  rw [h]
  rcases p with _ | _ | _
  all_goals rfl

structure CarriesEntry (cfg : ChannelConfig) (e : ProtocolEntry) : Prop where
  url : cfg.url = trimEndSlashes e.baseUrl
  rewritePath : cfg.rewritePath = e.rewritePath.filter fun rp => !rp.isEmpty

theorem CarriesEntry.upstreamPath_eq_iff {cfg : ChannelConfig} (h : CarriesEntry cfg e) (req : ProxyRequest) :
    upstreamPath cfg req = req.path ↔ ∀ rp, e.rewritePath = some rp → rp = "" ∨ rp = req.path := by
  unfold upstreamPath
  rw [h.rewritePath]
  rcases e.rewritePath with _ | rp
  · simp
  · by_cases hrp : rp = ""
    · simp [hrp, Option.filter_some]
    · simp [hrp, Option.filter_some]

theorem CarriesEntry.outgoing_url {cfg : ChannelConfig} (h : CarriesEntry cfg e) (req : ProxyRequest) :
    (outgoing req cfg).url = trimEndSlashes e.baseUrl ++ upstreamPath cfg req := by
  simp only [outgoing]
  rw [h.url, trimEndSlashes_idem]

theorem find?_normalized {entries : List ProtocolEntry} (hfirst : entries.head? = some e)
    (h : e.protocol = protocolToStr p) :
    (entries.map normalizeEntry).find? (fun e => e.protocol = protocolToStr p) = some (normalizeEntry e) := by
  rcases entries with _ | ⟨e', rest⟩
  · cases hfirst
  · cases hfirst
    apply List.find?_cons_of_pos
    exact decide_eq_true h

end

section

variable {inst : Installation} {s : ProxyState}

theorem requestChain_resolved {req req' : ProxyRequest} {ctx ctx' : ConnectionContext}
    (h : (runOnRequestChain inst.middlewares s req ctx).1 = .ok (req', ctx')) :
    ∃ c cfg detected, c.1 ∈ s.router.channels ∧ Resolved c detected ctx' cfg ∧
      ctx'.selectedMapping = some (mappingInfo inst.serde c) := by
  obtain ⟨req₁, ctx₁, req₂, req₃, ctx₃, -, -, hr, hb⟩ := requestChain_steps h
  obtain ⟨body, c, hselect, hroute⟩ := onRequest_ok inst.serde inst.now inst.month hr
  obtain ⟨cfg, hcfg⟩ := routeTo_resolved hroute
  obtain ⟨target, url, rewritePath, -, -, -, hctx⟩ := routeTo_ok inst.serde hroute
  have hmapping : ctx₃.selectedMapping = some (mappingInfo inst.serde c) := by rw [hctx]
  obtain ⟨client, upstream, -, -, hcase⟩ := Bridge.onRequest_context hb
  refine ⟨c, cfg, ctx₁.detectedFormat, (selectFor_ok inst.serde inst.now inst.month hselect).1, ?_⟩
  obtain ⟨-, rfl⟩ | rfl := hcase
  · exact ⟨hcfg, hmapping⟩
  · exact ⟨{ hcfg with }, hmapping⟩

/-- The router holds the stored channels, and a client request on the standard path of `p` was forwarded
to the channel `ch` under the protocol of its first entry `e`. -/
structure RoutedToFirst (inst : Installation) (db : Database) (s : ProxyState) (inc : Incoming) (f : Forwarded)
    (ch : Channel) (e : ProtocolEntry) (p : ApiFormat) : Prop where
  loaded : s.router.channels = resolveChannels inst.serde db
  stored : ch ∈ listChannels db
  first : (parseProtocols inst.serde ch).head? = some e
  known : e.protocol = protocolToStr p
  path : inc.request.path = standardPath p
  channel : f.ctx.selectedMapping.map (·.channelId) = some ch.id
  protocol : f.channel.protocol = p

variable {db : Database} {inc : Incoming} {f : Forwarded} {ch : Channel} {e : ProtocolEntry} {p : ApiFormat}

theorem listChannels_inj {ch' : Channel} (h : ch ∈ listChannels db) (h' : ch' ∈ listChannels db)
    (hid : ch.id = ch'.id) : ch = ch' := by
  obtain ⟨row, hrow, rfl⟩ := mem_listChannels.mp h
  obtain ⟨row', hrow', rfl⟩ := mem_listChannels.mp h'
  rw [(rowToChannel_fields row).1, (rowToChannel_fields row').1] at hid
  rw [db.channels.key_inj hrow hrow' hid]

theorem resolveChannels_protocols {rc : ResolvedChannel} (h : rc ∈ resolveChannels inst.serde db)
    (hch : ch ∈ listChannels db) (hid : rc.channelId = ch.id) :
    rc.protocols = (parseProtocols inst.serde ch).map normalizeEntry := by
  obtain ⟨ch', hch', hrc⟩ := List.mem_filterMap.mp h
  have hsame : ch' = ch := listChannels_inj hch' hch ((resolveChannel_eq_some inst.serde hrc).1.symm.trans hid)
  subst hsame
  unfold resolveChannel at hrc
  split_ifs at hrc
  cases hrc
  rfl

theorem prepareContext_detectedFormat (serde : Serde) (around : Surroundings) (headers : HeaderMap)
    (ctx : ConnectionContext) : (prepareContext serde around headers ctx).detectedFormat = ctx.detectedFormat := by
  simp only [prepareContext]
  split_ifs
  all_goals
    rcases (headerText headers "x-claude-code-session-id").bind around.report with _ | acc
    all_goals rfl

theorem RoutedToFirst.carries (h : RoutedToFirst inst db s inc f ch e p) {req : ProxyRequest}
    {ctx : ConnectionContext} {s' : ProxyState}
    (hchain : runOnRequestChain inst.middlewares s req ctx = (.ok (f.req, f.ctx), s'))
    (hch : f.ctx.selectedChannel = some f.channel) :
    CarriesEntry f.channel e ∧ f.ctx.targetProtocol = some p := by
  obtain ⟨c, cfg, detected, hmem, hres, hmapping⟩ := requestChain_resolved (congrArg Prod.fst hchain)
  have hcfg : cfg = f.channel := Option.some.inj (hres.selected.symm.trans hch)
  subst hcfg
  have hid : c.1.channelId = ch.id := by
    have hchannel := h.channel
    rw [hmapping] at hchannel
    exact Option.some.inj hchannel
  rw [h.loaded] at hmem
  obtain ⟨e', hfind, hurl, hrewrite⟩ := hres.entry
  rw [resolveChannels_protocols hmem h.stored hid, h.protocol, find?_normalized h.first h.known] at hfind
  cases hfind
  refine ⟨⟨hurl, hrewrite⟩, ?_⟩
  rw [hres.target, h.protocol]

end

def ProbesUrlOf (out : Outgoing) (e : ProtocolEntry) (modelName : String) : Prop :=
  (buildProbeRequest e modelName).map Prod.fst = some out.url

theorem probe_url_matches_iff (inst : Installation) (around : Surroundings) (upstream : Outgoing → UpstreamOutcome)
    (maxBodySize : ℕ) (db : Database) (s : ProxyState) (inc : Incoming) (f : Forwarded)
    (hf : (handleProxyRequest inst.serde inst.middlewares around upstream maxBodySize s inc).forwarded = some f)
    (ch : Channel) (e : ProtocolEntry) (p : ApiFormat) (h : RoutedToFirst inst db s inc f ch e p)
    (modelName : String) :
    ProbesUrlOf (outgoing f.req f.channel) e modelName ↔
      ∀ rp, e.rewritePath = some rp → rp = "" ∨ rp = standardPath p := by
  obtain ⟨format, s', hformat, hchain, hch, -⟩ := handle_forwarded inst.serde inst.middlewares around upstream hf
  obtain ⟨hentry, htarget⟩ := h.carries hchain hch
  have hdetected : f.ctx.detectedFormat = some p := by
    rw [(requestChain_frame (congrArg Prod.fst hchain)).2, prepareContext_detectedFormat]
    rw [h.path, detectApiFormat_standardPath] at hformat
    exact hformat.symm
  obtain ⟨body, hreq⟩ := requestChain_unconverted (congrArg Prod.fst hchain) (htarget.trans hdetected.symm)
  have hpath : f.req.path = standardPath p := by rw [hreq, h.path]
  rw [ProbesUrlOf, buildProbeRequest_url h.known, hentry.outgoing_url, Option.some_inj, String.append_right_inj,
    eq_comm, ← hpath, hentry.upstreamPath_eq_iff]

namespace ProbeSample

variable (baseUrl rewritePath : String)

def protocolsText : String := "[\x7b\"protocol\":\"openai_chat\",\"baseUrl\":\"" ++ baseUrl ++
  "\",\"rewritePath\":\"" ++ rewritePath ++ "\"\x7d]"

def entry : ProtocolEntry := ⟨"openai_chat", baseUrl, some rewritePath⟩

def serde : Serde :=
  { Router.Sample.serde with
    protocolEntries := fun s =>
      if s = protocolsText baseUrl rewritePath then .ok [entry baseUrl rewritePath]
      else .error AgentProxy.Sample.parseError }

def installation : Installation := { Server.Sample.installation with serde := serde baseUrl rewritePath }

def channel : Channel :=
  { Router.Sample.channel "deepseek" "DeepSeek Official" "sk" with protocols := protocolsText baseUrl rewritePath }

def database : Database :=
  { Router.Sample.database "deepseek" "DeepSeek Official" "sk" with
    channels := ⟨[channel baseUrl rewritePath], List.nodup_singleton _⟩ }

def state : ProxyState := ⟨fromStorage (serde baseUrl rewritePath) (database baseUrl rewritePath), true⟩

def forwarded : Option Forwarded :=
  (handleProxyRequest (installation baseUrl rewritePath).serde (installation baseUrl rewritePath).middlewares
    Server.Sample.around (fun _ => .answered .ok [] (.ok (.utf8 ""))) 1024 (state baseUrl rewritePath)
    Server.Sample.incoming).forwarded

end ProbeSample

open ProbeSample in
theorem probe_url_matches_trailing_slash : ∃ f, forwarded "https://api.example/" "" = some f ∧
    ProbesUrlOf (outgoing f.req f.channel) (entry "https://api.example/" "") "sonnet" := by
  refine ⟨_, rfl, ?_⟩
  rw [probe_url_matches_iff (installation "https://api.example/" "") Server.Sample.around
    (fun _ => .answered .ok [] (.ok (.utf8 ""))) 1024 (database "https://api.example/" "")
    (state "https://api.example/" "") Server.Sample.incoming _ rfl (channel "https://api.example/" "")
    (entry "https://api.example/" "") .openaiChat ⟨rfl, by decide, rfl, rfl, rfl, rfl, rfl⟩]
  rintro rp hrp
  exact .inl (Option.some.inj hrp).symm

open ProbeSample in
theorem probe_ignores_rewrite_path : ∃ f, forwarded "https://api.deepseek.com" "/chat/completions" = some f ∧
    RoutedToFirst (installation "https://api.deepseek.com" "/chat/completions")
      (database "https://api.deepseek.com" "/chat/completions")
      (state "https://api.deepseek.com" "/chat/completions") Server.Sample.incoming f
      (channel "https://api.deepseek.com" "/chat/completions")
      (entry "https://api.deepseek.com" "/chat/completions") .openaiChat ∧
    ¬ ProbesUrlOf (outgoing f.req f.channel) (entry "https://api.deepseek.com" "/chat/completions") "sonnet" := by
  refine ⟨_, rfl, ⟨rfl, by decide, rfl, rfl, rfl, rfl, rfl⟩, ?_⟩
  unfold ProbesUrlOf
  decide

end AgentProxy.Admin
