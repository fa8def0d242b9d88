import AgentProxy.Core.Types
import AgentProxy.Router.Health
import AgentProxy.Storage.Tables
import Mathlib.Data.List.Induction
import Mathlib.Logic.Function.Basic

namespace AgentProxy.Router

open Storage

structure ResolvedMapping where
  mappingId : String
  clientName : String
  upstreamName : String
  billing : ChannelBilling
  allowedProtocols : List String
  deriving DecidableEq

structure ResolvedChannel where
  channelId : String
  channelName : String
  apiKey : String
  protocols : List ProtocolEntry
  enabled : Bool
  forceProtocol : Option String
  priority : ℕ
  mappings : List ResolvedMapping
  deriving DecidableEq

abbrev Candidate := ResolvedChannel × ResolvedMapping

/-- The shared state of `ModelRouterMiddleware`; a `DashMap` is a partial function. -/
structure RouterState where
  channels : List ResolvedChannel
  health : String → Option ChannelState
  quotaUsage : String → Option QuotaUsage
  channelApiKeys : String → Option String

def trimEndSlashes (s : String) : String := String.ofList ((s.toList.reverse.dropWhile (· = '/')).reverse)

def normalizeEntry (p : ProtocolEntry) : ProtocolEntry :=
  { p with baseUrl := trimEndSlashes p.baseUrl, rewritePath := p.rewritePath.filter fun rp => !rp.isEmpty }

section

variable (serde : Serde)

def resolveMapping (m : ModelMapping) : Option ResolvedMapping :=
  match ChannelBilling.fromStorage serde.pricing serde.flatFee m.billing m.pricingJson with
  | .ok billing => some
      { mappingId := m.id, clientName := m.clientName, upstreamName := m.upstreamName, billing
        allowedProtocols := (serde.strings m.protocols).toOption.getD [] }
  | .error _ => none

def parseProtocols (ch : Channel) : List ProtocolEntry :=
  (serde.protocolEntries ch.protocols).toOption.getD []

def resolveChannel (ch : Channel) (mappings : List ModelMapping) : Option ResolvedChannel :=
  if (parseProtocols serde ch).isEmpty then none else some
    { channelId := ch.id, channelName := ch.name, apiKey := ch.apiKey
      protocols := (parseProtocols serde ch).map normalizeEntry, enabled := ch.enabled
      forceProtocol := ch.forceProtocol, priority := ch.priority
      mappings := (mappings.filter (·.enabled)).filterMap (resolveMapping serde) }

def resolveChannels (db : Database) : List ResolvedChannel :=
  (listChannels db).filterMap fun ch => resolveChannel serde ch (listMappings db ch.id)

def initialApiKeys (channels : List ResolvedChannel) : String → Option String :=
  channels.foldl (fun keys ch =>
    if ch.apiKey.isEmpty then keys else Function.update keys ch.channelId (some ch.apiKey)) fun _ => none

def fromStorage (db : Database) : RouterState :=
  let channels := resolveChannels serde db
  { channels, health := fun _ => none, quotaUsage := fun _ => none
    channelApiKeys := initialApiKeys channels }

theorem resolveChannel_eq_some {ch : Channel} {mappings : List ModelMapping} {rc : ResolvedChannel}
    (h : resolveChannel serde ch mappings = some rc) :
    rc.channelId = ch.id ∧ rc.channelName = ch.name ∧ rc.apiKey = ch.apiKey := by
  unfold resolveChannel at h
  split_ifs at h
  cases h
  exact ⟨rfl, rfl, rfl⟩

theorem resolveChannel_mappings {ch : Channel} {mappings : List ModelMapping} {rc : ResolvedChannel}
    (h : resolveChannel serde ch mappings = some rc) :
    rc.mappings = (mappings.filter (·.enabled)).filterMap (resolveMapping serde) := by
  unfold resolveChannel at h
  split_ifs at h
  cases h
  rfl

theorem resolveChannel_congr (ch : Channel) {ms ms' : List ModelMapping}
    (h : (ms.filter (·.enabled)).filterMap (resolveMapping serde) =
      (ms'.filter (·.enabled)).filterMap (resolveMapping serde)) :
    resolveChannel serde ch ms = resolveChannel serde ch ms' := by
  simp only [resolveChannel, h]

theorem rowToChannel_fields (row : Channel) :
    (rowToChannel row).id = row.id ∧ (rowToChannel row).name = row.name ∧
      (rowToChannel row).apiKey = row.apiKey := by
  obtain ⟨status, hstatus⟩ := rowToChannel_eq row
  rw [hstatus]
  exact ⟨rfl, rfl, rfl⟩

theorem mem_listChannels {db : Database} {ch : Channel} :
    ch ∈ listChannels db ↔ ∃ row ∈ db.channels.rows, rowToChannel row = ch := by
  simp only [listChannels, List.mem_map, (List.perm_insertionSort _ _).mem_iff]

theorem mem_resolveChannels {db : Database} {rc : ResolvedChannel} (h : rc ∈ resolveChannels serde db) :
    ∃ row ∈ db.channels.rows, rc.channelId = row.id ∧ rc.channelName = row.name ∧
      rc.apiKey = row.apiKey := by
  obtain ⟨ch, hch, hrc⟩ := List.mem_filterMap.mp h
  obtain ⟨row, hrow, rfl⟩ := mem_listChannels.mp hch
  obtain ⟨hi, hn, hk⟩ := resolveChannel_eq_some serde hrc
  obtain ⟨hi', hn', hk'⟩ := rowToChannel_fields row
  exact ⟨row, hrow, hi.trans hi', hn.trans hn', hk.trans hk'⟩

theorem initialApiKeys_append (channels : List ResolvedChannel) (ch : ResolvedChannel) :
    initialApiKeys (channels ++ [ch]) = if ch.apiKey.isEmpty then initialApiKeys channels
      else Function.update (initialApiKeys channels) ch.channelId (some ch.apiKey) := by
  simp [initialApiKeys]

theorem initialApiKeys_eq_some {channels : List ResolvedChannel} {id key : String}
    (h : initialApiKeys channels id = some key) :
    key ≠ "" ∧ ∃ ch ∈ channels, ch.channelId = id ∧ ch.apiKey = key := by
  induction channels using List.reverseRecOn with
  | nil => cases h
  | append_singleton channels ch ih =>
    rw [initialApiKeys_append] at h
    have lift : initialApiKeys channels id = some key →
        key ≠ "" ∧ ∃ c ∈ channels ++ [ch], c.channelId = id ∧ c.apiKey = key := by
      intro h'
      obtain ⟨hne, c, hc, hid⟩ := ih h'
      exact ⟨hne, c, List.mem_append_left _ hc, hid⟩
    split_ifs at h with he
    · exact lift h
    · by_cases hid : id = ch.channelId
      · subst hid
        rw [Function.update_self, Option.some.injEq] at h
        subst h
        exact ⟨by simpa using he, ch, by simp, rfl, rfl⟩
      · rw [Function.update_of_ne hid] at h
        exact lift h

end

namespace Sample

def requestBody : Json := .obj [("model", .str "sonnet")]

def protocolsText : String := "[\x7b\"protocol\":\"openai_chat\",\"baseUrl\":\"https://api.example\"\x7d]"

def pricingText : String :=
  "\x7b\"type\":\"per_unit\",\"metric\":\x7b\"type\":\"tokens\"\x7d,\"per_unit\":1.0,\"currency\":\"USD\"\x7d"

def flatFeeText : String :=
  "\x7b\"quota\":\x7b\"MaxRequests\":\x7b\"per_month\":1\x7d\x7d,\"on_exhausted\":\"block\"\x7d"

def serde : Serde :=
  { AgentProxy.Sample.serdeOn [requestBody] with
    protocolEntries := fun s =>
      if s = protocolsText then .ok [⟨"openai_chat", "https://api.example", none⟩]
      else .error AgentProxy.Sample.parseError
    pricing := fun s =>
      if s = pricingText then .ok (.perUnit .tokens 1 "USD") else .error AgentProxy.Sample.parseError
    flatFee := fun s =>
      if s = flatFeeText then .ok ⟨none, some (.maxRequests 1), some .block⟩
      else .error AgentProxy.Sample.parseError
    pricingToString := fun _ => pricingText }

def channel (id name apiKey : String) : Channel where
  id := id
  name := name
  apiKey := apiKey
  protocol := "openai_chat"
  protocols := protocolsText
  isBuiltin := true
  enabled := true
  createdAt := 0
  updatedAt := 0
  healthStatus := "Healthy"
  cooldownUntil := none
  consecutiveFailures := 0
  billingType := "metered"
  monthlyQuota := none
  quotaPolicy := "fallback"
  priority := 0
  forceProtocol := none

def mapping (id channelId billing pricingJson : String) : ModelMapping where
  id := id
  channelId := channelId
  clientName := "sonnet"
  upstreamName := "sonnet"
  billing := billing
  pricingJson := pricingJson
  weight := 100
  enabled := true
  protocols := "[]"

def database (id name apiKey : String) : Database :=
  { Database.empty with
    channels := ⟨[channel id name apiKey], List.nodup_singleton _⟩
    mappings := ⟨[mapping "m1" id "metered" pricingText], List.nodup_singleton _⟩ }

def request : ProxyRequest := ⟨"POST", "/v1/chat/completions", [], .utf8 (AgentProxy.Sample.compact requestBody)⟩

def context : ConnectionContext where
  requestId := 1
  agentType := .unknown
  agentRole := none
  detectedFormat := some .openaiChat
  startedAt := 0

end Sample

example : (resolveChannels Sample.serde (Sample.database "deepseek" "DeepSeek Official" "sk")).map
    (fun ch => (ch.channelId, ch.channelName, ch.mappings.map (·.mappingId))) =
      [("deepseek", "DeepSeek Official", ["m1"])] := by decide

end AgentProxy.Router
