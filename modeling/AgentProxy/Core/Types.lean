import AgentProxy.Core.Json
import AgentProxy.Router.Billing

namespace AgentProxy

inductive ApiFormat where
  | anthropicMessages
  | openaiChat
  | openaiResponses
  deriving DecidableEq

inductive AgentType where
  | claude | codex | gemini | openCode | openClaw | hermes | unknown
  deriving DecidableEq

def AgentType.display : AgentType → String
  | claude => "claude-code"
  | codex => "codex"
  | gemini => "gemini"
  | openCode => "opencode"
  | openClaw => "openclaw"
  | hermes => "hermes"
  | unknown => "unknown"

inductive ProxyError where
  | upstream (source : String)
  | protocolConversion (msg : String)
  | channelSelection (model : String)
  | compression (msg : String)
  | badRequest (msg : String)
  | unauthorized
  | rateLimited (retryAfterNanos : ℕ)
  | circuitOpen (channel : String)
  | internal (msg : String)
  deriving DecidableEq

/-- Body bytes, split by whether they are valid UTF-8. -/
inductive Body where
  | utf8 (text : String)
  | binary (bytes : List UInt8)
  deriving DecidableEq

namespace Body

def isEmpty : Body → Bool
  | utf8 s => s.isEmpty
  | binary bytes => bytes.isEmpty

def byteSize : Body → ℕ
  | utf8 s => s.utf8ByteSize
  | binary bytes => bytes.length

end Body

inductive HeaderValue where
  | text (s : String)
  | binary (bytes : List UInt8)
  deriving DecidableEq

def HeaderValue.toStr : HeaderValue → Option String
  | text s => some s
  | binary _ => none

/-- Header names are stored in lower case, as `http::HeaderMap` does. -/
abbrev HeaderMap := List (String × HeaderValue)

structure StatusCode where
  code : ℕ
  valid : 100 ≤ code ∧ code < 1000
  deriving DecidableEq

namespace StatusCode

def ok : StatusCode := ⟨200, by decide⟩

def badRequest : StatusCode := ⟨400, by decide⟩

def unauthorized : StatusCode := ⟨401, by decide⟩

def tooManyRequests : StatusCode := ⟨429, by decide⟩

def internalServerError : StatusCode := ⟨500, by decide⟩

def badGateway : StatusCode := ⟨502, by decide⟩

def serviceUnavailable : StatusCode := ⟨503, by decide⟩

def isClientError (s : StatusCode) : Bool := decide (400 ≤ s.code ∧ s.code < 500)

def isServerError (s : StatusCode) : Bool := decide (500 ≤ s.code ∧ s.code < 600)

end StatusCode

structure ProxyRequest where
  method : String
  path : String
  headers : HeaderMap
  body : Body

structure ProxyResponse where
  status : StatusCode
  headers : HeaderMap
  body : Body
  isStreaming : Bool

structure ChannelConfig where
  url : String
  apiKey : String
  protocol : ApiFormat
  name : String
  rewritePath : Option String
  deriving DecidableEq

structure SelectedMappingInfo where
  channelId : String
  mappingId : String
  clientName : String
  upstreamName : String
  isFlatFee : Bool
  pricing : Option Pricing
  pricingSnapshotJson : String
  deriving DecidableEq

structure CompressionStats where
  tokenlessPre : UInt64 := 0
  tokenlessPost : UInt64 := 0
  tokenlessExperimental : UInt64 := 0
  proxyReqPre : UInt64 := 0
  proxyReqPost : UInt64 := 0
  proxyResPre : UInt64 := 0
  proxyResPost : UInt64 := 0
  rtkSaved : UInt64 := 0
  deriving DecidableEq

def saturatingSub (a b : UInt64) : UInt64 := if a < b then 0 else a - b

namespace CompressionStats

def tokenlessSaved (s : CompressionStats) : UInt64 := saturatingSub s.tokenlessPre s.tokenlessPost

def proxySchemaSaved (s : CompressionStats) : UInt64 := saturatingSub s.proxyReqPre s.proxyReqPost

def proxyResponseSaved (s : CompressionStats) : UInt64 := saturatingSub s.proxyResPre s.proxyResPost

def totalSaved (s : CompressionStats) : UInt64 :=
  s.tokenlessSaved + s.tokenlessExperimental + s.proxySchemaSaved + s.proxyResponseSaved + s.rtkSaved

end CompressionStats

/-- The extension map is a field per well-known key of `extensions.rs`. -/
structure ConnectionContext where
  requestId : UInt64
  agentType : AgentType
  agentRole : Option String
  detectedFormat : Option ApiFormat
  startedAt : ℕ
  targetProtocol : Option ApiFormat := none
  selectedChannel : Option ChannelConfig := none
  selectedMapping : Option SelectedMappingInfo := none
  bridgeReverse : Option Bool := none
  compressionStats : Option CompressionStats := none
  sessionId : Option String := none
  projectPath : Option String := none
  userName : Option String := none
  tokenlessSavedTokens : UInt64 := 0
  tokenlessRtkSaved : UInt64 := 0
  tokenlessResponseSaved : UInt64 := 0
  tokenlessSchemaSaved : UInt64 := 0
  tokenlessBreakdownJson : Option String := none

structure ProtocolEntry where
  protocol : String
  baseUrl : String
  rewritePath : Option String
  deriving DecidableEq

structure ProxyReport where
  sessionId : String
  agentId : String
  projectPath : Option String
  userName : Option String
  opType : String
  method : Option String
  beforeTokens : UInt64
  afterTokens : UInt64
  savedTokens : UInt64
  beforeBytes : UInt64
  afterBytes : UInt64
  savedBytes : UInt64
  timestamp : String
  deriving DecidableEq

structure TokenlessHeader where
  pre : Option UInt64
  post : Option UInt64
  experimental : Option UInt64

/-- `serde_json`, which is not part of the repository: each field is one instance of
`from_str`/`from_slice` or `to_string`/`to_vec` that the code uses. -/
structure Serde where
  value : String → Except String Json
  protocolEntries : String → Except String (List ProtocolEntry)
  strings : String → Except String (List String)
  pricing : String → Except String Pricing
  flatFee : String → Except String FlatFeeConfig
  proxyReport : String → Except String ProxyReport
  tokenlessHeader : String → Except String TokenlessHeader
  valueToString : Json → String
  pricingToString : Pricing → String

def Serde.fromSlice (serde : Serde) : Body → Except String Json
  | .utf8 s => serde.value s
  | .binary _ => .error "invalid unicode code point"

def ProxyRequest.withJson (serde : Serde) (req : ProxyRequest) (v : Json) : ProxyRequest :=
  { req with body := .utf8 (serde.valueToString v) }

def ProxyRequest.isStreaming (serde : Serde) (req : ProxyRequest) : Bool :=
  (((serde.fromSlice req.body).toOption.bind fun v => v.get "stream").bind Json.asBool).getD false

namespace Sample

mutual

def compact : Json → String
  | .null => "null"
  | .bool b => toString b
  | .num (.posInt n) => toString n.toNat
  | .num (.negInt n) => toString n.toInt
  | .num (.float _) => ""
  | .str s => "\"" ++ s ++ "\""
  | .arr items => "[" ++ ",".intercalate (compactItems items) ++ "]"
  | .obj fields => "\x7b" ++ ",".intercalate (compactFields fields) ++ "\x7d"

def compactItems : List Json → List String
  | [] => []
  | v :: rest => compact v :: compactItems rest

def compactFields : List (String × Json) → List String
  | [] => []
  | (k, v) :: rest => ("\"" ++ k ++ "\":" ++ compact v) :: compactFields rest

end

def parseError : String := "expected value at line 1 column 1"

def serdeOn (documents : List Json) : Serde where
  value s :=
    match documents.find? fun v => compact v = s with
    | some v => .ok v
    | none => .error parseError
  protocolEntries _ := .error parseError
  strings s := if s = "[]" then .ok [] else .error parseError
  pricing _ := .error parseError
  flatFee _ := .error parseError
  proxyReport _ := .error parseError
  tokenlessHeader _ := .error parseError
  valueToString := compact
  pricingToString _ := ""

end Sample

end AgentProxy
