import AgentProxy.Bridge.Convert
import Mathlib.Algebra.Group.Nat.Defs

namespace AgentProxy.Bridge

variable (serde : Serde) (core : LlmBridgeCore)

def isUpstreamErrorBody (body : Body) : Bool :=
  ((serde.fromSlice body).toOption.bind fun v => v.get "error").isSome

def validateInput (req : ProxyRequest) : Except ProxyError Unit :=
  match serde.fromSlice req.body with
  | .error e => .error (.badRequest ("invalid JSON: " ++ e))
  | .ok value => (core.validateJsonDepth value).mapError fun e => .badRequest e.message

def insertHeader (headers : List (String × String)) (name value : String) : List (String × String) :=
  headers.filter (fun h => h.1 ≠ name) ++ [(name, value)]

def proxyRequestToTransformRequest (req : ProxyRequest) : TransformRequest where
  headers := req.headers.foldl (fun hs h => insertHeader hs h.1 (h.2.toStr.getD "")) []
  path := req.path
  body := req.body

def headerName (s : String) : Except ProxyError String :=
  if s.isEmpty = false ∧ s.utf8ByteSize < 2 ^ 16 ∧
      s.toList.all fun c => c.isAlphanum || "!#$%&'*+-.^_`|~".toList.contains c then .ok s.toLower
  else .error (.internal "invalid HTTP header name")

def headerValue (s : String) : Except ProxyError HeaderValue :=
  if s.toList.all fun c => (32 ≤ c.toNat && c.toNat < 127) || c = '\t' then .ok (.text s)
  else .error (.internal "failed to parse header value")

def headerMap : List (String × String) → HeaderMap → Except ProxyError HeaderMap
  | [], hs => .ok hs
  | (k, v) :: rest, hs => do
    let name ← headerName k
    let value ← headerValue v
    headerMap rest (hs.filter (fun h => h.1 ≠ name) ++ [(name, value)])

def applyTransformResponseToRequest (req : ProxyRequest) (res : TransformResponse) :
    Except ProxyError ProxyRequest := do
  let headers ← headerMap res.headers []
  .ok { req with path := res.path, body := res.body, headers }

def onRequest (req : ProxyRequest) (ctx : ConnectionContext) :
    List Call × Except ProxyError (ProxyRequest × ConnectionContext) :=
  match validateInput serde core req with
  | .error e => ([], .error e)
  | .ok _ =>
    match ctx.detectedFormat, ctx.targetProtocol with
    | none, _ => ([], .error (.badRequest "client protocol not detected"))
    | some _, none => ([], .error (.badRequest "upstream protocol not set by model-router"))
    | some client, some upstream =>
      if h : ConversionDirection.resolve client upstream = .passthrough then ([], .ok (req, ctx))
      else
        let converted := convertRequest core (proxyRequestToTransformRequest req) _ h
        (converted.1, do
          let bridgeRes ← converted.2
          let req' ← applyTransformResponseToRequest req bridgeRes
          .ok (req', { ctx with bridgeReverse := some true }))

def onResponse (res : ProxyResponse) (ctx : ConnectionContext) :
    List Call × Except ProxyError ProxyResponse :=
  if ctx.bridgeReverse.getD false = false then ([], .ok res)
  else
    match ctx.detectedFormat, ctx.targetProtocol with
    | none, _ => ([], .error (.internal "client protocol missing in response phase"))
    | some _, none => ([], .error (.internal "upstream protocol missing in response phase"))
    | some client, some upstream =>
      if h : ConversionDirection.resolve upstream client = .passthrough then ([], .ok res)
      else if isUpstreamErrorBody serde res.body then ([], .ok res)
      else if res.isStreaming then onResponseStreaming core res upstream client
      else
        let converted := convertResponse core ⟨[], "", res.body⟩ _ h
        (converted.1, converted.2.map fun bridgeRes => { res with body := bridgeRes.body })

end AgentProxy.Bridge
