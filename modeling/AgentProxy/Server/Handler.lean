import AgentProxy.Bridge.Middleware
import AgentProxy.Router.Middleware
import AgentProxy.Server.Compress
import AgentProxy.Server.Forward
import AgentProxy.Server.Sse

namespace AgentProxy.Server

inductive SharedOp where
  | router (op : Router.RouterOp)
  | responseStats (stats : ResponseStats)
  deriving DecidableEq

structure ProxyState where
  router : Router.RouterState
  compressEnabled : Bool

structure Installation where
  serde : Serde
  compressors : Compressors
  aliasMap : String → Option String
  core : Bridge.LlmBridgeCore
  now : ℕ
  month : ℕ

namespace Installation

variable (inst : Installation)

def compress : Middleware ProxyState SharedOp where
  name := "compress"
  onRequest s req ctx :=
    (if s.compressEnabled then compressOnRequest inst.serde inst.compressors req ctx else .ok (req, ctx), s)
  onResponse s res _ :=
    if s.compressEnabled then
      let out := compressOnResponse inst.serde inst.compressors res
      (out.1.toList.map .responseStats, .ok out.2)
    else ([], .ok res)

def modelRouter : Middleware ProxyState SharedOp where
  name := "model-router"
  onRequest s req ctx :=
    let out := Router.onRequest inst.serde inst.now inst.month s.router req ctx
    (out.1.mapError .error, { s with router := out.2 })
  onResponse _ res ctx := ((Router.onResponse inst.serde res ctx).map .router, .ok res)

def bridge : Middleware ProxyState SharedOp where
  name := "bridge"
  onRequest s req ctx := ((Bridge.onRequest inst.serde inst.core req ctx).2.mapError .error, s)
  onResponse _ res ctx := ([], (Bridge.onResponse inst.serde inst.core res ctx).2)

def middlewares : List (Middleware ProxyState SharedOp) :=
  [inst.compress, modelAlias inst.serde inst.aliasMap, inst.modelRouter, inst.bridge]

end Installation

inductive Reply where
  | notFound (path : String)
  | bodyTooLarge (message : String)
  | failed (e : ProxyError)
  | aborted
  | response (res : ProxyResponse)

def parseUsize (s : String) : Option ℕ :=
  let digits := match s.toList with
    | '+' :: rest => rest
    | cs => cs
  if digits.isEmpty ∨ digits.any (fun c => !c.isDigit) then none
  else
    let n := digits.foldl (fun n c => n * 10 + (c.toNat - '0'.toNat)) 0
    if n < 2 ^ 64 then some n else none

def validateProxyRequest (req : ProxyRequest) : Except ProxyError Unit :=
  match (headerText req.headers "content-type").filter fun ct =>
      !"application/json".toList.isPrefixOf ct.toList with
  | some ct => .error (.badRequest ("unsupported content-type: " ++ ct ++ ". expected application/json"))
  | none => if req.body.isEmpty then .error (.badRequest "empty request body") else .ok ()

structure ResponsePhase (ω : Type) where
  ops : List ω
  reply : Reply
  costBody : Option Json

section

variable {σ ω : Type} (serde : Serde) (middlewares : List (Middleware σ ω)) (s : σ) (ctx : ConnectionContext)

def handleResponse (readError : String) (streaming : Bool) (costBody : Body → Option Json)
    (status : StatusCode) (headers : HeaderMap) (body : Except String Body) : ResponsePhase ω :=
  match body with
  | .error e => ⟨[], .failed (.upstream (readError ++ e)), none⟩
  | .ok bytes =>
    match runOnResponseChain middlewares s ⟨status, headers, bytes, streaming⟩ ctx with
    | (ops, .error e) => ⟨ops, .failed e, none⟩
    | (ops, .ok res) => ⟨ops, .response (buildAxumResponse res), costBody res.body⟩

def handleNonStreamingResponse (status : StatusCode) (headers : HeaderMap) (body : Except String Body) :
    ResponsePhase ω :=
  handleResponse middlewares s ctx "failed to read upstream response: " false
    (fun b => (serde.fromSlice b).toOption) status headers body

def handleStreamingResponse (status : StatusCode) (headers : HeaderMap) (body : Except String Body) :
    ResponsePhase ω :=
  handleResponse middlewares s ctx "failed to read streaming response: " true
    (fun b => some (extractUsageFromSse serde b)) status headers body

def handleOutcome (req : ProxyRequest) : UpstreamOutcome → ResponsePhase ω
  | .failed e => ⟨[], .failed e.toProxyError, none⟩
  | .answered status headers body =>
    if req.isStreaming serde then handleStreamingResponse serde middlewares s ctx status headers body
    else handleNonStreamingResponse serde middlewares s ctx status headers body

end

structure Forwarded where
  req : ProxyRequest
  ctx : ConnectionContext
  channel : ChannelConfig
  outcome : UpstreamOutcome

structure Handled (σ ω : Type) where
  state : σ
  forwarded : Option Forwarded
  phase : ResponsePhase ω

structure Incoming where
  request : ProxyRequest
  agentRole : Option String
  requestId : UInt64
  startedAt : ℕ

def Incoming.context (inc : Incoming) (format : ApiFormat) : ConnectionContext where
  requestId := inc.requestId
  agentType := detectAgentType inc.request.headers inc.request.path
  agentRole := inc.agentRole
  detectedFormat := some format
  startedAt := inc.startedAt

section

variable {σ ω : Type} (serde : Serde) (middlewares : List (Middleware σ ω)) (around : Surroundings)
  (upstream : Outgoing → UpstreamOutcome)

def proxy (s : σ) (req : ProxyRequest) (ctx : ConnectionContext) : Handled σ ω :=
  match runOnRequestChain middlewares s req ctx with
  | (.error (.error e), s') => ⟨s', none, [], .failed e, none⟩
  | (.error .panic, s') => ⟨s', none, [], .aborted, none⟩
  | (.ok (req', ctx'), s') =>
    match ctx'.selectedChannel with
    | none => ⟨s', none, [], .failed (.channelSelection "unknown"), none⟩
    | some channel =>
      let outcome := upstream (outgoing req' channel)
      ⟨s', some ⟨req', ctx', channel, outcome⟩, handleOutcome serde middlewares s' ctx' req' outcome⟩

def handleProxyRequest (maxBodySize : ℕ) (s : σ) (inc : Incoming) : Handled σ ω :=
  match detectApiFormat inc.request.path with
  | none => ⟨s, none, [], .notFound inc.request.path, none⟩
  | some format =>
    if ((headerText inc.request.headers "content-length").bind parseUsize).any fun len => maxBodySize < len then
      ⟨s, none, [], .bodyTooLarge ("request body exceeds size limit of " ++ toString maxBodySize), none⟩
    else if maxBodySize < inc.request.body.byteSize then
      ⟨s, none, [], .bodyTooLarge "request body exceeds size limit", none⟩
    else
      match validateProxyRequest inc.request with
      | .error e => ⟨s, none, [], .failed e, none⟩
      | .ok () =>
        proxy serde middlewares upstream s inc.request
          (prepareContext serde around inc.request.headers (inc.context format))

theorem proxy_forwarded {s : σ} {req : ProxyRequest} {ctx : ConnectionContext} {f : Forwarded}
    (h : (proxy serde middlewares upstream s req ctx).forwarded = some f) :
    ∃ s', runOnRequestChain middlewares s req ctx = (.ok (f.req, f.ctx), s') ∧
      f.ctx.selectedChannel = some f.channel ∧ f.outcome = upstream (outgoing f.req f.channel) ∧
      (proxy serde middlewares upstream s req ctx).phase =
        handleOutcome serde middlewares s' f.ctx f.req f.outcome := by
  unfold proxy at h ⊢
  cases hc : runOnRequestChain middlewares s req ctx with
  | mk result s' =>
    cases result with
    | error e => cases e <;> simp [hc] at h
    | ok out =>
      simp only [hc] at h ⊢
      cases hch : out.2.selectedChannel with
      | none => simp [hch] at h
      | some channel =>
        simp only [hch, Option.some.injEq] at h ⊢
        subst h
        exact ⟨s', rfl, hch, rfl, rfl⟩

theorem handle_forwarded {maxBodySize : ℕ} {s : σ} {inc : Incoming} {f : Forwarded}
    (h : (handleProxyRequest serde middlewares around upstream maxBodySize s inc).forwarded = some f) :
    ∃ format s', detectApiFormat inc.request.path = some format ∧
      runOnRequestChain middlewares s inc.request
          (prepareContext serde around inc.request.headers (inc.context format)) = (.ok (f.req, f.ctx), s') ∧
      f.ctx.selectedChannel = some f.channel ∧ f.outcome = upstream (outgoing f.req f.channel) ∧
      (handleProxyRequest serde middlewares around upstream maxBodySize s inc).phase =
        handleOutcome serde middlewares s' f.ctx f.req f.outcome := by
  unfold handleProxyRequest at h ⊢
  cases hf : detectApiFormat inc.request.path with
  | none => simp [hf] at h
  | some format =>
    simp only [hf] at h ⊢
    split_ifs at h ⊢ with h1 h2
    cases hv : validateProxyRequest inc.request with
    | error e => simp [hv] at h
    | ok u =>
      simp only [hv] at h ⊢
      obtain ⟨s', hchain⟩ := proxy_forwarded serde middlewares upstream h
      exact ⟨format, s', rfl, hchain⟩

end

end AgentProxy.Server
