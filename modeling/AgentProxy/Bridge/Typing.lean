import AgentProxy.Bridge.Middleware
import AgentProxy.Router.Middleware

namespace AgentProxy.Bridge

inductive Payload where
  | request
  | response
  | stream
  deriving DecidableEq

def responsePayload (streaming : Bool) : Payload := if streaming then .stream else .response

def RequestTransform.source : RequestTransform → ApiFormat
  | anthropicToOpenai => .anthropicMessages
  | anthropicToOpenaiResponses => .anthropicMessages
  | openaiToAnthropic => .openaiChat
  | responsesToAnthropic => .openaiResponses
  | responsesToOpenai => .openaiResponses

def RequestTransform.target : RequestTransform → ApiFormat
  | anthropicToOpenai => .openaiChat
  | anthropicToOpenaiResponses => .openaiResponses
  | openaiToAnthropic => .anthropicMessages
  | responsesToAnthropic => .anthropicMessages
  | responsesToOpenai => .openaiChat

def ResponseTransform.source : ResponseTransform → ApiFormat
  | openaiResponseToAnthropicMessage => .openaiChat
  | anthropicResponseToOpenaiResponse => .anthropicMessages
  | anthropicResponseToResponsesResponse => .anthropicMessages

def ResponseTransform.target : ResponseTransform → ApiFormat
  | openaiResponseToAnthropicMessage => .anthropicMessages
  | anthropicResponseToOpenaiResponse => .openaiChat
  | anthropicResponseToResponsesResponse => .openaiResponses

def StreamTransform.target : StreamTransform → ApiFormat
  | toAnthropicSse => .anthropicMessages
  | toOpenaiSse => .openaiChat
  | toOpenaiResponsesSse => .openaiResponses

/-- Every transform takes its source format to its target format. -/
structure TypedCore (core : LlmBridgeCore) (formatOf : Payload → Body → Option ApiFormat) : Prop where
  request : ∀ t req res, formatOf .request req.body = some t.source → core.request t req = .ok res →
    formatOf .request res.body = some t.target
  response : ∀ t req res, formatOf .response req.body = some t.source → core.response t req = .ok res →
    formatOf .response res.body = some t.target
  stream : ∀ t source body out, formatOf .stream body = some source →
    core.stream t source body = .ok out → formatOf .stream out = some t.target

def Call.Receives (formatOf : Payload → Body → Option ApiFormat) : Call → Prop
  | request t body => formatOf .request body = some t.source
  | response t body => formatOf .response body = some t.source
  | stream _ source body => formatOf .stream body = some source

section

variable {serde : Serde} {core : LlmBridgeCore} {formatOf : Payload → Body → Option ApiFormat}
variable {client target : ApiFormat} {req req' : ProxyRequest} {ctx ctx' : ConnectionContext}

variable (serde core formatOf) in
def RequestTyped (req : ProxyRequest) (ctx : ConnectionContext) : Prop :=
  ∀ call ∈ (onRequest serde core req ctx).1, call.Receives formatOf

variable (serde core formatOf) in
def ResponseTyped (res : ProxyResponse) (ctx : ConnectionContext) : Prop :=
  (∀ call ∈ (onResponse serde core res ctx).1, call.Receives formatOf) ∧
    ∀ res', (onResponse serde core res ctx).2 = .ok res' →
      formatOf (responsePayload res.isStreaming) res'.body = ctx.detectedFormat

theorem onRequest_passthrough (hvalid : validateInput serde core req = .ok ())
    (hc : ctx.detectedFormat = some client) (ht : ctx.targetProtocol = some client) :
    onRequest serde core req ctx = ([], .ok (req, ctx)) := by
  have hp : ConversionDirection.resolve client client = .passthrough := resolve_eq_passthrough.mpr rfl
  simp only [onRequest, hvalid, hc, ht, hp, ↓reduceDIte]

theorem onRequest_convert (hvalid : validateInput serde core req = .ok ())
    (hc : ctx.detectedFormat = some client) (ht : ctx.targetProtocol = some target)
    (h : ConversionDirection.resolve client target ≠ .passthrough) :
    (onRequest serde core req ctx).1 = [.request (requestTransform _ h) req.body] ∧
      (∀ req' ctx', (onRequest serde core req ctx).2 = .ok (req', ctx') →
        ∃ out, core.request (requestTransform _ h) (proxyRequestToTransformRequest req) = .ok out ∧
          req'.body = out.body ∧ ctx' = { ctx with bridgeReverse := some true }) := by
  simp only [onRequest, hvalid, hc, ht, h, ↓reduceDIte, convertRequest]
  refine ⟨rfl, fun req' ctx' hok => ?_⟩
  cases ho : core.request (requestTransform _ h) (proxyRequestToTransformRequest req) with
  | error e => simp [ho, Except.mapError, bind, Except.bind] at hok
  | ok out =>
    simp only [ho, Except.mapError, bind, Except.bind, applyTransformResponseToRequest] at hok
    cases hh : headerMap out.headers [] with
    | error e => simp [hh] at hok
    | ok headers =>
      simp only [hh, Except.ok.injEq, Prod.mk.injEq] at hok
      exact ⟨out, rfl, by rw [← hok.1], hok.2.symm⟩

theorem requestTransform_typed (h : ConversionDirection.resolve client target ≠ .passthrough) :
    ((requestTransform _ h).source = client ↔ ¬ (client = .openaiChat ∧ target = .openaiResponses)) ∧
      ((requestTransform _ h).source = client → (requestTransform _ h).target = target) := by
  cases client <;> cases target <;> decide +revert

theorem requestTyped_iff (hvalid : validateInput serde core req = .ok ())
    (hc : ctx.detectedFormat = some client) (ht : ctx.targetProtocol = some target)
    (hreq : formatOf .request req.body = some client) :
    RequestTyped serde core formatOf req ctx ↔
      ¬ (client = .openaiChat ∧ target = .openaiResponses) := by
  by_cases hd : client = target
  · subst hd
    rw [RequestTyped, onRequest_passthrough hvalid hc ht]
    constructor
    · rintro - ⟨h, h'⟩
      rw [h] at h'
      cases h'
    · intro _ call hcall
      cases hcall
  · have h : ConversionDirection.resolve client target ≠ .passthrough := mt resolve_eq_passthrough.mp hd
    have hcalls := (onRequest_convert hvalid hc ht h).1
    rw [RequestTyped, hcalls, ← (requestTransform_typed h).1]
    simp only [List.mem_singleton, forall_eq, Call.Receives, hreq, Option.some.injEq, eq_comm]

theorem forwarded_typed (hcore : TypedCore core formatOf) (hvalid : validateInput serde core req = .ok ())
    (hc : ctx.detectedFormat = some client) (ht : ctx.targetProtocol = some target)
    (hreq : formatOf .request req.body = some client)
    (hpair : ¬ (client = .openaiChat ∧ target = .openaiResponses))
    (hok : (onRequest serde core req ctx).2 = .ok (req', ctx')) :
    formatOf .request req'.body = some target := by
  by_cases hd : client = target
  · subst hd
    rw [onRequest_passthrough hvalid hc ht] at hok
    cases hok
    exact hreq
  · have h : ConversionDirection.resolve client target ≠ .passthrough := mt resolve_eq_passthrough.mp hd
    obtain ⟨out, hout, hbody, -⟩ := (onRequest_convert hvalid hc ht h).2 _ _ hok
    have hsource := (requestTransform_typed h).1.mpr hpair
    rw [hbody, ← (requestTransform_typed h).2 hsource]
    exact hcore.request _ _ _ (by rw [hsource]; exact hreq) hout

theorem forwarded_context (hvalid : validateInput serde core req = .ok ())
    (hc : ctx.detectedFormat = some client) (ht : ctx.targetProtocol = some target)
    (hok : (onRequest serde core req ctx).2 = .ok (req', ctx')) :
    ctx'.detectedFormat = some client ∧ ctx'.targetProtocol = some target ∧
      (client ≠ target → ctx'.bridgeReverse = some true) := by
  by_cases hd : client = target
  · subst hd
    rw [onRequest_passthrough hvalid hc ht] at hok
    cases hok
    exact ⟨hc, ht, fun h => absurd rfl h⟩
  · have h : ConversionDirection.resolve client target ≠ .passthrough := mt resolve_eq_passthrough.mp hd
    obtain ⟨out, -, -, rfl⟩ := (onRequest_convert hvalid hc ht h).2 _ _ hok
    exact ⟨hc, ht, fun _ => rfl⟩

theorem applyResponse_typed (hcore : TypedCore core formatOf) (t : ResponseTransform) {r : TransformRequest}
    (hr : formatOf .response r.body = some t.source) :
    (∀ call ∈ (applyResponse core t r).1, call.Receives formatOf) ∧
      ∀ out, (applyResponse core t r).2 = .ok out → formatOf .response out.body = some t.target := by
  refine ⟨by simpa [applyResponse, Call.Receives] using hr, fun out hout => ?_⟩
  cases ho : core.response t r with
  | error e => simp [applyResponse, ho, Except.mapError] at hout
  | ok out' =>
    simp only [applyResponse, ho, Except.mapError, Except.ok.injEq] at hout
    subst hout
    exact hcore.response t r _ hr ho

theorem convertResponse_typed (hcore : TypedCore core formatOf) {r : TransformRequest}
    (hr : formatOf .response r.body = some target) (hne : target ≠ .openaiResponses)
    (h : ConversionDirection.resolve target client ≠ .passthrough) :
    (∀ call ∈ (convertResponse core r _ h).1, call.Receives formatOf) ∧
      ∀ out, (convertResponse core r _ h).2 = .ok out → formatOf .response out.body = some client := by
  cases target with
  | openaiResponses => exact absurd rfl hne
  | anthropicMessages =>
    cases client with
    | anthropicMessages => exact absurd rfl h
    | openaiChat => exact applyResponse_typed hcore .anthropicResponseToOpenaiResponse hr
    | openaiResponses => exact applyResponse_typed hcore .anthropicResponseToResponsesResponse hr
  | openaiChat =>
    have first := applyResponse_typed hcore .openaiResponseToAnthropicMessage hr
    cases client with
    | openaiChat => exact absurd rfl h
    | anthropicMessages => exact first
    | openaiResponses =>
      -- the composed conversion: the intermediate message is in the source format of the second step
      simp only [ConversionDirection.resolve, convertResponse]
      cases ha : applyResponse core .openaiResponseToAnthropicMessage r with
      | mk calls result =>
        rw [ha] at first
        cases result with
        | error e => exact ⟨first.1, fun out hout => by cases hout⟩
        | ok intermediate =>
          have second := applyResponse_typed hcore .anthropicResponseToResponsesResponse
            (r := ⟨intermediate.headers, intermediate.path, intermediate.body⟩) (first.2 intermediate rfl)
          refine ⟨fun call hcall => ?_, second.2⟩
          rcases List.mem_append.mp hcall with hcall | hcall
          · exact first.1 call hcall
          · exact second.1 call hcall

variable (core) in
theorem convertResponse_mistyped (r : TransformRequest) (hr : formatOf .response r.body = some .openaiResponses)
    (h : ConversionDirection.resolve .openaiResponses client ≠ .passthrough) :
    ∃ call ∈ (convertResponse core r _ h).1, ¬ call.Receives formatOf := by
  refine ⟨.response .openaiResponseToAnthropicMessage r.body, ?_, ?_⟩
  · cases client with
    | openaiResponses => exact absurd rfl h
    | anthropicMessages => exact List.mem_singleton.mpr rfl
    | openaiChat =>
      simp only [ConversionDirection.resolve, convertResponse]
      cases ha : applyResponse core .openaiResponseToAnthropicMessage r with
      | mk calls result =>
        have hcalls : calls = [.response .openaiResponseToAnthropicMessage r.body] :=
          (congrArg Prod.fst ha).symm
        cases result <;> simp [hcalls]
  · simp [Call.Receives, hr, ResponseTransform.source]

theorem onResponseStreaming_typed (hcore : TypedCore core formatOf) {res : ProxyResponse}
    (hres : formatOf .stream res.body = some target) :
    (∀ call ∈ (onResponseStreaming core res target client).1, call.Receives formatOf) ∧
      ∀ res', (onResponseStreaming core res target client).2 = .ok res' →
        formatOf .stream res'.body = some client := by
  refine ⟨by simpa [onResponseStreaming, Call.Receives] using hres, fun res' hok => ?_⟩
  cases ho : core.stream (streamTransform client) target res.body with
  | error e => simp [onResponseStreaming, ho] at hok
  | ok out =>
    simp only [onResponseStreaming, ho, Except.ok.injEq] at hok
    subst hok
    have htarget : (streamTransform client).target = client := by cases client <;> rfl
    rw [← htarget]
    exact hcore.stream _ _ _ _ hres ho

theorem responseTyped_iff (hcore : TypedCore core formatOf) (hc : ctx.detectedFormat = some client)
    (ht : ctx.targetProtocol = some target) (hrev : client ≠ target → ctx.bridgeReverse = some true)
    {res : ProxyResponse} (hres : formatOf (responsePayload res.isStreaming) res.body = some target) :
    ResponseTyped serde core formatOf res ctx ↔ client = target ∨
      (isUpstreamErrorBody serde res.body = false ∧ (target ≠ .openaiResponses ∨ res.isStreaming = true)) := by
  by_cases hd : client = target
  · subst hd
    have hpass : onResponse serde core res ctx = ([], .ok res) := by
      have hp : ConversionDirection.resolve client client = .passthrough := resolve_eq_passthrough.mpr rfl
      simp only [onResponse, hc, ht, hp, ↓reduceDIte, ite_self]
    refine iff_of_true ?_ (Or.inl rfl)
    rw [ResponseTyped, hpass]
    refine ⟨fun call hcall => absurd hcall List.not_mem_nil, fun res' hok => ?_⟩
    cases hok
    rw [hres, hc]
  · have h : ConversionDirection.resolve target client ≠ .passthrough :=
      mt resolve_eq_passthrough.mp (Ne.symm hd)
    rw [or_iff_right hd]
    simp only [ResponseTyped, onResponse, hrev hd, Option.getD_some, Bool.true_eq_false, ↓reduceIte, hc, ht,
      h, ↓reduceDIte]
    cases he : isUpstreamErrorBody serde res.body with
    | true =>
      -- passed on as it came, in the format of the upstream
      refine iff_of_false (fun hty => hd ?_) (by simp)
      have hback := hty.2 res (by simp)
      rw [hres] at hback
      exact (Option.some.inj hback).symm
    | false =>
      cases hs : res.isStreaming with
      | true =>
        rw [hs] at hres
        exact iff_of_true (onResponseStreaming_typed hcore hres) (by simp)
      | false =>
        rw [hs] at hres
        simp only [Bool.false_eq_true, ↓reduceIte, true_and, or_false, responsePayload]
        by_cases hr : target = .openaiResponses
        · subst hr
          obtain ⟨call, hcall, hbad⟩ := convertResponse_mistyped core ⟨[], "", res.body⟩ hres h
          exact iff_of_false (fun hty => hbad (hty.1 call hcall)) (by simp)
        · have hty := convertResponse_typed hcore (r := ⟨[], "", res.body⟩) hres hr h
          refine iff_of_true ⟨hty.1, fun res' hok => ?_⟩ hr
          obtain ⟨out, hout, rfl⟩ : ∃ out, (convertResponse core ⟨[], "", res.body⟩ _ h).2 = .ok out ∧
              { res with body := out.body } = res' := by
            cases hcv : (convertResponse core ⟨[], "", res.body⟩ _ h).2 with
            | error e => simp [hcv, Except.map] at hok
            | ok out => exact ⟨out, rfl, by simpa [hcv, Except.map, hs] using hok⟩
          exact hty.2 out hout

end

end AgentProxy.Bridge
