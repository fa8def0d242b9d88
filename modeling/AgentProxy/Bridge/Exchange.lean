import AgentProxy.Bridge.Typing

namespace AgentProxy.Bridge

open Router

section

variable {serde : Serde} {core : LlmBridgeCore} {formatOf : Payload → Body → Option ApiFormat}

variable (serde core formatOf) in
def ExchangeTyped (req : ProxyRequest) (ctx : ConnectionContext) (req' : ProxyRequest)
    (ctx' : ConnectionContext) (res : ProxyResponse) : Prop :=
  RequestTyped serde core formatOf req ctx ∧ formatOf .request req'.body = ctx'.targetProtocol ∧
    ResponseTyped serde core formatOf res ctx'

variable (serde core formatOf) in
def BridgeTyping : Prop :=
  ∀ (c : Candidate) (apiKey : String) (body : Json) (req₀ req : ProxyRequest)
    (ctx₀ ctx : ConnectionContext) (client : ApiFormat),
    routeTo serde c apiKey body req₀ ctx₀ = .ok (req, ctx) → ctx₀.detectedFormat = some client →
    formatOf .request req.body = some client →
    RequestTyped serde core formatOf req ctx ∧
      ∀ req' ctx' res, (onRequest serde core req ctx).2 = .ok (req', ctx') →
        formatOf (responsePayload res.isStreaming) res.body = ctx'.targetProtocol →
        ExchangeTyped serde core formatOf req ctx req' ctx' res

theorem onRequest_valid {req req' : ProxyRequest} {ctx ctx' : ConnectionContext}
    (hok : (onRequest serde core req ctx).2 = .ok (req', ctx')) : validateInput serde core req = .ok () := by
  cases hv : validateInput serde core req with
  | error e => simp [onRequest, hv] at hok
  | ok u => rfl

theorem onRequest_invalid {req : ProxyRequest} {ctx : ConnectionContext}
    (hv : validateInput serde core req ≠ .ok ()) : (onRequest serde core req ctx).1 = [] := by
  cases hv' : validateInput serde core req with
  | error e => simp [onRequest, hv']
  | ok u => exact absurd hv' hv

theorem exchangeTyped_iff (hcore : TypedCore core formatOf) {client target : ApiFormat}
    {req req' : ProxyRequest} {ctx ctx' : ConnectionContext} (hc : ctx.detectedFormat = some client)
    (ht : ctx.targetProtocol = some target) (hreq : formatOf .request req.body = some client)
    (hok : (onRequest serde core req ctx).2 = .ok (req', ctx')) {res : ProxyResponse}
    (hres : formatOf (responsePayload res.isStreaming) res.body = some target) :
    ExchangeTyped serde core formatOf req ctx req' ctx' res ↔ client = target ∨
      (isUpstreamErrorBody serde res.body = false ∧
        (target ≠ .openaiResponses ∨ (client = .anthropicMessages ∧ res.isStreaming = true))) := by
  have hvalid := onRequest_valid hok
  obtain ⟨hc', ht', hrev⟩ := forwarded_context hvalid hc ht hok
  have hforward : RequestTyped serde core formatOf req ctx → formatOf .request req'.body = ctx'.targetProtocol := by
    intro hty
    rw [ht']
    exact forwarded_typed hcore hvalid hc ht hreq ((requestTyped_iff hvalid hc ht hreq).mp hty) hok
  have hshort : ExchangeTyped serde core formatOf req ctx req' ctx' res ↔
      RequestTyped serde core formatOf req ctx ∧ ResponseTyped serde core formatOf res ctx' :=
    ⟨fun h => ⟨h.1, h.2.2⟩, fun h => ⟨h.1, hforward h.1, h.2⟩⟩
  rw [hshort, requestTyped_iff hvalid hc ht hreq, responseTyped_iff hcore hc' ht' hrev hres]
  cases client <;> cases target <;> simp

variable (serde) in
theorem bridge_typed_iff (hcore : TypedCore core formatOf) (c : Candidate) (apiKey : String) (body : Json)
    (req₀ : ProxyRequest) (ctx₀ : ConnectionContext) {req : ProxyRequest} {ctx : ConnectionContext}
    {client : ApiFormat}
    (hroute : routeTo serde c apiKey body req₀ ctx₀ = .ok (req, ctx))
    (hclient : ctx₀.detectedFormat = some client) (hreq : formatOf .request req.body = some client) :
    ∃ target, targetProtocol c.1 c.2 (some client) = .ok target ∧
      (RequestTyped serde core formatOf req ctx ↔
        (validateInput serde core req = .ok () → ¬ (client = .openaiChat ∧ target = .openaiResponses))) ∧
      ∀ req' ctx' res, (onRequest serde core req ctx).2 = .ok (req', ctx') →
        formatOf (responsePayload res.isStreaming) res.body = some target →
        (ExchangeTyped serde core formatOf req ctx req' ctx' res ↔ client = target ∨
          (isUpstreamErrorBody serde res.body = false ∧
            (target ≠ .openaiResponses ∨ (client = .anthropicMessages ∧ res.isStreaming = true)))) := by
  obtain ⟨target, url, rewritePath, htarget, -, -, hctx⟩ := routeTo_ok serde hroute
  have hc : ctx.detectedFormat = some client := by rw [hctx]; exact hclient
  have ht : ctx.targetProtocol = some target := by rw [hctx]
  rw [hclient] at htarget
  refine ⟨target, htarget, ?_, fun req' ctx' res hok hres => exchangeTyped_iff hcore hc ht hreq hok hres⟩
  by_cases hv : validateInput serde core req = .ok ()
  · rw [requestTyped_iff hv hc ht hreq]
    exact ⟨fun h _ => h, fun h => h hv⟩
  · refine iff_of_true (fun call hcall => ?_) (fun h => absurd h hv)
    rw [onRequest_invalid hv] at hcall
    exact absurd hcall List.not_mem_nil

end

namespace Sample

def turn (role content : String) : Json := .obj [("content", .str content), ("role", .str role)]

def question : ApiFormat → Json
  | .anthropicMessages => .obj [("max_tokens", .num (.posInt 16)), ("messages", .arr [turn "user" "hi"]),
      ("model", .str "sonnet"), ("system", .str "be brief")]
  | .openaiChat => .obj [("max_tokens", .num (.posInt 16)),
      ("messages", .arr [turn "system" "be brief", turn "user" "hi"]), ("model", .str "sonnet")]
  | .openaiResponses => .obj [("input", .arr [turn "user" "hi"]), ("instructions", .str "be brief"),
      ("max_output_tokens", .num (.posInt 16)), ("model", .str "sonnet")]

def answer : ApiFormat → Json
  | .anthropicMessages => .obj [("content", .arr [.obj [("text", .str "ok"), ("type", .str "text")]]),
      ("model", .str "sonnet"), ("role", .str "assistant"), ("type", .str "message")]
  | .openaiChat => .obj [("choices", .arr [.obj [("index", .num (.posInt 0)),
      ("message", turn "assistant" "ok")]]), ("model", .str "sonnet")]
  | .openaiResponses => .obj [("model", .str "sonnet"), ("output", .arr [turn "assistant" "ok"])]

def text : Payload → ApiFormat → String
  | .request, f => AgentProxy.Sample.compact (question f)
  | .response, f => AgentProxy.Sample.compact (answer f)
  | .stream, .anthropicMessages => "event: message_stop\n\n"
  | .stream, .openaiChat => "data: [DONE]\n\n"
  | .stream, .openaiResponses => "event: response.completed\n\n"

def formatOf (p : Payload) (body : Body) : Option ApiFormat :=
  [.anthropicMessages, .openaiChat, .openaiResponses].find? fun f => body = .utf8 (text p f)

theorem formatOf_text (p : Payload) (f : ApiFormat) : formatOf p (.utf8 (text p f)) = some f := by
  cases p <;> cases f <;> rfl

def headers : List (String × String) := [("content-type", "application/json")]

def core : LlmBridgeCore where
  request t req :=
    if req.body = .utf8 (text .request t.source) then
      .ok ⟨headers, "/v1/chat/completions", .utf8 (text .request t.target)⟩
    else .error ⟨"missing field", "missing field"⟩
  response t req :=
    if req.body = .utf8 (text .response t.source) then .ok ⟨headers, "", .utf8 (text .response t.target)⟩
    else .error ⟨"missing field", "missing field"⟩
  stream t source body :=
    if body = .utf8 (text .stream source) then .ok (.utf8 (text .stream t.target))
    else .error ⟨"invalid frame", "invalid frame"⟩
  validateJsonDepth _ := .ok ()

theorem core_typed : TypedCore core formatOf where
  request t req res hreq hok := by
    simp only [core] at hok
    split_ifs at hok
    cases hok
    exact formatOf_text .request t.target
  response t req res hreq hok := by
    simp only [core] at hok
    split_ifs at hok
    cases hok
    exact formatOf_text .response t.target
  stream t source body out hreq hok := by
    simp only [core] at hok
    split_ifs at hok
    cases hok
    exact formatOf_text .stream t.target

def serde : Serde :=
  AgentProxy.Sample.serdeOn [question .anthropicMessages, question .openaiChat, question .openaiResponses,
    answer .anthropicMessages, answer .openaiChat, answer .openaiResponses]

def candidate (protocol : String) : Candidate :=
  ({ channelId := "c1", channelName := "c1", apiKey := "sk"
     protocols := [⟨protocol, "https://api.example", none⟩], enabled := true, forceProtocol := none
     priority := 0, mappings := [] },
   { mappingId := "m1", clientName := "sonnet", upstreamName := "sonnet"
     billing := .metered (.perUnit .tokens 1 "USD"), allowedProtocols := [] })

def clientRequest (f : ApiFormat) : ProxyRequest := ⟨"POST", "/v1/messages", [], .utf8 (text .request f)⟩

def clientContext (f : ApiFormat) : ConnectionContext := { Router.Sample.context with detectedFormat := some f }

def reply (f : ApiFormat) : ProxyResponse := ⟨.ok, [], .utf8 (text .response f), false⟩

end Sample

theorem bridge_typed_anthropic_on_chat :
    ∃ req ctx, routeTo Sample.serde (Sample.candidate "openai_chat") "sk" (Sample.question .anthropicMessages)
        (Sample.clientRequest .anthropicMessages) (Sample.clientContext .anthropicMessages) = .ok (req, ctx) ∧
      ∃ req' ctx', (onRequest Sample.serde Sample.core req ctx).2 = .ok (req', ctx') ∧
        ExchangeTyped Sample.serde Sample.core Sample.formatOf req ctx req' ctx' (Sample.reply .openaiChat) := by
  refine ⟨_, _, rfl, _, _, rfl, ?_⟩
  obtain ⟨target, ht, -, h⟩ := bridge_typed_iff Sample.serde Sample.core_typed (Sample.candidate "openai_chat") "sk"
    (Sample.question .anthropicMessages) (Sample.clientRequest .anthropicMessages)
    (Sample.clientContext .anthropicMessages) rfl rfl rfl
  cases ht
  exact (h _ _ (Sample.reply .openaiChat) rfl rfl).mpr (Or.inr ⟨by decide, Or.inl (by decide)⟩)

theorem chat_on_responses_mistyped :
    TypedCore Sample.core Sample.formatOf ∧ ¬ BridgeTyping Sample.serde Sample.core Sample.formatOf := by
  refine ⟨Sample.core_typed, fun h => ?_⟩
  have hty := (h (Sample.candidate "openai_responses") "sk" (Sample.question .openaiChat)
    (Sample.clientRequest .openaiChat) _ (Sample.clientContext .openaiChat) _ .openaiChat rfl rfl rfl).1
  have hcall : Sample.formatOf .request (.utf8 (Sample.text .request .openaiChat)) = some .openaiResponses :=
    hty (.request .responsesToOpenai _) (List.mem_singleton.mpr rfl)
  rw [Sample.formatOf_text] at hcall
  cases hcall

end AgentProxy.Bridge
