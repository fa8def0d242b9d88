import AgentProxy.Core.Types

namespace AgentProxy.Bridge

inductive ConversionDirection where
  | anthropicToOpenai
  | anthropicToResponses
  | openaiToAnthropic
  | responsesToAnthropic
  | responsesToOpenai
  | passthrough
  deriving DecidableEq

def ConversionDirection.resolve (client upstream : ApiFormat) : ConversionDirection :=
  if client = upstream then passthrough
  else
    match client, upstream with
    | .anthropicMessages, .openaiChat => anthropicToOpenai
    | .anthropicMessages, .openaiResponses => anthropicToResponses
    | .openaiChat, .anthropicMessages => openaiToAnthropic
    | .openaiResponses, .anthropicMessages => responsesToAnthropic
    | .openaiResponses, .openaiChat => responsesToOpenai
    | .openaiChat, .openaiResponses => responsesToOpenai
    | _, _ => passthrough

theorem resolve_eq_passthrough {client upstream : ApiFormat} :
    ConversionDirection.resolve client upstream = .passthrough ↔ client = upstream := by
  cases client <;> cases upstream <;> decide

inductive RequestTransform where
  | anthropicToOpenai
  | anthropicToOpenaiResponses
  | openaiToAnthropic
  | responsesToAnthropic
  | responsesToOpenai
  deriving DecidableEq

inductive ResponseTransform where
  | openaiResponseToAnthropicMessage
  | anthropicResponseToOpenaiResponse
  | anthropicResponseToResponsesResponse
  deriving DecidableEq

inductive StreamTransform where
  | toAnthropicSse
  | toOpenaiSse
  | toOpenaiResponsesSse
  deriving DecidableEq

structure TransformRequest where
  headers : List (String × String)
  path : String
  body : Body

structure TransformResponse where
  headers : List (String × String)
  path : String
  body : Body

structure TransformError where
  message : String
  sanitizedMessage : String

/-- `llm_bridge_core`, which is not part of the repository. -/
structure LlmBridgeCore where
  request : RequestTransform → TransformRequest → Except TransformError TransformResponse
  response : ResponseTransform → TransformRequest → Except TransformError TransformResponse
  stream : StreamTransform → ApiFormat → Body → Except TransformError Body
  validateJsonDepth : Json → Except TransformError Unit

inductive Call where
  | request (t : RequestTransform) (body : Body)
  | response (t : ResponseTransform) (body : Body)
  | stream (t : StreamTransform) (source : ApiFormat) (body : Body)

section

variable (core : LlmBridgeCore)

def requestTransform : (d : ConversionDirection) → d ≠ .passthrough → RequestTransform
  | .anthropicToOpenai, _ => .anthropicToOpenai
  | .anthropicToResponses, _ => .anthropicToOpenaiResponses
  | .openaiToAnthropic, _ => .openaiToAnthropic
  | .responsesToAnthropic, _ => .responsesToAnthropic
  | .responsesToOpenai, _ => .responsesToOpenai
  | .passthrough, h => absurd rfl h

def convertRequest (req : TransformRequest) (d : ConversionDirection) (h : d ≠ .passthrough) :
    List Call × Except ProxyError TransformResponse :=
  ([.request (requestTransform d h) req.body],
    (core.request (requestTransform d h) req).mapError fun e => .badRequest e.sanitizedMessage)

def applyResponse (t : ResponseTransform) (req : TransformRequest) :
    List Call × Except ProxyError TransformResponse :=
  ([.response t req.body], (core.response t req).mapError fun e => .internal e.message)

def convertResponse (req : TransformRequest) :
    (d : ConversionDirection) → d ≠ .passthrough → List Call × Except ProxyError TransformResponse
  | .openaiToAnthropic, _ => applyResponse core .openaiResponseToAnthropicMessage req
  | .anthropicToOpenai, _ => applyResponse core .anthropicResponseToOpenaiResponse req
  | .anthropicToResponses, _ => applyResponse core .anthropicResponseToResponsesResponse req
  | .responsesToAnthropic, _ => applyResponse core .openaiResponseToAnthropicMessage req
  | .responsesToOpenai, _ =>
    -- Chat to Anthropic, then Anthropic to Responses
    match applyResponse core .openaiResponseToAnthropicMessage req with
    | (calls, .ok intermediate) =>
      let second := applyResponse core .anthropicResponseToResponsesResponse
        ⟨intermediate.headers, intermediate.path, intermediate.body⟩
      (calls ++ second.1, second.2)
    | (calls, .error e) => (calls, .error e)
  | .passthrough, h => absurd rfl h

def streamTransform : ApiFormat → StreamTransform
  | .anthropicMessages => .toAnthropicSse
  | .openaiChat => .toOpenaiSse
  | .openaiResponses => .toOpenaiResponsesSse

def onResponseStreaming (res : ProxyResponse) (upstream client : ApiFormat) :
    List Call × Except ProxyError ProxyResponse :=
  ([.stream (streamTransform client) upstream res.body],
    match core.stream (streamTransform client) upstream res.body with
    | .ok output => .ok { res with body := output }
    | .error e => .error (.internal e.message))

end

end AgentProxy.Bridge
