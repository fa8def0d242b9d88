import AgentProxy.Report.Consume
import Mathlib.Data.List.Infix

namespace AgentProxy.Server

open Report

def HeaderMap.get (headers : HeaderMap) (name : String) : Option HeaderValue := headers.lookup name

def headerText (headers : HeaderMap) (name : String) : Option String :=
  (HeaderMap.get headers name).bind HeaderValue.toStr

def detectApiFormat (path : String) : Option ApiFormat :=
  if "/v1/messages".toList.isSuffixOf path.toList then some .anthropicMessages
  else if "/v1/chat/completions".toList.isSuffixOf path.toList then some .openaiChat
  else if "/v1/responses".toList.isSuffixOf path.toList then some .openaiResponses
  else none

def contains (s part : String) : Bool := decide (part.toList <:+: s.toList)

def agentOfName (agent : String) : AgentType :=
  if agent = "claude" ∨ agent = "claude-code" then .claude
  else if agent = "codex" then .codex
  else if agent = "gemini" ∨ agent = "gemini-cli" then .gemini
  else if agent = "opencode" then .openCode
  else if agent = "openclaw" then .openClaw
  else if agent = "hermes" then .hermes
  else .unknown

def agentOfUserAgent (ua : String) : Option AgentType :=
  if contains ua "claude" then some .claude
  else if contains ua "codex" then some .codex
  else if contains ua "gemini" then some .gemini
  else if contains ua "opencode" then some .openCode
  else if contains ua "openclaw" then some .openClaw
  else if contains ua "hermes" then some .hermes
  else none

def agentOfPath (headers : HeaderMap) (path : String) : AgentType :=
  if contains path "/v1/messages" ∧ (HeaderMap.get headers "anthropic-beta").isSome then .claude
  else if contains path "/v1/responses" ∧ (HeaderMap.get headers "openai-organization").isSome then .codex
  else if contains path "/v1/chat/completions" ∧ (HeaderMap.get headers "x-goog-api-key").isSome then .gemini
  else .unknown

def detectAgentType (headers : HeaderMap) (path : String) : AgentType :=
  match headerText headers "x-agent-type" with
  | some agent => agentOfName agent.toLower
  | none =>
    ((headerText headers "user-agent").bind fun ua => agentOfUserAgent ua.toLower).getD (agentOfPath headers path)

def readTokenlessStats (serde : Serde) (env : Option String) : CompressionStats :=
  match env with
  | none => {}
  | some value =>
    if value.isEmpty then {}
    else
      match serde.tokenlessHeader value with
      | .error _ => {}
      | .ok h =>
        { tokenlessPre := h.pre.getD 0, tokenlessPost := h.post.getD 0
          tokenlessExperimental := h.experimental.getD 0 }

def projectHeader (headers : HeaderMap) : Option String :=
  (headers.find? fun h => h.1 = "x-claude-code-project-path" ∨ h.1 = "x-project-path").bind fun h => h.2.toStr

def withReport (ctx : ConnectionContext) : Option TokenlessAccumulator → ConnectionContext
  | none => ctx
  | some acc =>
    { ctx with
      tokenlessSavedTokens := acc.totalSaved
      tokenlessRtkSaved := acc.rtkSaved
      tokenlessResponseSaved := acc.responseSaved
      tokenlessSchemaSaved := acc.schemaSaved
      tokenlessBreakdownJson := some acc.breakdownJson
      userName := ctx.userName.or acc.userName }

structure Surroundings where
  report : String → Option TokenlessAccumulator
  tokenlessTokens : Option String

def prepareContext (serde : Serde) (around : Surroundings) (headers : HeaderMap) (ctx : ConnectionContext) :
    ConnectionContext :=
  let sessionId := headerText headers "x-claude-code-session-id"
  let acc := sessionId.bind around.report
  let ctx := withReport { ctx with sessionId := sessionId.or ctx.sessionId } acc
  let ctx := { ctx with projectPath := (projectHeader headers).or (acc.bind (·.projectPath)) |>.or ctx.projectPath }
  let stats := readTokenlessStats serde around.tokenlessTokens
  if 0 < stats.totalSaved then { ctx with compressionStats := some stats } else ctx

end AgentProxy.Server
