import AgentProxy.Cost.Record
import AgentProxy.Lib.Counter
import AgentProxy.Report.Concurrent
import AgentProxy.Server.Bookkeeping

namespace AgentProxy.Cost

open Counter Report Server Text

def layerSavings (stats : Option CompressionStats) : ℕ :=
  let s := stats.getD {}
  s.tokenlessSaved.toNat + s.tokenlessExperimental.toNat + s.proxySchemaSaved.toNat +
    s.proxyResponseSaved.toNat + s.rtkSaved.toNat

def savings (reports : List (ℕ × ProxyReport)) (stats : Option CompressionStats) : ℕ :=
  (reports.map fun r => r.2.savedTokens.toNat).sum + layerSavings stats

def Carries (ctx : ConnectionContext) (reports : List (ℕ × ProxyReport)) : Prop :=
  ctx.tokenlessSavedTokens = saved reports ∧ ctx.tokenlessRtkSaved = savedBy ["rewrite-command"] reports ∧
    ctx.tokenlessResponseSaved = savedBy ["compress-response"] reports ∧
    ctx.tokenlessSchemaSaved = savedBy ["compress-schema"] reports

theorem prepareContext_carries {serde : Serde} {around : Surroundings} {headers : HeaderMap} {inc : Incoming}
    {format : ApiFormat} {content : List Char} {cursor : ℕ}
    (h : (headerText headers "x-claude-code-session-id").bind around.report =
      (consumeContent serde content cursor).1) :
    Carries (prepareContext serde around headers (inc.context format))
      (newReports serde content (startByte content cursor)) := by
  obtain ⟨htotal, hrtk, hresponse, hschema⟩ := consumeContent_accumulates serde content cursor
  simp only [prepareContext, h]
  cases hacc : (consumeContent serde content cursor).1 with
  | none =>
    rw [hacc] at htotal hrtk hresponse hschema
    simp only [Option.getD_none, UInt64.zero_add] at htotal hrtk hresponse hschema
    split_ifs <;> exact ⟨htotal, hrtk, hresponse, hschema⟩
  | some acc =>
    rw [hacc] at htotal hrtk hresponse hschema
    simp only [Option.getD_some, UInt64.zero_add] at htotal hrtk hresponse hschema
    split_ifs <;> exact ⟨htotal, hrtk, hresponse, hschema⟩

namespace Sample

def content (opType : String) : String := Report.Sample.lineText opType ++ "\n"

def installation (opType : String) : Installation :=
  { Server.Sample.installation with
    serde := { Router.Sample.serde with proxyReport := (Report.Sample.serde opType).proxyReport } }

def incoming : Incoming :=
  { Server.Sample.incoming with
    request := { Router.Sample.request with headers := [("x-claude-code-session-id", .text "s1")] } }

def accumulator (opType : String) : TokenlessAccumulator :=
  { addSavings {} (Report.Sample.report opType) with
    breakdownJson := AgentProxy.Sample.compact (.arr [breakdownItem (Report.Sample.report opType)]) }

def around (opType : String) : Surroundings := ⟨fun _ => some (accumulator opType), none⟩

def handled (opType : String) : Handled ProxyState SharedOp :=
  handleProxyRequest (installation opType).serde (installation opType).middlewares (around opType)
    (fun _ => .answered .ok [] (.ok (.utf8 ""))) 1024 (Server.Sample.state "deepseek" "deepseek")
    incoming

def env : RecordEnv := ⟨"unknown", "r1", 0, "2026-01-01T00:00:00+00:00"⟩

def consumed (opType : String) : List (ℕ × ProxyReport) :=
  newReports (installation opType).serde (content opType).toList 0

section

variable {opType : String} (h : '\n' ∉ opType.toList)

include h

end

end Sample

end AgentProxy.Cost
