import AgentProxy.Core.Types
import AgentProxy.Lib.Text
import Mathlib.Data.UInt
import Mathlib.Logic.Function.Basic

namespace AgentProxy.Report

open Text

structure TokenlessAccumulator where
  totalSaved : UInt64 := 0
  rtkSaved : UInt64 := 0
  responseSaved : UInt64 := 0
  schemaSaved : UInt64 := 0
  breakdownJson : String := ""
  projectPath : Option String := none
  userName : Option String := none
  deriving DecidableEq

def addSavings (acc : TokenlessAccumulator) (r : ProxyReport) : TokenlessAccumulator :=
  let acc := { acc with totalSaved := acc.totalSaved + r.savedTokens }
  if r.opType = "rewrite-command" then { acc with rtkSaved := acc.rtkSaved + r.savedTokens }
  else if r.opType = "compress-response" then { acc with responseSaved := acc.responseSaved + r.savedTokens }
  else if r.opType = "compress-schema" then { acc with schemaSaved := acc.schemaSaved + r.savedTokens }
  else acc

def optString : Option String → Json
  | some s => .str s
  | none => .null

def breakdownItem (r : ProxyReport) : Json :=
  .obj [("afterBytes", .num (.posInt r.afterBytes)), ("afterTokens", .num (.posInt r.afterTokens)),
    ("beforeBytes", .num (.posInt r.beforeBytes)), ("beforeTokens", .num (.posInt r.beforeTokens)),
    ("method", optString r.method), ("op", .str r.opType),
    ("savedBytes", .num (.posInt r.savedBytes)), ("savedTokens", .num (.posInt r.savedTokens))]

structure Scan where
  acc : TokenlessAccumulator := {}
  breakdownItems : List Json := []
  hasNewLines : Bool := false

section

variable (serde : Serde)

def lineReport (line : List Char) : Option ProxyReport :=
  if (trim line).isEmpty then none else (serde.proxyReport (String.ofList (trim line))).toOption

def scanLine (start : ℕ) (s : Scan) (line : ℕ × List Char) : Scan :=
  match lineReport serde line.2 with
  | none => s
  | some r =>
    let acc := { s.acc with
      projectPath := s.acc.projectPath.or r.projectPath, userName := s.acc.userName.or r.userName }
    if start ≤ line.1 then ⟨addSavings acc r, s.breakdownItems ++ [breakdownItem r], true⟩
    else { s with acc }

def startByte (content : List Char) (cursor : ℕ) : ℕ := if byteLen content < cursor then 0 else cursor

theorem startByte_zero (content : List Char) : startByte content 0 = 0 := by
  simp [startByte]

theorem startByte_of_le {content : List Char} {cursor : ℕ} (h : cursor ≤ byteLen content) :
    startByte content cursor = cursor := if_neg (by omega)

def scan (content : List Char) (start : ℕ) : Scan := (lineOffsets content).foldl (scanLine serde start) {}

/-- `consume_report` from the point at which it holds the cursor entry; the new cursor comes with
the result. -/
def consumeContent (content : List Char) (cursor : ℕ) : Option TokenlessAccumulator × ℕ :=
  let start := startByte content cursor
  let s := scan serde content start
  let cursor' := if s.hasNewLines then byteLen content else start
  if s.hasNewLines = false ∧ s.acc.projectPath = none ∧ s.acc.userName = none then (none, cursor')
  else
    let breakdownJson := if s.breakdownItems.isEmpty then "" else serde.valueToString (.arr s.breakdownItems)
    (some { s.acc with breakdownJson }, cursor')

def safeSid (sessionId : String) : String :=
  String.ofList ((sessionId.toList.filter fun c => c.isAlphanum || c = '-' || c = '_').take 128)

def consumeReport (files : String → Option String) (cursors : String → Option ℕ) (sessionId : String) :
    Option TokenlessAccumulator × (String → Option ℕ) :=
  let sid := safeSid sessionId
  if sid.isEmpty then (none, cursors)
  else
    match files sid with
    | none => (none, cursors)
    | some content =>
      if content.isEmpty then (none, cursors)
      else
        let result := consumeContent serde content.toList ((cursors sid).getD 0)
        (result.1, Function.update cursors sid (some result.2))

def newReport (start : ℕ) (line : ℕ × List Char) : Option (ℕ × ProxyReport) :=
  if start ≤ line.1 then (lineReport serde line.2).map fun r => (line.1, r) else none

def newReports (content : List Char) (start : ℕ) : List (ℕ × ProxyReport) :=
  (lineOffsets content).filterMap (newReport serde start)

end

def savedBy (ops : List String) (reports : List (ℕ × ProxyReport)) : UInt64 :=
  ((reports.filter fun r => r.2.opType ∈ ops).map fun r => r.2.savedTokens).sum

def saved (reports : List (ℕ × ProxyReport)) : UInt64 := (reports.map fun r => r.2.savedTokens).sum

structure Accumulates (acc acc' : TokenlessAccumulator) (reports : List (ℕ × ProxyReport)) : Prop where
  total : acc'.totalSaved = acc.totalSaved + saved reports
  rtk : acc'.rtkSaved = acc.rtkSaved + savedBy ["rewrite-command"] reports
  response : acc'.responseSaved = acc.responseSaved + savedBy ["compress-response"] reports
  schema : acc'.schemaSaved = acc.schemaSaved + savedBy ["compress-schema"] reports

theorem addSavings_accumulates (acc : TokenlessAccumulator) (n : ℕ) (r : ProxyReport) :
    Accumulates acc (addSavings acc r) [(n, r)] := by
  unfold addSavings
  split_ifs with h1 h2 h3
  all_goals constructor <;> simp_all [saved, savedBy]

theorem Accumulates.trans {a b c : TokenlessAccumulator} {rs rs' : List (ℕ × ProxyReport)}
    (h : Accumulates a b rs) (h' : Accumulates b c rs') : Accumulates a c (rs ++ rs') where
  total := by rw [h'.total, h.total]; simp [saved, UInt64.add_assoc]
  rtk := by rw [h'.rtk, h.rtk]; simp [savedBy, UInt64.add_assoc]
  response := by rw [h'.response, h.response]; simp [savedBy, UInt64.add_assoc]
  schema := by rw [h'.schema, h.schema]; simp [savedBy, UInt64.add_assoc]

section

variable (serde : Serde) (start : ℕ)

theorem Accumulates.of_same_savings {acc acc' : TokenlessAccumulator} (h1 : acc'.totalSaved = acc.totalSaved)
    (h2 : acc'.rtkSaved = acc.rtkSaved) (h3 : acc'.responseSaved = acc.responseSaved)
    (h4 : acc'.schemaSaved = acc.schemaSaved) : Accumulates acc acc' [] := by
  constructor <;> simp [saved, savedBy, *]

theorem scanLine_accumulates (s : Scan) (line : ℕ × List Char) :
    Accumulates s.acc (scanLine serde start s line).acc (newReport serde start line).toList ∧
      (scanLine serde start s line).hasNewLines = (s.hasNewLines || (newReport serde start line).isSome) := by
  cases hr : lineReport serde line.2 with
  | none =>
    simp only [scanLine, newReport, hr, Option.map_none, ite_self, Option.toList_none, Option.isSome_none,
      Bool.or_false, and_true]
    exact .of_same_savings rfl rfl rfl rfl
  | some r =>
    by_cases hstart : start ≤ line.1
    · simp only [scanLine, newReport, hr, hstart, ↓reduceIte, Option.map_some, Option.toList_some,
        Option.isSome_some, Bool.or_true, and_true]
      have hsame : Accumulates s.acc { s.acc with
          projectPath := s.acc.projectPath.or r.projectPath, userName := s.acc.userName.or r.userName } [] :=
        .of_same_savings rfl rfl rfl rfl
      exact hsame.trans (addSavings_accumulates _ line.1 r)
    · simp only [scanLine, newReport, hr, hstart, ↓reduceIte, Option.toList_none, Option.isSome_none,
        Bool.or_false, and_true]
      exact .of_same_savings rfl rfl rfl rfl

theorem foldl_scanLine (lines : List (ℕ × List Char)) (s : Scan) :
    Accumulates s.acc (lines.foldl (scanLine serde start) s).acc (lines.filterMap (newReport serde start)) ∧
      (lines.foldl (scanLine serde start) s).hasNewLines =
        (s.hasNewLines || !(lines.filterMap (newReport serde start)).isEmpty) := by
  induction lines generalizing s with
  | nil => exact ⟨.of_same_savings rfl rfl rfl rfl, by simp⟩
  | cons line lines ih =>
    obtain ⟨hacc, hnew⟩ := scanLine_accumulates serde start s line
    obtain ⟨hacc', hnew'⟩ := ih (scanLine serde start s line)
    have hsplit : (line :: lines).filterMap (newReport serde start) =
        (newReport serde start line).toList ++ lines.filterMap (newReport serde start) := by
      cases h : newReport serde start line <;> simp [h]
    rw [List.foldl_cons, hsplit]
    refine ⟨hacc.trans hacc', ?_⟩
    rw [hnew', hnew]
    cases newReport serde start line <;> simp

end

theorem consumeContent_accumulates (serde : Serde) (content : List Char) (cursor : ℕ) :
    Accumulates {} ((consumeContent serde content cursor).1.getD {})
      (newReports serde content (startByte content cursor)) := by
  obtain ⟨hacc, hnew⟩ := foldl_scanLine serde (startByte content cursor) (lineOffsets content) {}
  by_cases hnone : (scan serde content (startByte content cursor)).hasNewLines = false ∧
      (scan serde content (startByte content cursor)).acc.projectPath = none ∧
      (scan serde content (startByte content cursor)).acc.userName = none
  · have hempty : newReports serde content (startByte content cursor) = [] := by
      simpa [scan, hnew, newReports] using hnone.1
    simp only [consumeContent, if_pos hnone, hempty]
    exact .of_same_savings rfl rfl rfl rfl
  · simp only [consumeContent, if_neg hnone]
    exact ⟨hacc.total, hacc.rtk, hacc.response, hacc.schema⟩

theorem consumeContent_cursor (serde : Serde) (content : List Char) (cursor : ℕ) :
    (consumeContent serde content cursor).2 =
      if newReports serde content (startByte content cursor) = [] then startByte content cursor
      else byteLen content := by
  obtain ⟨-, hnew⟩ := foldl_scanLine serde (startByte content cursor) (lineOffsets content) {}
  have hcursor : (consumeContent serde content cursor).2 =
      if (scan serde content (startByte content cursor)).hasNewLines then byteLen content
      else startByte content cursor := by
    simp only [consumeContent]
    split_ifs <;> rfl
  rw [hcursor, scan, hnew, newReports]
  cases (lineOffsets content).filterMap (newReport serde (startByte content cursor)) <;> simp

end AgentProxy.Report
