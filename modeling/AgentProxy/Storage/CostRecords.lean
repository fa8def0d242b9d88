import AgentProxy.Cost.Record
import AgentProxy.Lib.Counter
import AgentProxy.Lib.Grouping
import AgentProxy.Storage.Tables

namespace AgentProxy.Storage

open Cost Counter Grouping

def insertCostRecord (records : Table CostRecord.id) (r : CostRecord) : Except StorageError (Table CostRecord.id) :=
  match records.insert? r with
  | some t => .ok t
  | none => .error (.backend "UNIQUE constraint failed: cost_records.id")

/-- What SQLite leaves open: the order in which it visits rows, and the row of a group that a bare column is read from. -/
structure Engine where
  scan : List CostRecord → List CostRecord
  scan_perm : ∀ rows, (scan rows).Perm rows
  bare : List CostRecord → CostRecord
  bare_mem : ∀ rows, rows ≠ [] → bare rows ∈ rows

structure TimeRange where
  start : ℤ
  stop : ℤ
  project : Option String
  deriving DecidableEq

structure CostFilter where
  projectPath : Option String := none
  modelName : Option String := none
  channelName : Option String := none
  timeRange : Option TimeRange := none
  limit : Option ℕ := none
  offset : Option ℕ := none

inductive CostGroupBy where
  | project
  | model
  | channel
  | projectModelMonth
  | projectModelHour
  | hourly
  | daily
  deriving DecidableEq

structure CostAggregate where
  groupKey : String
  totalInputTokens : Int64
  totalOutputTokens : Int64
  totalActualCost : ℚ
  totalCompressionTokensSaved : Int64
  requestCount : ℕ
  deriving DecidableEq

section

variable (rfc3339 : ℤ → String)

def TimeRange.selects (range : TimeRange) (r : CostRecord) : Bool :=
  decide (rfc3339 range.start ≤ r.timestamp) && decide (r.timestamp < rfc3339 range.stop)

def CostFilter.selects (filter : CostFilter) (r : CostRecord) : Bool :=
  filter.projectPath.all (fun project => decide (r.project = project)) &&
    filter.modelName.all (fun model => decide (r.upstreamModel = model)) &&
    filter.channelName.all (fun channel => decide (r.channelId = channel)) &&
    filter.timeRange.all fun range => range.selects rfc3339 r

def byNewest (a b : CostRecord) : Prop := b.timestamp ≤ a.timestamp

instance : DecidableRel byNewest := fun _ _ => inferInstanceAs (Decidable (_ ≤ _))

def newestFirst (engine : Engine) (records : Table CostRecord.id) (filter : CostFilter) : List CostRecord :=
  (engine.scan (records.rows.filter (filter.selects rfc3339))).insertionSort byNewest

def queryCostRecords (engine : Engine) (records : Table CostRecord.id) (filter : CostFilter) : List CostRecord :=
  ((newestFirst rfc3339 engine records filter).drop (filter.offset.getD 0)).take (min (filter.limit.getD 100) 1000)

end

def substr (s : String) (n : ℕ) : String := String.ofList (s.toList.take n)

def groupKeyExpr (groupBy : CostGroupBy) (r : CostRecord) : String :=
  match groupBy with
  | .project => r.project
  | .model => r.channelId
  | .channel => r.channelId
  | .projectModelMonth => r.project ++ "|" ++ r.upstreamModel ++ "|" ++ substr r.timestamp 7
  | .projectModelHour => r.project ++ "|" ++ r.upstreamModel ++ "|" ++ substr r.timestamp 13
  | .hourly => substr r.timestamp 13
  | .daily => substr r.timestamp 10

def groupClause (groupBy : CostGroupBy) (r : CostRecord) : List String :=
  match groupBy with
  | .project => [r.project]
  | .model => [r.channelId]
  | .channel => [r.channelId]
  | .projectModelMonth => [r.project, r.upstreamModel]
  | .projectModelHour => [r.project, r.upstreamModel]
  | .hourly => [substr r.timestamp 13]
  | .daily => [substr r.timestamp 10]

structure Group where
  row : CostAggregate
  records : List CostRecord

def aggregateRow (engine : Engine) (groupBy : CostGroupBy) (records : List CostRecord) : CostAggregate where
  groupKey := groupKeyExpr groupBy (engine.bare records)
  totalInputTokens := (records.map (·.inputTokens)).sum
  totalOutputTokens := (records.map (·.outputTokens)).sum
  totalActualCost := (records.map (·.cost)).sum
  totalCompressionTokensSaved := (records.map (·.compressionTokensSaved)).sum
  requestCount := records.length

def summedColumns : List (CostRecord → Int64) := [(·.inputTokens), (·.outputTokens), (·.compressionTokensSaved)]

/-- `SUM` over an INTEGER column fails when a running total overflows. -/
def sumsFail (records : List CostRecord) : Bool := summedColumns.any fun column => sumOverflows 0 (records.map column)

def clauseGroups (groupBy : CostGroupBy) (rows : List CostRecord) : List (List CostRecord) :=
  (keys (groupClause groupBy) rows).map (members (groupClause groupBy) rows)

def byCost (a b : Group) : Prop := b.row.totalActualCost ≤ a.row.totalActualCost

instance : DecidableRel byCost := fun _ _ => inferInstanceAs (Decidable (_ ≤ _))

def labelledGroups (engine : Engine) (groupBy : CostGroupBy) (rows : List CostRecord) : List Group :=
  ((clauseGroups groupBy rows).map fun group => ⟨aggregateRow engine groupBy group, group⟩).insertionSort byCost

section

variable (rfc3339 : ℤ → String) (engine : Engine) (records : Table CostRecord.id)

def inRange (range : TimeRange) (r : CostRecord) : Bool :=
  range.selects rfc3339 r && range.project.all fun project => decide (r.project = project)

def scanned (range : TimeRange) : List CostRecord := engine.scan (records.rows.filter (inRange rfc3339 range))

def groupedCosts (groupBy : CostGroupBy) (range : TimeRange) : Except StorageError (List Group) :=
  let rows := scanned rfc3339 engine records range
  if (clauseGroups groupBy rows).any sumsFail then .error (.backend "integer overflow")
  else .ok (labelledGroups engine groupBy rows)

def aggregateCosts (groupBy : CostGroupBy) (range : TimeRange) : Except StorageError (List CostAggregate) :=
  (groupedCosts rfc3339 engine records groupBy range).map fun groups => groups.map (·.row)

end

section

variable {rfc3339 : ℤ → String} {engine : Engine} {records : Table CostRecord.id} {range : TimeRange}

theorem mem_scanned {r : CostRecord} :
    r ∈ scanned rfc3339 engine records range ↔ r ∈ records.rows ∧ inRange rfc3339 range r = true := by
  rw [scanned, (engine.scan_perm _).mem_iff, List.mem_filter]

/-- The token sums of every group stay within `i64`, row by row in the order they are visited. -/
def SumsFit (groups : List (List CostRecord)) : Prop :=
  ∀ group ∈ groups, ∀ column ∈ summedColumns, RunningFits (group.map column)

theorem sumsFail_eq_false {group : List CostRecord} :
    sumsFail group = false ↔ ∀ column ∈ summedColumns, RunningFits (group.map column) := by
  have hcolumn (column : CostRecord → Int64) :
      sumOverflows 0 (group.map column) = false ↔ RunningFits (group.map column) := by
    have hzero : Fits 0 := fits_toInt 0
    rw [sumOverflows_eq_false hzero]
    simp only [RunningFits, zero_add]
  simp only [sumsFail, List.any_eq_false, Bool.not_eq_true, hcolumn]

theorem groupedCosts_ok_iff {groupBy : CostGroupBy} {groups : List Group} :
    groupedCosts rfc3339 engine records groupBy range = .ok groups ↔
      SumsFit (clauseGroups groupBy (scanned rfc3339 engine records range)) ∧
        labelledGroups engine groupBy (scanned rfc3339 engine records range) = groups := by
  have hfits : (clauseGroups groupBy (scanned rfc3339 engine records range)).any sumsFail = false ↔
      SumsFit (clauseGroups groupBy (scanned rfc3339 engine records range)) := by
    simp only [List.any_eq_false, Bool.not_eq_true, sumsFail_eq_false, SumsFit]
  rw [← hfits, groupedCosts]
  cases (clauseGroups groupBy (scanned rfc3339 engine records range)).any sumsFail with
  | true => simp
  | false => simp

end

namespace Sample

def rfc3339 (t : ℤ) : String := if t = 4102444800 then "2100-01-01T00:00:00+00:00" else "1970-01-01T00:00:00+00:00"

def costRecord (id project timestamp : String) (tokensSaved : Int64) : CostRecord where
  id := id
  channelId := "deepseek"
  upstreamChannel := "DeepSeek"
  upstreamModel := "deepseek-chat"
  requestTimeMs := 0
  project := project
  userId := "user"
  agentType := "claude"
  inputTokens := 0
  outputTokens := 0
  cacheWriteTokens := 0
  cacheReadTokens := 0
  thinkingTokens := 0
  cost := 0
  schemaSavedTokens := 0
  responseSavedTokens := 0
  rtkSavedTokens := 0
  preCompressTokens := 0
  postCompressTokens := 0
  compressionTokensSaved := tokensSaved
  unit := "USD"
  timestamp := timestamp
  pricingSnapshotJson := ""
  sessionId := none
  beforeTokens := tokensSaved
  afterTokens := 0
  tokensSaved := tokensSaved
  compressionBreakdownJson := ""

def engine : Engine where
  scan := id
  scan_perm := List.Perm.refl
  bare := fun rows => rows.headD (costRecord "r0" "" "" 0)
  bare_mem := fun rows h => by
    obtain ⟨r, rest, rfl⟩ := List.exists_cons_of_ne_nil h
    exact List.mem_cons_self

end Sample

end AgentProxy.Storage
