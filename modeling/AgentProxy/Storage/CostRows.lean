import AgentProxy.Lib.Sql
import AgentProxy.Storage.Timestamps
import Mathlib.Data.List.Perm.Basic

namespace AgentProxy.Storage.Rows

open Cost Rfc3339 Sql

def costInsertCols : List String :=
  ["id", "channel_id", "upstream_channel", "upstream_model", "request_time_ms", "project", "user_id", "agent_type",
    "input_tokens", "output_tokens", "cache_write_tokens", "cache_read_tokens", "thinking_tokens", "cost",
    "schema_saved_tokens", "response_saved_tokens", "rtk_saved_tokens", "pre_compress_tokens",
    "post_compress_tokens", "compression_tokens_saved", "unit", "pricing_snapshot_json", "timestamp", "session_id",
    "before_tokens", "after_tokens", "tokens_saved", "compression_breakdown_json"]

def costSelectCols : List String :=
  ["id", "channel_id", "upstream_channel", "upstream_model", "request_time_ms", "project", "user_id", "agent_type",
    "input_tokens", "output_tokens", "cache_write_tokens", "cache_read_tokens", "thinking_tokens", "cost",
    "schema_saved_tokens", "response_saved_tokens", "rtk_saved_tokens", "pre_compress_tokens",
    "post_compress_tokens", "compression_tokens_saved", "unit", "pricing_snapshot_json", "timestamp", "session_id",
    "before_tokens", "after_tokens", "tokens_saved", "compression_breakdown_json"]

def costParams (r : CostRecord) : List Value :=
  [.text r.id, .text r.channelId, .text r.upstreamChannel, .text r.upstreamModel, .integer r.requestTimeMs.toInt,
    .text r.project, .text r.userId, .text r.agentType, .integer r.inputTokens.toInt, .integer r.outputTokens.toInt,
    .integer r.cacheWriteTokens.toInt, .integer r.cacheReadTokens.toInt, .integer r.thinkingTokens.toInt,
    .real r.cost, .integer r.schemaSavedTokens.toInt, .integer r.responseSavedTokens.toInt,
    .integer r.rtkSavedTokens.toInt, .integer r.preCompressTokens.toInt, .integer r.postCompressTokens.toInt,
    .integer r.compressionTokensSaved.toInt, .text r.unit, .text r.pricingSnapshotJson, .text r.timestamp,
    nullable .text r.sessionId, .integer r.beforeTokens.toInt, .integer r.afterTokens.toInt,
    .integer r.tokensSaved.toInt, .text r.compressionBreakdownJson]

def insertCostRecord (rows : List Row) (r : CostRecord) : Except StorageError (List Row) :=
  (insertRow "cost_records" "id" costInsertCols ((List.range 28).map (· + 1)) (costParams r) rows).mapError .backend

def insertCostRecords (rows : List Row) : List CostRecord → Except StorageError (List Row)
  | [] => .ok rows
  | r :: rest =>
    match insertCostRecord rows r with
    | .ok rows => insertCostRecords rows rest
    | .error e => .error e

def asInt64 : Value → Except Fault Int64
  | .integer n => .ok (Int64.ofInt n)
  | _ => .error .type

def rowToCostRecord (row : Fields) : Except String CostRecord := do
  let id ← field asText row 0
  let channelId ← field asText row 1
  let upstreamChannel ← field asText row 2
  let upstreamModel ← field asText row 3
  let requestTimeMs ← field asInt64 row 4
  let project ← field asText row 5
  let userId ← field asText row 6
  let agentType ← field asText row 7
  let inputTokens ← field asInt64 row 8
  let outputTokens ← field asInt64 row 9
  let cacheWriteTokens ← field asInt64 row 10
  let cacheReadTokens ← field asInt64 row 11
  let thinkingTokens ← field asInt64 row 12
  let cost ← field asReal row 13
  let schemaSavedTokens ← field asInt64 row 14
  let responseSavedTokens ← field asInt64 row 15
  let rtkSavedTokens ← field asInt64 row 16
  let preCompressTokens ← field asInt64 row 17
  let postCompressTokens ← field asInt64 row 18
  let compressionTokensSaved ← field asInt64 row 19
  let unit ← field asText row 20
  let pricingSnapshotJson ← field asText row 21
  let timestamp ← field asText row 22
  let sessionId ← field (asOption asText) row 23
  let beforeTokens ← field asInt64 row 24
  let afterTokens ← field asInt64 row 25
  let tokensSaved ← field asInt64 row 26
  let compressionBreakdownJson ← field asText row 27
  return {
    id, channelId, upstreamChannel, upstreamModel, requestTimeMs, project, userId, agentType, inputTokens,
    outputTokens, cacheWriteTokens, cacheReadTokens, thinkingTokens, cost, schemaSavedTokens, responseSavedTokens,
    rtkSavedTokens, preCompressTokens, postCompressTokens, compressionTokensSaved, unit, pricingSnapshotJson,
    timestamp, sessionId, beforeTokens, afterTokens, tokensSaved, compressionBreakdownJson }

def costConditions (filter : CostFilter) : Conditions :=
  ((((Conditions.none.push "project" .eq (filter.projectPath.map .text)).push
    "upstream_model" .eq (filter.modelName.map .text)).push
    "channel_id" .eq (filter.channelName.map .text)).push
    "timestamp" .ge (filter.timeRange.map fun range => .text (boundText range.start))).push
    "timestamp" .lt (filter.timeRange.map fun range => .text (boundText range.stop))

def newerRow (a b : Row) : Prop := Op.ge.holds (a "timestamp") (b "timestamp") = true

instance : DecidableRel newerRow := fun _ _ => inferInstanceAs (Decidable (_ = _))

def readAll (rows : List Row) : Except String (List CostRecord) :=
  rows.mapM fun row => rowToCostRecord (select costSelectCols row)

/-- `scan` is the order in which the selected rows are visited. -/
def queryCostRecords (scan : List Row → List Row) (rows : List Row) (filter : CostFilter) :
    Except StorageError (List CostRecord) :=
  let b := costConditions filter
  let found := (scan (rows.filter (whereHolds b.clauses b.params))).insertionSort newerRow
  let page := (found.drop (filter.offset.getD 0)).take (min (filter.limit.getD 100) 1000)
  if b.clauses.length = b.params.length then (readAll page).mapError .backend
  else .error (.backend (wrongCount b.params.length b.clauses.length))

def encodeCostRecord (r : CostRecord) : Row := Row.ofList (costInsertCols.zip (costParams r))

theorem bound_costParams (r : CostRecord) : ((List.range 28).map (· + 1)).map (bound (costParams r)) = costParams r := rfl

theorem insertCostRecord_eq (records : List CostRecord) (r : CostRecord) :
    insertCostRecord (records.map encodeCostRecord) r =
      if records.any fun q => decide (q.id = r.id) then .error (.backend "UNIQUE constraint failed: cost_records.id")
      else .ok ((records ++ [r]).map encodeCostRecord) := by
  have hcount : parameterCount ((List.range 28).map (· + 1)) = (costParams r).length := rfl
  have htaken : ((records.map encodeCostRecord).any fun row =>
      Op.eq.holds (row "id") (encodeCostRecord r "id")) = records.any fun q => decide (q.id = r.id) := by
    rw [List.any_map]
    rfl
  rw [insertCostRecord, insertRow, if_pos hcount, bound_costParams]
  change Except.mapError _ (if ((records.map encodeCostRecord).any fun row =>
    Op.eq.holds (row "id") (encodeCostRecord r "id")) = true then _ else _) = _
  rw [htaken, List.map_append]
  split_ifs
  · rfl
  · rfl

theorem insertCostRecord_refines (table : Table CostRecord.id) (r : CostRecord) :
    insertCostRecord (table.rows.map encodeCostRecord) r =
      (Storage.insertCostRecord table r).map fun table => table.rows.map encodeCostRecord := by
  rw [insertCostRecord_eq, Storage.insertCostRecord]
  cases h : table.insert? r with
  | none =>
    obtain ⟨q, hq, hid⟩ := Table.insert?_eq_none.mp h
    rw [if_pos (List.any_eq_true.mpr ⟨q, hq, decide_eq_true hid⟩)]
    rfl
  | some inserted =>
    have hfree : ¬ (table.rows.any fun q => decide (q.id = r.id)) = true := by
      intro htaken
      obtain ⟨q, hq, hid⟩ := List.any_eq_true.mp htaken
      rw [Table.insert?_eq_none.mpr ⟨q, hq, of_decide_eq_true hid⟩] at h
      cases h
    rw [if_neg hfree, ← Table.rows_insert? h]
    rfl

theorem insertCostRecords_ok {inserted records : List CostRecord} (h : ((inserted ++ records).map CostRecord.id).Nodup) :
    insertCostRecords (inserted.map encodeCostRecord) records = .ok ((inserted ++ records).map encodeCostRecord) := by
  induction records generalizing inserted with
  | nil => rw [insertCostRecords, List.append_nil]
  | cons r records ih =>
    have hfree : ¬ (inserted.any fun q => decide (q.id = r.id)) = true := by
      intro htaken
      obtain ⟨q, hq, hid⟩ := List.any_eq_true.mp htaken
      rw [List.map_append, List.nodup_append] at h
      exact h.2.2 q.id (List.mem_map_of_mem hq) r.id (List.mem_map_of_mem List.mem_cons_self) (of_decide_eq_true hid)
    have hsplit : inserted ++ r :: records = (inserted ++ [r]) ++ records := by simp
    rw [insertCostRecords, insertCostRecord_eq, if_neg hfree, hsplit]
    rw [hsplit] at h
    exact ih h

theorem asInt64_toInt (n : Int64) : asInt64 (.integer n.toInt) = .ok n := by
  rw [asInt64, Int64.ofInt_toInt]

theorem rowToCostRecord_encode (r : CostRecord) :
    rowToCostRecord (select costSelectCols (encodeCostRecord r)) = .ok r := by
  obtain ⟨fields, hfields⟩ : ∃ fields, fields = select costSelectCols (encodeCostRecord r) := ⟨_, rfl⟩
  have hat (i : ℕ) : fields[i]? = (select costSelectCols (encodeCostRecord r))[i]? := by rw [hfields]
  rw [← hfields]
  have hid : field asText fields 0 = .ok r.id := field_ok (hat 0) rfl
  have hchannelId : field asText fields 1 = .ok r.channelId := field_ok (hat 1) rfl
  have hupstreamChannel : field asText fields 2 = .ok r.upstreamChannel := field_ok (hat 2) rfl
  have hupstreamModel : field asText fields 3 = .ok r.upstreamModel := field_ok (hat 3) rfl
  have hrequestTimeMs : field asInt64 fields 4 = .ok r.requestTimeMs := field_ok (hat 4) (asInt64_toInt _)
  have hproject : field asText fields 5 = .ok r.project := field_ok (hat 5) rfl
  have huserId : field asText fields 6 = .ok r.userId := field_ok (hat 6) rfl
  have hagentType : field asText fields 7 = .ok r.agentType := field_ok (hat 7) rfl
  have hinputTokens : field asInt64 fields 8 = .ok r.inputTokens := field_ok (hat 8) (asInt64_toInt _)
  have houtputTokens : field asInt64 fields 9 = .ok r.outputTokens := field_ok (hat 9) (asInt64_toInt _)
  have hcacheWriteTokens : field asInt64 fields 10 = .ok r.cacheWriteTokens := field_ok (hat 10) (asInt64_toInt _)
  have hcacheReadTokens : field asInt64 fields 11 = .ok r.cacheReadTokens := field_ok (hat 11) (asInt64_toInt _)
  have hthinkingTokens : field asInt64 fields 12 = .ok r.thinkingTokens := field_ok (hat 12) (asInt64_toInt _)
  have hcost : field asReal fields 13 = .ok r.cost := field_ok (hat 13) rfl
  have hschemaSavedTokens : field asInt64 fields 14 = .ok r.schemaSavedTokens := field_ok (hat 14) (asInt64_toInt _)
  have hresponseSavedTokens : field asInt64 fields 15 = .ok r.responseSavedTokens := field_ok (hat 15) (asInt64_toInt _)
  have hrtkSavedTokens : field asInt64 fields 16 = .ok r.rtkSavedTokens := field_ok (hat 16) (asInt64_toInt _)
  have hpreCompressTokens : field asInt64 fields 17 = .ok r.preCompressTokens := field_ok (hat 17) (asInt64_toInt _)
  have hpostCompressTokens : field asInt64 fields 18 = .ok r.postCompressTokens := field_ok (hat 18) (asInt64_toInt _)
  have hcompressionTokensSaved : field asInt64 fields 19 = .ok r.compressionTokensSaved :=
    field_ok (hat 19) (asInt64_toInt _)
  have hunit : field asText fields 20 = .ok r.unit := field_ok (hat 20) rfl
  have hpricingSnapshotJson : field asText fields 21 = .ok r.pricingSnapshotJson := field_ok (hat 21) rfl
  have htimestamp : field asText fields 22 = .ok r.timestamp := field_ok (hat 22) rfl
  have hsessionId : field (asOption asText) fields 23 = .ok r.sessionId := field_ok (hat 23) (asOption_text _)
  have hbeforeTokens : field asInt64 fields 24 = .ok r.beforeTokens := field_ok (hat 24) (asInt64_toInt _)
  have hafterTokens : field asInt64 fields 25 = .ok r.afterTokens := field_ok (hat 25) (asInt64_toInt _)
  have htokensSaved : field asInt64 fields 26 = .ok r.tokensSaved := field_ok (hat 26) (asInt64_toInt _)
  have hcompressionBreakdownJson : field asText fields 27 = .ok r.compressionBreakdownJson := field_ok (hat 27) rfl
  simp only [rowToCostRecord, hid, hchannelId, hupstreamChannel, hupstreamModel, hrequestTimeMs, hproject, huserId,
    hagentType, hinputTokens, houtputTokens, hcacheWriteTokens, hcacheReadTokens, hthinkingTokens, hcost,
    hschemaSavedTokens, hresponseSavedTokens, hrtkSavedTokens, hpreCompressTokens, hpostCompressTokens,
    hcompressionTokensSaved, hunit, hpricingSnapshotJson, htimestamp, hsessionId, hbeforeTokens, hafterTokens,
    htokensSaved, hcompressionBreakdownJson, bind, Except.bind, pure, Except.pure]

theorem readAll_encode (records : List CostRecord) : readAll (records.map encodeCostRecord) = .ok records := by
  induction records with
  | nil => rfl
  | cons r records ih =>
    rw [readAll] at ih ⊢
    rw [List.map_cons, List.mapM_cons, rowToCostRecord_encode, ih]
    rfl

theorem whereHolds_encode (filter : CostFilter) (r : CostRecord) :
    whereHolds (costConditions filter).clauses (costConditions filter).params (encodeCostRecord r) =
      filter.selects boundText r := by
  obtain ⟨projectPath, modelName, channelName, timeRange, limit, offset⟩ := filter
  simp only [costConditions, whereHolds_push, whereHolds_none, Bool.true_and, Option.all_map, CostFilter.selects,
    TimeRange.selects]
  cases timeRange with
  | none => exact Bool.and_true _
  | some range => exact Bool.and_assoc _ _ _

theorem newerRow_encode (a b : CostRecord) : byNewest a b ↔ newerRow (encodeCostRecord a) (encodeCostRecord b) := by
  change _ ↔ decide (b.timestamp ≤ a.timestamp) = true
  rw [decide_eq_true_eq]
  rfl

theorem exists_map_of_perm {α β : Type} {f : α → β} {xs : List α} {l : List β} (h : l.Perm (xs.map f)) :
    ∃ ys : List α, ys.Perm xs ∧ l = ys.map f := by
  have hmap : List.Forall₂ (fun b a => b = f a) (xs.map f) xs := by
    rw [List.forall₂_map_left_iff]
    exact List.forall₂_same.mpr fun _ _ => rfl
  obtain ⟨ys, hl, hys⟩ := List.perm_comp_forall₂ h hmap
  refine ⟨ys, hys, ?_⟩
  rw [← List.forall₂_eq_eq_eq, List.forall₂_map_right_iff]
  exact hl

section

variable {scan : List Row → List Row} {records : List CostRecord} {filter : CostFilter}

theorem queryCostRecords_page (hscan : ∀ rows, (scan rows).Perm rows) (records : List CostRecord) (filter : CostFilter) :
    ∃ found : List CostRecord, found.Perm (records.filter (filter.selects boundText)) ∧
      queryCostRecords scan (records.map encodeCostRecord) filter =
        .ok (((found.insertionSort byNewest).drop (filter.offset.getD 0)).take
          (min (filter.limit.getD 100) 1000)) := by
  have hselected : (records.map encodeCostRecord).filter
        (whereHolds (costConditions filter).clauses (costConditions filter).params) =
      (records.filter (filter.selects boundText)).map encodeCostRecord := by
    rw [List.filter_map]
    congr 1
    apply List.filter_congr
    intro r _
    exact whereHolds_encode filter r
  have hperm := hscan ((records.filter (filter.selects boundText)).map encodeCostRecord)
  obtain ⟨found, hfound, hmap⟩ := exists_map_of_perm hperm
  have hsort : (found.map encodeCostRecord).insertionSort newerRow =
      (found.insertionSort byNewest).map encodeCostRecord :=
    (List.map_insertionSort byNewest newerRow encodeCostRecord found fun a _ b _ => newerRow_encode a b).symm
  refine ⟨found, hfound, ?_⟩
  simp only [queryCostRecords, hselected, hmap, hsort, if_pos (costConditions filter).counted]
  rw [← List.map_drop, ← List.map_take, readAll_encode]
  rfl

instance : Std.Total byNewest := ⟨fun a b => le_total b.timestamp a.timestamp⟩

instance : IsTrans CostRecord byNewest := ⟨fun _ _ _ hab hbc => le_trans hbc hab⟩

/-- On rows that hold records, the statements do what the table operations of the abstract store do. -/
theorem queryCostRecords_refines (hscan : ∀ rows, (scan rows).Perm rows) (table : Table CostRecord.id)
    (bare : Engine) (filter : CostFilter) :
    ∃ engine : Engine, queryCostRecords scan (table.rows.map encodeCostRecord) filter =
      .ok (Storage.queryCostRecords boundText engine table filter) := by
  classical
  obtain ⟨found, hfound, hquery⟩ := queryCostRecords_page hscan table.rows filter
  let engine : Engine :=
    { bare with
      scan := fun rows => if rows = table.rows.filter (filter.selects boundText) then found else rows
      scan_perm := by
        intro rows
        split_ifs with h
        · rw [h]
          exact hfound
        · exact List.Perm.refl _ }
  refine ⟨engine, ?_⟩
  have hscanned : engine.scan (table.rows.filter (filter.selects boundText)) = found := if_pos rfl
  rw [hquery, Storage.queryCostRecords, newestFirst, hscanned]

structure Matches (filter : CostFilter) (r : CostRecord) (t : ℤ) : Prop where
  project : ∀ project ∈ filter.projectPath, r.project = project
  model : ∀ model ∈ filter.modelName, r.upstreamModel = model
  channel : ∀ channel ∈ filter.channelName, r.channelId = channel
  time : ∀ range ∈ filter.timeRange, range.Contains t

theorem selects_iff_matches {r : CostRecord} {t : ℤ} (ht : InYears t) (hr : r.timestamp = toRfc3339 t)
    (hrange : ∀ range ∈ filter.timeRange, InYears (range.start * 1000000000) ∧ InYears (range.stop * 1000000000)) :
    filter.selects boundText r = true ↔ Matches filter r t := by
  have htime : (∀ range, filter.timeRange = some range → range.selects boundText r = true) ↔
      ∀ range, filter.timeRange = some range → range.Contains t := by
    apply forall₂_congr
    intro range h
    exact selects_iff_contains (hrange range h).1 (hrange range h).2 ht hr
  simp only [CostFilter.selects, Bool.and_eq_true, Option.all_eq_true, decide_eq_true_eq, htime]
  constructor
  · rintro ⟨⟨⟨hproject, hmodel⟩, hchannel⟩, hcontains⟩
    exact ⟨hproject, hmodel, hchannel, hcontains⟩
  · rintro ⟨hproject, hmodel, hchannel, hcontains⟩
    exact ⟨⟨⟨hproject, hmodel⟩, hchannel⟩, hcontains⟩

theorem cost_records_round_trip (hscan : ∀ rows, (scan rows).Perm rows) (hids : (records.map CostRecord.id).Nodup)
    (hrange : ∀ range ∈ filter.timeRange, InYears (range.start * 1000000000) ∧ InYears (range.stop * 1000000000)) :
    ∃ (rows : List Row) (ordering : List CostRecord), insertCostRecords [] records = .ok rows ∧
      ordering.Perm (records.filter (filter.selects boundText)) ∧ ordering.Pairwise byNewest ∧
      queryCostRecords scan rows filter =
        .ok ((ordering.drop (filter.offset.getD 0)).take (min (filter.limit.getD 100) 1000)) ∧
      ∀ r ∈ records, ∀ t, InYears t → r.timestamp = toRfc3339 t →
        (filter.selects boundText r = true ↔ Matches filter r t) := by
  have hinsert : insertCostRecords [] records = .ok (records.map encodeCostRecord) :=
    @insertCostRecords_ok [] records hids
  obtain ⟨found, hfound, hquery⟩ := queryCostRecords_page hscan records filter
  refine ⟨_, found.insertionSort byNewest, hinsert, (List.perm_insertionSort _ _).trans hfound,
    List.pairwise_insertionSort _ _, hquery, ?_⟩
  intro r _ t ht hr
  exact selects_iff_matches ht hr hrange

end

namespace Sample

def jan : List CostRecord :=
  [Storage.Sample.costRecord "r1" "/work/agent" "2026-01-01T00:00:00.123+00:00" 5,
    Storage.Sample.costRecord "r2" "/work/agent" "2026-01-02T00:00:00+00:00" 7]

def janFilter : CostFilter := { timeRange := some ⟨1767225600, 1769904000, none⟩, limit := some 1 }

end Sample

theorem cost_records_round_trip_january :
    (Sample.jan.map CostRecord.id).Nodup ∧
      ∃ (rows : List Row) (ordering : List CostRecord), insertCostRecords [] Sample.jan = .ok rows ∧
      ordering.Perm (Sample.jan.filter (Sample.janFilter.selects boundText)) ∧
      queryCostRecords id rows Sample.janFilter = .ok (ordering.take 1) := by
  have hids : (Sample.jan.map CostRecord.id).Nodup := by decide
  have hrange : ∀ range ∈ Sample.janFilter.timeRange,
      InYears (range.start * 1000000000) ∧ InYears (range.stop * 1000000000) := by
    rintro _ ⟨⟩
    exact ⟨by decide +kernel, by decide +kernel⟩
  obtain ⟨rows, ordering, hrows, hperm, -, hquery, -⟩ :=
    @cost_records_round_trip id Sample.jan Sample.janFilter (fun _ => List.Perm.refl _) hids hrange
  exact ⟨hids, rows, ordering, hrows, hperm, hquery⟩

end AgentProxy.Storage.Rows
