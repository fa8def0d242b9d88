import AgentProxy.Storage.CostRecords

namespace AgentProxy.Storage

open Cost Counter Grouping

def documentedKey (groupBy : CostGroupBy) (r : CostRecord) : String :=
  match groupBy with
  | .project => r.project
  | .model => r.upstreamModel
  | .channel => r.channelId
  | .projectModelMonth => r.project ++ "|" ++ r.upstreamModel ++ "|" ++ substr r.timestamp 7
  | .projectModelHour => r.project ++ "|" ++ r.upstreamModel ++ "|" ++ substr r.timestamp 13
  | .hourly => substr r.timestamp 13
  | .daily => substr r.timestamp 10

structure Summarises (row : CostAggregate) (records : List CostRecord) : Prop where
  input : row.totalInputTokens.toInt = (records.map (·.inputTokens.toInt)).sum
  output : row.totalOutputTokens.toInt = (records.map (·.outputTokens.toInt)).sum
  cost : row.totalActualCost = (records.map (·.cost)).sum
  saved : row.totalCompressionTokensSaved.toInt = (records.map (·.compressionTokensSaved.toInt)).sum
  count : row.requestCount = records.length

structure Partitions (groupBy : CostGroupBy) (rows : List CostRecord) (groups : List Group) : Prop where
  once : (groups.flatMap (·.records)).Perm rows
  keyed : ∀ group ∈ groups, ∀ r ∈ group.records, group.row.groupKey = documentedKey groupBy r
  distinct : (groups.map (·.row.groupKey)).Nodup
  summed : ∀ group ∈ groups, Summarises group.row group.records

/-- Records of one project and model share the first `n` characters of their time, and no two joined keys collide. -/
def SplitsBy (n : ℕ) (groupBy : CostGroupBy) (rows : List CostRecord) : Prop :=
  (∀ r ∈ rows, ∀ s ∈ rows, groupClause groupBy r = groupClause groupBy s →
    substr r.timestamp n = substr s.timestamp n) ∧
  ∀ r ∈ rows, ∀ s ∈ rows, groupKeyExpr groupBy r = groupKeyExpr groupBy s → groupClause groupBy r = groupClause groupBy s

def KeysMatch (groupBy : CostGroupBy) (rows : List CostRecord) : Prop :=
  match groupBy with
  | .model => ∀ r ∈ rows, r.channelId = r.upstreamModel
  | .projectModelMonth => SplitsBy 7 .projectModelMonth rows
  | .projectModelHour => SplitsBy 13 .projectModelHour rows
  | _ => True

section

variable {engine : Engine} {groupBy : CostGroupBy} {rows : List CostRecord}

def groupOf (groupBy : CostGroupBy) (rows : List CostRecord) (r : CostRecord) : List CostRecord :=
  members (groupClause groupBy) rows (groupClause groupBy r)

theorem bare_groupOf (engine : Engine) {r : CostRecord} (hr : r ∈ rows) :
    engine.bare (groupOf groupBy rows r) ∈ rows ∧
      groupClause groupBy (engine.bare (groupOf groupBy rows r)) = groupClause groupBy r :=
  mem_members.mp (engine.bare_mem _ (List.ne_nil_of_mem (mem_members.mpr ⟨hr, rfl⟩)))

def Labelled (engine : Engine) (groupBy : CostGroupBy) (rows : List CostRecord) : Prop :=
  (∀ r ∈ rows, groupKeyExpr groupBy (engine.bare (groupOf groupBy rows r)) = documentedKey groupBy r) ∧
    ∀ r ∈ rows, ∀ s ∈ rows, documentedKey groupBy r = documentedKey groupBy s → groupClause groupBy r = groupClause groupBy s

theorem labelled_of_eq (hdoc : ∀ r, documentedKey groupBy r = groupKeyExpr groupBy r)
    (hclause : ∀ r, groupClause groupBy r = [groupKeyExpr groupBy r]) (engine : Engine) :
    Labelled engine groupBy rows := by
  constructor
  · intro r hr
    have hbare := (@bare_groupOf groupBy rows engine r hr).2
    rw [hclause, hclause, List.singleton_inj] at hbare
    rw [hbare, hdoc]
  · intro r _ s _ h
    rw [hclause, hclause, ← hdoc, h, hdoc]

theorem labelled_model_iff (engine : Engine) :
    Labelled engine .model rows ↔ ∀ r ∈ rows, r.channelId = r.upstreamModel := by
  have hkey (r : CostRecord) (hr : r ∈ rows) :
      groupKeyExpr .model (engine.bare (groupOf .model rows r)) = r.channelId :=
    List.singleton_inj.mp (@bare_groupOf .model rows engine r hr).2
  constructor
  · rintro ⟨hlabel, -⟩ r hr
    rw [← hkey r hr, hlabel r hr]
    rfl
  · intro h
    refine ⟨fun r hr => (hkey r hr).trans (h r hr), fun r hr s hs hrs => List.singleton_inj.mpr ?_⟩
    rw [h r hr, h s hs]
    exact hrs

theorem labelled_joined_iff {n : ℕ} (hdoc : ∀ r, documentedKey groupBy r = groupKeyExpr groupBy r)
    (hkey : ∀ r, groupKeyExpr groupBy r = r.project ++ "|" ++ r.upstreamModel ++ "|" ++ substr r.timestamp n)
    (hclause : ∀ r, groupClause groupBy r = [r.project, r.upstreamModel]) (engine : Engine) :
    Labelled engine groupBy rows ↔ SplitsBy n groupBy rows := by
  have hsame {r s : CostRecord} (h : groupClause groupBy r = groupClause groupBy s) :
      groupKeyExpr groupBy r = groupKeyExpr groupBy s ↔ substr r.timestamp n = substr s.timestamp n := by
    rw [hclause, hclause, List.cons_eq_cons, List.singleton_inj] at h
    rw [hkey, hkey, h.1, h.2]
    simp
  simp only [Labelled, SplitsBy, hdoc]
  apply and_congr_left
  intro _
  constructor
  · intro h r hr s hs hrs
    rw [← hsame hrs, ← h r hr, ← h s hs, groupOf, hrs, ← groupOf]
  · intro h r hr
    obtain ⟨hmem, hclause⟩ := bare_groupOf engine hr
    exact (hsame hclause).mpr (h _ hmem r hr hclause)

theorem labelled_iff_keysMatch (engine : Engine) : Labelled engine groupBy rows ↔ KeysMatch groupBy rows := by
  cases groupBy with
  | model => exact labelled_model_iff engine
  | projectModelMonth => exact labelled_joined_iff (fun _ => rfl) (fun _ => rfl) (fun _ => rfl) engine
  | projectModelHour => exact labelled_joined_iff (fun _ => rfl) (fun _ => rfl) (fun _ => rfl) engine
  | _ => exact iff_of_true (labelled_of_eq (fun _ => rfl) (fun _ => rfl) engine) trivial

theorem summarises_aggregateRow {group : List CostRecord}
    (h : ∀ column ∈ summedColumns, RunningFits (group.map column)) : Summarises (aggregateRow engine groupBy group) group := by
  have hcolumn {column : CostRecord → Int64} (hfits : RunningFits (group.map column)) :
      (group.map column).sum.toInt = (group.map fun r => (column r).toInt).sum := by
    rw [sum_toInt_of_runningFits hfits, List.map_map]
    rfl
  simp only [summedColumns, List.forall_mem_cons] at h
  obtain ⟨hinput, houtput, hsaved, -⟩ := h
  exact ⟨hcolumn hinput, hcolumn houtput, rfl, hcolumn hsaved, rfl⟩

theorem mem_labelledGroups {group : Group} :
    group ∈ labelledGroups engine groupBy rows ↔
      ∃ r ∈ rows, (⟨aggregateRow engine groupBy (groupOf groupBy rows r), groupOf groupBy rows r⟩ : Group) = group := by
  simp only [labelledGroups, clauseGroups, List.mem_insertionSort, List.mem_map, mem_keys]
  constructor
  · rintro ⟨_, ⟨_, ⟨r, hr, rfl⟩, rfl⟩, rfl⟩
    exact ⟨r, hr, rfl⟩
  · rintro ⟨r, hr, rfl⟩
    exact ⟨_, ⟨_, ⟨r, hr, rfl⟩, rfl⟩, rfl⟩

theorem labelledGroups_perm (engine : Engine) (groupBy : CostGroupBy) (rows : List CostRecord) :
    (labelledGroups engine groupBy rows).Perm ((keys (groupClause groupBy) rows).map fun k =>
      ⟨aggregateRow engine groupBy (members (groupClause groupBy) rows k), members (groupClause groupBy) rows k⟩) := by
  apply (List.perm_insertionSort byCost _).trans
  rw [clauseGroups, List.map_map]
  rfl

theorem labelledGroups_once (engine : Engine) (groupBy : CostGroupBy) (rows : List CostRecord) :
    ((labelledGroups engine groupBy rows).flatMap (·.records)).Perm rows := by
  have hperm := (labelledGroups_perm engine groupBy rows).flatMap_right (·.records)
  rw [List.flatMap_map] at hperm
  exact hperm.trans flatMap_keys_perm

theorem labelledGroups_keyed_iff :
    (∀ group ∈ labelledGroups engine groupBy rows, ∀ r ∈ group.records, group.row.groupKey = documentedKey groupBy r) ↔
      ∀ r ∈ rows, groupKeyExpr groupBy (engine.bare (groupOf groupBy rows r)) = documentedKey groupBy r := by
  constructor
  · intro h r hr
    exact h _ (mem_labelledGroups.mpr ⟨r, hr, rfl⟩) r (mem_members.mpr ⟨hr, rfl⟩)
  · intro h group hgroup r hr
    obtain ⟨s, hs, rfl⟩ := mem_labelledGroups.mp hgroup
    obtain ⟨hrow, hclause⟩ := mem_members.mp hr
    have hsame : groupOf groupBy rows r = groupOf groupBy rows s := by rw [groupOf, hclause, ← groupOf]
    rw [← h r hrow, hsame]
    rfl

theorem labelledGroups_distinct_iff
    (hkeyed : ∀ r ∈ rows, groupKeyExpr groupBy (engine.bare (groupOf groupBy rows r)) = documentedKey groupBy r) :
    ((labelledGroups engine groupBy rows).map (·.row.groupKey)).Nodup ↔
      ∀ r ∈ rows, ∀ s ∈ rows, documentedKey groupBy r = documentedKey groupBy s →
        groupClause groupBy r = groupClause groupBy s := by
  have hperm := (labelledGroups_perm engine groupBy rows).map (·.row.groupKey)
  rw [List.map_map] at hperm
  rw [hperm.nodup_iff]
  constructor
  · intro h r hr s hs hrs
    apply List.inj_on_of_nodup_map h (mem_keys.mpr ⟨r, hr, rfl⟩) (mem_keys.mpr ⟨s, hs, rfl⟩)
    exact (hkeyed r hr).trans (hrs.trans (hkeyed s hs).symm)
  · intro h
    apply (nodup_keys _ _).map_on
    intro k hk l hl hkl
    obtain ⟨r, hr, rfl⟩ := mem_keys.mp hk
    obtain ⟨s, hs, rfl⟩ := mem_keys.mp hl
    exact h r hr s hs ((hkeyed r hr).symm.trans (hkl.trans (hkeyed s hs)))

theorem partitions_iff (hfit : SumsFit (clauseGroups groupBy rows)) :
    Partitions groupBy rows (labelledGroups engine groupBy rows) ↔ Labelled engine groupBy rows := by
  constructor
  · intro h
    have hkeyed := labelledGroups_keyed_iff.mp h.keyed
    exact ⟨hkeyed, (labelledGroups_distinct_iff hkeyed).mp h.distinct⟩
  · rintro ⟨hkeyed, hdistinct⟩
    refine ⟨labelledGroups_once _ _ _, labelledGroups_keyed_iff.mpr hkeyed,
      (labelledGroups_distinct_iff hkeyed).mpr hdistinct, fun group hgroup => ?_⟩
    obtain ⟨r, hr, rfl⟩ := mem_labelledGroups.mp hgroup
    exact summarises_aggregateRow (hfit _ (List.mem_map_of_mem (mem_keys.mpr ⟨r, hr, rfl⟩)))

theorem keysMatch_congr {rows' : List CostRecord} (h : ∀ r, r ∈ rows ↔ r ∈ rows') :
    KeysMatch groupBy rows ↔ KeysMatch groupBy rows' := by
  cases groupBy <;> simp only [KeysMatch, SplitsBy, h]

end

def PartitionsCosts (rfc3339 : ℤ → String) (engine : Engine) (records : Table CostRecord.id) (groupBy : CostGroupBy)
    (range : TimeRange) : Prop :=
  ∃ groups, groupedCosts rfc3339 engine records groupBy range = .ok groups ∧
    aggregateCosts rfc3339 engine records groupBy range = .ok (groups.map (·.row)) ∧
    Partitions groupBy (records.rows.filter (inRange rfc3339 range)) groups

theorem aggregation_partitions_iff (rfc3339 : ℤ → String) (engine : Engine) (records : Table CostRecord.id)
    (groupBy : CostGroupBy) (range : TimeRange) :
    PartitionsCosts rfc3339 engine records groupBy range ↔
      SumsFit (clauseGroups groupBy (scanned rfc3339 engine records range)) ∧
        KeysMatch groupBy (records.rows.filter (inRange rfc3339 range)) := by
  have hscan := engine.scan_perm (records.rows.filter (inRange rfc3339 range))
  rw [← keysMatch_congr (fun r => hscan.mem_iff), ← labelled_iff_keysMatch engine]
  constructor
  · rintro ⟨groups, hgroups, -, hparts⟩
    obtain ⟨hfit, rfl⟩ := groupedCosts_ok_iff.mp hgroups
    have hrows : Partitions groupBy (scanned rfc3339 engine records range) _ := { hparts with once := hparts.once.trans hscan.symm }
    exact ⟨hfit, (partitions_iff hfit).mp hrows⟩
  · rintro ⟨hfit, hlabelled⟩
    have hgroups := groupedCosts_ok_iff.mpr ⟨hfit, rfl⟩
    have hparts := (partitions_iff hfit).mpr hlabelled
    refine ⟨_, hgroups, ?_, { hparts with once := hparts.once.trans hscan }⟩
    rw [aggregateCosts, hgroups]
    rfl

namespace Sample

def february : CostRecord := costRecord "r2" "app" "2026-02-01T00:00:00+00:00" 0

def twoMonths : Table CostRecord.id where
  rows := [costRecord "r1" "app" "2026-01-31T00:00:00+00:00" 0, february]
  nodup := by decide

def century : TimeRange := ⟨0, 4102444800, none⟩

end Sample

theorem sample_scanned {records : Table CostRecord.id}
    (h : records.rows.all (inRange Sample.rfc3339 Sample.century) = true) :
    scanned Sample.rfc3339 Sample.engine records Sample.century = records.rows :=
  List.filter_eq_self.mpr (List.all_eq_true.mp h)

theorem sample_mislabelled {groupBy : CostGroupBy}
    (h : groupKeyExpr groupBy (Sample.engine.bare (groupOf groupBy Sample.twoMonths.rows Sample.february)) ≠
      documentedKey groupBy Sample.february) :
    ¬ PartitionsCosts Sample.rfc3339 Sample.engine Sample.twoMonths groupBy Sample.century := by
  rintro ⟨groups, hgroups, -, hparts⟩
  obtain ⟨-, rfl⟩ := groupedCosts_ok_iff.mp hgroups
  have hlabel := labelledGroups_keyed_iff.mp hparts.keyed
  rw [sample_scanned (by decide +kernel)] at hlabel
  exact h (hlabel Sample.february (by simp [Sample.twoMonths]))

theorem months_and_models_mislabelled :
    ¬ PartitionsCosts Sample.rfc3339 Sample.engine Sample.twoMonths .model Sample.century ∧
      ¬ PartitionsCosts Sample.rfc3339 Sample.engine Sample.twoMonths .projectModelMonth Sample.century :=
  ⟨sample_mislabelled (by decide +kernel), sample_mislabelled (by decide +kernel)⟩

end AgentProxy.Storage
