import AgentProxy.Admin.Handlers
import AgentProxy.Storage.CostGroups

namespace AgentProxy.Admin

open Cost Counter Grouping Storage

structure CostReportQuery where
  project : Option String := none
  days : UInt32 := 30
  groupBy : Option String := none
  tzOffset : Option Int32 := none

/-- The whole seconds of a `NaiveDateTime`, or nothing where chrono panics. -/
def naive (t : ℤ) : Option ℤ := if -8334601228800 ≤ t ∧ t ≤ 8210266876799 then some t else none

def eastOpt (seconds : ℤ) : Option ℤ := if -86400 < seconds ∧ seconds < 86400 then some seconds else none

def computeTimeRange (now : ℤ) (days : UInt32) (tzOffset : Option Int32) (project : Option String) : Option TimeRange :=
  match tzOffset with
  | none => some ⟨now - days.toNat * 86400, now, project⟩
  | some offsetMinutes => do
    let clamped := max (-720) (min offsetMinutes.toInt 840)
    let offset := (eastOpt (clamped * 60)).getD 0
    let localNow ← naive (now + offset)
    let localStart ← naive (localNow / 86400 * 86400 - ((days.toNat - 1 : ℕ) : ℤ) * 86400)
    let utcStart ← naive (localStart - offset)
    some ⟨utcStart, now, project⟩

def startsWith (s pattern : String) : Bool := pattern.toList.isPrefixOf s.toList

structure CompressionSavingsReport where
  schemaSavedTokens : Int64
  responseSavedTokens : Int64
  rtkSavedTokens : Int64
  totalSavedTokens : Int64
  deriving DecidableEq

section

variable (rfc3339 : ℤ → String) (engine : Engine) (records : Table CostRecord.id) (now : ℤ)

def costReport (query : CostReportQuery) : Option (Except AppError (List CostAggregate)) :=
  (computeTimeRange now query.days query.tzOffset none).map fun range =>
    let groupBy := if query.project.isSome then CostGroupBy.projectModelMonth else .project
    match aggregateCosts rfc3339 engine records groupBy range with
    | .error e => .error (.fromStorage e)
    | .ok results =>
      match query.project with
      | some project => .ok (results.filter fun r => startsWith r.groupKey project)
      | none => .ok results

def savingsReport (records : List CostRecord) : CompressionSavingsReport where
  schemaSavedTokens := (records.map (·.schemaSavedTokens)).sum
  responseSavedTokens := (records.map (·.responseSavedTokens)).sum
  rtkSavedTokens := (records.map (·.rtkSavedTokens)).sum
  totalSavedTokens := (records.map (·.tokensSaved)).sum

def savingsFilter (query : CostReportQuery) (range : TimeRange) : CostFilter :=
  { projectPath := query.project, timeRange := some range }

def costSavings (query : CostReportQuery) : Option CompressionSavingsReport :=
  (computeTimeRange now query.days query.tzOffset query.project).map fun range =>
    savingsReport (queryCostRecords rfc3339 engine records (savingsFilter query range))

end

structure CoversProject (project : String) (records : List CostRecord) (rows : List CostAggregate) : Prop where
  input : (rows.map (·.totalInputTokens.toInt)).sum =
    ((records.filter fun r => decide (r.project = project)).map (·.inputTokens.toInt)).sum
  output : (rows.map (·.totalOutputTokens.toInt)).sum =
    ((records.filter fun r => decide (r.project = project)).map (·.outputTokens.toInt)).sum
  cost : (rows.map (·.totalActualCost)).sum =
    ((records.filter fun r => decide (r.project = project)).map (·.cost)).sum
  count : (rows.map (·.requestCount)).sum = (records.filter fun r => decide (r.project = project)).length

section

variable {rfc3339 : ℤ → String} {engine : Engine} {records : Table CostRecord.id} {now : ℤ} {rows : List CostRecord}
  {project : String}

def monthKey (engine : Engine) (rows : List CostRecord) (r : CostRecord) : String :=
  groupKeyExpr .projectModelMonth (engine.bare (groupOf .projectModelMonth rows r))

def retained (engine : Engine) (rows : List CostRecord) (project : String) : List CostAggregate :=
  ((labelledGroups engine .projectModelMonth rows).map (·.row)).filter fun r => startsWith r.groupKey project

def retainedKeys (engine : Engine) (rows : List CostRecord) (project : String) : List (List String) :=
  (keys (groupClause .projectModelMonth) rows).filter fun k =>
    startsWith (groupKeyExpr .projectModelMonth (engine.bare (members (groupClause .projectModelMonth) rows k))) project

theorem retained_perm (engine : Engine) (rows : List CostRecord) (project : String) :
    (retained engine rows project).Perm ((retainedKeys engine rows project).map fun k =>
      aggregateRow engine .projectModelMonth (members (groupClause .projectModelMonth) rows k)) := by
  apply (((labelledGroups_perm engine .projectModelMonth rows).map (·.row)).filter _).trans
  rw [List.map_map, List.filter_map]
  rfl

theorem mem_retainedKeys {r : CostRecord} (hr : r ∈ rows) :
    groupClause .projectModelMonth r ∈ retainedKeys engine rows project ↔
      startsWith (monthKey engine rows r) project = true := by
  rw [retainedKeys, List.mem_filter]
  exact and_iff_right (mem_keys.mpr ⟨r, hr, rfl⟩)

theorem retained_sum {μ : Type} [AddCommMonoid μ] (total : CostAggregate → μ) (value : CostRecord → μ)
    (h : ∀ group ∈ clauseGroups .projectModelMonth rows,
      total (aggregateRow engine .projectModelMonth group) = (group.map value).sum) :
    ((retained engine rows project).map total).sum =
      ((rows.filter fun r => startsWith (monthKey engine rows r) project).map value).sum := by
  have hnodup : (retainedKeys engine rows project).Nodup := (nodup_keys _ _).filter _
  have hvalues : (retainedKeys engine rows project).map (total ∘ fun k =>
        aggregateRow engine .projectModelMonth (members (groupClause .projectModelMonth) rows k)) =
      (retainedKeys engine rows project).map fun k =>
        ((members (groupClause .projectModelMonth) rows k).map value).sum := by
    apply List.map_congr_left
    intro k hk
    exact h _ (List.mem_map_of_mem (List.mem_of_mem_filter hk))
  rw [((retained_perm engine rows project).map total).sum_eq, List.map_map, hvalues]
  exact sum_members hnodup (fun r hr => (mem_retainedKeys hr).symm) value

theorem startsWith_monthKey (engine : Engine) {r : CostRecord} (hr : r ∈ rows) :
    startsWith (monthKey engine rows r) r.project = true := by
  obtain ⟨-, hclause⟩ := @bare_groupOf .projectModelMonth rows engine r hr
  obtain ⟨hproject, -⟩ := List.cons_eq_cons.mp hclause
  rw [startsWith, monthKey, List.isPrefixOf_iff_prefix, groupKeyExpr, hproject]
  simp only [String.append_assoc, String.toList_append]
  exact List.prefix_append _ _

def NoForeign (engine : Engine) (rows : List CostRecord) (project : String) : Prop :=
  ∀ r ∈ rows, r.project ≠ project → startsWith (monthKey engine rows r) project = false

theorem filter_monthKey (h : NoForeign engine rows project) :
    (rows.filter fun r => startsWith (monthKey engine rows r) project) =
      rows.filter fun r => decide (r.project = project) := by
  apply List.filter_congr
  intro r hr
  by_cases hproject : r.project = project
  · rw [decide_eq_true hproject, ← hproject]
    exact startsWith_monthKey engine hr
  · rw [decide_eq_false hproject]
    exact h r hr hproject

theorem coversProject_iff (hfit : SumsFit (clauseGroups .projectModelMonth rows)) :
    CoversProject project rows (retained engine rows project) ↔ NoForeign engine rows project := by
  have hsummary (group : List CostRecord) (hgroup : group ∈ clauseGroups .projectModelMonth rows) :
      Summarises (aggregateRow engine .projectModelMonth group) group := summarises_aggregateRow (hfit group hgroup)
  have hcount := @retained_sum engine rows project ℕ _ (·.requestCount) (fun _ => 1) fun group hgroup => by
    rw [(hsummary group hgroup).count]
    simp
  rw [List.map_const', List.sum_const_nat, mul_one] at hcount
  constructor
  · intro h r hr hproject
    -- both filters keep equally many records, and the first keeps those of the project
    have hown : (rows.filter fun r => startsWith (monthKey engine rows r) project).filter
        (fun r => decide (r.project = project)) = rows.filter fun r => decide (r.project = project) := by
      rw [List.filter_filter]
      apply List.filter_congr
      intro r hr
      by_cases hproject : r.project = project
      · rw [← hproject, startsWith_monthKey engine hr, Bool.and_true]
      · rw [decide_eq_false hproject, Bool.false_and]
    have hlength := h.count
    rw [hcount, ← hown] at hlength
    have hall := List.length_filter_eq_length_iff.mp hlength.symm
    rw [← Bool.not_eq_true]
    exact fun hstarts => hproject (of_decide_eq_true (hall r (List.mem_filter.mpr ⟨hr, hstarts⟩)))
  · intro h
    refine ⟨?_, ?_, ?_, ?_⟩
    · rw [← filter_monthKey h]
      exact retained_sum _ _ fun group hgroup => (hsummary group hgroup).input
    · rw [← filter_monthKey h]
      exact retained_sum _ _ fun group hgroup => (hsummary group hgroup).output
    · rw [← filter_monthKey h]
      exact retained_sum _ _ fun group hgroup => (hsummary group hgroup).cost
    · rw [← filter_monthKey h]
      exact hcount

theorem CoversProject.perm {rows' : List CostRecord} {results : List CostAggregate}
    (hc : CoversProject project rows results) (h : rows.Perm rows') : CoversProject project rows' results := by
  have hfilter := h.filter fun r => decide (r.project = project)
  exact ⟨hc.input.trans (hfilter.map _).sum_eq, hc.output.trans (hfilter.map _).sum_eq,
    hc.cost.trans (hfilter.map _).sum_eq, hc.count.trans hfilter.length_eq⟩

theorem costReport_ok_iff {query : CostReportQuery} {range : TimeRange} {results : List CostAggregate}
    (hrange : computeTimeRange now query.days query.tzOffset none = some range) :
    costReport rfc3339 engine records now { query with project := some project } = some (.ok results) ↔
      SumsFit (clauseGroups .projectModelMonth (scanned rfc3339 engine records range)) ∧
        retained engine (scanned rfc3339 engine records range) project = results := by
  simp only [costReport, hrange, Option.map_some, Option.isSome_some, ↓reduceIte, aggregateCosts]
  rcases hgroups : groupedCosts rfc3339 engine records .projectModelMonth range with e | groups
  · have hfail : ¬ SumsFit (clauseGroups .projectModelMonth (scanned rfc3339 engine records range)) := by
      intro hfit
      rw [groupedCosts_ok_iff.mpr ⟨hfit, rfl⟩] at hgroups
      cases hgroups
    simp [hfail, Except.map]
  · obtain ⟨hfit, rfl⟩ := groupedCosts_ok_iff.mp hgroups
    simp [hfit, Except.map, retained]

noncomputable def engineReading (r : CostRecord) : Engine where
  scan := id
  scan_perm := List.Perm.refl
  bare := open Classical in fun rows => if r ∈ rows then r else rows.headD r
  bare_mem := by
    intro rows hne
    by_cases hr : r ∈ rows
    · rwa [if_pos hr]
    · obtain ⟨s, rest, rfl⟩ := List.exists_cons_of_ne_nil hne
      rw [if_neg hr]
      exact List.mem_cons_self

theorem noForeign_iff {range : TimeRange} :
    (∀ engine, NoForeign engine (scanned rfc3339 engine records range) project) ↔
      ∀ r ∈ records.rows.filter (inRange rfc3339 range), r.project ≠ project →
        startsWith (groupKeyExpr .projectModelMonth r) project = false := by
  constructor
  · intro h r hr hproject
    have hforeign := h (engineReading r) r hr hproject
    have hbare : (engineReading r).bare (groupOf .projectModelMonth
        (scanned rfc3339 (engineReading r) records range) r) = r := if_pos (mem_members.mpr ⟨hr, rfl⟩)
    rwa [monthKey, hbare] at hforeign
  · intro h engine r hr hproject
    obtain ⟨hmem, hclause⟩ := @bare_groupOf .projectModelMonth _ engine r hr
    obtain ⟨hsame, -⟩ := List.cons_eq_cons.mp hclause
    exact h _ ((engine.scan_perm _).mem_iff.mp hmem) (hsame ▸ hproject)

end

theorem project_report_iff (rfc3339 : ℤ → String) (records : Table CostRecord.id) (now : ℤ) (query : CostReportQuery)
    (project : String) (range : TimeRange)
    (hrange : computeTimeRange now query.days query.tzOffset none = some range) :
    (∀ engine, ∃ results,
        costReport rfc3339 engine records now { query with project := some project } = some (.ok results) ∧
        CoversProject project (records.rows.filter (inRange rfc3339 range)) results) ↔
      (∀ engine, SumsFit (clauseGroups .projectModelMonth (scanned rfc3339 engine records range))) ∧
        ∀ r ∈ records.rows.filter (inRange rfc3339 range), r.project ≠ project →
          startsWith (groupKeyExpr .projectModelMonth r) project = false := by
  rw [← noForeign_iff, ← forall_and]
  apply forall_congr'
  intro engine
  have hscan := engine.scan_perm (records.rows.filter (inRange rfc3339 range))
  constructor
  · rintro ⟨results, hresults, hcovers⟩
    obtain ⟨hfit, rfl⟩ := (costReport_ok_iff hrange).mp hresults
    exact ⟨hfit, (coversProject_iff hfit).mp (hcovers.perm hscan.symm)⟩
  · rintro ⟨hfit, hforeign⟩
    exact ⟨_, (costReport_ok_iff hrange).mpr ⟨hfit, rfl⟩, ((coversProject_iff hfit).mpr hforeign).perm hscan⟩

namespace Sample

def bothProjects : Table CostRecord.id where
  rows := [Storage.Sample.costRecord "r1" "app" "2026-01-31T00:00:00+00:00" 0,
    Storage.Sample.costRecord "r2" "app2" "2026-02-01T00:00:00+00:00" 0]
  nodup := by decide

def billed (id project timestamp : String) (tokens : Int64) (cost : ℚ) : CostRecord :=
  { Storage.Sample.costRecord id project timestamp (3 * tokens) with
    inputTokens := 10 * tokens
    outputTokens := tokens
    cost
    schemaSavedTokens := tokens
    responseSavedTokens := tokens
    rtkSavedTokens := tokens }

def twoProjects : Table CostRecord.id where
  rows := [billed "r1" "app" "2026-01-31T00:00:00+00:00" 100 (1 / 2),
    billed "r2" "web" "2026-02-01T00:00:00+00:00" 200 (3 / 4)]
  nodup := by decide

def allDays : CostReportQuery := { days := 47482 }

end Sample

theorem sample_range : computeTimeRange 4102444800 Sample.allDays.days Sample.allDays.tzOffset none =
    some Storage.Sample.century := by decide +kernel

theorem sample_sumsFit (engine : Engine) : SumsFit (clauseGroups .projectModelMonth
    (scanned Storage.Sample.rfc3339 engine Sample.twoProjects Storage.Sample.century)) := by
  intro group hgroup column hcolumn
  obtain ⟨k, -, rfl⟩ := List.mem_map.mp hgroup
  apply @runningFits_of_le _ 2000
  · intro x hx
    obtain ⟨r, hr, rfl⟩ := List.mem_map.mp hx
    have hrow := (mem_scanned.mp (mem_members.mp hr).1).1
    simp only [Sample.twoProjects, List.mem_cons, List.not_mem_nil, or_false] at hrow
    simp only [summedColumns, List.mem_cons, List.not_mem_nil, or_false] at hcolumn
    rcases hrow with rfl | rfl <;> rcases hcolumn with rfl | rfl | rfl <;> decide
  · have hscanned : (scanned Storage.Sample.rfc3339 engine Sample.twoProjects Storage.Sample.century).length ≤ 2 := by
      rw [scanned, (engine.scan_perm _).length_eq]
      exact List.length_filter_le _ _
    have hgroup : (members (groupClause .projectModelMonth)
        (scanned Storage.Sample.rfc3339 engine Sample.twoProjects Storage.Sample.century) k).length ≤ 2 :=
      (List.length_filter_le _ _).trans hscanned
    rw [List.length_map]
    omega

theorem project_report_only_project : ∃ results,
    costReport Storage.Sample.rfc3339 Storage.Sample.engine Sample.twoProjects 4102444800
      { Sample.allDays with project := some "app" } = some (.ok results) ∧
    CoversProject "app" (Sample.twoProjects.rows.filter (inRange Storage.Sample.rfc3339 Storage.Sample.century))
      results := by
  apply (project_report_iff Storage.Sample.rfc3339 Sample.twoProjects 4102444800 Sample.allDays "app"
    Storage.Sample.century sample_range).mpr
  refine ⟨sample_sumsFit, fun r hr hproject => ?_⟩
  have hrow := List.mem_of_mem_filter hr
  simp only [Sample.twoProjects, List.mem_cons, List.not_mem_nil, or_false] at hrow
  rcases hrow with rfl | rfl
  · exact absurd rfl hproject
  · decide +kernel

theorem prefixed_project_included : ¬ ∀ engine, ∃ results,
    costReport Storage.Sample.rfc3339 engine Sample.bothProjects 4102444800
      { Sample.allDays with project := some "app" } = some (.ok results) ∧
    CoversProject "app" (Sample.bothProjects.rows.filter (inRange Storage.Sample.rfc3339 Storage.Sample.century))
      results := by
  intro h
  obtain ⟨results, hresults, hcovers⟩ := h Storage.Sample.engine
  obtain ⟨hfit, rfl⟩ := (costReport_ok_iff sample_range).mp hresults
  have hforeign := (coversProject_iff hfit).mp hcovers
  rw [sample_scanned (by decide +kernel)] at hforeign
  have hsecond := hforeign (Storage.Sample.costRecord "r2" "app2" "2026-02-01T00:00:00+00:00" 0)
    (by simp [Sample.bothProjects]) (by decide)
  exact absurd hsecond (by decide +kernel)

def savingColumns : List (CostRecord → Int64) :=
  [(·.schemaSavedTokens), (·.responseSavedTokens), (·.rtkSavedTokens), (·.tokensSaved)]

structure SavingsComplete (report : CompressionSavingsReport) (records : List CostRecord) : Prop where
  schema : report.schemaSavedTokens.toInt = (records.map (·.schemaSavedTokens.toInt)).sum
  response : report.responseSavedTokens.toInt = (records.map (·.responseSavedTokens.toInt)).sum
  rtk : report.rtkSavedTokens.toInt = (records.map (·.rtkSavedTokens.toInt)).sum
  total : report.totalSavedTokens.toInt = (records.map (·.tokensSaved.toInt)).sum

section

variable {rfc3339 : ℤ → String} {engine : Engine} {records : Table CostRecord.id} {query : CostReportQuery}
  {range : TimeRange}

theorem computeTimeRange_project {now : ℤ} {days : UInt32} {tzOffset : Option Int32} {project : Option String}
    (h : computeTimeRange now days tzOffset project = some range) : range.project = project := by
  cases tzOffset with
  | none =>
    cases h
    rfl
  | some offset =>
    simp only [computeTimeRange, Option.bind_eq_bind, Option.bind_eq_some_iff] at h
    obtain ⟨_, -, _, -, _, -, hrange⟩ := h
    cases hrange
    rfl

theorem newestFirst_perm (hproject : range.project = query.project) :
    (newestFirst rfc3339 engine records (savingsFilter query range)).Perm
      (records.rows.filter (inRange rfc3339 range)) := by
  have hselects : (savingsFilter query range).selects rfc3339 = inRange rfc3339 range := by
    funext r
    simp only [CostFilter.selects, savingsFilter, inRange, hproject, Option.all_none, Option.all_some, Bool.and_true]
    exact Bool.and_comm _ _
  rw [newestFirst, hselects]
  exact (List.perm_insertionSort byNewest _).trans (engine.scan_perm _)

theorem costSavings_eq {now : ℤ} (hrange : computeTimeRange now query.days query.tzOffset query.project = some range) :
    costSavings rfc3339 engine records now query =
      some (savingsReport ((newestFirst rfc3339 engine records (savingsFilter query range)).take 100)) := by
  rw [costSavings, hrange]
  rfl

theorem page_sum_iff {records rows : List CostRecord} (hperm : records.Perm rows) (n : ℕ) (column : CostRecord → Int64) :
    ((records.take n).map column).sum.toInt = (rows.map fun r => (column r).toInt).sum ↔
      Fits (rows.map fun r => (column r).toInt).sum ∧
        (2 ^ 64 : ℤ) ∣ ((records.drop n).map fun r => (column r).toInt).sum := by
  have hsplit : ((records.take n).map fun r => (column r).toInt).sum + ((records.drop n).map fun r => (column r).toInt).sum =
      (rows.map fun r => (column r).toInt).sum := by
    rw [← List.sum_append, ← List.map_append, List.take_append_drop]
    exact (hperm.map _).sum_eq
  rw [sum_toInt, List.map_map, bmod_eq_iff, ← hsplit, Function.comp_def, add_sub_cancel_left]

theorem savingsComplete_iff {records rows : List CostRecord} (hperm : records.Perm rows) (n : ℕ) :
    SavingsComplete (savingsReport (records.take n)) rows ↔
      ∀ column ∈ savingColumns, Fits (rows.map fun r => (column r).toInt).sum ∧
        (2 ^ 64 : ℤ) ∣ ((records.drop n).map fun r => (column r).toInt).sum := by
  simp only [← page_sum_iff hperm, savingColumns, List.forall_mem_cons, List.not_mem_nil, false_imp_iff, implies_true,
    and_true]
  constructor
  · intro h
    exact ⟨h.schema, h.response, h.rtk, h.total⟩
  · rintro ⟨hschema, hresponse, hrtk, htotal⟩
    exact ⟨hschema, hresponse, hrtk, htotal⟩

end

theorem savings_complete_iff (rfc3339 : ℤ → String) (engine : Engine) (records : Table CostRecord.id) (now : ℤ)
    (query : CostReportQuery) (range : TimeRange)
    (hrange : computeTimeRange now query.days query.tzOffset query.project = some range) :
    (∃ report, costSavings rfc3339 engine records now query = some report ∧
        SavingsComplete report (records.rows.filter (inRange rfc3339 range))) ↔
      ∀ column ∈ savingColumns,
        Fits ((records.rows.filter (inRange rfc3339 range)).map fun r => (column r).toInt).sum ∧
        (2 ^ 64 : ℤ) ∣ (((newestFirst rfc3339 engine records (savingsFilter query range)).drop 100).map
          fun r => (column r).toInt).sum := by
  have hperm := @newestFirst_perm rfc3339 engine records query range (computeTimeRange_project hrange)
  simp only [costSavings_eq hrange, Option.some.injEq, exists_eq_left']
  exact savingsComplete_iff hperm 100

theorem savings_complete_two_records : ∃ report,
    costSavings Storage.Sample.rfc3339 Storage.Sample.engine Sample.twoProjects 4102444800 Sample.allDays =
      some report ∧
    SavingsComplete report
      (Sample.twoProjects.rows.filter (inRange Storage.Sample.rfc3339 Storage.Sample.century)) := by
  apply (savings_complete_iff Storage.Sample.rfc3339 Storage.Sample.engine Sample.twoProjects 4102444800
    Sample.allDays Storage.Sample.century sample_range).mpr
  have hperm := @newestFirst_perm Storage.Sample.rfc3339 Storage.Sample.engine Sample.twoProjects Sample.allDays
    Storage.Sample.century rfl
  have hfew : (newestFirst Storage.Sample.rfc3339 Storage.Sample.engine Sample.twoProjects
      (savingsFilter Sample.allDays Storage.Sample.century)).length ≤ 100 := by
    rw [hperm.length_eq]
    exact (List.length_filter_le _ _).trans (by decide)
  intro column hcolumn
  rw [List.drop_eq_nil_of_le hfew]
  refine ⟨?_, dvd_zero _⟩
  simp only [savingColumns, List.mem_cons, List.not_mem_nil, or_false] at hcolumn
  rcases hcolumn with rfl | rfl | rfl | rfl <;> decide +kernel

namespace Sample

def newYear : String := "2026-01-01T00:00:00+00:00"

def oneTooMany : Table CostRecord.id where
  rows := (List.range 101).map fun i => Storage.Sample.costRecord (String.ofList (List.replicate i 'r')) "app" newYear 1
  nodup := by
    rw [List.map_map]
    apply List.nodup_range.map
    intro i j hij
    have hlength := congrArg (fun s => s.toList.length) hij
    simpa [Storage.Sample.costRecord] using hlength

end Sample

theorem oneTooMany_saved {r : CostRecord} (hr : r ∈ Sample.oneTooMany.rows) : r.tokensSaved.toInt = 1 := by
  obtain ⟨i, -, rfl⟩ := List.mem_map.mp hr
  rfl

theorem oneTooMany_inRange {r : CostRecord} (hr : r ∈ Sample.oneTooMany.rows) :
    inRange Storage.Sample.rfc3339 Storage.Sample.century r = true := by
  have htime : r.timestamp = Sample.newYear := by
    obtain ⟨i, -, rfl⟩ := List.mem_map.mp hr
    rfl
  have hafter : Storage.Sample.rfc3339 Storage.Sample.century.start ≤ Sample.newYear := by decide +kernel
  have hbefore : Sample.newYear < Storage.Sample.rfc3339 Storage.Sample.century.stop := by decide +kernel
  rw [inRange, TimeRange.selects, htime, decide_eq_true hafter, decide_eq_true hbefore]
  rfl

theorem oldest_record_left_out : ¬ ∃ report,
    costSavings Storage.Sample.rfc3339 Storage.Sample.engine Sample.oneTooMany 4102444800 Sample.allDays = some report ∧
    SavingsComplete report
      (Sample.oneTooMany.rows.filter (inRange Storage.Sample.rfc3339 Storage.Sample.century)) := by
  rintro ⟨report, hreport, hcomplete⟩
  rw [costSavings_eq sample_range, Option.some.injEq] at hreport
  have hperm := @newestFirst_perm Storage.Sample.rfc3339 Storage.Sample.engine Sample.oneTooMany Sample.allDays
    Storage.Sample.century rfl
  rw [← hreport, savingsComplete_iff hperm] at hcomplete
  obtain ⟨-, hdropped⟩ := hcomplete (·.tokensSaved) (by simp [savingColumns])
  rw [List.filter_eq_self.mpr fun r hr => oneTooMany_inRange hr] at hperm
  have hone : ((newestFirst Storage.Sample.rfc3339 Storage.Sample.engine Sample.oneTooMany
      (savingsFilter Sample.allDays Storage.Sample.century)).drop 100).map (fun r => r.tokensSaved.toInt) = [1] := by
    rw [← List.replicate_one, List.eq_replicate_iff]
    constructor
    · rw [List.length_map, List.length_drop, hperm.length_eq, Sample.oneTooMany, List.length_map, List.length_range]
    · intro x hx
      obtain ⟨r, hr, rfl⟩ := List.mem_map.mp hx
      exact oneTooMany_saved (hperm.mem_iff.mp (List.mem_of_mem_drop hr))
  rw [hone] at hdropped
  exact absurd hdropped (by decide)

end AgentProxy.Admin
