import AgentProxy.Admin.CostReports
import AgentProxy.Lib.Paging
import AgentProxy.Lib.Run
import AgentProxy.Storage.Pruning

namespace AgentProxy.Admin.Paging

open AgentProxy.Paging Cost Rfc3339 Storage Transition

structure CostRecordsQuery where
  project : Option String := none
  modelName : Option String := none
  channelName : Option String := none
  days : Option UInt32 := none
  limit : Option UInt32 := none
  offset : Option UInt32 := none
  tzOffset : Option Int32 := none

def CostRecordsQuery.timeRange (query : CostRecordsQuery) (now : ℤ) : Option (Option TimeRange) :=
  match query.days with
  | none => some none
  | some days => (computeTimeRange now days query.tzOffset none).map some

def CostRecordsQuery.filter (query : CostRecordsQuery) (timeRange : Option TimeRange) : CostFilter where
  projectPath := query.project
  modelName := query.modelName
  channelName := query.channelName
  timeRange := timeRange
  limit := query.limit.map (·.toNat)
  offset := query.offset.map (·.toNat)

def queryCostRecords (engine : Engine) (records : Table CostRecord.id) (now : ℤ) (query : CostRecordsQuery) :
    Option (List CostRecord) :=
  (query.timeRange now).map fun timeRange =>
    Storage.queryCostRecords boundText engine records (query.filter timeRange)

/-- A client that lists the records page by page while others are inserted and pruned. -/
structure Walk where
  clock : ℤ
  records : Table CostRecord.id
  offset : ℕ
  read : List CostRecord
  finished : Bool

def Walk.start (records : Table CostRecord.id) : Walk := ⟨0, records, 0, [], false⟩

inductive Event where
  | insert (r : CostRecord)
  | prune (now again : ℤ) (olderThanDays : UInt32)
  | page (now : ℤ) (engine : Engine)

section

variable (query : CostRecordsQuery)

/-- The next page begins after the records that were read; an empty page is the last. -/
def step (s : Walk) : Event → Option Walk
  | .insert r =>
    match insertCostRecord s.records r with
    | .ok records => some { s with records }
    | .error _ => some s
  | .prune now again olderThanDays => some { s with records := (pruneCostRecords now again olderThanDays s.records).1 }
  | .page now engine =>
    if s.finished = false ∧ s.clock ≤ now ∧ s.offset < 2 ^ 32 then
      (queryCostRecords engine s.records now { query with offset := some (.ofNat s.offset) }).map fun page =>
        { s with
          clock := now
          offset := s.offset + page.length
          read := s.read ++ page
          finished := page.isEmpty }
    else none

/-- `r` is stored throughout, and every page is taken from a listing in which no other record has its timestamp. -/
structure Stays (r : CostRecord) (s : Walk) (e : Event) : Prop where
  stored : r ∈ s.records.rows
  listed : ∀ now engine, e = .page now engine → ∀ timeRange, query.timeRange now = some timeRange →
    (query.filter timeRange).selects boundText r = true
  own : ∀ now engine, e = .page now engine → ∀ x ∈ s.records.rows, x.timestamp = r.timestamp → x = r
  clock : ∀ now engine, e = .page now engine → 0 ≤ now ∧ InYears (now * 1000000000)

def size : ℕ := min ((query.limit.map (·.toNat)).getD 100) 1000

def ahead (now : ℤ) (records : Table CostRecord.id) (r : CostRecord) : ℕ :=
  records.rows.countP fun x => decide (r.timestamp < x.timestamp) &&
    ((query.filter none).selects boundText x && (query.days.isNone || decide (x.timestamp < boundText now)))

end

section

variable {query : CostRecordsQuery} {records : Table CostRecord.id} {r x : CostRecord} {now later : ℤ}
  {timeRange : Option TimeRange} {engine : Engine} {s t : Walk} {e : Event}

theorem size_pos (hlimit : query.limit ≠ some 0) : 0 < size query := by
  unfold size
  cases hquery : query.limit with
  | none => decide
  | some limit =>
    rw [hquery] at hlimit
    have hpos : limit.toNat ≠ 0 := fun hzero => hlimit (congrArg some (UInt32.toNat_inj.mp hzero))
    rw [Option.map_some, Option.getD_some]
    omega

theorem computeTimeRange_stop {days : UInt32} {tzOffset : Option Int32} {project : Option String} {range : TimeRange}
    (h : computeTimeRange now days tzOffset project = some range) : range.stop = now := by
  cases tzOffset with
  | none =>
    cases h
    rfl
  | some minutes =>
    simp only [computeTimeRange, Option.bind_eq_bind, Option.bind_eq_some_iff] at h
    obtain ⟨localNow, -, localStart, -, utcStart, -, hrange⟩ := h
    cases hrange
    rfl

theorem page_of_query {offset : ℕ} {page : List CostRecord} (hoffset : offset < 2 ^ 32)
    (h : queryCostRecords engine records now { query with offset := some (.ofNat offset) } = some page) :
    ∃ timeRange, query.timeRange now = some timeRange ∧
      page = Paging.page offset (size query) (newestFirst boundText engine records (query.filter timeRange)) := by
  obtain ⟨timeRange, htime, rfl⟩ := Option.map_eq_some_iff.mp h
  refine ⟨timeRange, htime, ?_⟩
  have hnat : (UInt32.ofNat offset).toNat = offset := UInt32.toNat_ofNat_of_lt' hoffset
  simp only [Storage.queryCostRecords, CostRecordsQuery.filter, Option.map_some, Option.getD_some, hnat]
  rfl

theorem newestFirst_sorted (engine : Engine) (records : Table CostRecord.id) (filter : CostFilter) :
    (newestFirst boundText engine records filter).Pairwise fun a b => b.timestamp ≤ a.timestamp := by
  have htotal : Std.Total byNewest := ⟨fun a b => le_total b.timestamp a.timestamp⟩
  have htrans : IsTrans CostRecord byNewest := ⟨fun _ _ _ hab hbc => le_trans hbc hab⟩
  exact List.pairwise_insertionSort _ _

theorem selects_newer (htime : query.timeRange now = some timeRange)
    (hr : (query.filter timeRange).selects boundText r = true) (hnewer : r.timestamp < x.timestamp) :
    (query.filter timeRange).selects boundText x =
      ((query.filter none).selects boundText x && (query.days.isNone || decide (x.timestamp < boundText now))) := by
  unfold CostRecordsQuery.timeRange at htime
  cases hdays : query.days with
  | none =>
    rw [hdays] at htime
    cases htime
    simp
  | some days =>
    rw [hdays] at htime
    obtain ⟨range, hrange, rfl⟩ := Option.map_eq_some_iff.mp htime
    have hsplit : ∀ x : CostRecord, (query.filter (some range)).selects boundText x = true ↔
        (query.filter none).selects boundText x = true ∧ range.selects boundText x = true :=
      fun x => filter_selects_timeRange rfl
    have hstart := ((hsplit r).mp hr).2
    rw [TimeRange.selects, Bool.and_eq_true, decide_eq_true_eq] at hstart
    have hfrom : boundText range.start ≤ x.timestamp := le_trans hstart.1 hnewer.le
    rw [Bool.eq_iff_iff, hsplit, TimeRange.selects, computeTimeRange_stop hrange]
    simp [hfrom]

theorem rank_newestFirst (htime : query.timeRange now = some timeRange)
    (hr : (query.filter timeRange).selects boundText r = true) :
    rank CostRecord.timestamp r (newestFirst boundText engine records (query.filter timeRange)) =
      ahead query now records r := by
  have hperm : (newestFirst boundText engine records (query.filter timeRange)).Perm
      (records.rows.filter ((query.filter timeRange).selects boundText)) :=
    (List.perm_insertionSort _ _).trans (engine.scan_perm _)
  rw [rank, hperm.countP_eq, List.countP_filter, ahead]
  apply List.countP_congr
  intro x _
  rw [Bool.and_eq_true, Bool.and_eq_true]
  apply and_congr_right
  intro hnewer
  rw [selects_newer htime hr (of_decide_eq_true hnewer)]

theorem ahead_later (hnow : now ≤ later) (hpos : 0 ≤ later) (hyears : InYears (later * 1000000000)) :
    ahead query now records r ≤ ahead query later records r := by
  apply List.countP_mono_left
  intro x _ hx
  simp only [Bool.and_eq_true, Bool.or_eq_true, decide_eq_true_eq] at hx ⊢
  refine ⟨hx.1, hx.2.1, ?_⟩
  rcases hx.2.2 with hdays | hbefore
  · exact .inl hdays
  · exact .inr (lt_of_lt_of_le hbefore (boundText_mono hnow hpos hyears))

theorem ahead_insert {records' : Table CostRecord.id} (h : insertCostRecord records x = .ok records') :
    ahead query now records r ≤ ahead query now records' r := by
  unfold insertCostRecord at h
  split at h
  · rename_i t ht
    cases h
    rw [ahead, ahead, Table.rows_insert? ht, List.countP_append]
    exact Nat.le_add_right _ _
  · cases h

theorem ahead_prune {again : ℤ} {days : UInt32} (hr : r ∈ (pruneCostRecords now again days records).1.rows) :
    ahead query later (pruneCostRecords now again days records).1 r = ahead query later records r := by
  have hkept := (List.mem_filter.mp hr).2
  simp only [Bool.not_eq_true', decide_eq_false_iff_not, not_lt] at hkept
  rw [ahead, pruneCostRecords, Table.filterOut, List.countP_filter, ahead]
  apply List.countP_congr
  intro x _
  simp only [Bool.and_eq_true, decide_eq_true_eq, Bool.not_eq_true', decide_eq_false_iff_not, not_lt]
  exact ⟨fun h => h.1, fun h => ⟨h, le_trans hkept h.1.le⟩⟩

structure Unread (query : CostRecordsQuery) (r : CostRecord) (s : Walk) : Prop where
  going : s.finished = false
  behind : r ∈ s.records.rows → s.offset ≤ ahead query s.clock s.records r

def Inv (query : CostRecordsQuery) (r : CostRecord) (s : Walk) : Prop := r ∈ s.read ∨ Unread query r s

theorem start_inv : Inv query r (.start records) := .inr ⟨rfl, fun _ => Nat.zero_le _⟩

theorem step_inv (hlimit : query.limit ≠ some 0) (hinv : Inv query r s) (hstays : Stays query r s e)
    (h : step query s e = some t) : Inv query r t := by
  cases e with
  | insert x =>
    simp only [step] at h
    split at h
    · rename_i records' hinsert
      cases h
      apply hinv.imp_right
      intro hunread
      exact ⟨hunread.going, fun _ => le_trans (hunread.behind hstays.stored) (ahead_insert hinsert)⟩
    · cases h
      exact hinv
  | prune now again days =>
    cases h
    apply hinv.imp_right
    intro hunread
    refine ⟨hunread.going, fun hr => ?_⟩
    rw [ahead_prune hr]
    exact hunread.behind hstays.stored
  | page now engine =>
    simp only [step] at h
    split_ifs at h with hgoing
    obtain ⟨hfinished, hclock, hoffset⟩ := hgoing
    obtain ⟨page, hpage, rfl⟩ := Option.map_eq_some_iff.mp h
    rcases hinv with hread | hunread
    · exact .inl (List.mem_append_left _ hread)
    obtain ⟨timeRange, htime, rfl⟩ := page_of_query hoffset hpage
    obtain ⟨hpos, hyears⟩ := hstays.clock now engine rfl
    have hselects := hstays.listed now engine rfl timeRange htime
    have hsorted := newestFirst_sorted engine s.records (query.filter timeRange)
    have hmem : r ∈ newestFirst boundText engine s.records (query.filter timeRange) :=
      mem_newestFirst.mpr ⟨hstays.stored, hselects⟩
    have hown : ∀ x ∈ newestFirst boundText engine s.records (query.filter timeRange),
        x.timestamp = r.timestamp → x = r :=
      fun x hx => hstays.own now engine rfl x (mem_newestFirst.mp hx).1
    have hrank := @rank_newestFirst query s.records r now timeRange engine htime hselects
    have hlater : ahead query s.clock s.records r ≤ ahead query now s.records r := ahead_later hclock hpos hyears
    have hfrom := le_trans (hunread.behind hstays.stored) hlater
    rw [← hrank] at hfrom
    rcases mem_page_or_le_rank (size query) hsorted hmem hown hfrom with hread | hbehind
    · exact .inl (List.mem_append_right _ hread)
    · refine .inr ⟨?_, fun _ => ?_⟩
      · exact List.isEmpty_eq_false_iff.mpr (page_ne_nil (size_pos hlimit) hsorted hmem hown hfrom)
      · rw [hrank] at hbehind
        exact hbehind

structure Quiet (query : CostRecordsQuery) (engine : Engine) (records : Table CostRecord.id) (s : Walk) : Prop where
  unchanged : s.records = records
  read : s.read = (newestFirst boundText engine records (query.filter none)).take s.offset
  finished : s.finished = true →
    (newestFirst boundText engine records (query.filter none)).take s.offset =
      newestFirst boundText engine records (query.filter none)

theorem step_quiet (hlimit : query.limit ≠ some 0) (hdays : query.days = none) (hquiet : Quiet query engine records s)
    (h : step query s (.page now engine) = some t) : Quiet query engine records t := by
  simp only [step] at h
  split_ifs at h with hgoing
  obtain ⟨-, -, hoffset⟩ := hgoing
  obtain ⟨page, hpage, rfl⟩ := Option.map_eq_some_iff.mp h
  obtain ⟨timeRange, htime, rfl⟩ := page_of_query hoffset hpage
  rw [CostRecordsQuery.timeRange, hdays] at htime
  cases htime
  rw [hquiet.unchanged]
  constructor
  · rfl
  · dsimp only
    rw [hquiet.read, take_append_page]
  · intro hempty
    have hnil := List.isEmpty_iff.mp hempty
    dsimp only
    rw [hnil]
    exact take_of_page_nil (size_pos hlimit) hnil

end

namespace Sample

def stampedRecord (id : String) (seconds : ℤ) : CostRecord :=
  Storage.Sample.costRecord id "/work/agent" (toRfc3339 (seconds * 1000000000)) 0

def first : CostRecord := stampedRecord "r1" 1767225600

def second : CostRecord := stampedRecord "r2" 1767225601

def third : CostRecord := stampedRecord "r3" 1767225602

def stored : Table CostRecord.id := ⟨[first, second], by decide⟩

def grown : Table CostRecord.id := ⟨[first, second, third], by decide⟩

def onePerPage : CostRecordsQuery := { days := some 7, limit := some 1 }

def events : List Event :=
  [.page 1767225700 Storage.Sample.engine, .insert third, .prune 1767225700000000000 1767225700000000000 30,
    .page 1767225701 Storage.Sample.engine, .page 1767225702 Storage.Sample.engine,
    .page 1767225703 Storage.Sample.engine]

end Sample

theorem paging_complete {query : CostRecordsQuery} (hlimit : query.limit ≠ some 0) {records : Table CostRecord.id}
    {es : List Event} {s : Walk} (h : run (step query) (.start records) es = some s) (hfinished : s.finished = true) :
    (∀ r, Meets (step query) (Stays query r) (.start records) es → r ∈ s.read) ∧
    ∀ engine, query.days = none → (∀ e ∈ es, ∃ now, e = .page now engine) →
      s.read = newestFirst boundText engine records (query.filter none) := by
  constructor
  · intro r hmeets
    have hinv := run_invariant (Inv query r) (fun _ _ _ hs hok hstep => step_inv hlimit hs hok hstep) start_inv hmeets h
    rcases hinv with hread | hunread
    · exact hread
    · rw [hunread.going] at hfinished
      cases hfinished
  · intro engine hdays hpages
    have hmeets : Meets (step query) (fun _ e => ∃ now, e = .page now engine) (.start records) es :=
      meets_of_forall (fun e he _ => hpages e he) _
    have hstart : Quiet query engine records (.start records) := ⟨rfl, rfl, fun h => by cases h⟩
    have hquiet := run_invariant (Quiet query engine records) (fun s e t hs hok hstep => by
      obtain ⟨now, rfl⟩ := hok
      exact step_quiet hlimit hdays hs hstep) hstart hmeets h
    rw [hquiet.read, hquiet.finished hfinished]

namespace Sample

theorem pruned_grown : (pruneCostRecords 1767225700000000000 1767225700000000000 30 grown).1 = grown := by
  have hyoung : grown.rows.all (fun r => !decide (r.timestamp <
      toRfc3339 (pruneCutoff 1767225700000000000 1767225700000000000 30))) = true := by decide +kernel
  exact Table.ext_rows (List.filter_eq_self.mpr (List.all_eq_true.mp hyoung))

theorem pruned_stored : (pruneCostRecords 1767225700000000000 1767225700000000000 30 stored).1 = stored := by
  have hyoung : stored.rows.all (fun r => !decide (r.timestamp <
      toRfc3339 (pruneCutoff 1767225700000000000 1767225700000000000 30))) = true := by decide +kernel
  exact Table.ext_rows (List.filter_eq_self.mpr (List.all_eq_true.mp hyoung))

theorem known_step : ∀ e ∈ events, ∀ s t : Walk, s.records = stored ∨ s.records = grown →
    step onePerPage s e = some t → t.records = stored ∨ t.records = grown := by
  intro e he s t hknown h
  cases e with
  | insert x =>
    have hx : x = third := by simpa [events] using he
    subst hx
    simp only [step] at h
    split at h
    · rename_i records hinsert
      cases h
      rcases hknown with hrecords | hrecords
      · rw [hrecords] at hinsert
        cases hinsert
        exact .inr rfl
      · rw [hrecords] at hinsert
        cases hinsert
    · cases h
      exact hknown
  | prune now again days =>
    obtain ⟨rfl, rfl, rfl⟩ : now = 1767225700000000000 ∧ again = 1767225700000000000 ∧ days = 30 := by
      simpa [events] using he
    cases h
    rcases hknown with hrecords | hrecords
    · exact .inl (by rw [hrecords, pruned_stored])
    · exact .inr (by rw [hrecords, pruned_grown])
  | page now engine =>
    simp only [step] at h
    split_ifs at h
    obtain ⟨page, -, rfl⟩ := Option.map_eq_some_iff.mp h
    exact hknown

theorem page_times {now : ℤ} {engine : Engine} (h : Event.page now engine ∈ events) :
    now = 1767225700 ∨ now = 1767225701 ∨ now = 1767225702 ∨ now = 1767225703 := by
  simp only [events, List.mem_cons, Event.page.injEq, reduceCtorEq, List.not_mem_nil, or_false, false_or] at h
  exact h.imp And.left (Or.imp And.left (Or.imp And.left And.left))

theorem known_stays : ∀ e ∈ events, ∀ s : Walk, s.records = stored ∨ s.records = grown →
    Stays onePerPage first s e := by
  intro e he s hknown
  have hmem : first ∈ s.records.rows := by
    rcases hknown with hrecords | hrecords
    · rw [hrecords]
      exact List.mem_cons_self
    · rw [hrecords]
      exact List.mem_cons_self
  have hknown : ∀ x ∈ s.records.rows, x = first ∨ x = second ∨ x = third := by
    rcases hknown with hrecords | hrecords
    · rw [hrecords]
      simp [stored]
    · rw [hrecords]
      simp [grown]
  constructor
  · exact hmem
  · rintro now engine rfl timeRange htime
    cases htime
    rcases page_times he with rfl | rfl | rfl | rfl
    all_goals decide +kernel
  · rintro now engine rfl x hx hsame
    rcases hknown x hx with rfl | rfl | rfl
    · rfl
    · exact absurd hsame (by decide +kernel)
    · exact absurd hsame (by decide +kernel)
  · rintro now engine rfl
    rcases page_times he with rfl | rfl | rfl | rfl
    all_goals exact ⟨by decide, by decide +kernel⟩

end Sample

theorem paging_complete_while_growing : ∃ s, run (step Sample.onePerPage) (.start Sample.stored) Sample.events = some s ∧
    s.finished = true ∧ Sample.first ∈ s.read := by
  have hmeets : Meets (step Sample.onePerPage) (Stays Sample.onePerPage Sample.first) (.start Sample.stored)
      Sample.events := meets_of_inv Sample.known_step Sample.known_stays (.inl rfl)
  have hfinished : (run (step Sample.onePerPage) (.start Sample.stored) Sample.events).map Walk.finished = some true := by
    decide +kernel
  obtain ⟨s, hs, hfinished⟩ := Option.map_eq_some_iff.mp hfinished
  exact ⟨s, hs, hfinished, (paging_complete (by decide) hs hfinished).1 Sample.first hmeets⟩

end AgentProxy.Admin.Paging
