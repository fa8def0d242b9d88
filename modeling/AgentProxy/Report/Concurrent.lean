import AgentProxy.Lib.Lines
import AgentProxy.Lib.Run
import AgentProxy.Report.Consume
import Mathlib.Data.List.Nodup

namespace AgentProxy.Report

open Text Transition

structure Returned where
  result : Option TokenlessAccumulator
  counted : List (ℕ × ProxyReport)

structure SessionState where
  lines : List (List Char) := []
  cursor : Option ℕ := none
  reading : List (List Char) := []
  returned : List Returned := []

namespace SessionState

def content (s : SessionState) : List Char := unlines s.lines

def counted (s : SessionState) : List (ℕ × ProxyReport) := s.returned.flatMap (·.counted)

end SessionState

inductive Event where
  | append (line : List Char)
  | read
  | finish (i : ℕ)

section

variable (serde : Serde)

def finishCall (s : SessionState) (snapshot : List Char) : SessionState :=
  if snapshot.isEmpty then { s with returned := s.returned ++ [⟨none, []⟩] }
  else
    let cursor := s.cursor.getD 0
    let result := consumeContent serde snapshot cursor
    { s with
      cursor := some result.2
      returned := s.returned ++ [⟨result.1, newReports serde snapshot (startByte snapshot cursor)⟩] }

def step (s : SessionState) : Event → Option SessionState
  | .append line => if '\n' ∈ line then none else some { s with lines := s.lines ++ [line] }
  | .read => some { s with reading := s.reading ++ [s.content] }
  | .finish i =>
    (s.reading[i]?).map fun snapshot =>
      { finishCall serde s snapshot with reading := s.reading.eraseIdx i }

/-- A call does not run its second step on a snapshot that ends before the cursor. -/
def NotOutdated (s : SessionState) : Event → Prop
  | .finish i => ∀ snapshot, s.reading[i]? = some snapshot →
      snapshot = [] ∨ s.cursor.getD 0 ≤ byteLen snapshot
  | _ => True

/-- After a run without a pending call, one more call counts, together with the calls before it, every
valid line it reads exactly once; and each call's `total_saved` is the sum of what it counts. -/
def CountedOnce (ok : SessionState → Event → Prop) : Prop :=
  ∀ (pre : List Event) (appended : List (List Char)) (s t : SessionState),
    Meets (step serde) ok {} pre → run (step serde) {} pre = some s → s.reading = [] →
    run (step serde) s (.read :: appended.map .append ++ [.finish 0]) = some t →
    (∀ report ∈ newReports serde s.content 0, t.counted.count report = 1) ∧
      ∀ call ∈ t.returned, (call.result.getD {}).totalSaved = saved call.counted

end

section

variable {serde : Serde}

theorem newReports_eq_filter (content : List Char) (start : ℕ) :
    newReports serde content start = (newReports serde content 0).filter fun r => start ≤ r.1 := by
  rw [newReports, newReports, List.filter_filterMap]
  congr 1
  funext line
  cases h : lineReport serde line.2 with
  | none => simp [newReport, h]
  | some r => by_cases hs : start ≤ line.1 <;> simp [newReport, h, hs, Option.filter]

theorem newReport_offset {start : ℕ} {line : ℕ × List Char} {r : ℕ × ProxyReport}
    (h : newReport serde start line = some r) : r.1 = line.1 := by
  unfold newReport at h
  split_ifs at h
  obtain ⟨p, -, rfl⟩ := Option.map_eq_some_iff.mp h
  rfl

variable (serde) in
theorem newReports_lt (content : List Char) : (∀ r ∈ newReports serde content 0, r.1 < byteLen content) ∧
    (newReports serde content 0).Pairwise fun a b => a.1 < b.1 := by
  obtain ⟨hlt, hpair⟩ := lineOffsets_lt content
  constructor
  · intro r hr
    obtain ⟨line, hline, hr⟩ := List.mem_filterMap.mp hr
    rw [newReport_offset hr]
    exact hlt line hline
  · apply hpair.filterMap _
    intro a b hab r hr r' hr'
    rw [newReport_offset hr, newReport_offset hr']
    exact hab

variable (serde) in
def reportsFrom (n : ℕ) (pieces : List (List Char)) : List (ℕ × ProxyReport) :=
  (linesFrom n pieces).filterMap (newReport serde 0)

theorem newReports_append {ls : List (List Char)} (hl : ∀ l ∈ ls, '\n' ∉ l) (s : List Char) :
    newReports serde (unlines ls ++ s) 0 =
      newReports serde (unlines ls) 0 ++ reportsFrom serde (byteLen (unlines ls)) (splitInclusive s) := by
  rw [newReports, lineOffsets_unlines_append hl, List.filterMap_append]
  rfl

theorem reportsFrom_ge {n : ℕ} {pieces : List (List Char)} {r : ℕ × ProxyReport} (h : r ∈ reportsFrom serde n pieces) :
    n ≤ r.1 := by
  obtain ⟨line, hline, hr⟩ := List.mem_filterMap.mp h
  rw [newReport_offset hr]
  exact linesFrom_ge hline

theorem filter_lt_append {ls : List (List Char)} (hl : ∀ l ∈ ls, '\n' ∉ l) (s : List Char) {n : ℕ}
    (hn : n ≤ byteLen (unlines ls)) :
    ((newReports serde (unlines ls ++ s) 0).filter fun r => r.1 < n) =
      (newReports serde (unlines ls) 0).filter fun r => r.1 < n := by
  have hnone : (reportsFrom serde (byteLen (unlines ls)) (splitInclusive s)).filter (fun r => decide (r.1 < n)) = [] := by
    rw [List.filter_eq_nil_iff]
    intro r hr
    have := reportsFrom_ge hr
    simp only [decide_eq_true_eq]
    omega
  rw [newReports_append hl, List.filter_append, hnone, List.append_nil]

theorem newReports_snapshot {ls : List (List Char)} (hl : ∀ l ∈ ls, '\n' ∉ l) (s : List Char) :
    newReports serde (unlines ls) 0 =
      (newReports serde (unlines ls ++ s) 0).filter fun r => r.1 < byteLen (unlines ls) := by
  rw [filter_lt_append hl s (Nat.le_refl _)]
  refine (List.filter_eq_self.mpr fun r hr => ?_).symm
  simpa using (newReports_lt serde (unlines ls)).1 r hr

theorem filter_lt_split {rs : List (ℕ × ProxyReport)} (h : rs.Pairwise fun a b => a.1 < b.1) {c n : ℕ}
    (hc : c ≤ n) :
    (rs.filter fun r => r.1 < c) ++ ((rs.filter fun r => r.1 < n).filter fun r => c ≤ r.1) =
      rs.filter fun r => r.1 < n := by
  induction rs with
  | nil => rfl
  | cons r rs ih =>
    obtain ⟨hr, hrs⟩ := List.pairwise_cons.mp h
    by_cases hlt : r.1 < c
    · have hn : r.1 < n := by omega
      have hge : ¬ c ≤ r.1 := by omega
      simp only [List.filter_cons, hlt, hn, hge, decide_true, decide_false, ↓reduceIte, Bool.false_eq_true,
        List.cons_append, ih hrs]
    · -- from the first report at `c` or later on, nothing is before `c`
      have hnone : (r :: rs).filter (fun r => decide (r.1 < c)) = [] := by
        rw [List.filter_eq_nil_iff]
        intro x hx
        rcases List.mem_cons.mp hx with rfl | hx
        · simpa using hlt
        · have := hr x hx
          simp only [decide_eq_true_eq]
          omega
      rw [hnone, List.nil_append, List.filter_eq_self]
      intro x hx
      have hx' := (List.mem_filter.mp hx).1
      have hnot := List.filter_eq_nil_iff.mp hnone x hx'
      simpa using hnot

variable (serde) in
structure Inv (s : SessionState) : Prop where
  whole : ∀ l ∈ s.lines, '\n' ∉ l
  snapshots : ∀ snapshot ∈ s.reading, ∃ k, snapshot = unlines (s.lines.take k)
  bound : s.cursor.getD 0 ≤ byteLen s.content
  counted : s.counted = (newReports serde s.content 0).filter fun r => r.1 < s.cursor.getD 0
  totals : ∀ call ∈ s.returned, (call.result.getD {}).totalSaved = saved call.counted

theorem init_inv : Inv serde {} where
  whole _ h := absurd h List.not_mem_nil
  snapshots _ h := absurd h List.not_mem_nil
  bound := Nat.zero_le _
  counted := rfl
  totals _ h := absurd h List.not_mem_nil

theorem append_inv {s : SessionState} (hs : Inv serde s) {line : List Char} (hline : '\n' ∉ line) :
    Inv serde { s with lines := s.lines ++ [line] } := by
  have hm : ∀ l ∈ [line], '\n' ∉ l := by simpa using hline
  refine ⟨fun l hl => ?_, fun snapshot hsnap => ?_, ?_, ?_, hs.totals⟩
  · exact (List.mem_append.mp hl).elim (hs.whole l) (hm l)
  · obtain ⟨k, rfl⟩ := hs.snapshots snapshot hsnap
    refine ⟨min k s.lines.length, ?_⟩
    simp only
    rw [List.take_append_of_le_length (Nat.min_le_right _ _), List.take_eq_take_min]
  · have := hs.bound
    simp only [SessionState.content, unlines_append, byteLen_append] at this ⊢
    omega
  · refine hs.counted.trans ?_
    rw [SessionState.content, SessionState.content, unlines_append, filter_lt_append hs.whole _ hs.bound]

theorem read_inv {s : SessionState} (hs : Inv serde s) :
    Inv serde { s with reading := s.reading ++ [s.content] } := by
  refine ⟨hs.whole, fun snapshot hsnap => ?_, hs.bound, hs.counted, hs.totals⟩
  rcases List.mem_append.mp hsnap with hsnap | hsnap
  · exact hs.snapshots snapshot hsnap
  · refine ⟨s.lines.length, ?_⟩
    rw [List.mem_singleton.mp hsnap, List.take_length]
    rfl

theorem finishCall_counted {s : SessionState} {snapshot : List Char}
    (hcur : snapshot = [] ∨ s.cursor.getD 0 ≤ byteLen snapshot) :
    (finishCall serde s snapshot).counted = s.counted ++ newReports serde snapshot (s.cursor.getD 0) := by
  unfold finishCall
  split_ifs with hempty
  · rw [List.isEmpty_iff.mp hempty]
    simp only [SessionState.counted, List.flatMap_append]
    rfl
  · have hc : s.cursor.getD 0 ≤ byteLen snapshot := hcur.resolve_left fun hnil => hempty (hnil ▸ rfl)
    simp [SessionState.counted, startByte_of_le hc]

theorem finishCall_inv {s : SessionState} (hs : Inv serde s) {k : ℕ}
    (hcur : unlines (s.lines.take k) = [] ∨ s.cursor.getD 0 ≤ byteLen (unlines (s.lines.take k))) :
    Inv serde (finishCall serde s (unlines (s.lines.take k))) := by
  generalize hsnap : unlines (s.lines.take k) = snapshot at hcur
  have hcalls := @finishCall_counted serde _ _ hcur
  unfold finishCall at hcalls ⊢
  split_ifs at hcalls ⊢ with hempty
  · refine ⟨hs.whole, hs.snapshots, hs.bound, ?_, fun call hcall => ?_⟩
    · rw [hcalls, List.isEmpty_iff.mp hempty]
      exact (List.append_nil _).trans hs.counted
    · rcases List.mem_append.mp hcall with hcall | hcall
      · exact hs.totals call hcall
      · rw [List.mem_singleton.mp hcall]
        rfl
  · have hc : s.cursor.getD 0 ≤ byteLen snapshot := by
      rcases hcur with hnil | hc
      · exact absurd (by rw [hnil]; rfl) hempty
      · exact hc
    have hstart := startByte_of_le hc
    have hl : ∀ l ∈ s.lines.take k, '\n' ∉ l := fun l h => hs.whole l (List.mem_of_mem_take h)
    have hm : ∀ l ∈ s.lines.drop k, '\n' ∉ l := fun l h => hs.whole l (List.mem_of_mem_drop h)
    have hle : byteLen snapshot ≤ byteLen s.content := by
      rw [SessionState.content, ← List.take_append_drop k s.lines, unlines_append, byteLen_append, hsnap]
      omega
    -- what the call counts, as a part of the reports of the whole file
    have hnew : newReports serde snapshot (s.cursor.getD 0) = ((newReports serde s.content 0).filter
        fun r => r.1 < byteLen snapshot).filter fun r => s.cursor.getD 0 ≤ r.1 := by
      rw [newReports_eq_filter, ← hsnap, newReports_snapshot hl (unlines (s.lines.drop k)), ← unlines_append,
        List.take_append_drop]
      rfl
    have hsplit := filter_lt_split (newReports_lt serde s.content).2 hc
    refine ⟨hs.whole, hs.snapshots, ?_, ?_, fun call hcall => ?_⟩
    · simp only [Option.getD_some, consumeContent_cursor, hstart]
      have := hs.bound
      split_ifs
      · exact this
      · exact hle
    · rw [hcalls, hs.counted, hnew]
      simp only [Option.getD_some, consumeContent_cursor, hstart, hnew]
      split_ifs with hnone
      · rw [hnone, List.append_nil]
        rfl
      · exact hsplit
    · rcases List.mem_append.mp hcall with hcall | hcall
      · exact hs.totals call hcall
      · rw [List.mem_singleton.mp hcall]
        have := (consumeContent_accumulates serde snapshot (s.cursor.getD 0)).total
        simpa using this

theorem step_inv {s t : SessionState} {e : Event} (hs : Inv serde s) (hok : NotOutdated s e)
    (h : step serde s e = some t) : Inv serde t := by
  cases e with
  | append line =>
    simp only [step] at h
    split_ifs at h with hline
    cases h
    exact append_inv hs hline
  | read =>
    cases h
    exact read_inv hs
  | finish i =>
    simp only [step, Option.map_eq_some_iff] at h
    obtain ⟨snapshot, hget, rfl⟩ := h
    obtain ⟨k, rfl⟩ := hs.snapshots snapshot (List.mem_of_getElem? hget)
    have hf := finishCall_inv hs (hok _ hget)
    have hlines : (finishCall serde s (unlines (s.lines.take k))).lines = s.lines := by
      unfold finishCall
      split_ifs <;> rfl
    refine ⟨hf.whole, fun snap hsnap => ?_, hf.bound, hf.counted, hf.totals⟩
    simp only [hlines]
    exact hs.snapshots snap (List.mem_of_mem_eraseIdx hsnap)

theorem run_appends {s t : SessionState} {appended : List (List Char)} (hs : Inv serde s)
    (h : run (step serde) s (appended.map .append) = some t) :
    Inv serde t ∧ t.cursor = s.cursor ∧ t.reading = s.reading ∧ ∃ later, t.lines = s.lines ++ later := by
  induction appended generalizing s with
  | nil =>
    cases h
    exact ⟨hs, rfl, rfl, [], (List.append_nil _).symm⟩
  | cons line appended ih =>
    obtain ⟨u, hu, hrest⟩ := run_cons.mp h
    have hu' := step_inv hs (e := .append line) trivial hu
    simp only [step] at hu
    split_ifs at hu
    cases hu
    obtain ⟨ht, hc, hr, later, hlater⟩ := ih hu' hrest
    exact ⟨ht, hc, hr, line :: later, by rw [hlater]; simp⟩

theorem final_counts {s t : SessionState} {appended : List (List Char)} (hs : Inv serde s)
    (hidle : s.reading = [])
    (h : run (step serde) s (.read :: appended.map .append ++ [.finish 0]) = some t) :
    Inv serde t ∧ ∀ report ∈ newReports serde s.content 0, report ∈ t.counted := by
  rw [List.cons_append] at h
  obtain ⟨s₁, h₁, hrest⟩ := run_cons.mp h
  have hs₁ := step_inv hs (e := .read) trivial h₁
  cases h₁
  obtain ⟨s₂, h₂, hlast⟩ := run_append.mp hrest
  obtain ⟨hs₂, hcursor, hreading, later, hlines⟩ := run_appends hs₁ h₂
  obtain ⟨s₃, h₃, hnil⟩ := run_cons.mp hlast
  cases hnil
  have hsnap : s₂.reading[0]? = some s.content := by
    rw [hreading]
    simp [hidle]
  have hcur : s₂.cursor.getD 0 ≤ byteLen s.content := by
    rw [hcursor]
    exact hs.bound
  have ht : Inv serde t := by
    refine step_inv hs₂ (e := .finish 0) (fun snapshot hget => Or.inr ?_) h₃
    rw [hsnap] at hget
    cases hget
    exact hcur
  refine ⟨ht, fun report hreport => ?_⟩
  have hcounted : t.counted = s₂.counted ++ newReports serde s.content (s₂.cursor.getD 0) := by
    simp only [step, hsnap, Option.map_some, Option.some.injEq] at h₃
    subst h₃
    exact finishCall_counted (.inr hcur)
  rw [hcounted, List.mem_append]
  by_cases hlt : report.1 < s₂.cursor.getD 0
  · left
    rw [hs₂.counted, List.mem_filter]
    refine ⟨?_, by simpa using hlt⟩
    rw [SessionState.content, hlines, unlines_append, newReports_append hs.whole]
    exact List.mem_append_left _ hreport
  · right
    rw [newReports_eq_filter, List.mem_filter]
    exact ⟨hreport, by simpa using hlt⟩

theorem counted_nodup {s : SessionState} (hs : Inv serde s) : s.counted.Nodup := by
  rw [hs.counted]
  have hpair := (newReports_lt serde s.content).2
  have hnodup : (newReports serde s.content 0).Nodup :=
    hpair.imp fun {a b} hab hne => absurd hab (by rw [hne]; exact Nat.lt_irrefl _)
  exact hnodup.filter _

end

section

variable {serde : Serde} {line : List Char} {r : ProxyReport}

theorem newReports_one (hline : '\n' ∉ line) (hr : lineReport serde (stripEol (line ++ ['\n'])) = some r) :
    newReports serde (unlines [line]) 0 = [(0, r)] := by
  rw [newReports, lineOffsets, splitInclusive_unlines (by simpa using hline)]
  simp [linesFrom, newReport, hr]

theorem newReports_two (hline : '\n' ∉ line) (hr : lineReport serde (stripEol (line ++ ['\n'])) = some r) :
    newReports serde (unlines [line, line]) 0 = [(0, r), (byteLen (line ++ ['\n']), r)] := by
  rw [newReports, lineOffsets, splitInclusive_unlines (by simpa using hline)]
  simp [linesFrom, newReport, hr]

theorem unlines_ne_nil (line : List Char) (ls : List (List Char)) : unlines (line :: ls) ≠ [] := by
  cases line <;> simp [unlines]

theorem two_reads (hline : '\n' ∉ line) : run (step serde) {} [.append line, .read, .append line, .read] =
    some ⟨[line, line], none, [unlines [line], unlines [line, line]], []⟩ := by
  simp [run, step, hline, SessionState.content]

/-- A second call reads before the first one finishes. -/
def overlapping (line : List Char) : List Event :=
  [.append line, .read, .append line, .read] ++ [.finish 0, .finish 0]

theorem run_overlapping (hline : '\n' ∉ line) (hr : lineReport serde (stripEol (line ++ ['\n'])) = some r) :
    ∃ s, run (step serde) {} (overlapping line) = some s ∧ Meets (step serde) NotOutdated {} (overlapping line) ∧
      s.lines = [line, line] ∧ s.reading = [] := by
  have hopen := @two_reads serde line hline
  have hone := newReports_one hline hr
  have hcursor : byteLen (unlines [line]) ≤ byteLen (unlines [line, line]) := by
    simp only [unlines, List.flatMap_cons, List.flatMap_nil, List.append_nil, byteLen_append]
    omega
  obtain ⟨first, hfirst⟩ : ∃ call, step serde ⟨[line, line], none, [unlines [line], unlines [line, line]], []⟩
      (.finish 0) = some ⟨[line, line], some (byteLen (unlines [line])), [unlines [line, line]], [call]⟩ := by
    simp [step, finishCall, unlines_ne_nil, consumeContent_cursor, startByte, hone]
  obtain ⟨cursor, second, hsecond⟩ : ∃ cursor call, step serde
      ⟨[line, line], some (byteLen (unlines [line])), [unlines [line, line]], [first]⟩ (.finish 0) =
        some ⟨[line, line], cursor, [], [first, call]⟩ := by
    simp [step, finishCall, unlines_ne_nil]
  refine ⟨⟨[line, line], cursor, [], [first, second]⟩, ?_, (meets_append hopen).mpr ⟨?_, ?_⟩, rfl, rfl⟩
  · exact run_append.mpr ⟨_, hopen, run_cons.mpr ⟨_, hfirst, run_cons.mpr ⟨_, hsecond, rfl⟩⟩⟩
  · refine meets_of_forall (fun e he _ => ?_) _
    simp only [List.mem_cons, List.not_mem_nil, or_false] at he
    rcases he with rfl | rfl | rfl | rfl
    all_goals trivial
  · refine (meets_cons hfirst).mpr ⟨fun snapshot h => .inr (Nat.zero_le _), ?_⟩
    refine (meets_cons hsecond).mpr ⟨fun snapshot h => ?_, trivial⟩
    cases h
    exact .inr hcursor

end

namespace Sample

def report (opType : String) : ProxyReport where
  sessionId := "s1"
  agentId := "claude"
  projectPath := none
  userName := none
  opType := opType
  method := none
  beforeTokens := 300
  afterTokens := 200
  savedTokens := 100
  beforeBytes := 0
  afterBytes := 0
  savedBytes := 0
  timestamp := ""

def lineText (opType : String) : String :=
  AgentProxy.Sample.compact (.obj [("sessionId", .str "s1"), ("agentId", .str "claude"), ("opType", .str opType),
    ("beforeTokens", .num (.posInt 300)), ("afterTokens", .num (.posInt 200)), ("savedTokens", .num (.posInt 100))])

def serde (opType : String) : Serde :=
  { AgentProxy.Sample.serdeOn [] with
    proxyReport := fun s =>
      if s = lineText opType then .ok (report opType) else .error AgentProxy.Sample.parseError }

def line : List Char := (lineText "compress-toon").toList

theorem lineText_ends (opType : String) : ∃ mid, (lineText opType).toList = '\x7b' :: (mid ++ ['\x7d']) := by
  simp [lineText, AgentProxy.Sample.compact]

theorem newline_not_mem_lineText {opType : String} (h : '\n' ∉ opType.toList) : '\n' ∉ (lineText opType).toList := by
  have hcounts : '\n' ∉ Nat.toDigits 10 300 ∧ '\n' ∉ Nat.toDigits 10 200 ∧ '\n' ∉ Nat.toDigits 10 100 := by decide
  simp [lineText, AgentProxy.Sample.compact, AgentProxy.Sample.compactFields, h, hcounts]

theorem newline_not_mem_toon : '\n' ∉ (lineText "compress-toon").toList := newline_not_mem_lineText (by decide)

theorem lineReport_lineText (opType : String) :
    lineReport (serde opType) (stripEol ((lineText opType).toList ++ ['\n'])) = some (report opType) := by
  obtain ⟨mid, hmid⟩ := lineText_ends opType
  have htrim : trim (lineText opType).toList = (lineText opType).toList := by
    rw [hmid]
    exact trim_of_ends (by decide) (by decide) mid
  have hstrip : stripEol ((lineText opType).toList ++ ['\n']) = (lineText opType).toList := by
    have hlast : (lineText opType).toList.getLast? ≠ some '\r' := by
      rw [hmid, ← List.cons_append, List.getLast?_concat]
      decide
    rw [stripEol_line, if_neg hlast]
  rw [hstrip, lineReport, htrim, String.ofList_toList]
  simp [hmid, serde, Except.toOption]

end Sample

theorem counted_once_of_not_outdated (serde : Serde) : CountedOnce serde NotOutdated := by
  intro pre appended s t hok hpre hidle hfinal
  have hs : Inv serde s := run_invariant (Inv serde) (fun _ _ _ => step_inv) init_inv hok hpre
  obtain ⟨ht, hcounts⟩ := final_counts hs hidle hfinal
  exact ⟨fun report hreport => List.count_eq_one_of_mem (counted_nodup ht) (hcounts report hreport), ht.totals⟩

theorem counted_once_two_lines :
    ∃ s t, run (step (Sample.serde "compress-toon")) {} (overlapping Sample.line) = some s ∧
      (newReports (Sample.serde "compress-toon") s.content 0).length = 2 ∧
      run (step (Sample.serde "compress-toon")) s [.read, .finish 0] = some t ∧
      ∀ report ∈ newReports (Sample.serde "compress-toon") s.content 0, t.counted.count report = 1 := by
  have hread := Sample.lineReport_lineText "compress-toon"
  obtain ⟨s, hs, hmeets, hlines, hreading⟩ := run_overlapping Sample.newline_not_mem_toon hread
  obtain ⟨t, ht⟩ : ∃ t, run (step (Sample.serde "compress-toon")) s [.read, .finish 0] = some t := by
    simp [run, step, hreading]
  refine ⟨s, t, hs, ?_, ht, (counted_once_of_not_outdated _ _ [] _ _ hmeets hs hreading ht).1⟩
  rw [SessionState.content, hlines]
  exact congrArg List.length (newReports_two Sample.newline_not_mem_toon hread)

section

variable {serde : Serde} {line : List Char} {r : ProxyReport}

variable (serde line r) in
theorem outdated_snapshot_recounts (hline : '\n' ∉ line)
    (hr : lineReport serde (stripEol (line ++ ['\n'])) = some r) :
    ¬ CountedOnce serde fun _ _ => True := by
  intro h
  have hpos : 0 < byteLen (line ++ ['\n']) := byteLen_pos (by simp)
  have hone : byteLen (unlines [line]) = byteLen (line ++ ['\n']) := by simp [unlines]
  have htwo : byteLen (unlines [line, line]) = 2 * byteLen (line ++ ['\n']) := by
    simp only [unlines, List.flatMap_cons, List.flatMap_nil, List.append_nil, byteLen_append]
    omega
  -- the later reader counts both lines and moves the cursor to the end
  have hlater : step serde ⟨[line, line], none, [unlines [line], unlines [line, line]], []⟩ (.finish 1) =
      some ⟨[line, line], some (byteLen (unlines [line, line])), [unlines [line]],
        [⟨(consumeContent serde (unlines [line, line]) 0).1, [(0, r), (byteLen (line ++ ['\n']), r)]⟩]⟩ := by
    simp [step, finishCall, unlines_ne_nil, consumeContent_cursor, startByte, newReports_two hline hr]
  -- the earlier reader starts again from byte 0
  have hreset : startByte (unlines [line]) (byteLen (unlines [line, line])) = 0 := by
    simp only [startByte]
    rw [if_pos (by omega)]
  have hearlier : ∀ calls, ∃ c result, step serde
      ⟨[line, line], some (byteLen (unlines [line, line])), [unlines [line]], calls⟩ (.finish 0) =
        some ⟨[line, line], c, [], calls ++ [⟨result, [(0, r)]⟩]⟩ := by
    intro calls
    simp [step, finishCall, unlines_ne_nil, hreset, newReports_one hline hr]
  have hfinal : ∀ c calls, ∃ c' call, run (step serde) ⟨[line, line], c, [], calls⟩ [.read, .finish 0] =
      some ⟨[line, line], c', [], calls ++ [call]⟩ := by
    intro c calls
    simp [run, step, finishCall, SessionState.content, unlines_ne_nil]
  obtain ⟨c, result, hearlier⟩ := hearlier
    [⟨(consumeContent serde (unlines [line, line]) 0).1, [(0, r), (byteLen (line ++ ['\n']), r)]⟩]
  obtain ⟨c', call, hfinal⟩ := hfinal c
    ([⟨(consumeContent serde (unlines [line, line]) 0).1, [(0, r), (byteLen (line ++ ['\n']), r)]⟩] ++
      [⟨result, [(0, r)]⟩])
  have hrun : run (step serde) {} [.append line, .read, .append line, .read, .finish 1, .finish 0] =
      some ⟨[line, line], c, [],
        [⟨(consumeContent serde (unlines [line, line]) 0).1, [(0, r), (byteLen (line ++ ['\n']), r)]⟩] ++
          [⟨result, [(0, r)]⟩]⟩ := by
    exact run_append.mpr ⟨_, two_reads hline, run_cons.mpr ⟨_, hlater, run_cons.mpr ⟨_, hearlier, rfl⟩⟩⟩
  have hmeets : Meets (step serde) (fun _ _ => True) {}
      [.append line, .read, .append line, .read, .finish 1, .finish 0] := by
    simp [Meets]
  have hcount := (h _ [] _ _ hmeets hrun rfl hfinal).1 (0, r) (by
    rw [SessionState.content, newReports_two hline hr]
    exact List.mem_cons_self)
  have htwice : 2 ≤ ((⟨[line, line], c', [],
      [⟨(consumeContent serde (unlines [line, line]) 0).1, [(0, r), (byteLen (line ++ ['\n']), r)]⟩] ++
        [⟨result, [(0, r)]⟩] ++ [call]⟩ : SessionState).counted).count (0, r) := by
    simp [SessionState.counted, List.count_cons]
    omega
  omega

end

theorem outdated_snapshot_recounts_sample : ¬ CountedOnce (Sample.serde "compress-toon") fun _ _ => True :=
  outdated_snapshot_recounts _ Sample.line (Sample.report "compress-toon")
    Sample.newline_not_mem_toon (Sample.lineReport_lineText _)

end AgentProxy.Report
