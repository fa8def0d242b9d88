import AgentProxy.Report.Concurrent

namespace AgentProxy.Report.Sequential

open Text Transition

inductive Event where
  | append (chunk : List Char)
  | call

def Event.chunk : Event → List Char
  | append chunk => chunk
  | call => []

def appended (events : List Event) : List Char := events.flatMap Event.chunk

/-- A call of `consume_report`: the file as it read it, what it returned, the lines it counted and the items
of its breakdown. -/
structure Call where
  content : List Char
  result : Option TokenlessAccumulator
  counted : List (ℕ × ProxyReport)
  breakdown : List Json

structure Session where
  content : List Char := []
  cursors : String → Option ℕ
  calls : List Call := []

namespace Session

def counted (s : Session) : List (ℕ × ProxyReport) := s.calls.flatMap (·.counted)

def cursor (s : Session) (sessionId : String) : ℕ := (s.cursors (safeSid sessionId)).getD 0

end Session

section

variable (serde : Serde) (sessionId : String)

def reportFile (content : List Char) (sid : String) : Option String :=
  if sid = safeSid sessionId then some (String.ofList content) else none

def callOn (content : List Char) (cursors : String → Option ℕ) : Call × (String → Option ℕ) :=
  let returned := consumeReport serde (reportFile sessionId content) cursors sessionId
  let start := startByte content ((cursors (safeSid sessionId)).getD 0)
  (⟨content, returned.1, newReports serde content start, (scan serde content start).breakdownItems⟩, returned.2)

def step (s : Session) : Event → Option Session
  | .append chunk => some { s with content := s.content ++ chunk }
  | .call =>
    let made := callOn serde sessionId s.content s.cursors
    some { s with cursors := made.2, calls := s.calls ++ [made.1] }

end

def render (serde : Serde) (items : List Json) : String :=
  if items.isEmpty then "" else serde.valueToString (.arr items)

structure Call.Sound (serde : Serde) (c : Call) : Prop where
  savings : Accumulates {} (c.result.getD {}) c.counted
  items : c.breakdown = c.counted.map fun r => breakdownItem r.2
  rendered : (c.result.getD {}).breakdownJson = render serde c.breakdown
  projectPath : ∀ acc, c.result = some acc →
    acc.projectPath = (newReports serde c.content 0).findSome? fun r => r.2.projectPath
  userName : ∀ acc, c.result = some acc → acc.userName = (newReports serde c.content 0).findSome? fun r => r.2.userName

section

variable {serde : Serde} {sessionId : String}

theorem scanLine_collects (start : ℕ) (s : Scan) (line : ℕ × List Char) :
    (scanLine serde start s line).breakdownItems =
        s.breakdownItems ++ (newReport serde start line).toList.map (fun r => breakdownItem r.2) ∧
      (scanLine serde start s line).acc.projectPath =
        s.acc.projectPath.or ((newReport serde 0 line).bind fun r => r.2.projectPath) ∧
      (scanLine serde start s line).acc.userName =
        s.acc.userName.or ((newReport serde 0 line).bind fun r => r.2.userName) := by
  rcases hr : lineReport serde line.2 with _ | r
  · simp [scanLine, newReport, hr]
  · by_cases hstart : start ≤ line.1
    · simp only [scanLine, newReport, hr, hstart, if_true, Nat.zero_le]
      unfold addSavings
      split_ifs <;> simp
    · simp [scanLine, newReport, hr, hstart]

theorem findSome?_filterMap_cons {α β γ : Type} (f : α → Option β) (g : β → Option γ) (a : α) (l : List α) :
    ((a :: l).filterMap f).findSome? g = ((f a).bind g).or ((l.filterMap f).findSome? g) := by
  rcases h : f a with _ | b
  · simp [h]
  · rcases hb : g b with _ | c <;> simp [h, hb]

theorem foldl_collects (start : ℕ) (lines : List (ℕ × List Char)) (s : Scan) :
    (lines.foldl (scanLine serde start) s).breakdownItems = s.breakdownItems ++
        (lines.filterMap (newReport serde start)).map (fun r => breakdownItem r.2) ∧
      (lines.foldl (scanLine serde start) s).acc.projectPath =
        s.acc.projectPath.or ((lines.filterMap (newReport serde 0)).findSome? fun r => r.2.projectPath) ∧
      (lines.foldl (scanLine serde start) s).acc.userName =
        s.acc.userName.or ((lines.filterMap (newReport serde 0)).findSome? fun r => r.2.userName) := by
  induction lines generalizing s with
  | nil => simp
  | cons line lines ih =>
    obtain ⟨hitems, hproject, huser⟩ := scanLine_collects start s line
    obtain ⟨hitems', hproject', huser'⟩ := ih (scanLine serde start s line)
    rw [List.foldl_cons, hitems', hproject', huser', hitems, hproject, huser, findSome?_filterMap_cons,
      findSome?_filterMap_cons, Option.or_assoc, Option.or_assoc]
    refine ⟨?_, rfl, rfl⟩
    rcases h : newReport serde start line with _ | r <;> simp [h]

theorem scan_collects (content : List Char) (start : ℕ) :
    (scan serde content start).breakdownItems =
        (newReports serde content start).map (fun r => breakdownItem r.2) ∧
      (scan serde content start).acc.projectPath =
        ((newReports serde content 0).findSome? fun r => r.2.projectPath) ∧
      (scan serde content start).acc.userName = (newReports serde content 0).findSome? fun r => r.2.userName :=
  foldl_collects start (lineOffsets content) {}

theorem hasNewLines_iff (content : List Char) (start : ℕ) :
    (scan serde content start).hasNewLines = true ↔ newReports serde content start ≠ [] := by
  have hnew := (foldl_scanLine serde start (lineOffsets content) {}).2
  rw [scan, hnew, newReports]
  simp

theorem consumeContent_result (content : List Char) (cursor : ℕ) :
    ((consumeContent serde content cursor).1.getD {}).breakdownJson =
        render serde (scan serde content (startByte content cursor)).breakdownItems ∧
      ∀ acc, (consumeContent serde content cursor).1 = some acc →
        acc.projectPath = (scan serde content (startByte content cursor)).acc.projectPath ∧
          acc.userName = (scan serde content (startByte content cursor)).acc.userName := by
  simp only [consumeContent]
  split
  · rename_i hnone
    have hempty : newReports serde content (startByte content cursor) = [] := by
      by_contra hne
      rw [(hasNewLines_iff content _).mpr hne] at hnone
      exact Bool.noConfusion hnone.1
    rw [(scan_collects content _).1, hempty]
    refine ⟨rfl, fun acc hacc => ?_⟩
    cases hacc
  · refine ⟨rfl, fun acc hacc => ?_⟩
    cases hacc
    exact ⟨rfl, rfl⟩

theorem consumeContent_nil : consumeContent serde [] 0 = (none, 0) := rfl

theorem consumeReport_eq {content : List Char} {cursors : String → Option ℕ} (hsid : safeSid sessionId ≠ "")
    (hcursor : (cursors (safeSid sessionId)).getD 0 ≤ byteLen content) :
    (consumeReport serde (reportFile sessionId content) cursors sessionId).1 =
        (consumeContent serde content ((cursors (safeSid sessionId)).getD 0)).1 ∧
      ((consumeReport serde (reportFile sessionId content) cursors sessionId).2 (safeSid sessionId)).getD 0 =
        (consumeContent serde content ((cursors (safeSid sessionId)).getD 0)).2 := by
  have hne : (safeSid sessionId).isEmpty = false := by simpa using hsid
  have hfile : reportFile sessionId content (safeSid sessionId) = some (String.ofList content) := if_pos rfl
  unfold consumeReport
  simp only [hne, hfile, Bool.false_eq_true, if_false]
  by_cases hempty : content = []
  · subst hempty
    have hzero : (cursors (safeSid sessionId)).getD 0 = 0 := Nat.le_zero.mp hcursor
    rw [hzero, consumeContent_nil]
    exact ⟨rfl, hzero⟩
  · have hcontent : (String.ofList content).isEmpty = false := by simpa using hempty
    simp only [hcontent, Bool.false_eq_true, if_false, String.toList_ofList, Function.update_self,
      Option.getD_some, and_self]

theorem callOn_sound {content : List Char} {cursors : String → Option ℕ} (hsid : safeSid sessionId ≠ "")
    (hcursor : (cursors (safeSid sessionId)).getD 0 ≤ byteLen content) :
    (callOn serde sessionId content cursors).1.Sound serde := by
  obtain ⟨hresult, -⟩ := @consumeReport_eq serde sessionId content cursors hsid hcursor
  have hsavings := consumeContent_accumulates serde content ((cursors (safeSid sessionId)).getD 0)
  obtain ⟨hrendered, hmeta⟩ := @consumeContent_result serde content ((cursors (safeSid sessionId)).getD 0)
  obtain ⟨hitems, hproject, huser⟩ :=
    @scan_collects serde content (startByte content ((cursors (safeSid sessionId)).getD 0))
  rw [← hresult] at hsavings hrendered hmeta
  refine ⟨hsavings, hitems, hrendered, fun acc hacc => ?_, fun acc hacc => ?_⟩
  · exact (hmeta acc hacc).1.trans hproject
  · exact (hmeta acc hacc).2.trans huser

theorem callOn_cursor {content : List Char} {cursors : String → Option ℕ} (hsid : safeSid sessionId ≠ "")
    (hcursor : (cursors (safeSid sessionId)).getD 0 ≤ byteLen content) :
    ((callOn serde sessionId content cursors).2 (safeSid sessionId)).getD 0 =
      if newReports serde content ((cursors (safeSid sessionId)).getD 0) = [] then
        (cursors (safeSid sessionId)).getD 0
      else byteLen content := by
  obtain ⟨-, hnext⟩ := @consumeReport_eq serde sessionId content cursors hsid hcursor
  rw [consumeContent_cursor, startByte_of_le hcursor] at hnext
  exact hnext

theorem step_append {s t : Session} {chunk : List Char} (h : step serde sessionId s (.append chunk) = some t) :
    t.content = s.content ++ chunk ∧ t.cursor sessionId = s.cursor sessionId ∧ t.calls = s.calls := by
  cases h
  exact ⟨rfl, rfl, rfl⟩

theorem step_call {s t : Session} (hsid : safeSid sessionId ≠ "") (hcursor : s.cursor sessionId ≤ byteLen s.content)
    (h : step serde sessionId s .call = some t) :
    t.content = s.content ∧
      t.cursor sessionId = (if newReports serde s.content (s.cursor sessionId) = [] then s.cursor sessionId
        else byteLen s.content) ∧
      ∃ c : Call, t.calls = s.calls ++ [c] ∧ c.Sound serde ∧
        c.counted = newReports serde s.content (s.cursor sessionId) := by
  cases h
  refine ⟨rfl, callOn_cursor hsid hcursor, _, rfl, callOn_sound hsid hcursor, ?_⟩
  exact congrArg (newReports serde s.content) (startByte_of_le hcursor)

theorem counted_concat {s t : Session} {c : Call} (h : t.calls = s.calls ++ [c]) : t.counted = s.counted ++ c.counted := by
  simp [Session.counted, h]

structure Inv (serde : Serde) (sessionId : String) (s : Session) : Prop where
  bound : s.cursor sessionId ≤ byteLen s.content
  sound : ∀ c ∈ s.calls, c.Sound serde

theorem init_inv {cursors : String → Option ℕ} (h : cursors (safeSid sessionId) = none) :
    Inv serde sessionId { cursors } := by
  refine ⟨?_, fun c hc => absurd hc List.not_mem_nil⟩
  simp [Session.cursor, h]

theorem step_inv {s t : Session} {e : Event} (hsid : safeSid sessionId ≠ "") (hs : Inv serde sessionId s)
    (h : step serde sessionId s e = some t) : Inv serde sessionId t := by
  have hbound := hs.bound
  cases e with
  | append chunk =>
    obtain ⟨hcontent, hcursor, hcalls⟩ := step_append h
    refine ⟨?_, hcalls ▸ hs.sound⟩
    rw [hcontent, hcursor, byteLen_append]
    omega
  | call =>
    obtain ⟨hcontent, hcursor, c, hcalls, hsound, -⟩ := step_call hsid hbound h
    constructor
    · rw [hcontent, hcursor]
      split
      · exact hbound
      · exact Nat.le_refl _
    · rw [hcalls, List.forall_mem_append]
      exact ⟨hs.sound, by simpa using hsound⟩

theorem run_content {s t : Session} {events : List Event} (h : run (step serde sessionId) s events = some t) :
    t.content = s.content ++ appended events := by
  induction events generalizing s with
  | nil =>
    cases h
    exact (List.append_nil _).symm
  | cons e events ih =>
    obtain ⟨u, hu, ht⟩ := run_cons.mp h
    rw [ih ht]
    cases e with
    | append chunk =>
      cases hu
      exact List.append_assoc _ _ _
    | call =>
      cases hu
      rfl

theorem run_exists (s : Session) (events : List Event) : ∃ t, run (step serde sessionId) s events = some t := by
  apply run_total
  intro s e
  cases e with
  | append chunk => exact ⟨_, rfl⟩
  | call => exact ⟨_, rfl⟩

end

end AgentProxy.Report.Sequential
