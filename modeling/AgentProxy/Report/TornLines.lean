import AgentProxy.Report.Sequential

namespace AgentProxy.Report.Sequential

open Text Transition

/-- `serde_json::from_str` takes the whole text as one value: nothing but white space may follow it. -/
def SelfDelimiting (serde : Serde) : Prop :=
  ∀ (s t : List Char) (r r' : ProxyReport), serde.proxyReport (String.ofList s) = .ok r →
    serde.proxyReport (String.ofList (s ++ t)) = .ok r' → ∀ c ∈ t, isWhitespace c = true

def unfinishedStart (content : List Char) : ℕ := byteLen content - byteLen (unfinished content)

/-- The file ends inside a line that is no report yet but is one in the final file, and a report of the file
starts at the cursor or later. -/
structure Torn (serde : Serde) (sessionId : String) (final : List Char) (s : Session) : Prop where
  unread : newReports serde s.content (s.cursor sessionId) ≠ []
  unfinished : unfinished s.content ≠ []
  pending : lineReport serde (Text.unfinished s.content) = none
  completed : ∃ r, (unfinishedStart s.content, r) ∈ newReports serde final 0

def Intact (serde : Serde) (sessionId : String) (final : List Char) (s : Session) : Event → Prop
  | .append _ => True
  | .call => ¬ Torn serde sessionId final s

def CountedOnce (serde : Serde) (final : List Char) (s : Session) : Prop :=
  ∀ x ∈ newReports serde final 0, (s.counted.filter fun y => y.1 = x.1) = [x]

section

variable {serde : Serde} {sessionId : String}

theorem lineReport_append_whitespace (line : List Char) {t : List Char} (ht : ∀ c ∈ t, isWhitespace c = true) :
    lineReport serde (line ++ t) = lineReport serde line := by
  rw [lineReport, lineReport, trim_append_whitespace line ht]

theorem lineReport_stripEol (line : List Char) : lineReport serde (stripEol line) = lineReport serde line := by
  obtain ⟨w, hw, hblank⟩ := stripEol_split line
  rw [← lineReport_append_whitespace (stripEol line) hblank, ← hw]

theorem lineReport_eq_some_iff {line : List Char} {r : ProxyReport} : lineReport serde line = some r ↔
    trim line ≠ [] ∧ serde.proxyReport (String.ofList (trim line)) = .ok r := by
  unfold lineReport
  split
  · rename_i h
    simp [List.isEmpty_iff.mp h]
  · rename_i h
    rw [List.isEmpty_iff] at h
    rcases serde.proxyReport (String.ofList (trim line)) with e | r'
    · simp [Except.toOption]
    · simp [Except.toOption, h]

theorem whitespace_of_extended (hserde : SelfDelimiting serde) {line t : List Char} {r r' : ProxyReport}
    (h : lineReport serde line = some r) (h' : lineReport serde (line ++ t) = some r') :
    ∀ c ∈ t, isWhitespace c = true := by
  obtain ⟨hne, hr⟩ := lineReport_eq_some_iff.mp h
  obtain ⟨-, hr'⟩ := lineReport_eq_some_iff.mp h'
  obtain ⟨more, hmore, hblank⟩ := trim_append hne t
  rw [hmore] at hr'
  exact hblank (hserde _ _ r r' hr hr')

theorem same_of_extended (hserde : SelfDelimiting serde) {line t : List Char} {r r' : ProxyReport}
    (h : lineReport serde line = some r) (h' : lineReport serde (line ++ t) = some r') : r = r' := by
  rw [lineReport_append_whitespace line (whitespace_of_extended hserde h h'), h] at h'
  exact Option.some.inj h'

theorem mem_reportsFrom_cons {n : ℕ} {piece : List Char} {more : List (List Char)} {x : ℕ × ProxyReport} :
    x ∈ reportsFrom serde n (piece :: more) ↔
      (x.1 = n ∧ lineReport serde piece = some x.2) ∨ x ∈ reportsFrom serde (n + byteLen piece) more := by
  have hnew : newReport serde 0 (n, stripEol piece) = (lineReport serde piece).map fun r => (n, r) := by
    rw [newReport, if_pos (Nat.zero_le _), lineReport_stripEol]
  have hfirst : newReport serde 0 (n, stripEol piece) = some x ↔ x.1 = n ∧ lineReport serde piece = some x.2 := by
    obtain ⟨o, r⟩ := x
    rw [hnew]
    rcases lineReport serde piece with _ | r'
    · simp
    · simp [eq_comm]
  rw [← hfirst, reportsFrom, linesFrom, List.mem_filterMap, List.exists_mem_cons_iff, reportsFrom, List.mem_filterMap]

theorem content_cases (content : List Char) : ∃ ls, (∀ l ∈ ls, '\n' ∉ l) ∧ '\n' ∉ unfinished content ∧
    content = unlines ls ++ unfinished content ∧ unfinishedStart content = byteLen (unlines ls) := by
  obtain ⟨ls, p, rfl, hls, hp⟩ := exists_unlines_append content
  rw [unfinishedStart, unfinished_unlines_append ls hp, byteLen_append]
  exact ⟨ls, hls, hp, rfl, Nat.add_sub_cancel _ _⟩

theorem mem_newReports_iff {content : List Char} {ls : List (List Char)} {p : List Char} (hls : ∀ l ∈ ls, '\n' ∉ l)
    (hp : '\n' ∉ p) (hcontent : content = unlines ls ++ p) {x : ℕ × ProxyReport} :
    x ∈ newReports serde content 0 ↔ x ∈ newReports serde (unlines ls) 0 ∨
      p ≠ [] ∧ x.1 = byteLen (unlines ls) ∧ lineReport serde p = some x.2 := by
  rw [hcontent, newReports_append hls, List.mem_append, splitInclusive_of_not_mem hp]
  split
  · rename_i hnil
    simp [hnil, reportsFrom, linesFrom]
  · rename_i hne
    rw [mem_reportsFrom_cons]
    simp [hne, reportsFrom, linesFrom]

theorem mem_newReports_grown {content rest : List Char} {ls : List (List Char)} {p : List Char}
    (hls : ∀ l ∈ ls, '\n' ∉ l) (hp : '\n' ∉ p) (hcontent : content = unlines ls ++ p) {x : ℕ × ProxyReport}
    (hx : x ∈ newReports serde (content ++ rest) 0) (hlt : x.1 < byteLen content) :
    x ∈ newReports serde (unlines ls) 0 ∨
      p ≠ [] ∧ x.1 = byteLen (unlines ls) ∧ ∃ t, lineReport serde (p ++ t) = some x.2 := by
  rw [hcontent, List.append_assoc, newReports_append hls, List.mem_append] at hx
  rw [hcontent, byteLen_append] at hlt
  obtain hx | hx := hx
  · exact .inl hx
  · by_cases hne : p = []
    · have hge := reportsFrom_ge hx
      rw [hne] at hlt
      exact absurd hlt (Nat.not_lt.mpr hge)
    · obtain ⟨t, more, hsplit⟩ := splitInclusive_grow hp hne rest
      rw [hsplit, mem_reportsFrom_cons] at hx
      obtain ⟨hstart, hreport⟩ | hx := hx
      · exact .inr ⟨hne, hstart, t, hreport⟩
      · have hge := reportsFrom_ge hx
        rw [byteLen_append] at hge
        omega

theorem mem_newReports_of_complete {ls : List (List Char)} (hls : ∀ l ∈ ls, '\n' ∉ l) {x : ℕ × ProxyReport}
    (hx : x ∈ newReports serde (unlines ls) 0) (s : List Char) : x ∈ newReports serde (unlines ls ++ s) 0 := by
  rw [newReports_append hls]
  exact List.mem_append_left _ hx

theorem filter_offset_iff {rs : List (ℕ × ProxyReport)} (h : rs.Pairwise fun a b => a.1 < b.1) {x : ℕ × ProxyReport} :
    (rs.filter fun y => y.1 = x.1) = [x] ↔ x ∈ rs := by
  constructor
  · intro hfilter
    have hx : x ∈ rs.filter fun y => y.1 = x.1 := hfilter ▸ List.mem_singleton_self x
    exact (List.mem_filter.mp hx).1
  · intro hx
    induction rs with
    | nil => cases hx
    | cons y rs ih =>
      rw [List.pairwise_cons] at h
      obtain rfl | hx := List.mem_cons.mp hx
      · have hnone : (rs.filter fun z => z.1 = x.1) = [] := by
          rw [List.filter_eq_nil_iff]
          intro z hz
          have hlt := h.1 z hz
          simp only [decide_eq_true_eq]
          omega
        rw [List.filter_cons, if_pos (decide_eq_true rfl), hnone]
      · have hlt := h.1 x hx
        rw [List.filter_cons, if_neg (by simp only [decide_eq_true_eq]; omega)]
        exact ih h.2 hx

theorem eq_of_offset {content : List Char} {x y : ℕ × ProxyReport} (hx : x ∈ newReports serde content 0)
    (hy : y ∈ newReports serde content 0) (h : x.1 = y.1) : x = y := by
  have hpair := (newReports_lt serde content).2
  have hfilter := (filter_offset_iff hpair).mpr hx
  rw [h, (filter_offset_iff hpair).mpr hy] at hfilter
  exact (List.singleton_inj.mp hfilter).symm

theorem report_kept (hserde : SelfDelimiting serde) {content grown rest : List Char} {x y : ℕ × ProxyReport}
    (hx : x ∈ newReports serde content 0) (hy : y ∈ newReports serde (content ++ grown ++ rest) 0)
    (hoffset : x.1 = y.1) : x = y ∧ x ∈ newReports serde (content ++ grown) 0 := by
  obtain ⟨ls, hls, hp, hcontent, -⟩ := content_cases content
  generalize unfinished content = p at hp hcontent
  have hlt : y.1 < byteLen content := hoffset ▸ (newReports_lt serde content).1 x hx
  obtain hx | ⟨hne, hstart, hreport⟩ := (mem_newReports_iff hls hp hcontent).mp hx
  · have hlater := mem_newReports_of_complete hls hx
    rw [hcontent, List.append_assoc, List.append_assoc] at hy
    rw [hcontent, List.append_assoc]
    exact ⟨eq_of_offset (hlater _) hy hoffset, hlater _⟩
  · have hgrown := hy
    rw [List.append_assoc] at hgrown
    obtain hcomplete | ⟨-, -, t, ht⟩ := mem_newReports_grown hls hp hcontent hgrown hlt
    · have hbefore := (newReports_lt serde (unlines ls)).1 y hcomplete
      omega
    · have hsame : x = y := Prod.ext hoffset (same_of_extended hserde hreport ht)
      refine ⟨hsame, ?_⟩
      obtain ⟨ls', hls', hp', hcontent', -⟩ := content_cases (content ++ grown)
      generalize unfinished (content ++ grown) = p' at hp' hcontent'
      rw [hsame, mem_newReports_iff hls' hp' hcontent']
      have hlt' : y.1 < byteLen (content ++ grown) := by
        rw [byteLen_append]
        omega
      obtain hcomplete | ⟨hne', hstart', t', ht'⟩ := mem_newReports_grown hls' hp' hcontent' hy hlt'
      · exact .inl hcomplete
      · -- the unfinished line of the grown file starts where that of the file did
        have hlines : unlines ls ++ (p ++ grown) = unlines ls' ++ p' := by
          rw [← List.append_assoc, ← hcontent, hcontent']
        have hequal := eq_of_byteLen_eq hlines (by omega)
        rw [hequal, List.append_cancel_left_eq] at hlines
        rw [← hlines, List.append_assoc] at ht'
        have hblank := whitespace_of_extended hserde hreport ht'
        rw [List.forall_mem_append] at hblank
        refine .inr ⟨hne', hstart', ?_⟩
        rw [← hlines, lineReport_append_whitespace p hblank.1, hreport, hsame]

theorem mem_newReports_from {content : List Char} {start : ℕ} {x : ℕ × ProxyReport} :
    x ∈ newReports serde content start ↔ x ∈ newReports serde content 0 ∧ start ≤ x.1 := by
  rw [newReports_eq_filter, List.mem_filter, decide_eq_true_eq]

/-- What the calls have counted lies before the cursor, in the order of the file, and was read from the file as
it stood at some time. -/
structure Ledger (serde : Serde) (sessionId : String) (s : Session) : Prop extends Inv serde sessionId s where
  before : ∀ x ∈ s.counted, x.1 < s.cursor sessionId
  ordered : s.counted.Pairwise fun a b => a.1 < b.1
  read : ∀ x ∈ s.counted, ∃ content grown, s.content = content ++ grown ∧ x ∈ newReports serde content 0

theorem init_ledger {cursors : String → Option ℕ} (h : cursors (safeSid sessionId) = none) :
    Ledger serde sessionId { cursors } :=
  ⟨init_inv h, fun _ hx => absurd hx List.not_mem_nil, List.Pairwise.nil, fun _ hx => absurd hx List.not_mem_nil⟩

theorem call_ledger {s t : Session} (hsid : safeSid sessionId ≠ "") (hs : Ledger serde sessionId s)
    (h : step serde sessionId s .call = some t) : Ledger serde sessionId t := by
  obtain ⟨hcontent, hcursor, c, hcalls, -, hcounted⟩ := step_call hsid hs.bound h
  have htotal := counted_concat hcalls
  rw [hcounted] at htotal
  have hnew : ∀ x ∈ newReports serde s.content (s.cursor sessionId),
      s.cursor sessionId ≤ x.1 ∧ x ∈ newReports serde s.content 0 := by
    intro x hx
    obtain ⟨hmem, hge⟩ := mem_newReports_from.mp hx
    exact ⟨hge, hmem⟩
  refine ⟨step_inv hsid hs.toInv h, ?_, ?_, ?_⟩
  · rw [htotal, List.forall_mem_append, hcursor]
    split
    · rename_i hnone
      refine ⟨hs.before, ?_⟩
      rw [hnone]
      exact fun x hx => absurd hx List.not_mem_nil
    · refine ⟨fun x hx => ?_, fun x hx => (newReports_lt serde s.content).1 x (hnew x hx).2⟩
      exact (hs.before x hx).trans_le hs.bound
  · rw [htotal, List.pairwise_append]
    refine ⟨hs.ordered, ?_, fun x hx y hy => (hs.before x hx).trans_le (hnew y hy).1⟩
    rw [newReports_eq_filter]
    exact (newReports_lt serde s.content).2.filter _
  · rw [htotal, List.forall_mem_append, hcontent]
    refine ⟨hs.read, fun x hx => ⟨s.content, [], (List.append_nil _).symm, (hnew x hx).2⟩⟩

theorem step_ledger {s t : Session} {e : Event} (hsid : safeSid sessionId ≠ "") (hs : Ledger serde sessionId s)
    (h : step serde sessionId s e = some t) : Ledger serde sessionId t := by
  cases e with
  | append chunk =>
    obtain ⟨hcontent, hcursor, hcalls⟩ := step_append h
    have hcounted : t.counted = s.counted := by rw [Session.counted, Session.counted, hcalls]
    refine ⟨step_inv hsid hs.toInv h, ?_, ?_, ?_⟩
    · rw [hcounted, hcursor]
      exact hs.before
    · rw [hcounted]
      exact hs.ordered
    · intro x hx
      rw [hcounted] at hx
      obtain ⟨content, grown, hgrown, hmem⟩ := hs.read x hx
      exact ⟨content, grown ++ chunk, by rw [hcontent, hgrown, List.append_assoc], hmem⟩
  | call => exact call_ledger hsid hs h

theorem run_ledger {s t : Session} {events : List Event} (hsid : safeSid sessionId ≠ "")
    (hs : Ledger serde sessionId s) (h : run (step serde sessionId) s events = some t) : Ledger serde sessionId t :=
  run_invariant (Ledger serde sessionId) (fun _ _ _ hs _ => step_ledger hsid hs) hs
    (meets_of_forall (fun _ _ _ => trivial) _) h

def Caught (serde : Serde) (sessionId : String) (final : List Char) (s : Session) : Prop :=
  ∀ x ∈ newReports serde final 0, x.1 < s.cursor sessionId → x ∈ s.counted

theorem mem_newReports_of_not_torn (hserde : SelfDelimiting serde) {final rest : List Char} {s : Session}
    (hfinal : final = s.content ++ rest) (htorn : ¬ Torn serde sessionId final s)
    (hunread : newReports serde s.content (s.cursor sessionId) ≠ []) {x : ℕ × ProxyReport}
    (hx : x ∈ newReports serde final 0) (hlt : x.1 < byteLen s.content) : x ∈ newReports serde s.content 0 := by
  obtain ⟨ls, hls, hp, hcontent, hstart⟩ := content_cases s.content
  rw [mem_newReports_iff hls hp hcontent]
  have hgrown := hx
  rw [hfinal] at hgrown
  obtain hcomplete | ⟨hne, hoffset, t, ht⟩ := mem_newReports_grown hls hp hcontent hgrown hlt
  · exact .inl hcomplete
  · rcases hpending : lineReport serde (unfinished s.content) with _ | r
    · rw [← hstart] at hoffset
      exact absurd ⟨hunread, hne, hpending, x.2, hoffset ▸ hx⟩ htorn
    · exact .inr ⟨hne, hoffset, congrArg some (same_of_extended hserde hpending ht)⟩

theorem call_caught (hserde : SelfDelimiting serde) {final rest : List Char} {s t : Session}
    (hsid : safeSid sessionId ≠ "") (hs : Ledger serde sessionId s) (hcaught : Caught serde sessionId final s)
    (hfinal : final = s.content ++ rest) (htorn : ¬ Torn serde sessionId final s)
    (h : step serde sessionId s .call = some t) : Caught serde sessionId final t := by
  obtain ⟨-, hcursor, c, hcalls, -, hcounted⟩ := step_call hsid hs.bound h
  intro x hx hlt
  rw [counted_concat hcalls, hcounted, List.mem_append]
  rw [hcursor] at hlt
  by_cases hbefore : x.1 < s.cursor sessionId
  · exact .inl (hcaught x hx hbefore)
  · split at hlt
    · exact absurd hlt hbefore
    · rename_i hunread
      have hmem := mem_newReports_of_not_torn hserde hfinal htorn hunread hx hlt
      exact .inr (mem_newReports_from.mpr ⟨hmem, Nat.le_of_not_lt hbefore⟩)

theorem run_caught (hserde : SelfDelimiting serde) (hsid : safeSid sessionId ≠ "") {final : List Char} {s t : Session}
    {events : List Event} (hs : Ledger serde sessionId s) (hcaught : Caught serde sessionId final s)
    (hfinal : final = s.content ++ appended events)
    (hmeets : Meets (step serde sessionId) (Intact serde sessionId final) s events)
    (h : run (step serde sessionId) s events = some t) : Caught serde sessionId final t := by
  induction events generalizing s with
  | nil =>
    cases h
    exact hcaught
  | cons e events ih =>
    obtain ⟨u, hu, ht⟩ := run_cons.mp h
    rw [meets_cons hu] at hmeets
    have hone : run (step serde sessionId) s [e] = some u := run_cons.mpr ⟨u, hu, rfl⟩
    have hcontent := run_content hone
    have hrest : final = u.content ++ appended events := by
      rw [hfinal, hcontent]
      simp [appended]
    apply ih (step_ledger hsid hs hu) ?_ hrest hmeets.2 ht
    cases e with
    | append chunk =>
      obtain ⟨-, hcursor, hcalls⟩ := step_append hu
      intro x hx hlt
      rw [hcursor] at hlt
      rw [Session.counted, hcalls]
      exact hcaught x hx hlt
    | call => exact call_caught hserde hsid hs hcaught hfinal hmeets.1 hu

structure Lost (serde : Serde) (sessionId : String) (x : ℕ × ProxyReport) (s : Session) : Prop
    extends Inv serde sessionId s where
  passed : x.1 < s.cursor sessionId
  uncounted : x ∉ s.counted

theorem step_lost (hsid : safeSid sessionId ≠ "") {x : ℕ × ProxyReport} {s t : Session} {e : Event}
    (hs : Lost serde sessionId x s) (h : step serde sessionId s e = some t) : Lost serde sessionId x t := by
  have hbound := hs.bound
  have hpassed := hs.passed
  refine ⟨step_inv hsid hs.toInv h, ?_, ?_⟩
  · cases e with
    | append chunk =>
      obtain ⟨-, hcursor, -⟩ := step_append h
      rwa [hcursor]
    | call =>
      obtain ⟨-, hcursor, -⟩ := step_call hsid hbound h
      rw [hcursor]
      split
      · exact hpassed
      · omega
  · cases e with
    | append chunk =>
      obtain ⟨-, -, hcalls⟩ := step_append h
      rw [Session.counted, hcalls]
      exact hs.uncounted
    | call =>
      obtain ⟨-, -, c, hcalls, -, hcounted⟩ := step_call hsid hbound h
      rw [counted_concat hcalls, hcounted, List.mem_append]
      rintro (hmem | hmem)
      · exact hs.uncounted hmem
      · have hge := (mem_newReports_from.mp hmem).2
        omega

theorem run_lost (hsid : safeSid sessionId ≠ "") {x : ℕ × ProxyReport} {s t : Session} {events : List Event}
    (hs : Lost serde sessionId x s) (h : run (step serde sessionId) s events = some t) : Lost serde sessionId x t :=
  run_invariant (Lost serde sessionId x) (fun _ _ _ hs _ => step_lost hsid hs) hs
    (meets_of_forall (fun _ _ _ => trivial) _) h

theorem torn_lost (hserde : SelfDelimiting serde) (hsid : safeSid sessionId ≠ "") {final rest : List Char}
    {s t : Session} (hs : Ledger serde sessionId s) (hfinal : final = s.content ++ rest)
    (htorn : Torn serde sessionId final s) (h : step serde sessionId s .call = some t) :
    ∃ x ∈ newReports serde final 0, Lost serde sessionId x t := by
  obtain ⟨-, hcursor, c, hcalls, -, hcounted⟩ := step_call hsid hs.bound h
  obtain ⟨ls, hls, hp, hcontent, hstart⟩ := content_cases s.content
  obtain ⟨r, hr⟩ := htorn.completed
  -- the unfinished line is no report of the file as the call reads it
  have hnot : (unfinishedStart s.content, r) ∉ newReports serde s.content 0 := by
    intro hmem
    obtain hcomplete | ⟨-, -, hreport⟩ := (mem_newReports_iff hls hp hcontent).mp hmem
    · have hlt := (newReports_lt serde (unlines ls)).1 _ hcomplete
      rw [hstart] at hlt
      exact absurd hlt (Nat.lt_irrefl _)
    · rw [htorn.pending] at hreport
      cases hreport
  refine ⟨_, hr, step_inv hsid hs.toInv h, ?_, ?_⟩
  · rw [hcursor, if_neg htorn.unread]
    have hpos := byteLen_pos htorn.unfinished
    have hlen := congrArg byteLen hcontent
    rw [byteLen_append] at hlen
    simp only [hstart]
    omega
  · rw [counted_concat hcalls, hcounted, List.mem_append]
    rintro (hmem | hmem)
    · obtain ⟨content, grown, hgrown, hread⟩ := hs.read _ hmem
      have hr' : (unfinishedStart s.content, r) ∈ newReports serde (content ++ grown ++ rest) 0 := by
        rw [← hgrown, ← hfinal]
        exact hr
      have hkept := (report_kept hserde hread hr' rfl).2
      rw [← hgrown] at hkept
      exact hnot hkept
    · exact hnot (mem_newReports_from.mp hmem).1

theorem countedOnce_iff {final : List Char} {s : Session} (hs : Ledger serde sessionId s) :
    CountedOnce serde final s ↔ ∀ x ∈ newReports serde final 0, x ∈ s.counted := by
  simp only [CountedOnce, filter_offset_iff hs.ordered]

theorem final_call_counts {final : List Char} {s t : Session} (hsid : safeSid sessionId ≠ "")
    (hs : Ledger serde sessionId s) (hfinal : s.content = final) (hcaught : Caught serde sessionId final s)
    (h : step serde sessionId s .call = some t) : ∀ x ∈ newReports serde final 0, x ∈ t.counted := by
  obtain ⟨-, -, c, hcalls, -, hcounted⟩ := step_call hsid hs.bound h
  intro x hx
  rw [counted_concat hcalls, hcounted, List.mem_append]
  by_cases hbefore : x.1 < s.cursor sessionId
  · exact .inl (hcaught x hx hbefore)
  · rw [hfinal]
    exact .inr (mem_newReports_from.mpr ⟨hx, Nat.le_of_not_lt hbefore⟩)

end

theorem torn_lines_counted_iff (serde : Serde) (sessionId : String) (cursors : String → Option ℕ) (events : List Event)
    (hserde : SelfDelimiting serde) (hsid : safeSid sessionId ≠ "") (hfresh : cursors (safeSid sessionId) = none) :
    ∃ s, run (step serde sessionId) { cursors } (events ++ [.call]) = some s ∧
      (∀ c ∈ s.calls, (c.result.getD {}).totalSaved = saved c.counted) ∧
      (CountedOnce serde (appended events) s ↔
        Meets (step serde sessionId) (Intact serde sessionId (appended events)) { cursors } events) := by
  obtain ⟨s, hs⟩ := @run_exists serde sessionId { cursors } events
  obtain ⟨t, ht⟩ := @run_exists serde sessionId s [.call]
  obtain ⟨u, hcall, hnil⟩ := run_cons.mp ht
  cases hnil
  have hstart : Ledger serde sessionId { cursors } := init_ledger hfresh
  have hledger := run_ledger hsid hstart hs
  have hfinal : s.content = appended events := run_content hs
  refine ⟨t, run_append.mpr ⟨s, hs, ht⟩, fun c hc => ?_, ?_⟩
  · have hsound := (step_ledger hsid hledger hcall).sound c hc
    simpa using hsound.savings.total
  · rw [countedOnce_iff (step_ledger hsid hledger hcall)]
    constructor
    · intro hall
      rw [meets_iff_split hs]
      intro before e rest v hsplit hv
      cases e with
      | append chunk => trivial
      | call =>
        intro htorn
        have hrest : appended events = v.content ++ appended rest := by
          rw [run_content hv, hsplit]
          simp [appended, Event.chunk]
        rw [hsplit] at hs
        obtain ⟨v', hv', hs⟩ := run_append.mp hs
        cases hv.symm.trans hv'
        obtain ⟨w, hw, hs⟩ := run_cons.mp hs
        obtain ⟨x, hx, hlost⟩ := torn_lost hserde hsid (run_ledger hsid hstart hv) hrest htorn hw
        exact (run_lost hsid hlost (run_append.mpr ⟨s, hs, ht⟩)).uncounted (hall x hx)
    · intro hmeets
      have hcaught : Caught serde sessionId (appended events) { cursors } := by
        intro x _ hlt
        simp [Session.cursor, hfresh] at hlt
      exact final_call_counts hsid hledger hfinal (run_caught hserde hsid hstart hcaught rfl hmeets hs) hcall

namespace Sample

def text : List Char := (Report.Sample.lineText "compress-toon").toList

def tornEvents : List Event :=
  [.append (text ++ ['\n'] ++ text.take 20), .call, .append (text.drop 20 ++ ['\n'])]

def splitEvents : List Event := [.append (text.take 20), .call, .append (text.drop 20 ++ ['\n'])]

end Sample

theorem sample_selfDelimiting : SelfDelimiting (Report.Sample.serde "compress-toon") := by
  have hone : ∀ s r, (Report.Sample.serde "compress-toon").proxyReport s = .ok r →
      s = Report.Sample.lineText "compress-toon" := by
    intro s r h
    simp only [Report.Sample.serde] at h
    split at h
    · assumption
    · cases h
  intro s t r r' hs hst
  have hsame := (hone _ _ hst).trans (hone _ _ hs).symm
  rw [String.ofList_inj] at hsame
  have hnil : t = [] := by simpa using hsame
  rw [hnil]
  exact fun c hc => absurd hc List.not_mem_nil

theorem intact_without_news {serde : Serde} {sessionId : String} {cursors : String → Option ℕ} {final : List Char}
    (a b : List Char) (h : newReports serde ([] ++ a) ((cursors (safeSid sessionId)).getD 0) = []) :
    Meets (step serde sessionId) (Intact serde sessionId final) { cursors } [.append a, .call, .append b] := by
  refine ⟨trivial, fun t ht => ?_⟩
  cases ht
  exact ⟨fun htorn => htorn.unread h, fun _ _ => ⟨trivial, fun _ _ => trivial⟩⟩

theorem torn_lines_counted_without_news : ∃ s, run (step (Report.Sample.serde "compress-toon") "s1")
      { cursors := fun _ => none } (Sample.splitEvents ++ [.call]) = some s ∧
    CountedOnce (Report.Sample.serde "compress-toon") (appended Sample.splitEvents) s := by
  obtain ⟨s, hs, -, hiff⟩ := torn_lines_counted_iff (Report.Sample.serde "compress-toon") "s1" (fun _ => none)
    Sample.splitEvents sample_selfDelimiting (by decide) rfl
  exact ⟨s, hs, hiff.mpr (intact_without_news _ _ (by decide +kernel))⟩

theorem torn_line_lost : ∃ s, run (step (Report.Sample.serde "compress-toon") "s1")
      { cursors := fun _ => none } (Sample.tornEvents ++ [.call]) = some s ∧
    ¬ CountedOnce (Report.Sample.serde "compress-toon") (appended Sample.tornEvents) s := by
  have hcounted : (run (step (Report.Sample.serde "compress-toon") "s1") { cursors := fun _ => none }
      (Sample.tornEvents ++ [.call])).map (fun s => s.counted) =
        some [(0, Report.Sample.report "compress-toon")] := by decide +kernel
  obtain ⟨s, hs, hlist⟩ := Option.map_eq_some_iff.mp hcounted
  refine ⟨s, hs, fun h => ?_⟩
  have hsecond : (byteLen (Sample.text ++ ['\n']), Report.Sample.report "compress-toon") ∈
      newReports (Report.Sample.serde "compress-toon") (appended Sample.tornEvents) 0 := by
    have happended : appended Sample.tornEvents = unlines [Sample.text, Sample.text] := by
      have hline : Sample.text.take 20 ++ (Sample.text.drop 20 ++ ['\n']) = Sample.text ++ ['\n'] := by
        rw [← List.append_assoc, List.take_append_drop]
      simp [appended, Sample.tornEvents, Event.chunk, unlines, hline]
    have htwo := newReports_two Report.Sample.newline_not_mem_toon (Report.Sample.lineReport_lineText "compress-toon")
    rw [happended, Sample.text, htwo]
    exact List.mem_cons_of_mem _ List.mem_cons_self
  have hfilter := h _ hsecond
  have hpos : 0 < byteLen (Sample.text ++ ['\n']) := byteLen_pos (by simp)
  rw [hlist, List.filter_cons_of_neg (by simpa using hpos.ne)] at hfilter
  cases hfilter

end AgentProxy.Report.Sequential
