import AgentProxy.Report.Sequential

namespace AgentProxy.Report.Sequential

open Text Transition

def AppendsLine : Event → Prop
  | .append chunk => ∃ line, '\n' ∉ line ∧ chunk = line ++ ['\n']
  | .call => True

def tokens (reports : List (ℕ × ProxyReport)) : ℕ := (reports.map fun r => r.2.savedTokens.toNat).sum

def sumOf (f : TokenlessAccumulator → UInt64) (calls : List Call) : ℕ :=
  (calls.map fun c => (f (c.result.getD {})).toNat).sum

section

variable {serde : Serde} {sessionId : String}

/-- The file holds whole lines, and the calls have counted what lies before the cursor. -/
structure Tracked (serde : Serde) (sessionId : String) (s : Session) : Prop extends Inv serde sessionId s where
  whole : ∃ ls, (∀ l ∈ ls, '\n' ∉ l) ∧ s.content = unlines ls
  counted : s.counted = (newReports serde s.content 0).filter fun r => r.1 < s.cursor sessionId

theorem filter_before_end (content : List Char) :
    ((newReports serde content 0).filter fun r => r.1 < byteLen content) = newReports serde content 0 := by
  rw [List.filter_eq_self]
  intro r hr
  exact decide_eq_true ((newReports_lt serde content).1 r hr)

theorem append_tracked {s t : Session} {line : List Char} (hs : Tracked serde sessionId s) (hline : '\n' ∉ line)
    (ht : Inv serde sessionId t) (h : step serde sessionId s (.append (line ++ ['\n'])) = some t) :
    Tracked serde sessionId t := by
  obtain ⟨hcontent, hcursor, hcalls⟩ := step_append h
  obtain ⟨ls, hls, hlines⟩ := hs.whole
  have hnew : ∀ l ∈ [line], '\n' ∉ l := by simpa using hline
  have hunlines : t.content = unlines (ls ++ [line]) := by simp [hcontent, hlines, unlines]
  have hbound := hs.bound
  rw [hlines] at hbound
  refine ⟨ht, ⟨ls ++ [line], List.forall_mem_append.mpr ⟨hls, hnew⟩, hunlines⟩, ?_⟩
  rw [Session.counted, hcalls, hcursor, hcontent, hlines, filter_lt_append hls _ hbound, ← hlines]
  exact hs.counted

theorem call_tracked {s t : Session} (hsid : safeSid sessionId ≠ "") (hs : Tracked serde sessionId s)
    (ht : Inv serde sessionId t) (h : step serde sessionId s .call = some t) :
    Tracked serde sessionId t ∧ t.counted = newReports serde s.content 0 := by
  obtain ⟨hcontent, hcursor, c, hcalls, -, hcounted⟩ := step_call hsid hs.bound h
  have hpair := (newReports_lt serde s.content).2
  have hall := @filter_before_end serde s.content
  -- the lines before the cursor are counted already, the call counts the others
  have hsplit := filter_lt_split hpair hs.bound
  rw [hall, ← newReports_eq_filter s.content (s.cursor sessionId)] at hsplit
  have htotal : t.counted = newReports serde s.content 0 := by
    rw [counted_concat hcalls, hs.counted, hcounted, hsplit]
  refine ⟨⟨ht, hcontent ▸ hs.whole, ?_⟩, htotal⟩
  rw [htotal, hcontent, hcursor]
  split
  · rename_i hnone
    rw [hnone, List.append_nil] at hsplit
    exact hsplit.symm
  · exact hall.symm

theorem init_tracked {cursors : String → Option ℕ} (h : cursors (safeSid sessionId) = none) :
    Tracked serde sessionId { cursors } :=
  ⟨init_inv h, ⟨[], fun _ hl => absurd hl List.not_mem_nil, rfl⟩, rfl⟩

theorem step_tracked {s t : Session} {e : Event} (hsid : safeSid sessionId ≠ "") (hs : Tracked serde sessionId s)
    (he : AppendsLine e) (h : step serde sessionId s e = some t) : Tracked serde sessionId t := by
  have ht := step_inv hsid hs.toInv h
  cases e with
  | append chunk =>
    obtain ⟨line, hline, rfl⟩ := he
    exact append_tracked hs hline ht h
  | call => exact (call_tracked hsid hs ht h).1

theorem run_tracked {s t : Session} {events : List Event} (hsid : safeSid sessionId ≠ "")
    (hs : Tracked serde sessionId s) (hevents : ∀ e ∈ events, AppendsLine e)
    (h : run (step serde sessionId) s events = some t) : Tracked serde sessionId t := by
  have hmeets : Meets (step serde sessionId) (fun _ e => AppendsLine e) s events :=
    meets_of_forall (fun e he _ => hevents e he) s
  exact run_invariant (Tracked serde sessionId) (fun _ _ _ hs he => step_tracked hsid hs he) hs hmeets h

theorem tokens_append (rs rs' : List (ℕ × ProxyReport)) : tokens (rs ++ rs') = tokens rs + tokens rs' := by
  simp [tokens]

theorem tokens_filter_le (q : ℕ × ProxyReport → Bool) (rs : List (ℕ × ProxyReport)) : tokens (rs.filter q) ≤ tokens rs := by
  induction rs with
  | nil => exact Nat.le_refl _
  | cons r rs ih =>
    simp only [tokens, List.filter_cons, List.map_cons, List.sum_cons] at ih ⊢
    split
    · simp only [List.map_cons, List.sum_cons]
      omega
    · omega

theorem toNat_sum {rs : List (ℕ × ProxyReport)} (h : tokens rs < 2 ^ 64) :
    (saved rs).toNat = tokens rs := by
  induction rs with
  | nil => rfl
  | cons r rs ih =>
    simp only [tokens, saved, List.map_cons, List.sum_cons] at h ih ⊢
    rw [UInt64.toNat_add, ih (by omega)]
    omega

theorem sumOf_eq {f : TokenlessAccumulator → UInt64} (q : ℕ × ProxyReport → Bool) {calls : List Call}
    (hf : ∀ c ∈ calls, f (c.result.getD {}) = saved (c.counted.filter q))
    (hsum : tokens (calls.flatMap (·.counted)) < 2 ^ 64) :
    sumOf f calls = tokens ((calls.flatMap (·.counted)).filter q) := by
  induction calls with
  | nil => rfl
  | cons c calls ih =>
    rw [List.flatMap_cons, tokens_append] at hsum
    rw [List.forall_mem_cons] at hf
    have hle := tokens_filter_le q c.counted
    have hrest := ih hf.2 (by omega)
    have hfirst : (saved (c.counted.filter q)).toNat = tokens (c.counted.filter q) := toNat_sum (by omega)
    rw [sumOf] at hrest ⊢
    rw [List.map_cons, List.sum_cons, hrest, hf.1, hfirst, List.flatMap_cons, List.filter_append, tokens_append]

theorem breakdown_eq {calls : List Call} (h : ∀ c ∈ calls, c.Sound serde) :
    calls.flatMap (·.breakdown) = (calls.flatMap (·.counted)).map fun r => breakdownItem r.2 := by
  rw [List.map_flatMap]
  apply List.flatMap_congr
  intro c hc
  exact (h c hc).items

structure SameSums (calls : List Call) (single : Call) : Prop where
  total : sumOf (·.totalSaved) calls = (single.result.getD {}).totalSaved.toNat
  rtk : sumOf (·.rtkSaved) calls = (single.result.getD {}).rtkSaved.toNat
  response : sumOf (·.responseSaved) calls = (single.result.getD {}).responseSaved.toNat
  schema : sumOf (·.schemaSaved) calls = (single.result.getD {}).schemaSaved.toNat

theorem sameSums_of_counted {calls : List Call} {single : Call} (hcalls : ∀ c ∈ calls, c.Sound serde)
    (hsingle : single.Sound serde) (hcounted : calls.flatMap (·.counted) = single.counted)
    (hsum : tokens single.counted < 2 ^ 64) : SameSums calls single := by
  have hone : ∀ f, sumOf f [single] = (f (single.result.getD {})).toNat := fun f => by simp [sumOf]
  have hsound : ∀ c ∈ [single], c.Sound serde := by simpa using hsingle
  -- each sum is that of the tokens of the counted lines of one kind
  have hsame : ∀ f q, (∀ c : Call, c.Sound serde → f (c.result.getD {}) = saved (c.counted.filter q)) →
      sumOf f calls = (f (single.result.getD {})).toNat := by
    intro f q hf
    rw [← hone, sumOf_eq q (fun c hc => hf c (hcalls c hc)) (by rwa [hcounted]),
      sumOf_eq q (fun c hc => hf c (hsound c hc)) (by simpa using hsum), hcounted]
    simp
  constructor
  · apply hsame _ (fun _ => true)
    intro c hc
    simpa [saved] using hc.savings.total
  · apply hsame _ (fun r => r.2.opType ∈ ["rewrite-command"])
    intro c hc
    simpa [saved, savedBy] using hc.savings.rtk
  · apply hsame _ (fun r => r.2.opType ∈ ["compress-response"])
    intro c hc
    simpa [saved, savedBy] using hc.savings.response
  · apply hsame _ (fun r => r.2.opType ∈ ["compress-schema"])
    intro c hc
    simpa [saved, savedBy] using hc.savings.schema

end

def freshCall (serde : Serde) (sessionId : String) (content : List Char) : Call :=
  (callOn serde sessionId content fun _ => none).1

theorem incremental_eq_single (serde : Serde) (sessionId : String) (cursors : String → Option ℕ) (events : List Event)
    (hsid : safeSid sessionId ≠ "") (hfresh : cursors (safeSid sessionId) = none)
    (hevents : ∀ e ∈ events, AppendsLine e) (hsum : tokens (newReports serde (appended events) 0) < 2 ^ 64) :
    ∃ s, run (step serde sessionId) { cursors } (events ++ [.call]) = some s ∧
      SameSums s.calls (freshCall serde sessionId (appended events)) ∧
      s.calls.flatMap (·.breakdown) = (freshCall serde sessionId (appended events)).breakdown ∧
      (∀ c ∈ freshCall serde sessionId (appended events) :: s.calls,
        (c.result.getD {}).breakdownJson = render serde c.breakdown) ∧
      ∀ c ∈ s.calls, ∀ acc, c.result = some acc →
        acc.projectPath = ((newReports serde c.content 0).findSome? fun r => r.2.projectPath) ∧
          acc.userName = (newReports serde c.content 0).findSome? fun r => r.2.userName := by
  obtain ⟨s, hs⟩ := @run_exists serde sessionId { cursors } events
  obtain ⟨t, ht⟩ := @run_exists serde sessionId s [.call]
  obtain ⟨u, hcall, hnil⟩ := run_cons.mp ht
  cases hnil
  have htracked := run_tracked hsid (init_tracked hfresh) hevents hs
  have hcontent : s.content = appended events := run_content hs
  have hsound := (step_inv hsid htracked.toInv hcall).sound
  have hsingle : (freshCall serde sessionId (appended events)).Sound serde := callOn_sound hsid (Nat.zero_le _)
  have hfirst : (freshCall serde sessionId (appended events)).counted = newReports serde (appended events) 0 :=
    congrArg (newReports serde (appended events)) (startByte_zero _)
  have hcounted : t.calls.flatMap (·.counted) = (freshCall serde sessionId (appended events)).counted := by
    have htotal := (call_tracked hsid htracked (step_inv hsid htracked.toInv hcall) hcall).2
    rw [hfirst, ← hcontent]
    exact htotal
  refine ⟨t, run_append.mpr ⟨s, hs, ht⟩, ?_, ?_, ?_, ?_⟩
  · apply sameSums_of_counted hsound hsingle hcounted
    rwa [hfirst]
  · rw [breakdown_eq hsound, hcounted, hsingle.items]
  · rw [List.forall_mem_cons]
    exact ⟨hsingle.rendered, fun c hc => (hsound c hc).rendered⟩
  · intro c hc acc hacc
    exact ⟨(hsound c hc).projectPath acc hacc, (hsound c hc).userName acc hacc⟩

namespace Sample

def line : List Char := (Report.Sample.lineText "compress-toon").toList ++ ['\n']

def readTwice : List Event := [.append line, .call, .append ['\n'], .append line]

end Sample

theorem incremental_eq_single_two_reads : ∃ s, run (step (Report.Sample.serde "compress-toon") "s1")
      { cursors := fun _ => none } (Sample.readTwice ++ [.call]) = some s ∧
    SameSums s.calls (freshCall (Report.Sample.serde "compress-toon") "s1" (appended Sample.readTwice)) := by
  have hevents : ∀ e ∈ Sample.readTwice, AppendsLine e := by
    have hline : AppendsLine (.append Sample.line) := ⟨_, Report.Sample.newline_not_mem_toon, rfl⟩
    have hblank : AppendsLine (.append ['\n']) := ⟨[], List.not_mem_nil, rfl⟩
    have hcall : AppendsLine .call := trivial
    simp only [Sample.readTwice, List.forall_mem_cons, List.not_mem_nil, false_implies, implies_true, and_true]
    exact ⟨hline, hcall, hblank, hline⟩
  obtain ⟨s, hs, hsums, -⟩ := incremental_eq_single (Report.Sample.serde "compress-toon") "s1" (fun _ => none)
    Sample.readTwice (by decide) rfl hevents (by decide +kernel)
  exact ⟨s, hs, hsums⟩

end AgentProxy.Report.Sequential
