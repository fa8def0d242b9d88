import AgentProxy.Cost.Savings
import AgentProxy.Report.Incremental
import AgentProxy.Server.Ledger

namespace AgentProxy.Server.ReportLedger

open Cost Report Storage Text Transition

/-- Report lines, each with the name of its file. -/
abbrev Share := List (String × ℕ × ProxyReport)

structure Pending where
  forwarded : Forwarded
  share : Share

/-- The ledger with the report files and the cursors; what the lines were read for is kept beside it. -/
structure State where
  proxy : ProxyState
  pending : List Pending
  records : Table CostRecord.id
  files : String → List Char
  cursors : String → Option ℕ
  billed : List (CostRecord × Share)
  unbilled : List Share

inductive Event where
  | hook (sid : String) (line : List Char)
  | arrive (now month : ℕ) (tokenlessTokens : Option String) (upstream : Outgoing → UpstreamOutcome) (inc : Incoming)
  | answer (now month i : ℕ) (env : RecordEnv)
  | change (proxy : ProxyState)

namespace State

variable (serde : Serde) (s : State)

def ledger : Ledger.State := ⟨s.proxy, s.pending.map (·.forwarded), s.records⟩

def cursor (sid : String) : ℕ := (s.cursors sid).getD 0

def lines (sid : String) : Share := (newReports serde (s.files sid) 0).map (Prod.mk sid)

def unread (sid : String) : Share := (s.lines serde sid).filter fun x => s.cursor sid ≤ x.2.1

def taken : Share := s.billed.flatMap (·.2) ++ s.pending.flatMap (·.share) ++ s.unbilled.flatten

def billedLines : List (ℕ × ProxyReport) := s.billed.flatMap fun b => b.2.map Prod.snd

def report (sessionId : String) : Option TokenlessAccumulator × (String → Option ℕ) :=
  consumeReport serde (fun sid => some (String.ofList (s.files sid))) s.cursors sessionId

def share (sessionId : String) : Share := if safeSid sessionId = "" then [] else s.unread serde (safeSid sessionId)

end State

def session (maxBodySize : ℕ) (inc : Incoming) : Option String :=
  if (detectApiFormat inc.request.path).isNone then none
  else if ((headerText inc.request.headers "content-length").bind parseUsize).any fun len => maxBodySize < len then none
  else if maxBodySize < inc.request.body.byteSize then none
  else
    match validateProxyRequest inc.request with
    | .error _ => none
    | .ok () => headerText inc.request.headers "x-claude-code-session-id"

section

variable (inst : Installation) (maxBodySize : ℕ)

def around (s : State) (tokenlessTokens : Option String) : Surroundings :=
  ⟨fun sessionId => (s.report inst.serde sessionId).1, tokenlessTokens⟩

def step (s : State) : Event → Option State
  | .hook sid line => some { s with files := Function.update s.files sid (s.files sid ++ (line ++ ['\n'])) }
  | .arrive now month tokenlessTokens upstream inc =>
    let handled := Ledger.received inst maxBodySize s.ledger now month (around inst s tokenlessTokens) upstream inc
    let share := (session maxBodySize inc).elim [] (s.share inst.serde)
    some { s with
      proxy := handled.state
      pending := s.pending ++ handled.forwarded.toList.map fun f => ⟨f, share⟩
      cursors := (session maxBodySize inc).elim s.cursors fun sessionId => (s.report inst.serde sessionId).2
      unbilled := if handled.forwarded.isSome then s.unbilled else s.unbilled ++ [share] }
  | .answer now month i env =>
    s.pending[i]?.map fun p =>
      let phase := Ledger.phaseOf inst s.ledger p.forwarded
      let bill := phase.costBody.map (record env p.forwarded.ctx)
      { s with
        proxy := { s.proxy with router := Router.performAll now month s.proxy.router (Ledger.routerOps phase.ops) }
        pending := s.pending.eraseIdx i
        records := Ledger.book s.records bill
        billed := s.billed ++ bill.toList.map fun r => (r, p.share)
        unbilled := if bill.isSome then s.unbilled else s.unbilled ++ [p.share] }
  | .change proxy => some { s with proxy }

def start (proxy : ProxyState) (records : Table CostRecord.id) (files : String → List Char) : State :=
  ⟨proxy, [], records, files, fun _ => none, [], []⟩

def ledgerEvent (s : State) : Event → Option Ledger.Event
  | .hook _ _ => none
  | .arrive now month tokenlessTokens upstream inc =>
    some (.arrive now month (around inst s tokenlessTokens) upstream inc)
  | .answer now month i env => some (.answer now month i env)
  | .change proxy => some (.change proxy)

end

def Whole (content : List Char) : Prop := ∃ ls, (∀ l ∈ ls, '\n' ∉ l) ∧ content = unlines ls

/-- The hooks write whole lines, and every record has an id of its own. -/
def Allowed (s : State) : Event → Prop
  | .hook _ line => '\n' ∉ line
  | .answer _ _ _ env => ∀ r ∈ s.records.rows, r.id ≠ env.id
  | _ => True

structure Carried (serde : Serde) (ctx : ConnectionContext) (share : Share) : Prop where
  session : ∀ x ∈ share, ctx.sessionId.map safeSid = some x.1
  breakdown : ctx.tokenlessBreakdownJson.getD "" = Sequential.render serde (share.map fun x => breakdownItem x.2.2)
  sums : Carries ctx (share.map Prod.snd)
  response : (ctx.compressionStats.getD {}).proxyResponseSaved = 0
  rtk : (ctx.compressionStats.getD {}).rtkSaved = 0

structure Charged (serde : Serde) (r : CostRecord) (share : Share) : Prop where
  session : ∀ x ∈ share, r.sessionId.map safeSid = some x.1
  breakdown : r.compressionBreakdownJson = Sequential.render serde (share.map fun x => breakdownItem x.2.2)
  total : r.tokensSaved - r.compressionTokensSaved = (saved (share.map Prod.snd)).toInt64
  response : r.responseSavedTokens = (savedBy ["compress-response"] (share.map Prod.snd)).toInt64
  rtk : r.rtkSavedTokens = (savedBy ["rewrite-command"] (share.map Prod.snd)).toInt64

structure Totals (s : State) : Prop where
  total : (s.billed.map fun b => (b.1.tokensSaved - b.1.compressionTokensSaved).toInt).sum =
    Sequential.tokens s.billedLines
  response : (s.billed.map fun b => b.1.responseSavedTokens.toInt).sum =
    Sequential.tokens (s.billedLines.filter fun r => r.2.opType ∈ ["compress-response"])
  rtk : (s.billed.map fun b => b.1.rtkSavedTokens.toInt).sum =
    Sequential.tokens (s.billedLines.filter fun r => r.2.opType ∈ ["rewrite-command"])

structure Accounted (inst : Installation) (maxBodySize : ℕ) (s : State) (es : List Event) (u : State) : Prop where
  ledger : run (Ledger.step inst maxBodySize) s.ledger (opsAlong (step inst maxBodySize) (ledgerEvent inst) s es) =
    some u.ledger
  records : u.records.rows = s.records.rows ++ u.billed.map (·.1)
  charged : ∀ b ∈ u.billed, Charged inst.serde b.1 b.2
  lines : ∀ sid, ((u.taken.filter fun x => x.1 = sid) ++ u.unread inst.serde sid).Perm (u.lines inst.serde sid)
  totals : Sequential.tokens u.billedLines < 2 ^ 63 → Totals u

section

variable {serde : Serde} {s t u : State} {e : Event} {es : List Event} {ctx : ConnectionContext} {share : Share}
  {files : String → Option String} {cursors : String → Option ℕ} {sessionId sid : String}

theorem consumeReport_blank (h : safeSid sessionId = "") :
    consumeReport serde files cursors sessionId = (none, cursors) := by
  rw [consumeReport, h]
  rfl

theorem consumeReport_file {content : List Char} (h : files (safeSid sessionId) = some (String.ofList content)) :
    consumeReport serde files cursors sessionId =
      consumeReport serde (Sequential.reportFile sessionId content) cursors sessionId := by
  have hfile : Sequential.reportFile sessionId content (safeSid sessionId) = some (String.ofList content) := if_pos rfl
  rw [consumeReport, consumeReport]
  dsimp only
  rw [h, hfile]

theorem report_eq : s.report serde sessionId =
    consumeReport serde (Sequential.reportFile sessionId (s.files (safeSid sessionId))) s.cursors sessionId :=
  consumeReport_file rfl

theorem consumeReport_other (h : sid ≠ safeSid sessionId) :
    (consumeReport serde files cursors sessionId).2 sid = cursors sid := by
  unfold consumeReport
  dsimp only
  split_ifs
  · rfl
  · split
    · rfl
    · split_ifs
      · rfl
      · exact Function.update_of_ne h _ _

theorem Carried.charged (h : Carried serde ctx share) (env : RecordEnv) (body : Json) :
    Charged serde (record env ctx body) share := by
  obtain ⟨htotal, hrtk, hresponse, -⟩ := h.sums
  refine ⟨h.session, h.breakdown, ?_, ?_, ?_⟩
  · have hfields : (record env ctx body).tokensSaved - (record env ctx body).compressionTokensSaved =
        (ctx.tokenlessSavedTokens + compressionSaved ctx).toInt64 - (compressionSaved ctx).toInt64 := rfl
    rw [hfields, UInt64.toInt64_add, Int64.add_sub_cancel, htotal]
  · have hfield : (record env ctx body).responseSavedTokens =
        (ctx.tokenlessResponseSaved + (ctx.compressionStats.getD {}).proxyResponseSaved).toInt64 := rfl
    rw [hfield, h.response, UInt64.add_zero, hresponse]
  · have hfield : (record env ctx body).rtkSavedTokens =
        (ctx.tokenlessRtkSaved + (ctx.compressionStats.getD {}).rtkSaved).toInt64 := rfl
    rw [hfield, h.rtk, UInt64.add_zero, hrtk]

theorem unread_reports : (s.unread serde sid).map Prod.snd = newReports serde (s.files sid) (s.cursor sid) := by
  rw [newReports_eq_filter, State.unread, State.lines, List.filter_map, List.map_map]
  exact List.map_id _

theorem mem_lines {x : String × ℕ × ProxyReport} (h : x ∈ s.lines serde sid) :
    x.1 = sid ∧ x.2 ∈ newReports serde (s.files sid) 0 := by
  obtain ⟨r, hr, rfl⟩ := List.mem_map.mp h
  exact ⟨rfl, hr⟩

theorem mem_share {x : String × ℕ × ProxyReport} (h : x ∈ s.share serde sessionId) : x.1 = safeSid sessionId := by
  unfold State.share at h
  split_ifs at h with hblank
  · cases h
  · exact (mem_lines (List.mem_filter.mp h).1).1

theorem report_read (hbound : ∀ sid, s.cursor sid ≤ byteLen (s.files sid)) (sessionId : Option String) :
    ∃ content cursor, (sessionId.bind fun id => (s.report serde id).1) = (consumeContent serde content cursor).1 ∧
      (sessionId.elim [] (s.share serde)).map Prod.snd = newReports serde content (startByte content cursor) := by
  cases sessionId with
  | none => exact ⟨[], 0, rfl, rfl⟩
  | some id =>
    rw [Option.bind_some, Option.elim_some]
    by_cases hblank : safeSid id = ""
    · refine ⟨[], 0, ?_, ?_⟩
      · rw [State.report, consumeReport_blank hblank]
        rfl
      · rw [State.share, if_pos hblank]
        rfl
    · refine ⟨s.files (safeSid id), s.cursor (safeSid id), ?_, ?_⟩
      · rw [report_eq]
        exact (Sequential.consumeReport_eq hblank (hbound _)).1
      · rw [State.share, if_neg hblank, unread_reports, startByte_of_le (hbound _)]

theorem readTokenlessStats_own (env : Option String) : (readTokenlessStats serde env).proxyResPre = 0 ∧
    (readTokenlessStats serde env).proxyResPost = 0 ∧ (readTokenlessStats serde env).rtkSaved = 0 := by
  unfold readTokenlessStats
  cases env with
  | none => exact ⟨rfl, rfl, rfl⟩
  | some value =>
    dsimp only
    split_ifs
    · exact ⟨rfl, rfl, rfl⟩
    · split
      · exact ⟨rfl, rfl, rfl⟩
      · exact ⟨rfl, rfl, rfl⟩

theorem prepareContext_fields {around : Surroundings} {headers : HeaderMap} {inc : Incoming} {format : ApiFormat} :
    (prepareContext serde around headers (inc.context format)).sessionId =
        headerText headers "x-claude-code-session-id" ∧
      (prepareContext serde around headers (inc.context format)).tokenlessBreakdownJson.getD "" =
        (((headerText headers "x-claude-code-session-id").bind around.report).getD {}).breakdownJson ∧
      ((prepareContext serde around headers (inc.context format)).compressionStats.getD {} =
          readTokenlessStats serde around.tokenlessTokens ∨
        (prepareContext serde around headers (inc.context format)).compressionStats.getD {} = {}) := by
  have hnone : ∀ o : Option String, o.or none = o := fun o => Option.or_none
  unfold prepareContext
  dsimp only
  cases (headerText headers "x-claude-code-session-id").bind around.report with
  | none => split_ifs <;> exact ⟨hnone _, rfl, by first | exact .inl rfl | exact .inr rfl⟩
  | some acc => split_ifs <;> exact ⟨hnone _, rfl, by first | exact .inl rfl | exact .inr rfl⟩

theorem prepareContext_carried {around : Surroundings} {inc : Incoming} {format : ApiFormat} {content : List Char}
    {cursor : ℕ} (h : (headerText inc.request.headers "x-claude-code-session-id").bind around.report =
      (consumeContent serde content cursor).1)
    (hshare : share.map Prod.snd = newReports serde content (startByte content cursor))
    (hsession : ∀ x ∈ share, (headerText inc.request.headers "x-claude-code-session-id").map safeSid = some x.1) :
    Carried serde (prepareContext serde around inc.request.headers (inc.context format)) share := by
  obtain ⟨hid, hbreakdown, hstats⟩ :=
    @prepareContext_fields serde around inc.request.headers inc format
  obtain ⟨hresPre, hresPost, hrtk⟩ := @readTokenlessStats_own serde around.tokenlessTokens
  refine ⟨?_, ?_, ?_, ?_, ?_⟩
  · rw [hid]
    exact hsession
  · rw [hbreakdown, h, (Sequential.consumeContent_result content cursor).1, (Sequential.scan_collects content _).1,
      ← hshare, List.map_map]
    rfl
  · rw [hshare]
    exact prepareContext_carries h
  · rcases hstats with hstats | hstats
    · rw [hstats, CompressionStats.proxyResponseSaved, hresPre, hresPost]
      rfl
    · rw [hstats]
      rfl
  · rcases hstats with hstats | hstats
    · rw [hstats, hrtk]
    · rw [hstats]

variable {inst : Installation} {maxBodySize : ℕ}

theorem session_of_forwarded {mws : List (Middleware ProxyState SharedOp)} {around : Surroundings}
    {upstream : Outgoing → UpstreamOutcome} {proxy : ProxyState} {inc : Incoming} {f : Forwarded}
    (h : (handleProxyRequest serde mws around upstream maxBodySize proxy inc).forwarded = some f) :
    session maxBodySize inc = headerText inc.request.headers "x-claude-code-session-id" := by
  unfold handleProxyRequest at h
  unfold session
  cases hformat : detectApiFormat inc.request.path with
  | none => simp [hformat] at h
  | some format =>
    simp only [hformat, Option.isNone_some, Bool.false_eq_true, if_false] at h ⊢
    split_ifs at h ⊢ with hlength hsize
    cases hvalid : validateProxyRequest inc.request with
    | error e => simp [hvalid] at h
    | ok valid => rfl

theorem forwarded_carried (hbound : ∀ sid, s.cursor sid ≤ byteLen (s.files sid)) {now month : ℕ}
    {tokenlessTokens : Option String} {upstream : Outgoing → UpstreamOutcome} {inc : Incoming} {f : Forwarded}
    (h : (Ledger.received inst maxBodySize s.ledger now month (around inst s tokenlessTokens) upstream inc).forwarded =
      some f) :
    Carried inst.serde f.ctx ((session maxBodySize inc).elim [] (s.share inst.serde)) := by
  let inst' : Installation := { inst with now, month }
  obtain ⟨format, s', -, hchain, -⟩ :=
    handle_forwarded inst'.serde inst'.middlewares (around inst s tokenlessTokens) upstream h
  obtain ⟨stats, target, channel, mapping, reverse, hstats, hctx⟩ := requestChain_origin (by rw [hchain])
  obtain ⟨content, cursor, hreport, hshare⟩ := @report_read inst.serde s hbound (session maxBodySize inc)
  have hheader := session_of_forwarded h
  have hsession : ∀ x ∈ (session maxBodySize inc).elim [] (s.share inst.serde),
      (headerText inc.request.headers "x-claude-code-session-id").map safeSid = some x.1 := by
    rw [← hheader]
    intro x hx
    cases hid : session maxBodySize inc with
    | none =>
      rw [hid] at hx
      cases hx
    | some id =>
      rw [hid] at hx
      exact congrArg some (mem_share hx).symm
  rw [hheader] at hreport
  obtain ⟨hid, hbreakdown, hsums, hresponse, hrtk⟩ :=
    @prepareContext_carried inst.serde _ (around inst s tokenlessTokens) inc format content cursor hreport hshare hsession
  rw [hctx]
  refine ⟨hid, hbreakdown, hsums, ?_, ?_⟩
  · rcases hstats with rfl | ⟨pre, post, rfl⟩
    · exact hresponse
    · exact hresponse
  · rcases hstats with rfl | ⟨pre, post, rfl⟩
    · exact hrtk
    · exact hrtk

theorem step_ledger (h : step inst maxBodySize s e = some t) :
    run (Ledger.step inst maxBodySize) s.ledger (ledgerEvent inst s e).toList = some t.ledger := by
  cases e with
  | hook sid line =>
    cases h
    rfl
  | arrive now month tokenlessTokens upstream inc =>
    cases h
    apply run_cons.mpr
    refine ⟨_, rfl, ?_⟩
    simp only [run, State.ledger, List.map_append, List.map_map, Function.comp_def, List.map_id']
  | answer now month i env =>
    obtain ⟨p, hp, rfl⟩ := Option.map_eq_some_iff.mp h
    have hpending : s.ledger.pending[i]? = some p.forwarded := by
      rw [State.ledger, List.getElem?_map, hp, Option.map_some]
    apply run_cons.mpr
    refine ⟨_, by rw [Ledger.step, hpending, Option.map_some], ?_⟩
    simp only [run, State.ledger, List.eraseIdx_eq_take_drop_succ, List.map_append, List.map_take, List.map_drop]
  | change proxy =>
    cases h
    rfl

theorem run_ledger (h : run (step inst maxBodySize) s es = some u) :
    run (Ledger.step inst maxBodySize) s.ledger (opsAlong (step inst maxBodySize) (ledgerEvent inst) s es) =
      some u.ledger := by
  induction es generalizing s with
  | nil =>
    cases h
    rfl
  | cons e es ih =>
    obtain ⟨t, ht, hu⟩ := run_cons.mp h
    rw [opsAlong_cons ht]
    exact run_append.mpr ⟨t.ledger, step_ledger ht, ih hu⟩

/-- The lines before the cursor of a file were read for one request each, and those behind it for none. -/
structure Inv (serde : Serde) (old : List CostRecord) (s : State) : Prop where
  records : s.records.rows = old ++ s.billed.map (·.1)
  carried : ∀ p ∈ s.pending, Carried serde p.forwarded.ctx p.share
  charged : ∀ b ∈ s.billed, Charged serde b.1 b.2
  whole : ∀ sid, Whole (s.files sid)
  bound : ∀ sid, s.cursor sid ≤ byteLen (s.files sid)
  taken : ∀ sid, (s.taken.filter fun x => x.1 = sid).Perm ((s.lines serde sid).filter fun x => x.2.1 < s.cursor sid)

theorem lines_split (s : State) (sid : String) :
    (((s.lines serde sid).filter fun x => x.2.1 < s.cursor sid) ++ s.unread serde sid).Perm (s.lines serde sid) := by
  have hsplit := List.filter_append_perm (fun x : String × ℕ × ProxyReport => decide (x.2.1 < s.cursor sid))
    (s.lines serde sid)
  have hnot : (fun x : String × ℕ × ProxyReport => !decide (x.2.1 < s.cursor sid)) =
      fun x => decide (s.cursor sid ≤ x.2.1) := by
    funext x
    rw [← decide_not, decide_eq_decide]
    exact Nat.not_lt
  rw [hnot] at hsplit
  exact hsplit

theorem lines_read {cursor : ℕ} (h : cursor = if newReports serde (s.files sid) (s.cursor sid) = [] then s.cursor sid
      else byteLen (s.files sid)) :
    ((s.lines serde sid).filter fun x => x.2.1 < cursor) = s.lines serde sid := by
  apply List.filter_eq_self.mpr
  intro x hx
  have hreport := (mem_lines hx).2
  rw [decide_eq_true_eq, h]
  split_ifs with hnone
  · by_contra hbehind
    have hread : x.2 ∈ newReports serde (s.files sid) (s.cursor sid) := by
      rw [newReports_eq_filter]
      exact List.mem_filter.mpr ⟨hreport, decide_eq_true (Nat.le_of_not_lt hbehind)⟩
    rw [hnone] at hread
    cases hread
  · exact (newReports_lt serde (s.files sid)).1 x.2 hreport

theorem report_cursor (hblank : safeSid sessionId ≠ "")
    (hbound : s.cursor (safeSid sessionId) ≤ byteLen (s.files (safeSid sessionId))) :
    ((s.report serde sessionId).2 (safeSid sessionId)).getD 0 =
      if newReports serde (s.files (safeSid sessionId)) (s.cursor (safeSid sessionId)) = [] then
        s.cursor (safeSid sessionId)
      else byteLen (s.files (safeSid sessionId)) := by
  have hnext := @Sequential.callOn_cursor serde sessionId (s.files (safeSid sessionId)) s.cursors hblank hbound
  rw [report_eq]
  exact hnext

theorem share_filter : ((s.share serde sessionId).filter fun x => x.1 = sid) =
    if sid = safeSid sessionId then s.share serde sessionId else [] := by
  split_ifs with hsame
  · apply List.filter_eq_self.mpr
    intro x hx
    rw [mem_share hx, hsame]
    exact decide_eq_true rfl
  · apply List.filter_eq_nil_iff.mpr
    intro x hx hkey
    exact hsame ((of_decide_eq_true hkey).symm.trans (mem_share hx))

theorem unread_taken {old : List CostRecord} (hs : Inv serde old s) (hfiles : t.files = s.files)
    (hcursors : t.cursors = s.cursors) (htaken : t.taken.Perm s.taken) :
    (∀ sid, t.cursor sid ≤ byteLen (t.files sid)) ∧
      ∀ sid, (t.taken.filter fun x => x.1 = sid).Perm ((t.lines serde sid).filter fun x => x.2.1 < t.cursor sid) := by
  have hcursor (sid : String) : t.cursor sid = s.cursor sid := by rw [State.cursor, hcursors, ← State.cursor]
  constructor
  · intro sid
    rw [hcursor, hfiles]
    exact hs.bound sid
  · intro sid
    rw [hcursor, State.lines, hfiles, ← State.lines]
    exact (htaken.filter _).trans (hs.taken sid)

theorem report_taken {old : List CostRecord} (hs : Inv serde old s) (hfiles : t.files = s.files)
    (hcursors : t.cursors = (s.report serde sessionId).2) (htaken : t.taken.Perm (s.taken ++ s.share serde sessionId)) :
    (∀ sid, t.cursor sid ≤ byteLen (t.files sid)) ∧
      ∀ sid, (t.taken.filter fun x => x.1 = sid).Perm ((t.lines serde sid).filter fun x => x.2.1 < t.cursor sid) := by
  have hlines (sid : String) : t.lines serde sid = s.lines serde sid := by rw [State.lines, hfiles, ← State.lines]
  have hother (sid : String) (hne : sid ≠ safeSid sessionId) : t.cursor sid = s.cursor sid := by
    rw [State.cursor, hcursors, State.report, consumeReport_other hne, ← State.cursor]
  have hblanked (hblank : safeSid sessionId = "") (sid : String) : t.cursor sid = s.cursor sid := by
    rw [State.cursor, hcursors, State.report, consumeReport_blank hblank, ← State.cursor]
  have hread (hblank : safeSid sessionId ≠ "") := @report_cursor serde s sessionId hblank (hs.bound _)
  have hcursor : t.cursor (safeSid sessionId) = ((s.report serde sessionId).2 (safeSid sessionId)).getD 0 := by
    rw [State.cursor, hcursors]
  constructor
  · intro sid
    rw [hfiles]
    by_cases hsame : sid = safeSid sessionId
    · subst hsame
      by_cases hblank : safeSid sessionId = ""
      · rw [hblanked hblank]
        exact hs.bound _
      · rw [hcursor, hread hblank]
        split_ifs
        · exact hs.bound _
        · exact Nat.le_refl _
    · rw [hother sid hsame]
      exact hs.bound sid
  · intro sid
    apply (htaken.filter _).trans
    rw [List.filter_append, share_filter, hlines]
    by_cases hsame : sid = safeSid sessionId
    · subst hsame
      rw [if_pos rfl, State.share]
      by_cases hblank : safeSid sessionId = ""
      · rw [if_pos hblank, List.append_nil, hblanked hblank]
        exact hs.taken _
      · rw [if_neg hblank, hcursor, lines_read (hread hblank)]
        exact ((hs.taken _).append_right _).trans (lines_split s _)
    · rw [if_neg hsame, List.append_nil, hother sid hsame]
      exact hs.taken sid

theorem hook_inv {old : List CostRecord} {line : List Char} (hs : Inv serde old s) (hline : '\n' ∉ line) :
    Inv serde old { s with files := Function.update s.files sid (s.files sid ++ (line ++ ['\n'])) } := by
  have hnew : ∀ l ∈ [line], '\n' ∉ l := by simpa using hline
  obtain ⟨ls, hls, hlines⟩ := hs.whole sid
  refine ⟨hs.records, hs.carried, hs.charged, fun sid' => ?_, fun sid' => ?_, fun sid' => ?_⟩
  · by_cases hsame : sid' = sid
    · subst hsame
      refine ⟨ls ++ [line], List.forall_mem_append.mpr ⟨hls, hnew⟩, ?_⟩
      simp [hlines, unlines]
    · simp only [Function.update_of_ne hsame]
      exact hs.whole sid'
  · have hbound := hs.bound sid'
    by_cases hsame : sid' = sid
    · subst hsame
      simp only [Function.update_self, byteLen_append]
      exact Nat.le_trans hbound (Nat.le_add_right _ _)
    · simp only [Function.update_of_ne hsame]
      exact hbound
  · apply (hs.taken sid').trans
    by_cases hsame : sid' = sid
    · subst hsame
      have hbound := hs.bound sid'
      rw [hlines] at hbound
      simp only [State.lines, Function.update_self, List.filter_map, hlines]
      exact .of_eq (congrArg _ (filter_lt_append hls _ hbound).symm)
    · simp only [State.lines, Function.update_of_ne hsame]
      exact .refl _

theorem arrive_taken {now month : ℕ} {tokenlessTokens : Option String} {upstream : Outgoing → UpstreamOutcome}
    {inc : Incoming} (h : step inst maxBodySize s (.arrive now month tokenlessTokens upstream inc) = some t) :
    t.taken.Perm (s.taken ++ (session maxBodySize inc).elim [] (s.share inst.serde)) ∧
      ∀ p ∈ t.pending, p ∈ s.pending ∨ p.share = (session maxBodySize inc).elim [] (s.share inst.serde) ∧
        (Ledger.received inst maxBodySize s.ledger now month (around inst s tokenlessTokens) upstream inc).forwarded =
          some p.forwarded := by
  cases h
  generalize (session maxBodySize inc).elim [] (s.share inst.serde) = share
  cases hf : (Ledger.received inst maxBodySize s.ledger now month (around inst s tokenlessTokens) upstream
      inc).forwarded with
  | none =>
    simp only [State.taken, Option.toList_none, List.map_nil, List.append_nil, Option.isSome_none, Bool.false_eq_true,
      if_false, List.flatten_append, List.flatten_cons, List.flatten_nil]
    refine ⟨.of_eq (List.append_assoc _ _ _).symm, fun p hp => .inl hp⟩
  | some f =>
    simp only [State.taken, Option.toList_some, List.map_cons, List.map_nil, Option.isSome_some, if_true,
      List.flatMap_append, List.flatMap_cons, List.flatMap_nil, List.append_nil]
    constructor
    · rw [← List.append_assoc, List.append_assoc _ share, List.append_assoc _ s.unbilled.flatten]
      exact List.perm_append_comm.append_left _
    · intro p hp
      rcases List.mem_append.mp hp with hp | hp
      · exact .inl hp
      · rw [List.mem_singleton.mp hp]
        exact .inr ⟨rfl, rfl⟩

theorem arrive_inv {old : List CostRecord} {now month : ℕ} {tokenlessTokens : Option String}
    {upstream : Outgoing → UpstreamOutcome} {inc : Incoming} (hs : Inv inst.serde old s)
    (h : step inst maxBodySize s (.arrive now month tokenlessTokens upstream inc) = some t) : Inv inst.serde old t := by
  obtain ⟨htaken, hpending⟩ := arrive_taken h
  have hcarried : ∀ p ∈ t.pending, Carried inst.serde p.forwarded.ctx p.share := by
    intro p hp
    rcases hpending p hp with hp | ⟨hshare, hf⟩
    · exact hs.carried p hp
    · rw [hshare]
      exact forwarded_carried hs.bound hf
  have hfiles : t.files = s.files := by
    cases h
    rfl
  have hrecords : t.records.rows = old ++ t.billed.map (·.1) := by
    cases h
    exact hs.records
  have hcharged : ∀ b ∈ t.billed, Charged inst.serde b.1 b.2 := by
    cases h
    exact hs.charged
  have hwhole : ∀ sid, Whole (t.files sid) := hfiles ▸ hs.whole
  have hcursors : t.cursors = (session maxBodySize inc).elim s.cursors fun id => (s.report inst.serde id).2 := by
    cases h
    rfl
  cases hid : session maxBodySize inc with
  | some id =>
    rw [hid] at htaken hcursors
    obtain ⟨hbound, hlines⟩ := report_taken hs hfiles hcursors htaken
    exact ⟨hrecords, hcarried, hcharged, hwhole, hbound, hlines⟩
  | none =>
    rw [hid, Option.elim_none] at htaken hcursors
    rw [List.append_nil] at htaken
    obtain ⟨hbound, hlines⟩ := unread_taken hs hfiles hcursors htaken
    exact ⟨hrecords, hcarried, hcharged, hwhole, hbound, hlines⟩

theorem answer_taken {now month i : ℕ} {env : RecordEnv}
    (h : step inst maxBodySize s (.answer now month i env) = some t) :
    t.taken.Perm s.taken ∧ (∀ p ∈ t.pending, p ∈ s.pending) ∧
      ∃ p ∈ s.pending, ∃ bill : Option CostRecord, t.records = Ledger.book s.records bill ∧
        t.billed = s.billed ++ bill.toList.map (fun r => (r, p.share)) ∧
        ∀ r ∈ bill, ∃ body, r = record env p.forwarded.ctx body := by
  obtain ⟨p, hp, rfl⟩ := Option.map_eq_some_iff.mp h
  obtain ⟨hi, hget⟩ := List.getElem?_eq_some_iff.mp hp
  have hperm : (p.share ++ (s.pending.eraseIdx i).flatMap (·.share)).Perm (s.pending.flatMap (·.share)) := by
    rw [← hget, ← List.flatMap_cons]
    exact (List.getElem_cons_eraseIdx_perm hi).flatMap_right _
  refine ⟨?_, fun q hq => List.mem_of_mem_eraseIdx hq, p, hget ▸ List.getElem_mem hi, _, rfl, rfl, ?_⟩
  · dsimp only [State.taken]
    generalize (Ledger.phaseOf inst s.ledger p.forwarded).costBody.map (record env p.forwarded.ctx) = bill
    cases bill with
    | none =>
      simp only [Option.toList_none, List.map_nil, List.append_nil, Option.isSome_none, Bool.false_eq_true, if_false,
        List.flatten_append, List.flatten_cons, List.flatten_nil]
      rw [List.append_assoc, List.append_assoc]
      apply List.Perm.append_left
      apply List.Perm.trans _ (hperm.append_right _)
      rw [← List.append_assoc, List.append_assoc p.share]
      exact List.perm_append_comm
    | some r =>
      simp only [Option.toList_some, List.map_cons, List.map_nil, Option.isSome_some, if_true, List.flatMap_append,
        List.flatMap_cons, List.flatMap_nil, List.append_nil]
      apply List.Perm.append_right
      rw [List.append_assoc]
      exact hperm.append_left _
  · intro r hr
    obtain ⟨body, -, rfl⟩ := Option.map_eq_some_iff.mp hr
    exact ⟨body, rfl⟩

theorem answer_inv {old : List CostRecord} {now month i : ℕ} {env : RecordEnv} (hs : Inv inst.serde old s)
    (hfresh : ∀ r ∈ s.records.rows, r.id ≠ env.id)
    (h : step inst maxBodySize s (.answer now month i env) = some t) : Inv inst.serde old t := by
  obtain ⟨htaken, hpending, p, hp, bill, hrecords, hbilled, hbill⟩ := answer_taken h
  have hfiles : t.files = s.files := by
    obtain ⟨q, -, rfl⟩ := Option.map_eq_some_iff.mp h
    rfl
  have hcursors : t.cursors = s.cursors := by
    obtain ⟨q, -, rfl⟩ := Option.map_eq_some_iff.mp h
    rfl
  have hbooked : t.records.rows = old ++ t.billed.map (·.1) ∧ ∀ b ∈ t.billed, Charged inst.serde b.1 b.2 := by
    rw [hrecords, hbilled]
    cases bill with
    | none =>
      rw [Option.toList_none, List.map_nil, List.append_nil]
      exact ⟨hs.records, hs.charged⟩
    | some r =>
      obtain ⟨body, rfl⟩ := hbill r rfl
      constructor
      · rw [Ledger.rows_book fun r' hr' => hfresh r' hr', hs.records, List.map_append, List.append_assoc]
        rfl
      · intro b hb
        rcases List.mem_append.mp hb with hb | hb
        · exact hs.charged b hb
        · rw [List.mem_singleton.mp hb]
          exact (hs.carried p hp).charged env body
  obtain ⟨hbound, hlines⟩ := unread_taken hs hfiles hcursors htaken
  exact ⟨hbooked.1, fun q hq => hs.carried q (hpending q hq), hbooked.2, hfiles ▸ hs.whole, hbound, hlines⟩

theorem step_inv {old : List CostRecord} (hs : Inv inst.serde old s) (hok : Allowed s e)
    (h : step inst maxBodySize s e = some t) : Inv inst.serde old t := by
  cases e with
  | hook sid line =>
    cases h
    exact hook_inv hs hok
  | arrive now month tokenlessTokens upstream inc => exact arrive_inv hs h
  | answer now month i env => exact answer_inv hs hok h
  | change proxy =>
    cases h
    exact ⟨hs.records, hs.carried, hs.charged, hs.whole, hs.bound, hs.taken⟩

theorem start_inv {proxy : ProxyState} {records : Table CostRecord.id} {files : String → List Char}
    (hfiles : ∀ sid, Whole (files sid)) : Inv serde records.rows (start proxy records files) := by
  refine ⟨(List.append_nil _).symm, fun p hp => absurd hp List.not_mem_nil,
    fun b hb => absurd hb List.not_mem_nil, hfiles, fun sid => Nat.zero_le _, fun sid => ?_⟩
  have hnone : ((start proxy records files).lines serde sid).filter
      (fun x => decide (x.2.1 < (start proxy records files).cursor sid)) = [] := by
    apply List.filter_eq_nil_iff.mpr
    intro x _ hx
    exact Nat.not_lt_zero _ (of_decide_eq_true hx)
  rw [hnone]
  exact .refl _

theorem sum_charged {field : CostRecord → Int64} {part : Share → List (ℕ × ProxyReport)}
    {billed : List (CostRecord × Share)} (h : ∀ b ∈ billed, field b.1 = (saved (part b.2)).toInt64)
    (hsum : Sequential.tokens (billed.flatMap fun b => part b.2) < 2 ^ 63) :
    (billed.map fun b => (field b.1).toInt).sum = Sequential.tokens (billed.flatMap fun b => part b.2) := by
  induction billed with
  | nil => rfl
  | cons b billed ih =>
    rw [List.flatMap_cons, Sequential.tokens_append] at hsum ⊢
    obtain ⟨hb, hrest⟩ := List.forall_mem_cons.mp h
    have hfirst : (field b.1).toInt = Sequential.tokens (part b.2) := by
      rw [hb]
      exact (Counter.toInt64_eq_natCast (by omega)).mpr (Sequential.toNat_sum (by omega))
    rw [List.map_cons, List.sum_cons, hfirst, ih hrest (by omega), Nat.cast_add]

theorem totals_of_charged (h : ∀ b ∈ s.billed, Charged serde b.1 b.2)
    (hsum : Sequential.tokens s.billedLines < 2 ^ 63) : Totals s := by
  have hpart (op : String) : (s.billedLines.filter fun r => r.2.opType ∈ [op]) =
      s.billed.flatMap fun b => (b.2.map Prod.snd).filter fun r => r.2.opType ∈ [op] := List.filter_flatMap
  have hless (op : String) : Sequential.tokens (s.billed.flatMap fun b =>
      (b.2.map Prod.snd).filter fun r => r.2.opType ∈ [op]) < 2 ^ 63 := by
    rw [← hpart]
    exact lt_of_le_of_lt (Sequential.tokens_filter_le _ _) hsum
  constructor
  · exact @sum_charged (fun r => r.tokensSaved - r.compressionTokensSaved) (fun share => share.map Prod.snd) _
      (fun b hb => (h b hb).total) hsum
  · rw [hpart]
    exact @sum_charged (·.responseSavedTokens)
      (fun share => (share.map Prod.snd).filter fun r => r.2.opType ∈ ["compress-response"]) _
      (fun b hb => (h b hb).response) (hless _)
  · rw [hpart]
    exact @sum_charged (·.rtkSavedTokens)
      (fun share => (share.map Prod.snd).filter fun r => r.2.opType ∈ ["rewrite-command"]) _
      (fun b hb => (h b hb).rtk) (hless _)

end

namespace Sample

def events : List Event :=
  [.hook "s1" (Report.Sample.lineText "compress-toon").toList,
    .arrive 0 0 none Ledger.Sample.upstream Cost.Sample.incoming,
    .answer 1 0 0 ⟨"unknown", "r1", 1, "1970-01-01T00:00:00+00:00"⟩]

end Sample

theorem reports_accounted {inst : Installation} {maxBodySize : ℕ} {proxy : ProxyState} {records : Table CostRecord.id}
    {files : String → List Char} (hfiles : ∀ sid, Whole (files sid)) {es : List Event} {u : State}
    (hok : Meets (step inst maxBodySize) Allowed (start proxy records files) es)
    (h : run (step inst maxBodySize) (start proxy records files) es = some u) :
    Accounted inst maxBodySize (start proxy records files) es u := by
  have hinv := run_invariant (Inv inst.serde records.rows) (fun _ _ _ hs hok hstep => step_inv hs hok hstep)
    (start_inv hfiles) hok h
  refine ⟨run_ledger h, hinv.records, hinv.charged, fun sid => ?_, totals_of_charged hinv.charged⟩
  exact ((hinv.taken sid).append_right _).trans (lines_split u sid)

theorem reports_accounted_one_line : ∃ u, run (step (Cost.Sample.installation "compress-toon") 1024)
    (start (Server.Sample.state "deepseek" "deepseek") .empty fun _ => []) Sample.events = some u ∧
    u.billed.map (fun b => (b.1.id, b.2.length)) = [("r1", 1)] ∧
    Accounted (Cost.Sample.installation "compress-toon") 1024
      (start (Server.Sample.state "deepseek" "deepseek") .empty fun _ => []) Sample.events u := by
  have hfiles : ∀ sid : String, Whole ((fun _ : String => ([] : List Char)) sid) :=
    fun _ => ⟨[], fun _ hl => absurd hl List.not_mem_nil, rfl⟩
  have hok : Meets (step (Cost.Sample.installation "compress-toon") 1024) Allowed
      (start (Server.Sample.state "deepseek" "deepseek") .empty fun _ => []) Sample.events := by
    apply (meets_cons rfl).mpr
    refine ⟨Report.Sample.newline_not_mem_toon, ?_⟩
    apply (meets_cons rfl).mpr
    refine ⟨trivial, ?_⟩
    exact ⟨fun r hr => absurd hr List.not_mem_nil, fun _ _ => trivial⟩
  have hrun : (run (step (Cost.Sample.installation "compress-toon") 1024)
      (start (Server.Sample.state "deepseek" "deepseek") .empty fun _ => []) Sample.events).map
        (fun u => u.billed.map fun b => (b.1.id, b.2.length)) = some [("r1", 1)] := by decide +kernel
  obtain ⟨u, hu, hbilled⟩ := Option.map_eq_some_iff.mp hrun
  exact ⟨u, hu, hbilled, reports_accounted hfiles hok hu⟩

end AgentProxy.Server.ReportLedger
