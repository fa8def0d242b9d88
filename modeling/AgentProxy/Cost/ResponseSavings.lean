import AgentProxy.Cost.Savings
import AgentProxy.Lib.Pool

namespace AgentProxy.Cost.ResponseSavings

open Server Transition

/-- A request with what surrounds it: the report and the environment it finds, the upstream's answer, the clock,
and the data of its cost record that are not computed. -/
structure Arrival where
  inc : Incoming
  around : Surroundings
  upstream : Outgoing → UpstreamOutcome
  maxBodySize : ℕ
  now : ℕ
  month : ℕ
  env : RecordEnv

def Arrival.reported (a : Arrival) : UInt64 :=
  (((headerText a.inc.request.headers "x-claude-code-session-id").bind a.around.report).map (·.responseSaved)).getD 0

structure Written where
  arrival : Arrival
  own : Option ResponseStats
  record : CostRecord

structure Store where
  proxy : ProxyState
  responseStats : Option ResponseStats := none
  written : List Written := []

inductive Task where
  | requested (a : Arrival)
  | responding (a : Arrival) (ctx : ConnectionContext) (rest : List (Middleware ProxyState SharedOp))
      (res : ProxyResponse) (own : Option ResponseStats)
  | setEnabled (enabled : Bool)

def statsOf (ops : List SharedOp) : Option ResponseStats :=
  (ops.filterMap fun
    | .responseStats stats => some stats
    | .router _ => none).getLast?

def Store.perform (s : Store) (a : Arrival) (ops : List SharedOp) : Store :=
  { s with
    proxy.router := Router.performAll a.now a.month s.proxy.router
      (ops.filterMap fun
        | .router op => some op
        | .responseStats _ => none)
    responseStats := (statsOf ops).or s.responseStats }

/-- `own` is what `CompressMiddleware::on_response` published for this request; the cost recorder runs after the
last middleware, if the body is JSON. -/
def execute (inst : Installation) (s : Store) : Task → Store × Option Task
  | .setEnabled enabled => ({ s with proxy.compressEnabled := enabled }, none)
  | .requested a =>
    let inst := { inst with now := a.now, month := a.month }
    let handled := handleProxyRequest inst.serde inst.middlewares a.around a.upstream a.maxBodySize s.proxy a.inc
    ({ s with proxy := handled.state },
      match handled.forwarded with
      | none => none
      | some f =>
        match f.outcome with
        | .answered status headers (.ok body) =>
          if f.req.isStreaming inst.serde then none
          else some (.responding a f.ctx inst.middlewares.reverse ⟨status, headers, body, false⟩ none)
        | _ => none)
  | .responding a ctx (mw :: rest) res own =>
    match mw.onResponse s.proxy res ctx with
    | (ops, .ok res') => (s.perform a ops, some (.responding a ctx rest res' ((statsOf ops).or own)))
    | (ops, .error _) => (s.perform a ops, none)
  | .responding a ctx [] res own =>
    match inst.serde.fromSlice res.body with
    | .ok json => ({ s with written := s.written ++ [⟨a, own, record a.env ctx json⟩] }, none)
    | .error _ => (s, none)

inductive Call where
  | request (a : Arrival)
  | setEnabled (enabled : Bool)

def Call.task : Call → Task
  | request a => .requested a
  | setEnabled enabled => .setEnabled enabled

def step (inst : Installation) : Pool.State Store Task → Pool.Event Call → Option (Pool.State Store Task) :=
  Pool.step Call.task (execute inst)

/-- The record of a request whose response was shrunk has the savings of its report and of its own response. -/
def Attributed (w : Written) : Prop :=
  ∀ stats, w.own = some stats → stats.postTokens < stats.preTokens →
    w.record.responseSavedTokens = (w.arrival.reported + (stats.preTokens - stats.postTokens)).toInt64

theorem onResponse_congr {inst : Installation} {mw : Middleware ProxyState SharedOp} (hmw : mw ∈ inst.middlewares)
    {p q : ProxyState} (h : p.compressEnabled = q.compressEnabled) (res : ProxyResponse) (ctx : ConnectionContext) :
    mw.onResponse p res ctx = mw.onResponse q res ctx := by
  simp only [Installation.middlewares, List.mem_cons, List.not_mem_nil, or_false] at hmw
  obtain rfl | rfl | rfl | rfl := hmw
  · simp only [Installation.compress, h]
  · rfl
  · rfl
  · rfl

theorem responding_alone (inst : Installation) (a : Arrival) (ctx : ConnectionContext) (p : ProxyState)
    {mws : List (Middleware ProxyState SharedOp)} (hmws : ∀ mw ∈ mws, mw ∈ inst.middlewares) (s : Store)
    (hp : p.compressEnabled = s.proxy.compressEnabled) (res : ProxyResponse) (own : Option ResponseStats) :
    ∃ t, Pool.Alone (execute inst) (s, some (.responding a ctx mws res own)) (t, none) ∧
      t.written.map Written.record = s.written.map Written.record ++
        ((runResponses p ctx mws res).2.toOption.bind fun res' =>
          (inst.serde.fromSlice res'.body).toOption.map (record a.env ctx)).toList := by
  induction mws generalizing s res own with
  | nil =>
    cases hjson : inst.serde.fromSlice res.body with
    | error e =>
      have hexec : execute inst s (.responding a ctx [] res own) = (s, none) := by simp only [execute, hjson]
      exact ⟨s, Pool.alone_execute hexec (Pool.alone_refl _), by simp [runResponses, Except.toOption, hjson]⟩
    | ok json =>
      have hexec : execute inst s (.responding a ctx [] res own) =
          ({ s with written := s.written ++ [⟨a, own, record a.env ctx json⟩] }, none) := by
        simp only [execute, hjson]
      exact ⟨_, Pool.alone_execute hexec (Pool.alone_refl _), by simp [runResponses, Except.toOption, hjson]⟩
  | cons mw mws ih =>
    obtain ⟨hmw, hmws⟩ := List.forall_mem_cons.mp hmws
    have hsame := onResponse_congr hmw hp res ctx
    cases hresponse : mw.onResponse p res ctx with
    | mk ops result =>
      rw [hresponse] at hsame
      cases result with
      | error e =>
        have hexec : execute inst s (.responding a ctx (mw :: mws) res own) = (s.perform a ops, none) := by
          simp only [execute, ← hsame]
        refine ⟨_, Pool.alone_execute hexec (Pool.alone_refl _), ?_⟩
        simp [runResponses, hresponse, Except.toOption, Store.perform]
      | ok res' =>
        have hexec : execute inst s (.responding a ctx (mw :: mws) res own) =
            (s.perform a ops, some (.responding a ctx mws res' ((statsOf ops).or own))) := by
          simp only [execute, ← hsame]
        obtain ⟨t, halone, hwritten⟩ := ih hmws (s.perform a ops) hp res' ((statsOf ops).or own)
        refine ⟨t, Pool.alone_execute hexec halone, ?_⟩
        rw [hwritten]
        simp [runResponses, hresponse, Store.perform]

structure Clean (a : Arrival) (ctx : ConnectionContext) : Prop where
  reported : ctx.tokenlessResponseSaved = a.reported
  pre : (ctx.compressionStats.getD {}).proxyResPre = 0
  post : (ctx.compressionStats.getD {}).proxyResPost = 0

theorem Clean.record {a : Arrival} {ctx : ConnectionContext} (h : Clean a ctx) (env : RecordEnv) (json : Json) :
    (record env ctx json).responseSavedTokens = a.reported.toInt64 := by
  have hzero : (ctx.compressionStats.getD {}).proxyResponseSaved = 0 := by
    rw [CompressionStats.proxyResponseSaved, h.pre, h.post]
    decide
  change (ctx.tokenlessResponseSaved + (ctx.compressionStats.getD {}).proxyResponseSaved).toInt64 = _
  rw [hzero, h.reported, UInt64.add_zero]

theorem prepareContext_clean (serde : Serde) (a : Arrival) (format : ApiFormat) :
    Clean a (prepareContext serde a.around a.inc.request.headers (a.inc.context format)) := by
  have hstats : (readTokenlessStats serde a.around.tokenlessTokens).proxyResPre = 0 ∧
      (readTokenlessStats serde a.around.tokenlessTokens).proxyResPost = 0 := by
    unfold readTokenlessStats
    split
    · exact ⟨rfl, rfl⟩
    · split_ifs
      · exact ⟨rfl, rfl⟩
      · split <;> exact ⟨rfl, rfl⟩
  simp only [prepareContext]
  cases hreport : (headerText a.inc.request.headers "x-claude-code-session-id").bind a.around.report with
  | none =>
    have hzero : a.reported = 0 := by rw [Arrival.reported, hreport]; rfl
    split_ifs
    · exact ⟨hzero.symm, hstats.1, hstats.2⟩
    · exact ⟨hzero.symm, rfl, rfl⟩
  | some acc =>
    have hacc : a.reported = acc.responseSaved := by rw [Arrival.reported, hreport]; rfl
    split_ifs
    · exact ⟨hacc.symm, hstats.1, hstats.2⟩
    · exact ⟨hacc.symm, rfl, rfl⟩

theorem forwarded_clean {inst : Installation} {s : ProxyState} {a : Arrival} {f : Forwarded}
    (h : (handleProxyRequest inst.serde inst.middlewares a.around a.upstream a.maxBodySize s a.inc).forwarded =
      some f) : Clean a f.ctx := by
  obtain ⟨format, s', -, hchain, -⟩ := handle_forwarded inst.serde inst.middlewares a.around a.upstream h
  have hok := congrArg Prod.fst hchain
  obtain ⟨hsaved, -⟩ := requestChain_frame hok
  obtain ⟨hpre, hpost⟩ := requestChain_responseCounts hok
  have hclean := prepareContext_clean inst.serde a format
  exact ⟨hsaved.2.2.1.trans hclean.reported, hpre.trans hclean.pre, hpost.trans hclean.post⟩

def Task.Clean : Task → Prop
  | .responding a ctx _ _ _ => ResponseSavings.Clean a ctx
  | _ => True

structure Inv (s : Pool.State Store Task) : Prop where
  active : ∀ i task, s.active i = some task → task.Clean
  written : ∀ w ∈ s.store.written, w.record.responseSavedTokens = w.arrival.reported.toInt64

theorem execute_clean (inst : Installation) {s : Store} {task : Task} (h : task.Clean)
    (hs : ∀ w ∈ s.written, w.record.responseSavedTokens = w.arrival.reported.toInt64) :
    (∀ next, (execute inst s task).2 = some next → next.Clean) ∧
      ∀ w ∈ (execute inst s task).1.written, w.record.responseSavedTokens = w.arrival.reported.toInt64 := by
  cases task with
  | setEnabled enabled => exact ⟨fun _ hnone => (by cases hnone), hs⟩
  | requested a =>
    refine ⟨fun next hnext => ?_, hs⟩
    simp only [execute] at hnext
    split at hnext
    · cases hnext
    · rename_i f hf
      split at hnext
      · split at hnext
        · cases hnext
        · cases hnext
          exact @forwarded_clean { inst with now := a.now, month := a.month } _ _ _ hf
      · cases hnext
  | responding a ctx rest res own =>
    cases rest with
    | nil =>
      simp only [execute]
      split
      · refine ⟨fun _ hnone => (by cases hnone), fun w hw => ?_⟩
        obtain hw | hw := List.mem_append.mp hw
        · exact hs w hw
        · rw [List.mem_singleton.mp hw]
          exact Clean.record h a.env _
      · exact ⟨fun _ hnone => (by cases hnone), hs⟩
    | cons mw rest =>
      simp only [execute]
      split
      · refine ⟨fun next hnext => ?_, hs⟩
        cases hnext
        exact h
      · exact ⟨fun _ hnone => (by cases hnone), hs⟩

theorem step_inv {inst : Installation} {s t : Pool.State Store Task} {e : Pool.Event Call} (hs : Inv s)
    (h : step inst s e = some t) : Inv t := by
  obtain ⟨i, call, rfl, -, rfl⟩ | ⟨i, task, rfl, htask, rfl⟩ := Pool.step_cases h
  · refine ⟨fun j next hnext => ?_, hs.written⟩
    obtain ⟨-, hnext⟩ | ⟨-, hnext⟩ := Pool.update_eq_some hnext
    · cases hnext
      cases call <;> trivial
    · exact hs.active j next hnext
  · obtain ⟨hactive, hwritten⟩ := execute_clean inst (hs.active i task htask) hs.written
    refine ⟨fun j next hnext => ?_, hwritten⟩
    obtain ⟨-, hnext⟩ | ⟨-, hnext⟩ := Pool.update_eq_some hnext
    · exact hactive next hnext
    · exact hs.active j next hnext

theorem run_inv {inst : Installation} {proxy : ProxyState} {es : List (Pool.Event Call)} {t : Pool.State Store Task}
    (h : run (step inst) (.idle { proxy }) es = some t) : Inv t := by
  refine run_invariant Inv (fun s e u hs _ hu => step_inv hs hu) ⟨?_, ?_⟩ (meets_of_forall (fun _ _ _ => trivial) _) h
  · intro i task htask
    cases htask
  · intro w hw
    cases hw

theorem toInt64_add_ne {a d : UInt64} (h : d ≠ 0) : a.toInt64 ≠ (a + d).toInt64 := by
  intro heq
  have hsame := congrArg Int64.toUInt64 heq
  rw [UInt64.toUInt64_toInt64, UInt64.toUInt64_toInt64] at hsame
  exact h (UInt64.add_eq_left.mp hsame.symm)

theorem response_savings_never_recorded (inst : Installation) (proxy : ProxyState) (es : List (Pool.Event Call))
    (t : Pool.State Store Task) (h : run (step inst) (.idle { proxy }) es = some t) (w : Written)
    (hw : w ∈ t.store.written) (stats : ResponseStats) (hown : w.own = some stats)
    (hshrunk : stats.postTokens < stats.preTokens) :
    w.record.responseSavedTokens = w.arrival.reported.toInt64 ∧ ¬ Attributed w := by
  have hrecord := (run_inv h).written w hw
  refine ⟨hrecord, fun hattr => ?_⟩
  have hne : stats.preTokens - stats.postTokens ≠ 0 := by
    intro hzero
    have hsub := congrArg UInt64.toNat hzero
    rw [UInt64.toNat_sub_of_le _ _ (UInt64.le_of_lt hshrunk), UInt64.toNat_zero] at hsub
    rw [UInt64.lt_iff_toNat_lt] at hshrunk
    omega
  exact toInt64_add_ne hne (hrecord.symm.trans (hattr stats hown hshrunk))

namespace Sample

def usage : Json := .obj [("prompt_tokens", .num (.posInt 10)), ("completion_tokens", .num (.posInt 5))]

def shrunk : Json := .obj [("model", .str "sonnet"), ("usage", usage)]

def answer : Json := .obj [("model", .str "sonnet"), ("usage", usage), ("debug", .str "cache miss")]

def dropDebug : Json → Json
  | .obj fields => .obj (fields.filter fun field => field.1 ≠ "debug")
  | v => v

def serde : Serde :=
  { Router.Sample.serde with value := (AgentProxy.Sample.serdeOn [Router.Sample.requestBody, answer, shrunk]).value }

def installation : Installation := { Server.Sample.installation with serde, compressors := ⟨id, dropDebug⟩ }

def proxy : ProxyState := ⟨Router.fromStorage serde (Router.Sample.database "deepseek" "deepseek" "sk"), true⟩

def arrival : Arrival where
  inc := Server.Sample.incoming
  around := Server.Sample.around
  upstream _ := .answered .ok [] (.ok (.utf8 (AgentProxy.Sample.compact answer)))
  maxBodySize := 1024
  now := 0
  month := 0
  env := ⟨"unknown", "r1", 0, ""⟩

def events : List (Pool.Event Call) := .start 0 (.request arrival) :: List.replicate 6 (.statement 0)

end Sample

theorem response_savings_lost_sample : ∃ t w stats,
    run (step Sample.installation) (.idle { proxy := Sample.proxy }) Sample.events = some t ∧
      w ∈ t.store.written ∧ w.own = some stats ∧ stats.postTokens < stats.preTokens ∧
      w.record.responseSavedTokens = w.arrival.reported.toInt64 := by
  refine ⟨_, _, _, rfl, .head _, rfl, by decide +kernel, ?_⟩
  exact (response_savings_never_recorded Sample.installation Sample.proxy Sample.events _ rfl _ (.head _) _ rfl
    (by decide +kernel)).1

theorem shrunk_response_not_attributed : ∃ t w,
    run (step Sample.installation) (.idle { proxy := Sample.proxy }) Sample.events = some t ∧
      w ∈ t.store.written ∧ ¬ Attributed w := by
  refine ⟨_, _, rfl, .head _, fun h => ?_⟩
  exact absurd (h _ rfl (by decide +kernel)) (by decide +kernel)

end AgentProxy.Cost.ResponseSavings
