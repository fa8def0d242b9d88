import AgentProxy.Lib.Projection
import AgentProxy.Server.Bookkeeping
import AgentProxy.Storage.CostGroups

namespace AgentProxy.Server.Ledger

open Cost Storage Transition

/-- The proxy, the requests that are with an upstream, and the table of cost records. -/
structure State where
  proxy : ProxyState
  pending : List Forwarded
  records : Table CostRecord.id

inductive Event where
  | arrive (now month : ℕ) (around : Surroundings) (upstream : Outgoing → UpstreamOutcome) (inc : Incoming)
  | answer (now month i : ℕ) (env : RecordEnv)
  | change (proxy : ProxyState)

def routerOps (ops : List SharedOp) : List Router.RouterOp :=
  ops.filterMap fun
    | .router op => some op
    | .responseStats _ => none

/-- A record that cannot be inserted is only logged. -/
def book (records : Table CostRecord.id) : Option CostRecord → Table CostRecord.id
  | none => records
  | some r =>
    match insertCostRecord records r with
    | .ok records' => records'
    | .error _ => records

section

variable (inst : Installation) (maxBodySize : ℕ)

def received (s : State) (now month : ℕ) (around : Surroundings) (upstream : Outgoing → UpstreamOutcome)
    (inc : Incoming) : Handled ProxyState SharedOp :=
  let inst := { inst with now, month }
  handleProxyRequest inst.serde inst.middlewares around upstream maxBodySize s.proxy inc

def phaseOf (s : State) (f : Forwarded) : ResponsePhase SharedOp :=
  handleOutcome inst.serde inst.middlewares s.proxy f.ctx f.req f.outcome

def step (s : State) : Event → Option State
  | .arrive now month around upstream inc =>
    let handled := received inst maxBodySize s now month around upstream inc
    some { s with proxy := handled.state, pending := s.pending ++ handled.forwarded.toList }
  | .answer now month i env =>
    s.pending[i]?.map fun f =>
      let phase := phaseOf inst s f
      { proxy := { s.proxy with router := Router.performAll now month s.proxy.router (routerOps phase.ops) }
        pending := s.pending.eraseIdx i
        records := book s.records (phase.costBody.map (record env f.ctx)) }
  | .change proxy => some { s with proxy }

def start (proxy : ProxyState) (records : Table CostRecord.id) : State := ⟨proxy, [], records⟩

def sent (s : State) : Event → Option Forwarded
  | .arrive now month around upstream inc => (received inst maxBodySize s now month around upstream inc).forwarded
  | _ => none

def answered (s : State) : Event → Option Forwarded
  | .answer _ _ i _ => s.pending[i]?
  | _ => none

/-- The usage in a reply: what the events of a stream report, or the body if it is JSON. -/
def billedUsage (req : ProxyRequest) (body : Body) : Option Json :=
  if req.isStreaming inst.serde then some (extractUsageFromSse inst.serde body) else (inst.serde.fromSlice body).toOption

def bill (s : State) : Event → Option CostRecord
  | .answer _ _ i env =>
    s.pending[i]?.bind fun f =>
      match (phaseOf inst s f).reply with
      | .response res => (billedUsage inst f.req res.body).map (record env f.ctx)
      | _ => none
  | _ => none

def bills (s : State) (es : List Event) : List CostRecord := opsAlong (step inst maxBodySize) (bill inst) s es

end

def FreshId (s : State) : Event → Prop
  | .answer _ _ _ env => ∀ r ∈ s.records.rows, r.id ≠ env.id
  | _ => True

structure Totals (groups : List Group) (bills : List CostRecord) : Prop where
  cost : (groups.map (·.row.totalActualCost)).sum = (bills.map (·.cost)).sum
  requests : (groups.map (·.row.requestCount)).sum = bills.length
  input : (groups.map (·.row.totalInputTokens.toInt)).sum = (bills.map (·.inputTokens.toInt)).sum
  output : (groups.map (·.row.totalOutputTokens.toInt)).sum = (bills.map (·.outputTokens.toInt)).sum
  saved : (groups.map (·.row.totalCompressionTokensSaved.toInt)).sum =
    (bills.map (·.compressionTokensSaved.toInt)).sum

structure Booked (inst : Installation) (maxBodySize : ℕ) (s : State) (es : List Event) (u : State) : Prop where
  once : (s.pending ++ opsAlong (step inst maxBodySize) (sent inst maxBodySize) s es).Perm
    (opsAlong (step inst maxBodySize) answered s es ++ u.pending)
  rows : u.records.rows = s.records.rows ++ bills inst maxBodySize s es
  reported : ∀ rfc3339 engine groupBy range groups, groupedCosts rfc3339 engine u.records groupBy range = .ok groups →
    Totals groups ((s.records.rows ++ bills inst maxBodySize s es).filter (inRange rfc3339 range))

section

variable {inst : Installation} {maxBodySize : ℕ} {s t u : State} {e : Event} {es : List Event}

theorem handleResponse_costBody (s : ProxyState) (ctx : ConnectionContext) (readError : String) (streaming : Bool)
    (costBody : Body → Option Json) (status : StatusCode) (headers : HeaderMap) (body : Except String Body) :
    (handleResponse inst.middlewares s ctx readError streaming costBody status headers body).costBody =
      match (handleResponse inst.middlewares s ctx readError streaming costBody status headers body).reply with
      | .response res => costBody res.body
      | _ => none := by
  unfold handleResponse
  cases body with
  | error e => rfl
  | ok bytes =>
    dsimp only
    split
    · rfl
    · rfl

theorem phaseOf_costBody (s : State) (f : Forwarded) : (phaseOf inst s f).costBody =
    match (phaseOf inst s f).reply with
    | .response res => billedUsage inst f.req res.body
    | _ => none := by
  unfold phaseOf billedUsage handleOutcome
  cases f.outcome with
  | failed e => rfl
  | answered status headers body =>
    dsimp only
    cases f.req.isStreaming inst.serde with
    | true =>
      simp only [if_true]
      exact handleResponse_costBody s.proxy f.ctx _ true _ status headers body
    | false =>
      simp only [Bool.false_eq_true, if_false]
      exact handleResponse_costBody s.proxy f.ctx _ false _ status headers body

theorem rows_book {records : Table CostRecord.id} {r : CostRecord} (h : ∀ r' ∈ records.rows, r'.id ≠ r.id) :
    (book records (some r)).rows = records.rows ++ [r] := by
  cases hinsert : records.insert? r with
  | none =>
    obtain ⟨r', hr', hid⟩ := Table.insert?_eq_none.mp hinsert
    exact absurd hid (h r' hr')
  | some records' =>
    simp only [book, insertCostRecord, hinsert]
    exact Table.rows_insert? hinsert

theorem step_bill (hfresh : FreshId s e) (h : step inst maxBodySize s e = some t) :
    t.records.rows = (bill inst s e).toList.foldl (fun rows r => rows ++ [r]) s.records.rows := by
  cases e with
  | arrive now month around upstream inc =>
    cases h
    rfl
  | change proxy =>
    cases h
    rfl
  | answer now month i env =>
    obtain ⟨f, hf, ht⟩ := Option.map_eq_some_iff.mp h
    have hbill : bill inst s (.answer now month i env) = (phaseOf inst s f).costBody.map (record env f.ctx) := by
      rw [phaseOf_costBody]
      simp only [bill, hf, Option.bind_some]
      split
      · rfl
      · rfl
    have hrecords : t.records = book s.records ((phaseOf inst s f).costBody.map (record env f.ctx)) := by rw [← ht]
    rw [hrecords, hbill]
    cases (phaseOf inst s f).costBody with
    | none => rfl
    | some body => exact rows_book fun r' hr' => hfresh r' hr'

theorem step_conserved (h : step inst maxBodySize s e = some t) :
    (s.pending ++ (sent inst maxBodySize s e).toList).Perm ((answered s e).toList ++ t.pending) := by
  cases e with
  | arrive now month around upstream inc =>
    cases h
    rfl
  | change proxy =>
    cases h
    simp [sent, answered]
  | answer now month i env =>
    obtain ⟨f, hf, rfl⟩ := Option.map_eq_some_iff.mp h
    obtain ⟨hi, rfl⟩ := List.getElem?_eq_some_iff.mp hf
    simp only [sent, answered, hf, Option.toList_none, Option.toList_some, List.append_nil]
    exact (List.getElem_cons_eraseIdx_perm hi).symm

theorem groups_sum {μ : Type} [AddCommMonoid μ] {engine : Engine} {groupBy : CostGroupBy} {rows : List CostRecord}
    {total : CostAggregate → μ} {value : CostRecord → μ}
    (h : ∀ group ∈ labelledGroups engine groupBy rows, total group.row = (group.records.map value).sum) :
    ((labelledGroups engine groupBy rows).map fun group => total group.row).sum = (rows.map value).sum := by
  rw [List.map_congr_left h, ← ((labelledGroups_once engine groupBy rows).map value).sum_eq, List.map_flatMap,
    List.flatMap_def, List.sum_flatten, List.map_map]
  rfl

theorem reported_totals {rfc3339 : ℤ → String} {engine : Engine} {records : Table CostRecord.id}
    {groupBy : CostGroupBy} {range : TimeRange} {groups : List Group}
    (h : groupedCosts rfc3339 engine records groupBy range = .ok groups) :
    Totals groups (records.rows.filter (inRange rfc3339 range)) := by
  obtain ⟨hfit, rfl⟩ := groupedCosts_ok_iff.mp h
  have hperm : (scanned rfc3339 engine records range).Perm (records.rows.filter (inRange rfc3339 range)) :=
    engine.scan_perm _
  have hsummary : ∀ group ∈ labelledGroups engine groupBy (scanned rfc3339 engine records range),
      Summarises group.row group.records := by
    intro group hgroup
    obtain ⟨r, hr, rfl⟩ := mem_labelledGroups.mp hgroup
    exact summarises_aggregateRow (hfit _ (List.mem_map_of_mem (Grouping.mem_keys.mpr ⟨r, hr, rfl⟩)))
  constructor
  · rw [← (hperm.map _).sum_eq]
    exact groups_sum fun group hgroup => (hsummary group hgroup).cost
  · have hcount := @groups_sum ℕ _ engine groupBy (scanned rfc3339 engine records range) (·.requestCount) (fun _ => 1)
      fun group hgroup => by simp [(hsummary group hgroup).count]
    rw [hcount, ← hperm.length_eq]
    simp
  · rw [← (hperm.map _).sum_eq]
    exact @groups_sum ℤ _ engine groupBy _ (·.totalInputTokens.toInt) (·.inputTokens.toInt) fun group hgroup => (hsummary group hgroup).input
  · rw [← (hperm.map _).sum_eq]
    exact @groups_sum ℤ _ engine groupBy _ (·.totalOutputTokens.toInt) (·.outputTokens.toInt) fun group hgroup => (hsummary group hgroup).output
  · rw [← (hperm.map _).sum_eq]
    exact @groups_sum ℤ _ engine groupBy _ (·.totalCompressionTokensSaved.toInt) (·.compressionTokensSaved.toInt) fun group hgroup => (hsummary group hgroup).saved

theorem foldl_concat {α : Type} (xs ys : List α) : ys.foldl (fun rows r => rows ++ [r]) xs = xs ++ ys := by
  induction ys generalizing xs with
  | nil => exact (List.append_nil xs).symm
  | cons y ys ih => rw [List.foldl_cons, ih, List.append_assoc, List.singleton_append]

theorem ledger_exact (hfresh : Meets (step inst maxBodySize) FreshId s es)
    (h : run (step inst maxBodySize) s es = some u) : Booked inst maxBodySize s es u := by
  have hrows : u.records.rows = s.records.rows ++ bills inst maxBodySize s es := by
    rw [@run_view _ _ _ _ _ _ _ _ _ _ (fun s => s.records.rows) _
      (fun _ _ _ hfresh hstep => step_bill hfresh hstep) hfresh h]
    exact foldl_concat _ _
  constructor
  · exact run_conserved (fun _ _ _ hstep => step_conserved hstep) h
  · exact hrows
  · intro rfc3339 engine groupBy range groups hgroups
    rw [← hrows]
    exact reported_totals hgroups

end

namespace Sample

def started : State := start (Server.Sample.state "deepseek" "deepseek") .empty

def upstream (_ : Outgoing) : UpstreamOutcome :=
  .answered .ok [] (.ok (.utf8 (AgentProxy.Sample.compact Router.Sample.requestBody)))

def events : List Event :=
  [.arrive 0 0 Server.Sample.around upstream Server.Sample.incoming,
    .arrive 1 0 Server.Sample.around (fun _ => .failed (.connect "refused")) Server.Sample.incoming,
    .answer 2 0 1 ⟨"unknown", "r1", 2, "1970-01-01T00:00:00+00:00"⟩,
    .answer 3 0 0 ⟨"unknown", "r2", 3, "1970-01-01T00:00:00+00:00"⟩]

end Sample

theorem ledger_exact_one_answer : ∃ u, run (step Server.Sample.installation 1024) Sample.started Sample.events = some u ∧
    u.records.rows.map (·.id) = ["r2"] ∧
      Booked Server.Sample.installation 1024 Sample.started Sample.events u := by
  have hfresh : Meets (step Server.Sample.installation 1024) FreshId Sample.started Sample.events := by
    refine ⟨trivial, fun _ ht => ?_⟩
    cases ht
    refine ⟨trivial, fun _ ht => ?_⟩
    cases ht
    refine ⟨fun r hr => absurd hr List.not_mem_nil, fun _ ht => ?_⟩
    cases ht
    exact ⟨fun r hr => absurd hr List.not_mem_nil, fun _ _ => trivial⟩
  exact ⟨_, rfl, rfl, ledger_exact hfresh rfl⟩

end AgentProxy.Server.Ledger
