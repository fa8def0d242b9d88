import AgentProxy.Server.Handler

namespace AgentProxy.Server.ToolSnapshots

open Text

def toolName (tool : Json) : String := ((tool.get "name").bind Json.asStr).getD "?"

def toolDescription (tool : Json) : String := ((tool.get "description").bind Json.asStr).getD ""

def propCount (tool : Json) : ℕ :=
  ((((tool.get "input_schema").bind fun schema => schema.get "properties").bind Json.asObject).map List.length).getD 0

/-- `none` where slicing panics, here and in what is built from it. -/
def descShort (desc : String) : Option String :=
  if 400 < byteLen desc.toList then
    (sliceTo 400 desc.toList).map fun start =>
      String.ofList start ++ "...(" ++ toString (byteLen desc.toList) ++ " chars)"
  else some desc

def snapshotItem (tool : Json) : Option Json :=
  (descShort (toolDescription tool)).map fun desc =>
    .obj [("name", .str (toolName tool)), ("desc", .str desc),
      ("props", .num (.posInt (UInt64.ofNat (propCount tool))))]

def abbreviateToolsForLog (serde : Serde) (tools : List Json) : Option String :=
  (tools.mapM snapshotItem).map fun items => serde.valueToString (.arr items)

structure DebugEntry where
  toolsCount : ℕ
  preTokens : UInt64
  postTokens : UInt64
  saved : UInt64
  before : String
  after : String

/-- The request and the context as `on_request` leaves them, with the entry `EXT_STATS_RECORD` it inserts. -/
structure Outcome where
  req : ProxyRequest
  ctx : ConnectionContext
  statsRecord : Option Json := none
  logged : Option DebugEntry := none

def orPanic {α : Type} : Option α → Except Abort α
  | some a => .ok a
  | none => .error .panic

/-- `a + b` on `u64`, which panics on overflow in a build with overflow checks and wraps in one without. -/
def addU64 (checks : Bool) (a b : UInt64) : Except Abort UInt64 :=
  if checks = true ∧ 2 ^ 64 ≤ a.toNat + b.toNat then .error .panic else .ok (a + b)

section

variable (serde : Serde) (compressors : Compressors) (checks enabled : Bool) (req : ProxyRequest)
  (ctx : ConnectionContext)

def recordCompression (tools : List Json) (before after : String) (req' : ProxyRequest) : Except Abort Outcome := do
  let preTokens := countTokens req.body
  let postTokens := countTokens req'.body
  let saved := saturatingSub preTokens postTokens
  let stats := ctx.compressionStats.getD {}
  let inputTokens ← addU64 checks preTokens stats.tokenlessPost
  .ok
    { req := req'
      ctx := { ctx with compressionStats := some { stats with proxyReqPre := preTokens, proxyReqPost := postTokens } }
      statsRecord := some (.obj
        [("input_tokens", .num (.posInt inputTokens)), ("output_tokens", .num (.posInt postTokens))])
      logged := some ⟨tools.length, preTokens, postTokens, saved, before, after⟩ }

def onRequest : Except Abort Outcome :=
  if enabled = false then .ok { req, ctx }
  else
    match serde.fromSlice req.body with
    | .error e => .error (.error (.badRequest ("invalid JSON: " ++ e)))
    | .ok body =>
      match (body.get "tools").bind Json.asArray with
      | none => .ok { req, ctx }
      | some tools => do
        let before ← orPanic (abbreviateToolsForLog serde tools)
        if (compressTools compressors tools).2 = false then .ok { req, ctx }
        else
          let after ← orPanic (abbreviateToolsForLog serde (compressTools compressors tools).1)
          recordCompression checks req ctx tools before after
            (req.withJson serde (body.replace "tools" (.arr (compressTools compressors tools).1)))

end

theorem sliceTo_isSome {n : ℕ} {s : List Char} : (sliceTo n s).isSome ↔ n ≤ byteLen s ∧ ¬ Straddles n s := by
  rw [← exists_cut_iff, sliceTo, List.find?_isSome]
  constructor
  · rintro ⟨p, hp, hlen⟩
    obtain ⟨i, -, rfl⟩ := List.mem_map.mp hp
    exact ⟨s.take i, List.take_prefix i s, of_decide_eq_true hlen⟩
  · rintro ⟨p, hp, hlen⟩
    have htake := List.prefix_iff_eq_take.mp hp
    have hlength : p.length < s.length + 1 := Nat.lt_succ_of_le hp.length_le
    exact ⟨p, List.mem_map.mpr ⟨p.length, List.mem_range.mpr hlength, htake.symm⟩, decide_eq_true hlen⟩

theorem descShort_isSome (desc : String) : (descShort desc).isSome ↔ ¬ Straddles 400 desc.toList := by
  unfold descShort
  split
  next hlong =>
    rw [Option.isSome_map, sliceTo_isSome]
    exact and_iff_right hlong.le
  next hshort =>
    simp only [Option.isSome_some, true_iff]
    intro hcut
    exact hshort (straddles_lt_byteLen hcut)

theorem mapM_isSome {α β : Type} (f : α → Option β) (xs : List α) :
    (xs.mapM f).isSome = xs.all fun x => (f x).isSome := by
  induction xs with
  | nil => rfl
  | cons x xs ih =>
    rw [List.mapM_cons, List.all_cons, ← ih]
    cases f x with
    | none => rfl
    | some y => cases xs.mapM f <;> rfl

theorem abbreviateToolsForLog_isSome (serde : Serde) (tools : List Json) :
    (abbreviateToolsForLog serde tools).isSome ↔ ∀ tool ∈ tools, ¬ Straddles 400 (toolDescription tool).toList := by
  rw [abbreviateToolsForLog, Option.isSome_map, mapM_isSome, List.all_eq_true]
  apply forall₂_congr
  intro tool _
  rw [snapshotItem, Option.isSome_map, descShort_isSome]

/-- No description is cut inside a character, before compression or after it, and the counts fit. -/
structure Harmless (compressors : Compressors) (checks : Bool) (req : ProxyRequest) (ctx : ConnectionContext)
    (tools : List Json) : Prop where
  before : ∀ tool ∈ tools, ¬ Straddles 400 (toolDescription tool).toList
  after : ∀ tool ∈ tools, compressors.schema tool != tool →
    ¬ Straddles 400 (toolDescription (compressors.schema tool)).toList
  counts : checks = true → (∃ tool ∈ tools, compressors.schema tool != tool) →
    (countTokens req.body).toNat + (ctx.compressionStats.getD {}).tokenlessPost.toNat < 2 ^ 64

theorem orPanic_panics {α : Type} {x : Option α} : orPanic x = .error .panic ↔ x = none := by
  cases x <;> simp [orPanic]

theorem bind_panics {α β : Type} {x : Except Abort α} {f : α → Except Abort β} :
    (x >>= f) = .error .panic ↔ x = .error .panic ∨ ∃ a, x = .ok a ∧ f a = .error .panic := by
  cases x with
  | error e => simp [bind, Except.bind]
  | ok a => simp [bind, Except.bind]

theorem addU64_panics {checks : Bool} {a b : UInt64} :
    addU64 checks a b = .error .panic ↔ checks = true ∧ 2 ^ 64 ≤ a.toNat + b.toNat := by
  unfold addU64
  split
  next h => exact iff_of_true rfl h
  next h => exact iff_of_false (by simp) h

section

variable (serde : Serde) (compressors : Compressors) (checks enabled : Bool) (req : ProxyRequest)
  (ctx : ConnectionContext)

theorem recordCompression_panics (tools : List Json) (before after : String) (req' : ProxyRequest) :
    recordCompression checks req ctx tools before after req' = .error .panic ↔
      checks = true ∧
        2 ^ 64 ≤ (countTokens req.body).toNat + (ctx.compressionStats.getD {}).tokenlessPost.toNat := by
  unfold recordCompression
  rw [bind_panics, addU64_panics]
  simp

theorem compressTools_changed {tools : List Json} :
    (compressTools compressors tools).2 = true ↔ ∃ tool ∈ tools, compressors.schema tool != tool :=
  List.any_eq_true

theorem forall_compressTools {tools : List Json} {P : Json → Prop} (hbefore : ∀ tool ∈ tools, P tool) :
    (∀ tool ∈ (compressTools compressors tools).1, P tool) ↔
      ∀ tool ∈ tools, compressors.schema tool != tool → P (compressors.schema tool) := by
  simp only [compressTools, List.forall_mem_map]
  apply forall₂_congr
  intro tool htool
  by_cases hchanged : (compressors.schema tool != tool) = true
  · rw [if_pos hchanged]
    exact (imp_iff_right hchanged).symm
  · rw [if_neg hchanged]
    exact iff_of_true (hbefore tool htool) fun h => absurd h hchanged

theorem harmless_iff (tools : List Json) :
    Harmless compressors checks req ctx tools ↔
      (abbreviateToolsForLog serde tools).isSome ∧ ((compressTools compressors tools).2 = true →
        (abbreviateToolsForLog serde (compressTools compressors tools).1).isSome ∧
          ¬ (checks = true ∧
            2 ^ 64 ≤ (countTokens req.body).toNat + (ctx.compressionStats.getD {}).tokenlessPost.toNat)) := by
  rw [abbreviateToolsForLog_isSome, abbreviateToolsForLog_isSome, compressTools_changed]
  constructor
  · intro h
    refine ⟨h.before, fun hchanged => ⟨(forall_compressTools compressors h.before).mpr h.after, ?_⟩⟩
    rintro ⟨hchecks, hover⟩
    exact absurd (h.counts hchecks hchanged) (Nat.not_lt.mpr hover)
  · rintro ⟨hbefore, hrest⟩
    constructor
    · exact hbefore
    · intro tool htool hchanged
      exact (forall_compressTools compressors hbefore).mp (hrest ⟨tool, htool, hchanged⟩).1 tool htool hchanged
    · intro hchecks hchanged
      by_contra hover
      exact (hrest hchanged).2 ⟨hchecks, Nat.not_lt.mp hover⟩

theorem onRequest_tools {body : Json} {tools : List Json} (hbody : serde.fromSlice req.body = .ok body)
    (htools : (body.get "tools").bind Json.asArray = some tools) :
    onRequest serde compressors checks true req ctx = .error .panic ↔
      ¬ Harmless compressors checks req ctx tools := by
  rw [harmless_iff serde]
  simp only [onRequest, hbody, htools, Bool.true_eq_false, if_false]
  rw [bind_panics, orPanic_panics]
  cases hbefore : abbreviateToolsForLog serde tools with
  | none => simp
  | some before =>
    cases hchanged : (compressTools compressors tools).2 with
    | false => simp [orPanic]
    | true =>
      cases hafter : abbreviateToolsForLog serde (compressTools compressors tools).1 with
      | none => simp [orPanic, bind, Except.bind]
      | some after => simp [orPanic, bind, Except.bind, recordCompression_panics]

theorem onRequest_panic_inv (h : onRequest serde compressors checks true req ctx = .error .panic) :
    ∃ body tools, serde.fromSlice req.body = .ok body ∧ (body.get "tools").bind Json.asArray = some tools := by
  simp only [onRequest, Bool.true_eq_false, if_false] at h
  cases hbody : serde.fromSlice req.body with
  | error e => simp [hbody] at h
  | ok body =>
    cases htools : (body.get "tools").bind Json.asArray with
    | none => simp [hbody, htools] at h
    | some tools => exact ⟨body, tools, rfl, htools⟩

theorem onRequest_panics :
    onRequest serde compressors checks enabled req ctx = .error .panic ↔
      enabled = true ∧ ∃ body tools, serde.fromSlice req.body = .ok body ∧
        (body.get "tools").bind Json.asArray = some tools ∧ ¬ Harmless compressors checks req ctx tools := by
  constructor
  · intro hpanic
    cases enabled with
    | false => simp [onRequest] at hpanic
    | true =>
      obtain ⟨body, tools, hbody, htools⟩ := onRequest_panic_inv serde compressors checks req ctx hpanic
      have hharm := (onRequest_tools serde compressors checks req ctx hbody htools).mp hpanic
      exact ⟨rfl, body, tools, hbody, htools, hharm⟩
  · rintro ⟨rfl, body, tools, hbody, htools, hharm⟩
    exact (onRequest_tools serde compressors checks req ctx hbody htools).mpr hharm

theorem compress_panic_free_iff :
    onRequest serde compressors checks enabled req ctx ≠ .error .panic ↔
      (enabled = true → ∀ body tools, serde.fromSlice req.body = .ok body →
        (body.get "tools").bind Json.asArray = some tools → Harmless compressors checks req ctx tools) := by
  rw [Ne, onRequest_panics]
  push Not
  rfl

theorem snapshotItem_isSome (tool : Json) : (snapshotItem tool).isSome = abbreviates tool := by
  rw [snapshotItem, Option.isSome_map, descShort, abbreviates]
  by_cases hlong : 400 < byteLen (toolDescription tool).toList
  · rw [if_pos hlong, Option.isSome_map]
    simp only [toolDescription] at hlong ⊢
    simp [Nat.not_le.mpr hlong]
  · rw [if_neg hlong]
    simp only [toolDescription] at hlong
    simp [Nat.not_lt.mp hlong]

theorem abbreviateToolsForLog_refines (tools : List Json) :
    (abbreviateToolsForLog serde tools).isSome = Server.abbreviateToolsForLog tools := by
  simp only [abbreviateToolsForLog, Option.isSome_map, mapM_isSome, snapshotItem_isSome, Server.abbreviateToolsForLog]

/-- The request chain runs this, without the log entry and the record it leaves in the context. -/
theorem onRequest_refines :
    (onRequest serde compressors false enabled req ctx).map (fun out => (out.req, out.ctx)) =
      if enabled then compressOnRequest serde compressors req ctx else .ok (req, ctx) := by
  cases enabled with
  | false => rfl
  | true =>
    simp only [onRequest, compressOnRequest, Bool.true_eq_false, if_false, if_true]
    cases serde.fromSlice req.body with
    | error e => rfl
    | ok body =>
      dsimp only
      cases (body.get "tools").bind Json.asArray with
      | none => rfl
      | some tools =>
        dsimp only
        rw [← abbreviateToolsForLog_refines serde tools, ← abbreviateToolsForLog_refines serde]
        cases abbreviateToolsForLog serde tools with
        | none => rfl
        | some before =>
          cases hchanged : (compressTools compressors tools).2 with
          | false => rfl
          | true =>
            cases abbreviateToolsForLog serde (compressTools compressors tools).1 with
            | none => rfl
            | some after => rfl

end

theorem serdeOn_fromSlice (v : Json) :
    (AgentProxy.Sample.serdeOn [v]).fromSlice (.utf8 (AgentProxy.Sample.compact v)) = .ok v := by
  simp [Serde.fromSlice, AgentProxy.Sample.serdeOn]

namespace Sample

def description : String := String.ofList (List.replicate 134 '三')

def tool : Json := .obj [("name", .str "search"), ("description", .str description)]

def body : Json := .obj [("model", .str "claude"), ("tools", .arr [tool])]

def incoming : Incoming := ⟨⟨"POST", "/v1/messages", [], .utf8 (AgentProxy.Sample.compact body)⟩, none, 1, 0⟩

theorem description_straddles : Straddles 400 (toolDescription tool).toList := by
  have hsize : '三'.utf8Size = 3 := by decide
  have hlen : byteLen (List.replicate 133 '三') = 399 := by simp [byteLen, hsize]
  refine ⟨List.replicate 133 '三', '三', [], ?_, by omega, by omega⟩
  rw [← List.replicate_succ']
  exact String.toList_ofList

end Sample

theorem multibyte_description_panics :
    onRequest (AgentProxy.Sample.serdeOn [Sample.body]) ⟨id, id⟩ false true Sample.incoming.request
      (Sample.incoming.context .anthropicMessages) = .error .panic := by
  apply (onRequest_panics _ _ _ _ _ _).mpr
  refine ⟨rfl, Sample.body, [Sample.tool], serdeOn_fromSlice Sample.body, rfl, ?_⟩
  intro h
  exact h.before Sample.tool List.mem_cons_self Sample.description_straddles

section

variable {σ ω : Type}

theorem runOnRequestChain_ne_panic {middlewares : List (Middleware σ ω)}
    (h : ∀ mw ∈ middlewares, ∀ s req ctx, (mw.onRequest s req ctx).1 ≠ .error .panic) (s : σ) (req : ProxyRequest)
    (ctx : ConnectionContext) : (runOnRequestChain middlewares s req ctx).1 ≠ .error .panic := by
  induction middlewares generalizing s req ctx with
  | nil => simp [runOnRequestChain]
  | cons mw rest ih =>
    have hmw := h mw List.mem_cons_self s req ctx
    rw [runOnRequestChain]
    split
    next req' ctx' s' hout => exact ih (fun mw' hmem => h mw' (List.mem_cons_of_mem _ hmem)) s' req' ctx'
    next e s' hout =>
      rw [hout] at hmw
      exact hmw

theorem runOnRequestChain_panics {mw : Middleware σ ω} {rest : List (Middleware σ ω)}
    (h : ∀ mw' ∈ rest, ∀ s req ctx, (mw'.onRequest s req ctx).1 ≠ .error .panic) (s : σ) (req : ProxyRequest)
    (ctx : ConnectionContext) :
    (runOnRequestChain (mw :: rest) s req ctx).1 = .error .panic ↔ (mw.onRequest s req ctx).1 = .error .panic := by
  rw [runOnRequestChain]
  split
  next req' ctx' s' hout =>
    rw [hout]
    exact iff_of_false (runOnRequestChain_ne_panic h s' req' ctx') (by simp)
  next e s' hout => rw [hout]

theorem mapError_ne_panic {α : Type} (x : Except ProxyError α) : x.mapError Abort.error ≠ .error .panic := by
  cases x <;> simp [Except.mapError]

theorem map_panics {α β : Type} {f : α → β} {x : Except Abort α} : x.map f = .error .panic ↔ x = .error .panic := by
  cases x <;> simp [Except.map]

theorem handleOutcome_not_aborted (serde : Serde) (middlewares : List (Middleware σ ω)) (s : σ)
    (ctx : ConnectionContext) (req : ProxyRequest) (outcome : UpstreamOutcome) :
    (handleOutcome serde middlewares s ctx req outcome).reply ≠ .aborted := by
  have hresponse (readError : String) (streaming : Bool) (costBody : Body → Option Json) (status : StatusCode)
      (headers : HeaderMap) (body : Except String Body) :
      (handleResponse middlewares s ctx readError streaming costBody status headers body).reply ≠ .aborted := by
    unfold handleResponse
    split
    · simp
    · split <;> simp
  cases outcome with
  | failed e => simp [handleOutcome]
  | answered status headers body =>
    simp only [handleOutcome]
    split
    · exact hresponse _ _ _ _ _ _
    · exact hresponse _ _ _ _ _ _

theorem proxy_aborted (serde : Serde) (middlewares : List (Middleware σ ω)) (upstream : Outgoing → UpstreamOutcome)
    (s : σ) (req : ProxyRequest) (ctx : ConnectionContext) :
    (proxy serde middlewares upstream s req ctx).phase.reply = .aborted ↔
      (runOnRequestChain middlewares s req ctx).1 = .error .panic := by
  unfold proxy
  split
  next e s' hrun => simp [hrun]
  next s' hrun => simp [hrun]
  next req' ctx' s' hrun =>
    rw [hrun]
    split
    · simp
    · exact iff_of_false (handleOutcome_not_aborted _ _ _ _ _ _) (by simp)

end

theorem others_panic_free (inst : Installation) :
    ∀ mw ∈ [modelAlias inst.serde inst.aliasMap, inst.modelRouter, inst.bridge], ∀ s req ctx,
      (mw.onRequest s req ctx).1 ≠ .error .panic := by
  simp only [List.forall_mem_cons]
  refine ⟨fun s req ctx => ?_, fun s req ctx => ?_, fun s req ctx => ?_, fun mw hmw => absurd hmw List.not_mem_nil⟩
  · rw [modelAlias, Ne, map_panics]
    exact mapError_ne_panic _
  · exact mapError_ne_panic _
  · exact mapError_ne_panic _

theorem proxy_aborted_iff (inst : Installation) (upstream : Outgoing → UpstreamOutcome) (s : ProxyState)
    (req : ProxyRequest) (ctx : ConnectionContext) :
    (proxy inst.serde inst.middlewares upstream s req ctx).phase.reply = .aborted ↔
      s.compressEnabled = true ∧ ∃ body tools, inst.serde.fromSlice req.body = .ok body ∧
        (body.get "tools").bind Json.asArray = some tools ∧ ¬ Harmless inst.compressors false req ctx tools := by
  rw [proxy_aborted, Installation.middlewares, runOnRequestChain_panics (others_panic_free inst)]
  simp only [Installation.compress]
  rw [← onRequest_refines, map_panics, onRequest_panics]

end AgentProxy.Server.ToolSnapshots
