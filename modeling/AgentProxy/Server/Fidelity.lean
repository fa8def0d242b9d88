import AgentProxy.Server.Aliases
import AgentProxy.Server.ResponseHeaders
import Mathlib.Logic.Function.Iterate

namespace AgentProxy.Server

namespace Fidelity

open Json Router

mutual

def mapFloats (f : ℚ → ℚ) : Json → Json
  | .num (.float q) => .num (.float (f q))
  | .arr items => .arr (mapItems f items)
  | .obj fields => .obj (mapFields f fields)
  | v => v

def mapItems (f : ℚ → ℚ) : List Json → List Json
  | [] => []
  | v :: rest => mapFloats f v :: mapItems f rest

def mapFields (f : ℚ → ℚ) : List (String × Json) → List (String × Json)
  | [] => []
  | (k, v) :: rest => (k, mapFloats f v) :: mapFields f rest

end

def rereadFloat (serde : Serde) (q : ℚ) : ℚ :=
  match serde.value (serde.valueToString (.num (.float q))) with
  | .ok (.num (.float q')) => q'
  | _ => q

/-- What `serde_json` reads where it wrote `v`: a float may come back with another last digit. -/
def reread (serde : Serde) : Json → Json := mapFloats (rereadFloat serde)

def rereadTimes (serde : Serde) (n : ℕ) (v : Option Json) : Option Json := v.map (reread serde)^[n]

theorem rereadTimes_zero (serde : Serde) (v : Option Json) : rereadTimes serde 0 v = v := by
  cases v <;> rfl

theorem rereadTimes_add (serde : Serde) (m n : ℕ) (v : Option Json) :
    rereadTimes serde m (rereadTimes serde n v) = rereadTimes serde (m + n) v := by
  rw [rereadTimes, rereadTimes, rereadTimes, Option.map_map, Function.iterate_add]

theorem bind_rereadTimes {α : Type} {serde : Serde} {f : Json → Option α} (hf : ∀ v, f (reread serde v) = f v)
    (n : ℕ) (v : Option Json) : (rereadTimes serde n v).bind f = v.bind f := by
  cases v with
  | none => rfl
  | some v =>
    change f ((reread serde)^[n] v) = f v
    induction n with
    | zero => rfl
    | succ n ih => rw [Function.iterate_succ_apply', hf, ih]

theorem asStr_reread (serde : Serde) (v : Json) : (reread serde v).asStr = v.asStr := by
  unfold reread mapFloats
  split <;> rfl

theorem asBool_reread (serde : Serde) (v : Json) : (reread serde v).asBool = v.asBool := by
  unfold reread mapFloats
  split <;> rfl

theorem lookup_setField_of_ne {fields : List (String × Json)} {k k' : String} (v : Json) (h : k ≠ k') :
    (setField k' v fields).lookup k = fields.lookup k := by
  induction fields with
  | nil => rfl
  | cons field fields ih =>
    obtain ⟨name, value⟩ := field
    by_cases hname : name = k'
    · have hne : (k == name) = false := by simpa [hname] using h
      simp only [setField, hname, if_true, List.lookup_cons]
      rw [← hname, hne]
    · simp only [setField, hname, if_false, List.lookup_cons, ih]

theorem get_replace_of_ne {json : Json} {k k' : String} (v : Json) (h : k ≠ k') :
    (json.replace k' v).get k = json.get k := by
  cases json with
  | obj fields => exact lookup_setField_of_ne v h
  | _ => rfl

/-- What `serde_json` is asked to write: a document that it read, with its model or its tools replaced. -/
inductive Document (inst : Installation) : Json → Prop where
  | read {text : String} {v : Json} (h : inst.serde.value text = .ok v) : Document inst v
  | model {v : Json} (model : String) (h : Document inst v) : Document inst (v.replace "model" (.str model))
  | tools {v : Json} {tools : List Json} (h : Document inst v) (htools : (v.get "tools").bind asArray = some tools) :
    Document inst (v.replace "tools" (.arr (compressTools inst.compressors tools).1))

def Rereads (inst : Installation) : Prop :=
  ∀ v w, Document inst v → inst.serde.value (inst.serde.valueToString v) = .ok w →
    ∀ k, w.get k = (v.get k).map (reread inst.serde)

def aliased (aliasMap : String → Option String) (model : String) : String :=
  if model.isEmpty then model else (aliasMap model).getD model

def compressed (compressors : Compressors) (enabled : Bool) (tools : Option Json) : Option Json :=
  match tools with
  | some (.arr tools) => if enabled then some (.arr (compressTools compressors tools).1) else some (.arr tools)
  | other => other

/-- The document sent upstream is the client's, but for its model and its compressed tools. -/
structure Rewritten (inst : Installation) (s : ProxyState) (received sent : Json) (channel : ChannelConfig) : Prop where
  model : ∃ ch ∈ s.router.channels, ch.enabled = true ∧ ch.channelName = channel.name ∧ ∃ m ∈ ch.mappings,
    m.clientName = aliased inst.aliasMap (clientModel received) ∧ sent.get "model" = some (.str m.upstreamName)
  fields : ∃ n ≤ 3,
    sent.get "tools" =
        rereadTimes inst.serde n (compressed inst.compressors s.compressEnabled (received.get "tools")) ∧
      ∀ k, k ≠ "model" → k ≠ "tools" → sent.get k = rereadTimes inst.serde n (received.get k)

section

variable {inst : Installation} {s : ProxyState} {req req' : ProxyRequest} {ctx ctx' : ConnectionContext}
  {received sent : Json}

theorem fromSlice_ok {serde : Serde} {body : Body} {v : Json} (h : serde.fromSlice body = .ok v) :
    ∃ text, serde.value text = .ok v := by
  cases body with
  | utf8 text => exact ⟨text, h⟩
  | binary bytes => cases h

theorem document_read {body : Body} (h : inst.serde.fromSlice body = .ok received) : Document inst received := by
  obtain ⟨text, htext⟩ := fromSlice_ok h
  exact .read htext

theorem compressTools_unchanged {compressors : Compressors} {tools : List Json}
    (h : (compressTools compressors tools).2 = false) : (compressTools compressors tools).1 = tools := by
  simp only [compressTools, List.any_eq_false] at h ⊢
  conv => rhs; rw [← List.map_id tools]
  apply List.map_congr_left
  intro tool htool
  rw [if_neg (h tool htool)]
  rfl

theorem compress_rewrites (hserde : Rereads inst)
    (h : (if s.compressEnabled then compressOnRequest inst.serde inst.compressors req ctx else .ok (req, ctx)) =
      .ok (req', ctx')) (hreceived : inst.serde.fromSlice req.body = .ok received)
    (hsent : inst.serde.fromSlice req'.body = .ok sent) :
    ∃ n ≤ 1,
      sent.get "tools" =
          rereadTimes inst.serde n (compressed inst.compressors s.compressEnabled (received.get "tools")) ∧
        ∀ k, k ≠ "tools" → sent.get k = rereadTimes inst.serde n (received.get k) := by
  have hunchanged (hbody : req'.body = req.body)
      (hkept : compressed inst.compressors s.compressEnabled (received.get "tools") = received.get "tools") :
      ∃ n ≤ 1,
        sent.get "tools" =
            rereadTimes inst.serde n (compressed inst.compressors s.compressEnabled (received.get "tools")) ∧
          ∀ k, k ≠ "tools" → sent.get k = rereadTimes inst.serde n (received.get k) := by
    rw [hbody, hreceived] at hsent
    cases hsent
    refine ⟨0, Nat.zero_le _, ?_, fun k _ => (rereadTimes_zero _ _).symm⟩
    rw [hkept, rereadTimes_zero]
  cases henabled : s.compressEnabled with
  | false =>
    rw [henabled] at h hunchanged
    cases h
    apply hunchanged rfl
    unfold compressed
    split
    · rename_i htools
      exact htools.symm
    · rfl
  | true =>
    rw [henabled] at h hunchanged
    simp only [compressOnRequest, if_true, hreceived] at h
    cases htools : (received.get "tools").bind asArray with
    | none =>
      simp only [htools] at h
      cases h
      apply hunchanged rfl
      unfold compressed
      split
      · rename_i tools harr
        rw [harr] at htools
        cases htools
      · rfl
    | some tools =>
      have harr : received.get "tools" = some (.arr tools) := by
        obtain ⟨v, hv, hasArray⟩ := Option.bind_eq_some_iff.mp htools
        cases v with
        | arr items =>
          cases hasArray
          exact hv
        | _ => cases hasArray
      simp only [htools] at h
      split_ifs at h with hpanics hsame hpanics'
      · cases h
        apply hunchanged rfl
        rw [harr, compressed, if_pos rfl, compressTools_unchanged hsame]
      · cases h
        have hreread := hserde _ _ (.tools (document_read hreceived) htools) hsent
        refine ⟨1, le_refl _, ?_, ?_⟩
        · rw [hreread, Aliases.get_replace _ harr, harr]
          rfl
        · intro k hk
          rw [hreread, get_replace_of_ne _ hk]
          rfl

theorem clientModel_reread {v w : Json} {n : ℕ} (h : w.get "model" = rereadTimes inst.serde n (v.get "model")) :
    clientModel w = clientModel v := by
  rw [clientModel, clientModel, h, bind_rereadTimes (asStr_reread _)]

theorem alias_rewrites (hserde : Rereads inst) (h : aliasOnRequest inst.serde inst.aliasMap req = .ok req')
    (hreceived : inst.serde.fromSlice req.body = .ok received) (hsent : inst.serde.fromSlice req'.body = .ok sent) :
    clientModel sent = aliased inst.aliasMap (clientModel received) ∧
      ∃ n ≤ 1, ∀ k, k ≠ "model" → sent.get k = rereadTimes inst.serde n (received.get k) := by
  have hunchanged (hreq : req' = req) (hkept : aliased inst.aliasMap (clientModel received) = clientModel received) :
      clientModel sent = aliased inst.aliasMap (clientModel received) ∧
        ∃ n ≤ 1, ∀ k, k ≠ "model" → sent.get k = rereadTimes inst.serde n (received.get k) := by
    rw [hreq, hreceived] at hsent
    cases hsent
    exact ⟨hkept.symm, 0, Nat.zero_le _, fun k _ => (rereadTimes_zero _ _).symm⟩
  simp only [aliasOnRequest, hreceived] at h
  cases hmodel : (received.get "model").bind asStr with
  | none =>
    simp only [hmodel] at h
    cases h
    apply hunchanged rfl
    rw [clientModel, hmodel]
    rfl
  | some model =>
    have hclient : clientModel received = model := by rw [clientModel, hmodel, Option.getD_some]
    simp only [hmodel] at h
    rw [hclient] at hunchanged ⊢
    split_ifs at h with hempty
    · cases h
      exact hunchanged rfl (if_pos hempty)
    · rw [aliased, if_neg hempty] at hunchanged ⊢
      cases htarget : inst.aliasMap model with
      | none =>
        simp only [htarget] at h
        rw [htarget] at hunchanged
        cases h
        exact hunchanged rfl rfl
      | some target =>
        simp only [htarget] at h
        cases h
        have hreread := hserde _ _ (.model target (document_read hreceived)) hsent
        refine ⟨?_, 1, le_refl _, ?_⟩
        · rw [clientModel, hreread, Aliases.get_replace _ (Aliases.get_of_asStr hmodel)]
          rfl
        · intro k hk
          rw [hreread, get_replace_of_ne _ hk]
          rfl

theorem selectFor_reads {now month : ℕ} {r : RouterState} {c : Candidate} {serde : Serde} {body : Json}
    (h : (selectFor serde now month r req).1 = .ok (body, c)) :
    serde.fromSlice req.body = .ok body ∧ clientModel body ≠ "" ∧ c ∈ findCandidates r.channels (clientModel body) := by
  unfold selectFor at h
  cases hb : serde.fromSlice req.body with
  | error e => simp [hb] at h
  | ok v =>
    simp only [hb] at h
    split_ifs at h with hempty hnone
    split at h
    · rename_i d r' hs
      cases h
      refine ⟨rfl, fun hmodel => hempty (by rw [hmodel]; rfl), ?_⟩
      exact (selectChannel_usable (by rw [hs])).1
    · cases h

theorem mem_findCandidates_iff {channels : List ResolvedChannel} {model : String} {c : Candidate} :
    c ∈ findCandidates channels model ↔
      c.1 ∈ channels ∧ c.1.enabled = true ∧ c.2 ∈ c.1.mappings ∧ c.2.clientName = model := by
  simp only [findCandidates, List.mem_flatMap]
  constructor
  · rintro ⟨ch, hch, hc⟩
    split_ifs at hc with henabled
    · obtain ⟨m, hm, rfl⟩ := List.mem_map.mp hc
      obtain ⟨hmem, hname⟩ := List.mem_filter.mp hm
      exact ⟨hch, henabled, hmem, of_decide_eq_true hname⟩
    · cases hc
  · rintro ⟨hch, henabled, hmem, hname⟩
    refine ⟨c.1, hch, ?_⟩
    rw [if_pos henabled]
    exact List.mem_map.mpr ⟨c.2, List.mem_filter.mpr ⟨hmem, decide_eq_true hname⟩, rfl⟩

theorem get_of_clientModel {json : Json} (h : clientModel json ≠ "") : ∃ model, json.get "model" = some (.str model) := by
  cases hmodel : (json.get "model").bind asStr with
  | none =>
    rw [clientModel, hmodel] at h
    exact absurd rfl h
  | some model => exact ⟨model, Aliases.get_of_asStr hmodel⟩

theorem compress_reads
    (h : (if s.compressEnabled then compressOnRequest inst.serde inst.compressors req ctx else .ok (req, ctx)) =
      .ok (req', ctx')) (hsent : inst.serde.fromSlice req'.body = .ok sent) :
    ∃ received, inst.serde.fromSlice req.body = .ok received := by
  cases henabled : s.compressEnabled with
  | false =>
    rw [henabled] at h
    cases h
    exact ⟨sent, hsent⟩
  | true =>
    rw [henabled] at h
    cases hread : inst.serde.fromSlice req.body with
    | error e => simp [compressOnRequest, hread] at h
    | ok received => exact ⟨received, rfl⟩

theorem alias_reads (h : aliasOnRequest inst.serde inst.aliasMap req = .ok req') :
    ∃ received, inst.serde.fromSlice req.body = .ok received := by
  cases hread : inst.serde.fromSlice req.body with
  | error e => simp [aliasOnRequest, hread] at h
  | ok received => exact ⟨received, rfl⟩

theorem bridge_reads (h : (Bridge.onRequest inst.serde inst.core req ctx).2 = .ok (req', ctx')) :
    ∃ sent, inst.serde.fromSlice req.body = .ok sent := by
  cases hread : inst.serde.fromSlice req.body with
  | error e => simp [Bridge.onRequest, Bridge.validateInput, hread] at h
  | ok sent => exact ⟨sent, rfl⟩

theorem requestChain_rewrites (hserde : Rereads inst)
    (h : (runOnRequestChain inst.middlewares s req ctx).1 = .ok (req', ctx'))
    (hsame : ctx'.targetProtocol = ctx'.detectedFormat) {channel : ChannelConfig}
    (hchannel : ctx'.selectedChannel = some channel) :
    ∃ received sent, inst.serde.fromSlice req.body = .ok received ∧ inst.serde.fromSlice req'.body = .ok sent ∧
      Rewritten inst s received sent channel := by
  obtain ⟨req₁, ctx₁, req₂, req₃, ctx₃, hcompress, halias, hr, hb⟩ := requestChain_steps h
  obtain ⟨d₂, c, hselect, hroute⟩ := onRequest_ok inst.serde inst.now inst.month hr
  obtain ⟨hd₂, hmodel, hcandidate⟩ := selectFor_reads hselect
  obtain ⟨target₀, url, rewritePath, -, -, hreq₃, hctx₃⟩ := routeTo_ok inst.serde hroute
  obtain ⟨d₁, hd₁⟩ := alias_reads halias
  obtain ⟨received, hreceived⟩ := compress_reads hcompress hd₁
  obtain ⟨sent, hsent⟩ := bridge_reads hb
  obtain ⟨client, target, hclient, htarget, hcase⟩ := Bridge.onRequest_context hb
  have hkept : ctx'.targetProtocol = ctx₃.targetProtocol ∧ ctx'.detectedFormat = ctx₃.detectedFormat ∧
      ctx'.selectedChannel = ctx₃.selectedChannel := by
    obtain ⟨-, rfl⟩ | rfl := hcase
    · exact ⟨rfl, rfl, rfl⟩
    · exact ⟨rfl, rfl, rfl⟩
  have hreq' : req' = req₃ := by
    rw [hkept.1, hkept.2.1, hclient] at hsame
    exact Bridge.onRequest_same hclient hsame hb
  have hname : c.1.channelName = channel.name := by
    rw [hkept.2.2, hctx₃] at hchannel
    cases hchannel
    rfl
  obtain ⟨n₁, hn₁, htools₁, hothers₁⟩ := compress_rewrites hserde hcompress hreceived hd₁
  obtain ⟨hmodel₂, n₂, hn₂, hothers₂⟩ := alias_rewrites hserde halias hd₁ hd₂
  rw [hreq₃] at hsent
  have hreread := hserde _ _ (.model _ (document_read hd₂)) hsent
  have hothers : ∀ k, k ≠ "model" → sent.get k = rereadTimes inst.serde (1 + n₂) (d₁.get k) := by
    intro k hk
    rw [hreread, get_replace_of_ne _ hk, hothers₂ k hk, ← rereadTimes_add]
    rfl
  obtain ⟨hch, henabled, hm, hclientName⟩ := mem_findCandidates_iff.mp hcandidate
  refine ⟨received, sent, hreceived, hreq' ▸ hreq₃ ▸ hsent, ?_⟩
  constructor
  · refine ⟨c.1, hch, henabled, hname, c.2, hm, ?_, ?_⟩
    · rw [hclientName, hmodel₂, clientModel_reread (hothers₁ "model" (by decide))]
    · obtain ⟨old, hold⟩ := get_of_clientModel hmodel
      rw [hreread, Aliases.get_replace _ hold]
      rfl
  · refine ⟨1 + n₂ + n₁, by omega, ?_, ?_⟩
    · rw [hothers "tools" (by decide), htools₁, rereadTimes_add]
    · intro k hmodel htools
      rw [hothers k hmodel, hothers₁ k htools, rereadTimes_add]

end

/-- What `reqwest` is given to send for a request of the client. -/
structure Relayed (inst : Installation) (s : ProxyState) (request : ProxyRequest) (channel : ChannelConfig)
    (sent : Outgoing) : Prop where
  method : sent.method = request.method
  url : sent.url = trimEndSlashes channel.url ++ upstreamPath channel request
  kept : ∀ name, name ∉ droppedRequestHeaders → HeaderMap.getAll sent.headers name = HeaderMap.getAll request.headers name
  replaced : ∀ name, name ∈ droppedRequestHeaders → HeaderMap.getAll sent.headers name =
    if name = "authorization" ∧ channel.apiKey ≠ "" then [.text ("Bearer " ++ channel.apiKey)] else []
  document : ∃ received document, inst.serde.fromSlice request.body = .ok received ∧
    inst.serde.fromSlice sent.body = .ok document ∧ Rewritten inst s received document channel
  streaming : ({ request with body := sent.body } : ProxyRequest).isStreaming inst.serde = request.isStreaming inst.serde

/-- What the client gets for an answer of the upstream. Of a name with several values only the last comes back. -/
structure Returned (inst : Installation) (s : ProxyState) (streaming : Bool) (status : StatusCode)
    (headers : HeaderMap) (body : Body) (res : ProxyResponse) : Prop where
  status : res.status = status
  kept : ∀ name, name ∉ droppedResponseHeaders → HeaderMap.getAll res.headers name = (HeaderMap.getAll headers name).getLast?.toList
  dropped : ∀ name, name ∈ droppedResponseHeaders → HeaderMap.getAll res.headers name = []
  untouched : (s.compressEnabled = true → streaming = false → ∀ v, inst.serde.fromSlice body ≠ .ok v) → res.body = body
  compressed : ∀ v, s.compressEnabled = true → streaming = false → inst.serde.fromSlice body = .ok v →
    res.body = body ∨ res.body = .utf8 (inst.serde.valueToString (inst.compressors.response v))

section

variable {headers : HeaderMap} {name : String}

theorem getAll_eq_nil (h : ∀ g ∈ headers, g.1 ≠ name) : HeaderMap.getAll headers name = [] := by
  rw [HeaderMap.getAll, List.filter_eq_nil_iff.mpr, List.map_nil]
  intro g hg hname
  exact h g hg (of_decide_eq_true hname)

theorem getAll_forwardHeaders_dropped (hname : name ∈ droppedResponseHeaders) :
    HeaderMap.getAll (forwardHeaders headers) name = [] := by
  apply getAll_eq_nil
  rintro g hg rfl
  exact (mem_forwardHeaders hg).2 hname

theorem getAll_filter_dropped (headers : HeaderMap) (name : String) :
    HeaderMap.getAll (headers.filter fun h => h.1 ∉ droppedRequestHeaders) name =
      if name ∈ droppedRequestHeaders then [] else HeaderMap.getAll headers name := by
  split_ifs with hname
  · apply getAll_eq_nil
    rintro g hg rfl
    have hkept := (List.mem_filter.mp hg).2
    exact of_decide_eq_true hkept hname
  · rw [HeaderMap.getAll, HeaderMap.getAll, List.filter_filter]
    congr 1
    apply List.filter_congr
    intro g _
    by_cases hg : g.1 = name
    · simp [hg, hname]
    · simp [hg]

theorem getAll_outgoing (req : ProxyRequest) (channel : ChannelConfig) (name : String) :
    HeaderMap.getAll (outgoing req channel).headers name =
      if name ∈ droppedRequestHeaders then
        if name = "authorization" ∧ channel.apiKey ≠ "" then [.text ("Bearer " ++ channel.apiKey)] else []
      else HeaderMap.getAll req.headers name := by
  have hauthorization : "authorization" ∈ droppedRequestHeaders := by decide
  rw [outgoing, getAll_append, getAll_filter_dropped]
  by_cases hkey : channel.apiKey = ""
  · simp [hkey, HeaderMap.getAll]
  · have hempty : channel.apiKey.isEmpty = false := by
      rw [Bool.eq_false_iff, ne_eq, String.isEmpty_iff]
      exact hkey
    rw [hempty, if_neg Bool.false_ne_true, getAll_singleton]
    by_cases hname : name = "authorization"
    · simp [hname, hkey, hauthorization]
    · simp [hname, Ne.symm hname]

end

section

variable {inst : Installation} {s s' : ProxyState} {req req' : ProxyRequest} {ctx ctx' : ConnectionContext}

theorem requestChain_compressEnabled (inst : Installation) (s : ProxyState) (req : ProxyRequest)
    (ctx : ConnectionContext) :
    (runOnRequestChain inst.middlewares s req ctx).2.compressEnabled = s.compressEnabled := by
  apply @runOnRequestChain_view _ _ _ ProxyState.compressEnabled
  simp only [Installation.middlewares, List.forall_mem_cons, List.not_mem_nil, false_imp_iff, implies_true, and_true]
  exact ⟨fun _ _ _ => rfl, fun _ _ _ => rfl, fun _ _ _ => rfl, fun _ _ _ => rfl⟩

theorem bridge_onResponse_same (hctx : ctx.targetProtocol = ctx.detectedFormat) {client : ApiFormat}
    (hclient : ctx.detectedFormat = some client) (res : ProxyResponse) :
    (Bridge.onResponse inst.serde inst.core res ctx).2 = .ok res := by
  rw [hclient] at hctx
  by_cases hreverse : ctx.bridgeReverse.getD false = false
  · simp only [Bridge.onResponse, hreverse, if_true]
  · simp only [Bridge.onResponse, if_neg hreverse, hclient, hctx, Bridge.resolve_eq_passthrough, dif_pos]

theorem responseChain_unconverted (s : ProxyState) (hctx : ctx.targetProtocol = ctx.detectedFormat)
    {client : ApiFormat} (hclient : ctx.detectedFormat = some client) (res : ProxyResponse) :
    (runOnResponseChain inst.middlewares s res ctx).2 =
      .ok (if s.compressEnabled then (compressOnResponse inst.serde inst.compressors res).2 else res) := by
  have hchain : inst.middlewares.reverse =
      [inst.bridge, inst.modelRouter, modelAlias inst.serde inst.aliasMap, inst.compress] := rfl
  simp only [runOnResponseChain, hchain, runResponses, Installation.bridge, Installation.modelRouter, modelAlias,
    Installation.compress, bridge_onResponse_same hctx hclient res]
  cases s.compressEnabled with
  | true => rfl
  | false => rfl

theorem handleResponse_returned (hctx : ctx.targetProtocol = ctx.detectedFormat) {client : ApiFormat}
    (hclient : ctx.detectedFormat = some client) (readError : String) (streaming : Bool)
    (costBody : Body → Option Json) (status : StatusCode) (headers : HeaderMap) (body : Body) :
    ∃ res, (handleResponse inst.middlewares s ctx readError streaming costBody status headers (.ok body)).reply =
      .response res ∧ Returned inst s streaming status headers body res := by
  have hrun := @responseChain_unconverted inst ctx s hctx client hclient ⟨status, headers, body, streaming⟩
  refine ⟨buildAxumResponse (if s.compressEnabled then
    (compressOnResponse inst.serde inst.compressors ⟨status, headers, body, streaming⟩).2
    else ⟨status, headers, body, streaming⟩), ?_, ?_⟩
  · simp only [handleResponse]
    split
    · rename_i ops e hout
      rw [hout] at hrun
      cases hrun
    · rename_i ops res hout
      rw [hout] at hrun
      cases hrun
      rfl
  · have hkept (name : String) (hname : name ∉ droppedResponseHeaders) := @getAll_forwardHeaders headers name hname
    have hdropped (name : String) (hname : name ∈ droppedResponseHeaders) :=
      @getAll_forwardHeaders_dropped headers name hname
    cases henabled : s.compressEnabled with
    | false => exact ⟨rfl, hkept, hdropped, fun _ => rfl, fun v htrue => by rw [henabled] at htrue; cases htrue⟩
    | true =>
      rw [if_pos rfl]
      cases streaming with
      | true => exact ⟨rfl, hkept, hdropped, fun _ => rfl, fun v _ hfalse => by cases hfalse⟩
      | false =>
        cases hread : inst.serde.fromSlice body with
        | error e =>
          have hsame : (compressOnResponse inst.serde inst.compressors ⟨status, headers, body, false⟩).2 =
              ⟨status, headers, body, false⟩ := by
            simp [compressOnResponse, hread]
          rw [hsame]
          exact ⟨rfl, hkept, hdropped, fun _ => rfl, fun v _ _ hv => by rw [hread] at hv; cases hv⟩
        | ok v =>
          have hout : ∃ body', (compressOnResponse inst.serde inst.compressors ⟨status, headers, body, false⟩).2 =
              ⟨status, headers, body', false⟩ ∧
              (body' = body ∨ body' = .utf8 (inst.serde.valueToString (inst.compressors.response v))) := by
            simp only [compressOnResponse, hread, Bool.false_eq_true, if_false]
            split_ifs
            · exact ⟨_, rfl, .inr rfl⟩
            · exact ⟨_, rfl, .inl rfl⟩
          obtain ⟨body', hout, hbody'⟩ := hout
          rw [hout]
          refine ⟨rfl, hkept, hdropped, fun hnone => absurd hread (hnone henabled rfl v), fun w _ _ hw => ?_⟩
          rw [hread] at hw
          cases hw
          exact hbody'

theorem handleOutcome_returned (hctx : ctx.targetProtocol = ctx.detectedFormat) {client : ApiFormat}
    (hclient : ctx.detectedFormat = some client) (req : ProxyRequest) (status : StatusCode) (headers : HeaderMap)
    (body : Body) :
    ∃ res, (handleOutcome inst.serde inst.middlewares s ctx req (.answered status headers (.ok body))).reply =
      .response res ∧ Returned inst s (req.isStreaming inst.serde) status headers body res := by
  simp only [handleOutcome]
  cases req.isStreaming inst.serde with
  | true =>
    rw [if_pos rfl]
    exact handleResponse_returned hctx hclient _ true _ status headers body
  | false =>
    rw [if_neg Bool.false_ne_true]
    exact handleResponse_returned hctx hclient _ false _ status headers body

end

section

variable {inst : Installation} (around : Surroundings) (upstream : Outgoing → UpstreamOutcome) (maxBodySize : ℕ)
  (s : ProxyState) (inc : Incoming) {f : Forwarded}

theorem request_relayed (hserde : Rereads inst)
    (hf : (handleProxyRequest inst.serde inst.middlewares around upstream maxBodySize s inc).forwarded = some f)
    (hsame : f.ctx.targetProtocol = f.ctx.detectedFormat) :
    f.outcome = upstream (outgoing f.req f.channel) ∧
      Relayed inst s inc.request f.channel (outgoing f.req f.channel) := by
  obtain ⟨format, s', -, hchain, hchannel, houtcome, -⟩ :=
    handle_forwarded inst.serde inst.middlewares around upstream hf
  have hrun : (runOnRequestChain inst.middlewares s inc.request
      (prepareContext inst.serde around inc.request.headers (inc.context format))).1 = .ok (f.req, f.ctx) := by
    rw [hchain]
  obtain ⟨received, sent, hreceived, hsent, hrewritten⟩ := requestChain_rewrites hserde hrun hsame hchannel
  obtain ⟨body, hreq⟩ := requestChain_unconverted hrun hsame
  rw [hreq] at hsent ⊢
  refine ⟨hreq ▸ houtcome, rfl, rfl, ?_, ?_, ⟨received, sent, hreceived, hsent, hrewritten⟩, ?_⟩
  · intro name hname
    rw [getAll_outgoing, if_neg hname]
  · intro name hname
    rw [getAll_outgoing, if_pos hname]
  · obtain ⟨n, -, -, hothers⟩ := hrewritten.fields
    have hstream : (sent.get "stream").bind Json.asBool = (received.get "stream").bind Json.asBool := by
      rw [hothers "stream" (by decide) (by decide), bind_rereadTimes (asBool_reread _)]
    simp only [ProxyRequest.isStreaming, outgoing, hreceived, hsent]
    exact congrArg (Option.getD · false) hstream

theorem answer_returned
    (hf : (handleProxyRequest inst.serde inst.middlewares around upstream maxBodySize s inc).forwarded = some f)
    (hsame : f.ctx.targetProtocol = f.ctx.detectedFormat) {status : StatusCode} {headers : HeaderMap} {body : Body}
    (hout : f.outcome = .answered status headers (.ok body)) :
    ∃ res, (handleProxyRequest inst.serde inst.middlewares around upstream maxBodySize s inc).phase.reply =
      .response res ∧ Returned inst s (f.req.isStreaming inst.serde) status headers body res := by
  obtain ⟨format, s', -, hchain, -, -, hphase⟩ := handle_forwarded inst.serde inst.middlewares around upstream hf
  have hrun : (runOnRequestChain inst.middlewares s inc.request
      (prepareContext inst.serde around inc.request.headers (inc.context format))).1 = .ok (f.req, f.ctx) := by
    rw [hchain]
  have henabled := requestChain_compressEnabled inst s inc.request
    (prepareContext inst.serde around inc.request.headers (inc.context format))
  rw [hchain] at henabled
  obtain ⟨c, client, target, hclient, -⟩ := requestChain_context hrun
  rw [hphase, hout]
  obtain ⟨res, hreply, hreturned⟩ := @handleOutcome_returned inst s' f.ctx hsame client hclient f.req status headers body
  refine ⟨res, hreply, hreturned.status, hreturned.kept, hreturned.dropped, ?_, ?_⟩
  · rw [← henabled]
    exact hreturned.untouched
  · rw [← henabled]
    exact hreturned.compressed

end

namespace Sample

def installation : Installation :=
  { Server.Sample.installation with
    serde := { Router.Sample.serde with value := Aliases.Sample.modelSerde.value }
    aliasMap := fun model => if model = "claude" then some "sonnet" else none }

def request : ProxyRequest :=
  { Aliases.Sample.request "claude" with
    headers := [("authorization", .text "Bearer client"), ("anthropic-beta", .text "tools"),
      ("anthropic-beta", .text "cache")] }

def incoming : Incoming := { Server.Sample.incoming with request }

def state : ProxyState :=
  ⟨Router.fromStorage installation.serde (Router.Sample.database "deepseek" "DeepSeek" "sk"), true⟩

def cookies : HeaderMap := [("set-cookie", .text "session=1"), ("set-cookie", .text "theme=dark")]

def upstream (_ : Outgoing) : UpstreamOutcome := .answered .ok cookies (.ok (.utf8 "pong"))

end Sample

theorem sample_document {v : Json} (h : Document Sample.installation v) : ∃ model, v = .obj [("model", .str model)] := by
  induction h with
  | read h =>
    change Aliases.Sample.modelSerde.value _ = _ at h
    simp only [Aliases.Sample.modelSerde] at h
    split at h
    · cases h
      exact ⟨_, rfl⟩
    · cases h
  | model model h ih =>
    obtain ⟨old, rfl⟩ := ih
    exact ⟨model, rfl⟩
  | tools h htools ih =>
    obtain ⟨old, rfl⟩ := ih
    cases htools

theorem sample_rereads : Rereads Sample.installation := by
  intro v w hv hw k
  obtain ⟨model, rfl⟩ := sample_document hv
  have hread := Aliases.Sample.modelSerde_value model
  change Aliases.Sample.modelSerde.value (AgentProxy.Sample.compact _) = _ at hw
  rw [hread] at hw
  cases hw
  simp only [Json.get, List.lookup_cons, List.lookup_nil]
  cases (k == "model") <;> rfl

theorem request_relayed_aliased : ∃ f, (handleProxyRequest Sample.installation.serde Sample.installation.middlewares
    Server.Sample.around Sample.upstream 1024 Sample.state Sample.incoming).forwarded = some f ∧
      f.outcome = Sample.upstream (outgoing f.req f.channel) ∧
      Relayed Sample.installation Sample.state Sample.request f.channel (outgoing f.req f.channel) :=
  ⟨_, rfl, request_relayed Server.Sample.around Sample.upstream 1024 Sample.state Sample.incoming sample_rereads rfl rfl⟩

theorem answer_returned_plain : ∃ f, (handleProxyRequest Sample.installation.serde Sample.installation.middlewares
    Server.Sample.around Sample.upstream 1024 Sample.state Sample.incoming).forwarded = some f ∧
      ∃ res, (handleProxyRequest Sample.installation.serde Sample.installation.middlewares Server.Sample.around
        Sample.upstream 1024 Sample.state Sample.incoming).phase.reply = .response res ∧
        Returned Sample.installation Sample.state (f.req.isStreaming Sample.installation.serde) .ok Sample.cookies
          (.utf8 "pong") res :=
  ⟨_, rfl, answer_returned Server.Sample.around Sample.upstream 1024 Sample.state Sample.incoming rfl rfl rfl⟩

end Fidelity

end AgentProxy.Server
