import AgentProxy.Server.Bookkeeping
import Mathlib.Data.List.Induction

namespace AgentProxy.Server

/-- `http::HeaderName`, which is in lower case however it was spelled on the wire. -/
structure HeaderName where
  text : String
  lower : text.toLower = text

/-- What iterating over an `http::HeaderMap` yields: a name with several values comes once for each. -/
def pairs (headers : List (HeaderName × HeaderValue)) : HeaderMap := headers.map fun h => (h.1.text, h.2)

def isForwardHeader (name : String) : Bool := decide (name.toLower ∉ droppedResponseHeaders)

/-- `HeaderMap::insert`: the values that the name had are gone. -/
def HeaderMap.insert (headers : HeaderMap) (h : String × HeaderValue) : HeaderMap :=
  headers.filter (fun g => g.1 ≠ h.1) ++ [h]

def HeaderMap.getAll (headers : HeaderMap) (name : String) : List HeaderValue :=
  (headers.filter fun h => h.1 = name).map (·.2)

section

variable {headers : HeaderMap} {name : String}

theorem getAll_append (headers more : HeaderMap) (name : String) :
    HeaderMap.getAll (headers ++ more) name = HeaderMap.getAll headers name ++ HeaderMap.getAll more name := by
  simp only [HeaderMap.getAll, List.filter_append, List.map_append]

theorem getAll_singleton (h : String × HeaderValue) (name : String) :
    HeaderMap.getAll [h] name = if h.1 = name then [h.2] else [] := by
  unfold HeaderMap.getAll
  split_ifs with hname
  · simp [hname]
  · simp [hname]

theorem getAll_insert (h : String × HeaderValue) :
    HeaderMap.getAll (HeaderMap.insert headers h) name =
      if h.1 = name then [h.2] else HeaderMap.getAll headers name := by
  have hothers : HeaderMap.getAll (headers.filter fun g => g.1 ≠ h.1) name =
      if h.1 = name then [] else HeaderMap.getAll headers name := by
    simp only [HeaderMap.getAll, List.filter_filter]
    split_ifs with hname
    · rw [List.filter_eq_nil_iff.mpr, List.map_nil]
      simp [hname]
    · congr 1
      apply List.filter_congr
      intro g _
      by_cases hg : g.1 = name
      · simp [hg, Ne.symm hname]
      · simp [hg]
  rw [HeaderMap.insert, getAll_append, hothers, getAll_singleton]
  split_ifs
  · rfl
  · exact List.append_nil _

def forwardHeader (out : HeaderMap) (h : String × HeaderValue) : HeaderMap :=
  if h.1 ∈ droppedResponseHeaders then out else HeaderMap.insert out h

theorem forwardHeaders_eq (headers : HeaderMap) : forwardHeaders headers = headers.foldl forwardHeader [] := rfl

theorem getAll_forwardHeader (h : String × HeaderValue) (hname : name ∉ droppedResponseHeaders) :
    HeaderMap.getAll (forwardHeader headers h) name =
      if h.1 = name then [h.2] else HeaderMap.getAll headers name := by
  unfold forwardHeader
  split_ifs with hdropped heq
  · exact absurd (heq ▸ hdropped) hname
  · rfl
  · rw [getAll_insert, if_pos ‹_›]
  · rw [getAll_insert, if_neg ‹_›]

theorem getAll_forwardHeaders (hname : name ∉ droppedResponseHeaders) :
    HeaderMap.getAll (forwardHeaders headers) name = (HeaderMap.getAll headers name).getLast?.toList := by
  rw [forwardHeaders_eq]
  induction headers using List.reverseRecOn with
  | nil => rfl
  | append_singleton headers h ih =>
    rw [List.foldl_append, List.foldl_cons, List.foldl_nil, getAll_forwardHeader h hname, ih, getAll_append,
      getAll_singleton]
    split_ifs
    · rw [List.getLast?_concat]
      rfl
    · rw [List.append_nil]

theorem mem_forwardHeader {h g : String × HeaderValue} (hg : g ∈ forwardHeader headers h) :
    g ∈ headers ∨ g = h ∧ h.1 ∉ droppedResponseHeaders := by
  unfold forwardHeader at hg
  split_ifs at hg with hdropped
  · exact .inl hg
  · rw [HeaderMap.insert, List.mem_append, List.mem_singleton] at hg
    rcases hg with hg | rfl
    · exact .inl (List.mem_of_mem_filter hg)
    · exact .inr ⟨rfl, hdropped⟩

theorem mem_forwardHeaders {g : String × HeaderValue} (hg : g ∈ forwardHeaders headers) :
    g ∈ headers ∧ g.1 ∉ droppedResponseHeaders := by
  rw [forwardHeaders_eq] at hg
  induction headers using List.reverseRecOn with
  | nil => cases hg
  | append_singleton headers h ih =>
    rw [List.foldl_append, List.foldl_cons, List.foldl_nil] at hg
    rcases mem_forwardHeader hg with hg | ⟨rfl, hdropped⟩
    · exact ⟨List.mem_append_left _ (ih hg).1, (ih hg).2⟩
    · exact ⟨List.mem_append_right _ (List.mem_singleton_self _), hdropped⟩

theorem getLast?_toList_eq_iff {α : Type} {xs : List α} : xs.getLast?.toList = xs ↔ xs.length ≤ 1 := by
  rcases List.eq_nil_or_concat' xs with rfl | ⟨ys, x, rfl⟩
  · simp
  · rw [List.getLast?_concat, Option.toList_some, List.length_append, List.length_singleton]
    constructor
    · intro h
      have hlength := congrArg List.length h
      rw [List.length_append, List.length_singleton] at hlength
      omega
    · intro h
      have hnil : ys = [] := List.eq_nil_of_length_eq_zero (by omega)
      rw [hnil]
      rfl

theorem dropped_lower (h : name ∈ droppedResponseHeaders) : name.toLower = name := by
  simp only [droppedResponseHeaders, List.mem_cons, List.not_mem_nil, or_false] at h
  rcases h with rfl | rfl | rfl | rfl | rfl | rfl | rfl
  all_goals decide +kernel

theorem not_dropped_of_isForwardHeader (h : isForwardHeader name = true) : name ∉ droppedResponseHeaders := by
  intro hdropped
  have hlower := of_decide_eq_true h
  rw [dropped_lower hdropped] at hlower
  exact hlower hdropped

end

/-- Every name that is forwarded keeps its values in their order, and no other name is there. -/
structure PassedOn (headers out : HeaderMap) : Prop where
  complete : ∀ name, isForwardHeader name = true → HeaderMap.getAll out name = HeaderMap.getAll headers name
  clean : ∀ h ∈ out, isForwardHeader h.1 = true

theorem headers_passed_on_iff (headers : List (HeaderName × HeaderValue)) (status : StatusCode) (body : Body)
    (isStreaming : Bool) :
    PassedOn (pairs headers) (buildAxumResponse ⟨status, pairs headers, body, isStreaming⟩).headers ↔
      ∀ name, isForwardHeader name = true → (HeaderMap.getAll (pairs headers) name).length ≤ 1 := by
  simp only [buildAxumResponse]
  constructor
  · intro h name hname
    have hcomplete := h.complete name hname
    rw [getAll_forwardHeaders (not_dropped_of_isForwardHeader hname)] at hcomplete
    exact getLast?_toList_eq_iff.mp hcomplete
  · intro h
    constructor
    · intro name hname
      rw [getAll_forwardHeaders (not_dropped_of_isForwardHeader hname)]
      exact getLast?_toList_eq_iff.mpr (h name hname)
    · intro g hg
      obtain ⟨hmem, hdropped⟩ := mem_forwardHeaders hg
      obtain ⟨h, -, rfl⟩ := List.mem_map.mp hmem
      apply decide_eq_true
      rwa [h.1.lower]

def Sample.setCookie : HeaderName := ⟨"set-cookie", by decide +kernel⟩

def Sample.cookies : List (HeaderName × HeaderValue) :=
  [(Sample.setCookie, .text "session=1"), (Sample.setCookie, .text "theme=dark")]

theorem first_cookie_lost :
    ¬ PassedOn (pairs Sample.cookies) (buildAxumResponse ⟨.ok, pairs Sample.cookies, .utf8 "", false⟩).headers := by
  intro h
  have hcookies := h.complete "set-cookie" (by decide +kernel)
  revert hcookies
  decide

theorem compressOnResponse_headers (serde : Serde) (compressors : Compressors) (res : ProxyResponse) :
    (compressOnResponse serde compressors res).2.headers = res.headers := by
  unfold compressOnResponse
  split_ifs
  · rfl
  · split
    · rfl
    · split_ifs
      · rfl
      · rfl

theorem responseChain_headers {inst : Installation} {s : ProxyState} {ctx : ConnectionContext}
    {res res' : ProxyResponse} (h : (runOnResponseChain inst.middlewares s res ctx).2 = .ok res') : res'.headers = res.headers := by
  have hchain : inst.middlewares.reverse =
      [inst.bridge, inst.modelRouter, modelAlias inst.serde inst.aliasMap, inst.compress] := rfl
  simp only [runOnResponseChain, hchain, runResponses, Installation.bridge, Installation.modelRouter, modelAlias,
    Installation.compress] at h
  rcases hbridge : (Bridge.onResponse inst.serde inst.core res ctx).2 with e | converted
  · rw [hbridge] at h
    cases h
  · rw [hbridge] at h
    obtain ⟨body, rfl⟩ := Bridge.onResponse_frame hbridge
    rcases hcompress : s.compressEnabled with _ | _
    · simp only [hcompress] at h
      cases h
      rfl
    · simp only [hcompress] at h
      cases h
      exact compressOnResponse_headers _ _ _

theorem handleResponse_headers {inst : Installation} {s : ProxyState} {ctx : ConnectionContext} {readError : String}
    {streaming : Bool} {costBody : Body → Option Json} {status : StatusCode} {headers : HeaderMap} {body : Body}
    {res : ProxyResponse}
    (h : (handleResponse inst.middlewares s ctx readError streaming costBody status headers (.ok body)).reply =
      .response res) : res.headers = forwardHeaders headers := by
  simp only [handleResponse] at h
  split at h
  · cases h
  · rename_i ops out hrun
    cases h
    have hkept := responseChain_headers (congrArg Prod.snd hrun)
    rw [buildAxumResponse, hkept]

theorem client_headers (inst : Installation) (around : Surroundings) (upstream : Outgoing → UpstreamOutcome)
    (maxBodySize : ℕ) (s : ProxyState) (inc : Incoming) {f : Forwarded}
    (hf : (handleProxyRequest inst.serde inst.middlewares around upstream maxBodySize s inc).forwarded = some f)
    {status : StatusCode} {headers : HeaderMap} {body : Body} (hout : f.outcome = .answered status headers (.ok body))
    {res : ProxyResponse}
    (hreply : (handleProxyRequest inst.serde inst.middlewares around upstream maxBodySize s inc).phase.reply =
      .response res) {name : String} (hname : isForwardHeader name = true) :
    HeaderMap.getAll res.headers name = (HeaderMap.getAll headers name).getLast?.toList := by
  obtain ⟨format, s', -, -, -, -, hphase⟩ := handle_forwarded inst.serde inst.middlewares around upstream hf
  rw [hphase, hout] at hreply
  have hheaders : res.headers = forwardHeaders headers := by
    simp only [handleOutcome, handleStreamingResponse, handleNonStreamingResponse] at hreply
    split_ifs at hreply
    · exact handleResponse_headers hreply
    · exact handleResponse_headers hreply
  rw [hheaders, getAll_forwardHeaders (not_dropped_of_isForwardHeader hname)]

end AgentProxy.Server
