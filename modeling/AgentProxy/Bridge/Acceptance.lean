import AgentProxy.Bridge.Middleware

namespace AgentProxy.Bridge

def reversePath : ApiFormat → ApiFormat → List ResponseTransform
  | .openaiChat, .anthropicMessages => [.openaiResponseToAnthropicMessage]
  | .openaiResponses, .anthropicMessages => [.openaiResponseToAnthropicMessage]
  | .anthropicMessages, .openaiChat => [.anthropicResponseToOpenaiResponse]
  | .anthropicMessages, .openaiResponses => [.anthropicResponseToResponsesResponse]
  | .openaiChat, .openaiResponses =>
    [.openaiResponseToAnthropicMessage, .anthropicResponseToResponsesResponse]
  | .openaiResponses, .openaiChat =>
    [.openaiResponseToAnthropicMessage, .anthropicResponseToResponsesResponse]
  | _, _ => []

variable {serde : Serde} {core : LlmBridgeCore} {client target : ApiFormat} {ctx ctx' : ConnectionContext}

variable (core) in
def acceptsAll : List ResponseTransform → TransformRequest → Bool
  | [], _ => true
  | t :: ts, r =>
    match core.response t r with
    | .ok out => acceptsAll ts ⟨out.headers, out.path, out.body⟩
    | .error _ => false

variable (core) in
def Accepts (upstream client : ApiFormat) (streaming : Bool) (body : Body) : Prop :=
  if streaming then ∃ out, core.stream (streamTransform client) upstream body = .ok out
  else acceptsAll core (reversePath upstream client) ⟨[], "", body⟩ = true

theorem applyResponse_eq_ok {t : ResponseTransform} {r : TransformRequest} {out : TransformResponse} :
    (applyResponse core t r).2 = .ok out ↔ core.response t r = .ok out := by
  cases h : core.response t r <;> simp [applyResponse, h, Except.mapError]

variable (core) in
theorem applyResponse_accepts (t : ResponseTransform) (r : TransformRequest) :
    (∃ out, (applyResponse core t r).2 = .ok out) ↔ acceptsAll core [t] r = true := by
  simp only [applyResponse_eq_ok]
  cases h : core.response t r <;> simp [acceptsAll, h]

theorem convertResponse_accepts {r : TransformRequest}
    (h : ConversionDirection.resolve target client ≠ .passthrough) :
    (∃ out, (convertResponse core r _ h).2 = .ok out) ↔ acceptsAll core (reversePath target client) r = true := by
  -- the two OpenAI formats go through an Anthropic message in either direction
  have composed : (∃ out, (convertResponse core r .responsesToOpenai (by decide)).2 = .ok out) ↔
      acceptsAll core [.openaiResponseToAnthropicMessage, .anthropicResponseToResponsesResponse] r = true := by
    cases ho : core.response .openaiResponseToAnthropicMessage r with
    | error e => simp [convertResponse, applyResponse, acceptsAll, ho, Except.mapError]
    | ok out =>
      have hsecond := applyResponse_accepts core .anthropicResponseToResponsesResponse
        ⟨out.headers, out.path, out.body⟩
      simpa [convertResponse, applyResponse, acceptsAll, ho, Except.mapError] using hsecond
  cases target with
  | anthropicMessages =>
    cases client with
    | anthropicMessages => exact absurd rfl h
    | openaiChat => exact applyResponse_accepts core _ r
    | openaiResponses => exact applyResponse_accepts core _ r
  | openaiChat =>
    cases client with
    | anthropicMessages => exact applyResponse_accepts core _ r
    | openaiChat => exact absurd rfl h
    | openaiResponses => exact composed
  | openaiResponses =>
    cases client with
    | anthropicMessages => exact applyResponse_accepts core _ r
    | openaiChat => exact composed
    | openaiResponses => exact absurd rfl h

theorem onResponseStreaming_accepts {res : ProxyResponse} :
    (∃ res', (onResponseStreaming core res target client).2 = .ok res') ↔
      ∃ out, core.stream (streamTransform client) target res.body = .ok out := by
  cases h : core.stream (streamTransform client) target res.body <;> simp [onResponseStreaming, h]

theorem onResponse_ok_iff (hc : ctx.detectedFormat = some client) (ht : ctx.targetProtocol = some target)
    (hrev : client ≠ target → ctx.bridgeReverse = some true) (res : ProxyResponse) :
    (∃ res', (onResponse serde core res ctx).2 = .ok res') ↔
      client = target ∨ isUpstreamErrorBody serde res.body = true ∨
        Accepts core target client res.isStreaming res.body := by
  by_cases hd : client = target
  · subst hd
    have hp : ConversionDirection.resolve client client = .passthrough := resolve_eq_passthrough.mpr rfl
    simp only [onResponse, hc, ht, hp, ↓reduceDIte, ite_self]
    exact iff_of_true ⟨res, rfl⟩ (Or.inl trivial)
  · have h : ConversionDirection.resolve target client ≠ .passthrough :=
      mt resolve_eq_passthrough.mp (Ne.symm hd)
    rw [or_iff_right hd]
    simp only [onResponse, hrev hd, Option.getD_some, Bool.true_eq_false, ↓reduceIte, hc, ht, h, ↓reduceDIte]
    cases he : isUpstreamErrorBody serde res.body with
    | true => exact iff_of_true ⟨res, rfl⟩ (Or.inl rfl)
    | false =>
      simp only [Bool.false_eq_true, ↓reduceIte, false_or, Accepts]
      split_ifs
      · exact onResponseStreaming_accepts
      · rw [← convertResponse_accepts h]
        cases (convertResponse core ⟨[], "", res.body⟩ _ h).2 <;> simp [Except.map]

theorem onResponse_frame {res res' : ProxyResponse} (h : (onResponse serde core res ctx).2 = .ok res') :
    ∃ body, res' = { res with body } := by
  have kept : ∀ body, { res with body := body } = res' → ∃ body, res' = { res with body } := by
    rintro body rfl
    exact ⟨body, rfl⟩
  by_cases hr : ctx.bridgeReverse.getD false = false
  · simp only [onResponse, hr, ↓reduceIte, Except.ok.injEq] at h
    exact kept res.body h
  simp only [onResponse, hr, Bool.true_eq_false, ↓reduceIte] at h
  split at h
  · cases h
  · cases h
  · rename_i client target hc ht
    by_cases hd : ConversionDirection.resolve target client = .passthrough
    · simp only [hd, ↓reduceDIte, Except.ok.injEq] at h
      exact kept res.body h
    simp only [hd, ↓reduceDIte] at h
    cases he : isUpstreamErrorBody serde res.body with
    | true =>
      simp only [he, ↓reduceIte, Except.ok.injEq] at h
      exact kept res.body h
    | false =>
      cases hs : res.isStreaming with
      | true =>
        simp only [he, hs, Bool.false_eq_true, ↓reduceIte, onResponseStreaming] at h
        cases ho : core.stream (streamTransform client) target res.body with
        | error e => simp [ho] at h
        | ok out =>
          rw [← hs]
          exact kept out (by simpa [ho, hs] using h)
      | false =>
        simp only [he, hs, Bool.false_eq_true, ↓reduceIte] at h
        cases hcv : (convertResponse core ⟨[], "", res.body⟩ _ hd).2 with
        | error e => simp [hcv, Except.map] at h
        | ok out =>
          rw [← hs]
          exact kept out.body (by simpa [hcv, Except.map, hs] using h)

theorem onRequest_context {req req' : ProxyRequest}
    (h : (onRequest serde core req ctx).2 = .ok (req', ctx')) :
    ∃ client target, ctx.detectedFormat = some client ∧ ctx.targetProtocol = some target ∧
      ((client = target ∧ ctx' = ctx) ∨ ctx' = { ctx with bridgeReverse := some true }) := by
  unfold onRequest at h
  split at h
  · cases h
  · split at h
    · cases h
    · cases h
    · rename_i client target hc ht
      refine ⟨client, target, hc, ht, ?_⟩
      split_ifs at h with hd
      · cases h
        exact Or.inl ⟨resolve_eq_passthrough.mp hd, rfl⟩
      · right
        cases hcv : (convertRequest core (proxyRequestToTransformRequest req) _ hd).2 with
        | error e => simp [hcv, bind, Except.bind] at h
        | ok out =>
          cases ha : applyTransformResponseToRequest req out with
          | error e => simp [hcv, ha, bind, Except.bind] at h
          | ok r =>
            simp only [hcv, ha, bind, Except.bind, Except.ok.injEq, Prod.mk.injEq] at h
            exact h.2.symm

theorem onRequest_same {req req' : ProxyRequest} {format : ApiFormat} (hclient : ctx.detectedFormat = some format)
    (htarget : ctx.targetProtocol = some format) (h : (onRequest serde core req ctx).2 = .ok (req', ctx')) :
    req' = req := by
  unfold onRequest at h
  split at h
  · cases h
  · simp only [hclient, htarget, resolve_eq_passthrough, dif_pos] at h
    cases h
    rfl

end AgentProxy.Bridge
