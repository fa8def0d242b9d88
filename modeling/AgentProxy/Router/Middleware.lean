import AgentProxy.Router.Protocol
import AgentProxy.Router.Selection

namespace AgentProxy.Router

variable (serde : Serde) (now month : ℕ)

def clientModel (body : Json) : String := ((body.get "model").bind Json.asStr).getD ""

def selectFor (r : RouterState) (req : ProxyRequest) : Except ProxyError (Json × Candidate) × RouterState :=
  match serde.fromSlice req.body with
  | .error e => (.error (.badRequest e), r)
  | .ok body =>
    if (clientModel body).isEmpty then (.error (.badRequest "request body missing 'model' field"), r)
    else
      let candidates := findCandidates r.channels (clientModel body)
      if candidates.isEmpty then (.error (.channelSelection (clientModel body)), r)
      else
        match selectChannel now month r candidates (clientModel body) with
        | (.ok c, r') => (.ok (body, c), r')
        | (.error e, r') => (.error e, r')

def RouterState.effectiveKey (r : RouterState) (ch : ResolvedChannel) : String :=
  (r.channelApiKeys ch.channelId).getD ch.apiKey

def pricingSnapshot : ChannelBilling → Option Pricing × String
  | .metered pricing => (some pricing, serde.pricingToString pricing)
  | .flatFee .. => (none, "\x7b\"type\":\"flat_fee\"\x7d")

def mappingInfo (c : Candidate) : SelectedMappingInfo where
  channelId := c.1.channelId
  mappingId := c.2.mappingId
  clientName := c.2.clientName
  upstreamName := c.2.upstreamName
  isFlatFee := c.2.billing.isFlatFee
  pricing := (pricingSnapshot serde c.2.billing).1
  pricingSnapshotJson := (pricingSnapshot serde c.2.billing).2

def routeTo (c : Candidate) (apiKey : String) (body : Json) (req : ProxyRequest) (ctx : ConnectionContext) :
    Except ProxyError (ProxyRequest × ConnectionContext) := do
  let target ← targetProtocol c.1 c.2 ctx.detectedFormat
  let (url, rewritePath) ← resolveUpstreamUrl target c.1.protocols
  .ok (req.withJson serde (body.replace "model" (.str c.2.upstreamName)),
    { ctx with
      targetProtocol := some target
      selectedChannel := some { url, apiKey, protocol := target, name := c.1.channelName, rewritePath }
      selectedMapping := some (mappingInfo serde c) })

def onRequest (r : RouterState) (req : ProxyRequest) (ctx : ConnectionContext) :
    Except ProxyError (ProxyRequest × ConnectionContext) × RouterState :=
  match selectFor serde now month r req with
  | (.error e, r') => (.error e, r')
  | (.ok (body, c), r') => (routeTo serde c (r'.effectiveKey c.1) body req ctx, r')

inductive HealthTransition where
  | unhealthy
  | clientError
  | rateLimited
  | healthy
  deriving DecidableEq

def classifyStatus (status : StatusCode) : HealthTransition :=
  if status.isServerError ∨ status.code = 401 then .unhealthy
  else if status.isClientError ∧ status.code ≠ 429 then .clientError
  else if status.code = 429 then .rateLimited
  else .healthy

inductive RouterOp where
  | recordUsage (mappingId : String) (tokens : UInt64)
  | health (channelId : String) (t : HealthTransition)
  deriving DecidableEq

def extractTokenCount (body : Json) : UInt64 :=
  match body.get "usage" with
  | none => 0
  | some u => u.counter "input_tokens" + u.counter "output_tokens"

def quotaTokens (body : Body) : UInt64 :=
  match serde.fromSlice body with
  | .ok v => extractTokenCount v
  | .error _ => 0

/-- `on_response` as the list of operations it performs, in order. The key of the health entry
is the `name` of the `ChannelConfig`. -/
def onResponse (res : ProxyResponse) (ctx : ConnectionContext) : List RouterOp :=
  let channelId := (ctx.selectedChannel.map (·.name)).getD ""
  if channelId.isEmpty then []
  else
    (match ctx.selectedMapping with
      | some info => if info.isFlatFee then [.recordUsage info.mappingId (quotaTokens serde res.body)] else []
      | none => []) ++ [.health channelId (classifyStatus res.status)]

def perform (now month : ℕ) (r : RouterState) : RouterOp → RouterState
  | .recordUsage id tokens => r.setQuota id ((r.quotaEntry month id).recordUsage month tokens)
  | .health id .unhealthy => r.setHealth id (((r.health id).getD .new).markUnhealthy now)
  | .health _ .clientError => r
  | .health id .rateLimited => r.setHealth id (((r.health id).getD .new).markRateLimited now)
  | .health id .healthy =>
    match r.health id with
    | some s => r.setHealth id s.recordSuccess
    | none => r

def performAll (now month : ℕ) (r : RouterState) (ops : List RouterOp) : RouterState :=
  ops.foldl (perform now month) r

def healthAfter (now : ℕ) (entry : Option ChannelState) : HealthTransition → Option ChannelState
  | .unhealthy => some ((entry.getD .new).markUnhealthy now)
  | .clientError => entry
  | .rateLimited => some ((entry.getD .new).markRateLimited now)
  | .healthy => entry.map ChannelState.recordSuccess

theorem perform_health (r : RouterState) (id : String) (t : HealthTransition) :
    (perform now month r (.health id t)).health = Function.update r.health id (healthAfter now (r.health id) t) := by
  cases t with
  | unhealthy => rfl
  | clientError => exact (Function.update_eq_self id r.health).symm
  | rateLimited => rfl
  | healthy =>
    cases he : r.health id with
    | none =>
      simp only [perform, he, healthAfter, Option.map_none]
      rw [← he, Function.update_eq_self]
    | some s => simp only [perform, he, healthAfter, Option.map_some, RouterState.setHealth]

theorem perform_frame (r : RouterState) (op : RouterOp) :
    (perform now month r op).channels = r.channels ∧
      (perform now month r op).channelApiKeys = r.channelApiKeys := by
  cases op with
  | recordUsage id tokens => exact ⟨rfl, rfl⟩
  | health id t =>
    cases t with
    | unhealthy => exact ⟨rfl, rfl⟩
    | clientError => exact ⟨rfl, rfl⟩
    | rateLimited => exact ⟨rfl, rfl⟩
    | healthy => cases he : r.health id <;> simp [perform, he, RouterState.setHealth]

theorem performAll_frame (r : RouterState) (ops : List RouterOp) :
    (performAll now month r ops).channels = r.channels ∧
      (performAll now month r ops).channelApiKeys = r.channelApiKeys := by
  induction ops generalizing r with
  | nil => exact ⟨rfl, rfl⟩
  | cons op ops ih =>
    obtain ⟨hc, hk⟩ := perform_frame now month r op
    obtain ⟨hc', hk'⟩ := ih (perform now month r op)
    exact ⟨hc'.trans hc, hk'.trans hk⟩

theorem onResponse_health (r : RouterState) (res : ProxyResponse) (ctx : ConnectionContext)
    {cfg : ChannelConfig} (hcfg : ctx.selectedChannel = some cfg) (hname : cfg.name ≠ "") :
    (performAll now month r (onResponse serde res ctx)).health =
      Function.update r.health cfg.name (healthAfter now (r.health cfg.name) (classifyStatus res.status)) := by
  have hne : cfg.name.isEmpty = false := by simpa using hname
  simp only [onResponse, hcfg, Option.map_some, Option.getD_some, hne, Bool.false_eq_true, ↓reduceIte]
  cases ctx.selectedMapping with
  | none => exact perform_health now month r cfg.name _
  | some info =>
    dsimp only
    split_ifs
    · exact perform_health now month (perform now month r _) cfg.name _
    · exact perform_health now month r cfg.name _

theorem onResponse_noop (res : ProxyResponse) (ctx : ConnectionContext) {cfg : ChannelConfig}
    (hcfg : ctx.selectedChannel = some cfg) (hname : cfg.name = "") : onResponse serde res ctx = [] := by
  simp [onResponse, hcfg, hname]

theorem selectFor_sameView (r : RouterState) (req : ProxyRequest) :
    SameView r (selectFor serde now month r req).2 := by
  unfold selectFor
  cases serde.fromSlice req.body with
  | error e => exact SameView.refl r
  | ok body =>
    dsimp only
    split_ifs
    · exact SameView.refl r
    · exact SameView.refl r
    · have h := selectChannel_sameView now month r (findCandidates r.channels (clientModel body)) (clientModel body)
      split
      all_goals
        rename_i hs
        rwa [hs] at h

theorem selectFor_ok {r : RouterState} {req : ProxyRequest} {body : Json} {c : Candidate}
    (h : (selectFor serde now month r req).1 = .ok (body, c)) :
    c.1 ∈ r.channels ∧ Usable now r c.1.channelId := by
  unfold selectFor at h
  cases hb : serde.fromSlice req.body with
  | error e => simp [hb] at h
  | ok b =>
    simp only [hb] at h
    split_ifs at h
    split at h
    · rename_i d r' hs
      cases h
      obtain ⟨hm, hu⟩ := selectChannel_usable (by rw [hs])
      exact ⟨(mem_findCandidates hm).1, hu⟩
    · cases h

theorem routeTo_ok {c : Candidate} {apiKey : String} {body : Json} {req req' : ProxyRequest}
    {ctx ctx' : ConnectionContext} (h : routeTo serde c apiKey body req ctx = .ok (req', ctx')) :
    ∃ target url rewritePath, targetProtocol c.1 c.2 ctx.detectedFormat = .ok target ∧
      resolveUpstreamUrl target c.1.protocols = .ok (url, rewritePath) ∧
      req' = req.withJson serde (body.replace "model" (.str c.2.upstreamName)) ∧
      ctx' = { ctx with
        targetProtocol := some target
        selectedChannel := some
          { url, apiKey, protocol := target, name := c.1.channelName, rewritePath }
        selectedMapping := some (mappingInfo serde c) } := by
  unfold routeTo at h
  cases ht : targetProtocol c.1 c.2 ctx.detectedFormat with
  | error e => simp [ht, bind, Except.bind] at h
  | ok target =>
    cases hu : resolveUpstreamUrl target c.1.protocols with
    | error e => simp [ht, hu, bind, Except.bind] at h
    | ok p =>
      simp only [ht, hu, bind, Except.bind, Except.ok.injEq, Prod.mk.injEq] at h
      exact ⟨target, p.1, p.2, rfl, hu, h.1.symm, h.2.symm⟩

theorem onRequest_ok {r : RouterState} {req req' : ProxyRequest} {ctx ctx' : ConnectionContext}
    (h : (onRequest serde now month r req ctx).1 = .ok (req', ctx')) :
    ∃ body c, (selectFor serde now month r req).1 = .ok (body, c) ∧
      routeTo serde c (r.effectiveKey c.1) body req ctx = .ok (req', ctx') := by
  have hview := selectFor_sameView serde now month r req
  unfold onRequest at h
  split at h
  · cases h
  · rename_i body c r' hs
    rw [hs] at hview
    refine ⟨body, c, by rw [hs], ?_⟩
    have hk : r'.channelApiKeys = r.channelApiKeys := hview.2.2
    rw [RouterState.effectiveKey, ← hk]
    exact h

theorem onRequest_sameView (r : RouterState) (req : ProxyRequest) (ctx : ConnectionContext) :
    SameView r (onRequest serde now month r req ctx).2 := by
  have h := selectFor_sameView serde now month r req
  unfold onRequest
  split
  all_goals
    rename_i hs
    rwa [hs] at h

end AgentProxy.Router
