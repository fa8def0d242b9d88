import AgentProxy.Bridge.Acceptance
import AgentProxy.Server.Handler

namespace AgentProxy.Server

open Router

variable {inst : Installation} {s : ProxyState} {req req' : ProxyRequest} {ctx ctx' : ConnectionContext}

theorem mapError_eq_ok {ε δ α : Type} {f : ε → δ} {x : Except ε α} {a : α} (h : x.mapError f = .ok a) :
    x = .ok a := by
  cases x with
  | error e => simp [Except.mapError] at h
  | ok b => simpa [Except.mapError] using h

theorem requestChain_steps (h : (runOnRequestChain inst.middlewares s req ctx).1 = .ok (req', ctx')) :
    ∃ req₁ ctx₁ req₂ req₃ ctx₃,
      (if s.compressEnabled then compressOnRequest inst.serde inst.compressors req ctx else .ok (req, ctx)) =
        .ok (req₁, ctx₁) ∧
      aliasOnRequest inst.serde inst.aliasMap req₁ = .ok req₂ ∧
      (Router.onRequest inst.serde inst.now inst.month s.router req₂ ctx₁).1 = .ok (req₃, ctx₃) ∧
      (Bridge.onRequest inst.serde inst.core req₃ ctx₃).2 = .ok (req', ctx') := by
  obtain ⟨req₁, ctx₁, s₁, h₁, hrest₁⟩ := runOnRequestChain_cons h
  obtain ⟨req₂, ctx₂, s₂, h₂, hrest₂⟩ := runOnRequestChain_cons hrest₁
  obtain ⟨req₃, ctx₃, s₃, h₃, hrest₃⟩ := runOnRequestChain_cons hrest₂
  obtain ⟨req₄, ctx₄, s₄, h₄, hrest₄⟩ := runOnRequestChain_cons hrest₃
  obtain ⟨hcompress, rfl⟩ := Prod.mk.inj h₁
  obtain ⟨halias, rfl⟩ := Prod.mk.inj h₂
  have hlast : (req₄, ctx₄) = (req', ctx') := Except.ok.inj hrest₄
  cases hlast
  have hctx₂ : ctx₂ = ctx₁ ∧ aliasOnRequest inst.serde inst.aliasMap req₁ = .ok req₂ := by
    cases ho : aliasOnRequest inst.serde inst.aliasMap req₁ with
    | error e => simp [ho, Except.mapError, Except.map] at halias
    | ok out =>
      simp only [ho, Except.mapError, Except.map, Except.ok.injEq, Prod.mk.injEq] at halias
      exact ⟨halias.2.symm, by rw [halias.1]⟩
  obtain ⟨rfl, hreq₂⟩ := hctx₂
  exact ⟨req₁, ctx₂, req₂, req₃, ctx₃, hcompress, hreq₂, mapError_eq_ok (Prod.mk.inj h₃).1,
    mapError_eq_ok (Prod.mk.inj h₄).1⟩

theorem requestChain_context (h : (runOnRequestChain inst.middlewares s req ctx).1 = .ok (req', ctx')) :
    ∃ (c : Candidate) (client target : ApiFormat), ctx'.detectedFormat = some client ∧
      ctx'.targetProtocol = some target ∧ (client ≠ target → ctx'.bridgeReverse = some true) ∧
      ctx'.selectedMapping = some (mappingInfo inst.serde c) ∧ c.1 ∈ s.router.channels ∧
      ∃ channel, ctx'.selectedChannel = some channel ∧ channel.name = c.1.channelName := by
  obtain ⟨req₁, ctx₁, req₂, req₃, ctx₃, -, -, hr, hb⟩ := requestChain_steps h
  obtain ⟨body, c, hsel, hroute⟩ := onRequest_ok inst.serde inst.now inst.month hr
  obtain ⟨target₀, url, rewritePath, -, -, -, hctx⟩ := routeTo_ok inst.serde hroute
  obtain ⟨client, target, hc, ht, hcase⟩ := Bridge.onRequest_context hb
  have hmem := (selectFor_ok inst.serde inst.now inst.month hsel).1
  refine ⟨c, client, target, ?_⟩
  rcases hcase with ⟨heq, rfl⟩ | rfl
  · refine ⟨hc, ht, fun hne => absurd heq hne, ?_, hmem, ?_⟩
    · rw [hctx]
    · exact ⟨_, by rw [hctx], rfl⟩
  · refine ⟨hc, ht, fun _ => rfl, ?_, hmem, ?_⟩
    · rw [hctx]
    · exact ⟨_, by rw [hctx], rfl⟩

def SameSavings (ctx ctx' : ConnectionContext) : Prop :=
  ctx'.tokenlessSavedTokens = ctx.tokenlessSavedTokens ∧ ctx'.tokenlessRtkSaved = ctx.tokenlessRtkSaved ∧
    ctx'.tokenlessResponseSaved = ctx.tokenlessResponseSaved ∧
    ctx'.tokenlessSchemaSaved = ctx.tokenlessSchemaSaved

def CompressedStats (before after : Option CompressionStats) : Prop :=
  after = before ∨
    ∃ pre post, after = some { before.getD {} with proxyReqPre := pre, proxyReqPost := post }

theorem compressOnRequest_ok {serde : Serde} {compressors : Compressors} {enabled : Bool}
    (h : (if enabled then compressOnRequest serde compressors req ctx else .ok (req, ctx)) = .ok (req', ctx')) :
    (∃ body, req' = { req with body }) ∧
      ∃ stats, CompressedStats ctx.compressionStats stats ∧ ctx' = { ctx with compressionStats := stats } := by
  split_ifs at h
  · unfold compressOnRequest at h
    split at h
    · cases h
    · split at h
      · cases h
        exact ⟨⟨_, rfl⟩, _, .inl rfl, rfl⟩
      · split_ifs at h
        · cases h
          exact ⟨⟨_, rfl⟩, _, .inl rfl, rfl⟩
        · cases h
          exact ⟨⟨_, rfl⟩, _, .inr ⟨_, _, rfl⟩, rfl⟩
  · cases h
    exact ⟨⟨_, rfl⟩, _, .inl rfl, rfl⟩

theorem requestChain_origin (h : (runOnRequestChain inst.middlewares s req ctx).1 = .ok (req', ctx')) :
    ∃ stats targetProtocol selectedChannel selectedMapping bridgeReverse,
      CompressedStats ctx.compressionStats stats ∧
      ctx' = { ctx with
        compressionStats := stats, targetProtocol, selectedChannel, selectedMapping, bridgeReverse } := by
  obtain ⟨req₁, ctx₁, req₂, req₃, ctx₃, hcompress, -, hr, hb⟩ := requestChain_steps h
  obtain ⟨-, stats, hstats, rfl⟩ := compressOnRequest_ok hcompress
  obtain ⟨body, c, -, hroute⟩ := onRequest_ok inst.serde inst.now inst.month hr
  obtain ⟨target₀, url, rewritePath, -, -, -, rfl⟩ := routeTo_ok inst.serde hroute
  obtain ⟨client, target, -, -, hcase⟩ := Bridge.onRequest_context hb
  rcases hcase with ⟨-, rfl⟩ | rfl
  · exact ⟨stats, _, _, _, _, hstats, rfl⟩
  · exact ⟨stats, _, _, _, _, hstats, rfl⟩

theorem requestChain_frame (h : (runOnRequestChain inst.middlewares s req ctx).1 = .ok (req', ctx')) :
    SameSavings ctx ctx' ∧ ctx'.detectedFormat = ctx.detectedFormat := by
  obtain ⟨stats, target, channel, mapping, reverse, -, rfl⟩ := requestChain_origin h
  exact ⟨⟨rfl, rfl, rfl, rfl⟩, rfl⟩

def SameResponseCounts (ctx ctx' : ConnectionContext) : Prop :=
  (ctx'.compressionStats.getD {}).proxyResPre = (ctx.compressionStats.getD {}).proxyResPre ∧
    (ctx'.compressionStats.getD {}).proxyResPost = (ctx.compressionStats.getD {}).proxyResPost

theorem requestChain_responseCounts (h : (runOnRequestChain inst.middlewares s req ctx).1 = .ok (req', ctx')) :
    SameResponseCounts ctx ctx' := by
  obtain ⟨stats, target, channel, mapping, reverse, rfl | ⟨pre, post, rfl⟩, rfl⟩ := requestChain_origin h
  · exact ⟨rfl, rfl⟩
  · exact ⟨rfl, rfl⟩

theorem aliasOnRequest_ok {serde : Serde} {aliasMap : String → Option String}
    (h : aliasOnRequest serde aliasMap req = .ok req') : ∃ body, req' = { req with body } := by
  unfold aliasOnRequest at h
  split at h
  · cases h
  · split at h
    · cases h
      exact ⟨_, rfl⟩
    · split at h
      · cases h
        exact ⟨_, rfl⟩
      · split at h
        · cases h
          exact ⟨_, rfl⟩
        · cases h
          exact ⟨_, rfl⟩

theorem requestChain_unconverted (h : (runOnRequestChain inst.middlewares s req ctx).1 = .ok (req', ctx'))
    (hsame : ctx'.targetProtocol = ctx'.detectedFormat) : ∃ body, req' = { req with body } := by
  obtain ⟨req₁, ctx₁, req₂, req₃, ctx₃, hcompress, halias, hr, hb⟩ := requestChain_steps h
  obtain ⟨body, c, -, hroute⟩ := onRequest_ok inst.serde inst.now inst.month hr
  obtain ⟨target₀, url, rewritePath, -, -, rfl, -⟩ := routeTo_ok inst.serde hroute
  obtain ⟨client, target, hclient, htarget, hcase⟩ := Bridge.onRequest_context hb
  have heq : target = client := by
    obtain ⟨-, rfl⟩ | rfl := hcase
    · exact Option.some.inj (htarget.symm.trans (hsame.trans hclient))
    · exact Option.some.inj (htarget.symm.trans (hsame.trans hclient))
  rw [heq] at htarget
  rw [Bridge.onRequest_same hclient htarget hb]
  obtain ⟨⟨body₁, rfl⟩, -⟩ := compressOnRequest_ok hcompress
  obtain ⟨body₂, rfl⟩ := aliasOnRequest_ok halias
  exact ⟨_, rfl⟩

end AgentProxy.Server
