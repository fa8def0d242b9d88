import AgentProxy.Router.Middleware

namespace AgentProxy.Router

def ResolvedMapping.allows (m : ResolvedMapping) (p : String) : Prop := m.allowedProtocols = [] ∨ p ∈ m.allowedProtocols

structure Resolved (c : Candidate) (detected : Option ApiFormat) (ctx : ConnectionContext) (cfg : ChannelConfig) :
    Prop where
  selected : ctx.selectedChannel = some cfg
  target : ctx.targetProtocol = some cfg.protocol
  offered : ∃ e ∈ c.1.protocols, e.protocol = protocolToStr cfg.protocol
  allowed : c.2.allowedProtocols ≠ [] → protocolToStr cfg.protocol ∈ c.2.allowedProtocols
  entry : ∃ e, c.1.protocols.find? (fun e => e.protocol = protocolToStr cfg.protocol) = some e ∧
    cfg.url = e.baseUrl ∧ cfg.rewritePath = e.rewritePath
  url : cfg.url ≠ ""
  forced : ∀ fp, c.1.forceProtocol = some fp → c.2.allows fp → protocolToStr cfg.protocol = fp
  passthrough : ∀ df, c.1.forceProtocol = none → detected = some df →
    (∃ e ∈ c.1.protocols, e.protocol = protocolToStr df) → c.2.allows (protocolToStr df) → cfg.protocol = df

section

variable {c : Candidate} {detected : Option ApiFormat} {protocols : List ProtocolEntry} {first target : ApiFormat}

theorem offers_iff {p : String} : offers protocols p = true ↔ ∃ e ∈ protocols, e.protocol = p := by
  simp [offers]

theorem fallbackProtocol_offered (h : fallbackProtocol protocols = .ok target) :
    offers protocols (protocolToStr target) = true := by
  unfold fallbackProtocol at h
  split at h
  · rename_i e he
    split at h
    · cases h
    · rw [offers_iff, protocolToStr_parseProtocol h]
      exact ⟨e, List.mem_of_head? he, rfl⟩
  · cases h

theorem resolveTargetProtocol_forced {fp : String}
    (h : resolveTargetProtocol (some fp) detected protocols = .ok target) :
    protocolToStr target = fp ∧ offers protocols (protocolToStr target) = true := by
  simp only [resolveTargetProtocol] at h
  rcases hparse : parseProtocol fp with e | t
  · rw [hparse] at h
    cases h
  · rw [hparse] at h
    simp only [bind, Except.bind] at h
    split at h
    · rename_i hoffers
      cases h
      exact ⟨protocolToStr_parseProtocol hparse, hoffers⟩
    · cases h

theorem resolveTargetProtocol_passthrough {df : ApiFormat} (hoffers : offers protocols (protocolToStr df) = true) :
    resolveTargetProtocol none (some df) protocols = .ok df := if_pos hoffers

theorem resolveTargetProtocol_offered {forceProtocol : Option String}
    (h : resolveTargetProtocol forceProtocol detected protocols = .ok target) :
    offers protocols (protocolToStr target) = true := by
  rcases forceProtocol with _ | fp
  · rcases detected with _ | df
    · exact fallbackProtocol_offered h
    · by_cases hoffers : offers protocols (protocolToStr df) = true
      · rw [resolveTargetProtocol_passthrough hoffers] at h
        cases h
        exact hoffers
      · simp only [resolveTargetProtocol, if_neg hoffers] at h
        exact fallbackProtocol_offered h
  · exact (resolveTargetProtocol_forced h).2

theorem constrainProtocol_of_allows (h : c.2.allows (protocolToStr first)) :
    constrainProtocol c.1 c.2 first = .ok first := by
  apply if_pos
  rwa [List.isEmpty_iff]

theorem constrainProtocol_ok (h : constrainProtocol c.1 c.2 first = .ok target)
    (hoffers : offers c.1.protocols (protocolToStr first) = true) :
    c.2.allows (protocolToStr target) ∧ offers c.1.protocols (protocolToStr target) = true := by
  by_cases hallows : c.2.allows (protocolToStr first)
  · rw [constrainProtocol_of_allows hallows] at h
    cases h
    exact ⟨hallows, hoffers⟩
  · unfold constrainProtocol at h
    rw [if_neg (by rwa [List.isEmpty_iff])] at h
    split at h
    · rename_i e he
      have hmem : e.protocol ∈ c.2.allowedProtocols := by simpa using List.find?_some he
      rw [offers_iff, protocolToStr_parseProtocol h]
      exact ⟨.inr hmem, e, List.mem_of_find?_eq_some he, rfl⟩
    · cases h

theorem targetProtocol_ok (h : targetProtocol c.1 c.2 detected = .ok target) :
    ∃ first, resolveTargetProtocol c.1.forceProtocol detected c.1.protocols = .ok first ∧
      constrainProtocol c.1 c.2 first = .ok target := by
  unfold targetProtocol at h
  rcases hfirst : resolveTargetProtocol c.1.forceProtocol detected c.1.protocols with e | first
  · rw [hfirst] at h
    cases h
  · rw [hfirst] at h
    exact ⟨first, rfl, h⟩

theorem resolveUpstreamUrl_ok {url : String} {rewritePath : Option String}
    (h : resolveUpstreamUrl target protocols = .ok (url, rewritePath)) :
    ∃ e, protocols.find? (fun e => e.protocol = protocolToStr target) = some e ∧
      url = e.baseUrl ∧ rewritePath = e.rewritePath ∧ url ≠ "" := by
  unfold resolveUpstreamUrl at h
  split at h
  · cases h
  · rename_i e he
    split at h
    · cases h
    · rename_i hurl
      cases h
      exact ⟨e, he, rfl, rfl, by simpa using hurl⟩

theorem routeTo_resolved {serde : Serde} {apiKey : String} {body : Json} {req req' : ProxyRequest}
    {ctx ctx' : ConnectionContext} (h : routeTo serde c apiKey body req ctx = .ok (req', ctx')) :
    ∃ cfg, Resolved c ctx.detectedFormat ctx' cfg := by
  obtain ⟨target, url, rewritePath, htarget, hurl, -, rfl⟩ := routeTo_ok serde h
  obtain ⟨first, hfirst, hconstrain⟩ := targetProtocol_ok htarget
  obtain ⟨hallows, hoffers⟩ := constrainProtocol_ok hconstrain (resolveTargetProtocol_offered hfirst)
  obtain ⟨e, he, hbase, hrewrite, hne⟩ := resolveUpstreamUrl_ok hurl
  -- an allowed first choice is not overridden by the mapping's constraint
  have hkept : c.2.allows (protocolToStr first) → first = target := by
    intro hfirstAllowed
    rw [constrainProtocol_of_allows hfirstAllowed] at hconstrain
    exact Except.ok.inj hconstrain
  refine ⟨_, rfl, rfl, offers_iff.mp hoffers, hallows.resolve_left, ⟨e, he, hbase, hrewrite⟩, hne, ?_, ?_⟩
  · intro fp hforce hfp
    rw [hforce] at hfirst
    obtain ⟨hstr, -⟩ := resolveTargetProtocol_forced hfirst
    rw [← hstr] at hfp
    rw [← hkept hfp, hstr]
  · intro df hforce hdetected hdf hdfAllowed
    rw [hforce, hdetected, resolveTargetProtocol_passthrough (offers_iff.mpr hdf)] at hfirst
    cases hfirst
    exact (hkept hdfAllowed).symm

end

theorem resolution_sound (serde : Serde) (now month : ℕ) (r : RouterState) (req req' : ProxyRequest)
    (ctx ctx' : ConnectionContext) (h : (onRequest serde now month r req ctx).1 = .ok (req', ctx')) :
    ∃ body c cfg, (selectFor serde now month r req).1 = .ok (body, c) ∧ Resolved c ctx.detectedFormat ctx' cfg := by
  obtain ⟨body, c, hselect, hroute⟩ := onRequest_ok serde now month h
  obtain ⟨cfg, hcfg⟩ := routeTo_resolved hroute
  exact ⟨body, c, cfg, hselect, hcfg⟩

def Sample.routed : RouterState := fromStorage Sample.serde (Sample.database "deepseek" "DeepSeek" "sk")

theorem resolution_sound_passthrough : ∃ req' ctx', (onRequest Sample.serde 0 0 Sample.routed Sample.request
      Sample.context).1 = .ok (req', ctx') ∧
    ∃ body c cfg, (selectFor Sample.serde 0 0 Sample.routed Sample.request).1 = .ok (body, c) ∧
      Resolved c (some .openaiChat) ctx' cfg :=
  ⟨_, _, rfl, resolution_sound Sample.serde 0 0 Sample.routed Sample.request _ Sample.context _ rfl⟩

end AgentProxy.Router
