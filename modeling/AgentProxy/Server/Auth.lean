import AgentProxy.Server.Bookkeeping

namespace AgentProxy.Server.Auth

structure AuthKeyEntry where
  role : String

structure AuthState where
  proxyApiKey : Option String
  proxyToken : Option String
  proxyAuthKeys : List (String × AuthKeyEntry)

def AuthState.hasAuth (auth : AuthState) : Bool :=
  auth.proxyApiKey.isSome || auth.proxyToken.isSome || !auth.proxyAuthKeys.isEmpty

def bearer (headers : HeaderMap) : Option String :=
  (headerText headers "authorization").bind fun v =>
    if "Bearer ".toList.isPrefixOf v.toList then some (String.ofList (v.toList.drop 7)) else none

def extractApiKey (headers : HeaderMap) : Option String :=
  match headerText headers "x-api-key" with
  | some key => some key
  | none => bearer headers

/-- The role that the handler finds in the request's extensions, or the status of the refusal. -/
def authMiddleware (auth : AuthState) (headers : HeaderMap) : Except StatusCode (Option String) :=
  if !auth.hasAuth then .ok none
  else if !auth.proxyAuthKeys.isEmpty then
    match (extractApiKey headers).bind fun k => auth.proxyAuthKeys.lookup k with
    | some entry => .ok (some entry.role)
    | none => .error .unauthorized
  else
    match auth.proxyApiKey with
    | some expected => if bearer headers = some expected then .ok none else .error .unauthorized
    | none =>
      match auth.proxyToken with
      | some expected =>
        if headerText headers "x-proxy-token" = some expected then .ok none else .error .unauthorized
      | none => .ok none

/-- The header by which a request authenticates. -/
def AuthState.credentialHeader (auth : AuthState) (headers : HeaderMap) : String :=
  if !auth.proxyAuthKeys.isEmpty then
    if (headerText headers "x-api-key").isSome then "x-api-key" else "authorization"
  else if auth.proxyApiKey.isSome then "authorization"
  else "x-proxy-token"

def AuthState.credential (auth : AuthState) (headers : HeaderMap) : Option HeaderValue :=
  HeaderMap.get headers (auth.credentialHeader headers)

def channelAuth (channel : ChannelConfig) : String × HeaderValue :=
  ("authorization", .text ("Bearer " ++ channel.apiKey))

structure Withheld (value : HeaderValue) (channel : ChannelConfig) (out : Outgoing) : Prop where
  credential : ∀ h ∈ out.headers, h.2 ≠ value
  authorization : out.headers.filter (fun h => h.1 = "authorization") =
    if channel.apiKey.isEmpty then [] else [channelAuth channel]

/-- The credential is not the proxy token, and neither another forwarded header nor the channel's key repeats it. -/
structure Apart (auth : AuthState) (headers : HeaderMap) (value : HeaderValue) (channel : ChannelConfig) : Prop where
  mode : auth.proxyAuthKeys ≠ [] ∨ auth.proxyApiKey.isSome
  headers : ∀ h ∈ headers, h.1 ∉ droppedRequestHeaders → h.2 ≠ value
  channel : channel.apiKey = "" ∨ (channelAuth channel).2 ≠ value

section

variable {auth : AuthState} {headers : HeaderMap} {value : HeaderValue}

theorem get_of_headerText {name text : String} (h : headerText headers name = some text) :
    HeaderMap.get headers name = some (.text text) := by
  obtain ⟨v, hv, htext⟩ := Option.bind_eq_some_iff.mp h
  cases v with
  | text s =>
    cases htext
    exact hv
  | binary bytes => cases htext

theorem get_mem {name : String} (h : HeaderMap.get headers name = some value) : (name, value) ∈ headers := by
  induction headers with
  | nil => cases h
  | cons field headers ih =>
    obtain ⟨n, v⟩ := field
    simp only [HeaderMap.get, List.lookup_cons] at h
    split at h
    · rename_i heq
      cases h
      rw [beq_iff_eq.mp heq]
      exact List.mem_cons_self
    · exact List.mem_cons_of_mem _ (ih h)

theorem bearer_get {key : String} (h : bearer headers = some key) : ∃ v, HeaderMap.get headers "authorization" = some v := by
  obtain ⟨text, htext, -⟩ := Option.bind_eq_some_iff.mp h
  exact ⟨_, get_of_headerText htext⟩

theorem authenticated_credential {role : Option String} (hconf : auth.hasAuth = true)
    (h : authMiddleware auth headers = .ok role) : ∃ v, auth.credential headers = some v := by
  unfold AuthState.credential AuthState.credentialHeader
  unfold authMiddleware at h
  rw [hconf] at h
  simp only [Bool.not_true, Bool.false_eq_true, if_false] at h
  split at h
  · rename_i hroles
    rw [if_pos hroles]
    split at h
    · rename_i entry hentry
      obtain ⟨key, hkey, -⟩ := Option.bind_eq_some_iff.mp hentry
      unfold extractApiKey at hkey
      split at hkey
      · rename_i text htext
        rw [htext, Option.isSome_some, if_pos rfl]
        exact ⟨_, get_of_headerText htext⟩
      · rename_i hnone
        rw [hnone, if_neg nofun]
        exact bearer_get hkey
    · cases h
  · rename_i hroles
    rw [if_neg hroles]
    split at h
    · rename_i expected hkey
      rw [hkey, Option.isSome_some, if_pos rfl]
      split at h
      · rename_i hbearer
        exact bearer_get hbearer
      · cases h
    · rename_i hkey
      rw [hkey, if_neg nofun]
      split at h
      · split at h
        · rename_i htoken
          exact ⟨_, get_of_headerText htoken⟩
        · cases h
      · rename_i htoken
        simp only [Bool.not_eq_true, Bool.not_eq_false'] at hroles
        simp [AuthState.hasAuth, hkey, htoken, hroles] at hconf

theorem mem_outgoing_headers {req : ProxyRequest} {channel : ChannelConfig} {h : String × HeaderValue} :
    h ∈ (outgoing req channel).headers ↔ (h ∈ req.headers ∧ h.1 ∉ droppedRequestHeaders) ∨
      channel.apiKey ≠ "" ∧ h = channelAuth channel := by
  simp only [outgoing, List.mem_append, List.mem_filter, decide_eq_true_eq, String.isEmpty_iff]
  by_cases hkey : channel.apiKey = ""
  · simp [hkey]
  · simp [hkey, channelAuth]

theorem outgoing_authorization (req : ProxyRequest) (channel : ChannelConfig) :
    (outgoing req channel).headers.filter (fun h => h.1 = "authorization") =
      if channel.apiKey.isEmpty then [] else [channelAuth channel] := by
  have hdropped : (req.headers.filter (fun h => h.1 ∉ droppedRequestHeaders)).filter
      (fun h => h.1 = "authorization") = [] := by
    rw [List.filter_eq_nil_iff]
    intro h hmem heq
    obtain ⟨-, hkept⟩ := List.mem_filter.mp hmem
    rw [of_decide_eq_true heq] at hkept
    exact absurd hkept (by decide)
  simp only [outgoing, List.filter_append, hdropped, List.nil_append]
  split
  · rfl
  · simp [channelAuth]

theorem withheld_iff {req : ProxyRequest} {channel : ChannelConfig} : Withheld value channel (outgoing req channel) ↔
    (∀ h ∈ req.headers, h.1 ∉ droppedRequestHeaders → h.2 ≠ value) ∧
      (channel.apiKey = "" ∨ (channelAuth channel).2 ≠ value) := by
  constructor
  · intro h
    refine ⟨fun f hf hkept => h.credential f (mem_outgoing_headers.mpr (.inl ⟨hf, hkept⟩)), ?_⟩
    by_cases hkey : channel.apiKey = ""
    · exact .inl hkey
    · exact .inr (h.credential _ (mem_outgoing_headers.mpr (.inr ⟨hkey, rfl⟩)))
  · rintro ⟨hheaders, hchannel⟩
    refine ⟨fun f hf => ?_, outgoing_authorization req channel⟩
    obtain ⟨hf, hkept⟩ | ⟨hkey, rfl⟩ := mem_outgoing_headers.mp hf
    · exact hheaders f hf hkept
    · exact hchannel.resolve_left hkey

theorem token_not_apart (hvalue : auth.credential headers = some value)
    (h : ∀ f ∈ headers, f.1 ∉ droppedRequestHeaders → f.2 ≠ value) (hroles : auth.proxyAuthKeys = [])
    (hkey : auth.proxyApiKey.isSome = false) : False := by
  have hname : auth.credentialHeader headers = "x-proxy-token" := by
    simp [AuthState.credentialHeader, hroles, hkey]
  rw [AuthState.credential, hname] at hvalue
  have hkept : "x-proxy-token" ∉ droppedRequestHeaders := by decide
  exact h ("x-proxy-token", value) (get_mem hvalue) hkept rfl

end

theorem credential_withheld_iff (inst : Installation) (around : Surroundings) (upstream : Outgoing → UpstreamOutcome)
    (maxBodySize : ℕ) (s : ProxyState) (inc : Incoming) (auth : AuthState) (f : Forwarded)
    (hconf : auth.hasAuth = true) (hauth : authMiddleware auth inc.request.headers = .ok inc.agentRole)
    (hf : (handleProxyRequest inst.serde inst.middlewares around upstream maxBodySize s inc).forwarded = some f)
    (hpass : f.ctx.targetProtocol = f.ctx.detectedFormat) :
    ∃ value, auth.credential inc.request.headers = some value ∧
      (Withheld value f.channel (outgoing f.req f.channel) ↔ Apart auth inc.request.headers value f.channel) := by
  obtain ⟨value, hvalue⟩ := authenticated_credential hconf hauth
  obtain ⟨format, s', -, hchain, -⟩ := handle_forwarded inst.serde inst.middlewares around upstream hf
  obtain ⟨body, hreq⟩ := requestChain_unconverted (congrArg Prod.fst hchain) hpass
  have hheaders : f.req.headers = inc.request.headers := by rw [hreq]
  refine ⟨value, hvalue, ?_⟩
  rw [withheld_iff, hheaders]
  constructor
  · rintro ⟨hkept, hchannel⟩
    refine ⟨?_, hkept, hchannel⟩
    by_contra hmode
    obtain ⟨hroles, hkey⟩ := not_or.mp hmode
    exact token_not_apart hvalue hkept (not_not.mp hroles) (by simpa using hkey)
  · intro h
    exact ⟨h.headers, h.channel⟩

def Sample.incoming (header value : String) : Incoming :=
  { Server.Sample.incoming with request := { Router.Sample.request with headers := [(header, .text value)] } }

def Sample.forwarded (header value : String) : Option Forwarded :=
  (handleProxyRequest Server.Sample.installation.serde Server.Sample.installation.middlewares Server.Sample.around
    (fun _ => .answered .ok [] (.ok (.utf8 ""))) 1024 (Server.Sample.state "deepseek" "deepseek")
    (Sample.incoming header value)).forwarded

theorem api_key_withheld : ∃ f, Sample.forwarded "authorization" "Bearer sk-proxy" = some f ∧
    Withheld (.text "Bearer sk-proxy") f.channel (outgoing f.req f.channel) := by
  refine ⟨_, rfl, ?_⟩
  obtain ⟨value, hvalue, hiff⟩ := credential_withheld_iff Server.Sample.installation Server.Sample.around
    (fun _ => .answered .ok [] (.ok (.utf8 ""))) 1024 (Server.Sample.state "deepseek" "deepseek")
    (Sample.incoming "authorization" "Bearer sk-proxy") ⟨some "sk-proxy", none, []⟩ _ rfl rfl rfl rfl
  cases hvalue
  refine hiff.mpr ⟨.inr rfl, ?_, .inr (by decide)⟩
  simp [Sample.incoming, droppedRequestHeaders]

theorem proxy_token_forwarded : ∃ f value, authMiddleware ⟨none, some "secret", []⟩
      (Sample.incoming "x-proxy-token" "secret").request.headers = .ok none ∧
    Sample.forwarded "x-proxy-token" "secret" = some f ∧ f.ctx.targetProtocol = f.ctx.detectedFormat ∧
    AuthState.credential ⟨none, some "secret", []⟩ (Sample.incoming "x-proxy-token" "secret").request.headers =
      some value ∧ ¬ Withheld value f.channel (outgoing f.req f.channel) := by
  refine ⟨_, .text "secret", rfl, rfl, rfl, rfl, fun h => ?_⟩
  exact h.credential ("x-proxy-token", .text "secret") (mem_outgoing_headers.mpr (.inl ⟨by decide, by decide⟩)) rfl

end AgentProxy.Server.Auth
