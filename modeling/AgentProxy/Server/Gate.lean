import AgentProxy.Lib.Bytes
import AgentProxy.Server.Auth

namespace AgentProxy.Server

open Bytes

/-- The headers as they arrive: lower-case names, values as bytes. -/
abbrev RawHeaders := List (String × List UInt8)

/-- `to_str` succeeds on visible ASCII only. -/
def HeaderValue.ofBytes (bytes : List UInt8) : HeaderValue :=
  match visibleText? bytes with
  | some s => .text s
  | none => .binary bytes

def RawHeaders.received (raw : RawHeaders) : HeaderMap := raw.map fun h => (h.1, HeaderValue.ofBytes h.2)

theorem toStr_ofBytes (bytes : List UInt8) : (HeaderValue.ofBytes bytes).toStr = visibleText? bytes := by
  unfold HeaderValue.ofBytes
  split
  · rename_i s h
    rw [h]
    rfl
  · rename_i h
    rw [h]
    rfl

theorem headerText_received (raw : RawHeaders) (name : String) :
    headerText raw.received name = (raw.lookup name).bind visibleText? := by
  unfold headerText HeaderMap.get RawHeaders.received
  induction raw with
  | nil => rfl
  | cons h raw ih =>
    rw [List.map_cons, List.lookup_cons, List.lookup_cons]
    split
    · exact toStr_ofBytes h.2
    · exact ih

theorem headerText_received_eq_some_iff {raw : RawHeaders} {name s : String} :
    headerText raw.received name = some s ↔
      ∃ bytes, raw.lookup name = some bytes ∧ bytes.all isVisible = true ∧ bytes = utf8 s := by
  rw [headerText_received, Option.bind_eq_some_iff]
  simp only [visibleText?_eq_some_iff]

namespace Auth

theorem bearer_eq_some_iff {headers : HeaderMap} {key : String} :
    bearer headers = some key ↔ headerText headers "authorization" = some ("Bearer " ++ key) := by
  unfold bearer
  rw [Option.bind_eq_some_iff]
  constructor
  · rintro ⟨v, hv, hkey⟩
    split at hkey
    · rename_i hstart
      obtain ⟨rest, hrest⟩ := List.isPrefixOf_iff_prefix.mp hstart
      have hdrop : v.toList.drop 7 = rest := by
        rw [← hrest]
        exact List.drop_left' rfl
      have hlist : (String.ofList rest).toList = rest := String.toList_ofList
      cases hkey
      rw [hv, Option.some_inj, ← String.toList_inj, String.toList_append, hdrop, hlist, hrest]
    · cases hkey
  · intro h
    refine ⟨_, h, ?_⟩
    rw [String.toList_append, if_pos (List.isPrefixOf_iff_prefix.mpr (List.prefix_append _ _))]
    exact congrArg some String.ofList_toList

/-- `authMiddleware` with another value in place of its last, unconditional pass. -/
def authMiddlewareEnding (last : Except StatusCode (Option String)) (auth : AuthState) (headers : HeaderMap) :
    Except StatusCode (Option String) :=
  if !auth.hasAuth then .ok none
  else if !auth.proxyAuthKeys.isEmpty then
    match (extractApiKey headers).bind fun k => auth.proxyAuthKeys.lookup k with
    | some entry => .ok (some entry.role)
    | none => .error .unauthorized
  else
    match auth.proxyApiKey with
    | some expected => if bearer headers = some expected then .ok none else .error .unauthorized
    | none =>
      match auth.proxyToken with
      | some expected =>
        if headerText headers "x-proxy-token" = some expected then .ok none else .error .unauthorized
      | none => last

/-- The requests that the gate is meant to admit, and the role each is given; `reads` says which bytes spell a text. -/
inductive Admitted (reads : List UInt8 → String → Prop) (auth : AuthState) (raw : RawHeaders) : Option String → Prop
  | unconfigured (hkey : auth.proxyApiKey = none) (htoken : auth.proxyToken = none) (hroles : auth.proxyAuthKeys = []) :
      Admitted reads auth raw none
  | role {key : String} {entry : AuthKeyEntry} (hroles : auth.proxyAuthKeys ≠ [])
      (hextract : extractApiKey raw.received = some key) (hentry : auth.proxyAuthKeys.lookup key = some entry) :
      Admitted reads auth raw (some entry.role)
  | apiKey {key : String} {bytes : List UInt8} (hroles : auth.proxyAuthKeys = []) (hkey : auth.proxyApiKey = some key)
      (hheader : raw.lookup "authorization" = some bytes) (hreads : reads bytes ("Bearer " ++ key)) :
      Admitted reads auth raw none
  | token {token : String} {bytes : List UInt8} (hroles : auth.proxyAuthKeys = []) (hkey : auth.proxyApiKey = none)
      (htoken : auth.proxyToken = some token) (hheader : raw.lookup "x-proxy-token" = some bytes)
      (hreads : reads bytes token) : Admitted reads auth raw none

def SpelledBy (bytes : List UInt8) (s : String) : Prop := bytes = utf8 s

def VisiblySpelledBy (bytes : List UInt8) (s : String) : Prop := bytes.all isVisible = true ∧ bytes = utf8 s

section

variable {auth : AuthState} {raw : RawHeaders} {role : Option String}

theorem hasAuth_eq_false_iff : auth.hasAuth = false ↔
    auth.proxyApiKey = none ∧ auth.proxyToken = none ∧ auth.proxyAuthKeys = [] := by
  simp [AuthState.hasAuth, and_assoc]

theorem authMiddleware_of_roles (headers : HeaderMap) (h : auth.proxyAuthKeys ≠ []) :
    authMiddleware auth headers = .ok role ↔ ∃ key entry, extractApiKey headers = some key ∧
      auth.proxyAuthKeys.lookup key = some entry ∧ role = some entry.role := by
  have hconf : auth.hasAuth = true := by simp [AuthState.hasAuth, h]
  have hne : auth.proxyAuthKeys.isEmpty = false := by simpa using h
  unfold authMiddleware
  simp only [hconf, hne, Bool.not_true, Bool.not_false, Bool.false_eq_true, if_false, if_true]
  split
  · rename_i entry hentry
    obtain ⟨key, hkey, hlookup⟩ := Option.bind_eq_some_iff.mp hentry
    constructor
    · rintro ⟨⟩
      exact ⟨key, entry, hkey, hlookup, rfl⟩
    · rintro ⟨key', entry', hkey', hlookup', rfl⟩
      rw [hkey, Option.some_inj] at hkey'
      rw [← hkey', hlookup, Option.some_inj] at hlookup'
      rw [hlookup']
  · rename_i hnone
    constructor
    · rintro ⟨⟩
    · rintro ⟨key, entry, hkey, hlookup, -⟩
      rw [hkey, Option.bind_some, hlookup] at hnone
      cases hnone

theorem authMiddleware_of_apiKey (headers : HeaderMap) {key : String} (hroles : auth.proxyAuthKeys = [])
    (hkey : auth.proxyApiKey = some key) : authMiddleware auth headers = .ok role ↔
      role = none ∧ headerText headers "authorization" = some ("Bearer " ++ key) := by
  have hconf : auth.hasAuth = true := by simp [AuthState.hasAuth, hkey]
  unfold authMiddleware
  simp only [hconf, hroles, hkey, Bool.not_true, Bool.false_eq_true, if_false, List.isEmpty_nil, bearer_eq_some_iff]
  split
  · rename_i hheader
    simp [hheader, eq_comm]
  · rename_i hheader
    simp [hheader]

theorem authMiddleware_of_token (headers : HeaderMap) {token : String} (hroles : auth.proxyAuthKeys = [])
    (hkey : auth.proxyApiKey = none) (htoken : auth.proxyToken = some token) :
    authMiddleware auth headers = .ok role ↔ role = none ∧ headerText headers "x-proxy-token" = some token := by
  have hconf : auth.hasAuth = true := by simp [AuthState.hasAuth, htoken]
  unfold authMiddleware
  simp only [hconf, hroles, hkey, htoken, Bool.not_true, Bool.false_eq_true, if_false, List.isEmpty_nil]
  split
  · rename_i hheader
    simp [hheader, eq_comm]
  · rename_i hheader
    simp [hheader]

theorem authMiddleware_of_unconfigured (headers : HeaderMap) (h : auth.hasAuth = false) :
    authMiddleware auth headers = .ok role ↔ role = none := by
  unfold authMiddleware
  simp [h, eq_comm]

theorem admitted_of_authMiddleware (h : authMiddleware auth raw.received = .ok role) :
    Admitted VisiblySpelledBy auth raw role := by
  by_cases hroles : auth.proxyAuthKeys = []
  · rcases hkey : auth.proxyApiKey with _ | key
    · rcases htoken : auth.proxyToken with _ | token
      · have hconf := hasAuth_eq_false_iff.mpr ⟨hkey, htoken, hroles⟩
        rw [(authMiddleware_of_unconfigured _ hconf).mp h]
        exact .unconfigured hkey htoken hroles
      · obtain ⟨rfl, hheader⟩ := (authMiddleware_of_token _ hroles hkey htoken).mp h
        obtain ⟨bytes, hbytes, hreads⟩ := headerText_received_eq_some_iff.mp hheader
        exact .token hroles hkey htoken hbytes hreads
    · obtain ⟨rfl, hheader⟩ := (authMiddleware_of_apiKey _ hroles hkey).mp h
      obtain ⟨bytes, hbytes, hreads⟩ := headerText_received_eq_some_iff.mp hheader
      exact .apiKey hroles hkey hbytes hreads
  · obtain ⟨key, entry, hextract, hentry, rfl⟩ := (authMiddleware_of_roles _ hroles).mp h
    exact .role hroles hextract hentry

theorem authMiddleware_of_admitted (h : Admitted VisiblySpelledBy auth raw role) :
    authMiddleware auth raw.received = .ok role := by
  cases h with
  | unconfigured hkey htoken hroles =>
    exact (authMiddleware_of_unconfigured _ (hasAuth_eq_false_iff.mpr ⟨hkey, htoken, hroles⟩)).mpr rfl
  | role hroles hextract hentry => exact (authMiddleware_of_roles _ hroles).mpr ⟨_, _, hextract, hentry, rfl⟩
  | apiKey hroles hkey hheader hreads =>
    exact (authMiddleware_of_apiKey _ hroles hkey).mpr
      ⟨rfl, headerText_received_eq_some_iff.mpr ⟨_, hheader, hreads⟩⟩
  | token hroles hkey htoken hheader hreads =>
    exact (authMiddleware_of_token _ hroles hkey htoken).mpr
      ⟨rfl, headerText_received_eq_some_iff.mpr ⟨_, hheader, hreads⟩⟩

theorem authMiddlewareEnding_eq (last : Except StatusCode (Option String)) (headers : HeaderMap) :
    authMiddlewareEnding last auth headers = authMiddleware auth headers := by
  unfold authMiddlewareEnding authMiddleware
  by_cases hconf : auth.hasAuth = true
  · by_cases hroles : auth.proxyAuthKeys = []
    · rcases hkey : auth.proxyApiKey with _ | key
      · rcases htoken : auth.proxyToken with _ | token
        · rw [hasAuth_eq_false_iff.mpr ⟨hkey, htoken, hroles⟩] at hconf
          cases hconf
        · rfl
      · rfl
    · have hne : auth.proxyAuthKeys.isEmpty = false := by simpa using hroles
      rcases hentry : (extractApiKey headers).bind fun k => auth.proxyAuthKeys.lookup k with _ | entry
      · simp only [hne, Bool.not_false, if_true]
      · simp only [hne, Bool.not_false, if_true]
  · rw [Bool.not_eq_true] at hconf
    simp only [hconf, Bool.not_false, if_true]

end

theorem auth_gate_exact (auth : AuthState) (raw : RawHeaders) (role : Option String) :
    (authMiddleware auth raw.received = .ok role ↔ Admitted VisiblySpelledBy auth raw role) ∧
      ∀ last, authMiddlewareEnding last auth raw.received = authMiddleware auth raw.received :=
  ⟨⟨admitted_of_authMiddleware, authMiddleware_of_admitted⟩, fun last => authMiddlewareEnding_eq last _⟩

def Sample.accented : AuthState := ⟨some "clé", none, []⟩

def Sample.accentedHeaders : RawHeaders := [("authorization", utf8 "Bearer clé")]

theorem accented_key_refused : Admitted SpelledBy Sample.accented Sample.accentedHeaders none ∧
    authMiddleware Sample.accented Sample.accentedHeaders.received = .error .unauthorized :=
  ⟨.apiKey rfl rfl rfl rfl, by decide +kernel⟩

end Auth

end AgentProxy.Server
