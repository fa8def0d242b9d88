import AgentProxy.Lib.Projection
import AgentProxy.Resilience.RateLimiter
import AgentProxy.Resilience.Traffic
import AgentProxy.Server.Chain

namespace AgentProxy.Resilience.Stack

open Server CircuitBreaker Transition

structure RetryConfig where
  maxRetries : UInt32 := 3
  baseDelay : ℕ := 100 * 1000000
  maxDelay : ℕ := 5 * 1000000000

/-- Delays are nanoseconds. `2u32.pow` overflows from attempt 32 on, which is not modelled. -/
def backoffDelay (attempt : UInt32) (config : RetryConfig) : ℕ :=
  min (config.baseDelay * 2 ^ attempt.toNat) config.maxDelay

/-- What the middlewares of this crate share; `now` is the clock that they read. -/
structure Guards where
  circuits : Circuits
  buckets : RateLimiter.Buckets
  now : ℕ

def Guards.circuit (g : Guards) (channel : String) : ChannelCircuit := (g.circuits channel).getD .new

structure Recording where
  res : ProxyResponse
  ctx : ConnectionContext

def Guards.record (config : CircuitBreakerConfig) (g : Guards) (r : Recording) : Guards :=
  { g with circuits := CircuitBreaker.onResponse config g.now g.circuits r.res r.ctx }

abbrev Guard := Middleware Guards Recording

def breaker (config : CircuitBreakerConfig) : Guard where
  name := "circuit-breaker"
  onRequest g req ctx :=
    let r := CircuitBreaker.onRequest config g.now g.circuits ctx
    ((r.2.mapError Abort.error).map fun _ => (req, ctx), { g with circuits := r.1 })
  onResponse _ res ctx := ([⟨res, ctx⟩], .ok res)

def limiter (config : RateLimiter.RateLimitConfig) : Guard where
  name := "rate-limiter"
  onRequest g req ctx :=
    let r := RateLimiter.onRequest config g.now g.buckets ctx
    ((r.2.mapError Abort.error).map fun _ => (req, ctx), { g with buckets := r.1 })
  onResponse _ res _ := ([], .ok res)

/-- The value of `EXT_RETRYABLE`, which nothing writes. -/
def extRetryable (_ : ConnectionContext) : Option UInt32 := none

def retry (config : RetryConfig) : Guard where
  name := "retry"
  onRequest g req ctx := (.ok (req, ctx), g)
  onResponse _ res ctx :=
    let attempt := (extRetryable ctx).getD 0
    if isRetryable res.status ∧ attempt < config.maxRetries then
      ([], .error (.rateLimited (backoffDelay attempt config)))
    else ([], .ok res)

structure Traffic where
  guards : Guards
  inFlight : ℕ → Option ConnectionContext

def Traffic.start : Traffic := ⟨⟨fun _ => none, fun _ => none, 0⟩, fun _ => none⟩

inductive Event where
  | request (now i : ℕ) (req : ProxyRequest) (ctx : ConnectionContext)
  | response (now i : ℕ) (res : ProxyResponse)

def Guards.at (g : Guards) (now : ℕ) : Guards := { g with now }

section

variable (config : CircuitBreakerConfig) (outer inner : List Guard)

def stack : List Guard := outer ++ breaker config :: inner

/-- A request that is let through is in flight until its response runs through the chain. -/
def step (s : Traffic) : Event → Option Traffic
  | .request now i req ctx =>
    if s.guards.now ≤ now ∧ s.inFlight i = none then
      match runOnRequestChain (stack config outer inner) (s.guards.at now) req ctx with
      | (.ok (_, ctx'), g) => some ⟨g, Function.update s.inFlight i (some ctx')⟩
      | (.error _, g) => some ⟨g, s.inFlight⟩
    else none
  | .response now i res =>
    match s.inFlight i with
    | none => none
    | some ctx =>
      if s.guards.now ≤ now then
        let ops := (runOnResponseChain (stack config outer inner) (s.guards.at now) res ctx).1
        some ⟨ops.foldl (Guards.record config) (s.guards.at now), Function.update s.inFlight i none⟩
      else none

/-- The call on the circuit of `channel`: what the middlewares before the breaker let through. -/
def callOn (channel : String) (s : Traffic) : Event → Option (ℕ × Call)
  | .request now _ req ctx =>
    match (runOnRequestChain outer (s.guards.at now) req ctx).1 with
    | .ok (_, ctx') => if channelId ctx' = channel then some (now, .allowRequest) else none
    | .error _ => none
  | .response now i res =>
    (s.inFlight i).bind fun ctx =>
      match (runOnResponseChain inner (s.guards.at now) res ctx).2 with
      | .ok res' =>
        if channelId ctx = channel then
          some (now, if isRetryable res'.status then .recordFailure else .recordSuccess)
        else none
      | .error _ => none

end

/-- A middleware that neither touches the circuits and the clock nor records an outcome. -/
structure Neutral (mw : Guard) : Prop where
  circuits : ∀ g req ctx, (mw.onRequest g req ctx).2.circuits = g.circuits
  now : ∀ g req ctx, (mw.onRequest g req ctx).2.now = g.now
  silent : ∀ g res ctx, (mw.onResponse g res ctx).1 = []

theorem limiter_neutral (config : RateLimiter.RateLimitConfig) : Neutral (limiter config) :=
  ⟨fun _ _ _ => rfl, fun _ _ _ => rfl, fun _ _ _ => rfl⟩

theorem retry_neutral (config : RetryConfig) : Neutral (retry config) := by
  refine ⟨fun _ _ _ => rfl, fun _ _ _ => rfl, fun g res ctx => ?_⟩
  simp only [retry]
  split
  · rfl
  · rfl

section

variable {config : CircuitBreakerConfig} {outer inner : List Guard} {channel : String} {s t : Traffic} {g : Guards}
  {req : ProxyRequest} {res : ProxyResponse} {ctx : ConnectionContext}

theorem requests_circuits {mws : List Guard} (h : ∀ mw ∈ mws, Neutral mw) (g : Guards) (req : ProxyRequest)
    (ctx : ConnectionContext) : (runOnRequestChain mws g req ctx).2.circuits = g.circuits :=
  @runOnRequestChain_view _ _ _ Guards.circuits _ (fun mw hmw => (h mw hmw).circuits) g req ctx

theorem requests_now {mws : List Guard} (h : ∀ mw ∈ mws, Neutral mw) (g : Guards) (req : ProxyRequest)
    (ctx : ConnectionContext) : (runOnRequestChain mws g req ctx).2.now = g.now :=
  @runOnRequestChain_view _ _ _ Guards.now _ (fun mw hmw => (h mw hmw).now) g req ctx

theorem responses_silent {mws : List Guard} (h : ∀ mw ∈ mws, Neutral mw) (g : Guards) (res : ProxyResponse)
    (ctx : ConnectionContext) : (runResponses g ctx mws res).1 = [] := by
  induction mws generalizing res with
  | nil => rfl
  | cons mw mws ih =>
    obtain ⟨hmw, hrest⟩ := List.forall_mem_cons.mp h
    have hfirst := hmw.silent g res ctx
    simp only [runResponses]
    split
    all_goals
      rename_i hout
      rw [hout] at hfirst
      subst hfirst
    · exact ih hrest _
    · rfl

theorem chain_silent {mws : List Guard} (h : ∀ mw ∈ mws, Neutral mw) (g : Guards) (res : ProxyResponse)
    (ctx : ConnectionContext) : (runOnResponseChain mws g res ctx).1 = [] :=
  responses_silent (fun mw hmw => h mw (List.mem_reverse.mp hmw)) g res ctx

theorem request_circuits (houter : ∀ mw ∈ outer, Neutral mw) (hinner : ∀ mw ∈ inner, Neutral mw) :
    (runOnRequestChain (stack config outer inner) g req ctx).2.circuits =
      match (runOnRequestChain outer g req ctx).1 with
      | .ok (_, ctx') => (CircuitBreaker.onRequest config g.now g.circuits ctx').1
      | .error _ => g.circuits := by
  have hcircuits := requests_circuits houter g req ctx
  have hnow := requests_now houter g req ctx
  rw [stack, runOnRequestChain_append]
  rcases hchain : runOnRequestChain outer g req ctx with ⟨⟨e⟩ | ⟨req', ctx'⟩, g'⟩
  · rw [hchain] at hcircuits
    exact hcircuits
  · rw [hchain] at hcircuits hnow
    dsimp only at hcircuits hnow ⊢
    rw [← hcircuits, ← hnow]
    simp only [runOnRequestChain, breaker]
    rcases hbreaker : CircuitBreaker.onRequest config g'.now g'.circuits ctx' with ⟨circuits, ⟨e⟩ | ⟨⟨⟩⟩⟩
    · rfl
    · exact requests_circuits hinner _ _ _

theorem response_recorded (houter : ∀ mw ∈ outer, Neutral mw) (hinner : ∀ mw ∈ inner, Neutral mw) :
    (runOnResponseChain (stack config outer inner) g res ctx).1 =
      match (runOnResponseChain inner g res ctx).2 with
      | .ok res' => [⟨res', ctx⟩]
      | .error _ => [] := by
  have hsplit : stack config outer inner = (outer ++ [breaker config]) ++ inner := by simp [stack]
  have hinnerSilent := chain_silent hinner g res ctx
  rw [hsplit, runOnResponseChain_append]
  rcases hchain : runOnResponseChain inner g res ctx with ⟨ops, e | res'⟩
  · rw [hchain] at hinnerSilent
    exact hinnerSilent
  · rw [hchain] at hinnerSilent
    dsimp only at hinnerSilent ⊢
    rw [hinnerSilent, List.nil_append, runOnResponseChain_append]
    have houterSilent := chain_silent houter g res' ctx
    simp only [runOnResponseChain, List.reverse_singleton, runResponses, breaker, List.append_nil] at houterSilent ⊢
    rw [houterSilent]
    rfl

theorem step_circuit (houter : ∀ mw ∈ outer, Neutral mw) (hinner : ∀ mw ∈ inner, Neutral mw) (hne : channel ≠ "")
    {e : Event} (h : step config outer inner s e = some t) : t.guards.circuit channel =
      (callOn outer inner channel s e).toList.foldl (CircuitBreaker.apply config) (s.guards.circuit channel) := by
  cases e with
  | request now i req ctx =>
    have hcircuits := @request_circuits config outer inner (s.guards.at now) req ctx houter hinner
    have ht : t.guards.circuits = (runOnRequestChain (stack config outer inner) (s.guards.at now) req ctx).2.circuits := by
      simp only [step] at h
      split at h
      · split at h
        all_goals
          rename_i hout
          cases h
          rw [hout]
      · cases h
    rw [Guards.circuit, ht, hcircuits, callOn]
    rcases (runOnRequestChain outer (s.guards.at now) req ctx).1 with e | ⟨req', ctx'⟩
    · rfl
    · dsimp only
      have hcall := @onRequest_circuit config channel ⟨s.guards.circuits, fun _ => none, 0⟩ now ctx'
      refine hcall.trans ?_
      split_ifs with hchannel hid hid
      · rfl
      · exact absurd hchannel.1 hid
      · exact absurd ⟨hid, hne⟩ hchannel
      · rfl
  | response now i res =>
    simp only [step] at h
    split at h
    · cases h
    · rename_i ctx hctx
      split at h
      · cases h
        have hops := @response_recorded config outer inner (s.guards.at now) res ctx houter hinner
        simp only [callOn, hctx, Option.bind_some]
        rw [hops]
        rcases (runOnResponseChain inner (s.guards.at now) res ctx).2 with e | res'
        · rfl
        · dsimp only
          have hcall := @onResponse_circuit config channel ⟨s.guards.circuits, fun _ => none, 0⟩ now res' ctx
          refine hcall.trans ?_
          by_cases hid : channelId ctx = channel
          · rw [if_pos ⟨hid, hne⟩, if_pos hid]
            cases isRetryable res'.status
            · rfl
            · rfl
          · rw [if_neg fun h => hid h.1, if_neg hid]
            rfl
      · cases h

def calls (config : CircuitBreakerConfig) (outer inner : List Guard) (channel : String) (es : List Event) :
    List (ℕ × Call) :=
  opsAlong (step config outer inner) (callOn outer inner channel) .start es

theorem run_circuit (houter : ∀ mw ∈ outer, Neutral mw) (hinner : ∀ mw ∈ inner, Neutral mw) (hne : channel ≠ "")
    {es : List Event} (h : run (step config outer inner) .start es = some t) :
    t.guards.circuit channel = after config (calls config outer inner channel es) := by
  have hmeets : Meets (step config outer inner) (fun _ _ => True) .start es := meets_of_forall (fun _ _ _ => trivial) _
  exact run_view (fun _ _ _ _ => step_circuit houter hinner hne) hmeets h

end

def Keeps (mw : Guard) : Prop :=
  ∀ g res ctx res', (mw.onResponse g res ctx).2 = .ok res' → isRetryable res'.status = isRetryable res.status

def Passes (mw : Guard) : Prop := ∀ g res ctx, ∃ res', (mw.onResponse g res ctx).2 = .ok res'

section

variable {config : CircuitBreakerConfig} {outer inner middle mws : List Guard} {channel : String} {t : Traffic}
  {es : List Event} {rc : RetryConfig} {g : Guards} {res res' : ProxyResponse} {ctx : ConnectionContext}

theorem chain_keeps (h : ∀ mw ∈ mws, Keeps mw) (hres : (runOnResponseChain mws g res ctx).2 = .ok res') :
    isRetryable res'.status = isRetryable res.status := by
  induction mws generalizing res' with
  | nil =>
    cases hres
    rfl
  | cons mw mws ih =>
    obtain ⟨hmw, hrest⟩ := List.forall_mem_cons.mp h
    rw [runOnResponseChain_cons] at hres
    rcases hinner : runOnResponseChain mws g res ctx with ⟨ops, e | mid⟩
    · rw [hinner] at hres
      cases hres
    · rw [hinner] at hres
      exact (hmw g mid ctx res' hres).trans (ih hrest (by rw [hinner]))

theorem chain_passes (h : ∀ mw ∈ mws, Passes mw) (g : Guards) (res : ProxyResponse) (ctx : ConnectionContext) :
    ∃ res', (runOnResponseChain mws g res ctx).2 = .ok res' := by
  induction mws with
  | nil => exact ⟨res, rfl⟩
  | cons mw mws ih =>
    obtain ⟨hmw, hrest⟩ := List.forall_mem_cons.mp h
    obtain ⟨mid, hmid⟩ := ih hrest
    rw [runOnResponseChain_cons]
    rcases hinner : runOnResponseChain mws g res ctx with ⟨ops, out⟩
    rw [hinner] at hmid
    subst hmid
    exact hmw g mid ctx

theorem retry_answer (hretries : 1 ≤ rc.maxRetries) (hres : isRetryable res.status = true) :
    (retry rc).onResponse g res ctx = ([], .error (.rateLimited (backoffDelay 0 rc))) := by
  have hfirst : (0 : UInt32) < rc.maxRetries := UInt32.lt_of_lt_of_le (by decide) hretries
  exact if_pos ⟨hres, hfirst⟩

theorem retry_stops (hretries : 1 ≤ rc.maxRetries) (hres : ((retry rc).onResponse g res ctx).2 = .ok res') :
    isRetryable res'.status = false := by
  cases hstatus : isRetryable res.status with
  | true =>
    rw [retry_answer hretries hstatus] at hres
    cases hres
  | false =>
    simp only [retry, hstatus, Bool.false_eq_true, false_and, if_false] at hres
    cases hres
    exact hstatus

theorem hidden_failures (hretries : 1 ≤ rc.maxRetries) (hmiddle : ∀ mw ∈ middle, Keeps mw)
    (hres : (runOnResponseChain (middle ++ retry rc :: inner) g res ctx).2 = .ok res') :
    isRetryable res'.status = false := by
  rw [runOnResponseChain_append] at hres
  rcases hretry : runOnResponseChain (retry rc :: inner) g res ctx with ⟨ops, e | mid⟩
  · rw [hretry] at hres
    cases hres
  · rw [hretry] at hres
    rw [chain_keeps hmiddle hres]
    rw [runOnResponseChain_cons] at hretry
    rcases hinner : runOnResponseChain inner g res ctx with ⟨ops', e | last⟩
    · rw [hinner] at hretry
      cases hretry
    · rw [hinner] at hretry
      exact retry_stops hretries (congrArg Prod.snd hretry)

theorem new_of_calls {calls : List (ℕ × Call)} (h : ∀ e ∈ calls, e.2 ≠ .recordFailure) : after config calls = .new := by
  induction calls using List.reverseRecOn with
  | nil => rfl
  | append_singleton calls e ih =>
    rw [after_concat, ih fun e he => h e (List.mem_append_left _ he)]
    obtain ⟨now, call⟩ := e
    cases call with
    | allowRequest => rfl
    | recordSuccess => rfl
    | recordFailure => exact absurd rfl (h (now, .recordFailure) (by simp))

theorem onRequest_of_new {circuits : Circuits} (config : CircuitBreakerConfig) (now : ℕ) (ctx : ConnectionContext)
    (h : ∀ channel, channel ≠ "" → (circuits channel).getD .new = .new) :
    (CircuitBreaker.onRequest config now circuits ctx).2 = .ok () := by
  unfold CircuitBreaker.onRequest
  dsimp only
  split_ifs with hempty hallowed
  · rfl
  · rfl
  · rw [h (channelId ctx) (by simpa using hempty)] at hallowed
    exact absurd rfl hallowed

theorem runOnResponseChain_refused {err : ProxyError} (h : (runOnResponseChain mws g res ctx).2 = .error err) :
    (runOnResponseChain (outer ++ mws) g res ctx).2 = .error err := by
  rw [runOnResponseChain_append]
  rcases hchain : runOnResponseChain mws g res ctx with ⟨ops, out⟩
  rw [hchain] at h
  subst h
  rfl

theorem callOn_hidden (hretries : 1 ≤ rc.maxRetries) (hmiddle : ∀ mw ∈ middle, Keeps mw) {s : Traffic} {e : Event}
    {call : ℕ × Call} (h : callOn outer (middle ++ retry rc :: inner) channel s e = some call) :
    call.2 ≠ .recordFailure := by
  cases e with
  | request now i req ctx =>
    simp only [callOn] at h
    split at h
    · split_ifs at h
      cases h
      simp
    · cases h
  | response now i res =>
    obtain ⟨ctx, -, h⟩ := Option.bind_eq_some_iff.mp h
    split at h
    · rename_i res' hres
      split_ifs at h with hchannel hstatus
      · rw [hidden_failures hretries hmiddle hres] at hstatus
        cases hstatus
      · cases h
        simp
    · cases h

end

def answerOn (channel : String) (s : Traffic) : Event → Option Bool
  | .request .. => none
  | .response _ i res =>
    (s.inFlight i).bind fun ctx => if channelId ctx = channel then some (isRetryable res.status) else none

def answers (config : CircuitBreakerConfig) (outer inner : List Guard) (channel : String) (es : List Event) :
    List Bool :=
  opsAlong (step config outer inner) (answerOn channel) .start es

def outcome : ℕ × Call → Option Bool
  | (_, .allowRequest) => none
  | (_, .recordSuccess) => some false
  | (_, .recordFailure) => some true

section

variable {config : CircuitBreakerConfig} {outer inner : List Guard} {channel : String}

theorem filterMap_outcome (now : ℕ) (call : Call) (calls : List (ℕ × Call)) :
    ((now, call) :: calls).filterMap outcome =
      (if call = .allowRequest then [] else [decide (call = .recordFailure)]) ++ calls.filterMap outcome := by
  cases call with
  | allowRequest => exact List.filterMap_cons_none rfl
  | recordSuccess => exact List.filterMap_cons_some rfl
  | recordFailure => exact List.filterMap_cons_some rfl

theorem failures_eq_count (calls : List (ℕ × Call)) : failures calls = (calls.filterMap outcome).count true := by
  induction calls with
  | nil => rfl
  | cons e calls ih =>
    obtain ⟨now, call⟩ := e
    rw [failures, List.countP_cons, ← failures, ih]
    rw [filterMap_outcome]
    cases call <;> simp

theorem failures_sinceSuccess (calls : List (ℕ × Call)) :
    failures (sinceSuccess calls) = ((calls.filterMap outcome).rtakeWhile id).length := by
  induction calls using List.reverseRecOn with
  | nil => rfl
  | append_singleton calls e ih =>
    obtain ⟨now, call⟩ := e
    rw [sinceSuccess_concat, List.filterMap_append, filterMap_outcome]
    cases call with
    | allowRequest => simp [failures_concat, ih]
    | recordSuccess => simp [failures]
    | recordFailure => simp [failures_concat, ih]

theorem calls_outcomes (hinner : ∀ mw ∈ inner, Passes mw ∧ Keeps mw) (es : List Event) :
    (calls config outer inner channel es).filterMap outcome = answers config outer inner channel es := by
  rw [calls, opsAlong_filterMap, answers]
  congr 1
  funext s e
  cases e with
  | request now i req ctx =>
    simp only [callOn, answerOn]
    split
    · split_ifs
      · rfl
      · rfl
    · rfl
  | response now i res =>
    simp only [callOn, answerOn]
    cases s.inFlight i with
    | none => rfl
    | some ctx =>
      obtain ⟨res', hres'⟩ := chain_passes (fun mw hmw => (hinner mw hmw).1) (s.guards.at now) res ctx
      have hstatus := chain_keeps (fun mw hmw => (hinner mw hmw).2) hres'
      simp only [Option.bind_some, hres', hstatus]
      split_ifs
      · simp [outcome, *]
      · simp [outcome, *]
      · rfl

end

namespace Sample

def config : CircuitBreakerConfig := ⟨2, 5⟩

def limit : RateLimiter.RateLimitConfig := ⟨10, 1000000000⟩

def request : ProxyRequest := ⟨"POST", "/v1/messages", [], .utf8 ""⟩

def context : ConnectionContext where
  requestId := 1
  agentType := .unknown
  agentRole := none
  detectedFormat := some .openaiChat
  startedAt := 0
  selectedChannel := some ⟨"https://api.example", "sk", .openaiChat, "primary", none⟩

def unavailable : ProxyResponse := ⟨.serviceUnavailable, [], .utf8 "", false⟩

def events : List Event :=
  [.request 0 0 request context, .response 1 0 unavailable, .request 2 1 request context, .response 3 1 unavailable]

end Sample

theorem breaker_counts_answers {config : CircuitBreakerConfig} {outer inner : List Guard}
    (hth : 1 ≤ config.failureThreshold) (houter : ∀ mw ∈ outer, Neutral mw)
    (hinner : ∀ mw ∈ inner, Neutral mw ∧ Passes mw ∧ Keeps mw) {es : List Event} {t : Traffic}
    (h : run (step config outer inner) .start es = some t) {channel : String} (hne : channel ≠ "")
    (hfew : (answers config outer inner channel es).count true < 2 ^ 32) :
    (t.guards.circuit channel).failureCount.toNat = ((answers config outer inner channel es).rtakeWhile id).length ∧
    ((t.guards.circuit channel).state = .closed ↔
      ((answers config outer inner channel es).rtakeWhile id).length < config.failureThreshold.toNat) := by
  have hcircuit := run_circuit houter (fun mw hmw => (hinner mw hmw).1) hne h
  have houtcomes := @calls_outcomes config outer inner channel (fun mw hmw => (hinner mw hmw).2) es
  have hcalls : failures (calls config outer inner channel es) < 2 ^ 32 := by
    rw [failures_eq_count, houtcomes]
    exact hfew
  have hrep := represents_after hth hcalls
  rw [← hcircuit] at hrep
  have hcount := hrep.count
  rw [failures_sinceSuccess, houtcomes] at hcount
  refine ⟨hcount, ?_⟩
  rw [hrep.closed, UInt32.lt_iff_toNat_lt, hcount]

theorem breaker_counts_answers_opened : ∃ t, run (step Sample.config [retry {}, limiter Sample.limit] []) .start
      Sample.events = some t ∧
    (t.guards.circuit "primary").state ≠ .closed := by
  have houter : ∀ mw ∈ [retry {}, limiter Sample.limit], Neutral mw := by
    simp only [List.forall_mem_cons, List.not_mem_nil, false_imp_iff, implies_true, and_true]
    exact ⟨retry_neutral _, limiter_neutral _⟩
  have hanswers : answers Sample.config [retry {}, limiter Sample.limit] [] "primary" Sample.events = [true, true] := by
    decide +kernel
  have hgoes : (run (step Sample.config [retry {}, limiter Sample.limit] []) .start Sample.events).isSome = true := by
    decide +kernel
  obtain ⟨t, ht⟩ := Option.isSome_iff_exists.mp hgoes
  have h := (@breaker_counts_answers Sample.config _ [] (by decide) houter (fun _ hmw => absurd hmw List.not_mem_nil)
    _ t ht "primary" (by decide) (by rw [hanswers]; decide)).2
  rw [hanswers] at h
  exact ⟨t, ht, mt h.mp (by decide +kernel)⟩

theorem retry_hides_failures {config : CircuitBreakerConfig} {rc : RetryConfig} {outer middle inner : List Guard}
    (hretries : 1 ≤ rc.maxRetries) (houter : ∀ mw ∈ outer, Neutral mw)
    (hmiddle : ∀ mw ∈ middle, Neutral mw ∧ Keeps mw) (hinner : ∀ mw ∈ inner, Neutral mw) {es : List Event}
    {t : Traffic} (h : run (step config outer (middle ++ retry rc :: inner)) .start es = some t) :
    (∀ channel, channel ≠ "" → t.guards.circuit channel = .new) ∧
    (∀ now ctx, (CircuitBreaker.onRequest config now t.guards.circuits ctx).2 = .ok ()) ∧
    ((∀ mw ∈ inner, Passes mw ∧ Keeps mw) → ∀ g res ctx, isRetryable res.status = true →
      (runOnResponseChain (stack config outer (middle ++ retry rc :: inner)) g res ctx).2 =
        .error (.rateLimited (backoffDelay 0 rc))) := by
  have hneutral : ∀ mw ∈ middle ++ retry rc :: inner, Neutral mw := by
    intro mw hmw
    rcases List.mem_append.mp hmw with hmw | hmw
    · exact (hmiddle mw hmw).1
    · rcases List.mem_cons.mp hmw with rfl | hmw
      · exact retry_neutral rc
      · exact hinner mw hmw
  have hnew : ∀ channel, channel ≠ "" → t.guards.circuit channel = .new := by
    intro channel hne
    rw [run_circuit houter hneutral hne h]
    apply new_of_calls
    intro call hcall
    obtain ⟨s, e, hop⟩ := mem_opsAlong hcall
    exact callOn_hidden hretries (fun mw hmw => (hmiddle mw hmw).2) hop
  refine ⟨hnew, ?_, ?_⟩
  · intro now ctx
    exact onRequest_of_new config now ctx hnew
  · intro hpass g res ctx hres
    obtain ⟨res', hres'⟩ := chain_passes (fun mw hmw => (hpass mw hmw).1) g res ctx
    have hstatus := chain_keeps (fun mw hmw => (hpass mw hmw).2) hres'
    have hretry : (runOnResponseChain (retry rc :: inner) g res ctx).2 = .error (.rateLimited (backoffDelay 0 rc)) := by
      rw [runOnResponseChain_cons]
      rcases hchain : runOnResponseChain inner g res ctx with ⟨ops, out⟩
      rw [hchain] at hres'
      subst hres'
      exact congrArg Prod.snd (retry_answer hretries (hstatus.trans hres))
    have hstack : stack config outer (middle ++ retry rc :: inner) =
        (outer ++ breaker config :: middle) ++ retry rc :: inner := by simp [stack]
    rw [hstack]
    exact runOnResponseChain_refused hretry

theorem retry_hides_failures_twice : ∃ t, run (step Sample.config [limiter Sample.limit] [retry {}]) .start
      Sample.events = some t ∧
    t.guards.circuit "primary" = .new := by
  have houter : ∀ mw ∈ [limiter Sample.limit], Neutral mw :=
    List.forall_mem_singleton.mpr (limiter_neutral _)
  have hgoes : (run (step Sample.config [limiter Sample.limit] [retry {}]) .start Sample.events).isSome = true := by
    decide +kernel
  obtain ⟨t, ht⟩ := Option.isSome_iff_exists.mp hgoes
  have h := @retry_hides_failures Sample.config {} _ [] [] (by decide) houter
    (fun _ hmw => absurd hmw List.not_mem_nil) (fun _ hmw => absurd hmw List.not_mem_nil) _ t ht
  exact ⟨t, ht, h.1 "primary" (by decide)⟩

end AgentProxy.Resilience.Stack
