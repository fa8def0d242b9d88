import AgentProxy.Resilience.CircuitBreaker
import AgentProxy.Lib.Run
import Mathlib.Logic.Function.Basic

namespace AgentProxy.Resilience.CircuitBreaker

open Transition

structure Traffic where
  circuits : Circuits
  inFlight : ℕ → Option ConnectionContext
  clock : ℕ

def Traffic.start : Traffic := ⟨fun _ => none, fun _ => none, 0⟩

def Traffic.circuit (s : Traffic) (channel : String) : ChannelCircuit := (s.circuits channel).getD .new

inductive Event where
  | request (now i : ℕ) (ctx : ConnectionContext)
  | response (now i : ℕ) (res : ProxyResponse)

def Event.time : Event → ℕ
  | request now _ _ | response now _ _ => now

/-- A request that is let through is in flight until its response runs through `on_response`; a request whose
forwarding fails has no response. -/
def step (config : CircuitBreakerConfig) (s : Traffic) : Event → Option Traffic
  | .request now i ctx =>
    if s.clock ≤ now ∧ s.inFlight i = none then
      let r := onRequest config now s.circuits ctx
      some ⟨r.1, match r.2 with
        | .ok _ => Function.update s.inFlight i (some ctx)
        | .error _ => s.inFlight, now⟩
    else none
  | .response now i res =>
    match s.inFlight i with
    | none => none
    | some ctx =>
      if s.clock ≤ now then
        some ⟨onResponse config now s.circuits res ctx, Function.update s.inFlight i none, now⟩
      else none

def Admits (config : CircuitBreakerConfig) (s : Traffic) : Event → Prop
  | .request now _ ctx => (onRequest config now s.circuits ctx).2 = .ok ()
  | .response _ _ _ => False

def callOn (channel : String) (s : Traffic) : Event → Option Call
  | .request _ _ ctx => if channelId ctx = channel ∧ channel ≠ "" then some .allowRequest else none
  | .response _ i res =>
    match s.inFlight i with
    | none => none
    | some ctx =>
      if channelId ctx = channel ∧ channel ≠ "" then
        some (if isRetryable res.status then .recordFailure else .recordSuccess)
      else none

def calls (config : CircuitBreakerConfig) (channel : String) (s : Traffic) : List Event → List (ℕ × Call)
  | [] => []
  | e :: es => ((callOn channel s e).map (Prod.mk e.time)).toList ++
      ((step config s e).map fun t => calls config channel t es).getD []

variable {config : CircuitBreakerConfig} {channel : String} {s t u : Traffic} {e : Event} {es : List Event}

theorem step_cases (h : step config s e = some t) : s.clock ≤ e.time ∧ t.clock = e.time ∧
    ((∃ now i ctx, e = .request now i ctx ∧ t.circuits = (onRequest config now s.circuits ctx).1) ∨
     ∃ now i res ctx, e = .response now i res ∧ s.inFlight i = some ctx ∧
      t.circuits = onResponse config now s.circuits res ctx) := by
  cases e with
  | request now i ctx =>
    simp only [step] at h
    split at h
    · rename_i hguard
      cases h
      exact ⟨hguard.1, rfl, .inl ⟨now, i, ctx, rfl, rfl⟩⟩
    · cases h
  | response now i res =>
    simp only [step] at h
    split at h
    · cases h
    · rename_i ctx hctx
      split at h
      · rename_i hclock
        cases h
        exact ⟨hclock, rfl, .inr ⟨now, i, res, ctx, rfl, hctx, rfl⟩⟩
      · cases h

theorem circuit_update (s : Traffic) (id : String) (f : ChannelCircuit → ChannelCircuit) :
    ((if id.isEmpty then s.circuits else Function.update s.circuits id (some (f (s.circuit id)))) channel).getD .new =
      if id = channel ∧ channel ≠ "" then f (s.circuit channel) else s.circuit channel := by
  simp only [String.isEmpty_iff]
  by_cases hempty : id = ""
  · rw [if_pos hempty, if_neg fun h => h.2 (h.1.symm.trans hempty)]
    rfl
  · rw [if_neg hempty]
    by_cases hc : channel = id
    · subst hc
      rw [Function.update_self, if_pos ⟨rfl, hempty⟩]
      rfl
    · rw [Function.update_of_ne hc, if_neg fun h => hc h.1.symm]
      rfl

theorem onRequest_circuit (s : Traffic) (now : ℕ) (ctx : ConnectionContext) :
    ((onRequest config now s.circuits ctx).1 channel).getD .new =
      if channelId ctx = channel ∧ channel ≠ "" then ((s.circuit channel).allowRequest config.cooldown now).2
      else s.circuit channel := by
  rw [← circuit_update s (channelId ctx) fun c => (c.allowRequest config.cooldown now).2]
  unfold onRequest
  dsimp only
  by_cases hempty : (channelId ctx).isEmpty
  · rw [if_pos hempty, if_pos hempty]
  · rw [if_neg hempty, if_neg hempty]
    rfl

theorem onResponse_circuit (s : Traffic) (now : ℕ) (res : ProxyResponse) (ctx : ConnectionContext) :
    (onResponse config now s.circuits res ctx channel).getD .new =
      if channelId ctx = channel ∧ channel ≠ "" then
        if isRetryable res.status then (s.circuit channel).recordFailure config.failureThreshold now
        else (s.circuit channel).recordSuccess
      else s.circuit channel :=
  circuit_update s (channelId ctx) fun c =>
    if isRetryable res.status then c.recordFailure config.failureThreshold now else c.recordSuccess

theorem step_circuit (channel : String) (h : step config s e = some t) : t.circuit channel =
    ((callOn channel s e).map (Prod.mk e.time)).toList.foldl (apply config) (s.circuit channel) := by
  obtain ⟨-, -, ⟨now, i, ctx, rfl, ht⟩ | ⟨now, i, res, ctx, rfl, hctx, ht⟩⟩ := step_cases h
  · rw [Traffic.circuit, ht, onRequest_circuit, callOn]
    split <;> rfl
  · rw [Traffic.circuit, ht, onResponse_circuit]
    simp only [callOn, hctx]
    split
    · cases isRetryable res.status <;> rfl
    · rfl

theorem run_circuit (channel : String) (h : run (step config) s es = some t) :
    t.circuit channel = (calls config channel s es).foldl (apply config) (s.circuit channel) := by
  induction es generalizing s with
  | nil =>
    cases h
    rfl
  | cons e es ih =>
    obtain ⟨u, hu, ht⟩ := run_cons.mp h
    simp only [calls, hu, Option.map_some, Option.getD_some, List.foldl_append, ← step_circuit channel hu]
    exact ih ht

theorem run_start_circuit (channel : String) (h : run (step config) .start es = some t) :
    t.circuit channel = after config (calls config channel .start es) := run_circuit channel h

theorem calls_append {fs : List Event} (h : run (step config) s es = some t) :
    calls config channel s (es ++ fs) = calls config channel s es ++ calls config channel t fs := by
  induction es generalizing s with
  | nil =>
    cases h
    rfl
  | cons e es ih =>
    obtain ⟨u, hu, ht⟩ := run_cons.mp h
    simp only [List.cons_append, calls, hu, Option.map_some, Option.getD_some, List.append_assoc, ih ht]

theorem admits_iff (h : callOn channel s e = some .allowRequest) :
    Admits config s e ↔ ((s.circuit channel).allowRequest config.cooldown e.time).1 = true := by
  cases e with
  | request now i ctx =>
    simp only [callOn] at h
    split at h
    · rename_i hc
      obtain ⟨rfl, hne⟩ := hc
      simp only [Admits, onRequest, String.isEmpty_iff, hne, if_false, Event.time, Traffic.circuit]
      split <;> simp_all
    · cases h
  | response now i res =>
    simp only [callOn] at h
    split at h
    · cases h
    · split at h
      · split at h <;> cases h
      · cases h

end AgentProxy.Resilience.CircuitBreaker
