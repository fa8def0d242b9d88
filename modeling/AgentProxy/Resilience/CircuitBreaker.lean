import AgentProxy.Core.Types
import Mathlib.Data.List.DropRight
import Mathlib.Data.List.Induction
import Mathlib.Algebra.Group.Nat.Defs

namespace AgentProxy.Resilience

structure CircuitBreakerConfig where
  failureThreshold : UInt32 := 3
  cooldown : ℕ := 60 * 1000000000

namespace CircuitBreaker

/-- `State::Open` is written `opened`, as `open` is a keyword. -/
inductive State where
  | closed
  | opened
  | halfOpen
  deriving DecidableEq

structure ChannelCircuit where
  state : State
  failureCount : UInt32
  openedAt : Option ℕ
  deriving DecidableEq

namespace ChannelCircuit

def new : ChannelCircuit := ⟨.closed, 0, none⟩

def allowRequest (c : ChannelCircuit) (cooldown now : ℕ) : Bool × ChannelCircuit :=
  match c.state with
  | .closed | .halfOpen => (true, c)
  | .opened =>
    match c.openedAt with
    | some opened => if cooldown ≤ now - opened then (true, { c with state := .halfOpen }) else (false, c)
    | none => (false, c)

def recordSuccess (_ : ChannelCircuit) : ChannelCircuit := ⟨.closed, 0, none⟩

def recordFailure (c : ChannelCircuit) (threshold : UInt32) (now : ℕ) : ChannelCircuit :=
  let failureCount := c.failureCount + 1
  if threshold ≤ failureCount then ⟨.opened, failureCount, some now⟩ else { c with failureCount := failureCount }

end ChannelCircuit

inductive Call where
  | allowRequest
  | recordSuccess
  | recordFailure
  deriving DecidableEq

def apply (config : CircuitBreakerConfig) (c : ChannelCircuit) : ℕ × Call → ChannelCircuit
  | (now, .allowRequest) => (c.allowRequest config.cooldown now).2
  | (_, .recordSuccess) => c.recordSuccess
  | (now, .recordFailure) => c.recordFailure config.failureThreshold now

def after (config : CircuitBreakerConfig) (calls : List (ℕ × Call)) : ChannelCircuit :=
  calls.foldl (apply config) .new

def failures (calls : List (ℕ × Call)) : ℕ := calls.countP fun e => e.2 = .recordFailure

def sinceSuccess (calls : List (ℕ × Call)) : List (ℕ × Call) :=
  calls.rtakeWhile fun e => e.2 ≠ .recordSuccess

def lastFailure (calls : List (ℕ × Call)) : Option ℕ :=
  ((calls.filter fun e => e.2 = .recordFailure).getLast?).map Prod.fst

structure Represents (config : CircuitBreakerConfig) (calls : List (ℕ × Call)) (c : ChannelCircuit) : Prop where
  count : c.failureCount.toNat = failures (sinceSuccess calls)
  closed : c.state = .closed ↔ c.failureCount < config.failureThreshold
  openedAt : c.openedAt = if c.state = .closed then none else lastFailure calls
  failed : c.state ≠ .closed → (lastFailure calls).isSome

section

variable (config : CircuitBreakerConfig) (calls : List (ℕ × Call)) (now : ℕ)

theorem after_concat (e : ℕ × Call) : after config (calls ++ [e]) = apply config (after config calls) e := by
  simp [after]

theorem failures_concat (call : Call) :
    failures (calls ++ [(now, call)]) = failures calls + if call = .recordFailure then 1 else 0 := by
  simp [failures, List.countP_append, List.countP_cons]

theorem sinceSuccess_concat (call : Call) : sinceSuccess (calls ++ [(now, call)]) =
    if call = .recordSuccess then [] else sinceSuccess calls ++ [(now, call)] := by
  rw [sinceSuccess, List.rtakeWhile_concat]
  by_cases h : call = .recordSuccess <;> simp [h, sinceSuccess]

theorem lastFailure_concat (call : Call) : lastFailure (calls ++ [(now, call)]) =
    if call = .recordFailure then some now else lastFailure calls := by
  by_cases h : call = .recordFailure <;> simp [h, lastFailure, List.filter_append]

theorem failures_sinceSuccess_le : failures (sinceSuccess calls) ≤ failures calls := by
  have hsuffix : sinceSuccess calls <:+ calls := List.rtakeWhile_suffix _ _
  exact hsuffix.sublist.countP_le

theorem lastFailure_mem {t : ℕ} (h : lastFailure calls = some t) : (t, Call.recordFailure) ∈ calls := by
  obtain ⟨⟨u, call⟩, hlast, rfl⟩ := Option.map_eq_some_iff.mp h
  obtain ⟨hmem, hcall⟩ := List.mem_filter.mp (List.mem_of_getLast? hlast)
  rw [← of_decide_eq_true hcall]
  exact hmem

end

section

variable {config : CircuitBreakerConfig} {calls : List (ℕ × Call)} {c : ChannelCircuit}

theorem Represents.threshold_le (h : Represents config calls c) (hstate : c.state ≠ .closed) :
    config.failureThreshold ≤ c.failureCount := by
  rw [Ne, h.closed] at hstate
  exact UInt32.not_lt.mp hstate

theorem represents_new (hth : 1 ≤ config.failureThreshold) : Represents config [] .new := by
  refine ⟨by simp [ChannelCircuit.new, sinceSuccess, failures], ?_, rfl, fun h => absurd rfl h⟩
  apply iff_of_true rfl
  rw [UInt32.lt_iff_toNat_lt]
  rw [UInt32.le_iff_toNat_le] at hth
  exact hth

theorem Represents.allowRequest (h : Represents config calls c) (now : ℕ) :
    Represents config (calls ++ [(now, .allowRequest)]) (c.allowRequest config.cooldown now).2 := by
  have hcount : failures (sinceSuccess (calls ++ [(now, .allowRequest)])) = failures (sinceSuccess calls) := by
    simp [sinceSuccess_concat, failures_concat]
  have hlast : lastFailure (calls ++ [(now, .allowRequest)]) = lastFailure calls := by
    simp [lastFailure_concat]
  have hkeep : Represents config (calls ++ [(now, .allowRequest)]) c :=
    ⟨h.count.trans hcount.symm, h.closed, by rw [hlast, h.openedAt], by rw [hlast]; exact h.failed⟩
  unfold ChannelCircuit.allowRequest
  split
  · exact hkeep
  · exact hkeep
  · rename_i hopened
    split
    · split
      · refine ⟨hkeep.count, iff_of_false nofun ?_, ?_, fun _ => hkeep.failed (by simp [hopened])⟩
        · exact UInt32.not_lt.mpr (h.threshold_le (by simp [hopened]))
        · simpa [hopened] using hkeep.openedAt
      · exact hkeep
    · exact hkeep

theorem represents_recordSuccess (hth : 1 ≤ config.failureThreshold) (circuit : ChannelCircuit) (now : ℕ) :
    Represents config (calls ++ [(now, .recordSuccess)]) circuit.recordSuccess := by
  have hnew := represents_new hth
  refine ⟨?_, hnew.closed, rfl, fun h => absurd rfl h⟩
  rw [sinceSuccess_concat, if_pos rfl]
  exact hnew.count

theorem Represents.recordFailure (h : Represents config calls c) (hfew : failures calls + 1 < 2 ^ 32) (now : ℕ) :
    Represents config (calls ++ [(now, .recordFailure)]) (c.recordFailure config.failureThreshold now) := by
  have hle := failures_sinceSuccess_le calls
  have hcount : (c.failureCount + 1).toNat = failures (sinceSuccess calls) + 1 := by
    rw [UInt32.toNat_add, h.count, UInt32.toNat_one]
    exact Nat.mod_eq_of_lt (by omega)
  have hsince : failures (sinceSuccess (calls ++ [(now, .recordFailure)])) = failures (sinceSuccess calls) + 1 := by
    simp [sinceSuccess_concat, failures_concat]
  have hlast : lastFailure (calls ++ [(now, .recordFailure)]) = some now := by
    simp [lastFailure_concat]
  unfold ChannelCircuit.recordFailure
  dsimp only
  split
  · rename_i hreached
    exact ⟨hcount.trans hsince.symm, iff_of_false nofun (UInt32.not_lt.mpr hreached), by simp [hlast], by simp [hlast]⟩
  · rename_i hbelow
    have hlt : c.failureCount + 1 < config.failureThreshold := UInt32.not_le.mp hbelow
    have hclosed : c.state = .closed := by
      rw [h.closed]
      rw [UInt32.lt_iff_toNat_lt, hcount] at hlt
      rw [UInt32.lt_iff_toNat_lt, h.count]
      omega
    exact ⟨hcount.trans hsince.symm, iff_of_true hclosed hlt, by simp [hclosed, h.openedAt],
      fun hstate => absurd hclosed hstate⟩

theorem represents_after (hth : 1 ≤ config.failureThreshold) (hfew : failures calls < 2 ^ 32) :
    Represents config calls (after config calls) := by
  induction calls using List.reverseRecOn with
  | nil => exact represents_new hth
  | append_singleton calls e ih =>
    obtain ⟨now, call⟩ := e
    rw [failures_concat] at hfew
    have hinit := ih (by omega)
    rw [after_concat]
    cases call with
    | allowRequest => exact hinit.allowRequest now
    | recordSuccess => exact represents_recordSuccess hth (after config calls) now
    | recordFailure => exact hinit.recordFailure (by simpa using hfew) now

theorem Represents.reopens (h : Represents config calls c) (hfew : failures calls + 1 < 2 ^ 32)
    (hstate : c.state ≠ .closed) (now : ℕ) : (c.recordFailure config.failureThreshold now).state = .opened := by
  have hle := failures_sinceSuccess_le calls
  have hthreshold := h.threshold_le hstate
  have hreached : config.failureThreshold ≤ c.failureCount + 1 := by
    rw [UInt32.le_iff_toNat_le] at hthreshold ⊢
    rw [UInt32.toNat_add, h.count]
    rw [h.count] at hthreshold
    rw [Nat.mod_eq_of_lt (by simp; omega)]
    exact Nat.le_add_right_of_le hthreshold
  rw [ChannelCircuit.recordFailure, if_pos hreached]

theorem Represents.allowRequest_opened (h : Represents config calls c) (hstate : c.state = .opened) {now : ℕ}
    (hnow : ∀ e ∈ calls, e.1 ≤ now) : (c.allowRequest config.cooldown now).1 = true ↔
      ∃ t, lastFailure calls = some t ∧ t + config.cooldown ≤ now := by
  obtain ⟨t, ht⟩ := Option.isSome_iff_exists.mp (h.failed (by simp [hstate]))
  have hopened : c.openedAt = some t := by rw [h.openedAt, ht]; simp [hstate]
  have hle : t ≤ now := hnow _ (lastFailure_mem calls ht)
  simp only [ChannelCircuit.allowRequest, hstate, hopened, ht, Option.some.injEq, exists_eq_left']
  split
  · exact iff_of_true rfl (by omega)
  · exact iff_of_false nofun (by omega)

end

theorem circuit_represents_outcomes (config : CircuitBreakerConfig) (calls : List (ℕ × Call))
    (hth : 1 ≤ config.failureThreshold) (hfew : failures calls < 2 ^ 32) :
    (after config calls).failureCount.toNat = failures (sinceSuccess calls) ∧
    ((after config calls).state = .closed ↔ (after config calls).failureCount < config.failureThreshold) ∧
    ((after config calls).state = .closed → (after config calls).openedAt = none) ∧
    ((after config calls).state ≠ .closed → config.failureThreshold ≤ (after config calls).failureCount ∧
      ∃ t, lastFailure calls = some t ∧ (after config calls).openedAt = some t) ∧
    (failures calls + 1 < 2 ^ 32 → (after config calls).state = .halfOpen → ∀ now,
      (after config (calls ++ [(now, .recordFailure)])).state = .opened) ∧
    ((after config calls).state = .opened → ∀ now, (∀ e ∈ calls, e.1 ≤ now) →
      (((after config calls).allowRequest config.cooldown now).1 = true ↔
        ∃ t, lastFailure calls = some t ∧ t + config.cooldown ≤ now)) := by
  have h := represents_after hth hfew
  refine ⟨h.count, h.closed, ?_, ?_, ?_, fun hstate now hnow => h.allowRequest_opened hstate hnow⟩
  · intro hstate
    rw [h.openedAt, if_pos hstate]
  · intro hstate
    obtain ⟨t, ht⟩ := Option.isSome_iff_exists.mp (h.failed hstate)
    exact ⟨h.threshold_le hstate, t, ht, by rw [h.openedAt, if_neg hstate, ht]⟩
  · intro hnext hstate now
    rw [after_concat]
    exact h.reopens hnext (by simp [hstate]) now

theorem circuit_represents_outcomes_two_failures :
    let calls : List (ℕ × Call) := [(0, .recordFailure), (1, .recordFailure), (9, .allowRequest)]
    let config : CircuitBreakerConfig := ⟨2, 5⟩
    (after config calls).state = .halfOpen ∧ (after config calls).failureCount.toNat = failures (sinceSuccess calls) :=
  ⟨by decide +kernel, (circuit_represents_outcomes _ _ (by decide) (by decide +kernel)).1⟩

abbrev Circuits := String → Option ChannelCircuit

def isRetryable (status : StatusCode) : Bool := status.isServerError || decide (status = .tooManyRequests)

def channelId (ctx : ConnectionContext) : String := (ctx.selectedChannel.map ChannelConfig.name).getD ""

def onRequest (config : CircuitBreakerConfig) (now : ℕ) (circuits : Circuits) (ctx : ConnectionContext) :
    Circuits × Except ProxyError Unit :=
  let channelId := channelId ctx
  if channelId.isEmpty then (circuits, .ok ())
  else
    let circuit := (circuits channelId).getD .new
    let allowed := circuit.allowRequest config.cooldown now
    (Function.update circuits channelId (some allowed.2),
      if allowed.1 then .ok () else .error (.circuitOpen channelId))

def onResponse (config : CircuitBreakerConfig) (now : ℕ) (circuits : Circuits) (res : ProxyResponse)
    (ctx : ConnectionContext) : Circuits :=
  let channelId := channelId ctx
  if channelId.isEmpty then circuits
  else
    let circuit := (circuits channelId).getD .new
    Function.update circuits channelId (some
      (if isRetryable res.status then circuit.recordFailure config.failureThreshold now else circuit.recordSuccess))

end CircuitBreaker

end AgentProxy.Resilience
