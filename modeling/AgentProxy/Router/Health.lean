import Mathlib.Data.Option.Basic
import Mathlib.Algebra.Order.Group.Nat
import Mathlib.Tactic.SplitIfs

namespace AgentProxy

inductive ChannelHealth where
  | healthy
  | unhealthy
  deriving DecidableEq

/-- Instants and durations are in nanoseconds. -/
def secs (n : ℕ) : ℕ := n * 1000000000

structure ChannelState where
  health : ChannelHealth
  failedAt : Option ℕ
  consecutiveFailures : UInt32
  deriving DecidableEq

def exponentialCooldown (consecutiveFailures : UInt32) (base : ℕ) : ℕ :=
  if consecutiveFailures ≤ 1 then base else if consecutiveFailures = 2 then base * 5 else base * 15

namespace ChannelState

def new : ChannelState := ⟨.healthy, none, 0⟩

def recordFailure (s : ChannelState) (now : ℕ) : ChannelState :=
  let failures := s.consecutiveFailures + 1
  if 3 ≤ failures then ⟨.unhealthy, some now, failures⟩ else { s with consecutiveFailures := failures }

def recordSuccess (_ : ChannelState) : ChannelState := ⟨.healthy, none, 0⟩

def markUnhealthy (_ : ChannelState) (now : ℕ) : ChannelState := ⟨.unhealthy, some now, 3⟩

def markRateLimited (_ : ChannelState) (now : ℕ) : ChannelState := ⟨.unhealthy, some now, 1⟩

def effectiveCooldown (s : ChannelState) : ℕ :=
  if s.consecutiveFailures ≤ 1 then secs 30 else exponentialCooldown s.consecutiveFailures (secs 60)

/-- `Instant::elapsed` saturates, as the subtraction does. -/
def isTryablePastCooldown (s : ChannelState) (now : ℕ) : Bool :=
  match s.health, s.failedAt with
  | .healthy, _ => true
  | .unhealthy, none => true
  | .unhealthy, some t => decide (s.effectiveCooldown ≤ now - t)

def DownSince (t₀ : ℕ) (s : ChannelState) : Prop :=
  s.health = .unhealthy ∧ s.consecutiveFailures = 3 ∧ ∃ t, t₀ ≤ t ∧ s.failedAt = some t

theorem markUnhealthy_downSince {t₀ now : ℕ} (s : ChannelState) (h : t₀ ≤ now) :
    DownSince t₀ (s.markUnhealthy now) := ⟨rfl, rfl, now, h, rfl⟩

theorem DownSince.not_tryable {t₀ now : ℕ} {s : ChannelState} (h : DownSince t₀ s)
    (hnow : now < t₀ + secs 900) : s.isTryablePastCooldown now = false := by
  obtain ⟨hh, hc, t, ht, hf⟩ := h
  have he : s.effectiveCooldown = secs 900 := by
    simp only [effectiveCooldown, hc, exponentialCooldown, secs]
    decide
  simp only [isTryablePastCooldown, hh, hf, he, decide_eq_false_iff_not, not_le]
  simp only [secs] at hnow ⊢
  omega

end ChannelState

end AgentProxy
