import AgentProxy.Router.Health
import Mathlib.Data.List.Induction
import Mathlib.Data.List.Infix
import Mathlib.Algebra.Group.Nat.Defs

namespace AgentProxy.Router.Lockout

inductive Op where
  | recordFailure
  | recordSuccess
  | markUnhealthy
  | markRateLimited
  | remove
  deriving DecidableEq

def Op.fails : Op → Bool
  | recordFailure | markUnhealthy | markRateLimited => true
  | recordSuccess | remove => false

/-- One entry of the health map: a failure creates it from the default state, a success changes it only if
it exists. -/
def apply (entry : Option ChannelState) (now : ℕ) : Op → Option ChannelState
  | .recordFailure => some ((entry.getD .new).recordFailure now)
  | .recordSuccess => entry.map ChannelState.recordSuccess
  | .markUnhealthy => some ((entry.getD .new).markUnhealthy now)
  | .markRateLimited => some ((entry.getD .new).markRateLimited now)
  | .remove => none

def after (ops : List (ℕ × Op)) : Option ChannelState :=
  ops.foldl (fun entry e => apply entry e.1 e.2) (some .new)

def state (ops : List (ℕ × Op)) : ChannelState := (after ops).getD .new

def tryable (ops : List (ℕ × Op)) (now : ℕ) : Bool :=
  match after ops with
  | none => true
  | some s => s.isTryablePastCooldown now

def Ordered (ops : List (ℕ × Op)) : Prop := ops.Pairwise fun a b => a.1 ≤ b.1

instance (ops : List (ℕ × Op)) : Decidable (Ordered ops) := inferInstanceAs (Decidable (ops.Pairwise _))

def failures (ops : List (ℕ × Op)) : ℕ := ops.countP fun e => e.2.fails

def count (n : ℕ) : Op → ℕ
  | .recordFailure => n + 1
  | .markUnhealthy => 3
  | .markRateLimited => 1
  | .recordSuccess | .remove => 0

/-- The failures since the last success or removal as the source counts them: `mark_unhealthy` is treated
as three failures, `mark_rate_limited` as one. -/
def counted (ops : List (ℕ × Op)) : ℕ := ops.foldl (fun n e => count n e.2) 0

structure Consistent (s : ChannelState) : Prop where
  failedAt : s.health = .unhealthy ↔ s.failedAt.isSome
  healthy : s.health = .healthy → s.consecutiveFailures < 3
  unhealthy : s.health = .unhealthy → 1 ≤ s.consecutiveFailures

/-- `op` was the last of `ops`, and it locks the channel: it is one of the two marks, or a failure that
brought the count to 3 or more. -/
def Locks (ops : List (ℕ × Op)) : Op → Prop
  | .markUnhealthy | .markRateLimited => True
  | .recordFailure => 3 ≤ (state ops).consecutiveFailures
  | .recordSuccess | .remove => False

structure Bounded (ops : List (ℕ × Op)) : Prop where
  consistent : Consistent (state ops)
  released : ∀ now, (∀ e ∈ ops, e.2.fails → e.1 + secs 900 ≤ now) → tryable ops now = true
  locked : ∀ pre t op post now, ops = pre ++ (t, op) :: post → Locks (pre ++ [(t, op)]) op →
    (∀ e ∈ post, e.2.fails) → now < t + secs 30 → tryable ops now = false

section

variable {ops : List (ℕ × Op)} {now : ℕ}

theorem after_concat (e : ℕ × Op) : after (ops ++ [e]) = apply (after ops) e.1 e.2 := by
  simp [after]

theorem counted_concat (e : ℕ × Op) : counted (ops ++ [e]) = count (counted ops) e.2 := by
  simp [counted]

theorem tryable_eq : tryable ops now = (state ops).isTryablePastCooldown now := by
  unfold tryable state
  cases after ops with
  | none => rfl
  | some s => rfl

theorem state_concat (e : ℕ × Op) : state (ops ++ [e]) =
    match e.2 with
    | .recordFailure => (state ops).recordFailure e.1
    | .markUnhealthy => (state ops).markUnhealthy e.1
    | .markRateLimited => (state ops).markRateLimited e.1
    | .recordSuccess | .remove => .new := by
  obtain ⟨t, op⟩ := e
  simp only [state, after_concat]
  cases op with
  | recordFailure => rfl
  | recordSuccess =>
    cases after ops with
    | none => rfl
    | some s => rfl
  | markUnhealthy => rfl
  | markRateLimited => rfl
  | remove => rfl

theorem counted_initial {e : ℕ × Op} (h : ∀ pre, pre <+: ops ++ [e] → counted pre < 2 ^ 32) :
    ∀ pre, pre <+: ops → counted pre < 2 ^ 32 := fun pre hpre => h pre (hpre.trans (List.prefix_append ops [e]))

theorem toNat_state (h : ∀ pre, pre <+: ops → counted pre < 2 ^ 32) :
    (state ops).consecutiveFailures.toNat = counted ops := by
  induction ops using List.reverseRecOn with
  | nil => rfl
  | append_singleton ops e ih =>
    have hlast := h _ (List.prefix_refl _)
    have ih := ih (counted_initial h)
    obtain ⟨t, op⟩ := e
    rw [counted_concat] at hlast ⊢
    rw [state_concat]
    cases op with
    | recordFailure =>
      have hsum : ((state ops).consecutiveFailures + 1).toNat = counted ops + 1 := by
        simp only [count] at hlast
        rw [UInt32.toNat_add, ih, UInt32.toNat_one]
        omega
      unfold ChannelState.recordFailure
      dsimp only
      split_ifs
      · exact hsum
      · exact hsum
    | recordSuccess => rfl
    | markUnhealthy => rfl
    | markRateLimited => rfl
    | remove => rfl

theorem new_consistent : Consistent .new := ⟨by decide, by decide, by decide⟩

theorem unhealthy_consistent {n : UInt32} (hn : 1 ≤ n) : Consistent ⟨.unhealthy, some now, n⟩ := by
  constructor
  · simp
  · intro h
    cases h
  · intro _
    exact hn

theorem recordFailure_consistent {s : ChannelState} (hs : Consistent s)
    (hmax : s.consecutiveFailures.toNat + 1 < 2 ^ 32) : Consistent (s.recordFailure now) := by
  have hsum : (s.consecutiveFailures + 1).toNat = s.consecutiveFailures.toNat + 1 := by
    rw [UInt32.toNat_add, UInt32.toNat_one]
    omega
  unfold ChannelState.recordFailure
  dsimp only
  split_ifs with h3
  · apply unhealthy_consistent
    rw [UInt32.le_iff_toNat_le] at h3 ⊢
    exact Nat.le_trans (by decide) h3
  · refine ⟨hs.failedAt, fun _ => by simpa using h3, fun _ => ?_⟩
    rw [UInt32.le_iff_toNat_le, hsum, UInt32.toNat_one]
    omega

theorem state_consistent (h : ∀ pre, pre <+: ops → counted pre < 2 ^ 32) : Consistent (state ops) := by
  induction ops using List.reverseRecOn with
  | nil => exact new_consistent
  | append_singleton ops e ih =>
    have hlast := h _ (List.prefix_refl _)
    have hcount := toNat_state (counted_initial h)
    have ih := ih (counted_initial h)
    obtain ⟨t, op⟩ := e
    rw [counted_concat] at hlast
    rw [state_concat]
    cases op with
    | recordFailure =>
      apply recordFailure_consistent ih
      rw [hcount]
      exact hlast
    | recordSuccess => exact new_consistent
    | markUnhealthy => exact unhealthy_consistent (by decide)
    | markRateLimited => exact unhealthy_consistent (by decide)
    | remove => exact new_consistent

theorem cooldown_bounds (s : ChannelState) : secs 30 ≤ s.effectiveCooldown ∧ s.effectiveCooldown ≤ secs 900 := by
  unfold ChannelState.effectiveCooldown exponentialCooldown secs
  split_ifs <;> constructor <;> omega

theorem failedAt_mem {t : ℕ} (h : (state ops).failedAt = some t) : ∃ e ∈ ops, e.2.fails ∧ e.1 = t := by
  induction ops using List.reverseRecOn with
  | nil => cases h
  | append_singleton ops e ih =>
    have hlift : (state ops).failedAt = some t → ∃ e' ∈ ops ++ [e], e'.2.fails ∧ e'.1 = t := by
      intro h'
      obtain ⟨e', he', hf⟩ := ih h'
      exact ⟨e', List.mem_append_left _ he', hf⟩
    obtain ⟨t', op⟩ := e
    have hmem : (t', op) ∈ ops ++ [(t', op)] := by simp
    rw [state_concat] at h
    cases op with
    | recordFailure =>
      unfold ChannelState.recordFailure at h
      dsimp only at h
      split_ifs at h
      · exact ⟨_, hmem, rfl, Option.some.inj h⟩
      · exact hlift h
    | recordSuccess => cases h
    | markUnhealthy => exact ⟨_, hmem, rfl, Option.some.inj h⟩
    | markRateLimited => exact ⟨_, hmem, rfl, Option.some.inj h⟩
    | remove => cases h

theorem tryable_of_released (h : ∀ e ∈ ops, e.2.fails → e.1 + secs 900 ≤ now) : tryable ops now = true := by
  rw [tryable_eq]
  unfold ChannelState.isTryablePastCooldown
  split
  · rfl
  · rfl
  · rename_i t hh hf
    obtain ⟨e, he, hfails, rfl⟩ := failedAt_mem hf
    have hreleased := h e he hfails
    have hbound := (cooldown_bounds (state ops)).2
    rw [decide_eq_true_iff]
    omega

def LockedSince (t : ℕ) (s : ChannelState) : Prop :=
  s.health = .unhealthy ∧ ∃ t', t ≤ t' ∧ s.failedAt = some t'

theorem recordFailure_locked {t : ℕ} {s : ChannelState} (hs : LockedSince t s) (hnow : t ≤ now) :
    LockedSince t (s.recordFailure now) := by
  unfold ChannelState.recordFailure
  dsimp only
  split_ifs
  · exact ⟨rfl, now, hnow, rfl⟩
  · exact hs

theorem lockedSince_of_locks {pre : List (ℕ × Op)} {t : ℕ} {op : Op} (h : Locks (pre ++ [(t, op)]) op) :
    LockedSince t (state (pre ++ [(t, op)])) := by
  cases op with
  | recordFailure =>
    have h3 : 3 ≤ ((state pre).recordFailure t).consecutiveFailures := by
      have h' := h
      simp only [Locks, state_concat] at h'
      exact h'
    rw [state_concat]
    unfold ChannelState.recordFailure at h3 ⊢
    dsimp only at h3 ⊢
    split_ifs at h3 ⊢ with hb
    · exact ⟨rfl, t, Nat.le_refl t, rfl⟩
    · exact absurd h3 hb
  | recordSuccess => exact h.elim
  | markUnhealthy =>
    rw [state_concat]
    exact ⟨rfl, t, Nat.le_refl t, rfl⟩
  | markRateLimited =>
    rw [state_concat]
    exact ⟨rfl, t, Nat.le_refl t, rfl⟩
  | remove => exact h.elim

theorem lockedSince_append {pre post : List (ℕ × Op)} {t : ℕ} (hs : LockedSince t (state pre))
    (hpost : ∀ e ∈ post, e.2.fails) (hle : ∀ e ∈ post, t ≤ e.1) : LockedSince t (state (pre ++ post)) := by
  induction post using List.reverseRecOn with
  | nil => rwa [List.append_nil]
  | append_singleton post e ih =>
    have ih := ih (fun e he => hpost e (List.mem_append_left _ he)) fun e he => hle e (List.mem_append_left _ he)
    have hfails := hpost e (by simp)
    have ht := hle e (by simp)
    obtain ⟨now, op⟩ := e
    rw [← List.append_assoc, state_concat]
    cases op with
    | recordFailure => exact recordFailure_locked ih ht
    | recordSuccess => cases hfails
    | markUnhealthy => exact ⟨rfl, now, ht, rfl⟩
    | markRateLimited => exact ⟨rfl, now, ht, rfl⟩
    | remove => cases hfails

theorem LockedSince.not_tryable {t : ℕ} {s : ChannelState} (h : LockedSince t s) (hnow : now < t + secs 30) :
    s.isTryablePastCooldown now = false := by
  obtain ⟨hh, t', ht, hf⟩ := h
  have hbound := (cooldown_bounds s).1
  have h30 : 0 < secs 30 := by decide
  simp only [ChannelState.isTryablePastCooldown, hh, hf, decide_eq_false_iff_not]
  omega

theorem locked_of_ordered (ho : Ordered ops) {pre post : List (ℕ × Op)} {t : ℕ} {op : Op}
    (hsplit : ops = pre ++ (t, op) :: post) (hlocks : Locks (pre ++ [(t, op)]) op)
    (hpost : ∀ e ∈ post, e.2.fails) (hnow : now < t + secs 30) : tryable ops now = false := by
  subst hsplit
  have hle : ∀ e ∈ post, t ≤ e.1 := by
    have htail := (List.pairwise_append.mp ho).2.1
    exact fun e he => (List.pairwise_cons.mp htail).1 e he
  have hlocked := lockedSince_append (lockedSince_of_locks hlocks) hpost hle
  rw [List.append_assoc, List.singleton_append] at hlocked
  rw [tryable_eq]
  exact hlocked.not_tryable hnow

end

namespace Sample

def mixed : List (ℕ × Op) :=
  [(0, .recordFailure), (1, .markRateLimited), (2, .recordFailure), (3, .recordFailure), (4, .recordSuccess),
    (5, .remove), (6, .markUnhealthy), (6, .recordFailure)]

def overflowing (n : ℕ) : List (ℕ × Op) := (0, .markUnhealthy) :: List.replicate n (0, .recordFailure)

end Sample

theorem lockout_bounded {ops : List (ℕ × Op)} (ho : Ordered ops)
    (hcount : ∀ pre, pre <+: ops → counted pre < 2 ^ 32) : Bounded ops where
  consistent := state_consistent hcount
  released := fun _ => tryable_of_released
  locked := fun _ _ _ _ _ => locked_of_ordered ho

theorem lockout_bounded_mixed :
    tryable Sample.mixed (6 + secs 30 - 1) = false ∧ Bounded Sample.mixed := by
  have hcount : ∀ pre, pre <+: Sample.mixed → counted pre < 2 ^ 32 := by
    have hinits : ∀ pre ∈ Sample.mixed.inits, counted pre < 2 ^ 32 := by decide
    exact fun pre hpre => hinits pre ((List.mem_inits pre Sample.mixed).mpr hpre)
  exact ⟨by decide, lockout_bounded (by decide) hcount⟩

theorem state_overflowing (n : ℕ) : state (Sample.overflowing n) = ⟨.unhealthy, some 0, UInt32.ofNat (3 + n)⟩ := by
  induction n with
  | zero => rfl
  | succ n ih =>
    have hsplit : Sample.overflowing (n + 1) = Sample.overflowing n ++ [(0, .recordFailure)] := by
      simp only [Sample.overflowing, List.replicate_succ', List.cons_append]
    have hnext : UInt32.ofNat (3 + n) + 1 = UInt32.ofNat (3 + (n + 1)) := by
      rw [← Nat.add_assoc, UInt32.ofNat_add (3 + n) 1]
      rfl
    rw [hsplit, state_concat, ih]
    simp only [ChannelState.recordFailure, hnext]
    split_ifs <;> rfl

theorem failures_overflowing (n : ℕ) : failures (Sample.overflowing n) = n + 1 := by
  rw [failures, Sample.overflowing, List.countP_cons_of_pos rfl, List.countP_replicate]
  rfl

theorem overflow_below_limit :
    ¬ ∀ ops : List (ℕ × Op), Ordered ops → failures ops < 2 ^ 32 → Bounded ops := by
  intro h
  have ho : Ordered (Sample.overflowing (2 ^ 32 - 3)) := by
    refine List.pairwise_cons.mpr ⟨fun e _ => Nat.zero_le _, ?_⟩
    exact List.pairwise_replicate.mpr (.inr (Nat.le_refl 0))
  have hf : failures (Sample.overflowing (2 ^ 32 - 3)) < 2 ^ 32 := by
    rw [failures_overflowing]
    omega
  have hs := (h _ ho hf).consistent
  rw [state_overflowing] at hs
  exact absurd (hs.unhealthy rfl) (by decide)

end AgentProxy.Router.Lockout
