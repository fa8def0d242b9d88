import AgentProxy.Router.Lockout

namespace AgentProxy.Router.Lockout

section

variable {ops : List (ℕ × Op)} {t now : ℕ} {op : Op} {s : ChannelState}

theorem effectiveCooldown_of_le_one (h : s.consecutiveFailures ≤ 1) : s.effectiveCooldown = secs 30 := if_pos h

theorem effectiveCooldown_of_three_le (h : 3 ≤ s.consecutiveFailures) : s.effectiveCooldown = secs 900 := by
  have hnat : 3 ≤ s.consecutiveFailures.toNat := UInt32.le_iff_toNat_le.mp h
  have h1 : ¬ s.consecutiveFailures ≤ 1 := by
    rw [UInt32.le_iff_toNat_le, UInt32.toNat_one]
    omega
  have h2 : s.consecutiveFailures ≠ 2 := by
    intro h2
    rw [h2] at h
    exact absurd h (by decide)
  rw [ChannelState.effectiveCooldown, exponentialCooldown, if_neg h1, if_neg h1, if_neg h2]
  rfl

theorem tryable_iff : s.isTryablePastCooldown now = true ↔
    ∀ t, s.health = .unhealthy → s.failedAt = some t → s.effectiveCooldown ≤ now - t := by
  unfold ChannelState.isTryablePastCooldown
  split
  · rename_i hh
    simp [hh]
  · rename_i hh hf
    simp [hf]
  · rename_i t hh hf
    simp [hh, hf]

theorem unhealthy_tryable_iff {n : UInt32} : (⟨.unhealthy, some t, n⟩ : ChannelState).isTryablePastCooldown now = true ↔
    t + ChannelState.effectiveCooldown ⟨.unhealthy, some t, n⟩ ≤ now := by
  have hpos := (cooldown_bounds ⟨.unhealthy, some t, n⟩).1
  have h30 : 0 < secs 30 := by decide
  simp only [ChannelState.isTryablePastCooldown, decide_eq_true_eq]
  omega

theorem markRateLimited_tryable_iff :
    (s.markRateLimited t).isTryablePastCooldown now = true ↔ t + secs 30 ≤ now := by
  rw [ChannelState.markRateLimited, unhealthy_tryable_iff, effectiveCooldown_of_le_one UInt32.le_rfl]

theorem failedAt_le (ho : Ordered (ops ++ [(t, op)])) {t' : ℕ} (h : (state ops).failedAt = some t') : t' ≤ t := by
  obtain ⟨e, he, -, rfl⟩ := failedAt_mem h
  exact (List.pairwise_append.mp ho).2.2 e he (t, op) (List.mem_singleton_self _)

theorem tryable_of_restarted (ho : Ordered (ops ++ [(t, op)])) {n : UInt32} (hn : 3 ≤ n)
    (h : (⟨.unhealthy, some t, n⟩ : ChannelState).isTryablePastCooldown now = true) : tryable ops now = true := by
  rw [unhealthy_tryable_iff, effectiveCooldown_of_three_le hn] at h
  rw [tryable_eq, tryable_iff]
  intro t' _ ht'
  have hle := failedAt_le ho ht'
  have hbound := (cooldown_bounds (state ops)).2
  omega

theorem effectiveCooldown_le_succ {n : UInt32} (hcount : s.consecutiveFailures + 1 = n)
    (hmax : s.consecutiveFailures.toNat + 1 < 2 ^ 32) (hn : ¬ 3 ≤ n) :
    s.effectiveCooldown ≤ ChannelState.effectiveCooldown { s with consecutiveFailures := n } := by
  have hsum : n.toNat = s.consecutiveFailures.toNat + 1 := by
    rw [← hcount, UInt32.toNat_add, UInt32.toNat_one]
    omega
  have hlt : n.toNat < 3 := by
    rw [UInt32.le_iff_toNat_le] at hn
    exact Nat.lt_of_not_le hn
  have hle : s.consecutiveFailures ≤ 1 := by
    rw [UInt32.le_iff_toNat_le, UInt32.toNat_one]
    omega
  rw [effectiveCooldown_of_le_one hle]
  exact (cooldown_bounds _).1

theorem tryable_of_recordFailure (ho : Ordered (ops ++ [(t, op)]))
    (hmax : (state ops).consecutiveFailures.toNat + 1 < 2 ^ 32)
    (h : ((state ops).recordFailure t).isTryablePastCooldown now = true) : tryable ops now = true := by
  unfold ChannelState.recordFailure at h
  dsimp only at h
  split at h
  · rename_i h3
    exact tryable_of_restarted ho h3 h
  · rename_i h3
    rw [tryable_eq, tryable_iff]
    intro t' hh hf
    exact (effectiveCooldown_le_succ rfl hmax h3).trans (tryable_iff.mp h t' hh hf)

theorem tryable_later {later : ℕ} (h : tryable ops now = true) (hle : now ≤ later) : tryable ops later = true := by
  rw [tryable_eq, tryable_iff] at h ⊢
  intro t hh hf
  have hnow := h t hh hf
  omega

end

theorem failure_keeps_cooldown_iff {ops : List (ℕ × Op)} {t : ℕ} {op : Op} (ho : Ordered (ops ++ [(t, op)]))
    (hop : op.fails = true) (hmax : op = .recordFailure → (state ops).consecutiveFailures.toNat + 1 < 2 ^ 32) :
    ((∀ now, tryable (ops ++ [(t, op)]) now = true → tryable ops now = true) ↔
        (op = .markRateLimited → tryable ops (t + secs 30) = true)) ∧
      (op = .markRateLimited → ∀ now, tryable (ops ++ [(t, op)]) now = true ↔ t + secs 30 ≤ now) := by
  have hafter : ∀ now, tryable (ops ++ [(t, op)]) now = (state (ops ++ [(t, op)])).isTryablePastCooldown now :=
    fun now => tryable_eq
  simp only [hafter, state_concat]
  cases op with
  | recordFailure =>
    refine ⟨⟨fun _ h => Op.noConfusion h, fun _ now h => ?_⟩, fun h => Op.noConfusion h⟩
    exact tryable_of_recordFailure ho (hmax rfl) h
  | recordSuccess => cases hop
  | markUnhealthy =>
    refine ⟨⟨fun _ h => Op.noConfusion h, fun _ now h => ?_⟩, fun h => Op.noConfusion h⟩
    exact tryable_of_restarted ho UInt32.le_rfl h
  | markRateLimited =>
    simp only [markRateLimited_tryable_iff, forall_const, and_true]
    constructor
    · intro h
      exact h _ (Nat.le_refl _)
    · intro h now hnow
      exact tryable_later h hnow
  | remove => cases hop

theorem failure_keeps_cooldown_after_server_error : tryable [(0, .markUnhealthy)] (secs 600) = false ∧
    ∀ now, tryable ([(0, .markUnhealthy)] ++ [(secs 1, .recordFailure)]) now = true →
      tryable [(0, .markUnhealthy)] now = true := by
  have hiff := (@failure_keeps_cooldown_iff [(0, .markUnhealthy)] (secs 1) .recordFailure (by decide) rfl
    fun _ => by decide).1
  exact ⟨by decide, hiff.mpr fun h => Op.noConfusion h⟩

theorem rate_limit_shortens_cooldown :
    (tryable [(0, .markUnhealthy)] (secs 31) = false ∧
      tryable ([(0, .markUnhealthy)] ++ [(secs 1, .markRateLimited)]) (secs 31) = true) ∧
    tryable (Sample.overflowing (2 ^ 32 - 4)) (secs 30) = false ∧
      tryable (Sample.overflowing (2 ^ 32 - 4) ++ [(0, .recordFailure)]) (secs 30) = true := by
  refine ⟨by decide, ?_, ?_⟩
  · rw [tryable_eq, state_overflowing]
    decide
  · rw [tryable_eq, state_concat, state_overflowing]
    decide

end AgentProxy.Router.Lockout
