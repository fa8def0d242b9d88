import AgentProxy.Resilience.Traffic

namespace AgentProxy.Resilience.CircuitBreaker

open Transition

def Requests (channel : String) (s : Traffic) (e : Event) : Prop := callOn channel s e = some .allowRequest

def Records (channel : String) (s : Traffic) (e : Event) : Prop :=
  callOn channel s e = some .recordSuccess ∨ callOn channel s e = some .recordFailure

/-- `probe` leaves the state `Open` of the circuit, and in `mid`, which ends in `u`, no outcome is recorded. -/
structure Probing (config : CircuitBreakerConfig) (channel : String) (before : List Event) (probe : Event)
    (mid : List Event) (s t u : Traffic) : Prop where
  reached : run (step config) .start before = some s
  opened : (s.circuit channel).state = .opened
  requests : Requests channel s probe
  admitted : Admits config s probe
  probed : step config s probe = some t
  waited : run (step config) t mid = some u
  pending : Meets (step config) (fun s e => ¬ Records channel s e) t mid

def OneProbe (config : CircuitBreakerConfig) (channel : String) (events : List Event) : Prop :=
  ∀ before probe mid next rest s t u, events = before ++ probe :: (mid ++ next :: rest) →
    Probing config channel before probe mid s t u → Requests channel u next → ¬ Admits config u next

def NoneWhileHalfOpen (config : CircuitBreakerConfig) (channel : String) (events : List Event) : Prop :=
  Meets (step config) (fun s e => Requests channel s e → (s.circuit channel).state ≠ .halfOpen) .start events

/-- A failure recorded at `trip` trips the circuit, and `mid` leads from there to `u`. -/
structure Tripped (config : CircuitBreakerConfig) (channel : String) (before : List Event) (trip : Event)
    (mid : List Event) (s t u : Traffic) : Prop where
  reached : run (step config) .start before = some s
  failed : callOn channel s trip = some .recordFailure
  tripped : config.failureThreshold ≤ (s.circuit channel).failureCount + 1
  recorded : step config s trip = some t
  waited : run (step config) t mid = some u

def RejectsForCooldown (config : CircuitBreakerConfig) (channel : String) (events : List Event) : Prop :=
  ∀ before trip mid next rest s t u v, events = before ++ trip :: (mid ++ next :: rest) →
    Tripped config channel before trip mid s t u → Requests channel u next → step config u next = some v →
    trip.time < next.time → next.time < trip.time + config.cooldown → ¬ Admits config u next

def Cooling (config : CircuitBreakerConfig) (c : ChannelCircuit) (now : ℕ) : Prop :=
  c.state = .opened ∧ ∃ opened, c.openedAt = some opened ∧ now < opened + config.cooldown

def NoSuccessWhileCooling (config : CircuitBreakerConfig) (channel : String) (events : List Event) : Prop :=
  Meets (step config) (fun s e => callOn channel s e = some .recordSuccess →
    ¬ Cooling config (s.circuit channel) e.time) .start events

section

variable {config : CircuitBreakerConfig} {channel : String} {s t u : Traffic} {e : Event} {es : List Event}

theorem allowRequest_halfOpen {c : ChannelCircuit} (h : c.state = .halfOpen) (cooldown now : ℕ) :
    c.allowRequest cooldown now = (true, c) := by
  simp [ChannelCircuit.allowRequest, h]

theorem allowRequest_leaves_opened {c : ChannelCircuit} {cooldown now : ℕ} (h : c.state = .opened)
    (hallow : (c.allowRequest cooldown now).1 = true) : (c.allowRequest cooldown now).2.state = .halfOpen := by
  simp only [ChannelCircuit.allowRequest, h] at hallow ⊢
  split at hallow
  · split at hallow
    · rename_i hcool
      simp [hcool]
    · cases hallow
  · cases hallow

theorem allowRequest_state {c : ChannelCircuit} {cooldown now : ℕ}
    (h : (c.allowRequest cooldown now).2.state = .halfOpen) :
    c.state = .halfOpen ∨ c.state = .opened ∧ (c.allowRequest cooldown now).1 = true := by
  cases hstate : c.state with
  | closed => simp [ChannelCircuit.allowRequest, hstate] at h
  | halfOpen => exact .inl rfl
  | opened =>
    refine .inr ⟨rfl, ?_⟩
    simp only [ChannelCircuit.allowRequest, hstate] at h ⊢
    split at h
    · split at h
      · rename_i hcool
        simp [hcool]
      · simp [hstate] at h
    · simp [hstate] at h

theorem step_halfOpen (h : step config s e = some t) (hstate : (s.circuit channel).state = .halfOpen)
    (hpending : ¬ Records channel s e) : t.circuit channel = s.circuit channel := by
  rw [step_circuit channel h]
  cases hcall : callOn channel s e with
  | none => rfl
  | some call =>
    cases call with
    | allowRequest => simp [apply, allowRequest_halfOpen hstate]
    | recordSuccess => exact absurd (.inl hcall) hpending
    | recordFailure => exact absurd (.inr hcall) hpending

theorem run_halfOpen (h : run (step config) s es = some t) (hstate : (s.circuit channel).state = .halfOpen)
    (hpending : Meets (step config) (fun s e => ¬ Records channel s e) s es) :
    (t.circuit channel).state = .halfOpen := by
  refine run_invariant (fun s => (s.circuit channel).state = .halfOpen) ?_ hstate hpending h
  intro s e t hs hok ht
  rw [step_halfOpen ht hs hok]
  exact hs

theorem step_requests (h : step config s e = some t) (hreq : Requests channel s e) :
    t.circuit channel = ((s.circuit channel).allowRequest config.cooldown e.time).2 := by
  have hcall : callOn channel s e = some .allowRequest := hreq
  rw [step_circuit channel h, hcall]
  rfl

theorem Probing.halfOpen {before mid : List Event} {probe : Event}
    (h : Probing config channel before probe mid s t u) : (u.circuit channel).state = .halfOpen := by
  refine run_halfOpen h.waited ?_ h.pending
  rw [step_requests h.probed h.requests]
  exact allowRequest_leaves_opened h.opened ((admits_iff h.requests).mp h.admitted)

theorem Probing.concat {before mid : List Event} {probe : Event} {v : Traffic}
    (h : Probing config channel before probe mid s t u) (hv : step config u e = some v)
    (hpending : ¬ Records channel u e) : Probing config channel before probe (mid ++ [e]) s t v :=
  ⟨h.reached, h.opened, h.requests, h.admitted, h.probed, run_append.mpr ⟨u, h.waited, run_cons.mpr ⟨v, hv, rfl⟩⟩,
    (meets_append h.waited).mpr ⟨h.pending, hpending, fun _ _ => trivial⟩⟩

theorem oneProbe_of_none (h : NoneWhileHalfOpen config channel es) : OneProbe config channel es := by
  rintro before probe mid next rest s t u rfl hprobe hnext
  have hafter := (meets_append hprobe.reached).mp h
  have hmid := (meets_append hprobe.waited).mp (hafter.2.2 t hprobe.probed)
  exact absurd hprobe.halfOpen (hmid.2.1 hnext)

theorem recordFailure_state {c : ChannelCircuit} {threshold : UInt32} {now : ℕ}
    (h : (c.recordFailure threshold now).state = .halfOpen) : c.state = .halfOpen := by
  simp only [ChannelCircuit.recordFailure] at h
  split at h
  · cases h
  · exact h

theorem calls_concat (h : run (step config) .start es = some s) (hv : step config s e = some t) :
    calls config channel .start (es ++ [e]) =
      calls config channel .start es ++ ((callOn channel s e).map (Prod.mk e.time)).toList := by
  rw [calls_append h]
  simp [calls, hv]

/-- A half-open circuit was left open by a probe whose outcome is still to come. -/
theorem probing_of_halfOpen (hth : 1 ≤ config.failureThreshold) (h : run (step config) .start es = some u)
    (hfew : failures (calls config channel .start es) < 2 ^ 32) (hstate : (u.circuit channel).state = .halfOpen) :
    ∃ before probe mid s t, es = before ++ probe :: mid ∧ Probing config channel before probe mid s t u := by
  induction es using List.reverseRecOn generalizing u with
  | nil =>
    cases h
    cases hstate
  | append_singleton es e ih =>
    obtain ⟨s, hs, hlast⟩ := run_append.mp h
    obtain ⟨_, hu, ⟨⟩⟩ := run_cons.mp hlast
    rw [calls_concat hs hu, failures, List.countP_append, ← failures] at hfew
    have hbefore : failures (calls config channel .start es) < 2 ^ 32 := by omega
    have hextend : ¬ Records channel s e → (s.circuit channel).state = .halfOpen → ∃ before probe mid s t,
        es ++ [e] = before ++ probe :: mid ∧ Probing config channel before probe mid s t u := by
      intro hpending hhalf
      obtain ⟨before, probe, mid, r, t, rfl, hprobe⟩ := ih hs hbefore hhalf
      exact ⟨before, probe, mid ++ [e], r, t, by simp, hprobe.concat hu hpending⟩
    rw [step_circuit channel hu] at hstate
    cases hcall : callOn channel s e with
    | none =>
      rw [hcall] at hstate
      exact hextend (by simp [Records, hcall]) hstate
    | some call =>
      rw [hcall] at hstate hfew
      cases call with
      | allowRequest =>
        obtain hhalf | ⟨hopen, hallow⟩ := allowRequest_state hstate
        · exact hextend (by simp [Records, hcall]) hhalf
        · exact ⟨es, e, [], s, u, rfl, hs, hopen, hcall, (admits_iff hcall).mpr hallow, hu, rfl, trivial⟩
      | recordSuccess => cases hstate
      | recordFailure =>
        have hrep := represents_after hth hbefore
        rw [← run_start_circuit channel hs] at hrep
        have hhalf := recordFailure_state hstate
        have hopens := hrep.reopens (by simpa using hfew) (by simp [hhalf]) e.time
        cases hopens.symm.trans hstate

theorem none_of_oneProbe (hth : 1 ≤ config.failureThreshold) (h : run (step config) .start es = some u)
    (hfew : failures (calls config channel .start es) < 2 ^ 32) (hone : OneProbe config channel es) :
    NoneWhileHalfOpen config channel es := by
  rw [NoneWhileHalfOpen, meets_iff_split h]
  rintro before e rest s rfl hs hreq hhalf
  rw [calls_append hs, failures, List.countP_append, ← failures] at hfew
  obtain ⟨before, probe, mid, r, t, rfl, hprobe⟩ := probing_of_halfOpen hth hs (by omega) hhalf
  refine hone before probe mid e rest r t s (by simp) hprobe hreq ((admits_iff hreq).mpr ?_)
  rw [allowRequest_halfOpen hhalf]

def OpenedSince (since : ℕ) (c : ChannelCircuit) : Prop :=
  c.state = .opened ∧ ∃ opened, c.openedAt = some opened ∧ since ≤ opened

theorem OpenedSince.rejects {c : ChannelCircuit} {since cooldown now : ℕ} (h : OpenedSince since c)
    (hle : since ≤ now) (hnow : now < since + cooldown) : c.allowRequest cooldown now = (false, c) := by
  obtain ⟨hstate, opened, hopened, hsince⟩ := h
  have hcool : ¬ cooldown ≤ now - opened := by omega
  simp [ChannelCircuit.allowRequest, hstate, hopened, hcool]

theorem OpenedSince.recordFailure {c : ChannelCircuit} {since now : ℕ} (h : OpenedSince since c)
    (hnow : since ≤ now) (threshold : UInt32) : OpenedSince since (c.recordFailure threshold now) := by
  unfold ChannelCircuit.recordFailure
  dsimp only
  split
  · exact ⟨rfl, now, rfl, hnow⟩
  · exact h

theorem step_openedSince {since : ℕ} (h : step config s e = some t) (hs : OpenedSince since (s.circuit channel))
    (hok : callOn channel s e = some .recordSuccess → ¬ Cooling config (s.circuit channel) e.time)
    (hsince : since ≤ e.time) (hnow : e.time < since + config.cooldown) : OpenedSince since (t.circuit channel) := by
  rw [step_circuit channel h]
  cases hcall : callOn channel s e with
  | none => exact hs
  | some call =>
    cases call with
    | allowRequest =>
      simp only [Option.map_some, Option.toList_some, List.foldl_cons, List.foldl_nil, apply, hs.rejects hsince hnow]
      exact hs
    | recordSuccess =>
      obtain ⟨opened, hopened, hle⟩ := hs.2
      exact absurd ⟨hs.1, opened, hopened, by omega⟩ (hok hcall)
    | recordFailure => exact hs.recordFailure hsince config.failureThreshold

theorem run_clock (h : run (step config) s es = some t) : s.clock ≤ t.clock := by
  induction es generalizing s with
  | nil =>
    cases h
    exact le_refl _
  | cons e es ih =>
    obtain ⟨u, hu, ht⟩ := run_cons.mp h
    have hclock := step_cases hu
    have hrest := ih ht
    omega

theorem run_openedSince {since : ℕ} (h : run (step config) s es = some t)
    (hs : OpenedSince since (s.circuit channel)) (hsince : since ≤ s.clock)
    (hok : Meets (step config) (fun s e => callOn channel s e = some .recordSuccess →
      ¬ Cooling config (s.circuit channel) e.time) s es)
    (hnow : t.clock < since + config.cooldown) : OpenedSince since (t.circuit channel) := by
  induction es generalizing s with
  | nil =>
    cases h
    exact hs
  | cons e es ih =>
    obtain ⟨u, hu, ht⟩ := run_cons.mp h
    obtain ⟨hclock, hclock', -⟩ := step_cases hu
    have hrest := run_clock ht
    exact ih ht (step_openedSince hu hs hok.1 (by omega) (by omega)) (by omega) (hok.2 u hu)

theorem Tripped.openedSince {before mid : List Event} {trip : Event}
    (h : Tripped config channel before trip mid s t u) : OpenedSince trip.time (t.circuit channel) := by
  rw [step_circuit channel h.recorded, h.failed]
  simp only [Option.map_some, Option.toList_some, List.foldl_cons, List.foldl_nil, apply,
    ChannelCircuit.recordFailure, if_pos h.tripped]
  exact ⟨rfl, trip.time, rfl, le_refl _⟩

end

theorem one_probe_iff_none_while_half_open (config : CircuitBreakerConfig) (channel : String) (events : List Event)
    (hth : 1 ≤ config.failureThreshold) (hrun : (run (step config) .start events).isSome) :
    (NoneWhileHalfOpen config channel events → OneProbe config channel events) ∧
    (failures (calls config channel .start events) < 2 ^ 32 → OneProbe config channel events →
      NoneWhileHalfOpen config channel events) := by
  obtain ⟨final, hfinal⟩ := Option.isSome_iff_exists.mp hrun
  exact ⟨oneProbe_of_none, none_of_oneProbe hth hfinal⟩

def Sample.context : ConnectionContext where
  requestId := 0
  agentType := .codex
  agentRole := none
  detectedFormat := none
  startedAt := 0
  selectedChannel := some ⟨"https://api.deepseek.com", "sk", .openaiChat, "deepseek", none⟩

def Sample.failure : ProxyResponse := ⟨.internalServerError, [], .utf8 "", false⟩

def Sample.success : ProxyResponse := ⟨.ok, [], .utf8 "", false⟩

def Sample.probe : List Event :=
  [.request 0 0 Sample.context, .response 1 0 Sample.failure, .request 2 1 Sample.context]

theorem one_probe_sample : OneProbe ⟨1, 1⟩ "deepseek" Sample.probe :=
  (one_probe_iff_none_while_half_open ⟨1, 1⟩ "deepseek" Sample.probe (by decide) (by decide +kernel)).1 (by
    refine ⟨nofun, fun s hs => ?_⟩
    cases Option.some.inj hs
    refine ⟨nofun, fun t ht => ?_⟩
    cases Option.some.inj ht
    exact ⟨nofun, fun _ _ => trivial⟩)

theorem half_open_admits_second_request : ¬ OneProbe ⟨1, 1⟩ "deepseek" (Sample.probe ++ [.request 3 2 Sample.context]) := by
  intro h
  exact h [.request 0 0 Sample.context, .response 1 0 Sample.failure] (.request 2 1 Sample.context) []
    (.request 3 2 Sample.context) [] _ _ _ rfl ⟨rfl, rfl, rfl, rfl, rfl, rfl, trivial⟩ rfl rfl

theorem open_circuit_rejects_for_cooldown (config : CircuitBreakerConfig) (channel : String) (events : List Event)
    (hok : NoSuccessWhileCooling config channel events) : RejectsForCooldown config channel events := by
  rintro before trip mid next rest s t u v rfl htrip hnext hv hlater hcooling
  have hafter := (meets_append htrip.reached).mp hok
  have hmid := (meets_append htrip.waited).mp (hafter.2.2 t htrip.recorded)
  obtain ⟨-, hclock, -⟩ := step_cases htrip.recorded
  obtain ⟨hclock', -, -⟩ := step_cases hv
  have hopened := run_openedSince htrip.waited htrip.openedSince (by omega) hmid.1 (by omega)
  rw [admits_iff hnext, hopened.rejects (by omega) hcooling]
  exact nofun

theorem open_circuit_rejects_sample : NoSuccessWhileCooling ⟨1, 60⟩ "deepseek" Sample.probe ∧
    RejectsForCooldown ⟨1, 60⟩ "deepseek" Sample.probe := by
  have hok : NoSuccessWhileCooling ⟨1, 60⟩ "deepseek" Sample.probe := by
    refine ⟨nofun, fun s hs => ?_⟩
    cases Option.some.inj hs
    refine ⟨nofun, fun t ht => ?_⟩
    cases Option.some.inj ht
    exact ⟨nofun, fun _ _ => trivial⟩
  exact ⟨hok, open_circuit_rejects_for_cooldown ⟨1, 60⟩ "deepseek" Sample.probe hok⟩

theorem late_success_closes_during_cooldown : ¬ RejectsForCooldown ⟨1, 60⟩ "deepseek"
    [.request 0 0 Sample.context, .request 1 1 Sample.context, .response 2 0 Sample.failure,
      .response 3 1 Sample.success, .request 4 2 Sample.context] := by
  intro h
  exact h [.request 0 0 Sample.context, .request 1 1 Sample.context] (.response 2 0 Sample.failure)
    [.response 3 1 Sample.success] (.request 4 2 Sample.context) [] _ _ _ _ rfl
    ⟨rfl, rfl, by decide, rfl, rfl⟩ rfl rfl (by decide) (by decide) rfl

end AgentProxy.Resilience.CircuitBreaker
