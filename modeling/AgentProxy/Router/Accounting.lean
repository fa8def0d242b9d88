import AgentProxy.Lib.Projection
import AgentProxy.Router.HealthFeedback
import AgentProxy.Router.Lockout
import AgentProxy.Router.Overshoot

namespace AgentProxy.Router.Accounting

open Storage Transition Feedback

def channelKey (ctx : ConnectionContext) : String := (ctx.selectedChannel.map (·.name)).getD ""

def transitionOp : HealthTransition → Option Lockout.Op
  | .unhealthy => some .markUnhealthy
  | .clientError => none
  | .rateLimited => some .markRateLimited
  | .healthy => some .recordSuccess

/-- What an event does to the entry of `c` in the health map, with its time. A response counts for the display
name of its channel. -/
def healthOp (c : String) (s : FeedbackState) : Event → Option (ℕ × Lockout.Op)
  | .response now _ i res =>
    match s.routed[i]? with
    | none => none
    | some ctx =>
      if channelKey ctx = c ∧ c ≠ "" then (transitionOp (classifyStatus res.status)).map (Prod.mk now) else none
  | .adminHealth now id entry =>
    if id = c then some (now, if entry.isNone then .remove else .markUnhealthy) else none
  | _ => none

/-- The admin handlers remove an entry or mark it unhealthy. -/
def AdminMarks (s : FeedbackState) : Event → Prop
  | .adminHealth now id entry => entry = none ∨ entry = some (((s.router.health id).getD .new).markUnhealthy now)
  | _ => True

def act (entry : Option ChannelState) (e : ℕ × Lockout.Op) : Option ChannelState := Lockout.apply entry e.1 e.2

section

variable (serde : Serde) {c : String} {s t u : FeedbackState} {e : Event} {es : List Event}

def healthOps (c : String) (s : FeedbackState) (es : List Event) : List (ℕ × Lockout.Op) :=
  opsAlong (step serde) (healthOp c) s es

theorem healthAfter_eq (now : ℕ) (entry : Option ChannelState) (t : HealthTransition) :
    healthAfter now entry t = ((transitionOp t).map (Prod.mk now)).toList.foldl act entry := by
  cases t <;> rfl

theorem response_entry (now month : ℕ) (r : RouterState) (res : ProxyResponse) (ctx : ConnectionContext) :
    (performAll now month r (onResponse serde res ctx)).health c =
      if channelKey ctx = c ∧ c ≠ "" then healthAfter now (r.health c) (classifyStatus res.status)
      else r.health c := by
  cases hcfg : ctx.selectedChannel with
  | none =>
    have hnone : onResponse serde res ctx = [] := by simp [onResponse, hcfg]
    have hkey : channelKey ctx = "" := by simp [channelKey, hcfg]
    rw [hnone, hkey, if_neg fun h => h.2 h.1.symm]
    rfl
  | some cfg =>
    have hkey : channelKey ctx = cfg.name := by simp [channelKey, hcfg]
    rw [hkey]
    by_cases hempty : cfg.name = ""
    · rw [onResponse_noop serde res ctx hcfg hempty, if_neg fun h => h.2 (h.1.symm.trans hempty)]
      rfl
    · rw [onResponse_health serde now month r res ctx hcfg hempty]
      by_cases hc : cfg.name = c
      · rw [if_pos ⟨hc, hc ▸ hempty⟩, ← hc, Function.update_self]
      · rw [if_neg fun h => hc h.1, Function.update_of_ne (Ne.symm hc)]

theorem step_health (hok : AdminMarks s e) (h : step serde s e = some t) :
    t.router.health c = (healthOp c s e).toList.foldl act (s.router.health c) := by
  have hevent := (step_eq_some serde h).2
  cases e with
  | request now month req ctx =>
    have hview := onRequest_sameView serde now month s.router req ctx
    simp only [applyEvent] at hevent
    split at hevent
    all_goals
      rename_i hr
      rw [hr] at hview
      cases hevent
      exact congrFun hview.2.1 c
  | response now month i res =>
    simp only [applyEvent, Option.map_eq_some_iff] at hevent
    obtain ⟨ctx, hctx, rfl⟩ := hevent
    simp only [response_entry, healthOp, hctx]
    split_ifs
    · exact healthAfter_eq now _ _
    · rfl
  | reload now db =>
    cases hevent
    rfl
  | adminHealth now id entry =>
    cases hevent
    simp only [healthOp, Function.update_apply]
    by_cases hid : id = c
    · subst hid
      rw [if_pos rfl, if_pos rfl]
      rcases hok with rfl | rfl
      · rfl
      · rfl
    · rw [if_neg hid, if_neg (Ne.symm hid)]
      rfl
  | adminKey now id key =>
    cases hevent
    rfl

theorem run_health (hok : Meets (step serde) AdminMarks s es) (h : run (step serde) s es = some u) :
    u.router.health c = (healthOps serde c s es).foldl act (s.router.health c) :=
  run_view (fun _ _ _ hmarks hstep => step_health serde hmarks hstep) hok h

/-- An entry that is missing counts as a new one. -/
def SameEntry (a b : Option ChannelState) : Prop := a = b ∨ a = none ∧ b = some .new

theorem act_sameEntry {a b : Option ChannelState} (h : SameEntry a b) (e : ℕ × Lockout.Op) :
    SameEntry (act a e) (act b e) := by
  rcases h with rfl | ⟨rfl, rfl⟩
  · exact .inl rfl
  · obtain ⟨now, op⟩ := e
    cases op with
    | recordFailure => exact .inl rfl
    | recordSuccess => exact .inr ⟨rfl, rfl⟩
    | markUnhealthy => exact .inl rfl
    | markRateLimited => exact .inl rfl
    | remove => exact .inl rfl

theorem after_sameEntry (ops : List (ℕ × Lockout.Op)) : SameEntry (ops.foldl act none) (Lockout.after ops) := by
  have hfold : ∀ a b, SameEntry a b → SameEntry (ops.foldl act a) (ops.foldl act b) := by
    induction ops with
    | nil => exact fun a b h => h
    | cons e ops ih => exact fun a b h => ih _ _ (act_sameEntry h e)
  exact hfold none (some .new) (.inr ⟨rfl, rfl⟩)

theorem isHealthy_eq_tryable {ops : List (ℕ × Lockout.Op)} {r : RouterState} (h : r.health c = ops.foldl act none)
    (now : ℕ) : r.isHealthy now c = Lockout.tryable ops now := by
  rw [RouterState.isHealthy, Lockout.tryable, h]
  rcases after_sameEntry ops with heq | ⟨hnone, hnew⟩
  · generalize Lockout.after ops = entry at heq ⊢
    subst heq
    cases List.foldl act none ops
    · rfl
    · rfl
  · rw [hnone, hnew]
    rfl

theorem step_clock (h : step serde s e = some t) :
    s.clock ≤ t.clock ∧ ∀ a ∈ healthOp c s e, a.1 = t.clock := by
  obtain ⟨htime, hevent⟩ := step_eq_some serde h
  have hclock : t.clock = e.time := by
    cases e with
    | request now month req ctx =>
      simp only [applyEvent] at hevent
      split at hevent
      all_goals
        cases hevent
        rfl
    | response now month i res =>
      obtain ⟨ctx, -, rfl⟩ := Option.map_eq_some_iff.mp hevent
      rfl
    | reload now db =>
      cases hevent
      rfl
    | adminHealth now id entry =>
      cases hevent
      rfl
    | adminKey now id key =>
      cases hevent
      rfl
  refine ⟨hclock ▸ htime, fun a ha => ?_⟩
  rw [hclock]
  cases e with
  | response now month i res =>
    simp only [healthOp] at ha
    split at ha
    · cases ha
    · split_ifs at ha
      · obtain ⟨op, -, rfl⟩ := Option.map_eq_some_iff.mp ha
        rfl
      · cases ha
  | adminHealth now id entry =>
    simp only [healthOp] at ha
    by_cases hid : id = c
    · rw [if_pos hid] at ha
      cases ha
      rfl
    · rw [if_neg hid] at ha
      cases ha
  | request now month req ctx => cases ha
  | reload now db => cases ha
  | adminKey now id key => cases ha

/-- Routing to `c` is governed by what is filed under `c` alone. -/
structure Governed (c : String) (ops : List (ℕ × Lockout.Op)) (s : FeedbackState) : Prop where
  entry : ∀ now, s.router.isHealthy now c = Lockout.tryable ops now
  released : ∀ now, (∀ e ∈ ops, e.2.fails → e.1 + secs 900 ≤ now) → s.router.isHealthy now c = true
  locked : ∀ pre t op post, ops = pre ++ (t, op) :: post → Lockout.Locks (pre ++ [(t, op)]) op →
    (∀ e ∈ post, e.2.fails) → ∀ now month req, now < t + secs 30 → ¬ Selects serde now month s req c

theorem health_isolated {db : Database} (hok : Meets (step serde) AdminMarks (start serde db) es)
    (h : run (step serde) (start serde db) es = some u) (c : String) :
    Governed serde c (healthOps serde c (start serde db) es) u := by
  have hentry := isHealthy_eq_tryable (run_health serde hok h (c := c))
  have hordered : Lockout.Ordered (healthOps serde c (start serde db) es) :=
    (opsAlong_ordered (fun _ _ _ hstep => step_clock serde hstep) h).1
  constructor
  · exact hentry
  · intro now hreleased
    rw [hentry]
    exact Lockout.tryable_of_released hreleased
  · rintro pre t op post hsplit hlocks hpost now month req hnow ⟨body, cand, hselect, rfl⟩
    have husable := (selectFor_ok serde now month hselect).2.2
    have hlocked := Lockout.locked_of_ordered hordered hsplit hlocks hpost hnow
    rw [← hentry] at hlocked
    exact absurd (husable.symm.trans hlocked) (by decide)

end

namespace Sample

def database : Database := Router.Sample.database "deepseek" "deepseek" "sk"

def outage : List Event :=
  [.request 0 0 Router.Sample.request Router.Sample.context, .response 1 0 0 serviceUnavailable,
    .adminHealth 2 "openai" none]

def flatFee : FeedbackState := ⟨0, Overshoot.Sample.router "DeepSeek", []⟩

def answered : List Event :=
  [.request 0 7 Router.Sample.request Router.Sample.context, .response 1 7 0 Overshoot.Sample.answer]

end Sample

theorem health_isolated_outage :
    ∃ u, run (step Router.Sample.serde) (start Router.Sample.serde Sample.database) Sample.outage = some u ∧
      u.router.isHealthy 2 "deepseek" = false ∧
      Governed Router.Sample.serde "deepseek"
        (healthOps Router.Sample.serde "deepseek" (start Router.Sample.serde Sample.database) Sample.outage) u := by
  have hok : Meets (step Router.Sample.serde) AdminMarks (start Router.Sample.serde Sample.database) Sample.outage :=
    ⟨trivial, fun _ _ => ⟨trivial, fun _ _ => ⟨.inl rfl, fun _ _ => trivial⟩⟩⟩
  exact ⟨_, rfl, by decide +kernel, health_isolated Router.Sample.serde hok rfl "deepseek"⟩

def chargedFor (id : String) (ctx : ConnectionContext) : Bool :=
  channelKey ctx ≠ "" && ctx.selectedMapping.any fun info => info.isFlatFee && info.mappingId = id

def usageOp (serde : Serde) (id : String) (s : FeedbackState) : Event → Option UInt64
  | .response _ _ i res =>
    match s.routed[i]? with
    | none => none
    | some ctx => if chargedFor id ctx then some (quotaTokens serde res.body) else none
  | _ => none

def InMonth (k : ℕ) : Event → Prop
  | .request _ month _ _ | .response _ month _ _ => month = k
  | _ => True

def charge (k : ℕ) (entry : QuotaUsage) : List UInt64 → QuotaUsage
  | [] => entry
  | tokens :: rest =>
    let entry := entry.maybeReset k
    ⟨entry.requestsThisMonth + .ofNat (rest.length + 1), (tokens :: rest).foldl (· + ·) entry.tokensThisMonth, k⟩

theorem maybeReset_monthKey (entry : QuotaUsage) (k : ℕ) : (entry.maybeReset k).monthKey = k := by
  unfold QuotaUsage.maybeReset
  split_ifs with h
  · rfl
  · exact (not_not.mp h).symm

theorem recordUsage_charge (k : ℕ) (entry : QuotaUsage) (tokens : UInt64) (rest : List UInt64) :
    charge k (entry.recordUsage k tokens) rest = charge k entry (tokens :: rest) := by
  have hrecord : entry.recordUsage k tokens =
      ⟨(entry.maybeReset k).requestsThisMonth + 1, (entry.maybeReset k).tokensThisMonth + tokens, k⟩ := by
    rw [QuotaUsage.recordUsage, maybeReset_monthKey]
  rw [hrecord]
  cases rest with
  | nil => rfl
  | cons next rest =>
    have hkept : QuotaUsage.maybeReset ⟨(entry.maybeReset k).requestsThisMonth + 1,
        (entry.maybeReset k).tokensThisMonth + tokens, k⟩ k =
        ⟨(entry.maybeReset k).requestsThisMonth + 1, (entry.maybeReset k).tokensThisMonth + tokens, k⟩ :=
      if_neg (not_not.mpr rfl)
    simp only [charge, hkept, QuotaUsage.mk.injEq, List.length_cons, List.foldl_cons, and_true, UInt64.ofNat_add]
    grind

theorem foldl_recordUsage (k : ℕ) (entry : QuotaUsage) (tokens : List UInt64) :
    tokens.foldl (fun entry n => entry.recordUsage k n) entry = charge k entry tokens := by
  induction tokens generalizing entry with
  | nil => rfl
  | cons n rest ih => rw [List.foldl_cons, ih, recordUsage_charge]

section

variable (serde : Serde) {k : ℕ} {id : String} {s t u : FeedbackState} {e : Event} {es : List Event}

theorem response_charge (now : ℕ) (r : RouterState) (res : ProxyResponse) (ctx : ConnectionContext) :
    (performAll now k r (onResponse serde res ctx)).quotaEntry k id =
      if chargedFor id ctx then (r.quotaEntry k id).recordUsage k (quotaTokens serde res.body)
      else r.quotaEntry k id := by
  by_cases hkey : channelKey ctx = ""
  · have hnone : onResponse serde res ctx = [] := if_pos (by rw [channelKey] at hkey; rw [hkey]; rfl)
    rw [hnone, if_neg (by simp [chargedFor, hkey])]
    rfl
  have hkeyed : ((ctx.selectedChannel.map (·.name)).getD "").isEmpty = false :=
    Bool.eq_false_iff.mpr fun h => hkey (String.isEmpty_iff.mp h)
  by_cases hcharged : chargedFor id ctx = true
  · obtain ⟨-, hany⟩ := Bool.and_eq_true_iff.mp hcharged
    cases hinfo : ctx.selectedMapping with
    | none =>
      rw [hinfo] at hany
      cases hany
    | some info =>
      rw [hinfo] at hany
      obtain ⟨hflat, hid⟩ := Bool.and_eq_true_iff.mp hany
      have hops : onResponse serde res ctx =
          [.recordUsage id (quotaTokens serde res.body), .health (channelKey ctx) (classifyStatus res.status)] := by
        simp only [onResponse, hkeyed, Bool.false_eq_true, if_false, hinfo, hflat, if_true, of_decide_eq_true hid]
        rfl
      rw [hops, if_pos hcharged, performAll, List.foldl_cons, List.foldl_cons, List.foldl_nil,
        Overshoot.perform_quotaEntry, Overshoot.perform_quotaEntry]
      exact if_pos rfl
  · rw [if_neg hcharged]
    apply Overshoot.performAll_quotaEntry_of_other
    intro op hop
    cases op with
    | health c t => rfl
    | recordUsage id' tokens =>
      apply decide_eq_false
      rintro rfl
      simp only [onResponse, hkeyed, Bool.false_eq_true, if_false] at hop
      cases hinfo : ctx.selectedMapping with
      | none => simp [hinfo] at hop
      | some info =>
        by_cases hflat : info.isFlatFee = true
        · simp only [hinfo, hflat, if_true, List.cons_append, List.nil_append, List.mem_cons, RouterOp.recordUsage.injEq,
            reduceCtorEq, List.not_mem_nil, or_false] at hop
          apply hcharged
          simp [chargedFor, hkey, hinfo, hflat, hop.1]
        · simp [hinfo, hflat] at hop

theorem step_usage (hmonth : InMonth k e) (h : step serde s e = some t) :
    t.router.quotaEntry k id =
      (usageOp serde id s e).toList.foldl (fun entry n => entry.recordUsage k n) (s.router.quotaEntry k id) := by
  have hevent := (step_eq_some serde h).2
  cases e with
  | request now month req ctx =>
    cases (show month = k from hmonth)
    have hentry := @Overshoot.onRequest_quotaEntry serde now k s.router req ctx id
    simp only [applyEvent] at hevent
    split at hevent
    all_goals
      rename_i hr
      rw [hr] at hentry
      cases hevent
      exact hentry
  | response now month i res =>
    cases (show month = k from hmonth)
    simp only [applyEvent, Option.map_eq_some_iff] at hevent
    obtain ⟨ctx, hctx, rfl⟩ := hevent
    simp only [response_charge, usageOp, hctx]
    split_ifs
    · rfl
    · rfl
  | reload now db =>
    cases hevent
    rfl
  | adminHealth now id' entry =>
    cases hevent
    rfl
  | adminKey now id' key =>
    cases hevent
    rfl

def charges (id : String) (s : FeedbackState) (es : List Event) : List UInt64 :=
  opsAlong (step serde) (usageOp serde id) s es

structure Metered (k : ℕ) (id : String) (usage : QuotaUsage) (s : FeedbackState) : Prop where
  entry : s.router.quotaEntry k id = usage
  checked : ∀ quota, (s.router.quotaCheck k id quota).1 = usage.isWithinQuota quota
  blocked : ∀ now req body cand hint quota, (selectFor serde now k s.router req).1 = .ok (body, cand) →
    cand.2.mappingId = id → cand.2.billing = .flatFee hint quota .block → usage.isWithinQuota quota = true

theorem selectFor_unexhausted {now : ℕ} {r : RouterState} {req : ProxyRequest} {body : Json} {cand : Candidate}
    {hint : Option ℚ} {quota : Option Quota} (h : (selectFor serde now k r req).1 = .ok (body, cand))
    (hbilling : cand.2.billing = .flatFee hint quota .block) :
    (r.quotaEntry k cand.2.mappingId).isWithinQuota quota = true := by
  unfold selectFor at h
  cases hb : serde.fromSlice req.body with
  | error e => simp [hb] at h
  | ok b =>
    simp only [hb] at h
    split_ifs at h
    split at h
    · rename_i d r' hs
      cases h
      have hok : (selectChannel now k r (findCandidates r.channels (clientModel body)) (clientModel body)).1 =
          .ok cand := by rw [hs]
      exact selectChannel_within hok hbilling
    · cases h

theorem usage_isolated (hmonth : ∀ e ∈ es, InMonth k e) (h : run (step serde) s es = some u) (id : String) :
    Metered serde k id (charge k (s.router.quotaEntry k id) (charges serde id s es)) u := by
  have hentry : u.router.quotaEntry k id = charge k (s.router.quotaEntry k id) (charges serde id s es) := by
    rw [← foldl_recordUsage]
    have hok : Meets (step serde) (fun _ => InMonth k) s es := meets_of_forall (fun e he _ => hmonth e he) s
    exact @run_view _ _ _ _ _ _ _ _ _ _ (fun s => s.router.quotaEntry k id) _ (fun _ _ _ hin hstep => step_usage serde hin hstep) hok h
  constructor
  · exact hentry
  · intro quota
    rw [← hentry]
    rfl
  · rintro now req body cand hint quota hselect rfl hbilling
    rw [← hentry]
    exact selectFor_unexhausted serde hselect hbilling

end

theorem usage_isolated_answered :
    ∃ u, run (step Router.Sample.serde) Sample.flatFee Sample.answered = some u ∧
      (u.router.quotaCheck 7 "m1" (some (.maxRequests 1))).1 = false ∧
      Metered Router.Sample.serde 7 "m1" (charge 7 (Sample.flatFee.router.quotaEntry 7 "m1")
        (charges Router.Sample.serde "m1" Sample.flatFee Sample.answered)) u := by
  have hmonth : ∀ e ∈ Sample.answered, InMonth 7 e := by
    intro e he
    rcases List.mem_cons.mp he with rfl | he
    · rfl
    · rcases List.mem_singleton.mp he with rfl
      rfl
  exact ⟨_, rfl, by decide +kernel, usage_isolated Router.Sample.serde hmonth rfl "m1"⟩

end AgentProxy.Router.Accounting
