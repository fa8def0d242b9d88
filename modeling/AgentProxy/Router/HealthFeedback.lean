import AgentProxy.Lib.Run
import AgentProxy.Router.Middleware

namespace AgentProxy.Router

open Storage Transition

structure FeedbackState where
  clock : ℕ
  router : RouterState
  routed : List ConnectionContext

namespace Feedback

inductive Event where
  | request (now month : ℕ) (req : ProxyRequest) (ctx : ConnectionContext)
  | response (now month i : ℕ) (res : ProxyResponse)
  | reload (now : ℕ) (db : Database)
  | adminHealth (now : ℕ) (id : String) (entry : Option ChannelState)
  | adminKey (now : ℕ) (id : String) (key : Option String)

def Event.time : Event → ℕ
  | request now .. | response now .. | reload now _ | adminHealth now .. | adminKey now .. => now

variable (serde : Serde)

def start (db : Database) : FeedbackState := ⟨0, fromStorage serde db, []⟩

def applyEvent (s : FeedbackState) : Event → Option FeedbackState
  | .request now month req ctx =>
    match onRequest serde now month s.router req ctx with
    | (.ok (_, ctx'), r) => some ⟨now, r, s.routed ++ [ctx']⟩
    | (.error _, r) => some { s with clock := now, router := r }
  | .response now month i res =>
    (s.routed[i]?).map fun ctx =>
      { s with clock := now, router := performAll now month s.router (onResponse serde res ctx) }
  | .reload now db =>
    some { s with clock := now, router := { s.router with channels := resolveChannels serde db } }
  | .adminHealth now id entry =>
    some { s with clock := now, router := { s.router with health := Function.update s.router.health id entry } }
  | .adminKey now id key =>
    some { s with
      clock := now
      router := { s.router with channelApiKeys := Function.update s.router.channelApiKeys id key } }

def step (s : FeedbackState) (e : Event) : Option FeedbackState :=
  if e.time < s.clock then none else applyEvent serde s e

def RoutedTo (c : String) (ctx : ConnectionContext) : Prop :=
  ∃ info, ctx.selectedMapping = some info ∧ info.channelId = c

def Excuses (c : String) (s : FeedbackState) : Event → Prop
  | .response _ _ i res =>
    ∃ ctx, s.routed[i]? = some ctx ∧ RoutedTo c ctx ∧ (res.status.code < 400 ∨ res.status.code = 429)
  | .adminHealth _ id _ => id = c
  | _ => False

def Selects (now month : ℕ) (s : FeedbackState) (req : ProxyRequest) (c : String) : Prop :=
  ∃ body cand, (selectFor serde now month s.router req).1 = .ok (body, cand) ∧ cand.1.channelId = c

/-- After a 5xx or a 401 for channel `c` at time `t`, no request before `t` + 900 s selects `c`,
in every run whose events meet `ok`. -/
def HealthFeedback (ok : FeedbackState → Event → Prop) (db : Database) (c : String) : Prop :=
  ∀ (pre mid : List Event) (t month i : ℕ) (res : ProxyResponse) (ctx : ConnectionContext)
    (s₀ s₁ s₂ : FeedbackState),
    Meets (step serde) ok (start serde db) pre → run (step serde) (start serde db) pre = some s₀ →
    s₀.routed[i]? = some ctx → RoutedTo c ctx →
    (res.status.isServerError = true ∨ res.status.code = 401) →
    step serde s₀ (.response t month i res) = some s₁ →
    Meets (step serde) ok s₁ mid → run (step serde) s₁ mid = some s₂ →
    Meets (step serde) (fun s e => ¬ Excuses c s e) s₁ mid →
    ∀ (now month' : ℕ) (req : ProxyRequest), now < t + secs 900 → ¬ Selects serde now month' s₂ req c

def NamedById (c : String) (db : Database) : Prop := ∀ row ∈ db.channels.rows, row.id = c ↔ row.name = c

/-- Every reloaded table names `c` by its id; no status from 600 on comes back from `c`. -/
def EventOk (c : String) (s : FeedbackState) : Event → Prop
  | .reload _ db => NamedById c db
  | .response _ _ i res => ∀ ctx, s.routed[i]? = some ctx → RoutedTo c ctx → res.status.code < 600
  | _ => True

def KeyedById (c : String) (s : FeedbackState) : Prop :=
  (∀ ch ∈ s.router.channels, ch.channelId = c ↔ ch.channelName = c) ∧
    ∀ ctx ∈ s.routed, ∃ cfg info, ctx.selectedChannel = some cfg ∧ ctx.selectedMapping = some info ∧
      (info.channelId = c ↔ cfg.name = c)

def DownSince (c : String) (t₀ : ℕ) (s : FeedbackState) : Prop :=
  t₀ ≤ s.clock ∧ ∃ entry, s.router.health c = some entry ∧ entry.DownSince t₀

theorem resolved_named {c : String} {db : Database} (h : NamedById c db) :
    ∀ ch ∈ resolveChannels serde db, ch.channelId = c ↔ ch.channelName = c := by
  intro ch hch
  obtain ⟨row, hrow, hi, hn, -⟩ := mem_resolveChannels serde hch
  rw [hi, hn]
  exact h row hrow

theorem onRequest_context {now month : ℕ} {r : RouterState} {req req' : ProxyRequest}
    {ctx ctx' : ConnectionContext} (h : (onRequest serde now month r req ctx).1 = .ok (req', ctx')) :
    ∃ cfg info, ∃ ch ∈ r.channels, ctx'.selectedChannel = some cfg ∧ ctx'.selectedMapping = some info ∧
      info.channelId = ch.channelId ∧ cfg.name = ch.channelName := by
  obtain ⟨body, cand, hs, hr⟩ := onRequest_ok serde now month h
  obtain ⟨target, url, rewritePath, -, -, -, rfl⟩ := routeTo_ok serde hr
  exact ⟨_, _, cand.1, (selectFor_ok serde now month hs).1, rfl, rfl, rfl, rfl⟩

theorem applyEvent_keyed {c : String} {s t : FeedbackState} {e : Event} (hk : KeyedById c s)
    (hok : EventOk c s e) (h : applyEvent serde s e = some t) : KeyedById c t := by
  cases e with
  | request now month req ctx =>
    have hview := onRequest_sameView serde now month s.router req ctx
    have hctx := @onRequest_context serde now month s.router req
    simp only [applyEvent] at h
    split at h
    · rename_i req' ctx' r hr
      rw [hr] at hview
      cases h
      refine ⟨fun ch hch => hk.1 ch (hview.1 ▸ hch), fun x hx => ?_⟩
      rcases List.mem_append.mp hx with hx | hx
      · exact hk.2 x hx
      · obtain ⟨cfg, info, ch, hch, h1, h2, h3, h4⟩ := hctx (by rw [hr])
        rw [List.mem_singleton.mp hx]
        exact ⟨cfg, info, h1, h2, by rw [h3, h4]; exact hk.1 ch hch⟩
    · rename_i r hr
      rw [hr] at hview
      cases h
      exact ⟨fun ch hch => hk.1 ch (hview.1 ▸ hch), hk.2⟩
  | response now month i res =>
    simp only [applyEvent, Option.map_eq_some_iff] at h
    obtain ⟨ctx, -, rfl⟩ := h
    exact ⟨by rw [(performAll_frame now month s.router _).1]; exact hk.1, hk.2⟩
  | reload now db =>
    cases h
    exact ⟨resolved_named serde hok, hk.2⟩
  | adminHealth now id entry =>
    cases h
    exact hk
  | adminKey now id key =>
    cases h
    exact hk

theorem step_eq_some {s t : FeedbackState} {e : Event} (h : step serde s e = some t) :
    s.clock ≤ e.time ∧ applyEvent serde s e = some t := by
  unfold step at h
  split_ifs at h with hlt
  exact ⟨by omega, h⟩

theorem step_keyed {c : String} {s t : FeedbackState} {e : Event} (hk : KeyedById c s)
    (hok : EventOk c s e) (h : step serde s e = some t) : KeyedById c t :=
  applyEvent_keyed serde hk hok (step_eq_some serde h).2

theorem response_health {c : String} (hc : c ≠ "") {s : FeedbackState} (hk : KeyedById c s)
    {ctx : ConnectionContext} (hmem : ctx ∈ s.routed) (now month : ℕ) (res : ProxyResponse) :
    (RoutedTo c ctx ∧ (performAll now month s.router (onResponse serde res ctx)).health c =
        healthAfter now (s.router.health c) (classifyStatus res.status)) ∨
      (¬ RoutedTo c ctx ∧
        (performAll now month s.router (onResponse serde res ctx)).health c = s.router.health c) := by
  obtain ⟨cfg, info, hcfg, hinfo, hiff⟩ := hk.2 ctx hmem
  have hto : RoutedTo c ctx ↔ cfg.name = c := by
    rw [← hiff]
    constructor
    · rintro ⟨info', h', hid⟩
      rw [hinfo] at h'
      cases h'
      exact hid
    · exact fun hid => ⟨info, hinfo, hid⟩
  rw [hto]
  by_cases hn : cfg.name = c
  · refine Or.inl ⟨hn, ?_⟩
    rw [onResponse_health serde now month s.router res ctx hcfg (by rw [hn]; exact hc), hn,
      Function.update_self]
  · refine Or.inr ⟨hn, ?_⟩
    by_cases he : cfg.name = ""
    · rw [onResponse_noop serde res ctx hcfg he]
      rfl
    · rw [onResponse_health serde now month s.router res ctx hcfg he, Function.update_of_ne (Ne.symm hn)]

theorem healthAfter_down {t₀ now : ℕ} {entry : ChannelState} (h : entry.DownSince t₀) (hnow : t₀ ≤ now)
    {status : StatusCode} (h1 : 400 ≤ status.code) (h2 : status.code ≠ 429) (h3 : status.code < 600) :
    ∃ entry', healthAfter now (some entry) (classifyStatus status) = some entry' ∧ entry'.DownSince t₀ := by
  by_cases hs : status.isServerError = true ∨ status.code = 401
  · refine ⟨entry.markUnhealthy now, ?_, entry.markUnhealthy_downSince hnow⟩
    simp [classifyStatus, hs, healthAfter]
  · have hcl : status.isClientError = true := by
      simp only [StatusCode.isServerError, decide_eq_true_eq, not_or, not_and] at hs
      simp only [StatusCode.isClientError, decide_eq_true_eq]
      omega
    exact ⟨entry, by simp [classifyStatus, hs, hcl, h2, healthAfter], h⟩

theorem step_down {c : String} (hc : c ≠ "") {t₀ : ℕ} {s t : FeedbackState} {e : Event}
    (hk : KeyedById c s) (hd : DownSince c t₀ s) (hok : EventOk c s e) (hex : ¬ Excuses c s e)
    (h : step serde s e = some t) : DownSince c t₀ t := by
  obtain ⟨hclock, entry, hentry, hdown⟩ := hd
  obtain ⟨htime, ha⟩ := step_eq_some serde h
  have hnow : t₀ ≤ e.time := hclock.trans htime
  cases e with
  | request now month req ctx =>
    have hview := onRequest_sameView serde now month s.router req ctx
    simp only [applyEvent] at ha
    split at ha
    all_goals
      rename_i hr
      rw [hr] at hview
      cases ha
      exact ⟨hnow, entry, hview.2.1 ▸ hentry, hdown⟩
  | response now month i res =>
    simp only [applyEvent, Option.map_eq_some_iff] at ha
    obtain ⟨ctx, hctx, rfl⟩ := ha
    refine ⟨hnow, ?_⟩
    rcases response_health serde hc hk (List.mem_of_getElem? hctx) now month res with ⟨hto, hh⟩ | ⟨-, hh⟩
    · have hstatus : ¬ (res.status.code < 400 ∨ res.status.code = 429) :=
        fun hs => hex ⟨ctx, hctx, hto, hs⟩
      rw [hh, hentry]
      exact healthAfter_down hdown hnow (by omega) (by omega) (hok ctx hctx hto)
    · exact ⟨entry, hh.trans hentry, hdown⟩
  | reload now db =>
    cases ha
    exact ⟨hnow, entry, hentry, hdown⟩
  | adminHealth now id entry' =>
    cases ha
    have hne : c ≠ id := fun hcid => hex hcid.symm
    exact ⟨hnow, entry, (Function.update_of_ne hne _ _).trans hentry, hdown⟩
  | adminKey now id key =>
    cases ha
    exact ⟨hnow, entry, hentry, hdown⟩

theorem start_keyed {c : String} {db : Database} (h : NamedById c db) : KeyedById c (start serde db) :=
  ⟨resolved_named serde h, fun ctx hctx => by cases hctx⟩

theorem down_not_selected {c : String} {t₀ now month : ℕ} {s : FeedbackState} (hd : DownSince c t₀ s)
    (hnow : now < t₀ + secs 900) (req : ProxyRequest) : ¬ Selects serde now month s req c := by
  rintro ⟨body, cand, hs, rfl⟩
  obtain ⟨-, entry, hentry, hdown⟩ := hd
  obtain ⟨-, -, htry⟩ := selectFor_ok serde now month hs
  simp only [RouterState.isTryablePastCooldown, hentry, hdown.not_tryable hnow] at htry
  cases htry

theorem feedback_of_named {c : String} (hc : c ≠ "") {db : Database} (hdb : NamedById c db) :
    HealthFeedback serde (EventOk c) db c := by
  intro pre mid t month i res ctx s₀ s₁ s₂ hokpre hpre hctx hto hfail hres hokmid hmid hex now month' req hnow
  have hk₀ : KeyedById c s₀ :=
    run_invariant (KeyedById c) (fun _ _ _ => step_keyed serde) (start_keyed serde hdb) hokpre hpre
  obtain ⟨-, ha⟩ := step_eq_some serde hres
  simp only [applyEvent, hctx, Option.map_some, Option.some.injEq] at ha
  have hk₁ : KeyedById c s₁ := by
    rw [← ha]
    exact ⟨by rw [(performAll_frame t month s₀.router _).1]; exact hk₀.1, hk₀.2⟩
  have hd₁ : DownSince c t s₁ := by
    rcases response_health serde hc hk₀ (List.mem_of_getElem? hctx) t month res with ⟨-, hh⟩ | ⟨hn, -⟩
    · rw [← ha]
      refine ⟨le_refl t, _, ?_, ChannelState.markUnhealthy_downSince ((s₀.router.health c).getD .new) (le_refl t)⟩
      rw [hh]
      simp [classifyStatus, hfail, healthAfter]
    · exact absurd hto hn
  have hok : Meets (step serde) (fun s e => EventOk c s e ∧ ¬ Excuses c s e) s₁ mid :=
    meets_and.mpr ⟨hokmid, hex⟩
  have hd₂ : KeyedById c s₂ ∧ DownSince c t s₂ :=
    run_invariant (fun s => KeyedById c s ∧ DownSince c t s)
      (fun s e u hs ho hu => ⟨step_keyed serde hs.1 ho.1 hu, step_down serde hc hs.1 hs.2 ho.1 ho.2 hu⟩)
      ⟨hk₁, hd₁⟩ hok hmid
  exact down_not_selected serde hd₂.2 hnow req

theorem feedback_of_named_sample : NamedById "deepseek" (Sample.database "deepseek" "deepseek" "sk") ∧
    HealthFeedback Sample.serde (EventOk "deepseek") (Sample.database "deepseek" "deepseek" "sk") "deepseek" := by
  have hdb : NamedById "deepseek" (Sample.database "deepseek" "deepseek" "sk") := by
    simp [NamedById, Sample.database, Sample.channel]
  exact ⟨hdb, feedback_of_named Sample.serde (by decide) hdb⟩

def serviceUnavailable : ProxyResponse := ⟨.serviceUnavailable, [], .utf8 "", false⟩

theorem feedback_lost_under_display_name :
    ¬ HealthFeedback Sample.serde (fun _ _ => True) (Sample.database "deepseek" "DeepSeek Official" "sk")
      "deepseek" := by
  intro h
  exact h [.request 0 0 Sample.request Sample.context] [] 0 0 0 serviceUnavailable _ _ _ _
    ⟨trivial, fun _ _ => trivial⟩ rfl rfl ⟨_, rfl, rfl⟩ (by decide) rfl trivial rfl trivial 0 0
    Sample.request (by decide) ⟨_, _, rfl, rfl⟩

end Feedback

end AgentProxy.Router
