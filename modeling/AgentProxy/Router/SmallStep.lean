import AgentProxy.Router.Middleware
import Mathlib.Logic.Relation

namespace AgentProxy.Router

inductive Loop where
  | flatFee
  | metered
  | pastCooldown
  deriving DecidableEq

def Loop.tryable (now : ℕ) (r : RouterState) (id : String) : Loop → Bool
  | flatFee => r.isHealthy now id
  | metered => r.isHealthy now id
  | pastCooldown => r.isTryablePastCooldown now id

structure Attempt where
  loop : Loop
  candidate : Candidate

namespace Attempt

def channel (a : Attempt) : ResolvedChannel := a.candidate.1

def id (a : Attempt) : String := a.candidate.1.channelId

end Attempt

def attempts (candidates : List Candidate) : List Attempt :=
  (flatFeeFirst candidates).map (⟨.flatFee, ·⟩) ++
    ((meteredNext candidates).map (⟨.metered, ·⟩) ++ candidates.map (⟨.pastCooldown, ·⟩))

/-- What `on_request` does next: read the override of the first attempt, look for its key in the
channel list, read its health, check its quota, or read the key of the selected candidate. -/
inductive Phase where
  | override (rest : List Attempt)
  | list (a : Attempt) (rest : List Attempt)
  | health (a : Attempt) (rest : List Attempt)
  | quota (a : Attempt) (quota : Option Quota) (onExhausted : ExhaustedAction) (rest : List Attempt)
  | key (c : Candidate)

def Phase.checked : Phase → Option ResolvedChannel
  | override _ => none
  | list .. => none
  | health a _ => some a.channel
  | quota a .. => some a.channel
  | key c => some c.1

structure Flight where
  req : ProxyRequest
  ctx : ConnectionContext
  body : Json
  phase : Phase

abbrev Routed := Except ProxyError (ProxyRequest × ConnectionContext)

inductive Progress where
  | running (f : Flight)
  | done (result : Routed)

namespace Flight

def goto (f : Flight) (phase : Phase) : Progress := .running { f with phase }

def reject (f : Flight) : Progress := .done (.error (.channelSelection (clientModel f.body)))

end Flight

section

variable (serde : Serde) (now month : ℕ)

def arrive (r : RouterState) (req : ProxyRequest) (ctx : ConnectionContext) : Progress :=
  match serde.fromSlice req.body with
  | .error e => .done (.error (.badRequest e))
  | .ok body =>
    if (clientModel body).isEmpty then .done (.error (.badRequest "request body missing 'model' field"))
    else
      let candidates := findCandidates r.channels (clientModel body)
      if candidates.isEmpty then .done (.error (.channelSelection (clientModel body)))
      else .running ⟨req, ctx, body, .override (attempts candidates)⟩

def advance (r : RouterState) (f : Flight) : Progress × RouterState :=
  match f.phase with
  | .override [] => (f.reject, r)
  | .override (a :: rest) =>
    match r.channelApiKeys a.id with
    | some key => (f.goto (if key.isEmpty then .override rest else .health a rest), r)
    | none => (f.goto (.list a rest), r)
  | .list a rest =>
    if r.channels.any fun ch => ch.channelId = a.id ∧ ch.apiKey.isEmpty = false then (f.goto (.health a rest), r)
    else (f.goto (.override rest), r)
  | .health a rest =>
    if a.loop.tryable now r a.id then
      match a.loop, a.candidate.2.billing with
      | .flatFee, .flatFee _ quota onExhausted => (f.goto (.quota a quota onExhausted rest), r)
      | .flatFee, .metered _ => (f.goto (.override rest), r)
      | _, _ => (f.goto (.key a.candidate), r)
    else (f.goto (.override rest), r)
  | .quota a quota onExhausted rest =>
    let check := r.quotaCheck month a.candidate.2.mappingId quota
    if check.1 then (f.goto (.key a.candidate), check.2)
    else if onExhausted = .block then (f.reject, check.2)
    else (f.goto (.override rest), check.2)
  | .key c => (.done (routeTo serde c (r.effectiveKey c.1) f.body f.req f.ctx), r)

def AloneStep (p q : Progress × RouterState) : Prop := ∃ f, p.1 = .running f ∧ advance serde now month p.2 f = q

abbrev Alone := Relation.ReflTransGen (AloneStep serde now month)

end

section

variable {serde : Serde} {now month : ℕ} {f : Flight} {r : RouterState} {a : Attempt} {rest : List Attempt}
  {t : Progress × RouterState}

theorem Alone.next {q : Progress × RouterState} (hstep : advance serde now month r f = q)
    (h : Alone serde now month q t) : Alone serde now month (.running f, r) t :=
  Relation.ReflTransGen.head ⟨f, rfl, hstep⟩ h

theorem alone_skip (hk : r.hasApiKey a.id = false) (h : Alone serde now month (f.goto (.override rest), r) t) :
    Alone serde now month (f.goto (.override (a :: rest)), r) t := by
  unfold RouterState.hasApiKey at hk
  cases ho : r.channelApiKeys a.id with
  | some key =>
    have hempty : key.isEmpty = true := by simpa [ho] using hk
    refine Alone.next ?_ h
    simp only [advance, ho, hempty, ↓reduceIte, Flight.goto]
  | none =>
    rw [ho] at hk
    refine Alone.next (q := (f.goto (.list a rest), r)) ?_ (Alone.next ?_ h)
    · simp only [advance, ho, Flight.goto]
    · simp only [advance, hk, Bool.false_eq_true, ↓reduceIte, Flight.goto]

theorem alone_checked (hk : r.hasApiKey a.id = true) (h : Alone serde now month (f.goto (.health a rest), r) t) :
    Alone serde now month (f.goto (.override (a :: rest)), r) t := by
  unfold RouterState.hasApiKey at hk
  cases ho : r.channelApiKeys a.id with
  | some key =>
    have hempty : key.isEmpty = false := by simpa [ho] using hk
    refine Alone.next ?_ h
    simp only [advance, ho, hempty, Bool.false_eq_true, ↓reduceIte, Flight.goto]
  | none =>
    rw [ho] at hk
    refine Alone.next (q := (f.goto (.list a rest), r)) ?_ (Alone.next ?_ h)
    · simp only [advance, ho, Flight.goto]
    · simp only [advance, hk, ↓reduceIte, Flight.goto]

theorem alone_unhealthy (hh : a.loop.tryable now r a.id = false)
    (h : Alone serde now month (f.goto (.override rest), r) t) :
    Alone serde now month (f.goto (.health a rest), r) t := by
  refine Alone.next ?_ h
  simp only [advance, hh, Bool.false_eq_true, ↓reduceIte, Flight.goto]

theorem alone_select (hl : a.loop ≠ .flatFee) (hh : a.loop.tryable now r a.id = true) :
    Alone serde now month (f.goto (.health a rest), r) (f.goto (.key a.candidate), r) := by
  refine Alone.next ?_ .refl
  obtain ⟨loop, c⟩ := a
  cases loop with
  | flatFee => exact absurd rfl hl
  | metered => simp only [advance, hh, ↓reduceIte, Flight.goto]
  | pastCooldown => simp only [advance, hh, ↓reduceIte, Flight.goto]

theorem alone_quota {ch : ResolvedChannel} {m : ResolvedMapping} {hint : Option ℚ} {quota : Option Quota}
    {onExhausted : ExhaustedAction} (hh : r.isHealthy now ch.channelId = true)
    (hb : m.billing = .flatFee hint quota onExhausted)
    (h : Alone serde now month (f.goto (.quota ⟨.flatFee, (ch, m)⟩ quota onExhausted rest), r) t) :
    Alone serde now month (f.goto (.health ⟨.flatFee, (ch, m)⟩ rest), r) t := by
  refine Alone.next ?_ h
  simp only [advance, Loop.tryable, Attempt.id, hh, hb, ↓reduceIte, Flight.goto]

def handOver (f : Flight) (rest : List Attempt) :
    Option (Except ProxyError Candidate) × RouterState → Progress × RouterState
  | (some (.ok c), r) => (f.goto (.key c), r)
  | (some (.error e), r) => (.done (.error e), r)
  | (none, r) => (f.goto (.override rest), r)

theorem alone_flatFee (f : Flight) (r : RouterState) (cs : List Candidate) (rest : List Attempt) :
    Alone serde now month (f.goto (.override (cs.map (⟨.flatFee, ·⟩) ++ rest)), r)
      (handOver f rest (tryFlatFee now month (clientModel f.body) r cs)) := by
  fun_induction tryFlatFee now month (clientModel f.body) r cs with
  | case1 r => exact .refl
  | case2 r ch m tail hk ih =>
    have hk : r.hasApiKey ch.channelId = false := by simpa using hk
    exact alone_skip hk ih
  | case3 r ch m tail hk hh ih =>
    have hk : r.hasApiKey ch.channelId = true := by simpa using hk
    have hh : r.isHealthy now ch.channelId = false := by simpa using hh
    exact alone_checked hk (alone_unhealthy hh ih)
  | case4 r ch m tail hk hh hint quota onExhausted hb check hc =>
    have hk : r.hasApiKey ch.channelId = true := by simpa using hk
    have hh : r.isHealthy now ch.channelId = true := by simpa using hh
    refine alone_checked hk (alone_quota hh hb (Alone.next ?_ .refl))
    simp only [advance, check, Flight.goto, handOver] at hc ⊢
    rw [if_pos hc]
  | case5 r ch m tail hk hh hint quota check hc hb =>
    have hk : r.hasApiKey ch.channelId = true := by simpa using hk
    have hh : r.isHealthy now ch.channelId = true := by simpa using hh
    refine alone_checked hk (alone_quota hh hb (Alone.next ?_ .refl))
    simp only [advance, check, Flight.goto, handOver, Flight.reject] at hc ⊢
    rw [if_neg hc, if_pos trivial]
  | case6 r ch m tail hk hh hint quota onExhausted hb check hc hb' ih =>
    have hk : r.hasApiKey ch.channelId = true := by simpa using hk
    have hh : r.isHealthy now ch.channelId = true := by simpa using hh
    refine alone_checked hk (alone_quota hh hb (Alone.next ?_ ih))
    simp only [advance, check, Flight.goto] at hc ⊢
    rw [if_neg hc, if_neg hb']
    rfl
  | case7 r ch m tail hk hh p hb ih =>
    have hk : r.hasApiKey ch.channelId = true := by simpa using hk
    have hh : r.isHealthy now ch.channelId = true := by simpa using hh
    refine alone_checked hk (Alone.next ?_ ih)
    simp only [advance, Loop.tryable, Attempt.id, hh, hb, ↓reduceIte, Flight.goto]
    rfl

theorem alone_metered (f : Flight) (r : RouterState) (cs : List Candidate) (rest : List Attempt) :
    Alone serde now month (f.goto (.override (cs.map (⟨.metered, ·⟩) ++ rest)), r)
      (f.goto ((tryMetered now r cs).elim (.override rest) .key), r) := by
  fun_induction tryMetered now r cs with
  | case1 => exact .refl
  | case2 ch m tail hk ih =>
    have hk : r.hasApiKey ch.channelId = false := by simpa using hk
    exact alone_skip hk ih
  | case3 ch m tail hk hh =>
    have hk : r.hasApiKey ch.channelId = true := by simpa using hk
    exact alone_checked hk (alone_select (by simp) hh)
  | case4 ch m tail hk hh ih =>
    have hk : r.hasApiKey ch.channelId = true := by simpa using hk
    have hh : r.isHealthy now ch.channelId = false := by simpa using hh
    exact alone_checked hk (alone_unhealthy hh ih)

theorem alone_pastCooldown (f : Flight) (r : RouterState) (cs : List Candidate) :
    Alone serde now month (f.goto (.override (cs.map (⟨.pastCooldown, ·⟩))), r)
      ((tryPastCooldown now r cs).elim f.reject fun c => f.goto (.key c), r) := by
  fun_induction tryPastCooldown now r cs with
  | case1 => exact Alone.next rfl .refl
  | case2 ch m tail hk ih =>
    have hk : r.hasApiKey ch.channelId = false := by simpa using hk
    exact alone_skip hk ih
  | case3 ch m tail hk hh =>
    have hk : r.hasApiKey ch.channelId = true := by simpa using hk
    exact alone_checked hk (alone_select (by simp) hh)
  | case4 ch m tail hk hh ih =>
    have hk : r.hasApiKey ch.channelId = true := by simpa using hk
    have hh : r.isTryablePastCooldown now ch.channelId = false := by simpa using hh
    exact alone_checked hk (alone_unhealthy hh ih)

def selected (f : Flight) : Except ProxyError Candidate × RouterState → Progress × RouterState
  | (.ok c, r) => (f.goto (.key c), r)
  | (.error e, r) => (.done (.error e), r)

theorem alone_selectChannel (f : Flight) (r : RouterState) (candidates : List Candidate) :
    Alone serde now month (f.goto (.override (attempts candidates)), r)
      (selected f (selectChannel now month r candidates (clientModel f.body))) := by
  apply (alone_flatFee f r (flatFeeFirst candidates) _).trans
  unfold selectChannel
  rcases tryFlatFee now month (clientModel f.body) r (flatFeeFirst candidates) with ⟨_ | _ | c, r'⟩
  · apply (alone_metered f r' (meteredNext candidates) _).trans
    dsimp only
    cases tryMetered now r' (meteredNext candidates) with
    | some c => exact .refl
    | none =>
      apply (alone_pastCooldown f r' candidates).trans
      dsimp only
      cases tryPastCooldown now r' candidates with
      | some c => exact .refl
      | none => exact .refl
  · exact .refl
  · exact .refl

theorem alone_onRequest (r : RouterState) (req : ProxyRequest) (ctx : ConnectionContext) :
    Alone serde now month (arrive serde r req ctx, r)
      (.done (onRequest serde now month r req ctx).1, (onRequest serde now month r req ctx).2) := by
  unfold onRequest selectFor arrive
  cases hb : serde.fromSlice req.body with
  | error e => exact .refl
  | ok body =>
    dsimp only
    split_ifs with hm hc
    · exact .refl
    · exact .refl
    · refine (alone_selectChannel ⟨req, ctx, body, .override (attempts (findCandidates r.channels
        (clientModel body)))⟩ r (findCandidates r.channels (clientModel body))).trans ?_
      dsimp only
      rcases selectChannel now month r (findCandidates r.channels (clientModel body)) (clientModel body) with
        ⟨_ | c, r'⟩
      · exact .refl
      · exact Alone.next rfl .refl

end

end AgentProxy.Router
