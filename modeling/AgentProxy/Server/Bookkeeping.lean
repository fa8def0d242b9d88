import AgentProxy.Bridge.Exchange
import AgentProxy.Server.RequestChain

namespace AgentProxy.Server

open Router

def healthOps (ops : List SharedOp) : List (String × HealthTransition) :=
  ops.filterMap fun
    | .router (.health id t) => some (id, t)
    | _ => none

def usageOps (ops : List SharedOp) : List String :=
  ops.filterMap fun
    | .router (.recordUsage id _) => some id
    | _ => none

def requiredTransition : UpstreamOutcome → HealthTransition
  | .answered status _ (.ok _) => classifyStatus status
  | .answered _ _ (.error _) => .unhealthy
  | .failed _ => .unhealthy

def Bookkept (info : SelectedMappingInfo) (outcome : UpstreamOutcome) (ops : List SharedOp) : Prop :=
  healthOps ops = [(info.channelId, requiredTransition outcome)] ∧
    usageOps ops = if info.isFlatFee then [info.mappingId] else []

theorem healthOps_append (xs ys : List SharedOp) : healthOps (xs ++ ys) = healthOps xs ++ healthOps ys :=
  List.filterMap_append

theorem usageOps_append (xs ys : List SharedOp) : usageOps (xs ++ ys) = usageOps xs ++ usageOps ys :=
  List.filterMap_append

theorem healthOps_stats (stats : List ResponseStats) : healthOps (stats.map .responseStats) = [] := by
  simp [healthOps]

theorem usageOps_stats (stats : List ResponseStats) : usageOps (stats.map .responseStats) = [] := by
  simp [usageOps]

theorem onResponse_bookkept (serde : Serde) (res : ProxyResponse) {ctx : ConnectionContext}
    {channel : ChannelConfig} {info : SelectedMappingInfo} (hch : ctx.selectedChannel = some channel)
    (hinfo : ctx.selectedMapping = some info) :
    healthOps ((Router.onResponse serde res ctx).map .router) =
        (if channel.name.isEmpty then [] else [(channel.name, classifyStatus res.status)]) ∧
      usageOps ((Router.onResponse serde res ctx).map .router) =
        if channel.name.isEmpty ∨ info.isFlatFee = false then [] else [info.mappingId] := by
  simp only [Router.onResponse, hch, hinfo, Option.map_some, Option.getD_some]
  cases channel.name.isEmpty <;> cases info.isFlatFee <;> simp [healthOps, usageOps]

section

variable {inst : Installation} {s : ProxyState} {ctx : ConnectionContext} {channel : ChannelConfig}
  {info : SelectedMappingInfo}

variable (inst s) in
theorem responseChain_bookkept (hch : ctx.selectedChannel = some channel)
    (hinfo : ctx.selectedMapping = some info) (res : ProxyResponse) :
    let ops := (runOnResponseChain inst.middlewares s res ctx).1
    (∀ e, (Bridge.onResponse inst.serde inst.core res ctx).2 = .error e → ops = []) ∧
      ∀ res', (Bridge.onResponse inst.serde inst.core res ctx).2 = .ok res' →
        healthOps ops = (if channel.name.isEmpty then [] else [(channel.name, classifyStatus res.status)]) ∧
        usageOps ops = if channel.name.isEmpty ∨ info.isFlatFee = false then [] else [info.mappingId] := by
  have hchain : inst.middlewares.reverse =
      [inst.bridge, inst.modelRouter, modelAlias inst.serde inst.aliasMap, inst.compress] := rfl
  constructor
  · intro e he
    simp [runOnResponseChain, hchain, runResponses, Installation.bridge, he]
  · intro res' hres'
    obtain ⟨hh, hu⟩ := onResponse_bookkept inst.serde res' hch hinfo
    have hstatus : res'.status = res.status := by
      obtain ⟨body, rfl⟩ := Bridge.onResponse_frame hres'
      rfl
    rw [hstatus] at hh
    have hops : ∃ stats : List ResponseStats, (runOnResponseChain inst.middlewares s res ctx).1 =
        (Router.onResponse inst.serde res' ctx).map .router ++ stats.map .responseStats := by
      simp only [runOnResponseChain, hchain, runResponses, Installation.bridge, hres', Installation.modelRouter,
        modelAlias, Installation.compress, List.nil_append]
      cases s.compressEnabled with
      | true => exact ⟨(compressOnResponse inst.serde inst.compressors res').1.toList, by simp⟩
      | false => exact ⟨[], by simp⟩
    obtain ⟨stats, hops⟩ := hops
    rw [hops, healthOps_append, usageOps_append, healthOps_stats, usageOps_stats, List.append_nil,
      List.append_nil]
    exact ⟨hh, hu⟩

/-- The response arrived whole, and its body needs no conversion, is an error body, or is one that
`llm_bridge_core` converts. -/
def Arrives (inst : Installation) (f : Forwarded) : Prop :=
  ∃ status headers body client target, f.outcome = .answered status headers (.ok body) ∧
    f.ctx.detectedFormat = some client ∧ f.ctx.targetProtocol = some target ∧
    (client = target ∨ Bridge.isUpstreamErrorBody inst.serde body = true ∨
      Bridge.Accepts inst.core target client (f.req.isStreaming inst.serde) body)

theorem handleOutcome_answered (req : ProxyRequest) (status : StatusCode) (headers : HeaderMap) (body : Body) :
    (handleOutcome inst.serde inst.middlewares s ctx req (.answered status headers (.ok body))).ops =
      (runOnResponseChain inst.middlewares s ⟨status, headers, body, req.isStreaming inst.serde⟩ ctx).1 := by
  simp only [handleOutcome, handleStreamingResponse, handleNonStreamingResponse, handleResponse]
  cases req.isStreaming inst.serde with
  | true => rcases runOnResponseChain inst.middlewares s ⟨status, headers, body, true⟩ ctx with ⟨ops, _ | _⟩ <;> rfl
  | false => rcases runOnResponseChain inst.middlewares s ⟨status, headers, body, false⟩ ctx with ⟨ops, _ | _⟩ <;> rfl

theorem handleOutcome_transport (req : ProxyRequest) {outcome : UpstreamOutcome}
    (h : ∀ status headers body, outcome ≠ .answered status headers (.ok body)) :
    (handleOutcome inst.serde inst.middlewares s ctx req outcome).ops = [] := by
  cases outcome with
  | failed e => rfl
  | answered status headers body =>
    cases body with
    | ok body => exact absurd rfl (h status headers body)
    | error e =>
      simp only [handleOutcome, handleStreamingResponse, handleNonStreamingResponse, handleResponse]
      split_ifs <;> rfl

theorem not_bookkept_nil (outcome : UpstreamOutcome) : ¬ Bookkept info outcome [] := by
  rintro ⟨h, -⟩
  cases h

theorem bookkept_answered_iff {ops : List SharedOp} {status : StatusCode} {headers : HeaderMap} {body : Body}
    (hh : healthOps ops = if channel.name.isEmpty then [] else [(channel.name, classifyStatus status)])
    (hu : usageOps ops = if channel.name.isEmpty ∨ info.isFlatFee = false then [] else [info.mappingId]) :
    Bookkept info (.answered status headers (.ok body)) ops ↔
      channel.name = info.channelId ∧ info.channelId ≠ "" := by
  rw [Bookkept, hh, hu]
  by_cases hn : channel.name = ""
  · have he : channel.name.isEmpty = true := by simpa using hn
    simp only [he, ↓reduceIte, requiredTransition]
    constructor
    · rintro ⟨h, -⟩
      cases h
    · rintro ⟨h, hne⟩
      exact absurd (h.symm.trans hn) hne
  · have he : channel.name.isEmpty = false := by simpa using hn
    simp only [he, Bool.false_eq_true, ↓reduceIte, false_or, requiredTransition]
    constructor
    · rintro ⟨h, -⟩
      have hname : channel.name = info.channelId := by simpa using h
      exact ⟨hname, hname ▸ hn⟩
    · rintro ⟨h, -⟩
      refine ⟨by rw [h], ?_⟩
      cases info.isFlatFee <;> simp

end

theorem bookkept_iff (inst : Installation) (around : Surroundings) (upstream : Outgoing → UpstreamOutcome)
    (maxBodySize : ℕ) (s : ProxyState) (inc : Incoming) {f : Forwarded}
    (h : (handleProxyRequest inst.serde inst.middlewares around upstream maxBodySize s inc).forwarded =
      some f) :
    ∃ info, f.ctx.selectedMapping = some info ∧
      (Bookkept info f.outcome
          (handleProxyRequest inst.serde inst.middlewares around upstream maxBodySize s inc).phase.ops ↔
        Arrives inst f ∧ f.channel.name = info.channelId ∧ info.channelId ≠ "") := by
  obtain ⟨format, s', -, hchain, hch, -, hphase⟩ := handle_forwarded inst.serde inst.middlewares around upstream h
  obtain ⟨c, client, target, hc, ht, hrev, hinfo, -, -⟩ := requestChain_context (by rw [hchain])
  refine ⟨_, hinfo, ?_⟩
  rw [hphase]
  by_cases hbody : ∃ status headers body, f.outcome = .answered status headers (.ok body)
  · obtain ⟨status, headers, body, ho⟩ := hbody
    have harr : Arrives inst f ↔ ∃ res', (Bridge.onResponse inst.serde inst.core
        ⟨status, headers, body, f.req.isStreaming inst.serde⟩ f.ctx).2 = .ok res' := by
      rw [Bridge.onResponse_ok_iff hc ht hrev]
      simp [Arrives, ho, hc, ht]
    obtain ⟨herror, hok⟩ := responseChain_bookkept inst s' hch hinfo
      ⟨status, headers, body, f.req.isStreaming inst.serde⟩
    rw [ho, handleOutcome_answered, harr]
    cases hbr : (Bridge.onResponse inst.serde inst.core
        ⟨status, headers, body, f.req.isStreaming inst.serde⟩ f.ctx).2 with
    | error e =>
      rw [herror e hbr]
      exact iff_of_false (not_bookkept_nil _) (by simp)
    | ok res' =>
      obtain ⟨hh, hu⟩ := hok res' hbr
      rw [bookkept_answered_iff hh hu]
      simp
  · simp only [not_exists] at hbody
    rw [handleOutcome_transport f.req hbody]
    refine iff_of_false (not_bookkept_nil _) ?_
    rintro ⟨⟨status, headers, body, -, -, ho, -⟩, -⟩
    exact hbody status headers body ho

namespace Sample

def installation : Installation where
  serde := Router.Sample.serde
  compressors := ⟨id, id⟩
  aliasMap _ := none
  core := Bridge.Sample.core
  now := 0
  month := 0

def around : Surroundings := ⟨fun _ => none, none⟩

def incoming : Incoming := ⟨Router.Sample.request, none, 1, 0⟩

def state (id name : String) : ProxyState :=
  ⟨fromStorage Router.Sample.serde (Router.Sample.database id name "sk"), true⟩

def handled (id name : String) (outcome : UpstreamOutcome) : Handled ProxyState SharedOp :=
  handleProxyRequest installation.serde installation.middlewares around (fun _ => outcome) 1024 (state id name)
    incoming

end Sample

theorem bookkept_on_success : ∃ f info,
    (Sample.handled "deepseek" "deepseek" (.answered .ok [] (.ok (.utf8 "")))).forwarded = some f ∧
      f.ctx.selectedMapping = some info ∧ Bookkept info f.outcome
        (Sample.handled "deepseek" "deepseek" (.answered .ok [] (.ok (.utf8 "")))).phase.ops := by
  refine ⟨_, _, rfl, rfl, ?_⟩
  obtain ⟨info, hinfo, hiff⟩ := bookkept_iff Sample.installation Sample.around
    (fun _ => .answered .ok [] (.ok (.utf8 ""))) 1024 (Sample.state "deepseek" "deepseek")
    Sample.incoming rfl
  cases hinfo
  exact hiff.mpr ⟨⟨_, _, _, _, _, rfl, rfl, rfl, Or.inl rfl⟩, rfl, by decide⟩

theorem refused_connection_not_bookkept : ¬ ∀ f info,
    (Sample.handled "deepseek" "deepseek" (.failed (.connect "refused"))).forwarded = some f →
      f.ctx.selectedMapping = some info →
      Bookkept info f.outcome (Sample.handled "deepseek" "deepseek" (.failed (.connect "refused"))).phase.ops := by
  intro h
  obtain ⟨hhealth, -⟩ := h _ _ rfl rfl
  cases hhealth

end AgentProxy.Server
