import AgentProxy.Lib.Run
import AgentProxy.Router.Middleware

namespace AgentProxy.Router.Overshoot

open Transition

/-- The router with the requests that were routed and have had no response yet. `routed` and `recorded` count,
for one mapping, the requests routed to it and the calls of `record_usage`. -/
structure State where
  router : RouterState
  outstanding : List ConnectionContext
  routed : ℕ
  recorded : ℕ

inductive Event where
  | request (now : ℕ) (req : ProxyRequest) (ctx : ConnectionContext)
  | response (now : ℕ) (i : ℕ) (res : ProxyResponse)
  | change (channels : List ResolvedChannel) (health : String → Option ChannelState)
      (channelApiKeys : String → Option String)

def start (r : RouterState) : State := ⟨r, [], 0, 0⟩

def routedTo (id : String) (ctx : ConnectionContext) : Bool := ctx.selectedMapping.any fun info => info.mappingId = id

def records (id : String) : RouterOp → Bool
  | .recordUsage id' _ => id' = id
  | .health _ _ => false

section

variable (serde : Serde) (month : ℕ) (id : String)

def step (s : State) : Event → Option State
  | .request now req ctx =>
    match onRequest serde now month s.router req ctx with
    | (.ok (_, ctx'), r) => some
        { s with
          router := r
          outstanding := s.outstanding ++ [ctx']
          routed := s.routed + if routedTo id ctx' then 1 else 0 }
    | (.error _, r) => some { s with router := r }
  | .response now i res =>
    s.outstanding[i]?.map fun ctx =>
      let ops := onResponse serde res ctx
      { s with
        router := performAll now month s.router ops
        outstanding := s.outstanding.eraseIdx i
        recorded := s.recorded + ops.countP (records id) }
  | .change channels health channelApiKeys =>
    some { s with router := { s.router with channels, health, channelApiKeys } }

def waiting (s : State) : ℕ := s.outstanding.countP (routedTo id)

def Priced (n : UInt64) (channels : List ResolvedChannel) : Prop :=
  ∀ ch ∈ channels, ∀ m ∈ ch.mappings, m.mappingId = id →
    ∃ hint, m.billing = .flatFee hint (some (.maxRequests n)) .block

def Fresh (r : RouterState) : Prop :=
  (r.quotaEntry month id).monthKey = month → (r.quotaEntry month id).requestsThisMonth = 0

def Assumed (n : UInt64) (k : ℕ) (s : State) : Event → Prop
  | .request now req ctx => ∀ t, step serde month id s (.request now req ctx) = some t → waiting id t ≤ k
  | .response _ _ _ => True
  | .change channels _ _ => Priced id n channels

def Named (s : State) : Event → Prop
  | .request _ _ _ => ∀ ch ∈ s.router.channels, (∃ m ∈ ch.mappings, m.mappingId = id) → ch.channelName ≠ ""
  | _ => True

def OvershootBounded (n : UInt64) (k : ℕ) (ok : State → Event → Prop) : Prop :=
  ∀ (r : RouterState) (events : List Event) (s : State), Fresh month id r → Priced id n r.channels →
    Meets (step serde month id) (Assumed serde month id n k) (start r) events →
    Meets (step serde month id) ok (start r) events → run (step serde month id) (start r) events = some s →
    s.routed ≤ n.toNat + k - 1 ∧
      (n.toNat ≤ s.recorded → ∀ now req ctx t, step serde month id s (.request now req ctx) = some t →
        t.routed = s.routed)

structure Inv (n : UInt64) (k : ℕ) (s : State) : Prop where
  priced : Priced id n s.router.channels
  answerable : ∀ ctx ∈ s.outstanding, routedTo id ctx = true →
    (∃ info, ctx.selectedMapping = some info ∧ info.isFlatFee = true) ∧
      ∃ cfg, ctx.selectedChannel = some cfg ∧ cfg.name ≠ ""
  balance : s.routed = s.recorded + waiting id s
  counted : (s.router.quotaEntry month id).monthKey = month →
    (s.router.quotaEntry month id).requestsThisMonth.toNat = s.recorded
  unreset : (s.router.quotaEntry month id).monthKey ≠ month → s.recorded = 0
  bound : s.routed ≤ n.toNat + k - 1

end

section

variable {serde : Serde} {now month : ℕ} {id : String} {n : UInt64} {k : ℕ} {r : RouterState}

theorem selectFor_quotaEntry (r : RouterState) (req : ProxyRequest) (id : String) :
    (selectFor serde now month r req).2.quotaEntry month id = r.quotaEntry month id := by
  unfold selectFor
  cases serde.fromSlice req.body with
  | error e => rfl
  | ok body =>
    dsimp only
    split_ifs
    · rfl
    · rfl
    · have h := @selectChannel_quotaEntry now month (clientModel body) r
        (findCandidates r.channels (clientModel body)) id
      split
      all_goals
        rename_i hs
        rwa [hs] at h

theorem onRequest_quotaEntry (r : RouterState) (req : ProxyRequest) (ctx : ConnectionContext) (id : String) :
    (onRequest serde now month r req ctx).2.quotaEntry month id = r.quotaEntry month id := by
  have h := @selectFor_quotaEntry serde now month r req id
  unfold onRequest
  split
  all_goals
    rename_i hs
    rwa [hs] at h

theorem selectFor_within {req : ProxyRequest} {body : Json} {c : Candidate}
    (h : (selectFor serde now month r req).1 = .ok (body, c)) (hpriced : Priced id n r.channels)
    (hid : c.2.mappingId = id) :
    c.1 ∈ r.channels ∧ c.2 ∈ c.1.mappings ∧ (r.quotaEntry month id).requestsThisMonth < n := by
  unfold selectFor at h
  cases hb : serde.fromSlice req.body with
  | error e => simp [hb] at h
  | ok b =>
    simp only [hb] at h
    split_ifs at h
    split at h
    · rename_i d r' hs
      cases h
      have hok : (selectChannel now month r (findCandidates r.channels (clientModel body))
          (clientModel body)).1 = .ok c := by
        rw [hs]
      obtain ⟨hch, hm⟩ := mem_findCandidates (selectChannel_usable hok).1
      obtain ⟨hint, hbilling⟩ := hpriced c.1 hch c.2 hm hid
      have hwithin := selectChannel_within hok hbilling
      rw [hid] at hwithin
      exact ⟨hch, hm, of_decide_eq_true hwithin⟩
    · cases h

theorem onRequest_within {req req' : ProxyRequest} {ctx ctx' : ConnectionContext}
    (h : (onRequest serde now month r req ctx).1 = .ok (req', ctx')) (hpriced : Priced id n r.channels)
    (hto : routedTo id ctx' = true) :
    (r.quotaEntry month id).requestsThisMonth < n ∧ (∃ info, ctx'.selectedMapping = some info ∧ info.isFlatFee = true) ∧
      ∃ ch ∈ r.channels, (∃ m ∈ ch.mappings, m.mappingId = id) ∧
        ∃ cfg, ctx'.selectedChannel = some cfg ∧ cfg.name = ch.channelName := by
  obtain ⟨body, c, hselect, hroute⟩ := onRequest_ok serde now month h
  obtain ⟨target, url, rewritePath, -, -, -, rfl⟩ := routeTo_ok serde hroute
  have hid : c.2.mappingId = id := of_decide_eq_true hto
  obtain ⟨hch, hm, hlt⟩ := selectFor_within hselect hpriced hid
  obtain ⟨hint, hbilling⟩ := hpriced c.1 hch c.2 hm hid
  refine ⟨hlt, ⟨_, rfl, ?_⟩, c.1, hch, ⟨c.2, hm, hid⟩, _, rfl, rfl⟩
  change c.2.billing.isFlatFee = true
  rw [hbilling]
  rfl

theorem perform_quotaEntry (r : RouterState) (op : RouterOp) :
    (perform now month r op).quotaEntry month id =
      match op with
      | .recordUsage id' tokens => if id' = id then (r.quotaEntry month id).recordUsage month tokens
          else r.quotaEntry month id
      | .health _ _ => r.quotaEntry month id := by
  cases op with
  | recordUsage id' tokens =>
    simp only [perform, RouterState.setQuota, RouterState.quotaEntry]
    split_ifs with h
    · subst h
      rw [Function.update_self, Option.getD_some]
    · rw [Function.update_of_ne (Ne.symm h)]
  | health id' t =>
    cases t with
    | unhealthy => rfl
    | clientError => rfl
    | rateLimited => rfl
    | healthy =>
      simp only [perform]
      split
      · rfl
      · rfl

theorem response_recorded (r : RouterState) (res : ProxyResponse) {ctx : ConnectionContext}
    (hto : routedTo id ctx = true) (hinfo : ∃ info, ctx.selectedMapping = some info ∧ info.isFlatFee = true)
    (hcfg : ∃ cfg, ctx.selectedChannel = some cfg ∧ cfg.name ≠ "") :
    (onResponse serde res ctx).countP (records id) = 1 ∧
      ∃ tokens, (performAll now month r (onResponse serde res ctx)).quotaEntry month id =
        (r.quotaEntry month id).recordUsage month tokens := by
  obtain ⟨info, hinfo, hflat⟩ := hinfo
  obtain ⟨cfg, hcfg, hname⟩ := hcfg
  have hid : info.mappingId = id := by
    rw [routedTo, hinfo] at hto
    exact of_decide_eq_true hto
  have hne : cfg.name.isEmpty = false := by simpa using hname
  have hops : onResponse serde res ctx =
      [.recordUsage id (quotaTokens serde res.body), .health cfg.name (classifyStatus res.status)] := by
    simp [onResponse, hcfg, hinfo, hne, hflat, hid]
  rw [hops]
  constructor
  · simp [records]
  · refine ⟨quotaTokens serde res.body, ?_⟩
    rw [performAll, List.foldl_cons, List.foldl_cons, List.foldl_nil, perform_quotaEntry, perform_quotaEntry]
    exact if_pos rfl

theorem onResponse_other {res : ProxyResponse} {ctx : ConnectionContext} (hto : routedTo id ctx = false) :
    ∀ op ∈ onResponse serde res ctx, records id op = false := by
  intro op hop
  unfold onResponse at hop
  dsimp only at hop
  split_ifs at hop
  · cases hop
  · cases hinfo : ctx.selectedMapping with
    | none =>
      rw [hinfo] at hop
      cases List.mem_singleton.mp hop
      rfl
    | some info =>
      have hid : info.mappingId ≠ id := by
        rw [routedTo, hinfo] at hto
        exact of_decide_eq_false hto
      rw [hinfo] at hop
      dsimp only at hop
      split_ifs at hop
      · obtain rfl | hop := List.mem_cons.mp hop
        · exact decide_eq_false hid
        · cases List.mem_singleton.mp hop
          rfl
      · cases List.mem_singleton.mp hop
        rfl

theorem performAll_quotaEntry_of_other {ops : List RouterOp} (r : RouterState)
    (h : ∀ op ∈ ops, records id op = false) :
    (performAll now month r ops).quotaEntry month id = r.quotaEntry month id := by
  induction ops generalizing r with
  | nil => rfl
  | cons op ops ih =>
    obtain ⟨hop, hops⟩ := List.forall_mem_cons.mp h
    apply (ih (perform now month r op) hops).trans
    rw [perform_quotaEntry]
    cases op with
    | recordUsage id' tokens => exact if_neg (of_decide_eq_false hop)
    | health id' t => rfl

theorem response_other (r : RouterState) (res : ProxyResponse) {ctx : ConnectionContext}
    (hto : routedTo id ctx = false) :
    (onResponse serde res ctx).countP (records id) = 0 ∧
      (performAll now month r (onResponse serde res ctx)).quotaEntry month id = r.quotaEntry month id := by
  have hother := @onResponse_other serde id res ctx hto
  constructor
  · rw [List.countP_eq_zero]
    intro op hop
    rw [hother op hop]
    exact Bool.false_ne_true
  · exact performAll_quotaEntry_of_other r hother

variable {s t : State} {e : Event}

theorem countP_eraseIdx {α : Type} {p : α → Bool} {xs : List α} {i : ℕ} {x : α} (h : xs[i]? = some x) :
    xs.countP p = (xs.eraseIdx i).countP p + if p x then 1 else 0 := by
  induction xs generalizing i with
  | nil => cases h
  | cons y xs ih =>
    cases i with
    | zero =>
      cases h
      rw [List.countP_cons, List.eraseIdx_cons_zero]
    | succ i =>
      rw [List.getElem?_cons_succ] at h
      rw [List.eraseIdx_cons_succ, List.countP_cons, List.countP_cons, ih h]
      omega

theorem start_inv (hfresh : Fresh month id r) (hpriced : Priced id n r.channels) :
    Inv month id n k (start r) where
  priced := hpriced
  answerable := fun _ h => nomatch h
  balance := rfl
  counted := fun h => congrArg UInt64.toNat (hfresh h)
  unreset := fun _ => rfl
  bound := Nat.zero_le _

theorem recorded_lt (hs : Inv month id n k s) (h : (s.router.quotaEntry month id).requestsThisMonth < n) :
    s.recorded < n.toNat := by
  have hlt := UInt64.lt_iff_toNat_lt.mp h
  by_cases hmonth : (s.router.quotaEntry month id).monthKey = month
  · rwa [hs.counted hmonth] at hlt
  · rw [hs.unreset hmonth]
    omega

theorem recordUsage_counted {u : QuotaUsage} {tokens : UInt64} {recorded : ℕ}
    (hcounted : u.monthKey = month → u.requestsThisMonth.toNat = recorded)
    (hunreset : u.monthKey ≠ month → recorded = 0) (hfit : recorded + 1 < 2 ^ 64) :
    (u.recordUsage month tokens).monthKey = month ∧
      (u.recordUsage month tokens).requestsThisMonth.toNat = recorded + 1 := by
  unfold QuotaUsage.recordUsage QuotaUsage.maybeReset
  by_cases h : month ≠ u.monthKey
  · rw [if_pos h, hunreset (Ne.symm h)]
    exact ⟨rfl, rfl⟩
  · have hmonth : u.monthKey = month := (not_not.mp h).symm
    rw [if_neg h]
    refine ⟨hmonth, ?_⟩
    change (u.requestsThisMonth + 1).toNat = recorded + 1
    rw [UInt64.toNat_add, hcounted hmonth]
    exact Nat.mod_eq_of_lt hfit

theorem request_inv {now : ℕ} {req : ProxyRequest} {ctx : ConnectionContext} (hs : Inv month id n k s)
    (hassumed : Assumed serde month id n k s (.request now req ctx)) (hnamed : Named id s (.request now req ctx))
    (h : step serde month id s (.request now req ctx) = some t) : Inv month id n k t := by
  have hwaiting := hassumed t h
  have hview := onRequest_sameView serde now month s.router req ctx
  have hentry := @onRequest_quotaEntry serde now month s.router req ctx id
  have hwithin := @onRequest_within serde now month id n s.router req
  simp only [step] at h
  rcases hr : onRequest serde now month s.router req ctx with ⟨e | ⟨req', ctx'⟩, r'⟩
  · rw [hr] at h hview hentry
    cases h
    exact ⟨hview.1 ▸ hs.priced, hs.answerable, hs.balance, hentry ▸ hs.counted, hentry ▸ hs.unreset, hs.bound⟩
  · rw [hr] at h hview hentry
    cases h
    have hsum : waiting id ⟨r', s.outstanding ++ [ctx'], s.routed + if routedTo id ctx' then 1 else 0, s.recorded⟩ =
        waiting id s + if routedTo id ctx' then 1 else 0 := by
      simp only [waiting, List.countP_append, List.countP_singleton]
    rw [hsum] at hwaiting
    have hrouted : routedTo id ctx' = true → (s.router.quotaEntry month id).requestsThisMonth < n ∧
        (∃ info, ctx'.selectedMapping = some info ∧ info.isFlatFee = true) ∧
          ∃ cfg, ctx'.selectedChannel = some cfg ∧ cfg.name ≠ "" := by
      intro hto
      obtain ⟨hlt, hinfo, ch, hch, hm, cfg, hcfg, hname⟩ := hwithin (by rw [hr]) hs.priced hto
      exact ⟨hlt, hinfo, cfg, hcfg, hname ▸ hnamed ch hch hm⟩
    have hbalance := hs.balance
    constructor
    · exact hview.1 ▸ hs.priced
    · intro ctx₀ hmem hto
      obtain hmem | hmem := List.mem_append.mp hmem
      · exact hs.answerable ctx₀ hmem hto
      · cases List.mem_singleton.mp hmem
        exact (hrouted hto).2
    · rw [hsum]
      dsimp only
      omega
    · exact hentry ▸ hs.counted
    · exact hentry ▸ hs.unreset
    · cases hto : routedTo id ctx' with
      | false =>
        simp only [Bool.false_eq_true, if_false, Nat.add_zero]
        exact hs.bound
      | true =>
        have hlt := recorded_lt hs (hrouted hto).1
        rw [hto, if_pos rfl] at hwaiting
        simp only [if_true]
        omega

theorem response_inv {now i : ℕ} {res : ProxyResponse} (hfit : n.toNat + k ≤ 2 ^ 64) (hs : Inv month id n k s)
    (h : step serde month id s (.response now i res) = some t) : Inv month id n k t := by
  obtain ⟨ctx, hctx, rfl⟩ := Option.map_eq_some_iff.mp h
  have hmem : ctx ∈ s.outstanding := List.mem_of_getElem? hctx
  have hcount := @countP_eraseIdx _ (routedTo id) _ _ _ hctx
  have hchannels := (performAll_frame now month s.router (onResponse serde res ctx)).1
  have hanswerable : ∀ ctx' ∈ s.outstanding.eraseIdx i, routedTo id ctx' = true →
      (∃ info, ctx'.selectedMapping = some info ∧ info.isFlatFee = true) ∧
        ∃ cfg, ctx'.selectedChannel = some cfg ∧ cfg.name ≠ "" :=
    fun ctx' hctx' => hs.answerable ctx' ((List.eraseIdx_sublist _ i).subset hctx')
  have hbalance := hs.balance
  have hbound := hs.bound
  simp only [waiting] at hbalance
  cases hto : routedTo id ctx with
  | false =>
    obtain ⟨hnone, hentry⟩ := @response_other serde now month id s.router res ctx hto
    rw [hto] at hcount
    refine ⟨hchannels ▸ hs.priced, hanswerable, ?_, hentry ▸ ?_, hentry ▸ ?_, hbound⟩
    · simp only [waiting, hnone]
      simp only [Bool.false_eq_true, if_false] at hcount
      omega
    · simpa only [hnone, Nat.add_zero] using hs.counted
    · simpa only [hnone, Nat.add_zero] using hs.unreset
  | true =>
    obtain ⟨hinfo, hcfg⟩ := hs.answerable ctx hmem hto
    obtain ⟨hone, tokens, hentry⟩ := @response_recorded serde now month id s.router res ctx hto hinfo hcfg
    rw [hto, if_pos rfl] at hcount
    have hroom : s.recorded + 1 < 2 ^ 64 := by omega
    obtain ⟨hmonth, hrecorded⟩ := @recordUsage_counted month _ tokens _ hs.counted hs.unreset hroom
    refine ⟨hchannels ▸ hs.priced, hanswerable, ?_, fun _ => ?_, fun hne => ?_, hbound⟩
    · simp only [waiting, hone]
      omega
    · rw [hentry, hrecorded]
      dsimp only
      rw [hone]
    · rw [hentry] at hne
      exact absurd hmonth hne

theorem step_inv (hfit : n.toNat + k ≤ 2 ^ 64) (hs : Inv month id n k s)
    (hok : Assumed serde month id n k s e ∧ Named id s e) (h : step serde month id s e = some t) :
    Inv month id n k t := by
  cases e with
  | request now req ctx => exact request_inv hs hok.1 hok.2 h
  | response now i res => exact response_inv hfit hs h
  | change channels health channelApiKeys =>
    cases h
    exact ⟨hok.1, hs.answerable, hs.balance, hs.counted, hs.unreset, hs.bound⟩

theorem exhausted_not_routed {now : ℕ} {req : ProxyRequest} {ctx : ConnectionContext} (hs : Inv month id n k s)
    (hdone : n.toNat ≤ s.recorded) (h : step serde month id s (.request now req ctx) = some t) :
    t.routed = s.routed := by
  have hwithin := @onRequest_within serde now month id n s.router req
  simp only [step] at h
  rcases hr : onRequest serde now month s.router req ctx with ⟨e | ⟨req', ctx'⟩, r'⟩
  · rw [hr] at h
    cases h
    rfl
  · rw [hr] at h
    cases h
    cases hto : routedTo id ctx' with
    | false => simp
    | true =>
      have hlt := recorded_lt hs (hwithin (by rw [hr]) hs.priced hto).1
      omega

end

theorem overshoot_bounded (serde : Serde) (month : ℕ) (id : String) {n : UInt64} {k : ℕ}
    (hfit : n.toNat + k ≤ 2 ^ 64) : OvershootBounded serde month id n k (Named id) := by
  intro r events s hfresh hpriced hassumed hnamed hrun
  have hs : Inv month id n k s := run_invariant (Inv month id n k) (fun _ _ _ => step_inv hfit)
    (start_inv hfresh hpriced) (meets_and.mpr ⟨hassumed, hnamed⟩) hrun
  exact ⟨hs.bound, fun hdone now req ctx t ht => exhausted_not_routed hs hdone ht⟩

namespace Sample

def database (name : String) : Storage.Database :=
  { Storage.Database.empty with
    channels := .single (Router.Sample.channel "deepseek" name "sk")
    mappings := .single (Router.Sample.mapping "m1" "deepseek" "flatfee" Router.Sample.flatFeeText) }

def router (name : String) : RouterState := fromStorage Router.Sample.serde (database name)

def answer : ProxyResponse := ⟨.ok, [], .utf8 "", false⟩

def events : List Event :=
  [.request 0 Router.Sample.request Router.Sample.context, .response 0 0 answer,
    .request 0 Router.Sample.request Router.Sample.context]

end Sample

theorem sample_priced : ∀ name ∈ ["", "DeepSeek"], Priced "m1" 1 (Sample.router name).channels := by
  have hall : ∀ name ∈ ["", "DeepSeek"], ∀ ch ∈ (Sample.router name).channels, ∀ m ∈ ch.mappings,
      m.billing = .flatFee none (some (.maxRequests 1)) .block := by decide +kernel
  exact fun name hname ch hch m hm _ => ⟨none, hall name hname ch hch m hm⟩

theorem sample_assumed : ∀ name ∈ ["", "DeepSeek"], Meets (step Router.Sample.serde 0 "m1")
    (Assumed Router.Sample.serde 0 "m1" 1 1) (start (Sample.router name)) Sample.events := by
  simp only [List.forall_mem_cons, List.not_mem_nil, false_imp_iff, implies_true, and_true]
  constructor
  all_goals
    refine ⟨fun t ht => ?_, fun t ht => ?_⟩
    · cases ht
      decide +kernel
    cases ht
    refine ⟨trivial, fun t ht => ?_⟩
    cases ht
    refine ⟨fun t ht => ?_, fun _ _ => trivial⟩
    cases ht
    decide +kernel

theorem overshoot_bounded_blocked :
    ∃ s, run (step Router.Sample.serde 0 "m1") (start (Sample.router "DeepSeek")) Sample.events = some s ∧
      s.recorded = 1 ∧ s.routed ≤ (1 : UInt64).toNat + 1 - 1 := by
  have hnames : ∀ ch ∈ (Sample.router "DeepSeek").channels, ch.channelName ≠ "" := by decide +kernel
  have hnamed : Meets (step Router.Sample.serde 0 "m1") (Named "m1") (start (Sample.router "DeepSeek"))
      Sample.events := by
    refine ⟨fun ch hch _ => hnames ch hch, fun t ht => ?_⟩
    cases ht
    refine ⟨trivial, fun t ht => ?_⟩
    cases ht
    exact ⟨fun ch hch _ => hnames ch hch, fun _ _ => trivial⟩
  refine ⟨_, rfl, by decide +kernel, ?_⟩
  exact (overshoot_bounded Router.Sample.serde 0 "m1" (by decide) (Sample.router "DeepSeek") Sample.events _
    (fun _ => by decide +kernel) (sample_priced _ (by decide)) (sample_assumed _ (by decide)) hnamed rfl).1

theorem unnamed_channel_overshoots : ¬ OvershootBounded Router.Sample.serde 0 "m1" 1 1 fun _ _ => True := by
  intro h
  have hbound := h (Sample.router "") Sample.events _ (fun _ => by decide +kernel) (sample_priced _ (by decide))
    (sample_assumed _ (by decide)) (meets_of_forall (fun _ _ _ => trivial) _) rfl
  exact absurd hbound.1 (by decide +kernel)

end AgentProxy.Router.Overshoot
