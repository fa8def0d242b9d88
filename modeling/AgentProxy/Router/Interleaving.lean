import AgentProxy.Lib.Run
import AgentProxy.Router.SmallStep

namespace AgentProxy.Router.Interleaving

open Storage Transition

structure State where
  db : Database
  router : RouterState
  flights : ℕ → Option Flight
  accepted : List (ProxyRequest × ConnectionContext)
  keyWrites : ℕ → Option (String × String)
  reloads : ℕ → Option (List ResolvedChannel)

inductive Event where
  | arrive (i : ℕ) (req : ProxyRequest) (ctx : ConnectionContext)
  | advance (i now month : ℕ)
  | storeKey (i : ℕ) (id key : String) (now : ℤ)
  | overrideKey (i : ℕ)
  | readChannels (i : ℕ)
  | swapChannels (i : ℕ)
  | health (id : String) (entry : Option ChannelState)

section

variable (serde : Serde)

def start (db : Database) : State := ⟨db, fromStorage serde db, fun _ => none, [], fun _ => none, fun _ => none⟩

def progress (s : State) (i : ℕ) : Progress × RouterState → State
  | (.running f, r) => { s with router := r, flights := Function.update s.flights i (some f) }
  | (.done (.ok p), r) =>
    { s with router := r, flights := Function.update s.flights i none, accepted := s.accepted ++ [p] }
  | (.done (.error _), r) => { s with router := r, flights := Function.update s.flights i none }

def overrideFor (key : String) : Option String := if key.isEmpty then none else some key

def step (s : State) : Event → Option State
  | .arrive i req ctx =>
    match s.flights i with
    | none => some (progress s i (arrive serde s.router req ctx, s.router))
    | some _ => none
  | .advance i now month => (s.flights i).map fun f => progress s i (advance serde now month s.router f)
  | .storeKey i id key now =>
    match s.keyWrites i, setChannelApiKey s.db id key now with
    | none, .ok db => some { s with db, keyWrites := Function.update s.keyWrites i (some (id, key)) }
    | _, _ => none
  | .overrideKey i => (s.keyWrites i).map fun (id, key) =>
    { s with
      router := { s.router with channelApiKeys := Function.update s.router.channelApiKeys id (overrideFor key) }
      keyWrites := Function.update s.keyWrites i none }
  | .readChannels i =>
    match s.reloads i with
    | none => some { s with reloads := Function.update s.reloads i (some (resolveChannels serde s.db)) }
    | some _ => none
  | .swapChannels i => (s.reloads i).map fun channels =>
    { s with router := { s.router with channels }, reloads := Function.update s.reloads i none }
  | .health id entry =>
    some { s with router := { s.router with health := Function.update s.router.health id entry } }

def AlwaysKeyed (ok : State → Event → Prop) (db : Database) : Prop :=
  ∀ (events : List Event) (s : State), Meets (step serde) ok (start serde db) events →
    run (step serde) (start serde db) events = some s →
    ∀ p ∈ s.accepted, ∃ cfg, p.2.selectedChannel = some cfg ∧ cfg.apiKey ≠ ""

end

/-- For a request whose own snapshot has no key for a channel: the override of the channel is not removed
between the check and the use, and the check does not pass through the list of the moment. -/
def EventOk (s : State) : Event → Prop
  | .overrideKey i => ∀ id, s.keyWrites i = some (id, "") → ∀ j f ch, s.flights j = some f →
      f.phase.checked = some ch → ch.channelId = id → ch.apiKey ≠ ""
  | .advance i _ _ => ∀ f a rest, s.flights i = some f → f.phase = .list a rest → a.channel.apiKey = "" →
      ∀ ch ∈ s.router.channels, ch.channelId = a.id → ch.apiKey = ""
  | _ => True

structure Inv (s : State) : Prop where
  overrides : ∀ id key, s.router.channelApiKeys id = some key → key ≠ ""
  checked : ∀ i f ch, s.flights i = some f → f.phase.checked = some ch →
    s.router.channelApiKeys ch.channelId = none → ch.apiKey ≠ ""
  accepted : ∀ p ∈ s.accepted, ∃ cfg, p.2.selectedChannel = some cfg ∧ cfg.apiKey ≠ ""

section

variable {serde : Serde} {now month : ℕ} {r r' : RouterState} {f g : Flight} {ch : ResolvedChannel} {s t : State}

theorem goto_running {p : Phase} (h : (f.goto p, r) = (.running g, r')) : g.phase = p := by
  cases h
  rfl

theorem advance_checked (h : advance serde now month r f = (.running g, r')) (hc : g.phase.checked = some ch) :
    f.phase.checked = some ch ∨ r.channelApiKeys ch.channelId ≠ none ∨
      ∃ a rest, f.phase = .list a rest ∧ a.channel = ch ∧
        ∃ ch' ∈ r.channels, ch'.channelId = a.id ∧ ch'.apiKey ≠ "" := by
  unfold advance at h
  split at h
  · cases h
  · rename_i a rest hphase
    split at h
    · rename_i key ho
      rw [goto_running h] at hc
      split_ifs at hc
      · cases hc
      · cases hc
        refine .inr (.inl ?_)
        rw [show r.channelApiKeys a.channel.channelId = some key from ho]
        simp
    · rw [goto_running h] at hc
      cases hc
  · rename_i a rest hphase
    split_ifs at h with hlist
    · rw [goto_running h] at hc
      cases hc
      simp only [List.any_eq_true, decide_eq_true_eq] at hlist
      obtain ⟨ch', hmem, hid, hne⟩ := hlist
      exact .inr (.inr ⟨a, rest, hphase, rfl, ch', hmem, hid, by simpa using hne⟩)
    · rw [goto_running h] at hc
      cases hc
  · rename_i a rest hphase
    left
    rw [hphase]
    split_ifs at h
    · split at h <;> rw [goto_running h] at hc
      · exact hc
      · cases hc
      · exact hc
    · rw [goto_running h] at hc
      cases hc
  · rename_i a quota onExhausted rest hphase
    left
    rw [hphase]
    dsimp only at h
    split_ifs at h
    · rw [goto_running h] at hc
      exact hc
    · cases h
    · rw [goto_running h] at hc
      cases hc
  · cases h

theorem advance_done {p : ProxyRequest × ConnectionContext} (h : advance serde now month r f = (.done (.ok p), r')) :
    ∃ c, f.phase = .key c ∧ routeTo serde c (r.effectiveKey c.1) f.body f.req f.ctx = .ok p := by
  unfold advance at h
  split at h
  · cases h
  · split at h <;> cases h
  · split_ifs at h <;> cases h
  · split_ifs at h
    · split at h <;> cases h
    · cases h
  · dsimp only at h
    split_ifs at h <;> cases h
  · rename_i c hphase
    exact ⟨c, hphase, Progress.done.inj (Prod.mk.inj h).1⟩

theorem advance_sameView (r : RouterState) (f : Flight) : SameView r (advance serde now month r f).2 := by
  unfold advance
  split
  · exact SameView.refl r
  · split <;> exact SameView.refl r
  · split_ifs <;> exact SameView.refl r
  · split_ifs
    · split <;> exact SameView.refl r
    · exact SameView.refl r
  · rename_i a quota onExhausted rest hphase
    dsimp only
    split_ifs <;> exact quotaCheck_sameView r month a.candidate.2.mappingId quota
  · exact SameView.refl r

theorem start_inv (db : Database) : Inv (start serde db) where
  overrides := fun _ _ h => (initialApiKeys_eq_some h).1
  checked := by
    intro i f ch h
    cases h
  accepted := by
    intro p h
    cases h

theorem progress_inv {i : ℕ} {q : Progress × RouterState} (hs : Inv s)
    (hview : q.2.channelApiKeys = s.router.channelApiKeys)
    (hrun : ∀ g, q.1 = .running g → ∀ ch, g.phase.checked = some ch →
      s.router.channelApiKeys ch.channelId = none → ch.apiKey ≠ "")
    (hdone : ∀ p, q.1 = .done (.ok p) → ∃ cfg, p.2.selectedChannel = some cfg ∧ cfg.apiKey ≠ "") :
    Inv (progress s i q) := by
  have hkeys : ∀ id key, q.2.channelApiKeys id = some key → key ≠ "" := by
    rw [hview]
    exact hs.overrides
  have hother : ∀ task j f ch, (∀ g, task = some g → q.1 = .running g) →
      Function.update s.flights i task j = some f → f.phase.checked = some ch →
      q.2.channelApiKeys ch.channelId = none → ch.apiKey ≠ "" := by
    intro task j f ch htask hf hch ho
    rw [hview] at ho
    by_cases hj : j = i
    · subst hj
      rw [Function.update_self] at hf
      exact hrun f (htask f hf) ch hch ho
    · rw [Function.update_of_ne hj] at hf
      exact hs.checked j f ch hf hch ho
  obtain ⟨p, r⟩ := q
  cases p with
  | running g =>
    have hflights := fun j f ch => hother (some g) j f ch fun g' h => congrArg Progress.running (Option.some.inj h)
    exact ⟨hkeys, hflights, hs.accepted⟩
  | done result =>
    have hflights := fun j f ch => hother none j f ch fun g' h => nomatch h
    cases result with
    | error e => exact ⟨hkeys, hflights, hs.accepted⟩
    | ok p =>
      refine ⟨hkeys, hflights, fun p' hp => ?_⟩
      rcases List.mem_append.mp hp with hp | hp
      · exact hs.accepted p' hp
      · rw [List.mem_singleton.mp hp]
        exact hdone p rfl

theorem arrive_checked {req : ProxyRequest} {ctx : ConnectionContext} (h : arrive serde r req ctx = .running g) :
    g.phase.checked = none := by
  unfold arrive at h
  split at h
  · cases h
  · dsimp only at h
    split_ifs at h
    cases h
    rfl

theorem arrive_not_ok {req : ProxyRequest} {ctx : ConnectionContext} {p : ProxyRequest × ConnectionContext} :
    arrive serde r req ctx ≠ .done (.ok p) := by
  intro h
  unfold arrive at h
  split at h
  · cases h
  · dsimp only at h
    split_ifs at h <;> cases h

theorem key_nonempty {i : ℕ} {c : Candidate} (hs : Inv s) (hf : s.flights i = some f) (hphase : f.phase = .key c) :
    s.router.effectiveKey c.1 ≠ "" := by
  unfold RouterState.effectiveKey
  cases ho : s.router.channelApiKeys c.1.channelId with
  | some key => exact hs.overrides _ key ho
  | none => exact hs.checked i f c.1 hf (by rw [hphase]; rfl) ho

theorem advance_inv {i : ℕ} (hs : Inv s) (hok : EventOk s (.advance i now month)) (hf : s.flights i = some f) :
    Inv (progress s i (advance serde now month s.router f)) := by
  refine progress_inv hs (advance_sameView s.router f).2.2 (fun g hg ch hch ho => ?_) fun p hp => ?_
  · rcases advance_checked (Prod.ext hg rfl) hch with h | h | ⟨a, rest, hphase, rfl, ch', hmem, hid, hne⟩
    · exact hs.checked i f ch hf h ho
    · exact absurd ho h
    · exact fun hempty => hne (hok f a rest hf hphase hempty ch' hmem hid)
  · obtain ⟨c, hphase, hroute⟩ := advance_done (Prod.ext hp rfl)
    obtain ⟨req', ctx'⟩ := p
    obtain ⟨target, url, rewritePath, -, -, -, rfl⟩ := routeTo_ok serde hroute
    exact ⟨_, rfl, key_nonempty hs hf hphase⟩

theorem overrideKey_inv {i : ℕ} {id key : String} {writes : ℕ → Option (String × String)} (hs : Inv s)
    (hok : EventOk s (.overrideKey i)) (hw : s.keyWrites i = some (id, key)) :
    Inv { s with
      router := { s.router with channelApiKeys := Function.update s.router.channelApiKeys id (overrideFor key) }
      keyWrites := writes } := by
  refine ⟨fun c k hk => ?_, fun j f ch hf hch ho => ?_, hs.accepted⟩
  · dsimp only at hk
    by_cases hc : c = id
    · rw [hc, Function.update_self, overrideFor] at hk
      split_ifs at hk with he
      cases hk
      simpa using he
    · rw [Function.update_of_ne hc] at hk
      exact hs.overrides c k hk
  · dsimp only at ho
    by_cases hc : ch.channelId = id
    · rw [hc, Function.update_self, overrideFor] at ho
      split_ifs at ho with he
      have hempty : key = "" := by simpa using he
      rw [hempty] at hw
      exact hok id hw j f ch hf hch hc
    · rw [Function.update_of_ne hc] at ho
      exact hs.checked j f ch hf hch ho

theorem step_inv {e : Event} (hs : Inv s) (hok : EventOk s e) (h : step serde s e = some t) : Inv t := by
  cases e with
  | arrive i req ctx =>
    simp only [step] at h
    split at h
    · cases h
      refine progress_inv hs rfl (fun g hg ch hch => ?_) fun p hp => absurd hp arrive_not_ok
      rw [arrive_checked hg] at hch
      cases hch
    · cases h
  | advance i now month =>
    obtain ⟨f, hf, rfl⟩ := Option.map_eq_some_iff.mp h
    exact advance_inv hs hok hf
  | storeKey i id key now =>
    simp only [step] at h
    split at h
    · cases h
      exact ⟨hs.overrides, hs.checked, hs.accepted⟩
    · cases h
  | overrideKey i =>
    obtain ⟨⟨id, key⟩, hw, rfl⟩ := Option.map_eq_some_iff.mp h
    exact overrideKey_inv hs hok hw
  | readChannels i =>
    simp only [step] at h
    split at h
    · cases h
      exact ⟨hs.overrides, hs.checked, hs.accepted⟩
    · cases h
  | swapChannels i =>
    obtain ⟨channels, -, rfl⟩ := Option.map_eq_some_iff.mp h
    exact ⟨hs.overrides, hs.checked, hs.accepted⟩
  | health id entry =>
    cases h
    exact ⟨hs.overrides, hs.checked, hs.accepted⟩

end

namespace Sample

def database : Database := Router.Sample.database "deepseek" "deepseek" ""

def keyed : List Event :=
  [.storeKey 0 "deepseek" "sk" 0, .overrideKey 0, .arrive 0 Router.Sample.request Router.Sample.context,
    .advance 0 0 0, .advance 0 0 0]

def readKey : Event := .advance 0 0 0

def rotated : List Event := [.storeKey 0 "deepseek" "sk2" 0, .overrideKey 0]

def cleared : List Event := [.storeKey 0 "deepseek" "" 0, .overrideKey 0]

def acceptedKeys (s : State) : List (Option String) :=
  s.accepted.map fun p => p.2.selectedChannel.map (·.apiKey)

end Sample

theorem alwaysKeyed_of_eventOk (serde : Serde) (db : Database) : AlwaysKeyed serde EventOk db := by
  intro events s hok hrun
  have hs : Inv s := run_invariant Inv (fun _ _ _ => step_inv) (start_inv db) hok hrun
  exact hs.accepted

theorem alwaysKeyed_while_rotated :
    ∃ s, run (step Router.Sample.serde) (start Router.Sample.serde Sample.database)
        (Sample.keyed ++ Sample.rotated ++ [Sample.readKey]) = some s ∧ Sample.acceptedKeys s = [some "sk2"] ∧
      ∀ p ∈ s.accepted, ∃ cfg, p.2.selectedChannel = some cfg ∧ cfg.apiKey ≠ "" := by
  have hmeets : Meets (step Router.Sample.serde) EventOk (start Router.Sample.serde Sample.database)
      (Sample.keyed ++ Sample.rotated ++ [Sample.readKey]) := by
    refine ⟨trivial, fun t ht => ?_⟩
    cases ht
    refine ⟨fun id hid => ?_, fun t ht => ?_⟩
    · have hkey : "sk" = "" := congrArg Prod.snd (Option.some.inj hid)
      exact absurd hkey (by decide)
    cases ht
    refine ⟨trivial, fun t ht => ?_⟩
    cases ht
    -- the request finds an override at once, so it never looks at the list
    refine ⟨fun f a rest hf hphase => ?_, fun t ht => ?_⟩
    · cases hf
      cases hphase
    cases ht
    refine ⟨fun f a rest hf hphase => ?_, fun t ht => ?_⟩
    · cases hf
      cases hphase
    cases ht
    refine ⟨trivial, fun t ht => ?_⟩
    cases ht
    refine ⟨fun id hid => ?_, fun t ht => ?_⟩
    · have hkey : "sk2" = "" := congrArg Prod.snd (Option.some.inj hid)
      exact absurd hkey (by decide)
    cases ht
    refine ⟨fun f a rest hf hphase => ?_, fun _ _ => trivial⟩
    cases hf
    cases hphase
  have hkeys : (run (step Router.Sample.serde) (start Router.Sample.serde Sample.database)
      (Sample.keyed ++ Sample.rotated ++ [Sample.readKey])).map Sample.acceptedKeys = some [some "sk2"] := by
    decide +kernel
  obtain ⟨s, hrun, hkeys⟩ := Option.map_eq_some_iff.mp hkeys
  exact ⟨s, hrun, hkeys, alwaysKeyed_of_eventOk Router.Sample.serde Sample.database _ s hmeets hrun⟩

theorem cleared_between_check_and_use : ¬ AlwaysKeyed Router.Sample.serde (fun _ _ => True) Sample.database := by
  intro h
  have hmeets : Meets (step Router.Sample.serde) (fun _ _ => True) (start Router.Sample.serde Sample.database)
      (Sample.keyed ++ Sample.cleared ++ [Sample.readKey]) := by
    simp [Sample.keyed, Sample.cleared, Meets]
  have hkeys : (run (step Router.Sample.serde) (start Router.Sample.serde Sample.database)
      (Sample.keyed ++ Sample.cleared ++ [Sample.readKey])).map Sample.acceptedKeys = some [some ""] := by
    decide +kernel
  obtain ⟨s, hrun, hkeys⟩ := Option.map_eq_some_iff.mp hkeys
  obtain ⟨p, hp, hempty⟩ := List.mem_map.mp (hkeys ▸ List.mem_singleton_self (some ""))
  obtain ⟨cfg, hcfg, hne⟩ := h _ s hmeets hrun p hp
  rw [hcfg] at hempty
  exact hne (Option.some.inj hempty)

end AgentProxy.Router.Interleaving
