import AgentProxy.Admin.Handlers
import AgentProxy.Lib.Run

namespace AgentProxy.Admin

open Storage Router Transition

inductive Op where
  | setChannelApiKey (t : Moment) (id key : String)
  | updateChannel (t : Moment) (id : String) (body : ChannelUpdate)
  | deleteChannel (id : String)
  | createModelMapping (body : ModelMapping)
  | updateModelMapping (id : String) (body : UpdateMappingBody)
  | deleteModelMapping (id : String)
  | seedRefresh (t : Moment) (entries : List (List SeedRow))
  | request (now month : ℕ) (req : ProxyRequest) (ctx : ConnectionContext)
  | response (now month : ℕ) (res : ProxyResponse) (ctx : ConnectionContext)

section

variable (serde : Serde) (debugList : List String → String)

def start (db : Database) : AdminState := ⟨db, fromStorage serde db⟩

def apply (s : AdminState) : Op → AdminState
  | .setChannelApiKey t id key => (setChannelApiKey s t id key).2
  | .updateChannel t id body => (updateChannel serde debugList s t id body).2
  | .deleteChannel id => (deleteChannel serde s id).2
  | .createModelMapping body => (createModelMapping serde s body).2
  | .updateModelMapping id body => (updateModelMapping serde s id body).2
  | .deleteModelMapping id => (deleteModelMapping serde s id).2
  | .seedRefresh t entries => seedRefreshHandler s t entries
  | .request now month req ctx => { s with router := (onRequest serde now month s.router req ctx).2 }
  | .response now month res ctx =>
    { s with router := performAll now month s.router (onResponse serde res ctx) }

def step (s : AdminState) (op : Op) : Option AdminState := some (apply serde debugList s op)

def KeysCoherent (s : AdminState) : Prop :=
  ∀ (now month : ℕ) (req req' : ProxyRequest) (ctx ctx' : ConnectionContext) (cfg : ChannelConfig)
    (info : SelectedMappingInfo), (onRequest serde now month s.router req ctx).1 = .ok (req', ctx') →
    ctx'.selectedChannel = some cfg → ctx'.selectedMapping = some info →
    s.storage.apiKey? info.channelId = some cfg.apiKey ∧ cfg.apiKey ≠ ""

def KeyCoherence (ok : AdminState → Op → Prop) (db : Database) : Prop :=
  ∀ (ops : List Op) (s : AdminState), Meets (step serde debugList) ok (start serde db) ops →
    run (step serde debugList) (start serde db) ops = some s → KeysCoherent serde s

end

/-- A key is cleared only when the channel list holds no key for the channel; and the channels that a
seed refresh inserts have no override, or one that is the inserted key. -/
def OpOk (s : AdminState) : Op → Prop
  | .setChannelApiKey _ id key => key = "" → ∀ ch ∈ s.router.channels, ch.channelId = id → ch.apiKey = ""
  | .seedRefresh t entries => ∀ row ∈ (seedRefresh s.storage t.unix entries).channels.rows,
      s.storage.apiKey? row.id = none → ∀ key, s.router.channelApiKeys row.id = some key → key = row.apiKey
  | _ => True

def OverridesStored (s : AdminState) : Prop :=
  ∀ id stored key, s.storage.apiKey? id = some stored → s.router.channelApiKeys id = some key → key = stored

def ListedStored (s : AdminState) : Prop :=
  ∀ ch ∈ s.router.channels, s.storage.apiKey? ch.channelId = some (s.router.effectiveKey ch)

structure KeysAgree (s : AdminState) : Prop where
  overrides : OverridesStored s
  listed : ListedStored s

section

variable {serde : Serde} {debugList : List String → String} {s t : AdminState}

theorem apiKey?_of_mem {db : Database} {row : Channel} (h : row ∈ db.channels.rows) :
    db.apiKey? row.id = some row.apiKey := by
  rw [Database.apiKey?, db.channels.find?_eq_some.mpr ⟨h, rfl⟩, Option.map_some]

theorem listed_of_resolved (h : OverridesStored s) (hc : s.router.channels = resolveChannels serde s.storage) :
    ListedStored s := by
  intro ch hch
  rw [hc] at hch
  obtain ⟨row, hrow, hid, -, hkey⟩ := mem_resolveChannels serde hch
  have hstored := apiKey?_of_mem hrow
  rw [← hid, ← hkey] at hstored
  rw [hstored, RouterState.effectiveKey]
  cases ho : s.router.channelApiKeys ch.channelId with
  | none => rfl
  | some key => rw [h _ _ _ hstored ho, Option.getD_some]

theorem start_agree (db : Database) : KeysAgree (start serde db) := by
  have ho : OverridesStored (start serde db) := by
    intro id stored key hs hk
    obtain ⟨-, ch, hch, rfl, rfl⟩ := initialApiKeys_eq_some hk
    obtain ⟨row, hrow, hid, -, hkey⟩ := mem_resolveChannels serde hch
    have hstored := apiKey?_of_mem hrow
    rw [← hid, ← hkey] at hstored
    exact Option.some.inj (hstored.symm.trans hs)
  exact ⟨ho, listed_of_resolved ho rfl⟩

theorem writeThenReload_agree {result : Except StorageError Database} {onError : StorageError → AppError}
    (h : KeysAgree s)
    (hkeys : ∀ db, result = .ok db → ∀ id key, db.apiKey? id = some key → s.storage.apiKey? id = some key) :
    KeysAgree (s.writeThenReload serde result onError).2 := by
  unfold AdminState.writeThenReload
  cases result with
  | error e => exact h
  | ok db =>
    have ho : OverridesStored (({ s with storage := db } : AdminState).reloadChannels serde) :=
      fun id stored key hs hk => h.overrides id stored key (hkeys db rfl id stored hs) hk
    exact ⟨ho, listed_of_resolved ho rfl⟩

theorem KeysAgree.frame (h : KeysAgree s) (hdb : t.storage.apiKey? = s.storage.apiKey?)
    (hc : t.router.channels = s.router.channels) (hk : t.router.channelApiKeys = s.router.channelApiKeys) :
    KeysAgree t := by
  constructor
  · intro id stored key hs hkey
    rw [hdb] at hs
    rw [hk] at hkey
    exact h.overrides id stored key hs hkey
  · intro ch hch
    rw [hc] at hch
    rw [hdb, RouterState.effectiveKey, hk]
    exact h.listed ch hch

theorem setKey_agree {db : Database} {id key : String} (override : Option String) (h : KeysAgree s)
    (hdb : db.apiKey? = Function.update s.storage.apiKey? id (some key))
    (ho : ∀ k, override = some k → k = key)
    (hl : ∀ ch ∈ s.router.channels, ch.channelId = id → override.getD ch.apiKey = key) :
    KeysAgree (({ s with storage := db } : AdminState).setKey id override) := by
  constructor
  · intro c stored k hs hk
    simp only [AdminState.setKey, hdb] at hs hk
    by_cases hc : c = id
    · subst hc
      rw [Function.update_self] at hs hk
      rw [ho k hk, Option.some.inj hs]
    · rw [Function.update_of_ne hc] at hs hk
      exact h.overrides c stored k hs hk
  · intro ch hch
    simp only [AdminState.setKey, hdb, RouterState.effectiveKey]
    by_cases hc : ch.channelId = id
    · rw [hc, Function.update_self, Function.update_self, hl ch hch hc]
    · rw [Function.update_of_ne hc, Function.update_of_ne hc]
      exact h.listed ch hch

theorem setChannelApiKey_agree {m : Moment} {id key : String} (h : KeysAgree s)
    (hok : OpOk s (.setChannelApiKey m id key)) : KeysAgree (setChannelApiKey s m id key).2 := by
  unfold setChannelApiKey
  cases hdb : Storage.setChannelApiKey s.storage id key m.unix with
  | error e => exact h
  | ok db =>
    have hkeys := setChannelApiKey_apiKey hdb
    by_cases he : key.isEmpty
    · have hempty : key = "" := by simpa using he
      have hset := setKey_agree none h hkeys (by simp) fun ch hch hid => by
        rw [Option.getD_none, hok hempty ch hch hid, hempty]
      simp only [he, ↓reduceIte]
      exact hset.frame (recordChannelFailure_apiKey id m.unix m.cooldown) rfl rfl
    · have hset := setKey_agree (some key) h hkeys (by simp) fun ch _ _ => rfl
      simp only [he, Bool.false_eq_true, ↓reduceIte]
      split
      · exact hset
      · split
        · refine hset.frame ?_ rfl rfl
          cases hm : Storage.markChannelHealthy db id m.unix with
          | error e => simp [AdminState.setHealth, AdminState.setKey, hm, Except.toOption]
          | ok db' =>
            simp only [AdminState.setHealth, AdminState.setKey, hm, Except.toOption, Option.getD_some]
            exact markChannelHealthy_apiKey hm
        · exact hset.frame rfl rfl rfl

theorem seedRefreshHandler_agree {m : Moment} {entries : List (List SeedRow)} (h : KeysAgree s)
    (hok : OpOk s (.seedRefresh m entries)) : KeysAgree (seedRefreshHandler s m entries) := by
  refine ⟨fun id stored key hs hk => ?_, fun ch hch => seedRefresh_apiKey m.unix entries (h.listed ch hch)⟩
  cases hold : s.storage.apiKey? id with
  | some old =>
    have hkept := seedRefresh_apiKey m.unix entries hold
    rw [Option.some.inj (hs.symm.trans hkept)]
    exact h.overrides id old key hold hk
  | none =>
    obtain ⟨row, hfind, rfl⟩ := Option.map_eq_some_iff.mp hs
    obtain ⟨hrow, rfl⟩ := (Table.find?_eq_some _).mp hfind
    exact hok row hrow hold key hk

theorem apply_agree {op : Op} (h : KeysAgree s) (hok : OpOk s op) : KeysAgree (apply serde debugList s op) := by
  cases op with
  | setChannelApiKey m id key => exact setChannelApiKey_agree h hok
  | updateChannel m id body =>
    simp only [apply, updateChannel]
    split
    · exact h
    · apply writeThenReload_agree h
      intro db hdb c key hkey
      rwa [← updateChannel_apiKey hdb]
  | deleteChannel id =>
    apply writeThenReload_agree h
    intro db hdb c key hkey
    rw [deleteChannel_apiKey hdb] at hkey
    by_cases hc : c = id
    · rw [hc, Function.update_self] at hkey
      cases hkey
    · rwa [Function.update_of_ne hc] at hkey
  | createModelMapping body =>
    apply writeThenReload_agree h
    intro db hdb c key hkey
    rwa [← upsertMapping_apiKey hdb]
  | updateModelMapping id body =>
    simp only [apply, updateModelMapping]
    split
    · exact h
    · apply writeThenReload_agree h
      intro db hdb c key hkey
      rwa [← upsertMapping_apiKey hdb]
  | deleteModelMapping id =>
    apply writeThenReload_agree h
    intro db hdb c key hkey
    rwa [← deleteMapping_apiKey hdb]
  | seedRefresh m entries => exact seedRefreshHandler_agree h hok
  | request now month req ctx =>
    obtain ⟨hc, -, hk⟩ := onRequest_sameView serde now month s.router req ctx
    exact h.frame rfl hc hk
  | response now month res ctx =>
    obtain ⟨hc, hk⟩ := performAll_frame now month s.router (onResponse serde res ctx)
    exact h.frame rfl hc hk

theorem KeysAgree.stored_nonempty (h : KeysAgree s) {id key : String} (hkey : s.storage.apiKey? id = some key)
    (hhas : s.router.hasApiKey id = true) : key ≠ "" := by
  unfold RouterState.hasApiKey at hhas
  cases ho : s.router.channelApiKeys id with
  | some k =>
    rw [ho] at hhas
    rw [← h.overrides id key k hkey ho]
    simpa using hhas
  | none =>
    simp only [ho, List.any_eq_true, decide_eq_true_eq] at hhas
    obtain ⟨ch, hch, rfl, hne⟩ := hhas
    have hlisted := h.listed ch hch
    rw [RouterState.effectiveKey, ho, Option.getD_none] at hlisted
    rw [Option.some.inj (hkey.symm.trans hlisted)]
    simpa using hne

theorem KeysAgree.coherent (h : KeysAgree s) : KeysCoherent serde s := by
  intro now month req req' ctx ctx' cfg info hreq hcfg hinfo
  obtain ⟨body, c, hsel, hroute⟩ := onRequest_ok serde now month hreq
  obtain ⟨target, url, rewritePath, -, -, -, rfl⟩ := routeTo_ok serde hroute
  cases hcfg
  cases hinfo
  obtain ⟨hmem, hhas, -⟩ := selectFor_ok serde now month hsel
  exact ⟨h.listed c.1 hmem, h.stored_nonempty (h.listed c.1 hmem) hhas⟩

end

namespace Sample

def database : Database := Router.Sample.database "deepseek" "deepseek" "sk"

def setKey (key : String) : Op := .setChannelApiKey ⟨0, 0, "1970-01-01T00:05:00+00:00", .healthy⟩ "deepseek" key

def after (op : Op) : AdminState := apply Router.Sample.serde (fun _ => "[]") (start Router.Sample.serde database) op

def routed (op : Op) : Except ProxyError (ProxyRequest × ConnectionContext) :=
  (onRequest Router.Sample.serde (secs 900) 0 (after op).router Router.Sample.request Router.Sample.context).1

end Sample

theorem keyCoherence_of_opOk (serde : Serde) (debugList : List String → String) (db : Database) :
    KeyCoherence serde debugList OpOk db := by
  intro ops s hok hrun
  have h : KeysAgree s := by
    refine run_invariant KeysAgree (fun s op t hs hop hstep => ?_) (start_agree db) hok hrun
    cases hstep
    exact apply_agree hs hop
  exact h.coherent

theorem keyCoherent_new_key :
    (Sample.routed (Sample.setKey "sk2")).toOption.isSome ∧
      KeysCoherent Router.Sample.serde (Sample.after (Sample.setKey "sk2")) :=
  ⟨by decide +kernel, keyCoherence_of_opOk Router.Sample.serde (fun _ => "[]") Sample.database
    [Sample.setKey "sk2"] _ ⟨fun h => absurd h (by decide), fun _ _ => trivial⟩ rfl⟩

theorem cleared_key_still_used :
    ¬ KeyCoherence Router.Sample.serde (fun _ => "[]") (fun _ _ => True) Sample.database := by
  intro h
  have hcoherent : KeysCoherent Router.Sample.serde (Sample.after (Sample.setKey "")) :=
    h [Sample.setKey ""] _ ⟨trivial, fun _ _ => trivial⟩ rfl
  have hstored : (Sample.after (Sample.setKey "")).storage.apiKey? "deepseek" = some "" := by decide +kernel
  have hrouted : (Sample.routed (Sample.setKey "")).toOption.map (fun r =>
      (r.2.selectedChannel.map (·.apiKey), r.2.selectedMapping.map (·.channelId))) =
        some (some "sk", some "deepseek") := by decide +kernel
  obtain ⟨⟨req', ctx'⟩, hok, hpair⟩ := Option.map_eq_some_iff.mp hrouted
  obtain ⟨hkey, hid⟩ := Prod.mk.inj hpair
  obtain ⟨cfg, hcfg, hkey⟩ := Option.map_eq_some_iff.mp hkey
  obtain ⟨info, hinfo, hid⟩ := Option.map_eq_some_iff.mp hid
  have hrequest : Sample.routed (Sample.setKey "") = .ok (req', ctx') := by
    cases hr : Sample.routed (Sample.setKey "") with
    | error e => simp [hr, Except.toOption] at hok
    | ok r => simpa [hr, Except.toOption] using hok
  obtain ⟨hsame, -⟩ := hcoherent _ _ _ _ _ _ _ _ hrequest hcfg hinfo
  rw [hid, hstored, hkey] at hsame
  exact absurd hsame (by decide)

end AgentProxy.Admin
