import AgentProxy.Admin.Handlers
import AgentProxy.Lib.Run
import AgentProxy.Router.Protocol
import AgentProxy.Storage.SeedSwitches

namespace AgentProxy.Storage.SeedOps

def writtenProtocols (id : String) : SeedRow → Option String
  | .channel ch => if ch.id = id then some ch.protocols else none
  | _ => none

def lastProtocols (id : String) (rows : List SeedRow) : Option String :=
  (rows.filterMap (writtenProtocols id)).getLast?

section

variable {db db' : Database} {now : ℤ} {id : String} {row : SeedRow} {rows : List SeedRow}

theorem seedRow_channels (h : seedRow db now row = .ok db') :
    (db'.channels.find? id).bind Channel.forceProtocol = (db.channels.find? id).bind Channel.forceProtocol ∧
      (db'.channels.find? id).map Channel.protocols =
        (writtenProtocols id row).or ((db.channels.find? id).map Channel.protocols) := by
  obtain ⟨⟨p, rfl⟩ | ⟨m, rfl⟩, hchannels, -⟩ | ⟨ch, rfl, rfl⟩ | ⟨m, rfl, rfl⟩ := seedRow_cases h
  · rw [hchannels]
    exact ⟨rfl, rfl⟩
  · rw [hchannels]
    exact ⟨rfl, rfl⟩
  · have hfind : (db.channels.upsert (ch.row now) (ch.onConflict now) fun _ => rfl).find? id =
        if id = ch.id then some ((db.channels.find? id).elim (ch.row now) (ch.onConflict now))
        else db.channels.find? id := Table.find?_upsert db.channels _ _ _ id
    refine ⟨(congrArg (Option.bind · Channel.forceProtocol) hfind).trans ?_,
      (congrArg (Option.map Channel.protocols) hfind).trans ?_⟩
    · split_ifs
      · cases db.channels.find? id with
        | none => rfl
        | some old => rfl
      · rfl
    · rw [writtenProtocols]
      by_cases hid : id = ch.id
      · rw [if_pos hid, if_pos hid.symm]
        cases db.channels.find? id with
        | none => rfl
        | some old => rfl
      · rw [if_neg hid, if_neg (Ne.symm hid)]
        rfl
  · exact ⟨rfl, rfl⟩

theorem Executes.channels (h : Executes db rows db') (id : String) :
    (db'.channels.find? id).bind Channel.forceProtocol = (db.channels.find? id).bind Channel.forceProtocol ∧
      (db'.channels.find? id).map Channel.protocols =
        (lastProtocols id rows).or ((db.channels.find? id).map Channel.protocols) := by
  induction h with
  | nil db => exact ⟨rfl, rfl⟩
  | cons hrow _ ih =>
    obtain ⟨hforced, hprotocols⟩ := @seedRow_channels _ _ _ id _ hrow
    refine ⟨ih.1.trans hforced, ih.2.trans ?_⟩
    rw [hprotocols, ← Option.or_assoc]
    exact congrArg (Option.or · _) (last_cons (writtenProtocols id) _ _).symm

end

end AgentProxy.Storage.SeedOps

namespace AgentProxy.Admin.ForceProtocol

open Storage Router Transition

structure State where
  admin : AdminState
  metadata : String → Option String

def State.seedStore (s : State) : SeedOps.SeedStore := ⟨s.admin.storage, s.metadata⟩

inductive Op where
  | updateChannel (t : Moment) (id : String) (body : ChannelUpdate)
  | seedRefresh (o : SeedOps.Outside) (base : String) (fetched : Except StorageError SeedOps.SeedManifest)

section

variable (serde : Serde) (debugList : List String → String)

def start (db : Database) (metadata : String → Option String) : State := ⟨⟨db, fromStorage serde db⟩, metadata⟩

/-- The handler of the seed refresh does not reload the channels. -/
def apply (s : State) : Op → State
  | .updateChannel t id body => { s with admin := (updateChannel serde debugList s.admin t id body).2 }
  | .seedRefresh o base fetched =>
    let seeded := (SeedOps.seedRefresh o base s.seedStore fetched).1
    ⟨{ s.admin with storage := seeded.db }, seeded.metadata⟩

def step (s : State) (op : Op) : Option State := some (apply serde debugList s op)

/-- `fp` is the protocol of an entry of the JSON text. -/
def Lists (json fp : String) : Prop := ∃ entries, serde.protocolEntries json = .ok entries ∧ offers entries fp = true

def ForceValid (db : Database) : Prop :=
  ∀ id ch, db.channels.find? id = some ch → ∀ fp, ch.forceProtocol = some fp → Lists serde ch.protocols fp

def ForceRoutes (router : RouterState) : Prop :=
  ∀ ch ∈ router.channels, ∀ detected fp, ch.forceProtocol = some fp →
    resolveTargetProtocol ch.forceProtocol detected ch.protocols ≠
      .error (.internal ("force_protocol '" ++ fp ++ "' not found in channel protocols"))

def UpdateListsForced (db : Database) (id : String) (body : ChannelUpdate) : Prop :=
  ∀ protocols ch fp, body.protocols = some protocols → body.forceProtocol = none →
    db.channels.find? id = some ch → ch.forceProtocol = some fp → Lists serde protocols fp

def RefreshListsForced (s : SeedOps.SeedStore) (o : SeedOps.Outside) (base : String)
    (fetched : Except StorageError SeedOps.SeedManifest) : Prop :=
  ∀ id protocols ch fp, SeedOps.lastProtocols id (SeedOps.executedRefresh o base s fetched) = some protocols →
    s.db.channels.find? id = some ch → ch.forceProtocol = some fp → Lists serde protocols fp

/-- An update that gives new protocols but no `force_protocol`, and the last row that a refresh executes for a
channel, list the protocol that the channel is forced to. -/
def OpOk (s : State) : Op → Prop
  | .updateChannel _ id body => UpdateListsForced serde s.admin.storage id body
  | .seedRefresh o base fetched => RefreshListsForced serde s.seedStore o base fetched

def ForceListed (channels : List ResolvedChannel) : Prop :=
  ∀ ch ∈ channels, ∀ fp, ch.forceProtocol = some fp → offers ch.protocols fp = true

end

section

variable {serde : Serde} {debugList : List String → String}

theorem resolveTargetProtocol_listed {fp : String} {protocols : List ProtocolEntry} (h : offers protocols fp = true)
    (detected : Option ApiFormat) : resolveTargetProtocol (some fp) detected protocols = parseProtocol fp := by
  simp only [resolveTargetProtocol]
  cases hparse : parseProtocol fp with
  | error e => rfl
  | ok target =>
    have hoffers : offers protocols (protocolToStr target) = true := by
      rw [protocolToStr_parseProtocol hparse]
      exact h
    exact if_pos hoffers

theorem parseProtocol_ne_missing (fp : String) :
    parseProtocol fp ≠ .error (.internal ("force_protocol '" ++ fp ++ "' not found in channel protocols")) := by
  intro h
  unfold parseProtocol at h
  split_ifs at h
  have hmessage := ProxyError.internal.inj (Except.error.inj h)
  have hhead := congrArg (fun s => s.toList.head?) hmessage
  simp at hhead

theorem ForceListed.routes {router : RouterState} (h : ForceListed router.channels) : ForceRoutes router := by
  intro ch hch detected fp hforce
  rw [hforce, resolveTargetProtocol_listed (h ch hch fp hforce)]
  exact parseProtocol_ne_missing fp

theorem offers_normalized (entries : List ProtocolEntry) (fp : String) :
    offers (entries.map normalizeEntry) fp = offers entries fp := by
  simp only [offers, List.any_map]
  rfl

theorem ForceValid.listed {db : Database} (h : ForceValid serde db) : ForceListed (resolveChannels serde db) := by
  intro rc hrc fp hforce
  obtain ⟨ch, hch, hresolve⟩ := List.mem_filterMap.mp hrc
  obtain ⟨row, hrow, rfl⟩ := mem_listChannels.mp hch
  have hsame : (rowToChannel row).forceProtocol = row.forceProtocol ∧
      (rowToChannel row).protocols = row.protocols := by
    obtain ⟨status, hstatus⟩ := rowToChannel_eq row
    rw [hstatus]
    exact ⟨rfl, rfl⟩
  unfold resolveChannel at hresolve
  split_ifs at hresolve
  cases hresolve
  obtain ⟨entries, hentries, hoffers⟩ := h row.id row ((Table.find?_eq_some _).mpr ⟨hrow, rfl⟩) fp
    (hsame.1.symm.trans hforce)
  rw [offers_normalized, parseProtocols, hsame.2, hentries]
  exact hoffers

theorem validateForceProtocol_ok {s : AdminState} {id : String} {body : ChannelUpdate} {ch : Channel} {fp : String}
    (h : validateForceProtocol serde debugList s id body = .ok ()) (hch : s.storage.channels.find? id = some ch)
    (hforce : body.forceProtocol = some fp) : Lists serde (body.protocols.getD ch.protocols) fp := by
  have hcurrent : (getChannel s.storage id).map Channel.protocols = some ch.protocols := by
    rw [getChannel, hch, Option.map_some, Option.map_some, rowToChannel]
    split_ifs
    · rfl
    · rfl
  have hjson : body.protocols.or ((getChannel s.storage id).map Channel.protocols) =
      some (body.protocols.getD ch.protocols) := by
    rw [hcurrent]
    cases body.protocols with
    | none => rfl
    | some protocols => rfl
  simp only [validateForceProtocol, hforce, hjson] at h
  split at h
  · cases h
  · rename_i entries hentries
    split_ifs at h with hany
    exact ⟨entries, hentries, hany⟩

theorem updateChannel_cases (s : AdminState) (t : Moment) (id : String) (body : ChannelUpdate) :
    ((updateChannel serde debugList s t id body).2 = s ∧
      (s.storage.channels.find? id = none ∨ body.forceProtocol ≠ none)) ∨
    ∃ ch, s.storage.channels.find? id = some ch ∧ validateForceProtocol serde debugList s id body = .ok () ∧
      (updateChannel serde debugList s t id body).2 =
        { s with storage := s.storage.modifyChannel id (body.apply t.unix) fun _ => rfl }.reloadChannels serde := by
  unfold updateChannel Storage.updateChannel
  cases hvalid : validateForceProtocol serde debugList s id body with
  | error e =>
    refine .inl ⟨rfl, .inr fun hnone => ?_⟩
    simp only [validateForceProtocol, hnone] at hvalid
    cases hvalid
  | ok _ =>
    cases hch : s.storage.channels.find? id with
    | none => exact .inl ⟨rfl, .inl rfl⟩
    | some ch => exact .inr ⟨ch, rfl, rfl, rfl⟩

theorem modifyChannel_valid_iff {db : Database} (hdb : ForceValid serde db) {id : String} {ch : Channel}
    (hch : db.channels.find? id = some ch) {f : Channel → Channel} {hf : ∀ row, (f row).id = row.id} :
    ForceValid serde (db.modifyChannel id f hf) ↔
      ∀ fp, (f ch).forceProtocol = some fp → Lists serde (f ch).protocols fp := by
  have hfind : ∀ k, (db.modifyChannel id f hf).channels.find? k =
      (db.channels.find? k).map fun row => if k = id then f row else row :=
    fun k => Table.find?_modify db.channels id k f hf
  constructor
  · intro h fp hforce
    refine h id (f ch) ?_ fp hforce
    rw [hfind, hch, Option.map_some, if_pos rfl]
  · intro h k row hrow fp hforce
    rw [hfind] at hrow
    obtain ⟨old, hold, rfl⟩ := Option.map_eq_some_iff.mp hrow
    by_cases hk : k = id
    · subst hk
      cases hch.symm.trans hold
      rw [if_pos rfl] at hforce ⊢
      exact h fp hforce
    · rw [if_neg hk] at hforce ⊢
      exact hdb k old hold fp hforce

theorem update_valid_iff {s : AdminState} (hs : ForceValid serde s.storage) (t : Moment) (id : String)
    (body : ChannelUpdate) :
    ForceValid serde (updateChannel serde debugList s t id body).2.storage ↔
      UpdateListsForced serde s.storage id body := by
  obtain ⟨hsame, hcause⟩ | ⟨ch, hch, hvalid, hupdated⟩ := @updateChannel_cases serde debugList s t id body
  · rw [hsame]
    refine ⟨fun _ protocols ch fp _ hnone hch => ?_, fun _ => hs⟩
    rcases hcause with hmissing | hforce
    · cases hmissing.symm.trans hch
    · exact absurd hnone hforce
  · rw [hupdated]
    refine (modifyChannel_valid_iff hs hch).trans ?_
    cases hforce : body.forceProtocol with
    | some fp =>
      refine ⟨fun _ protocols ch' fp' _ hnone => ?_, fun _ fp' hfp' => ?_⟩
      · cases hforce.symm.trans hnone
      · rw [ChannelUpdate.apply, hforce] at hfp'
        cases hfp'
        exact validateForceProtocol_ok hvalid hch hforce
    | none =>
      simp only [ChannelUpdate.apply, hforce, Option.none_or]
      cases hprotocols : body.protocols with
      | none =>
        refine ⟨fun _ protocols ch' fp hsome => ?_, fun _ => hs id ch hch⟩
        cases hprotocols.symm.trans hsome
      | some protocols =>
        constructor
        · intro h protocols' ch' fp hsome _ hch'
          cases hprotocols.symm.trans hsome
          cases hch.symm.trans hch'
          exact h fp
        · intro h fp
          exact h protocols ch fp hprotocols hforce hch

theorem refresh_valid_iff {s : SeedOps.SeedStore} (hs : ForceValid serde s.db) (o : SeedOps.Outside) (base : String)
    (fetched : Except StorageError SeedOps.SeedManifest) :
    ForceValid serde (SeedOps.seedRefresh o base s fetched).1.db ↔ RefreshListsForced serde s o base fetched := by
  have hrows := (@SeedOps.seedRefresh_executes o base s fetched).channels
  constructor
  · intro h id protocols ch fp hlast hch hforce
    obtain ⟨hforced, hprotocols⟩ := hrows id
    rw [hlast, Option.some_or] at hprotocols
    obtain ⟨row, hrow, rfl⟩ := Option.map_eq_some_iff.mp hprotocols
    rw [hrow, hch, Option.bind_some, Option.bind_some, hforce] at hforced
    exact h id row hrow fp hforced
  · intro h id row hrow fp hforce
    obtain ⟨hforced, hprotocols⟩ := hrows id
    rw [hrow, Option.bind_some, hforce] at hforced
    obtain ⟨ch, hch, hwas⟩ := Option.bind_eq_some_iff.mp hforced.symm
    rw [hrow, hch, Option.map_some, Option.map_some] at hprotocols
    cases hlast : SeedOps.lastProtocols id (SeedOps.executedRefresh o base s fetched) with
    | none =>
      rw [hlast, Option.none_or, Option.some.injEq] at hprotocols
      rw [hprotocols]
      exact hs id ch hch fp hwas
    | some protocols =>
      rw [hlast, Option.some_or, Option.some.injEq] at hprotocols
      rw [hprotocols]
      exact h id protocols ch fp hlast hch hwas

def Inv (serde : Serde) (s : State) : Prop :=
  ForceValid serde s.admin.storage ∧ ForceListed s.admin.router.channels

theorem apply_valid_iff {s : State} (hs : Inv serde s) (op : Op) :
    ForceValid serde (apply serde debugList s op).admin.storage ↔ OpOk serde s op := by
  cases op with
  | updateChannel t id body => exact update_valid_iff hs.1 t id body
  | seedRefresh o base fetched => exact @refresh_valid_iff serde s.seedStore hs.1 o base fetched

theorem apply_inv {s : State} (hs : Inv serde s) {op : Op} (hok : OpOk serde s op) :
    Inv serde (apply serde debugList s op) := by
  have hvalid := (@apply_valid_iff serde debugList s hs op).mpr hok
  refine ⟨hvalid, ?_⟩
  cases op with
  | seedRefresh o base fetched => exact hs.2
  | updateChannel t id body =>
    obtain ⟨hsame, -⟩ | ⟨ch, -, -, hupdated⟩ := @updateChannel_cases serde debugList s.admin t id body
    · simp only [apply, hsame]
      exact hs.2
    · simp only [apply, hupdated] at hvalid ⊢
      exact hvalid.listed

end

namespace Sample

def anthropicText : String := "[\x7b\"protocol\":\"anthropic_messages\",\"baseUrl\":\"https://api.example\"\x7d]"

def serde : Serde :=
  { Router.Sample.serde with
    protocolEntries := fun s =>
      if s = anthropicText then .ok [⟨"anthropic_messages", "https://api.example", none⟩]
      else Router.Sample.serde.protocolEntries s }

def forced : Channel := { Router.Sample.channel "deepseek" "DeepSeek" "sk" with forceProtocol := some "openai_chat" }

def database : Database := { Database.empty with channels := .single forced }

def moment : Moment := ⟨0, 0, "1970-01-01T00:05:00+00:00", .healthy⟩

def seedChannel : SeedChannel where
  id := "deepseek"
  name := "DeepSeek"
  protocol := "anthropic_messages"
  protocols := anthropicText

def channelsText : String :=
  "[\x7b\"id\":\"deepseek\",\"name\":\"DeepSeek\",\"protocol\":\"anthropic_messages\"," ++
    "\"protocols\":\"[\x7b\\\"protocol\\\":\\\"anthropic_messages\\\",\\\"baseUrl\\\":\\\"https://api.example\\\"\x7d]\"\x7d]"

def channelsHash : String := "03321c8426370d0c25ef559ed4923e73c98d0046f71324cfd6eaf34b220d7327"

def outside : SeedOps.Outside :=
  { SeedOps.Sample.outside with
    fetch := fun name => if name = "channels" then .ok channelsText else .error (.status "404 Not Found")
    sha256 := fun body => if body = channelsText then channelsHash else ""
    channels := fun body =>
      if body = channelsText then .ok [seedChannel] else .error "expected value at line 1 column 1" }

def manifest : SeedOps.SeedManifest := ⟨2, .single ("channels", ⟨"channels.json", channelsHash⟩)⟩

def rename : Op := .updateChannel moment "deepseek" { name := some "DeepSeek Official" }

def replaceProtocols : Op := .updateChannel moment "deepseek" { protocols := some anthropicText }

def refresh : Op := .seedRefresh outside SeedOps.Sample.base (.ok manifest)

def initial : State := start serde database SeedOps.Sample.metadata

def targets (ops : List Op) : List (Option String × Except ProxyError ApiFormat) :=
  (ops.foldl (apply serde debugStrings) initial).admin.router.channels.map fun ch =>
    (ch.forceProtocol, resolveTargetProtocol ch.forceProtocol none ch.protocols)

end Sample

theorem force_protocol_kept_iff (serde : Serde) (debugList : List String → String) (db : Database)
    (metadata : String → Option String) (hdb : ForceValid serde db) (ops : List Op) :
    (∀ before rest s, ops = before ++ rest →
      run (step serde debugList) (start serde db metadata) before = some s →
      ForceValid serde s.admin.storage ∧ ForceRoutes s.admin.router) ↔
    Meets (step serde debugList) (OpOk serde) (start serde db metadata) ops := by
  have htotal : ∀ s op, ∃ t, step serde debugList s op = some t := fun s op => ⟨_, rfl⟩
  have hkeep : ∀ s op t, Inv serde s → OpOk serde s op → step serde debugList s op = some t → Inv serde t := by
    rintro s op t hs hok ⟨⟩
    exact apply_inv hs hok
  obtain ⟨u, hu⟩ := run_total htotal (start serde db metadata) ops
  refine always_iff_meets (fun s hs => ⟨hs.1, hs.2.routes⟩) hkeep ?_ ⟨hdb, hdb.listed⟩ hu
  rintro s op t hs hvalid ⟨⟩
  exact (apply_valid_iff hs op).mp hvalid.1

theorem Sample.database_valid : ForceValid Sample.serde Sample.database := by
  intro id ch hch fp hforce
  obtain ⟨hmem, -⟩ := (Table.find?_eq_some _).mp hch
  cases List.mem_singleton.mp hmem
  cases hforce
  exact ⟨[⟨"openai_chat", "https://api.example", none⟩], by decide +kernel, by decide⟩

theorem force_protocol_kept_by_rename :
    ForceValid Sample.serde Sample.database ∧
    ((∀ before rest s, [Sample.rename] = before ++ rest →
      run (step Sample.serde debugStrings) Sample.initial before = some s →
      ForceValid Sample.serde s.admin.storage ∧ ForceRoutes s.admin.router) ↔
    Meets (step Sample.serde debugStrings) (OpOk Sample.serde) Sample.initial [Sample.rename]) :=
  ⟨Sample.database_valid, force_protocol_kept_iff _ _ _ _ Sample.database_valid [Sample.rename]⟩

theorem new_protocols_orphan_force_protocol :
    ForceValid Sample.serde Sample.database ∧
    ∀ ops ∈ [[Sample.replaceProtocols], [Sample.refresh, Sample.rename]], ¬ ∀ before rest s, ops = before ++ rest →
      run (step Sample.serde debugStrings) Sample.initial before = some s →
      ForceValid Sample.serde s.admin.storage ∧ ForceRoutes s.admin.router := by
  have htargets : ∀ ops ∈ [[Sample.replaceProtocols], [Sample.refresh, Sample.rename]],
      Sample.targets ops = [(some "openai_chat",
        .error (.internal ("force_protocol '" ++ "openai_chat" ++ "' not found in channel protocols")))] := by
    decide +kernel
  have hrun : ∀ ops ∈ [[Sample.replaceProtocols], [Sample.refresh, Sample.rename]],
      run (step Sample.serde debugStrings) Sample.initial ops =
        some (ops.foldl (apply Sample.serde debugStrings) Sample.initial) := by
    simp [run, step]
  refine ⟨Sample.database_valid, fun ops hops h => ?_⟩
  obtain ⟨ch, hch, htarget⟩ := List.mem_map.mp (htargets ops hops ▸ List.mem_singleton_self _ : _ ∈ Sample.targets ops)
  obtain ⟨hforce, hfails⟩ := Prod.mk.inj htarget
  exact (h ops [] _ (List.append_nil ops).symm (hrun ops hops)).2 ch hch none "openai_chat" hforce hfails

end AgentProxy.Admin.ForceProtocol
