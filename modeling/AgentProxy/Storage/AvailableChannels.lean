import AgentProxy.Storage.Seed

namespace AgentProxy.Storage

structure AvailableModelInfo where
  mappingId : String
  clientName : String
  upstreamName : String

structure AvailableChannelInfo where
  channelId : String
  channelName : String
  protocol : String
  protocols : String
  healthStatus : String
  enabled : Bool
  models : List AvailableModelInfo

def listChannelsFor (db : Database) (modelId : Option String) : List Channel :=
  match modelId with
  | some mid =>
    ((db.channels.rows.filter fun ch => db.mappings.rows.any fun m =>
      decide (m.channelId = ch.id ∧ m.clientName = mid)).insertionSort fun a b => a.id ≤ b.id).map rowToChannel
  | none => listChannels db

def boundModels (db : Database) (channelId : String) : List AvailableModelInfo :=
  ((db.mappings.rows.filter fun m => decide (m.channelId = channelId) && m.enabled).insertionSort
    fun a b => a.clientName ≤ b.clientName).map fun m => ⟨m.id, m.clientName, m.upstreamName⟩

/-- The status is the stored one: this query does not go through `row_to_channel`. -/
def availableInfo (db : Database) (ch : Channel) : AvailableChannelInfo :=
  ⟨ch.id, ch.name, ch.protocol, ch.protocols, ch.healthStatus, true, boundModels db ch.id⟩

def listAvailableChannels (db : Database) : List AvailableChannelInfo :=
  (((db.channels.rows.filter (·.enabled)).insertionSort byPriority).map (availableInfo db)).filter
    fun info => !info.models.isEmpty

structure ChannelView where
  healthStatus : String
  name : String
  protocols : String

def Channel.view (ch : Channel) : ChannelView := ⟨ch.healthStatus, ch.name, ch.protocols⟩

def AvailableChannelInfo.view (info : AvailableChannelInfo) : ChannelView :=
  ⟨info.healthStatus, info.channelName, info.protocols⟩

/-- `id` is listed, and always with the view `v`. -/
def Shows {α : Type} (id : String) (key : α → String) (view : α → ChannelView) (v : ChannelView) (listed : List α) :
    Prop :=
  (∃ a ∈ listed, key a = id) ∧ ∀ a ∈ listed, key a = id → view a = v

structure ReadPathsAgree (db : Database) (row : Channel) (v : ChannelView) : Prop where
  keyless : row.apiKey = "" → v.healthStatus = "Unavailable"
  get : (getChannel db row.id).map Channel.view = some v
  list : Shows row.id Channel.id Channel.view v (listChannelsFor db none)
  listByModel : ∀ m ∈ db.mappings.rows, m.channelId = row.id →
    Shows row.id Channel.id Channel.view v (listChannelsFor db (some m.clientName))
  available : Shows row.id AvailableChannelInfo.channelId AvailableChannelInfo.view v (listAvailableChannels db)

section

variable {db : Database} {row : Channel}

theorem boundModels_ne_nil {channelId : String}
    (h : ∃ m ∈ db.mappings.rows, m.channelId = channelId ∧ m.enabled = true) : boundModels db channelId ≠ [] := by
  obtain ⟨m, hm, hchannel, henabled⟩ := h
  apply List.ne_nil_of_mem
  apply List.mem_map_of_mem
  rw [List.mem_insertionSort, List.mem_filter, hchannel, henabled]
  exact ⟨hm, by simp⟩

theorem mem_listAvailableChannels {info : AvailableChannelInfo} :
    info ∈ listAvailableChannels db ↔
      (∃ ch ∈ db.channels.rows, ch.enabled = true ∧ availableInfo db ch = info) ∧ info.models ≠ [] := by
  rw [listAvailableChannels, List.mem_filter, List.mem_map, Bool.not_eq_true', List.isEmpty_eq_false_iff]
  simp only [List.mem_insertionSort, List.mem_filter, and_assoc]

theorem shows_available (hrow : row ∈ db.channels.rows) (henabled : row.enabled = true)
    (hmapped : ∃ m ∈ db.mappings.rows, m.channelId = row.id ∧ m.enabled = true) (v : ChannelView) :
    Shows row.id AvailableChannelInfo.channelId AvailableChannelInfo.view v (listAvailableChannels db) ↔
      row.view = v := by
  have hlisted : availableInfo db row ∈ listAvailableChannels db :=
    mem_listAvailableChannels.mpr ⟨⟨row, hrow, henabled, rfl⟩, boundModels_ne_nil hmapped⟩
  constructor
  · rintro ⟨-, hall⟩
    exact hall _ hlisted rfl
  · rintro rfl
    apply And.intro ⟨_, hlisted, rfl⟩
    intro info hinfo hid
    obtain ⟨⟨ch, hch, -, rfl⟩, -⟩ := mem_listAvailableChannels.mp hinfo
    rw [db.channels.key_inj hch hrow hid]
    rfl

theorem rowToChannel_id (ch : Channel) : (rowToChannel ch).id = ch.id := by
  obtain ⟨status, hstatus⟩ := rowToChannel_eq ch
  rw [hstatus]

theorem shows_rows {rows : List Channel} (hrows : rows ⊆ db.channels.rows) (hrow : row ∈ rows) (v : ChannelView) :
    Shows row.id Channel.id Channel.view v (rows.map rowToChannel) ↔ (rowToChannel row).view = v := by
  have hlisted : rowToChannel row ∈ rows.map rowToChannel := List.mem_map_of_mem hrow
  constructor
  · rintro ⟨-, hall⟩
    exact hall _ hlisted (rowToChannel_id row)
  · rintro rfl
    apply And.intro ⟨_, hlisted, rowToChannel_id row⟩
    intro ch hch hid
    obtain ⟨other, hother, rfl⟩ := List.mem_map.mp hch
    rw [rowToChannel_id] at hid
    rw [db.channels.key_inj (hrows hother) (hrows hrow) hid]

theorem shows_list (hrow : row ∈ db.channels.rows) (v : ChannelView) :
    Shows row.id Channel.id Channel.view v (listChannelsFor db none) ↔ (rowToChannel row).view = v := by
  apply shows_rows
  · intro ch hch
    exact (List.mem_insertionSort _).mp hch
  · exact (List.mem_insertionSort _).mpr hrow

theorem shows_listByModel (hrow : row ∈ db.channels.rows) {m : ModelMapping} (hm : m ∈ db.mappings.rows)
    (hchannel : m.channelId = row.id) (v : ChannelView) :
    Shows row.id Channel.id Channel.view v (listChannelsFor db (some m.clientName)) ↔ (rowToChannel row).view = v := by
  apply shows_rows
  · intro ch hch
    exact List.mem_of_mem_filter ((List.mem_insertionSort _).mp hch)
  · apply (List.mem_insertionSort _).mpr
    apply List.mem_filter.mpr
    exact ⟨hrow, List.any_eq_true.mpr ⟨m, hm, decide_eq_true ⟨hchannel, rfl⟩⟩⟩

theorem getChannel_of_mem (hrow : row ∈ db.channels.rows) : getChannel db row.id = some (rowToChannel row) := by
  rw [getChannel, db.channels.find?_eq_some.mpr ⟨hrow, rfl⟩]
  rfl

theorem rowToChannel_view_iff (row : Channel) :
    row.view = (rowToChannel row).view ↔ row.apiKey ≠ "" ∨ row.healthStatus = "Unavailable" := by
  unfold rowToChannel
  by_cases hkey : row.apiKey = ""
  · simp [hkey, Channel.view]
  · have hnonempty : row.apiKey.isEmpty = false := by simpa using hkey
    simp [hkey, hnonempty]

theorem rowToChannel_keyless (h : row.apiKey = "") : (rowToChannel row).view.healthStatus = "Unavailable" := by
  rw [rowToChannel, if_pos (by simp [h])]
  rfl

theorem read_paths_agree_iff (hrow : row ∈ db.channels.rows) (henabled : row.enabled = true)
    (hmapped : ∃ m ∈ db.mappings.rows, m.channelId = row.id ∧ m.enabled = true) :
    (∃ v, ReadPathsAgree db row v) ↔ row.apiKey ≠ "" ∨ row.healthStatus = "Unavailable" := by
  rw [← rowToChannel_view_iff]
  constructor
  · rintro ⟨v, hv⟩
    have hlist := (shows_list hrow v).mp hv.list
    have havailable := (shows_available hrow henabled hmapped v).mp hv.available
    rw [hlist, havailable]
  · intro hview
    refine ⟨(rowToChannel row).view, rowToChannel_keyless, ?_, ?_, ?_, ?_⟩
    · rw [getChannel_of_mem hrow]
      rfl
    · exact (shows_list hrow _).mpr rfl
    · intro m hm hchannel
      exact (shows_listByModel hrow hm hchannel _).mpr rfl
    · exact (shows_available hrow henabled hmapped _).mpr hview

end

namespace Sample

def seedChannel (apiKey : String) : SeedChannel :=
  { id := "deepseek", name := "DeepSeek", apiKey := apiKey, protocol := "openai_chat" }

def seedMapping : ModelMapping := ⟨"m1", "deepseek", "sonnet", "deepseek-chat", "metered", "", 100, true, "[]"⟩

def seededDb (apiKey : String) : Database :=
  seedRefresh Database.empty 0 [[.channel (seedChannel apiKey)], [.mapping seedMapping]]

def seededRow (apiKey : String) : Channel := (seedChannel apiKey).row 0

theorem seededDb_channels (apiKey : String) : (seededDb apiKey).channels.rows = [seededRow apiKey] := rfl

theorem seededDb_mappings (apiKey : String) : (seededDb apiKey).mappings.rows = [seedMapping] := rfl

end Sample

theorem read_paths_agree_with_key :
    Sample.seededRow "sk-1" ∈ (Sample.seededDb "sk-1").channels.rows ∧
      ∃ v, ReadPathsAgree (Sample.seededDb "sk-1") (Sample.seededRow "sk-1") v := by
  have hrow : Sample.seededRow "sk-1" ∈ (Sample.seededDb "sk-1").channels.rows := by
    rw [Sample.seededDb_channels]
    exact List.mem_singleton_self _
  have hmapped : ∃ m ∈ (Sample.seededDb "sk-1").mappings.rows,
      m.channelId = (Sample.seededRow "sk-1").id ∧ m.enabled = true := by
    rw [Sample.seededDb_mappings]
    exact ⟨_, List.mem_singleton_self _, rfl, rfl⟩
  exact ⟨hrow, (read_paths_agree_iff hrow rfl hmapped).mpr (.inl (by decide))⟩

theorem read_paths_differ_without_key :
    Sample.seededRow "" ∈ (Sample.seededDb "").channels.rows ∧ (Sample.seededRow "").enabled = true ∧
      (∃ m ∈ (Sample.seededDb "").mappings.rows, m.channelId = (Sample.seededRow "").id ∧ m.enabled = true) ∧
      ¬ ∃ v, ReadPathsAgree (Sample.seededDb "") (Sample.seededRow "") v := by
  have hrow : Sample.seededRow "" ∈ (Sample.seededDb "").channels.rows := by
    rw [Sample.seededDb_channels]
    exact List.mem_singleton_self _
  have hmapped : ∃ m ∈ (Sample.seededDb "").mappings.rows,
      m.channelId = (Sample.seededRow "").id ∧ m.enabled = true := by
    rw [Sample.seededDb_mappings]
    exact ⟨_, List.mem_singleton_self _, rfl, rfl⟩
  refine ⟨hrow, rfl, hmapped, ?_⟩
  rintro ⟨v, hv⟩
  have hstatus := (shows_available hrow rfl hmapped v).mp hv.available
  have hunavailable := hv.keyless rfl
  rw [← hstatus] at hunavailable
  exact absurd hunavailable (by decide)

end AgentProxy.Storage
