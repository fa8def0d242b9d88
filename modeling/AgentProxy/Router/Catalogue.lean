import AgentProxy.Lib.Grouping
import AgentProxy.Router.Selection
import AgentProxy.Storage.Integrity

namespace AgentProxy.Router.Catalogue

open Storage Storage.KeyRetention Storage.Integrity

/-- What clients that ask for `model` are offered through a stored mapping. -/
def offered (serde : Serde) (db : Database) (model : String) (m : ModelMapping) : Option (String × ResolvedMapping) :=
  (getChannel db m.channelId).bind fun ch =>
    if ch.enabled ∧ (parseProtocols serde ch).isEmpty = false ∧ m.enabled ∧ m.clientName = model then
      (resolveMapping serde m).map (Prod.mk ch.id)
    else none

structure Complete (db : Database) : Prop where
  intact : Intact db
  read : ((listChannels db).flatMap fun ch => listMappings db ch.id).Perm (listAllMappings db)
  offered : ∀ serde model, ((findCandidates (resolveChannels serde db) model).map fun c => (c.1.channelId, c.2)).Perm
    ((listAllMappings db).filterMap (offered serde db model))
  once : ∀ serde model, ((findCandidates (resolveChannels serde db) model).map fun c => c.2.mappingId).Nodup

section

variable {db : Database} {serde : Serde} {model : String}

theorem resolveMapping_fields {m : ModelMapping} {rm : ResolvedMapping} (h : resolveMapping serde m = some rm) :
    rm.mappingId = m.id ∧ rm.clientName = m.clientName := by
  unfold resolveMapping at h
  split at h
  · cases h
    exact ⟨rfl, rfl⟩
  · cases h

theorem listChannels_ids : ((listChannels db).map Channel.id).Perm (db.channels.rows.map Channel.id) := by
  have hid : Channel.id ∘ rowToChannel = Channel.id := by
    funext row
    exact (rowToChannel_fields row).1
  rw [listChannels, List.map_map, hid]
  exact (List.perm_insertionSort _ _).map _

theorem getChannel_listed {ch : Channel} (h : ch ∈ listChannels db) : getChannel db ch.id = some ch := by
  obtain ⟨row, hrow, rfl⟩ := mem_listChannels.mp h
  rw [getChannel, (rowToChannel_fields row).1, (Table.find?_eq_some db.channels).mpr ⟨hrow, rfl⟩, Option.map_some]

theorem listMappings_perm (channelId : String) :
    (listMappings db channelId).Perm (Grouping.members ModelMapping.channelId db.mappings.rows channelId) :=
  List.perm_insertionSort _ _

theorem mem_listMappings {channelId : String} {m : ModelMapping} (h : m ∈ listMappings db channelId) :
    m.channelId = channelId :=
  (Grouping.mem_members.mp ((listMappings_perm channelId).mem_iff.mp h)).2

theorem read_complete (h : Intact db) :
    ((listChannels db).flatMap fun ch => listMappings db ch.id).Perm (listAllMappings db) := by
  have hnodup : ((listChannels db).map Channel.id).Nodup := (listChannels_ids).nodup_iff.mpr db.channels.nodup
  have hall : db.mappings.rows.filter (fun m => decide (m.channelId ∈ (listChannels db).map Channel.id)) =
      db.mappings.rows := by
    apply List.filter_eq_self.mpr
    intro m hm
    obtain ⟨row, hrow⟩ := Option.isSome_iff_exists.mp (h.channel m hm)
    obtain ⟨hmem, hkey⟩ := (Table.find?_eq_some _).mp hrow
    apply decide_eq_true
    rw [listChannels_ids.mem_iff, ← hkey]
    exact List.mem_map_of_mem hmem
  have hmembers := @Grouping.flatMap_members_perm _ _ _ ModelMapping.channelId db.mappings.rows _ hnodup
  rw [hall] at hmembers
  have hlists : ((listChannels db).flatMap fun ch => listMappings db ch.id).Perm
      (((listChannels db).map Channel.id).flatMap (Grouping.members ModelMapping.channelId db.mappings.rows)) := by
    rw [List.flatMap_map]
    exact List.Perm.flatMap_left _ fun ch _ => listMappings_perm ch.id
  exact (hlists.trans hmembers).trans (List.perm_insertionSort _ _).symm

theorem offered_eq {ch : Channel} (hch : ch ∈ listChannels db) {m : ModelMapping} (hm : m.channelId = ch.id) :
    offered serde db model m =
      if ch.enabled ∧ (parseProtocols serde ch).isEmpty = false ∧ m.enabled ∧ m.clientName = model then
        (resolveMapping serde m).map (Prod.mk ch.id)
      else none := by
  rw [offered, hm, getChannel_listed hch, Option.bind_some]

theorem resolved_offered {ch : Channel} (hch : ch ∈ listChannels db) (henabled : ch.enabled = true)
    (hprotocols : (parseProtocols serde ch).isEmpty = false) {ms : List ModelMapping}
    (hms : ∀ m ∈ ms, m.channelId = ch.id) :
    ((((ms.filter (·.enabled)).filterMap (resolveMapping serde)).filter fun m => m.clientName = model).map
      (Prod.mk ch.id)) = ms.filterMap (offered serde db model) := by
  rw [List.filterMap_filter, List.filter_filterMap, List.map_filterMap]
  apply List.filterMap_congr
  intro m hm
  rw [offered_eq hch (hms m hm)]
  by_cases hen : m.enabled = true
  · cases hrm : resolveMapping serde m with
    | none => simp [hen]
    | some rm =>
      have hname := (resolveMapping_fields hrm).2
      by_cases hmodel : m.clientName = model
      · simp [hen, hname, hmodel, henabled, hprotocols, Option.filter]
      · simp [hen, hname, hmodel, Option.filter]
  · simp [hen]

theorem offered_by {ch : Channel} (hch : ch ∈ listChannels db) {ms : List ModelMapping}
    (hms : ∀ m ∈ ms, m.channelId = ch.id) :
    ((resolveChannel serde ch ms).elim [] fun rc => (if rc.enabled then
        (rc.mappings.filter fun m => m.clientName = model).map fun m => (rc, m) else []).map
      fun c => (c.1.channelId, c.2)) = ms.filterMap (offered serde db model) := by
  have hclosed : ¬ (ch.enabled = true ∧ (parseProtocols serde ch).isEmpty = false) →
      ms.filterMap (offered serde db model) = [] := by
    intro hno
    apply List.filterMap_eq_nil_iff.mpr
    intro m hm
    rw [offered_eq hch (hms m hm), if_neg fun h => hno ⟨h.1, h.2.1⟩]
  unfold resolveChannel
  by_cases hprotocols : (parseProtocols serde ch).isEmpty = true
  · rw [if_pos hprotocols, hclosed fun h => absurd (hprotocols.symm.trans h.2) (by decide)]
    rfl
  · rw [Bool.not_eq_true] at hprotocols
    rw [if_neg (by simp [hprotocols]), Option.elim_some]
    by_cases henabled : ch.enabled = true
    · rw [if_pos henabled, List.map_map]
      exact resolved_offered hch henabled hprotocols hms
    · rw [if_neg henabled, hclosed fun h => henabled h.1]
      rfl

theorem candidates_perm (h : Intact db) (serde : Serde) (model : String) :
    ((findCandidates (resolveChannels serde db) model).map fun c => (c.1.channelId, c.2)).Perm
      ((listAllMappings db).filterMap (offered serde db model)) := by
  have hreads : (findCandidates (resolveChannels serde db) model).map (fun c => (c.1.channelId, c.2)) =
      ((listChannels db).flatMap fun ch => listMappings db ch.id).filterMap (offered serde db model) := by
    rw [findCandidates, resolveChannels, List.map_flatMap, Grouping.flatMap_filterMap, List.filterMap_flatMap]
    apply List.flatMap_congr
    intro ch hch
    exact offered_by hch fun m hm => mem_listMappings hm
  rw [hreads]
  exact (read_complete h).filterMap _

theorem offered_id {m : ModelMapping} {c : String × ResolvedMapping} (h : offered serde db model m = some c) :
    c.2.mappingId = m.id := by
  obtain ⟨ch, -, hch⟩ := Option.bind_eq_some_iff.mp h
  split_ifs at hch
  obtain ⟨rm, hrm, rfl⟩ := Option.map_eq_some_iff.mp hch
  exact (resolveMapping_fields hrm).1

theorem candidates_once (h : Intact db) (serde : Serde) (model : String) :
    ((findCandidates (resolveChannels serde db) model).map fun c => c.2.mappingId).Nodup := by
  have hids := ((candidates_perm h serde model).map fun c => c.2.mappingId).nodup_iff
  rw [List.map_map] at hids
  apply hids.mpr
  have hstored : ((listAllMappings db).map ModelMapping.id).Nodup :=
    ((List.perm_insertionSort _ _).map _).nodup_iff.mpr db.mappings.nodup
  exact hstored.sublist (Grouping.map_filterMap_sublist (fun _ _ hc => offered_id hc) _)

end

theorem catalogue_complete {ω : Type} (metadata : String → Option String) (rest : ω) (ops : List (Op ω)) :
    Complete (Store.after ⟨⟨Database.empty, metadata⟩, rest⟩ ops).seeds.db := by
  have hstart : Intact (⟨⟨Database.empty, metadata⟩, rest⟩ : Store ω).seeds.db := intact_empty
  have h := after_intact hstart ops
  exact ⟨h, read_complete h, candidates_perm h, candidates_once h⟩

end AgentProxy.Router.Catalogue
