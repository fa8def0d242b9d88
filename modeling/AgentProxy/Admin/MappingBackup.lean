import AgentProxy.Admin.MappingUpdates
import AgentProxy.Router.PricingJson
import AgentProxy.Storage.Integrity
import Mathlib.Data.List.Sort

namespace AgentProxy.Admin.Backup

open Mappings Router Storage Storage.Integrity Transition

def isEmptyProtocols (s : String) : Bool := s.isEmpty || s == "[]"

def readU32 (v : Json) : Option ℕ := v.asU64.bind fun n => if n.toNat < 2 ^ 32 then some n.toNat else none

def toValue (m : ModelMapping) : Json :=
  .obj ([("id", .str m.id), ("channelId", .str m.channelId), ("clientName", .str m.clientName),
    ("upstreamName", .str m.upstreamName), ("billing", .str m.billing), ("pricingJson", .str m.pricingJson),
    ("weight", .num (.posInt (.ofNat m.weight))), ("enabled", .bool m.enabled)] ++
    if isEmptyProtocols m.protocols then [] else [("protocols", .str m.protocols)])

def ofValue (v : Json) : Option ModelMapping := do
  return ⟨← required Json.asStr v "id", ← required Json.asStr v "channelId", ← required Json.asStr v "clientName",
    ← required Json.asStr v "upstreamName", ← required Json.asStr v "billing", ← required Json.asStr v "pricingJson",
    ← required readU32 v "weight", ← required Json.asBool v "enabled", ← defaulted Json.asStr "" v "protocols"⟩

inductive Op where
  | create (body : Json)
  | update (id : String) (body : UpdateMappingBody)
  | delete (id : String)

/-- What a mapping is after it was written and read as JSON: the empty list of protocols is left out. -/
def settled (m : ModelMapping) : ModelMapping := { m with protocols := if isEmptyProtocols m.protocols then "" else m.protocols }

/-- `serde_json` on the two texts that stand for no constraint. -/
structure ReadsLists (serde : Serde) : Prop where
  blank : (serde.strings "").toOption = none
  brackets : serde.strings "[]" = .ok []

/-- The mappings of an earlier listing that are not stored then. -/
def stale (backup : List ModelMapping) (s : AdminState) : List String :=
  (s.storage.mappings.rows.map (·.id)).filter fun id => id ∉ backup.map (·.id)

section

variable (serde : Serde)

/-- `none` is a body that the server does not take for a mapping. -/
def handle (s : AdminState) : Op → Option (Except AppError Unit) × AdminState
  | .create body =>
    match ofValue body with
    | none => (none, s)
    | some m => ((some (createModelMapping serde s m).1), (createModelMapping serde s m).2)
  | .update id body => (some (updateModelMapping serde s id body).1, (updateModelMapping serde s id body).2)
  | .delete id => (some (deleteModelMapping serde s id).1, (deleteModelMapping serde s id).2)

def after (s : AdminState) (ops : List Op) : AdminState := ops.foldl (fun s op => (handle serde s op).2) s

def step (s : AdminState) (op : Op) : Option AdminState :=
  match handle serde s op with
  | (some (.ok _), t) => some t
  | _ => none

end

/-- Only the mappings and the list that is made of them differ. -/
structure SameRest (s t : AdminState) : Prop where
  storage : t.storage = { s.storage with mappings := t.storage.mappings }
  router : t.router = { s.router with channels := t.router.channels }

theorem SameRest.refl (s : AdminState) : SameRest s s := ⟨rfl, rfl⟩

theorem SameRest.trans {s t u : AdminState} (h : SameRest s t) (h' : SameRest t u) : SameRest s u := by
  constructor
  · rw [h'.storage, h.storage]
  · rw [h'.router, h.router]

theorem ofValue_toValue {m : ModelMapping} (h : m.weight < 2 ^ 32) : ofValue (toValue m) = some (settled m) := by
  have hweight : (UInt64.ofNat m.weight).toNat = m.weight :=
    UInt64.toNat_ofNat_of_lt' (lt_of_lt_of_le h (by decide))
  have hread : required readU32 (toValue m) "weight" = some m.weight := by
    change readU32 (.num (.posInt (.ofNat m.weight))) = some m.weight
    rw [readU32, Json.asU64, Option.bind_some, hweight, if_pos h]
  have hprotocols : defaulted Json.asStr "" (toValue m) "protocols" = some (settled m).protocols := by
    unfold settled toValue
    split_ifs
    · rfl
    · rfl
  rw [ofValue, hread, hprotocols]
  rfl

section

variable {serde : Serde} {s t : AdminState} {op : Op} {ops : List Op}

theorem writeThenReload_rest {result : Except StorageError Database} {onError : StorageError → AppError}
    (h : ∀ db, result = .ok db → db = { s.storage with mappings := db.mappings }) :
    SameRest s (s.writeThenReload serde result onError).2 := by
  cases result with
  | error e => exact .refl s
  | ok db => exact ⟨h db rfl, rfl⟩

theorem upsertMapping_rest {db db' : Database} {m : ModelMapping} (h : upsertMapping db m = .ok db') :
    db' = { db with mappings := db'.mappings } := by
  unfold upsertMapping at h
  split at h
  · cases h
  · cases h
    rfl

theorem deleteMapping_rest {db db' : Database} {id : String} (h : deleteMapping db id = .ok db') :
    db' = { db with mappings := db'.mappings } := by
  unfold deleteMapping at h
  split at h
  · cases h
  · cases h
    rfl

theorem handle_rest (serde : Serde) (s : AdminState) (op : Op) : SameRest s (handle serde s op).2 := by
  cases op with
  | create body =>
    simp only [handle]
    split
    · exact .refl s
    · exact writeThenReload_rest fun _ => upsertMapping_rest
  | update id body =>
    simp only [handle, updateModelMapping]
    split
    · exact .refl s
    · exact writeThenReload_rest fun _ => upsertMapping_rest
  | delete id => exact writeThenReload_rest fun _ => deleteMapping_rest

theorem after_rest (serde : Serde) (s : AdminState) (ops : List Op) : SameRest s (after serde s ops) := by
  induction ops generalizing s with
  | nil => exact .refl s
  | cons op ops ih => exact (handle_rest serde s op).trans (ih _)

theorem resolveMapping_settled (hserde : ReadsLists serde) (m : ModelMapping) :
    resolveMapping serde (settled m) = resolveMapping serde m := by
  have hstrings : (serde.strings (settled m).protocols).toOption.getD [] = (serde.strings m.protocols).toOption.getD [] := by
    unfold settled
    dsimp only
    split_ifs with hempty
    · rw [hserde.blank]
      rcases Bool.or_eq_true_iff.mp hempty with hblank | hbrackets
      · rw [String.isEmpty_iff.mp hblank, hserde.blank]
      · rw [beq_iff_eq.mp hbrackets, hserde.brackets]
        rfl
    · rfl
  simp only [resolveMapping, hstrings]
  rfl

theorem listMappings_sorted (db : Database) (channelId : String) :
    (listMappings db channelId).Pairwise fun a b => a.id < b.id := by
  have htotal : Std.Total fun a b : ModelMapping => a.id ≤ b.id := ⟨fun a b => le_total a.id b.id⟩
  have htrans : IsTrans ModelMapping fun a b => a.id ≤ b.id := ⟨fun _ _ _ => le_trans⟩
  have hsorted : (listMappings db channelId).Pairwise fun a b => a.id ≤ b.id := List.pairwise_insertionSort _ _
  have hnodup : ((listMappings db channelId).map (·.id)).Nodup := by
    apply ((List.perm_insertionSort _ _).map _).nodup_iff.mpr
    exact db.mappings.nodup.sublist (List.filter_sublist.map _)
  apply (hsorted.and (List.pairwise_map.mp hnodup)).imp
  intro a b hab
  exact lt_of_le_of_ne hab.1 hab.2

theorem mem_listMappings_iff {db : Database} {channelId : String} {m : ModelMapping} :
    m ∈ listMappings db channelId ↔ db.mappings.find? m.id = some m ∧ m.channelId = channelId := by
  rw [listMappings, List.mem_insertionSort, List.mem_filter, decide_eq_true_eq, Table.find?_eq_some]
  simp

theorem listMappings_settled {db db' : Database}
    (hrows : ∀ id, db'.mappings.find? id = (db.mappings.find? id).map settled) (channelId : String) :
    listMappings db' channelId = (listMappings db channelId).map settled := by
  have hirrefl : Std.Irrefl fun a b : ModelMapping => a.id < b.id := ⟨fun a => lt_irrefl a.id⟩
  have hmapped : ((listMappings db channelId).map settled).Pairwise fun a b => a.id < b.id :=
    List.pairwise_map.mpr (listMappings_sorted db channelId)
  apply (listMappings_sorted db' channelId).eq_of_mem_iff hmapped
  intro m
  rw [mem_listMappings_iff, hrows, Option.map_eq_some_iff, List.mem_map]
  constructor
  · rintro ⟨⟨old, hold, rfl⟩, hchannel⟩
    refine ⟨old, mem_listMappings_iff.mpr ⟨?_, hchannel⟩, rfl⟩
    exact hold
  · rintro ⟨old, hold, rfl⟩
    obtain ⟨hfind, hchannel⟩ := mem_listMappings_iff.mp hold
    exact ⟨⟨old, hfind, rfl⟩, hchannel⟩

theorem resolveChannels_settled (hserde : ReadsLists serde) {db db' : Database} (hchannels : db'.channels = db.channels)
    (hrows : ∀ id, db'.mappings.find? id = (db.mappings.find? id).map settled) :
    resolveChannels serde db' = resolveChannels serde db := by
  have hlist : listChannels db' = listChannels db := by rw [listChannels, hchannels, ← listChannels]
  rw [resolveChannels, resolveChannels, hlist]
  congr 1
  funext ch
  rw [listMappings_settled hrows]
  have hsettled : resolveMapping serde ∘ settled = resolveMapping serde := funext (resolveMapping_settled hserde)
  have henabled : (fun m : ModelMapping => m.enabled) ∘ settled = fun m => m.enabled := rfl
  rw [resolveChannel, resolveChannel, List.filter_map, henabled, List.filterMap_map, hsettled]

def Loaded (serde : Serde) (s : AdminState) : Prop := s.router.channels = resolveChannels serde s.storage

variable (serde) in
theorem step_delete {id : String} (h : (row s id).isSome) :
    ∃ t, step serde s (.delete id) = some t ∧ SameRest s t ∧ Loaded serde t ∧
      ∀ id', row t id' = if id' = id then none else row s id' := by
  obtain ⟨m, hm⟩ := Option.isSome_iff_exists.mp h
  have hdb : deleteMapping s.storage id = .ok { s.storage with
      mappings := s.storage.mappings.filterOut fun m => decide (m.id = id) } := by
    rw [row] at hm
    rw [deleteMapping, hm]
  have hstep : step serde s (.delete id) = some ({ s with storage := { s.storage with
      mappings := s.storage.mappings.filterOut fun m => decide (m.id = id) } }.reloadChannels serde) := by
    rw [step, handle, deleteModelMapping, hdb]
    rfl
  refine ⟨_, hstep, ⟨rfl, rfl⟩, rfl, fun id' => ?_⟩
  exact Table.find?_filterOut_key s.storage.mappings id id'

variable (serde) in
theorem step_create {m : ModelMapping} (hweight : m.weight < 2 ^ 32) (hchannel : s.storage.hasChannel m.channelId = true) :
    ∃ t, step serde s (.create (toValue m)) = some t ∧ SameRest s t ∧ Loaded serde t ∧
      ∀ id, row t id = if id = m.id then some (settled m) else row s id := by
  obtain ⟨ch, hch⟩ := Option.isSome_iff_exists.mp hchannel
  have hdb : upsertMapping s.storage (settled m) = .ok { s.storage with
      mappings := s.storage.mappings.upsert (settled m) (mappingConflict (settled m)) (mappingConflict_id _) } := by
    have hsame : (settled m).channelId = m.channelId := rfl
    rw [upsertMapping, hsame, hch]
  have hstep : step serde s (.create (toValue m)) = some ({ s with storage := { s.storage with
      mappings := s.storage.mappings.upsert (settled m) (mappingConflict (settled m)) (mappingConflict_id _) } }.reloadChannels
        serde) := by
    simp only [step, handle, ofValue_toValue hweight]
    rw [createModelMapping, hdb]
    rfl
  refine ⟨_, hstep, ⟨rfl, rfl⟩, rfl, fun id => ?_⟩
  exact find?_upsert_mapping s.storage.mappings (settled m) id

variable (serde) in
theorem run_deletes {ids : List String} (hnodup : ids.Nodup) (h : ∀ id ∈ ids, (row s id).isSome) :
    ∃ t, run (step serde) s (ids.map .delete) = some t ∧ SameRest s t ∧
      ∀ id, row t id = if id ∈ ids then none else row s id := by
  induction ids generalizing s with
  | nil => exact ⟨s, rfl, .refl s, fun id => rfl⟩
  | cons id ids ih =>
    obtain ⟨hfresh, hnodup⟩ := List.nodup_cons.mp hnodup
    obtain ⟨hid, hids⟩ := List.forall_mem_cons.mp h
    obtain ⟨u, hu, hrest, -, hrow⟩ := step_delete serde hid
    have hstored : ∀ id' ∈ ids, (row u id').isSome := by
      intro id' hid'
      have hne : id' ≠ id := fun heq => hfresh (heq ▸ hid')
      rw [hrow, if_neg hne]
      exact hids id' hid'
    obtain ⟨t, ht, hrest', hrow'⟩ := ih hnodup hstored
    refine ⟨t, run_cons.mpr ⟨u, hu, ht⟩, hrest.trans hrest', fun id' => ?_⟩
    rw [hrow', hrow]
    by_cases hsame : id' = id
    · simp [hsame]
    · simp [hsame]

variable (serde) in
theorem run_creates {ms : List ModelMapping} (hnodup : (ms.map (·.id)).Nodup) (hweight : ∀ m ∈ ms, m.weight < 2 ^ 32)
    (hchannel : ∀ m ∈ ms, s.storage.hasChannel m.channelId = true) :
    ∃ t, run (step serde) s (ms.map fun m => .create (toValue m)) = some t ∧ SameRest s t ∧
      (ms ≠ [] → Loaded serde t) ∧ (∀ m ∈ ms, row t m.id = some (settled m)) ∧
      ∀ id, id ∉ ms.map (·.id) → row t id = row s id := by
  induction ms generalizing s with
  | nil => exact ⟨s, rfl, .refl s, fun h => absurd rfl h, fun m hm => absurd hm List.not_mem_nil, fun id _ => rfl⟩
  | cons m ms ih =>
    obtain ⟨hfresh, hnodup⟩ := List.nodup_cons.mp hnodup
    obtain ⟨hm, hms⟩ := List.forall_mem_cons.mp hweight
    obtain ⟨hchannelOf, hchannels⟩ := List.forall_mem_cons.mp hchannel
    obtain ⟨u, hu, hrest, hloaded, hrow⟩ := step_create serde hm hchannelOf
    have hkept : ∀ m' ∈ ms, u.storage.hasChannel m'.channelId = true := by
      intro m' hm'
      rw [hrest.storage]
      exact hchannels m' hm'
    obtain ⟨t, ht, hrest', hloaded', hnew, hold⟩ := ih hnodup hms hkept
    refine ⟨t, run_cons.mpr ⟨u, hu, ht⟩, hrest.trans hrest', fun _ => ?_, ?_, fun id hid => ?_⟩
    · by_cases hms : ms = []
      · subst hms
        cases ht
        exact hloaded
      · exact hloaded' hms
    · intro m' hm'
      rcases List.mem_cons.mp hm' with rfl | hm'
      · rw [hold _ hfresh, hrow, if_pos rfl]
      · exact hnew m' hm'
    · rw [List.map_cons, List.mem_cons, not_or] at hid
      rw [hold id hid.2, hrow, if_neg hid.1]

end

structure Restored (serde : Serde) (s t : AdminState) : Prop where
  rows : ∀ id, row t id = (row s id).map settled
  rest : SameRest s t
  routes : t.router.channels = resolveChannels serde s.storage

namespace Sample

def mapping (id : String) : ModelMapping := Router.Sample.mapping id "deepseek" "metered" Router.Sample.pricingText

def edits : List Op := [.delete "m1", .create (toValue (mapping "m2"))]

end Sample

theorem backup_restores {serde : Serde} (hserde : ReadsLists serde) {s : AdminState} (hintact : Intact s.storage)
    (hweight : ∀ m ∈ s.storage.mappings.rows, m.weight < 2 ^ 32) (edits : List Op) {ms : List ModelMapping}
    (hms : ms.Perm (listAllMappings s.storage)) (hsome : ms ≠ []) {ids : List String}
    (hids : ids.Perm (stale ms (after serde s edits))) :
    ∃ t, run (step serde) (after serde s edits) (ids.map .delete ++ ms.map fun m => .create (toValue m)) = some t ∧
      Restored serde s t := by
  have hedited := after_rest serde s edits
  have hperm : ms.Perm s.storage.mappings.rows := hms.trans (List.perm_insertionSort _ _)
  have hnodup : (ms.map (·.id)).Nodup := (hperm.map _).nodup_iff.mpr s.storage.mappings.nodup
  have hstale : ∀ id, id ∈ ids ↔ (row (after serde s edits) id).isSome ∧ id ∉ ms.map (·.id) := by
    intro id
    rw [hids.mem_iff, stale, List.mem_filter, decide_eq_true_eq]
    apply and_congr_left
    intro _
    rw [row, Option.isSome_iff_ne_none, ne_eq, Table.find?_eq_none]
    simp
  have hidsNodup : ids.Nodup :=
    hids.nodup_iff.mpr ((after serde s edits).storage.mappings.nodup.sublist List.filter_sublist)
  obtain ⟨u, hu, hrestU, hrowU⟩ := run_deletes serde hidsNodup fun id hid => ((hstale id).mp hid).1
  have hrest := hedited.trans hrestU
  have hchannel : ∀ m ∈ ms, u.storage.hasChannel m.channelId = true := by
    intro m hm
    rw [hrest.storage]
    exact hintact.channel m (hperm.mem_iff.mp hm)
  obtain ⟨t, ht, hrestT, hloaded, hnew, hold⟩ :=
    run_creates serde hnodup (fun m hm => hweight m (hperm.mem_iff.mp hm)) hchannel
  have hrows : ∀ id, row t id = (row s id).map settled := by
    intro id
    cases hid : row s id with
    | some m =>
      have hm := (Table.find?_eq_some _).mp hid
      rw [Option.map_some, ← hm.2]
      exact hnew m (hperm.mem_iff.mpr hm.1)
    | none =>
      have hnot : id ∉ ms.map (·.id) := by
        intro hmem
        obtain ⟨m, hm, hkey⟩ := List.mem_map.mp hmem
        exact (Table.find?_eq_none _).mp hid m (hperm.mem_iff.mp hm) hkey
      rw [Option.map_none, hold id hnot, hrowU]
      split_ifs with hgone
      · rfl
      · rw [hstale, not_and_not_right] at hgone
        cases hlater : row (after serde s edits) id with
        | none => rfl
        | some m => exact absurd (hgone (by rw [hlater]; rfl)) hnot
  refine ⟨t, run_append.mpr ⟨u, hu, ht⟩, hrows, hrest.trans hrestT, ?_⟩
  rw [hloaded hsome]
  exact resolveChannels_settled hserde (by rw [(hrest.trans hrestT).storage]) hrows

theorem backup_restores_deleted : ∃ t,
    run (step Router.Sample.serde) (after Router.Sample.serde Mappings.Sample.state Sample.edits)
      [.delete "m2", .create (toValue (Sample.mapping "m1"))] = some t ∧
    Restored Router.Sample.serde Mappings.Sample.state t := by
  have hserde : ReadsLists Router.Sample.serde := ⟨rfl, rfl⟩
  have hintact : Intact Mappings.Sample.state.storage := by
    refine ⟨⟨List.nodup_nil, List.nodup_nil⟩, fun m hm => absurd hm List.not_mem_nil, fun m hm => ?_, fun ch hch => ?_⟩
    · rw [List.mem_singleton.mp hm]
      rfl
    · rw [List.mem_singleton.mp hch]
      rfl
  have hweight : ∀ m ∈ Mappings.Sample.state.storage.mappings.rows, m.weight < 2 ^ 32 := by
    intro m hm
    rw [List.mem_singleton.mp hm]
    decide
  have hlisted : [Sample.mapping "m1"] = listAllMappings Mappings.Sample.state.storage := rfl
  have hstale : ["m2"] = stale [Sample.mapping "m1"] (after Router.Sample.serde Mappings.Sample.state Sample.edits) := by
    decide +kernel
  exact backup_restores hserde hintact hweight Sample.edits (.of_eq hlisted) (List.cons_ne_nil _ _) (.of_eq hstale)

end AgentProxy.Admin.Backup
