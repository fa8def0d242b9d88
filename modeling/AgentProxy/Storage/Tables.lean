import AgentProxy.Lib.Table
import Mathlib.Data.List.Sort
import Mathlib.Data.Rat.Defs
import Mathlib.Data.String.Basic
import Mathlib.Logic.Function.Basic
import Mathlib.Tactic.SplitIfs

namespace AgentProxy.Storage

inductive StorageError where
  | backend (msg : String)
  | notFound (msg : String)
  | duplicate (msg : String)
  | connection (msg : String)
  | migration (msg : String)
  deriving DecidableEq

def StorageError.toString : StorageError → String
  | backend msg => "backend error: " ++ msg
  | notFound msg => "not found: " ++ msg
  | duplicate msg => "duplicate: " ++ msg
  | connection msg => "connection error: " ++ msg
  | migration msg => "migration error: " ++ msg

structure Provider where
  id : String
  name : String
  createdAt : ℤ
  deriving DecidableEq

structure Model where
  id : String
  providerId : String
  clientName : String
  priceInput : ℚ
  priceOutput : ℚ
  currency : String
  contextWindow : ℤ
  createdAt : ℤ
  deriving DecidableEq

structure Channel where
  id : String
  name : String
  apiKey : String
  protocol : String
  protocols : String
  isBuiltin : Bool
  enabled : Bool
  createdAt : ℤ
  updatedAt : ℤ
  healthStatus : String
  cooldownUntil : Option String
  consecutiveFailures : ℕ
  billingType : String
  monthlyQuota : Option ℕ
  quotaPolicy : String
  priority : ℕ
  forceProtocol : Option String
  deriving DecidableEq

structure ModelMapping where
  id : String
  channelId : String
  clientName : String
  upstreamName : String
  billing : String
  pricingJson : String
  weight : ℕ
  enabled : Bool
  protocols : String
  deriving DecidableEq

structure Database where
  providers : Table Provider.id
  models : Table Model.id
  channels : Table Channel.id
  mappings : Table ModelMapping.id

namespace Database

def empty : Database := ⟨Table.empty, Table.empty, Table.empty, Table.empty⟩

def apiKey? (db : Database) (id : String) : Option String := (db.channels.find? id).map (·.apiKey)

def modifyChannel (db : Database) (id : String) (f : Channel → Channel) (hf : ∀ row, (f row).id = row.id) :
    Database :=
  { db with channels := db.channels.modify id f hf }

end Database

def rowToChannel (row : Channel) : Channel :=
  if row.apiKey.isEmpty then { row with healthStatus := "Unavailable" } else row

theorem rowToChannel_eq (row : Channel) : ∃ healthStatus, rowToChannel row = { row with healthStatus } := by
  unfold rowToChannel
  split_ifs
  · exact ⟨_, rfl⟩
  · exact ⟨_, rfl⟩

def byPriority (a b : Channel) : Prop := a.priority < b.priority ∨ (a.priority = b.priority ∧ a.id ≤ b.id)

instance : DecidableRel byPriority := fun _ _ => inferInstanceAs (Decidable (_ ∨ _))

def listChannels (db : Database) : List Channel :=
  (db.channels.rows.insertionSort byPriority).map rowToChannel

def getChannel (db : Database) (id : String) : Option Channel := (db.channels.find? id).map rowToChannel

def listMappings (db : Database) (channelId : String) : List ModelMapping :=
  (db.mappings.rows.filter fun m => m.channelId = channelId).insertionSort fun a b => a.id ≤ b.id

def byChannel (a b : ModelMapping) : Prop :=
  a.channelId < b.channelId ∨ (a.channelId = b.channelId ∧ a.clientName ≤ b.clientName)

instance : DecidableRel byChannel := fun _ _ => inferInstanceAs (Decidable (_ ∨ _))

def listAllMappings (db : Database) : List ModelMapping := db.mappings.rows.insertionSort byChannel

structure ChannelUpdate where
  name : Option String := none
  enabled : Option Bool := none
  priority : Option ℕ := none
  monthlyQuota : Option ℕ := none
  quotaPolicy : Option String := none
  protocols : Option String := none
  forceProtocol : Option String := none

def ChannelUpdate.apply (u : ChannelUpdate) (now : ℤ) (row : Channel) : Channel :=
  { row with
    updatedAt := now
    name := u.name.getD row.name
    enabled := u.enabled.getD row.enabled
    priority := u.priority.getD row.priority
    monthlyQuota := (u.monthlyQuota.map fun q => min q (2 ^ 63 - 1)).or row.monthlyQuota
    quotaPolicy := u.quotaPolicy.getD row.quotaPolicy
    protocols := u.protocols.getD row.protocols
    forceProtocol := u.forceProtocol.or row.forceProtocol }

def channelNotFound (id : String) : StorageError := .notFound ("channel not found: " ++ id)

def updateChannel (db : Database) (id : String) (u : ChannelUpdate) (now : ℤ) :
    Except StorageError Database :=
  match db.channels.find? id with
  | none => .error (channelNotFound id)
  | some _ => .ok (db.modifyChannel id (u.apply now) fun _ => rfl)

/-- A `u64` is bound as an `i64`; a larger value fails before the statement runs. -/
def quotaFits (quota : Option ℕ) : Bool := quota.all fun q => decide (q < 2 ^ 63)

def quotaOutOfRange : StorageError := .backend "out of range integral type conversion attempted"

def channelRow (ch : Channel) (now : ℤ) : Channel :=
  { ch with createdAt := now, updatedAt := now, cooldownUntil := none, consecutiveFailures := 0 }

def channelConflict (new : Channel) (now : ℤ) (old : Channel) : Channel :=
  { old with
    name := new.name, apiKey := if new.apiKey ≠ "" then new.apiKey else old.apiKey
    protocol := new.protocol, protocols := new.protocols, isBuiltin := new.isBuiltin, enabled := new.enabled
    updatedAt := now, healthStatus := new.healthStatus, billingType := new.billingType
    monthlyQuota := new.monthlyQuota, quotaPolicy := new.quotaPolicy, priority := new.priority
    forceProtocol := new.forceProtocol }

theorem channelConflict_id (new : Channel) (now : ℤ) (old : Channel) :
    (channelConflict new now old).id = old.id := rfl

def upsertChannel (db : Database) (ch : Channel) (now : ℤ) : Except StorageError Database :=
  if quotaFits ch.monthlyQuota then .ok { db with
    channels := db.channels.upsert (channelRow ch now) (channelConflict ch now) (channelConflict_id ch now) }
  else .error quotaOutOfRange

def setChannelEnabled (db : Database) (id : String) (enabled : Bool) (now : ℤ) :
    Except StorageError Database :=
  match db.channels.find? id with
  | none => .error (channelNotFound id)
  | some _ => .ok (db.modifyChannel id (fun row => { row with enabled, updatedAt := now }) fun _ => rfl)

def setChannelApiKey (db : Database) (id key : String) (now : ℤ) : Except StorageError Database :=
  match db.channels.find? id with
  | none => .error (channelNotFound id)
  | some _ => .ok (db.modifyChannel id (fun row => { row with apiKey := key, updatedAt := now }) fun _ => rfl)

def markChannelHealthy (db : Database) (id : String) (now : ℤ) : Except StorageError Database :=
  match db.channels.find? id with
  | none => .error (channelNotFound id)
  | some _ => .ok (db.modifyChannel id (fun row => { row with
      healthStatus := "Healthy", cooldownUntil := none, consecutiveFailures := 0, updatedAt := now }) fun _ => rfl)

def failureStatus (failures : ℕ) : String :=
  if 3 ≤ failures then "Cooldown" else if 1 ≤ failures then "Degraded" else "Healthy"

/-- The counter is raised first; it is read back as an `i32`, and then the status is written. `cooldown`
is the instant in five minutes. -/
def recordChannelFailure (db : Database) (id : String) (now : ℤ) (cooldown : String) :
    Database × Except StorageError Unit :=
  match db.channels.find? id with
  | none => (db, .error (.backend "Query returned no rows"))
  | some row =>
    let failures := row.consecutiveFailures + 1
    let counted := db.modifyChannel id (fun row => { row with
      consecutiveFailures := failures, updatedAt := now }) fun _ => rfl
    if 2 ^ 31 ≤ failures then (counted, .error (.backend s!"Integer {failures} out of range at index 0"))
    else
      (counted.modifyChannel id (fun row => { row with
        healthStatus := failureStatus failures
        cooldownUntil := if 3 ≤ failures then some cooldown else none }) fun _ => rfl, .ok ())

def deleteChannel (db : Database) (id : String) : Except StorageError Database :=
  match db.channels.find? id with
  | none => .error (channelNotFound id)
  | some _ => .ok { db with
      channels := db.channels.filterOut fun row => row.id = id
      mappings := db.mappings.filterOut fun m => m.channelId = id }

def mappingConflict (new old : ModelMapping) : ModelMapping :=
  { old with
    channelId := new.channelId, clientName := new.clientName, upstreamName := new.upstreamName
    billing := new.billing, pricingJson := new.pricingJson, weight := new.weight
    enabled := new.enabled, protocols := new.protocols }

theorem mappingConflict_id (new old : ModelMapping) : (mappingConflict new old).id = old.id := rfl

theorem find?_upsert_mapping (t : Table ModelMapping.id) (m : ModelMapping) (id : String) :
    (t.upsert m (mappingConflict m) (mappingConflict_id m)).find? id = if id = m.id then some m else t.find? id := by
  rw [Table.find?_upsert]
  split_ifs with hid
  · subst hid
    cases hold : t.find? m.id with
    | none => rfl
    | some old =>
      have hkey : old.id = m.id := ((Table.find?_eq_some _).mp hold).2
      rw [Option.elim_some, mappingConflict, hkey]
  · rfl

def upsertMapping (db : Database) (m : ModelMapping) : Except StorageError Database :=
  match db.channels.find? m.channelId with
  | none => .error (channelNotFound m.channelId)
  | some _ => .ok { db with mappings := db.mappings.upsert m (mappingConflict m) (mappingConflict_id m) }

def mappingNotFound (id : String) : StorageError := .notFound ("mapping not found: " ++ id)

def setMappingEnabled (db : Database) (id : String) (enabled : Bool) : Except StorageError Database :=
  match db.mappings.find? id with
  | none => .error (mappingNotFound id)
  | some _ => .ok { db with
      mappings := db.mappings.modify id (fun m => { m with enabled }) fun _ => rfl }

def deleteMapping (db : Database) (id : String) : Except StorageError Database :=
  match db.mappings.find? id with
  | none => .error (mappingNotFound id)
  | some _ => .ok { db with mappings := db.mappings.filterOut fun m => m.id = id }

section

variable {db db' : Database}

theorem apiKey?_modifyChannel (id : String) (f : Channel → Channel) (hf : ∀ row, (f row).id = row.id)
    (hkey : ∀ row, (f row).apiKey = row.apiKey) : (db.modifyChannel id f hf).apiKey? = db.apiKey? := by
  funext c
  simp only [Database.apiKey?, Database.modifyChannel, Table.find?_modify, Option.map_map]
  congr 1
  funext row
  simp only [Function.comp_apply]
  split_ifs
  · exact hkey row
  · rfl

theorem updateChannel_apiKey {id : String} {u : ChannelUpdate} {now : ℤ}
    (h : updateChannel db id u now = .ok db') : db'.apiKey? = db.apiKey? := by
  unfold updateChannel at h
  split at h
  · cases h
  · cases h
    exact apiKey?_modifyChannel id _ _ fun _ => rfl

theorem upsertChannel_apiKey {ch : Channel} {now : ℤ} (h : upsertChannel db ch now = .ok db') {id key : String}
    (hkey : db.apiKey? id = some key) :
    db'.apiKey? id = some (if id = ch.id ∧ ch.apiKey ≠ "" then ch.apiKey else key) := by
  unfold upsertChannel at h
  split_ifs at h
  cases h
  obtain ⟨row, hrow, hk⟩ := Option.map_eq_some_iff.mp hkey
  refine (congrArg (Option.map Channel.apiKey) (Table.find?_upsert_of_some hrow)).trans ?_
  rw [Option.map_some, Option.some.injEq]
  by_cases hid : id = ch.id
  · by_cases hne : ch.apiKey = ""
    · simp [channelRow, channelConflict, hid, hne, hk]
    · simp [channelRow, channelConflict, hid, hne]
  · simp [channelRow, hid, hk]

theorem setChannelEnabled_apiKey {id : String} {enabled : Bool} {now : ℤ}
    (h : setChannelEnabled db id enabled now = .ok db') : db'.apiKey? = db.apiKey? := by
  unfold setChannelEnabled at h
  split at h
  · cases h
  · cases h
    exact apiKey?_modifyChannel id _ _ fun _ => rfl

theorem setChannelApiKey_apiKey {id key : String} {now : ℤ} (h : setChannelApiKey db id key now = .ok db') :
    db'.apiKey? = Function.update db.apiKey? id (some key) := by
  unfold setChannelApiKey at h
  split at h
  · cases h
  · rename_i row hrow
    cases h
    funext c
    simp only [Database.apiKey?, Database.modifyChannel, Table.find?_modify, Option.map_map]
    by_cases hc : c = id
    · subst hc
      simp [hrow]
    · rw [Function.update_of_ne hc]
      congr 1
      funext row
      simp [hc]

theorem markChannelHealthy_apiKey {id : String} {now : ℤ} (h : markChannelHealthy db id now = .ok db') :
    db'.apiKey? = db.apiKey? := by
  unfold markChannelHealthy at h
  split at h
  · cases h
  · cases h
    exact apiKey?_modifyChannel id _ _ fun _ => rfl

theorem recordChannelFailure_apiKey (id : String) (now : ℤ) (cooldown : String) :
    (recordChannelFailure db id now cooldown).1.apiKey? = db.apiKey? := by
  unfold recordChannelFailure
  split
  · rfl
  · dsimp only
    split
    · exact apiKey?_modifyChannel id _ _ fun _ => rfl
    · refine (apiKey?_modifyChannel id _ _ ?_).trans (apiKey?_modifyChannel id _ _ ?_)
      all_goals exact fun _ => rfl

theorem deleteChannel_apiKey {id : String} (h : deleteChannel db id = .ok db') :
    db'.apiKey? = Function.update db.apiKey? id none := by
  unfold deleteChannel at h
  split at h
  · cases h
  · cases h
    funext c
    simp only [Database.apiKey?, Table.find?_filterOut_key]
    by_cases hc : c = id
    · simp [hc]
    · rw [if_neg hc, Function.update_of_ne hc]
      rfl

theorem upsertMapping_apiKey {m : ModelMapping} (h : upsertMapping db m = .ok db') : db'.apiKey? = db.apiKey? := by
  unfold upsertMapping at h
  split at h
  · cases h
  · cases h
    rfl

theorem setMappingEnabled_apiKey {id : String} {enabled : Bool} (h : setMappingEnabled db id enabled = .ok db') :
    db'.apiKey? = db.apiKey? := by
  unfold setMappingEnabled at h
  split at h
  · cases h
  · cases h
    rfl

theorem deleteMapping_apiKey {id : String} (h : deleteMapping db id = .ok db') : db'.apiKey? = db.apiKey? := by
  unfold deleteMapping at h
  split at h
  · cases h
  · cases h
    rfl

end

end AgentProxy.Storage
