import AgentProxy.Storage.Tables

namespace AgentProxy.Storage

structure SeedChannel where
  id : String
  name : String
  apiKey : String := ""
  protocol : String
  protocols : String := "[]"
  isBuiltin : Bool := false
  enabled : Bool := true
  billingType : String := "metered"
  monthlyQuota : Option ℕ := none
  quotaPolicy : String := "fallback"
  priority : ℕ := 0

inductive SeedRow where
  | provider (p : Provider)
  | model (m : Model)
  | channel (ch : SeedChannel)
  | mapping (m : ModelMapping)

def SeedChannel.row (ch : SeedChannel) (now : ℤ) : Channel where
  id := ch.id
  name := ch.name
  apiKey := ch.apiKey
  protocol := ch.protocol
  protocols := ch.protocols
  isBuiltin := ch.isBuiltin
  enabled := ch.enabled
  createdAt := now
  updatedAt := now
  healthStatus := "Healthy"
  cooldownUntil := none
  consecutiveFailures := 0
  billingType := ch.billingType
  monthlyQuota := ch.monthlyQuota
  quotaPolicy := ch.quotaPolicy
  priority := ch.priority
  forceProtocol := none

def SeedChannel.onConflict (ch : SeedChannel) (now : ℤ) (old : Channel) : Channel :=
  { old with
    name := ch.name, protocol := ch.protocol, protocols := ch.protocols, isBuiltin := ch.isBuiltin
    updatedAt := now, billingType := ch.billingType, monthlyQuota := ch.monthlyQuota
    quotaPolicy := ch.quotaPolicy, priority := ch.priority }

def foreignKeyFailed : StorageError := .backend "FOREIGN KEY constraint failed"

/-- `INSERT OR IGNORE` skips a row whose primary key or unique column is taken; foreign keys are
enforced. -/
def seedRow (db : Database) (now : ℤ) : SeedRow → Except StorageError Database
  | .provider p =>
    if db.providers.rows.any fun q => q.name = p.name then .ok db
    else .ok { db with
      providers := db.providers.upsert { p with createdAt := max p.createdAt now } id (fun _ => rfl) }
  | .model m =>
    if db.models.rows.any fun n => n.id = m.id ∨ n.clientName = m.clientName then .ok db
    else if (db.providers.find? m.providerId).isNone then .error foreignKeyFailed
    else .ok { db with
      models := db.models.upsert { m with createdAt := max m.createdAt now } id (fun _ => rfl) }
  | .channel ch =>
    if quotaFits ch.monthlyQuota then .ok { db with
      channels := db.channels.upsert (ch.row now) (ch.onConflict now) (fun _ => rfl) }
    else .error quotaOutOfRange
  | .mapping m =>
    if (db.channels.find? m.channelId).isNone then
      .error (.backend ("channel not found for mapping " ++ m.id ++ ": FOREIGN KEY constraint failed"))
    else .ok { db with mappings := db.mappings.upsert m (mappingConflict m) (mappingConflict_id m) }

/-- An entry stops at its first failing row and keeps the rows before it. -/
def upsertEntry (db : Database) (now : ℤ) : List SeedRow → Database × Except StorageError Unit
  | [] => (db, .ok ())
  | row :: rest =>
    match seedRow db now row with
    | .ok db' => upsertEntry db' now rest
    | .error e => (db, .error e)

def seedRefresh (db : Database) (now : ℤ) (entries : List (List SeedRow)) : Database :=
  entries.foldl (fun db rows => (upsertEntry db now rows).1) db

theorem seedRow_cases {db db' : Database} {now : ℤ} {row : SeedRow} (h : seedRow db now row = .ok db') :
    ((∃ p, row = .provider p) ∨ ∃ m, row = .model m) ∧ db'.channels = db.channels ∧ db'.mappings = db.mappings ∨
    (∃ ch, row = .channel ch ∧ db' = { db with
      channels := db.channels.upsert (ch.row now) (ch.onConflict now) (fun _ => rfl) }) ∨
    ∃ m, row = .mapping m ∧ db' = { db with
      mappings := db.mappings.upsert m (mappingConflict m) (mappingConflict_id m) } := by
  cases row with
  | provider p =>
    simp only [seedRow] at h
    refine .inl ⟨.inl ⟨p, rfl⟩, ?_⟩
    split_ifs at h
    all_goals
      cases h
      exact ⟨rfl, rfl⟩
  | model m =>
    simp only [seedRow] at h
    refine .inl ⟨.inr ⟨m, rfl⟩, ?_⟩
    split_ifs at h
    all_goals
      cases h
      exact ⟨rfl, rfl⟩
  | channel ch =>
    simp only [seedRow] at h
    split_ifs at h
    exact .inr (.inl ⟨ch, rfl, (Except.ok.inj h).symm⟩)
  | mapping m =>
    simp only [seedRow] at h
    split_ifs at h
    exact .inr (.inr ⟨m, rfl, (Except.ok.inj h).symm⟩)

section

variable {α : Type} {column : Channel → α}

theorem seedRow_column (hcolumn : ∀ (ch : SeedChannel) now old, column (ch.onConflict now old) = column old)
    {db db' : Database} {now : ℤ} {row : SeedRow} (h : seedRow db now row = .ok db') {id : String} {value : α}
    (hvalue : (db.channels.find? id).map column = some value) :
    (db'.channels.find? id).map column = some value := by
  obtain ⟨-, hchannels, -⟩ | ⟨ch, rfl, rfl⟩ | ⟨m, rfl, rfl⟩ := seedRow_cases h
  · rw [hchannels]
    exact hvalue
  · obtain ⟨r, hr, hv⟩ := Option.map_eq_some_iff.mp hvalue
    refine (congrArg (Option.map column) (Table.find?_upsert_of_some hr)).trans ?_
    rw [Option.map_some, Option.some.injEq]
    split_ifs
    · exact (hcolumn ch now r).trans hv
    · exact hv
  · exact hvalue

theorem upsertEntry_column (hcolumn : ∀ (ch : SeedChannel) now old, column (ch.onConflict now old) = column old)
    (now : ℤ) (rows : List SeedRow) {db : Database} {id : String} {value : α}
    (hvalue : (db.channels.find? id).map column = some value) :
    ((upsertEntry db now rows).1.channels.find? id).map column = some value := by
  induction rows generalizing db with
  | nil => exact hvalue
  | cons row rows ih =>
    simp only [upsertEntry]
    split
    · rename_i db' hrow
      exact ih (seedRow_column hcolumn hrow hvalue)
    · exact hvalue

end

theorem seedRefresh_apiKey (now : ℤ) (entries : List (List SeedRow)) {db : Database} {id key : String}
    (hkey : db.apiKey? id = some key) : (seedRefresh db now entries).apiKey? id = some key := by
  induction entries generalizing db with
  | nil => exact hkey
  | cons rows entries ih => exact ih (upsertEntry_column (fun _ _ _ => rfl) now rows hkey)

end AgentProxy.Storage
