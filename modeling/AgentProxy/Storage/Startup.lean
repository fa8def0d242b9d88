import AgentProxy.Lib.Absorb
import AgentProxy.Lib.Run
import AgentProxy.Storage.AliasSequence
import AgentProxy.Storage.KeyRetention
import AgentProxy.Storage.SeedOrderFree

namespace AgentProxy.Storage.Startup

open Aliases KeyRetention SeedOps Absorb Transition

/-- A statement of a migration file; `create` is a `CREATE TABLE IF NOT EXISTS` or a `CREATE INDEX IF NOT
EXISTS`, the others are `INSERT OR IGNORE`. -/
inductive Statement where
  | create (object : String)
  | insertMetadata (rows : List (String × String))
  | insertAlias (name : String)

/-- The database file: the alias table is apart from the other tables that no channel operation uses. -/
structure Disk (ω : Type) where
  userVersion : ℤ
  objects : List String
  modelAliases : AliasTable
  store : Store ω

def objectsV1 : List String :=
  ["providers", "models", "idx_models_provider", "channels", "idx_channels_health", "model_mappings",
    "idx_mappings_channel", "cost_records", "idx_cost_records_channel", "idx_cost_records_project",
    "idx_cost_records_user", "idx_cost_records_time", "idx_cost_session", "cost_records_daily",
    "idx_cost_daily_date", "switch_logs", "idx_switch_logs_time", "auth_keys", "idx_auth_keys_role",
    "subscription_fees", "idx_sub_fees_channel_month", "seed_metadata"]

def objectsV2 : List String := ["model_aliases", "idx_model_aliases_alias_name", "idx_model_aliases_enabled"]

def schema : List String := objectsV1 ++ objectsV2

def pendingMetadata : List (String × String) := [("version", "0"), ("source", "pending")]

def migrationV1 : List Statement := objectsV1.map .create ++ [.insertMetadata pendingMetadata]

def seededNames : List String := seeded.map Prod.snd

def migrationV2 : List Statement := objectsV2.map .create ++ seededNames.map .insertAlias

def script (version : ℤ) : List Statement :=
  (if version < 1 then migrationV1 else []) ++ if version < 2 then migrationV2 else []

def insertMissing (metadata : String → Option String) (row : String × String) : String → Option String :=
  if (metadata row.1).isSome then metadata else Function.update metadata row.1 (some row.2)

namespace Disk

variable {ω : Type}

def new (rest : ω) : Disk ω := ⟨0, [], .empty, ⟨⟨.empty, fun _ => none⟩, rest⟩⟩

def withMetadata (d : Disk ω) (metadata : String → Option String) : Disk ω :=
  { d with store := { d.store with seeds := { d.store.seeds with metadata } } }

/-- `clock` gives the time at which each alias row is inserted. -/
def exec (clock : String → String) (d : Disk ω) : Statement → Disk ω
  | .create object => if object ∈ d.objects then d else { d with objects := d.objects ++ [object] }
  | .insertMetadata rows => d.withMetadata (rows.foldl insertMissing d.store.seeds.metadata)
  | .insertAlias name => { d with modelAliases := d.modelAliases.insertOrIgnore (clock name) name }

def migrate (clock : String → String) (d : Disk ω) : Disk ω :=
  { (script d.userVersion).foldl (exec clock) d with userVersion := 2 }

def interrupted (clock : String → String) (done : ℕ) (d : Disk ω) : Disk ω :=
  ((script d.userVersion).take done).foldl (exec clock) d

def localVersion (d : Disk ω) : UInt32 := d.store.seeds.localVersion

end Disk

structure Server (ω : Type) where
  disk : Disk ω
  running : Bool

/-- `main` goes on without seed data when `seed_init` fails. For a process that is killed while it seeds, `seeded`
is what the statements of `seed_init` that it executed, if there are any to execute, have done. -/
inductive Event (ω : Type) where
  | startup (clock : String → String) (o : Outside) (b : Embedded)
  | killedMigrating (clock : String → String) (done : ℕ)
  | killedSeeding (clock : String → String) (seeded : SeedStore → SeedStore)
  | onAliases (call : AliasCall)
  | onStore (op : Op ω)

namespace Server

variable {ω : Type}

def new (rest : ω) : Server ω := ⟨.new rest, false⟩

def withSeeds (d : Disk ω) (seeds : SeedStore) : Disk ω := { d with store := { d.store with seeds } }

def step (s : Server ω) : Event ω → Option (Server ω)
  | .startup clock o b =>
    let d := s.disk.migrate clock
    some ⟨withSeeds d (seedInit o b d.store.seeds).1, true⟩
  | .killedMigrating clock done => some ⟨s.disk.interrupted clock done, false⟩
  | .killedSeeding clock seeded =>
    let d := s.disk.migrate clock
    some ⟨if 0 < d.localVersion then d else withSeeds d (seeded d.store.seeds), false⟩
  | .onAliases call =>
    if s.running then some { s with disk := { s.disk with modelAliases := s.disk.modelAliases.call call } } else none
  | .onStore op =>
    if s.running then some { s with disk := { s.disk with store := s.disk.store.apply op } } else none

end Server

def Event.aliasCall {ω : Type} : Event ω → Option AliasCall
  | .onAliases call => some call
  | _ => none

def Event.storeOp {ω : Type} : Event ω → Option (Op ω)
  | .onStore op => some op
  | _ => none

/-- The rows without their keys and times, which depend on when the process was killed. -/
def anonymous (t : ModelAliases) : ModelAliases :=
  t.mapRows (fun r => { r with id := 0, createdAt := "", updatedAt := "" }) fun _ => rfl

theorem insertOrIgnore_anonymous (t : ModelAliases) (now : String) (id : ℤ) (name : String) :
    anonymous (insertOrIgnore now t (id, name)) = insertOrIgnore "" (anonymous t) (0, name) :=
  Table.upsert_mapRows fun _ => rfl

namespace Disk

variable {ω : Type}

def erase (d : Disk ω) : Disk ω := { d with modelAliases := ⟨anonymous d.modelAliases.aliases, 0⟩ }

def blank (d : Disk ω) : Statement → Disk ω
  | .insertAlias name =>
    { d with modelAliases := { d.modelAliases with aliases := insertOrIgnore "" d.modelAliases.aliases (0, name) } }
  | st => d.exec (fun _ => "") st

def Done (d : Disk ω) : Statement → Prop
  | .create object => object ∈ d.objects
  | .insertMetadata rows => ∀ row ∈ rows, (d.store.seeds.metadata row.1).isSome = true
  | .insertAlias name => (d.modelAliases.aliases.find? name).isSome = true

end Disk

section

variable {ω : Type} {d : Disk ω} {metadata : String → Option String}

theorem insertMissing_isSome {key : String} (row : String × String) (h : (metadata key).isSome = true) :
    (insertMissing metadata row key).isSome = true := by
  unfold insertMissing
  split_ifs with hrow
  · exact h
  · rw [Function.update_of_ne]
    · exact h
    · rintro rfl
      exact hrow h

theorem insertMissing_self (row : String × String) : (insertMissing metadata row row.1).isSome = true := by
  unfold insertMissing
  split_ifs with hrow
  · exact hrow
  · rw [Function.update_self]
    rfl

theorem insertMissing_other {key : String} {row : String × String} (h : key ≠ row.1) :
    insertMissing metadata row key = metadata key := by
  unfold insertMissing
  split_ifs
  · rfl
  · exact Function.update_of_ne h _ _

theorem insertMissing_new {row : String × String} (h : metadata row.1 = none) :
    insertMissing metadata row row.1 = some row.2 := by
  rw [insertMissing, h, if_neg (by decide), Function.update_self]

theorem insertMissing_keeps {key : String} {rows : List (String × String)} (h : (metadata key).isSome = true) :
    (rows.foldl insertMissing metadata key).isSome = true := by
  induction rows generalizing metadata with
  | nil => exact h
  | cons row rows ih => exact ih (insertMissing_isSome row h)

theorem insertMissing_all {rows : List (String × String)} :
    ∀ row ∈ rows, (rows.foldl insertMissing metadata row.1).isSome = true := by
  induction rows generalizing metadata with
  | nil =>
    intro row hrow
    cases hrow
  | cons first rows ih =>
    intro row hrow
    rcases List.mem_cons.mp hrow with rfl | hrow
    · rw [List.foldl_cons]
      exact insertMissing_keeps (insertMissing_self row)
    · exact ih row hrow

theorem insertMissing_fixed {rows : List (String × String)} (h : ∀ row ∈ rows, (metadata row.1).isSome = true) :
    rows.foldl insertMissing metadata = metadata := by
  induction rows with
  | nil => rfl
  | cons row rows ih =>
    obtain ⟨hrow, hrows⟩ := List.forall_mem_cons.mp h
    rw [List.foldl_cons, insertMissing, if_pos hrow]
    exact ih hrows

theorem done_blank (d : Disk ω) (st : Statement) : (d.blank st).Done st := by
  cases st with
  | create object =>
    simp only [Disk.blank, Disk.exec]
    split_ifs with hobject
    · exact hobject
    · exact List.mem_append_right _ (List.mem_singleton_self _)
  | insertMetadata rows => exact insertMissing_all
  | insertAlias name =>
    simp only [Disk.blank, Disk.Done, insertOrIgnore, Table.find?_upsert, if_true, Option.isSome_some]

theorem done_kept (d : Disk ω) (st other : Statement) (h : d.Done st) : (d.blank other).Done st := by
  cases other with
  | create object =>
    simp only [Disk.blank, Disk.exec]
    split_ifs
    · exact h
    · cases st with
      | create wanted => exact List.mem_append_left _ h
      | insertMetadata rows => exact h
      | insertAlias name => exact h
  | insertMetadata others =>
    cases st with
    | create wanted => exact h
    | insertMetadata rows => exact fun row hrow => insertMissing_keeps (h row hrow)
    | insertAlias name => exact h
  | insertAlias other =>
    cases st with
    | create wanted => exact h
    | insertMetadata rows => exact h
    | insertAlias name => exact Table.isSome_find?_upsert h

theorem blank_fixed (d : Disk ω) (st : Statement) (h : d.Done st) : d.blank st = d := by
  cases st with
  | create object => exact if_pos h
  | insertMetadata rows =>
    simp only [Disk.blank, Disk.exec, insertMissing_fixed h]
    rfl
  | insertAlias name =>
    obtain ⟨r, hr⟩ := Option.isSome_iff_exists.mp h
    have hsame : insertOrIgnore "" d.modelAliases.aliases (0, name) = d.modelAliases.aliases :=
      Table.upsert_eq_self_iff.mpr ⟨r, hr, rfl⟩
    simp only [Disk.blank, hsame]

theorem absorbing_blank (statements : List Statement) : Absorbing (Disk.blank (ω := ω)) statements :=
  absorbing_of_done done_blank done_kept blank_fixed statements

theorem erase_exec (clock : String → String) (d : Disk ω) (st : Statement) :
    (d.exec clock st).erase = d.erase.blank st := by
  cases st with
  | create object =>
    have hobjects : d.erase.objects = d.objects := rfl
    simp only [Disk.blank, Disk.exec, hobjects]
    split_ifs
    · rfl
    · rfl
  | insertMetadata rows => rfl
  | insertAlias name =>
    simp only [Disk.blank, Disk.exec, Disk.erase, AliasTable.insertOrIgnore, insertOrIgnore_anonymous]

theorem erase_foldl (clock : String → String) (d : Disk ω) (statements : List Statement) :
    (statements.foldl (Disk.exec clock) d).erase = statements.foldl Disk.blank d.erase := by
  induction statements generalizing d with
  | nil => rfl
  | cons st statements ih =>
    rw [List.foldl_cons, List.foldl_cons, ih, erase_exec]

end

structure Fresh {ω : Type} (rest : ω) (s : Server ω) : Prop where
  stopped : s.running = false
  version : s.disk.userVersion = 0
  executed : ∃ pre, pre <+: script 0 ∧ s.disk.erase = pre.foldl Disk.blank (Disk.new rest).erase
  numbered : s.disk.modelAliases.Numbered

/-- The alias table as the migration leaves it; the keys have gaps where a process was killed. -/
structure Installed (base : AliasTable) : Prop where
  names : base.aliases.rows.map ModelAlias.aliasName = seededNames
  untouched : ∀ r ∈ base.aliases.rows, r.targetModel = "" ∧ r.enabled = true
  numbered : base.Numbered

structure Migrated {ω : Type} (base : AliasTable) (calls : List AliasCall) (d : Disk ω) : Prop where
  version : d.userVersion = 2
  objects : d.objects = schema
  aliases : d.modelAliases = calls.foldl AliasTable.call base

def Inv {ω : Type} (rest : ω) (calls : List AliasCall) (s : Server ω) : Prop :=
  Fresh rest s ∧ calls = [] ∨ ∃ base, Installed base ∧ Migrated base calls s.disk

section

variable {ω : Type} {rest : ω} {s t : Server ω} {d : Disk ω} {base : AliasTable} {calls : List AliasCall}

theorem foldl_create (objects : List String) (d : Disk ω) (h : (d.objects ++ objects).Nodup) :
    (objects.map .create).foldl Disk.blank d = { d with objects := d.objects ++ objects } := by
  induction objects generalizing d with
  | nil => simp
  | cons object objects ih =>
    have hnew : object ∉ d.objects := by
      intro hmem
      exact (List.nodup_append.mp h).2.2 object hmem object List.mem_cons_self rfl
    rw [List.append_cons] at h ⊢
    have hcreate : d.blank (.create object) = { d with objects := d.objects ++ [object] } := if_neg hnew
    rw [List.map_cons, List.foldl_cons, hcreate]
    exact ih _ h

def nameless (name : String) : ModelAlias := ⟨0, name, "", true, "", ""⟩

theorem script_fresh : ((script 0).foldl Disk.blank (Disk.new rest).erase).objects = schema ∧
    ((script 0).foldl Disk.blank (Disk.new rest).erase).modelAliases.aliases.rows = seededNames.map nameless := by
  have hscript : script 0 = objectsV1.map .create ++ (.insertMetadata pendingMetadata ::
      (objectsV2.map .create ++ seededNames.map .insertAlias)) := rfl
  have hV1 : objectsV1.Nodup := by decide
  have hV2 : (objectsV1 ++ objectsV2).Nodup := by decide
  rw [hscript, List.foldl_append, foldl_create objectsV1 (Disk.new rest).erase hV1, List.foldl_cons, List.foldl_append,
    foldl_create objectsV2 _ hV2]
  exact ⟨rfl, rfl⟩

theorem foldl_userVersion (clock : String → String) (statements : List Statement) (d : Disk ω) :
    (statements.foldl (Disk.exec clock) d).userVersion = d.userVersion := by
  induction statements generalizing d with
  | nil => rfl
  | cons st statements ih =>
    rw [List.foldl_cons, ih]
    cases st with
    | create object =>
      simp only [Disk.exec]
      split_ifs
      · rfl
      · rfl
    | insertMetadata rows => rfl
    | insertAlias name => rfl

theorem foldl_numbered (clock : String → String) (statements : List Statement) (h : d.modelAliases.Numbered) :
    (statements.foldl (Disk.exec clock) d).modelAliases.Numbered := by
  induction statements generalizing d with
  | nil => exact h
  | cons st statements ih =>
    apply ih
    cases st with
    | create object =>
      simp only [Disk.exec]
      split_ifs
      · exact h
      · exact h
    | insertMetadata rows => exact h
    | insertAlias name => exact AliasTable.numbered_insertOrIgnore h _ _

theorem installed_of_erased (hrows : d.erase.modelAliases.aliases.rows = seededNames.map nameless)
    (h : d.modelAliases.Numbered) : Installed d.modelAliases where
  names := by
    have hnames := congrArg (List.map ModelAlias.aliasName) hrows
    simp only [Disk.erase, anonymous, Table.mapRows, List.map_map] at hnames
    exact hnames
  untouched := by
    intro r hr
    have hmem : { r with id := 0, createdAt := "", updatedAt := "" } ∈ d.erase.modelAliases.aliases.rows :=
      List.mem_map_of_mem hr
    rw [hrows] at hmem
    obtain ⟨name, -, hname⟩ := List.mem_map.mp hmem
    exact ⟨(congrArg ModelAlias.targetModel hname).symm, (congrArg ModelAlias.enabled hname).symm⟩
  numbered := h

theorem Fresh.migrate (h : Fresh rest s) (clock : String → String) :
    ∃ base, Installed base ∧ Migrated base [] (s.disk.migrate clock) := by
  obtain ⟨pre, hpre, hexec⟩ := h.executed
  have hall : ((script 0).foldl (Disk.exec clock) s.disk).erase = (script 0).foldl Disk.blank (Disk.new rest).erase := by
    rw [erase_foldl, hexec]
    exact (absorbing_blank (script 0)).foldl_twice hpre _
  obtain ⟨hobjects, hrows⟩ := @script_fresh _ rest
  rw [← hall] at hobjects hrows
  refine ⟨_, installed_of_erased hrows (foldl_numbered clock _ h.numbered), rfl, ?_, ?_⟩
  · rw [Disk.migrate, h.version]
    exact hobjects
  · rw [Disk.migrate, h.version]
    rfl

theorem Fresh.interrupted (h : Fresh rest s) (clock : String → String) (done : ℕ) :
    Fresh rest ⟨s.disk.interrupted clock done, false⟩ where
  stopped := rfl
  version := (foldl_userVersion clock _ s.disk).trans h.version
  executed := by
    obtain ⟨pre, hpre, hexec⟩ := h.executed
    obtain ⟨r, hr, hboth⟩ := (absorbing_blank (script 0)).foldl_initial hpre (List.take_prefix done (script 0))
      (Disk.new rest).erase
    refine ⟨r, hr, ?_⟩
    rw [Disk.interrupted, erase_foldl, hexec, h.version]
    exact hboth
  numbered := foldl_numbered clock _ h.numbered

theorem script_two : script 2 = [] := rfl

theorem Migrated.migrate (h : Migrated base calls d) (clock : String → String) : d.migrate clock = d := by
  rw [Disk.migrate, h.version, script_two, List.foldl_nil, ← h.version]

theorem Migrated.interrupted (h : Migrated base calls d) (clock : String → String) (done : ℕ) :
    d.interrupted clock done = d := by
  rw [Disk.interrupted, h.version, script_two, List.take_nil, List.foldl_nil]

theorem Migrated.withSeeds (h : Migrated base calls d) (seeds : SeedStore) :
    Migrated base calls (Server.withSeeds d seeds) :=
  ⟨h.version, h.objects, h.aliases⟩

theorem Migrated.step (h : Migrated base calls s.disk) {e : Event ω} (ht : s.step e = some t) :
    Migrated base (calls ++ e.aliasCall.toList) t.disk := by
  cases e with
  | startup clock o b =>
    cases ht
    simp only [Event.aliasCall, Option.toList_none, List.append_nil, h.migrate]
    exact h.withSeeds _
  | killedMigrating clock done =>
    cases ht
    simp only [Event.aliasCall, Option.toList_none, List.append_nil, h.interrupted]
    exact h
  | killedSeeding clock seeded =>
    cases ht
    simp only [Event.aliasCall, Option.toList_none, List.append_nil, h.migrate]
    split_ifs
    · exact h
    · exact h.withSeeds _
  | onAliases call =>
    simp only [Server.step] at ht
    split_ifs at ht with hrunning
    cases ht
    refine ⟨h.version, h.objects, ?_⟩
    simp only [Event.aliasCall, Option.toList_some, List.foldl_append, h.aliases]
    rfl
  | onStore op =>
    simp only [Server.step] at ht
    split_ifs at ht with hrunning
    cases ht
    simp only [Event.aliasCall, Option.toList_none, List.append_nil]
    exact ⟨h.version, h.objects, h.aliases⟩

theorem Fresh.step (h : Fresh rest s) {e : Event ω} (ht : s.step e = some t) :
    e.aliasCall = none ∧ (Fresh rest t ∨ ∃ base, Installed base ∧ Migrated base [] t.disk) := by
  cases e with
  | startup clock o b =>
    cases ht
    obtain ⟨base, hbase, hm⟩ := h.migrate clock
    exact ⟨rfl, .inr ⟨base, hbase, hm.withSeeds _⟩⟩
  | killedMigrating clock done =>
    cases ht
    exact ⟨rfl, .inl (h.interrupted clock done)⟩
  | killedSeeding clock seeded =>
    cases ht
    obtain ⟨base, hbase, hm⟩ := h.migrate clock
    refine ⟨rfl, .inr ⟨base, hbase, ?_⟩⟩
    dsimp only
    split_ifs
    · exact hm
    · exact hm.withSeeds _
  | onAliases call => simp [Server.step, h.stopped] at ht
  | onStore op => simp [Server.step, h.stopped] at ht

theorem step_inv {e : Event ω} (h : Inv rest calls s) (ht : s.step e = some t) :
    Inv rest (calls ++ e.aliasCall.toList) t := by
  rcases h with ⟨h, rfl⟩ | ⟨base, hbase, hm⟩
  · obtain ⟨hcall, hnext⟩ := h.step ht
    rw [hcall]
    rcases hnext with hfresh | hmigrated
    · exact .inl ⟨hfresh, rfl⟩
    · exact .inr hmigrated
  · exact .inr ⟨base, hbase, hm.step ht⟩

theorem toList_append_filterMap {α β : Type} (f : α → Option β) (a : α) (as : List α) :
    (f a).toList ++ as.filterMap f = (a :: as).filterMap f := by
  cases h : f a with
  | none => rw [Option.toList_none, List.nil_append, List.filterMap_cons_none h]
  | some b => rw [Option.toList_some, List.singleton_append, List.filterMap_cons_some h]

theorem run_inv {es : List (Event ω)} (h : Inv rest calls s) (ht : run Server.step s es = some t) :
    Inv rest (calls ++ es.filterMap Event.aliasCall) t := by
  induction es generalizing s calls with
  | nil =>
    cases ht
    rw [List.filterMap_nil, List.append_nil]
    exact h
  | cons e es ih =>
    obtain ⟨u, hu, ht⟩ := run_cons.mp ht
    have hnext := ih (step_inv h hu) ht
    rwa [List.append_assoc, toList_append_filterMap] at hnext

theorem new_inv (rest : ω) : Inv rest [] (Server.new rest) :=
  .inl ⟨⟨rfl, rfl, ⟨[], List.nil_prefix, rfl⟩, AliasTable.numbered_empty⟩, rfl⟩

def Unversioned (d : Disk ω) : Prop :=
  d.store.seeds.metadata "version" = none ∨ d.store.seeds.metadata "version" = some "0"

theorem Unversioned.localVersion (h : Unversioned d) : d.localVersion = 0 := by
  unfold Disk.localVersion SeedStore.localVersion
  rcases h with h | h
  · rw [h]
    rfl
  · rw [h]
    rfl

theorem Unversioned.blank (h : Unversioned d) {st : Statement} (hst : st ∈ script 0) : Unversioned (d.blank st) := by
  cases st with
  | create object =>
    simp only [Disk.blank, Disk.exec]
    split_ifs
    · exact h
    · exact h
  | insertMetadata rows =>
    have hrows : rows = pendingMetadata := by simpa [script, migrationV1, migrationV2] using hst
    subst hrows
    have hsecond : ("version" : String) ≠ "source" := by decide
    have hversion : pendingMetadata.foldl insertMissing d.store.seeds.metadata "version" =
        insertMissing d.store.seeds.metadata ("version", "0") "version" := insertMissing_other hsecond
    refine .inr (hversion.trans ?_)
    rcases h with h | h
    · exact insertMissing_new h
    · rw [insertMissing, h]
      exact h
  | insertAlias name => exact h

theorem Unversioned.foldl (h : Unversioned d) {statements : List Statement}
    (hstatements : ∀ st ∈ statements, st ∈ script 0) : Unversioned (statements.foldl Disk.blank d) := by
  induction statements generalizing d with
  | nil => exact h
  | cons st statements ih =>
    obtain ⟨hst, hrest⟩ := List.forall_mem_cons.mp hstatements
    exact ih (h.blank hst) hrest

theorem Fresh.unseeded (h : Fresh rest s) : s.disk.localVersion = 0 := by
  obtain ⟨pre, hpre, hexec⟩ := h.executed
  have hnew : Unversioned (Disk.new rest).erase := .inl rfl
  have hversion := (hnew.foldl fun st hst => hpre.subset hst).localVersion
  rw [← hexec] at hversion
  exact hversion

theorem Inv.migrated_of_seeded (h : Inv rest calls s) (hseeded : 0 < s.disk.localVersion) :
    ∃ base, Installed base ∧ Migrated base calls s.disk := by
  rcases h with ⟨h, -⟩ | h
  · rw [h.unseeded] at hseeded
    exact absurd hseeded (UInt32.lt_irrefl 0)
  · exact h

theorem write_seeded {store : Store ω} (h : 0 < store.seeds.localVersion) (result : Except StorageError Database) :
    0 < (store.write result).seeds.localVersion := by
  cases result with
  | error e => exact h
  | ok db => exact h

theorem seedRefresh_seeded {o : Outside} {base : String} {seeds : SeedStore} (h : 0 < seeds.localVersion)
    (fetched : Except StorageError SeedManifest) :
    0 < (SeedOps.seedRefresh o base seeds fetched).1.localVersion := by
  cases fetched with
  | error e => exact h
  | ok manifest =>
    by_cases hnew : manifest.version ≤ seeds.localVersion
    · simp only [SeedOps.seedRefresh, if_pos hnew]
      exact h
    · rw [seedRefresh_version hnew]
      split_ifs
      · exact UInt32.lt_trans h (UInt32.not_le.mp hnew)
      · exact h

theorem apply_seeded {store : Store ω} (h : 0 < store.seeds.localVersion) (op : Op ω) :
    0 < (store.apply op).seeds.localVersion := by
  cases op with
  | seedInit o b =>
    simp only [Store.apply, seedInit, if_pos h]
    exact h
  | seedRefresh o base fetched => exact seedRefresh_seeded h fetched
  | elsewhere f => exact h
  | upsertChannel ch now => exact write_seeded h _
  | updateChannel id u now => exact write_seeded h _
  | setChannelEnabled id enabled now => exact write_seeded h _
  | setChannelApiKey id key now => exact write_seeded h _
  | deleteChannel id => exact write_seeded h _
  | markChannelHealthy id now => exact write_seeded h _
  | recordChannelFailure id now cooldown => exact write_seeded h _
  | upsertMapping m => exact write_seeded h _
  | setMappingEnabled id enabled => exact write_seeded h _
  | deleteMapping id => exact write_seeded h _

theorem step_seeded {e : Event ω} (hm : Migrated base calls s.disk) (hseeded : 0 < s.disk.localVersion)
    (ht : s.step e = some t) : t.disk.store = s.disk.store.after e.storeOp.toList := by
  cases e with
  | startup clock o b =>
    cases ht
    have hsame : seedInit o b s.disk.store.seeds = (s.disk.store.seeds, .ok (buildStatus s.disk.store.seeds none)) :=
      if_pos hseeded
    simp only [Server.withSeeds, hm.migrate, hsame]
    rfl
  | killedMigrating clock done =>
    cases ht
    exact congrArg Disk.store (hm.interrupted clock done)
  | killedSeeding clock seeded =>
    cases ht
    simp only [hm.migrate, if_pos hseeded]
    rfl
  | onAliases op =>
    simp only [Server.step] at ht
    split_ifs at ht
    cases ht
    rfl
  | onStore op =>
    simp only [Server.step] at ht
    split_ifs at ht
    cases ht
    rfl

theorem run_seeded {fs : List (Event ω)} (hm : Migrated base calls s.disk) (hseeded : 0 < s.disk.localVersion)
    (ht : run Server.step s fs = some t) :
    Migrated base (calls ++ fs.filterMap Event.aliasCall) t.disk ∧
      t.disk.store = s.disk.store.after (fs.filterMap Event.storeOp) := by
  induction fs generalizing s calls with
  | nil =>
    cases ht
    rw [List.filterMap_nil, List.append_nil]
    exact ⟨hm, rfl⟩
  | cons e fs ih =>
    obtain ⟨u, hu, ht⟩ := run_cons.mp ht
    have hstore := step_seeded hm hseeded hu
    have hversion : 0 < u.disk.localVersion := by
      rw [Disk.localVersion, hstore]
      cases e.storeOp with
      | none => exact hseeded
      | some op => exact apply_seeded hseeded op
    obtain ⟨hlast, hstores⟩ := ih (hm.step hu) hversion ht
    rw [List.append_assoc, toList_append_filterMap] at hlast
    refine ⟨hlast, ?_⟩
    rw [hstores, hstore, Store.after, Store.after, ← List.foldl_append, toList_append_filterMap]
    rfl

theorem numbered_calls (h : base.Numbered) (calls : List AliasCall) : (calls.foldl AliasTable.call base).Numbered := by
  induction calls generalizing base with
  | nil => exact h
  | cons c calls ih => exact ih (AliasTable.numbered_call h c)

end

namespace Sample

def outside : Outside := { SeedOps.Sample.outside with channels := fun _ => .ok [], mappings := fun _ => .ok [] }

def embedded : Embedded := ⟨SeedOps.Sample.providersText, SeedOps.Sample.modelsText, "[]", "[]", .ok 1⟩

def clock (_ : String) : String := "2026-01-01 00:00:00"

def installed : List (Event Unit) := [.killedMigrating clock 27, .startup clock outside embedded]

def later : List (Event Unit) :=
  [.onAliases (.delete 1), .onStore (.upsertChannel (SeedOps.Sample.channel "sk") 1), .killedMigrating clock 3,
    .startup clock outside embedded]

end Sample

theorem restarts_invisible {ω : Type} (rest : ω) {es fs : List (Event ω)} {s t : Server ω}
    (hs : run Server.step (Server.new rest) es = some s) (hseeded : 0 < s.disk.localVersion)
    (ht : run Server.step s fs = some t) :
    t.disk.userVersion = 2 ∧ t.disk.objects = schema ∧ t.disk.modelAliases.Numbered ∧
    (∃ base, Installed base ∧ s.disk.modelAliases = (es.filterMap Event.aliasCall).foldl AliasTable.call base) ∧
    t.disk.modelAliases = (fs.filterMap Event.aliasCall).foldl AliasTable.call s.disk.modelAliases ∧
    t.disk.store = s.disk.store.after (fs.filterMap Event.storeOp) := by
  obtain ⟨base, hbase, hm⟩ := (run_inv (new_inv rest) hs).migrated_of_seeded hseeded
  have hfrom : Migrated s.disk.modelAliases [] s.disk := ⟨hm.version, hm.objects, rfl⟩
  obtain ⟨hlast, hstore⟩ := run_seeded hfrom hseeded ht
  have hnumbered : s.disk.modelAliases.Numbered := by
    rw [hm.aliases]
    exact numbered_calls hbase.numbered _
  refine ⟨hlast.version, hlast.objects, ?_, ⟨base, hbase, hm.aliases⟩, hlast.aliases, hstore⟩
  rw [hlast.aliases]
  exact numbered_calls hnumbered _

theorem restarts_invisible_deleted_alias : ∃ s t : Server Unit,
    run Server.step (Server.new ()) Sample.installed = some s ∧ run Server.step s Sample.later = some t ∧
    s.disk.modelAliases.ids = [1, 3, 4, 5, 6] ∧
    t.disk.modelAliases = s.disk.modelAliases.call (.delete 1) ∧
    t.disk.store = s.disk.store.apply (.upsertChannel (SeedOps.Sample.channel "sk") 1) := by
  have hversion : ((run Server.step (Server.new ()) Sample.installed).map fun s =>
      (s.disk.localVersion, s.disk.modelAliases.ids)) = some (1, [1, 3, 4, 5, 6]) := by
    decide +kernel
  have hgoes : (run Server.step (Server.new ()) (Sample.installed ++ Sample.later)).isSome = true := by
    decide +kernel
  obtain ⟨t, ht⟩ := Option.isSome_iff_exists.mp hgoes
  obtain ⟨s, hs, ht⟩ := run_append.mp ht
  rw [hs, Option.map_some, Option.some.injEq, Prod.mk.injEq] at hversion
  obtain ⟨-, -, -, -, haliases, hstore⟩ := restarts_invisible () hs (by rw [hversion.1]; decide) ht
  exact ⟨s, t, hs, ht, hversion.2, haliases, hstore⟩

end AgentProxy.Storage.Startup
