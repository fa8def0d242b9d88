import AgentProxy.Storage.SeedBodies

namespace AgentProxy.Storage.SeedOps

section

variable (o : Outside) (base : String)

def executed (db : Database) (now : ℤ) : List SeedRow → List SeedRow
  | [] => []
  | row :: rest =>
    match seedRow db now row with
    | .ok db => row :: executed db now rest
    | .error _ => []

def executedBodies (db : Database) : List Body → List SeedRow
  | [] => []
  | b :: bs =>
    (match b.2 with
      | .ok rows => executed db (o.clock b.1) rows
      | .error _ => []) ++ executedBodies (applyBody o db b).1 bs

def executedRefresh (s : SeedStore) : Except StorageError SeedManifest → List SeedRow
  | .error _ => []
  | .ok manifest =>
    if manifest.version ≤ s.localVersion then []
    else executedBodies o s.db (pending o base s.metadata manifest.entries.rows)

end

inductive Executes : Database → List SeedRow → Database → Prop
  | nil (db : Database) : Executes db [] db
  | cons {db : Database} {now : ℤ} {row : SeedRow} {db' : Database} {rows : List SeedRow} {db'' : Database}
    (hrow : seedRow db now row = .ok db') (hrest : Executes db' rows db'') : Executes db (row :: rows) db''

def written (id : String) : SeedRow → Option ModelMapping
  | .mapping m => if m.id = id then some m else none
  | _ => none

def lastWritten (id : String) (rows : List SeedRow) : Option ModelMapping := (rows.filterMap (written id)).getLast?

def SwitchesKept (db db' : Database) : Prop :=
  (∀ ch ∈ db.channels.rows, ch.enabled = false →
    ∃ ch' ∈ db'.channels.rows, ch'.id = ch.id ∧ ch'.enabled = false) ∧
  ∀ m ∈ db.mappings.rows, m.enabled = false →
    ∃ m' ∈ db'.mappings.rows, m'.id = m.id ∧ m'.enabled = false

section

variable {o : Outside} {base : String} {db db' : Database} {now : ℤ} {id : String}

theorem last_cons {α : Type} (f : SeedRow → Option α) (row : SeedRow) (rows : List SeedRow) :
    ((row :: rows).filterMap f).getLast? = ((rows.filterMap f).getLast?).or (f row) := by
  rw [← List.singleton_append, List.filterMap_append, List.getLast?_append]
  congr 1
  cases h : f row with
  | none => rw [List.filterMap_cons_none h]; rfl
  | some a => rw [List.filterMap_cons_some h]; rfl

theorem lastWritten_cons (row : SeedRow) (rows : List SeedRow) :
    lastWritten id (row :: rows) = (lastWritten id rows).or (written id row) := last_cons (written id) row rows

theorem seedRow_mapping {row : SeedRow} {old : ModelMapping} (h : seedRow db now row = .ok db')
    (hold : db.mappings.find? id = some old) : db'.mappings.find? id = some ((written id row).getD old) := by
  obtain ⟨⟨p, rfl⟩ | ⟨m, rfl⟩, -, hmappings⟩ | ⟨ch, rfl, rfl⟩ | ⟨m, rfl, rfl⟩ := seedRow_cases h
  · rw [hmappings]
    exact hold
  · rw [hmappings]
    exact hold
  · exact hold
  · refine (find?_upsert_mapping _ m id).trans ?_
    by_cases hid : id = m.id
    · rw [if_pos hid, written, if_pos hid.symm, Option.getD_some]
    · rw [if_neg hid, written, if_neg (Ne.symm hid), Option.getD_none, hold]

theorem Executes.append {rows more : List SeedRow} {db'' : Database} (h : Executes db rows db')
    (hmore : Executes db' more db'') : Executes db (rows ++ more) db'' := by
  induction h with
  | nil db => exact hmore
  | cons hrow _ ih => exact .cons hrow (ih hmore)

theorem upsertEntry_executes (rows : List SeedRow) : Executes db (executed db now rows) (upsertEntry db now rows).1 := by
  induction rows generalizing db with
  | nil => exact .nil db
  | cons row rows ih =>
    simp only [upsertEntry, executed]
    cases hrow : seedRow db now row with
    | error e => exact .nil db
    | ok next => exact .cons hrow ih

theorem applyBodies_executes (db : Database) (bs : List Body) :
    Executes db (executedBodies o db bs) (applyBodies o db bs).1 := by
  induction bs generalizing db with
  | nil => exact .nil db
  | cons b bs ih =>
    refine Executes.append ?_ (ih _)
    unfold applyBody
    cases b.2 with
    | error e => exact .nil db
    | ok rows =>
      have h := @upsertEntry_executes db (o.clock b.1) rows
      dsimp only
      split
      all_goals
        rename_i hentry
        rwa [hentry] at h

theorem seedRefresh_executes (s : SeedStore) (fetched : Except StorageError SeedManifest) :
    Executes s.db (executedRefresh o base s fetched) (SeedOps.seedRefresh o base s fetched).1.db := by
  rw [seedRefresh_db]
  cases fetched with
  | error e => exact .nil _
  | ok manifest =>
    simp only [executedRefresh]
    split_ifs
    · exact .nil _
    · exact applyBodies_executes _ _

theorem Executes.mapping {rows : List SeedRow} (h : Executes db rows db') {old : ModelMapping}
    (hold : db.mappings.find? id = some old) : db'.mappings.find? id = some ((lastWritten id rows).getD old) := by
  induction h generalizing old with
  | nil db => exact hold
  | @cons db now row db' rows db'' hrow _ ih =>
    rw [ih (seedRow_mapping hrow hold), lastWritten_cons]
    cases lastWritten id rows with
    | none => rfl
    | some m => rfl

theorem channel_switch_kept {s : SeedStore} (fetched : Except StorageError SeedManifest) {ch : Channel}
    (hch : ch ∈ s.db.channels.rows) (hoff : ch.enabled = false) :
    ∃ ch' ∈ (SeedOps.seedRefresh o base s fetched).1.db.channels.rows, ch'.id = ch.id ∧ ch'.enabled = false := by
  have hvalue : (s.db.channels.find? ch.id).map Channel.enabled = some false := by
    rw [(Table.find?_eq_some _).mpr ⟨hch, rfl⟩, Option.map_some, hoff]
  have hkept := @seedRefresh_column o base Bool Channel.enabled (fun _ _ _ => rfl) s fetched ch.id false hvalue
  obtain ⟨ch', hfind, hoff'⟩ := Option.map_eq_some_iff.mp hkept
  obtain ⟨hmem, hid⟩ := (Table.find?_eq_some _).mp hfind
  exact ⟨ch', hmem, hid, hoff'⟩

theorem mapping_switch_kept_iff {s : SeedStore} (fetched : Except StorageError SeedManifest) {m : ModelMapping}
    (hm : m ∈ s.db.mappings.rows) (hoff : m.enabled = false) :
    (∃ m' ∈ (SeedOps.seedRefresh o base s fetched).1.db.mappings.rows, m'.id = m.id ∧ m'.enabled = false) ↔
      ∀ row, lastWritten m.id (executedRefresh o base s fetched) = some row → row.enabled = false := by
  have hfind := (@seedRefresh_executes o base s fetched).mapping ((Table.find?_eq_some _).mpr ⟨hm, rfl⟩)
  constructor
  · rintro ⟨m', hm', hid, hoff'⟩ row hrow
    rw [hrow, Option.getD_some, (Table.find?_eq_some _).mpr ⟨hm', hid⟩, Option.some.injEq] at hfind
    rw [← hfind]
    exact hoff'
  · intro h
    obtain ⟨hmem, hid⟩ := (Table.find?_eq_some _).mp hfind
    refine ⟨_, hmem, hid, ?_⟩
    cases hlast : lastWritten m.id (executedRefresh o base s fetched) with
    | none => exact hoff
    | some row => exact h row hlast

end

/-- For every disabled mapping, the last row the refresh executes for it is disabled too, or there is none. -/
def RowsRespectSwitches (o : Outside) (base : String) (s : SeedStore) (fetched : Except StorageError SeedManifest) :
    Prop :=
  ∀ m ∈ s.db.mappings.rows, m.enabled = false →
    ∀ row, lastWritten m.id (executedRefresh o base s fetched) = some row → row.enabled = false

theorem switchesKept_iff (o : Outside) (base : String) (s : SeedStore)
    (fetched : Except StorageError SeedManifest) :
    SwitchesKept s.db (SeedOps.seedRefresh o base s fetched).1.db ↔ RowsRespectSwitches o base s fetched := by
  constructor
  · intro h m hm hoff
    exact (mapping_switch_kept_iff fetched hm hoff).mp (h.2 m hm hoff)
  · intro h
    refine ⟨fun ch hch hoff => channel_switch_kept fetched hch hoff, fun m hm hoff => ?_⟩
    exact (mapping_switch_kept_iff fetched hm hoff).mpr (h m hm hoff)

namespace Sample

def switchedOff : SeedStore where
  db := { Database.empty with
    channels := .single (channel "sk")
    mappings := .single (mapping false) }
  metadata := metadata

def mappingsOnly : SeedManifest := ⟨2, .single mappingsEntry⟩

end Sample

theorem refresh_switches_mapping_on :
    ¬ SwitchesKept Sample.switchedOff.db
      (SeedOps.seedRefresh Sample.outside Sample.base Sample.switchedOff (.ok Sample.mappingsOnly)).1.db := by
  intro h
  obtain ⟨m, hm, -, hoff⟩ := h.2 (Sample.mapping false) List.mem_cons_self rfl
  have hrows : (SeedOps.seedRefresh Sample.outside Sample.base Sample.switchedOff
      (.ok Sample.mappingsOnly)).1.db.mappings.rows = [Sample.mapping true] := by decide +kernel
  rw [hrows, List.mem_singleton] at hm
  rw [hm] at hoff
  cases hoff

end AgentProxy.Storage.SeedOps
