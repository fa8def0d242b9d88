import AgentProxy.Lib.Statements
import AgentProxy.Storage.Seed

namespace AgentProxy.Storage

def Provider.stamped (p : Provider) (now : ℤ) : Provider := { p with createdAt := max p.createdAt now }

def Model.stamped (m : Model) (now : ℤ) : Model := { m with createdAt := max m.createdAt now }

def Database.hasProvider (db : Database) (id : String) : Bool := (db.providers.find? id).isSome

def Database.hasChannel (db : Database) (id : String) : Bool := (db.channels.find? id).isSome

abbrev Tables.Providers := Table Provider.id

abbrev Tables.Models := Table Model.id

abbrev Tables.Channels := Table Channel.id

abbrev Tables.Mappings := Table ModelMapping.id

open Tables

def putProvider (now : ℤ) (t : Providers) (p : Provider) : Providers :=
  t.insertOrIgnore Provider.name (p.stamped now)

def putModel (now : ℤ) (t : Models) (m : Model) : Models := t.insertOrIgnore Model.clientName (m.stamped now)

theorem SeedChannel.onConflict_id (ch : SeedChannel) (now : ℤ) (old : Channel) :
    (ch.onConflict now old).id = old.id := rfl

def putChannel (now : ℤ) (t : Channels) (ch : SeedChannel) : Channels :=
  t.upsert (ch.row now) (ch.onConflict now) (ch.onConflict_id now)

def putMapping (t : Mappings) (m : ModelMapping) : Mappings := t.upsert m (mappingConflict m) (mappingConflict_id m)

def noChannel (m : ModelMapping) : StorageError :=
  .backend ("channel not found for mapping " ++ m.id ++ ": FOREIGN KEY constraint failed")

/-- The statements of `upsert_entry` that can fail, each on its own table; `known` says which referenced rows
exist. -/
def modelStep (known : String → Bool) (now : ℤ) (t : Models) (m : Model) : Except StorageError Models :=
  if t.Clash Model.clientName m ∨ known m.providerId then .ok (putModel now t m) else .error foreignKeyFailed

def channelStep (now : ℤ) (t : Channels) (ch : SeedChannel) : Except StorageError Channels :=
  if quotaFits ch.monthlyQuota then .ok (putChannel now t ch) else .error quotaOutOfRange

def mappingStep (known : String → Bool) (t : Mappings) (m : ModelMapping) : Except StorageError Mappings :=
  if known m.channelId then .ok (putMapping t m) else .error (noChannel m)

section

variable {known : String → Bool} {now : ℤ}

theorem modelStep_ok {t u : Models} {m : Model} (h : modelStep known now t m = .ok u) :
    (t.Clash Model.clientName m ∨ known m.providerId = true) ∧ u = putModel now t m := by
  unfold modelStep at h
  split_ifs at h with hrow
  exact ⟨hrow, (Except.ok.inj h).symm⟩

theorem modelStep_error {t : Models} {m : Model} {e : StorageError} (h : modelStep known now t m = .error e) :
    ¬ t.Clash Model.clientName m ∧ known m.providerId = false ∧ e = foreignKeyFailed := by
  unfold modelStep at h
  split_ifs at h with hrow
  rw [not_or, Bool.not_eq_true] at hrow
  exact ⟨hrow.1, hrow.2, (Except.error.inj h).symm⟩

theorem channelStep_ok {t u : Channels} {ch : SeedChannel} (h : channelStep now t ch = .ok u) :
    quotaFits ch.monthlyQuota = true ∧ u = putChannel now t ch := by
  unfold channelStep at h
  split_ifs at h with hquota
  exact ⟨hquota, (Except.ok.inj h).symm⟩

theorem mappingStep_ok {t u : Mappings} {m : ModelMapping} (h : mappingStep known t m = .ok u) :
    known m.channelId = true ∧ u = putMapping t m := by
  unfold mappingStep at h
  split_ifs at h with hknown
  exact ⟨hknown, (Except.ok.inj h).symm⟩

end

section

variable (db : Database) (now : ℤ)

theorem upsertEntry_eq_run (rows : List SeedRow) :
    upsertEntry db now rows = Statements.run (fun db row => seedRow db now row) db rows := by
  induction rows generalizing db with
  | nil => rfl
  | cons row rows ih =>
    simp only [upsertEntry, Statements.run]
    cases seedRow db now row with
    | error e => rfl
    | ok next => exact ih next

theorem clash_iff_any {ρ : Type} {key unique : ρ → String} (t : Table key) (r : ρ) :
    t.Clash unique r ↔ (t.rows.any fun s => key s = key r ∨ unique s = unique r) = true := by
  simp [Table.Clash]

theorem upsert_eq_insertOrIgnore {ρ : Type} {key unique : ρ → String} (t : Table key) (r : ρ)
    (h : ∀ s ∈ t.rows, unique s ≠ unique r) : t.upsert r id (fun _ => rfl) = t.insertOrIgnore unique r := by
  apply Table.ext_rows
  rw [Table.rows_insertOrIgnore]
  unfold Table.upsert
  split_ifs with hkey hclash hclash
  · obtain ⟨s, hs, hk | hu⟩ := hclash
    · exact absurd hk (hkey s hs)
    · exact absurd hu (h s hs)
  · rfl
  · simp [Table.modify]
  · exact absurd (fun s hs hk => hclash ⟨s, hs, .inl hk⟩) hkey

theorem seedRow_provider (p : Provider) :
    seedRow db now (.provider p) = .ok { db with providers := putProvider now db.providers p } := by
  simp only [seedRow, putProvider]
  split_ifs with h
  · have hclash : db.providers.Clash Provider.name (p.stamped now) := by
      obtain ⟨q, hq, hname⟩ := List.any_eq_true.mp h
      exact ⟨q, hq, .inr (of_decide_eq_true hname)⟩
    rw [Table.insertOrIgnore_of_clash hclash]
  · rw [← upsert_eq_insertOrIgnore]
    · rfl
    · intro q hq hname
      exact h (List.any_eq_true.mpr ⟨q, hq, decide_eq_true hname⟩)

theorem seedRow_model (m : Model) :
    seedRow db now (.model m) =
      (modelStep db.hasProvider now db.models m).map fun models => { db with models } := by
  have hclash : (db.models.rows.any fun n => n.id = m.id ∨ n.clientName = m.clientName) = true ↔
      db.models.Clash Model.clientName m := (clash_iff_any db.models m).symm
  have hnone : (db.providers.find? m.providerId).isNone = !db.hasProvider m.providerId := by
    rw [Database.hasProvider, Option.not_isSome]
  simp only [seedRow, modelStep, putModel]
  by_cases h : db.models.Clash Model.clientName m
  · have hstamped : db.models.Clash Model.clientName (m.stamped now) := h
    rw [if_pos (hclash.mpr h), if_pos (.inl h), Table.insertOrIgnore_of_clash hstamped]
    rfl
  · rw [if_neg (mt hclash.mp h), hnone]
    cases hp : db.hasProvider m.providerId with
    | false => simp [h, Except.map]
    | true =>
      have hname : ∀ n ∈ db.models.rows, n.clientName ≠ (m.stamped now).clientName :=
        fun n hn hname => h ⟨n, hn, .inr hname⟩
      rw [← upsert_eq_insertOrIgnore db.models (m.stamped now) hname, if_pos (Or.inr rfl), if_neg (by decide)]
      rfl

theorem seedRow_channel (ch : SeedChannel) :
    seedRow db now (.channel ch) =
      (channelStep now db.channels ch).map fun channels => { db with channels } := by
  simp only [seedRow, channelStep]
  split_ifs
  · rfl
  · rfl

theorem seedRow_mapping_eq (m : ModelMapping) :
    seedRow db now (.mapping m) =
      (mappingStep db.hasChannel db.mappings m).map fun mappings => { db with mappings } := by
  have hnone : (db.channels.find? m.channelId).isNone = !db.hasChannel m.channelId := by
    rw [Database.hasChannel, Option.not_isSome]
  simp only [seedRow, mappingStep, hnone]
  cases db.hasChannel m.channelId with
  | false => rfl
  | true => rfl

theorem upsertEntry_providers (ps : List Provider) :
    upsertEntry db now (ps.map .provider) =
      ({ db with providers := ps.foldl (putProvider now) db.providers }, .ok ()) := by
  rw [upsertEntry_eq_run]
  induction ps generalizing db with
  | nil => rfl
  | cons p ps ih =>
    rw [List.map_cons, Statements.run_cons_ok (seedRow_provider db now p)]
    exact ih _

theorem upsertEntry_models (ms : List Model) :
    upsertEntry db now (ms.map .model) =
      ({ db with models := (Statements.run (modelStep db.hasProvider now) db.models ms).1 },
        (Statements.run (modelStep db.hasProvider now) db.models ms).2) := by
  rw [upsertEntry_eq_run]
  have hstep : ∀ t m, seedRow { db with models := t } now (.model m) =
      (modelStep db.hasProvider now t m).map fun models => { db with models } :=
    fun t m => seedRow_model { db with models := t } now m
  exact @Statements.run_map _ _ _ _ _ (fun db row => seedRow db now row) _ (fun models => { db with models })
    .model ms db.models hstep

theorem upsertEntry_channels (chs : List SeedChannel) :
    upsertEntry db now (chs.map .channel) =
      ({ db with channels := (Statements.run (channelStep now) db.channels chs).1 },
        (Statements.run (channelStep now) db.channels chs).2) := by
  rw [upsertEntry_eq_run]
  have hstep : ∀ t ch, seedRow { db with channels := t } now (.channel ch) =
      (channelStep now t ch).map fun channels => { db with channels } :=
    fun t ch => seedRow_channel { db with channels := t } now ch
  exact @Statements.run_map _ _ _ _ _ (fun db row => seedRow db now row) _ (fun channels => { db with channels })
    .channel chs db.channels hstep

theorem upsertEntry_mappings (ms : List ModelMapping) :
    upsertEntry db now (ms.map .mapping) =
      ({ db with mappings := (Statements.run (mappingStep db.hasChannel) db.mappings ms).1 },
        (Statements.run (mappingStep db.hasChannel) db.mappings ms).2) := by
  rw [upsertEntry_eq_run]
  have hstep : ∀ t m, seedRow { db with mappings := t } now (.mapping m) =
      (mappingStep db.hasChannel t m).map fun mappings => { db with mappings } :=
    fun t m => seedRow_mapping_eq { db with mappings := t } now m
  exact @Statements.run_map _ _ _ _ _ (fun db row => seedRow db now row) _ (fun mappings => { db with mappings })
    .mapping ms db.mappings hstep

end

end AgentProxy.Storage
