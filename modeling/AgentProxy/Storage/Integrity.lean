import AgentProxy.Storage.KeyRetention
import AgentProxy.Storage.SeedApplied

namespace AgentProxy.Storage.Integrity

open SeedOps KeyRetention

/-- The constraints of `001_init.sql` beyond the primary keys, and the range of a stored quota. -/
structure Intact (db : Database) : Prop where
  schema : Schema db
  provider : ∀ m ∈ db.models.rows, db.hasProvider m.providerId = true
  channel : ∀ m ∈ db.mappings.rows, db.hasChannel m.channelId = true
  quota : ∀ ch ∈ db.channels.rows, quotaFits ch.monthlyQuota = true

theorem intact_empty : Intact Database.empty where
  schema := ⟨List.nodup_nil, List.nodup_nil⟩
  provider := fun _ h => absurd h List.not_mem_nil
  channel := fun _ h => absurd h List.not_mem_nil
  quota := fun _ h => absurd h List.not_mem_nil

section

variable {db db' : Database}

theorem Intact.modifyChannel (h : Intact db) {id : String} {f : Channel → Channel} {hf : ∀ row, (f row).id = row.id}
    (hquota : ∀ row, quotaFits row.monthlyQuota = true → quotaFits (f row).monthlyQuota = true) :
    Intact (db.modifyChannel id f hf) where
  schema := ⟨h.schema.providerNames, h.schema.clientNames⟩
  provider := h.provider
  channel := by
    intro m hm
    exact (Table.isSome_find?_modify db.channels id m.channelId f hf).trans (h.channel m hm)
  quota := @Table.forall_modify _ _ _ _ db.channels id f hf _ h.quota fun row hrow => hquota row (h.quota row hrow)

theorem Intact.upsertedChannel (h : Intact db) {new : Channel} {f : Channel → Channel}
    {hf : ∀ row, (f row).id = row.id} (hnew : quotaFits new.monthlyQuota = true)
    (hquota : ∀ row, quotaFits (f row).monthlyQuota = true) :
    Intact { db with channels := db.channels.upsert new f hf } where
  schema := ⟨h.schema.providerNames, h.schema.clientNames⟩
  provider := h.provider
  channel := fun m hm => Table.isSome_find?_upsert (h.channel m hm)
  quota := Table.forall_upsert h.quota hnew fun row _ => hquota row

theorem Intact.ofMappings (h : Intact db) {mappings : Table ModelMapping.id}
    (hchannel : ∀ m ∈ mappings.rows, db.hasChannel m.channelId = true) : Intact { db with mappings } where
  schema := ⟨h.schema.providerNames, h.schema.clientNames⟩
  provider := h.provider
  channel := hchannel
  quota := h.quota

theorem Intact.putMapping (h : Intact db) {m : ModelMapping} (hm : db.hasChannel m.channelId = true) :
    Intact { db with mappings := db.mappings.upsert m (mappingConflict m) (mappingConflict_id m) } :=
  h.ofMappings (Table.forall_upsert h.channel hm fun _ _ => hm)

theorem Intact.updateChannel (h : Intact db) {id : String} {u : ChannelUpdate} {now : ℤ}
    (hdb : Storage.updateChannel db id u now = .ok db') : Intact db' := by
  unfold Storage.updateChannel at hdb
  split at hdb
  · cases hdb
  · cases hdb
    apply h.modifyChannel
    intro row hrow
    cases hq : u.monthlyQuota with
    | none => simpa [ChannelUpdate.apply, hq] using hrow
    | some q => simp [ChannelUpdate.apply, hq, quotaFits]

theorem Intact.upsertChannel (h : Intact db) {ch : Channel} {now : ℤ}
    (hdb : Storage.upsertChannel db ch now = .ok db') : Intact db' := by
  unfold Storage.upsertChannel at hdb
  split_ifs at hdb with hquota
  cases hdb
  exact h.upsertedChannel hquota fun _ => hquota

theorem Intact.setChannelEnabled (h : Intact db) {id : String} {enabled : Bool} {now : ℤ}
    (hdb : Storage.setChannelEnabled db id enabled now = .ok db') : Intact db' := by
  unfold Storage.setChannelEnabled at hdb
  split at hdb
  · cases hdb
  · cases hdb
    exact h.modifyChannel fun _ hrow => hrow

theorem Intact.setChannelApiKey (h : Intact db) {id key : String} {now : ℤ}
    (hdb : Storage.setChannelApiKey db id key now = .ok db') : Intact db' := by
  unfold Storage.setChannelApiKey at hdb
  split at hdb
  · cases hdb
  · cases hdb
    exact h.modifyChannel fun _ hrow => hrow

theorem Intact.markChannelHealthy (h : Intact db) {id : String} {now : ℤ}
    (hdb : Storage.markChannelHealthy db id now = .ok db') : Intact db' := by
  unfold Storage.markChannelHealthy at hdb
  split at hdb
  · cases hdb
  · cases hdb
    exact h.modifyChannel fun _ hrow => hrow

theorem Intact.recordChannelFailure (h : Intact db) (id : String) (now : ℤ) (cooldown : String) :
    Intact (Storage.recordChannelFailure db id now cooldown).1 := by
  unfold Storage.recordChannelFailure
  split
  · exact h
  · dsimp only
    split
    · exact h.modifyChannel fun _ hrow => hrow
    · apply Intact.modifyChannel
      · exact h.modifyChannel fun _ hrow => hrow
      · exact fun _ hrow => hrow

/-- The cascade of the foreign key removes the mappings with their channel. -/
theorem Intact.deleteChannel (h : Intact db) {id : String} (hdb : Storage.deleteChannel db id = .ok db') :
    Intact db' := by
  unfold Storage.deleteChannel at hdb
  split at hdb
  · cases hdb
  · cases hdb
    refine ⟨⟨h.schema.providerNames, h.schema.clientNames⟩, h.provider, ?_, ?_⟩
    · intro m hm
      obtain ⟨hm, hne⟩ := List.mem_filter.mp hm
      have hother : m.channelId ≠ id := by simpa using hne
      simp only [Database.hasChannel, Table.find?_filterOut_key, if_neg hother]
      exact h.channel m hm
    · intro ch hch
      exact h.quota ch (List.mem_of_mem_filter hch)

theorem Intact.upsertMapping (h : Intact db) {m : ModelMapping} (hdb : Storage.upsertMapping db m = .ok db') :
    Intact db' := by
  unfold Storage.upsertMapping at hdb
  split at hdb
  · cases hdb
  · rename_i ch hch
    cases hdb
    apply h.putMapping
    rw [Database.hasChannel, hch, Option.isSome_some]

theorem Intact.setMappingEnabled (h : Intact db) {id : String} {enabled : Bool}
    (hdb : Storage.setMappingEnabled db id enabled = .ok db') : Intact db' := by
  unfold Storage.setMappingEnabled at hdb
  split at hdb
  · cases hdb
  · cases hdb
    exact h.ofMappings (Table.forall_modify h.channel h.channel)

theorem Intact.deleteMapping (h : Intact db) {id : String} (hdb : Storage.deleteMapping db id = .ok db') :
    Intact db' := by
  unfold Storage.deleteMapping at hdb
  split at hdb
  · cases hdb
  · cases hdb
    apply h.ofMappings
    intro m hm
    exact h.channel m (List.mem_of_mem_filter hm)

theorem Intact.ofProviders (h : Intact db) {now : ℤ} {p : Provider} :
    Intact { db with providers := putProvider now db.providers p } where
  schema := ⟨Table.unique_insertOrIgnore h.schema.providerNames, h.schema.clientNames⟩
  provider := by
    intro m hm
    obtain ⟨q, hq⟩ := Option.isSome_iff_exists.mp (h.provider m hm)
    obtain ⟨hmem, hkey⟩ := (Table.find?_eq_some _).mp hq
    have hafter : (putProvider now db.providers p).find? m.providerId = some q :=
      (Table.find?_eq_some _).mpr ⟨Table.mem_insertOrIgnore hmem, hkey⟩
    exact Option.isSome_iff_exists.mpr ⟨q, hafter⟩
  channel := h.channel
  quota := h.quota

theorem Intact.ofModels (h : Intact db) {now : ℤ} {m : Model}
    (hm : db.models.Clash Model.clientName m ∨ db.hasProvider m.providerId = true) :
    Intact { db with models := putModel now db.models m } where
  schema := ⟨h.schema.providerNames, Table.unique_insertOrIgnore h.schema.clientNames⟩
  provider := by
    intro n hn
    rw [putModel, Table.rows_insertOrIgnore] at hn
    split_ifs at hn with hclash
    · exact h.provider n hn
    · rcases List.mem_append.mp hn with hn | hn
      · exact h.provider n hn
      · rw [List.mem_singleton.mp hn]
        exact hm.resolve_left hclash
  channel := h.channel
  quota := h.quota

theorem map_ok {α β ε : Type} {result : Except ε α} {f : α → β} {b : β} (h : result.map f = .ok b) :
    ∃ a, result = .ok a ∧ f a = b := by
  cases result with
  | error e => cases h
  | ok a => exact ⟨a, rfl, Except.ok.inj h⟩

theorem Intact.seedRow (h : Intact db) {now : ℤ} {row : SeedRow} (hdb : Storage.seedRow db now row = .ok db') :
    Intact db' := by
  cases row with
  | provider p =>
    rw [seedRow_provider] at hdb
    cases hdb
    exact h.ofProviders
  | model m =>
    rw [seedRow_model] at hdb
    obtain ⟨models, hstep, rfl⟩ := map_ok hdb
    obtain ⟨hm, rfl⟩ := modelStep_ok hstep
    exact h.ofModels hm
  | channel ch =>
    rw [seedRow_channel] at hdb
    obtain ⟨channels, hstep, rfl⟩ := map_ok hdb
    obtain ⟨hquota, rfl⟩ := channelStep_ok hstep
    exact h.upsertedChannel hquota fun _ => hquota
  | mapping m =>
    rw [seedRow_mapping_eq] at hdb
    obtain ⟨mappings, hstep, rfl⟩ := map_ok hdb
    obtain ⟨hm, rfl⟩ := mappingStep_ok hstep
    exact h.putMapping hm

/-- An entry that fails at some row keeps the rows before it, which are intact. -/
theorem Intact.upsertEntry (h : Intact db) (now : ℤ) (rows : List SeedRow) :
    Intact (Storage.upsertEntry db now rows).1 := by
  rw [upsertEntry_eq_run]
  exact Statements.run_keeps (fun _ _ _ hs hrow => hs.seedRow hrow) rows h

section

variable {o : Outside}

theorem Intact.upsertNamed (h : Intact db) (name json : String) : Intact (SeedOps.upsertNamed o db name json).1 := by
  unfold SeedOps.upsertNamed
  split
  · exact h.upsertEntry _ _
  · exact h

theorem Intact.applyEach (h : Intact db) (bodies : List (String × String)) :
    Intact (SeedOps.applyEach o db bodies).1 := by
  induction bodies generalizing db with
  | nil => exact h
  | cons b bodies ih =>
    have hfirst := h.upsertNamed (o := o) b.1 b.2
    simp only [SeedOps.applyEach]
    split
    all_goals
      rename_i hentry
      rw [hentry] at hfirst
    · exact ih hfirst
    · exact hfirst

theorem Intact.applyAllEntries {s : SeedStore} (h : Intact s.db) (b : Embedded) (source : String) :
    Intact (SeedOps.applyAllEntries o s b source).1.db := by
  have hbodies := fun bodies => @Intact.applyEach s.db o h bodies
  unfold SeedOps.applyAllEntries
  dsimp only
  split
  all_goals
    rename_i hentries
    have hdb := congrArg (fun r => Intact r.1) hentries
    exact hdb.mp (hbodies _)

theorem Intact.seedInit {s : SeedStore} (h : Intact s.db) (b : Embedded) : Intact (SeedOps.seedInit o b s).1.db := by
  have happlied := h.applyAllEntries (o := o) b "embedded"
  unfold SeedOps.seedInit
  split_ifs
  · exact h
  · split
    all_goals
      rename_i hentries
      rw [hentries] at happlied
    · exact happlied
    · split
      · exact happlied
      · exact happlied

theorem Intact.applyBodies (h : Intact db) (bs : List SeedOps.Body) :
    Intact (SeedOps.applyBodies o db bs).1 := by
  induction bs generalizing db with
  | nil => exact h
  | cons b bs ih =>
    apply ih
    unfold SeedOps.applyBody
    split
    · exact h
    · rename_i rows _
      have hentry := h.upsertEntry (o.clock b.1) rows
      split
      all_goals
        rename_i hrows
        rwa [hrows] at hentry

theorem Intact.seedRefresh {s : SeedStore} (h : Intact s.db) (base : String)
    (fetched : Except StorageError SeedManifest) : Intact (SeedOps.seedRefresh o base s fetched).1.db := by
  rw [seedRefresh_db]
  cases fetched with
  | error e => exact h
  | ok manifest =>
    dsimp only
    split_ifs
    · exact h
    · exact h.applyBodies _

end

end

section

variable {ω : Type} {s : Store ω}

theorem write_intact {result : Except StorageError Database} (h : Intact s.seeds.db)
    (hdb : ∀ db, result = .ok db → Intact db) : Intact (s.write result).seeds.db := by
  cases result with
  | error e => exact h
  | ok db => exact hdb db rfl

theorem apply_intact (h : Intact s.seeds.db) (op : Op ω) : Intact (s.apply op).seeds.db := by
  cases op with
  | upsertChannel ch now => exact write_intact h fun _ => h.upsertChannel
  | updateChannel id u now => exact write_intact h fun _ => h.updateChannel
  | setChannelEnabled id enabled now => exact write_intact h fun _ => h.setChannelEnabled
  | setChannelApiKey id key now => exact write_intact h fun _ => h.setChannelApiKey
  | deleteChannel id => exact write_intact h fun _ => h.deleteChannel
  | markChannelHealthy id now => exact write_intact h fun _ => h.markChannelHealthy
  | recordChannelFailure id now cooldown =>
    apply write_intact h
    intro db hdb
    cases hdb
    exact h.recordChannelFailure id now cooldown
  | seedInit o b => exact h.seedInit b
  | seedRefresh o base fetched => exact h.seedRefresh base fetched
  | upsertMapping m => exact write_intact h fun _ => h.upsertMapping
  | setMappingEnabled id enabled => exact write_intact h fun _ => h.setMappingEnabled
  | deleteMapping id => exact write_intact h fun _ => h.deleteMapping
  | elsewhere f => exact h

theorem after_intact (h : Intact s.seeds.db) (ops : List (Op ω)) : Intact (s.after ops).seeds.db := by
  induction ops generalizing s with
  | nil => exact h
  | cons op ops ih => exact ih (apply_intact h op)

end

end AgentProxy.Storage.Integrity
