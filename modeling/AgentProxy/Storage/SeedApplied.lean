import AgentProxy.Storage.SeedEffect
import AgentProxy.Storage.SeedSwitches

namespace AgentProxy.Storage.SeedOps

def providerColumns (p : Provider) : String × String := (p.id, p.name)

def modelColumns (m : Model) : Model := { m with createdAt := 0 }

def seedColumns (ch : SeedChannel) (row : Channel) : Prop :=
  row.id = ch.id ∧ row.name = ch.name ∧ row.protocol = ch.protocol ∧ row.protocols = ch.protocols ∧
    row.isBuiltin = ch.isBuiltin ∧ row.billingType = ch.billingType ∧ row.monthlyQuota = ch.monthlyQuota ∧
    row.quotaPolicy = ch.quotaPolicy ∧ row.priority = ch.priority

/-- `row` is in `db'` with its seed columns; a channel that was not in `db` also has the seed's key and switch. -/
def Present (db db' : Database) : SeedRow → Prop
  | .provider p => ∃ q ∈ db'.providers.rows, providerColumns q = providerColumns p
  | .model m => ∃ n ∈ db'.models.rows, modelColumns n = modelColumns m
  | .channel ch => ∃ row ∈ db'.channels.rows, seedColumns ch row ∧
      (db.hasChannel ch.id = false → row.apiKey = ch.apiKey ∧ row.enabled = ch.enabled)
  | .mapping m => m ∈ db'.mappings.rows

def rowId : SeedRow → String
  | .provider p => p.id
  | .model m => m.id
  | .channel ch => ch.id
  | .mapping m => m.id

structure Schema (db : Database) : Prop where
  providerNames : (db.providers.rows.map Provider.name).Nodup
  clientNames : (db.models.rows.map Model.clientName).Nodup

def ReportsNoError (result : Except StorageError SeedStatus) : Prop :=
  ∃ status, result = .ok status ∧ status.lastError = none

def Fetched (o : Outside) (base : String) (s : SeedStore) (manifest : SeedManifest) : List Body :=
  pending o base s.metadata manifest.entries.rows

def Applied (o : Outside) (base : String) (s : SeedStore) (manifest : SeedManifest) : Prop :=
  ∀ b ∈ Fetched o base s manifest, ∀ rows, b.2 = .ok rows → ∀ row ∈ rows,
    Present s.db (SeedOps.seedRefresh o base s (.ok manifest)).1.db row

/-- A stored provider or model with the id or the other unique column of a fetched row already has the
columns of that row; no two fetched rows share such a column; and the two names for mapping bodies do not
carry different rows for one id. -/
structure Unobstructed (db : Database) (bs : List Body) : Prop where
  providers : ∀ ps : List Provider, ("providers", .ok (ps.map .provider)) ∈ bs →
    (∀ p ∈ ps, ∀ q ∈ db.providers.rows, q.id = p.id ∨ q.name = p.name → providerColumns q = providerColumns p) ∧
      (ps.map Provider.name).Nodup
  models : ∀ ms : List Model, ("models", .ok (ms.map .model)) ∈ bs →
    (∀ m ∈ ms, ∀ n ∈ db.models.rows, n.id = m.id ∨ n.clientName = m.clientName → modelColumns n = modelColumns m) ∧
      (ms.map Model.clientName).Nodup
  mappings : ∀ xs ys : List ModelMapping, ("modelMappings", .ok (xs.map .mapping)) ∈ bs →
    ("model_mappings", .ok (ys.map .mapping)) ∈ bs → ∀ x ∈ xs, ∀ y ∈ ys, x.id = y.id → x = y

section

variable {o : Outside} {base : String} {db : Database} {bs : List Body}

theorem applyBody_of_no_errors {pre post : List Body} {b : Body} (hsplit : bs = pre ++ b :: post)
    (h : (applyBodies o db bs).2 = []) : (applyBody o (applyBodies o db pre).1 b).2 = none := by
  rw [hsplit, applyBodies_append] at h
  have hrest := (List.append_eq_nil_iff.mp h).2
  simp only [applyBodies] at hrest
  simpa using (List.append_eq_nil_iff.mp hrest).1

theorem upsertEntry_of_no_errors {pre post : List Body} {name : String} {rows : List SeedRow}
    (hsplit : bs = pre ++ (name, .ok rows) :: post) (h : (applyBodies o db bs).2 = []) :
    (upsertEntry (applyBodies o db pre).1 (o.clock name) rows).2 = .ok () := by
  have hnone := applyBody_of_no_errors hsplit h
  rw [applyBody_ok] at hnone
  dsimp only at hnone
  split at hnone
  · rename_i hok
    exact hok
  · cases hnone

theorem providers_present_iff (hd : Distinct bs) (hschema : Schema db) {ps : List Provider}
    (hps : ("providers", .ok (ps.map .provider)) ∈ bs) (hids : (ps.map Provider.id).Nodup) :
    (∀ p ∈ ps, Present db (applyBodies o db bs).1 (.provider p)) ↔
      (∀ p ∈ ps, ∀ q ∈ db.providers.rows, q.id = p.id ∨ q.name = p.name → providerColumns q = providerColumns p) ∧
        (ps.map Provider.name).Nodup := by
  have hfold : ps.foldl (putProvider (o.clock "providers")) db.providers =
      db.providers.insertAll Provider.name (ps.map (·.stamped (o.clock "providers"))) := by
    rw [Table.insertAll, List.foldl_map]
    rfl
  have hown : ∀ a b : Provider, providerColumns a = providerColumns b → a.id = b.id ∧ a.name = b.name := by
    intro a b h
    exact Prod.mk.inj h
  have hkeys : ((ps.map (·.stamped (o.clock "providers"))).map Provider.id).Nodup := by
    rw [List.map_map]
    exact hids
  have h := Table.insertAll_lands_iff hown hschema.providerNames hkeys
  rw [← hfold, ← final_providers hd hps, List.forall_mem_map, List.forall_mem_map, List.map_map] at h
  exact h

theorem models_run_ok (hd : Distinct bs) {ms : List Model} (hms : ("models", .ok (ms.map .model)) ∈ bs)
    (hok : (applyBodies o db bs).2 = []) :
    (applyBodies o db bs).1.models = ms.foldl (putModel (o.clock "models")) db.models := by
  obtain ⟨pre, post, hsplit⟩ := List.append_of_mem hms
  have hrun := upsertEntry_of_no_errors hsplit hok
  have hpre := (@applyBodies_alone o _ Database.models _ _ _ _ hsplit
    (fun c hc db => applyBody_models db (hd.others hsplit c hc).1 (hd.others hsplit c hc).2) db).2
  rw [upsertEntry_models, hpre] at hrun
  rw [final_models hd hsplit]
  exact Statements.run_ok_eq (fun _ _ _ hstep => (modelStep_ok hstep).2) (Prod.ext rfl hrun)

theorem models_present_iff (hd : Distinct bs) (hschema : Schema db) {ms : List Model}
    (hms : ("models", .ok (ms.map .model)) ∈ bs) (hids : (ms.map Model.id).Nodup)
    (hok : (applyBodies o db bs).2 = []) :
    (∀ m ∈ ms, Present db (applyBodies o db bs).1 (.model m)) ↔
      (∀ m ∈ ms, ∀ n ∈ db.models.rows, n.id = m.id ∨ n.clientName = m.clientName → modelColumns n = modelColumns m) ∧
        (ms.map Model.clientName).Nodup := by
  have hfold : ms.foldl (putModel (o.clock "models")) db.models =
      db.models.insertAll Model.clientName (ms.map (·.stamped (o.clock "models"))) := by
    rw [Table.insertAll, List.foldl_map]
    rfl
  have hown : ∀ a b : Model, modelColumns a = modelColumns b → a.id = b.id ∧ a.clientName = b.clientName := by
    intro a b h
    have hid : (modelColumns a).id = (modelColumns b).id := congrArg Model.id h
    have hname : (modelColumns a).clientName = (modelColumns b).clientName := congrArg Model.clientName h
    exact ⟨hid, hname⟩
  have hkeys : ((ms.map (·.stamped (o.clock "models"))).map Model.id).Nodup := by
    rw [List.map_map]
    exact hids
  have h := Table.insertAll_lands_iff hown hschema.clientNames hkeys
  rw [← hfold, ← models_run_ok hd hms hok, List.forall_mem_map, List.forall_mem_map, List.map_map] at h
  exact h

theorem channels_present (hd : Distinct bs) {chs : List SeedChannel} (hchs : ("channels", .ok (chs.map .channel)) ∈ bs)
    (hids : (chs.map SeedChannel.id).Nodup) (hok : (applyBodies o db bs).2 = []) :
    ∀ ch ∈ chs, Present db (applyBodies o db bs).1 (.channel ch) := by
  intro ch hch
  obtain ⟨pre, post, hsplit⟩ := List.append_of_mem hchs
  have hrun := upsertEntry_of_no_errors hsplit hok
  have hpre := (@applyBodies_alone o _ Database.channels _ _ _ _ hsplit
    (fun c hc db => applyBody_channels db (hd.others hsplit c hc).1 (hd.others hsplit c hc).2) db).2
  rw [upsertEntry_channels, hpre] at hrun
  have hall : (Statements.run (channelStep (o.clock "channels")) db.channels chs).1 =
      db.channels.upsertAll (·.row (o.clock "channels")) (·.onConflict (o.clock "channels"))
        (fun ch => ch.onConflict_id (o.clock "channels")) chs :=
    Statements.run_ok_eq (fun _ _ _ hstep => (channelStep_ok hstep).2) (Prod.ext rfl hrun)
  have hfind := @Table.find?_upsertAll _ _ Channel.id _ _ (·.row (o.clock "channels"))
    (·.onConflict (o.clock "channels")) (fun ch => ch.onConflict_id (o.clock "channels")) db.channels chs ch hids hch
  rw [← hall, ← final_channels hd hchs] at hfind
  refine ⟨_, ((Table.find?_eq_some _).mp hfind).1, ?_, fun hnew => ?_⟩
  · cases hold : db.channels.find? (ch.row (o.clock "channels")).id with
    | none => exact ⟨rfl, rfl, rfl, rfl, rfl, rfl, rfl, rfl, rfl⟩
    | some old => exact ⟨((Table.find?_eq_some _).mp hold).2, rfl, rfl, rfl, rfl, rfl, rfl, rfl, rfl⟩
  · have hnone : db.channels.find? (ch.row (o.clock "channels")).id = none := by
      cases hold : db.channels.find? (ch.row (o.clock "channels")).id with
      | none => rfl
      | some old => simp [Database.hasChannel, show db.channels.find? ch.id = some old from hold] at hnew
    rw [hnone]
    exact ⟨rfl, rfl⟩

theorem mem_executed {db : Database} {now : ℤ} {rows : List SeedRow} {row : SeedRow}
    (h : row ∈ executed db now rows) : row ∈ rows := by
  induction rows generalizing db with
  | nil => cases h
  | cons first rows ih =>
    simp only [executed] at h
    split at h
    · rcases List.mem_cons.mp h with rfl | h
      · exact List.mem_cons_self
      · exact List.mem_cons_of_mem _ (ih h)
    · cases h

theorem mem_executedBodies {row : SeedRow} (h : row ∈ executedBodies o db bs) :
    ∃ b ∈ bs, ∃ rows, b.2 = .ok rows ∧ row ∈ rows := by
  induction bs generalizing db with
  | nil => cases h
  | cons b bs ih =>
    rcases List.mem_append.mp h with h | h
    · split at h
      · rename_i rows hrows
        exact ⟨b, List.mem_cons_self, rows, hrows, mem_executed h⟩
      · cases h
    · obtain ⟨c, hc, hrow⟩ := ih h
      exact ⟨c, List.mem_cons_of_mem _ hc, hrow⟩

theorem lastWritten_mem {id : String} {rows : List SeedRow} {m : ModelMapping} (h : lastWritten id rows = some m) :
    .mapping m ∈ rows ∧ m.id = id := by
  obtain ⟨row, hrow, hm⟩ := List.mem_filterMap.mp (List.mem_of_getLast? h)
  cases row with
  | mapping m' =>
    simp only [written] at hm
    split_ifs at hm with hid
    cases hm
    exact ⟨hrow, hid⟩
  | provider p => cases hm
  | model m' => cases hm
  | channel ch => cases hm

theorem run_mappings_ok {known : String → Bool} {t : Tables.Mappings} {ms : List ModelMapping}
    (hids : (ms.map ModelMapping.id).Nodup) (hrun : (Statements.run (mappingStep known) t ms).2 = .ok ())
    {m : ModelMapping} (hm : m ∈ ms) : (Statements.run (mappingStep known) t ms).1.find? m.id = some m := by
  have hall : (Statements.run (mappingStep known) t ms).1 = t.upsertAll id mappingConflict mappingConflict_id ms :=
    Statements.run_ok_eq (fun _ _ _ hstep => (mappingStep_ok hstep).2) (Prod.ext rfl hrun)
  have hfind := @Table.find?_upsertAll _ _ ModelMapping.id _ _ id mappingConflict mappingConflict_id t ms m hids hm
  rw [hall]
  apply hfind.trans
  cases hold : t.find? m.id with
  | none => rw [id, hold]; rfl
  | some old =>
    have hkey : old.id = m.id := ((Table.find?_eq_some _).mp hold).2
    rw [id, hold, Option.elim_some, mappingConflict, hkey]

theorem message_ne_empty (name : String) (e : StorageError) : message name e ≠ "" := by
  intro h
  have hlist := congrArg String.toList h
  simp [message] at hlist

theorem applyBodies_error_ne_empty {error : String} (h : error ∈ (applyBodies o db bs).2) : error ≠ "" := by
  induction bs generalizing db with
  | nil => cases h
  | cons b bs ih =>
    rcases List.mem_append.mp h with h | h
    · obtain ⟨e, rfl⟩ : ∃ e, error = message b.1 e := by
        unfold applyBody at h
        split at h
        · exact ⟨_, by simpa using h⟩
        · split at h
          · simp at h
          · exact ⟨_, by simpa using h⟩
      exact message_ne_empty b.1 e
    · exact ih h

theorem mappings_present (hd : Distinct bs) {name : String} {ms : List ModelMapping}
    (hms : (name, .ok (ms.map .mapping)) ∈ bs) (hids : (ms.map ModelMapping.id).Nodup)
    (hok : (applyBodies o db bs).2 = [])
    (hagree : ∀ c ∈ bs, c.1 ≠ name → IsMappings c.1 → ∀ ys : List ModelMapping, c.2 = .ok (ys.map .mapping) →
      ∀ m ∈ ms, ∀ y ∈ ys, y.id = m.id → y = m) :
    ∀ m ∈ ms, Present db (applyBodies o db bs).1 (.mapping m) := by
  intro m hm
  obtain ⟨pre, post, hsplit⟩ := List.append_of_mem hms
  have hrun := upsertEntry_of_no_errors hsplit hok
  rw [upsertEntry_mappings] at hrun
  have hafter :
      (applyBody o (applyBodies o db pre).1 (name, .ok (ms.map .mapping))).1.mappings.find? m.id = some m := by
    rw [applyBody_ok, upsertEntry_mappings]
    exact run_mappings_ok hids hrun hm
  have hfinal := (@applyBodies_executes o _ post).mapping hafter
  have hall : (applyBodies o db bs).1 =
      (applyBodies o (applyBody o (applyBodies o db pre).1 (name, .ok (ms.map .mapping))).1 post).1 := by
    rw [hsplit, applyBodies_append]
    rfl
  rw [← hall] at hfinal
  have hkept : (lastWritten m.id (executedBodies o
      (applyBody o (applyBodies o db pre).1 (name, .ok (ms.map .mapping))).1 post)).getD m = m := by
    cases hlast : lastWritten m.id (executedBodies o
        (applyBody o (applyBodies o db pre).1 (name, .ok (ms.map .mapping))).1 post) with
    | none => rfl
    | some y =>
      obtain ⟨hmem, hid⟩ := lastWritten_mem hlast
      obtain ⟨c, hc, rows, hrows, hrow⟩ := mem_executedBodies hmem
      obtain ⟨hct, hcn⟩ := hd.others hsplit c (List.mem_append_right _ hc)
      obtain ⟨hname, ys, hys, hy⟩ := mapping_row_typed hct hrows hrow
      have hcbs : c ∈ bs := by
        rw [hsplit]
        exact List.mem_append_right _ (List.mem_cons_of_mem _ hc)
      exact hagree c hcbs hcn hname ys hys m hm y hy hid
  rw [hkept] at hfinal
  exact ((Table.find?_eq_some _).mp hfinal).1

theorem no_errors_of_reported {s : SeedStore} {manifest : SeedManifest} (hnew : s.localVersion < manifest.version)
    (hok : ReportsNoError (SeedOps.seedRefresh o base s (.ok manifest)).2) :
    (applyBodies o s.db (Fetched o base s manifest)).2 = [] := by
  obtain ⟨status, hstatus, hnone⟩ := hok
  have hnot : ¬ manifest.version ≤ s.localVersion := UInt32.not_le.mpr hnew
  simp only [SeedOps.seedRefresh, if_neg hnot] at hstatus
  cases hstatus
  have herrors := (@refreshEntries_eq o base s manifest.entries.rows manifest.entries.nodup).2
  rw [Fetched, ← herrors]
  cases hlist : (refreshEntries o base s manifest.entries.rows).2 with
  | nil => rfl
  | cons first rest =>
    have hfirst : first ≠ "" := by
      have hmem : first ∈ (refreshEntries o base s manifest.entries.rows).2 := by simp [hlist]
      rw [herrors] at hmem
      exact applyBodies_error_ne_empty hmem
    have hne := Text.intercalate_ne_empty "; " hfirst rest
    simp [buildStatus, finishRefresh, hlist, SeedStore.setMetadata, hne] at hnone

theorem both_names {c d : String} (hc : IsMappings c) (hd : IsMappings d) (hne : c ≠ d) :
    (c = "modelMappings" ∧ d = "model_mappings") ∨ (c = "model_mappings" ∧ d = "modelMappings") := by
  rcases hc with rfl | rfl
  · rcases hd with rfl | rfl
    · exact absurd rfl hne
    · exact .inl ⟨rfl, rfl⟩
  · rcases hd with rfl | rfl
    · exact .inr ⟨rfl, rfl⟩
    · exact absurd rfl hne

theorem bodies_present_iff (hd : Distinct bs) (hschema : Schema db) (hok : (applyBodies o db bs).2 = [])
    (hids : ∀ b ∈ bs, ∀ rows, b.2 = .ok rows → (rows.map rowId).Nodup) :
    (∀ b ∈ bs, ∀ rows, b.2 = .ok rows → ∀ row ∈ rows, Present db (applyBodies o db bs).1 row) ↔ Unobstructed db bs := by
  have hids' : ∀ {α : Type} {f : α → SeedRow} {name : String} {xs : List α}, (name, .ok (xs.map f)) ∈ bs →
      (xs.map fun x => rowId (f x)).Nodup := by
    intro α f name xs hxs
    have h := hids _ hxs _ rfl
    rwa [List.map_map] at h
  constructor
  · intro hall
    constructor
    · intro ps hps
      refine (providers_present_iff (o := o) hd hschema hps (hids' hps)).mp fun p hp => ?_
      exact hall _ hps _ rfl _ (List.mem_map_of_mem hp)
    · intro ms hms
      refine (models_present_iff hd hschema hms (hids' hms) hok).mp fun m hm => ?_
      exact hall _ hms _ rfl _ (List.mem_map_of_mem hm)
    · intro xs ys hxs hys x hx y hy hid
      have hx' : x ∈ (applyBodies o db bs).1.mappings.rows := hall _ hxs _ rfl _ (List.mem_map_of_mem hx)
      have hy' : y ∈ (applyBodies o db bs).1.mappings.rows := hall _ hys _ rfl _ (List.mem_map_of_mem hy)
      exact Table.key_inj _ hx' hy' hid
  · intro hfree b hb rows hrows row hrow
    cases hd.typed b hb with
    | failed name e => cases hrows
    | providers ps =>
      cases hrows
      obtain ⟨p, hp, rfl⟩ := List.mem_map.mp hrow
      exact (providers_present_iff hd hschema hb (hids' hb)).mpr (hfree.providers ps hb) p hp
    | models ms =>
      cases hrows
      obtain ⟨m, hm, rfl⟩ := List.mem_map.mp hrow
      exact (models_present_iff hd hschema hb (hids' hb) hok).mpr (hfree.models ms hb) m hm
    | channels chs =>
      cases hrows
      obtain ⟨ch, hch, rfl⟩ := List.mem_map.mp hrow
      exact channels_present hd hb (hids' hb) hok ch hch
    | mappings hname ms =>
      cases hrows
      obtain ⟨m, hm, rfl⟩ := List.mem_map.mp hrow
      refine mappings_present hd hb (hids' hb) hok (fun c hc hne hcname ys hys m hm y hy hid => ?_) m hm
      obtain ⟨cname, cbody⟩ := c
      cases hys
      rcases both_names hcname hname hne with ⟨rfl, rfl⟩ | ⟨rfl, rfl⟩
      · exact hfree.mappings ys ms hc hb y hy m hm hid
      · exact (hfree.mappings ms ys hb hc m hm y hy hid.symm).symm

end

theorem applied_iff_unobstructed {o : Outside} {base : String} {s : SeedStore} {manifest : SeedManifest}
    (hschema : Schema s.db) (hnew : s.localVersion < manifest.version)
    (hok : ReportsNoError (SeedOps.seedRefresh o base s (.ok manifest)).2)
    (hids : ∀ b ∈ Fetched o base s manifest, ∀ rows, b.2 = .ok rows → (rows.map rowId).Nodup) :
    Applied o base s manifest ↔ Unobstructed s.db (Fetched o base s manifest) := by
  have hfinal : (SeedOps.seedRefresh o base s (.ok manifest)).1.db =
      (applyBodies o s.db (Fetched o base s manifest)).1 := by
    rw [seedRefresh_db]
    exact if_neg (UInt32.not_le.mpr hnew)
  unfold Applied
  rw [hfinal]
  exact bodies_present_iff (pending_distinct manifest.entries.nodup) hschema (no_errors_of_reported hnew hok) hids

namespace Sample

def modelsOnly : SeedManifest := ⟨2, .single modelsEntry⟩

def priced (models : Tables.Models) : SeedStore where
  db := { Database.empty with providers := .single provider, models }
  metadata := metadata

def unpriced : SeedStore := priced .empty

def oldPrice : SeedStore := priced (.single (model 3))

theorem fetched_models (models : Tables.Models) :
    Fetched outside base (priced models) modelsOnly = [("models", .ok ([model 1].map .model))] := pending_models []

theorem distinct_models (models : Tables.Models) :
    ∀ b ∈ Fetched outside base (priced models) modelsOnly, ∀ rows, b.2 = .ok rows → (rows.map rowId).Nodup := by
  intro b hb rows hrows
  rw [fetched_models, List.mem_singleton] at hb
  rw [hb] at hrows
  cases hrows
  exact List.nodup_singleton _

def refreshed (s : SeedStore) : SeedStore × Except StorageError SeedStatus :=
  SeedOps.seedRefresh outside base s (.ok modelsOnly)

end Sample

theorem applied_to_empty_table :
    (Sample.refreshed Sample.unpriced).1.db.models.rows = [Sample.model 1] ∧
      Applied Sample.outside Sample.base Sample.unpriced Sample.modelsOnly := by
  have hschema : Schema Sample.unpriced.db := ⟨List.nodup_singleton _, List.nodup_nil⟩
  have hok : ReportsNoError (Sample.refreshed Sample.unpriced).2 := ⟨_, rfl, by decide +kernel⟩
  refine ⟨by decide +kernel, ?_⟩
  apply (applied_iff_unobstructed hschema (by decide +kernel) hok (Sample.distinct_models .empty)).mpr
  have hfetched := Sample.fetched_models .empty
  rw [Sample.unpriced, hfetched]
  constructor
  · intro ps hps
    simp at hps
  · intro ms hms
    simp only [List.mem_singleton, Prod.mk.injEq, Except.ok.injEq, true_and] at hms
    have hmodels : ms = [Sample.model 1] := List.map_injective_iff.mpr (fun a b h => SeedRow.model.inj h) hms
    rw [hmodels]
    refine ⟨fun m hm n hn => ?_, List.nodup_singleton _⟩
    cases hn
  · intro xs ys hxs
    simp at hxs

theorem price_update_ignored :
    Schema Sample.oldPrice.db ∧ Sample.oldPrice.localVersion < Sample.modelsOnly.version ∧
      ReportsNoError (Sample.refreshed Sample.oldPrice).2 ∧
      (∀ b ∈ Fetched Sample.outside Sample.base Sample.oldPrice Sample.modelsOnly, ∀ rows, b.2 = .ok rows →
        (rows.map rowId).Nodup) ∧
      ¬ Applied Sample.outside Sample.base Sample.oldPrice Sample.modelsOnly := by
  refine ⟨⟨List.nodup_singleton _, List.nodup_singleton _⟩, by decide +kernel, ⟨_, rfl, by decide +kernel⟩,
    Sample.distinct_models _, fun h => ?_⟩
  have hfetched : ("models", .ok ([Sample.model 1].map .model)) ∈
      Fetched Sample.outside Sample.base Sample.oldPrice Sample.modelsOnly := by
    rw [Sample.oldPrice, Sample.fetched_models]
    exact List.mem_singleton_self _
  obtain ⟨n, hn, hcolumns⟩ := h _ hfetched _ rfl (.model (Sample.model 1)) List.mem_cons_self
  have hrows : (Sample.refreshed Sample.oldPrice).1.db.models.rows = [Sample.model 3] := by decide +kernel
  have hmem : n ∈ (Sample.refreshed Sample.oldPrice).1.db.models.rows := hn
  rw [hrows, List.mem_singleton] at hmem
  rw [hmem] at hcolumns
  exact absurd hcolumns (by decide +kernel)

end AgentProxy.Storage.SeedOps
