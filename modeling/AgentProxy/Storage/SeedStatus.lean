import AgentProxy.Storage.SeedApplied

namespace AgentProxy.Storage.SeedOps

inductive EntryKind where
  | providers
  | models
  | channels
  | mappings
  deriving DecidableEq

namespace EntryKind

def all : List EntryKind := [providers, models, channels, mappings]

def statusName : EntryKind → String
  | providers => "providers"
  | models => "models"
  | channels => "channels"
  | mappings => "model_mappings"

def Accepts (k : EntryKind) (name : String) : Prop := name = k.statusName ∨ k = mappings ∧ name = "modelMappings"

instance (k : EntryKind) (name : String) : Decidable (k.Accepts name) := inferInstanceAs (Decidable (_ ∨ _))

end EntryKind

structure Covers (manifest : SeedManifest) (entry : EntryKind → NamedEntry) : Prop where
  listed : ∀ k, entry k ∈ manifest.entries.rows
  accepted : ∀ k : EntryKind, k.Accepts (entry k).1
  single : ∀ k : EntryKind, ∀ e ∈ manifest.entries.rows, k.Accepts e.1 → e = entry k

inductive Call where
  | init (o : Outside) (b : Embedded)
  | refresh (o : Outside) (base : String) (fetched : Except StorageError SeedManifest)

def Call.step (s : SeedStore) : Call → SeedStore
  | init o b => (seedInit o b s).1
  | refresh o base fetched => (SeedOps.seedRefresh o base s fetched).1

def runCalls (s : SeedStore) (cs : List Call) : SeedStore := cs.foldl Call.step s

def appliedEntries (o : Outside) (base : String) (s : SeedStore) : List NamedEntry → List (String × String)
  | [] => []
  | e :: es =>
    (if s.metadata (hashKey e.1) = some e.2.sha256 then []
      else match fetchAndApplyEntry o base s e with
        | (_, .ok ()) => [(e.1, e.2.sha256)]
        | (_, .error _) => []) ++ appliedEntries o base (refreshEntry o base s e).1 es

def Call.applied (s : SeedStore) : Call → List (String × String)
  | init o b =>
    if 0 < s.localVersion then []
    else match applyAllEntries o s b "embedded" with
      | (_, .ok ()) => [("providers", o.sha256 b.providers), ("models", o.sha256 b.models),
          ("channels", o.sha256 b.channels), ("model_mappings", o.sha256 b.mappings)]
      | (_, .error _) => []
  | refresh o base fetched =>
    match fetched with
    | .error _ => []
    | .ok manifest =>
      if manifest.version ≤ s.localVersion then [] else appliedEntries o base s manifest.entries.rows

def history (s : SeedStore) : List Call → List (String × String)
  | [] => []
  | c :: cs => c.applied s ++ history (c.step s) cs

/-- The hash of the last application of `name` in the log, or the one from before it. -/
def lastApplied (before : Option String) (log : List (String × String)) (name : String) : Option String :=
  log.foldl (fun hash p => if p.1 = name then some p.2 else hash) before

section

variable {o : Outside} {base : String} {s : SeedStore}

theorem hashKey_ne {key : String} (name : String) (h : key.toList.getLast? ≠ some '6') : hashKey name ≠ key := by
  rintro rfl
  apply h
  rw [hashKey, String.toList_append, List.getLast?_append]
  rfl

theorem setMetadata_hash {key : String} (name value : String) (h : key.toList.getLast? ≠ some '6') :
    (s.setMetadata key value).metadata (hashKey name) = s.metadata (hashKey name) :=
  Function.update_of_ne (hashKey_ne name h) _ _

theorem setMetadata_hashKey (name e value : String) :
    (s.setMetadata (hashKey e) value).metadata (hashKey name) =
      if e = name then some value else s.metadata (hashKey name) := by
  split_ifs with h
  · rw [h]
    exact Function.update_self _ _ _
  · exact Function.update_of_ne (fun hkey => h (hashKey_injective hkey).symm) _ _

theorem refreshEntry_hash (e : NamedEntry) (name : String) :
    (refreshEntry o base s e).1.metadata (hashKey name) = lastApplied (s.metadata (hashKey name))
      (if s.metadata (hashKey e.1) = some e.2.sha256 then []
        else match fetchAndApplyEntry o base s e with
          | (_, .ok ()) => [(e.1, e.2.sha256)]
          | (_, .error _) => []) name := by
  unfold refreshEntry fetchAndApplyEntry
  split_ifs
  · rfl
  · cases fetchEntry o base e with
    | error err => rfl
    | ok json =>
      dsimp only
      rcases upsertNamed o s.db e.1 json with ⟨db, err | ok⟩
      · rfl
      · exact setMetadata_hashKey name e.1 _

theorem refreshEntries_history (es : List NamedEntry) (name : String) :
    (refreshEntries o base s es).1.metadata (hashKey name) =
      lastApplied (s.metadata (hashKey name)) (appliedEntries o base s es) name := by
  induction es generalizing s with
  | nil => rfl
  | cons e es ih =>
    rw [refreshEntries, appliedEntries, lastApplied, List.foldl_append]
    apply ih.trans
    rw [refreshEntry_hash]
    rfl

theorem finishRefresh_hash (version : UInt32) (errors : List String) (name : String) :
    (finishRefresh o base version s errors).metadata (hashKey name) = s.metadata (hashKey name) := by
  unfold finishRefresh
  split_ifs
  · simp only [setMetadata_hash name _ (by decide : "remote_url".toList.getLast? ≠ some '6'),
      setMetadata_hash name _ (by decide : "source".toList.getLast? ≠ some '6'),
      setMetadata_hash name _ (by decide : "last_error".toList.getLast? ≠ some '6'),
      setMetadata_hash name _ (by decide : "last_refresh_at".toList.getLast? ≠ some '6'),
      setMetadata_hash name _ (by decide : "version".toList.getLast? ≠ some '6')]
  · exact setMetadata_hash name _ (by decide)

theorem setHashes_hash (bodies : List (String × String)) (name : String) :
    (bodies.foldl (fun s p => s.setMetadata (hashKey p.1) (o.sha256 p.2)) s).metadata (hashKey name) =
      lastApplied (s.metadata (hashKey name)) (bodies.map fun p => (p.1, o.sha256 p.2)) name := by
  induction bodies generalizing s with
  | nil => rfl
  | cons p bodies ih =>
    apply ih.trans
    rw [setMetadata_hashKey]
    rfl

theorem init_hash (b : Embedded) (name : String) :
    (seedInit o b s).1.metadata (hashKey name) =
      lastApplied (s.metadata (hashKey name)) (Call.applied s (.init o b)) name := by
  have hsource : "source".toList.getLast? ≠ some '6' := by decide
  have hversion : "version".toList.getLast? ≠ some '6' := by decide
  unfold seedInit Call.applied
  split_ifs
  · rfl
  · unfold applyAllEntries
    dsimp only
    rcases applyEach o s.db [("providers", b.providers), ("models", b.models), ("channels", b.channels),
      ("model_mappings", b.mappings)] with ⟨db, err | ok⟩
    · rfl
    · dsimp only
      cases b.version with
      | error e =>
        dsimp only
        rw [setMetadata_hash name _ hsource, setHashes_hash]
        rfl
      | ok version =>
        dsimp only
        rw [setMetadata_hash name _ hversion, setMetadata_hash name _ hsource, setHashes_hash]
        rfl

theorem step_hash (c : Call) (name : String) :
    (c.step s).metadata (hashKey name) = lastApplied (s.metadata (hashKey name)) (c.applied s) name := by
  cases c with
  | init o b => exact init_hash b name
  | refresh o base fetched =>
    cases fetched with
    | error e => rfl
    | ok manifest =>
      unfold Call.step SeedOps.seedRefresh Call.applied
      dsimp only
      split_ifs
      · rfl
      · dsimp only
        rw [finishRefresh_hash, refreshEntries_history]

theorem runCalls_hash (cs : List Call) (name : String) :
    (runCalls s cs).metadata (hashKey name) = lastApplied (s.metadata (hashKey name)) (history s cs) name := by
  induction cs generalizing s with
  | nil => rfl
  | cons c cs ih =>
    rw [history, lastApplied, List.foldl_append]
    apply ih.trans
    rw [step_hash]
    rfl

theorem refreshEntry_applied {e : NamedEntry} (h : (refreshEntry o base s e).2 = none) :
    (refreshEntry o base s e).1.metadata (hashKey e.1) = some e.2.sha256 := by
  by_cases hskip : s.metadata (hashKey e.1) = some e.2.sha256
  · rw [refreshEntry, if_pos hskip]
    exact hskip
  · rw [refreshEntry, if_neg hskip] at h ⊢
    unfold fetchAndApplyEntry at h ⊢
    cases hfetch : fetchEntry o base e with
    | error err =>
      rw [hfetch] at h
      cases h
    | ok json =>
      rw [hfetch] at h
      dsimp only at h ⊢
      rcases hnamed : upsertNamed o s.db e.1 json with ⟨db, err | ok⟩
      · rw [hnamed] at h
        cases h
      · dsimp only
        rw [setMetadata_hashKey, if_pos rfl]

theorem refreshEntries_metadata {es : List NamedEntry} {name : String} (h : name ∉ es.map Prod.fst) :
    (refreshEntries o base s es).1.metadata (hashKey name) = s.metadata (hashKey name) := by
  induction es generalizing s with
  | nil => rfl
  | cons e es ih =>
    rw [List.map_cons, List.mem_cons, not_or] at h
    exact (ih h.2).trans (refreshEntry_metadata h.1)

theorem refreshEntries_applied {es : List NamedEntry} (hes : (es.map Prod.fst).Nodup)
    (h : (refreshEntries o base s es).2 = []) :
    ∀ e ∈ es, (refreshEntries o base s es).1.metadata (hashKey e.1) = some e.2.sha256 := by
  induction es generalizing s with
  | nil =>
    intro e he
    cases he
  | cons e es ih =>
    rw [List.map_cons, List.nodup_cons] at hes
    obtain ⟨hfirst, hrest⟩ := List.append_eq_nil_iff.mp h
    rw [List.forall_mem_cons]
    constructor
    · have hnone : (refreshEntry o base s e).2 = none := Option.toList_eq_nil_iff.mp hfirst
      exact (refreshEntries_metadata hes.1).trans (refreshEntry_applied hnone)
    · exact ih hes.2 hrest

end

/-- The refresh went to the manifest: the version gate let it through and no entry failed. -/
structure RefreshedTo (o : Outside) (base : String) (s : SeedStore) (manifest : SeedManifest) : Prop where
  newer : s.localVersion < manifest.version
  noError : ReportsNoError (SeedOps.seedRefresh o base s (.ok manifest)).2

def InStep (s : SeedStore) (manifest : SeedManifest) (entry : EntryKind → NamedEntry) : Prop :=
  (buildStatus s (some manifest)).entries =
    EntryKind.all.map fun k => ⟨k.statusName, some (entry k).2.sha256, some (entry k).2.sha256, false⟩

/-- After any further calls, an entry of a later manifest with the same names is listed as changed exactly when its
hash is not the one last applied. -/
def ReportsChanges (s : SeedStore) (entry : EntryKind → NamedEntry) : Prop :=
  ∀ (cs : List Call) (later : SeedManifest) (entry' : EntryKind → NamedEntry), Covers later entry' →
    (∀ k, (entry' k).1 = (entry k).1) →
    (buildStatus (runCalls s cs) (some later)).entries.map (fun e => (e.name, e.changed)) =
      EntryKind.all.map fun k => (k.statusName, decide (lastApplied (some (entry k).2.sha256) (history s cs)
        (entry k).1 ≠ some (entry' k).2.sha256))

section

variable {o : Outside} {base : String} {s : SeedStore} {manifest : SeedManifest} {entry : EntryKind → NamedEntry}

theorem refreshed_hash (h : RefreshedTo o base s manifest) {e : NamedEntry} (he : e ∈ manifest.entries.rows) :
    (SeedOps.seedRefresh o base s (.ok manifest)).1.metadata (hashKey e.1) = some e.2.sha256 := by
  have hnot : ¬ manifest.version ≤ s.localVersion := UInt32.not_le.mpr h.newer
  have hnone : (refreshEntries o base s manifest.entries.rows).2 = [] := by
    rw [(refreshEntries_eq manifest.entries.nodup).2]
    exact no_errors_of_reported h.newer h.noError
  unfold SeedOps.seedRefresh
  dsimp only
  rw [if_neg hnot, finishRefresh_hash]
  exact refreshEntries_applied manifest.entries.nodup hnone e he

theorem entry_names (h : Covers manifest entry) (hname : (entry .mappings).1 = "model_mappings") (k : EntryKind) :
    (entry k).1 = k.statusName := by
  obtain hk | ⟨rfl, -⟩ := h.accepted k
  · exact hk
  · exact hname

theorem buildStatus_entries (s : SeedStore) (remote : Option SeedManifest) :
    (buildStatus s remote).entries = EntryKind.all.map fun k => entryStatus s remote k.statusName := rfl

theorem entryStatus_of_find {name hash : String} {e : NamedEntry} (hlocal : s.metadata (hashKey name) = some hash)
    (he : manifest.entries.find? name = some e) :
    entryStatus s (some manifest) name = ⟨name, some hash, some e.2.sha256, decide (hash ≠ e.2.sha256)⟩ := by
  simp only [entryStatus, hlocal, Option.bind_some, he, Option.map_some]

theorem lastApplied_some (hash : String) (log : List (String × String)) (name : String) :
    ∃ last, lastApplied (some hash) log name = some last := by
  induction log generalizing hash with
  | nil => exact ⟨hash, rfl⟩
  | cons p log ih =>
    rw [lastApplied, List.foldl_cons]
    split_ifs
    · exact ih p.2
    · exact ih hash

theorem inStep_of_named (h : RefreshedTo o base s manifest) (hcovers : Covers manifest entry)
    (hname : (entry .mappings).1 = "model_mappings") :
    InStep (SeedOps.seedRefresh o base s (.ok manifest)).1 manifest entry := by
  rw [InStep, buildStatus_entries]
  apply List.map_congr_left
  intro k _
  have hk := entry_names hcovers hname k
  have hhash := refreshed_hash h (hcovers.listed k)
  have hfind : manifest.entries.find? k.statusName = some (entry k) :=
    manifest.entries.find?_eq_some.mpr ⟨hcovers.listed k, hk⟩
  rw [hk] at hhash
  rw [entryStatus_of_find hhash hfind, decide_eq_false (not_not.mpr rfl)]

theorem reportsChanges_of_named (h : RefreshedTo o base s manifest) (hcovers : Covers manifest entry)
    (hname : (entry .mappings).1 = "model_mappings") :
    ReportsChanges (SeedOps.seedRefresh o base s (.ok manifest)).1 entry := by
  intro cs later entry' hlater hsame
  rw [buildStatus_entries, List.map_map]
  apply List.map_congr_left
  intro k _
  have hk := entry_names hcovers hname k
  have hhash := @runCalls_hash (SeedOps.seedRefresh o base s (.ok manifest)).1 cs (entry k).1
  rw [refreshed_hash h (hcovers.listed k)] at hhash
  obtain ⟨last, hlast⟩ := lastApplied_some (entry k).2.sha256
    (history (SeedOps.seedRefresh o base s (.ok manifest)).1 cs) (entry k).1
  have hfind : later.entries.find? k.statusName = some (entry' k) :=
    later.entries.find?_eq_some.mpr ⟨hlater.listed k, (hsame k).trans hk⟩
  rw [hlast] at hhash ⊢
  rw [hk] at hhash
  rw [Function.comp_apply, entryStatus_of_find hhash hfind]
  simp

theorem named_of_inStep {s : SeedStore} (hcovers : Covers manifest entry) (h : InStep s manifest entry) :
    (entry .mappings).1 = "model_mappings" := by
  have hstatus : entryStatus s (some manifest) "model_mappings" =
      ⟨"model_mappings", some (entry .mappings).2.sha256, some (entry .mappings).2.sha256, false⟩ := by
    rw [InStep, buildStatus_entries] at h
    exact List.map_inj_left.mp h .mappings (by decide)
  have hremote : (manifest.entries.find? "model_mappings").map (·.2.sha256) = some (entry .mappings).2.sha256 :=
    congrArg SeedEntryStatus.remoteSha256 hstatus
  obtain ⟨e, he, -⟩ := Option.map_eq_some_iff.mp hremote
  obtain ⟨hmem, hname⟩ := manifest.entries.find?_eq_some.mp he
  rw [← hcovers.single .mappings e hmem (.inl hname)]
  exact hname

theorem seed_status_true_iff (h : RefreshedTo o base s manifest) (hcovers : Covers manifest entry) :
    InStep (SeedOps.seedRefresh o base s (.ok manifest)).1 manifest entry ∧
        ReportsChanges (SeedOps.seedRefresh o base s (.ok manifest)).1 entry ↔
      (entry .mappings).1 = "model_mappings" := by
  constructor
  · rintro ⟨hstep, -⟩
    exact named_of_inStep hcovers hstep
  · intro hname
    exact ⟨inStep_of_named h hcovers hname, reportsChanges_of_named h hcovers hname⟩

end

namespace Sample

def emptyHash : String := "4f53cda18c2baa0c0354bb5f9a3ecbe5ed12ab4d8e11ba873c2f11161202b945"

def emptyBodies : Outside :=
  { outside with
    fetch := fun _ => .ok "[]"
    sha256 := fun _ => emptyHash
    providers := fun _ => .ok []
    models := fun _ => .ok []
    channels := fun _ => .ok []
    mappings := fun _ => .ok [] }

def fourEntries (mappings : String) : EntryKind → NamedEntry
  | .providers => ("providers", ⟨"providers.json", emptyHash⟩)
  | .models => ("models", ⟨"models.json", emptyHash⟩)
  | .channels => ("channels", ⟨"channels.json", emptyHash⟩)
  | .mappings => (mappings, ⟨"model_mappings.json", emptyHash⟩)

def snakeCase : SeedManifest := ⟨2, ⟨EntryKind.all.map (fourEntries "model_mappings"), by decide⟩⟩

def camelCase : SeedManifest := ⟨2, ⟨EntryKind.all.map (fourEntries "modelMappings"), by decide⟩⟩

def embeddedOnly : SeedStore := ⟨Database.empty, metadata⟩

theorem covers_four {manifest : SeedManifest} {mappings : String}
    (hrows : manifest.entries.rows = EntryKind.all.map (fourEntries mappings))
    (hname : EntryKind.mappings.Accepts mappings) : Covers manifest (fourEntries mappings) where
  listed := by
    intro k
    rw [hrows]
    apply List.mem_map_of_mem
    cases k <;> decide
  accepted := by
    intro k
    cases k with
    | mappings => exact hname
    | _ => exact .inl rfl
  single := by
    intro k e he hk
    rw [hrows] at he
    obtain ⟨k', -, rfl⟩ := List.mem_map.mp he
    obtain rfl | ⟨-, rfl⟩ := hname
    all_goals
      cases k <;> cases k'
      all_goals first
        | rfl
        | exact absurd hk (by decide)

theorem refreshed_snakeCase : RefreshedTo emptyBodies base embeddedOnly snakeCase :=
  ⟨by decide, _, rfl, rfl⟩

theorem refreshed_camelCase : RefreshedTo emptyBodies base embeddedOnly camelCase :=
  ⟨by decide, _, rfl, rfl⟩

end Sample

theorem seed_status_true_snakeCase :
    RefreshedTo Sample.emptyBodies Sample.base Sample.embeddedOnly Sample.snakeCase ∧
      Covers Sample.snakeCase (Sample.fourEntries "model_mappings") ∧
      InStep (SeedOps.seedRefresh Sample.emptyBodies Sample.base Sample.embeddedOnly (.ok Sample.snakeCase)).1
        Sample.snakeCase (Sample.fourEntries "model_mappings") := by
  have hcovers : Covers Sample.snakeCase (Sample.fourEntries "model_mappings") := Sample.covers_four rfl (.inl rfl)
  have htrue := (seed_status_true_iff Sample.refreshed_snakeCase hcovers).mpr rfl
  exact ⟨Sample.refreshed_snakeCase, hcovers, htrue.1⟩

theorem seed_status_misses_mappings :
    RefreshedTo Sample.emptyBodies Sample.base Sample.embeddedOnly Sample.camelCase ∧
      Covers Sample.camelCase (Sample.fourEntries "modelMappings") ∧
      ¬ InStep (SeedOps.seedRefresh Sample.emptyBodies Sample.base Sample.embeddedOnly (.ok Sample.camelCase)).1
        Sample.camelCase (Sample.fourEntries "modelMappings") := by
  have hcovers : Covers Sample.camelCase (Sample.fourEntries "modelMappings") :=
    Sample.covers_four rfl (.inr ⟨rfl, rfl⟩)
  apply And.intro Sample.refreshed_camelCase
  apply And.intro hcovers
  intro h
  exact absurd (named_of_inStep hcovers h) (by decide)

end AgentProxy.Storage.SeedOps
