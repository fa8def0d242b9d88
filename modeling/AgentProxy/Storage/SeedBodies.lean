import AgentProxy.Storage.SeedOps

namespace AgentProxy.Storage.SeedOps

abbrev Body := String × Except StorageError (List SeedRow)

section

variable (o : Outside) (base : String)

def body (e : NamedEntry) : Body := (e.1, (fetchEntry o base e).bind (decode o e.1))

/-- What the loop of a refresh works on: the entries whose hash differs from the stored one, each with the
rows it was decoded to or the error that came before its first statement. -/
def pending (metadata : String → Option String) (es : List NamedEntry) : List Body :=
  (es.filter fun e => metadata (hashKey e.1) ≠ some e.2.sha256).map (body o base)

def applyBody (db : Database) (b : Body) : Database × Option String :=
  match b.2 with
  | .error e => (db, some (message b.1 e))
  | .ok rows =>
    match upsertEntry db (o.clock b.1) rows with
    | (db, .ok ()) => (db, none)
    | (db, .error e) => (db, some (message b.1 e))

def applyBodies (db : Database) : List Body → Database × List String
  | [] => (db, [])
  | b :: bs =>
    let first := applyBody o db b
    let rest := applyBodies first.1 bs
    (rest.1, first.2.toList ++ rest.2)

end

section

variable {o : Outside} {base : String} {s : SeedStore} {e : NamedEntry}

theorem hashKey_injective : Function.Injective hashKey := fun _ _ h => (String.append_left_inj ":sha256").mp h

theorem localVersion_of_ne {key : String} (h : key ≠ "version") (value : String) :
    (s.setMetadata key value).localVersion = s.localVersion := by
  have hread : (s.setMetadata key value).metadata "version" = s.metadata "version" :=
    Function.update_of_ne (Ne.symm h) _ _
  simp only [SeedStore.localVersion, hread]

theorem localVersion_set (version : UInt32) :
    (s.setMetadata "version" (toString version.toNat)).localVersion = version := by
  have hread : (s.setMetadata "version" (toString version.toNat)).metadata "version" =
      some (toString version.toNat) := Function.update_self "version" _ s.metadata
  simp only [SeedStore.localVersion, hread, Option.bind_some, Text.unsigned?_repr, if_pos version.toNat_lt,
    UInt32.ofNat_toNat]

theorem hashKey_ne_version (name : String) : hashKey name ≠ "version" := by
  intro h
  have hlast := congrArg (fun k => k.toList.getLast?) h
  simp [hashKey] at hlast

theorem pending_cons (metadata : String → Option String) (e : NamedEntry) (es : List NamedEntry) :
    pending o base metadata (e :: es) =
      if metadata (hashKey e.1) = some e.2.sha256 then pending o base metadata es
      else body o base e :: pending o base metadata es := by
  unfold pending
  by_cases h : metadata (hashKey e.1) = some e.2.sha256
  · rw [if_pos h, List.filter_cons_of_neg (by simpa using h)]
  · rw [if_neg h, List.filter_cons_of_pos (by simpa using h), List.map_cons]

theorem pending_congr {metadata metadata' : String → Option String} {es : List NamedEntry}
    (h : ∀ e ∈ es, metadata' (hashKey e.1) = metadata (hashKey e.1)) :
    pending o base metadata' es = pending o base metadata es := by
  unfold pending
  congr 1
  refine List.filter_congr fun e he => ?_
  rw [h e he]

theorem refreshEntry_metadata {name : String} (h : name ≠ e.1) :
    (refreshEntry o base s e).1.metadata (hashKey name) = s.metadata (hashKey name) := by
  have hkey : hashKey name ≠ hashKey e.1 := fun hk => h (hashKey_injective hk)
  unfold refreshEntry fetchAndApplyEntry
  split_ifs
  · rfl
  · cases fetchEntry o base e with
    | error err => rfl
    | ok json =>
      dsimp only
      rcases upsertNamed o s.db e.1 json with ⟨db, err | ok⟩
      · rfl
      · exact Function.update_of_ne hkey _ _

theorem refreshEntry_pending (h : s.metadata (hashKey e.1) ≠ some e.2.sha256) :
    (refreshEntry o base s e).1.db = (applyBody o s.db (body o base e)).1 ∧
      (refreshEntry o base s e).2 = (applyBody o s.db (body o base e)).2 := by
  unfold refreshEntry fetchAndApplyEntry upsertNamed applyBody body
  rw [if_neg h]
  cases fetchEntry o base e with
  | error err => exact ⟨rfl, rfl⟩
  | ok json =>
    simp only [Except.bind]
    cases decode o e.1 json with
    | error err => exact ⟨rfl, rfl⟩
    | ok rows =>
      dsimp only
      rcases upsertEntry s.db (o.clock e.1) rows with ⟨db, err | ok⟩
      · exact ⟨rfl, rfl⟩
      · exact ⟨rfl, rfl⟩

theorem refreshEntries_eq {es : List NamedEntry} (hes : (es.map Prod.fst).Nodup) :
    (refreshEntries o base s es).1.db = (applyBodies o s.db (pending o base s.metadata es)).1 ∧
      (refreshEntries o base s es).2 = (applyBodies o s.db (pending o base s.metadata es)).2 := by
  induction es generalizing s with
  | nil => exact ⟨rfl, rfl⟩
  | cons e es ih =>
    rw [List.map_cons, List.nodup_cons] at hes
    have hrest : pending o base (refreshEntry o base s e).1.metadata es = pending o base s.metadata es := by
      apply pending_congr
      intro e' he'
      apply refreshEntry_metadata
      intro hname
      exact hes.1 (hname ▸ List.mem_map_of_mem he')
    obtain ⟨hdb, herr⟩ := ih (s := (refreshEntry o base s e).1) hes.2
    rw [hrest] at hdb herr
    simp only [refreshEntries]
    rw [hdb, herr, pending_cons]
    by_cases h : s.metadata (hashKey e.1) = some e.2.sha256
    · have hskip : refreshEntry o base s e = (s, none) := by rw [refreshEntry, if_pos h]
      rw [if_pos h, hskip]
      exact ⟨rfl, rfl⟩
    · obtain ⟨hfirst, hmsg⟩ := @refreshEntry_pending o base s e h
      rw [if_neg h, hfirst, hmsg]
      exact ⟨rfl, rfl⟩

theorem applyBodies_column {α : Type} {column : Channel → α}
    (hcolumn : ∀ (ch : SeedChannel) now old, column (ch.onConflict now old) = column old) {db : Database}
    (bs : List Body) {id : String} {value : α} (hvalue : (db.channels.find? id).map column = some value) :
    ((applyBodies o db bs).1.channels.find? id).map column = some value := by
  induction bs generalizing db with
  | nil => exact hvalue
  | cons b bs ih =>
    apply ih
    unfold applyBody
    split
    · exact hvalue
    · rename_i rows hrows
      have hentry := upsertEntry_column hcolumn (o.clock b.1) rows hvalue
      split
      all_goals
        rename_i h
        rwa [h] at hentry

theorem finishRefresh_db (version : UInt32) (s : SeedStore) (errors : List String) :
    (finishRefresh o base version s errors).db = s.db := by
  unfold finishRefresh
  split_ifs
  · rfl
  · rfl

theorem seedRefresh_db (s : SeedStore) (fetched : Except StorageError SeedManifest) :
    (SeedOps.seedRefresh o base s fetched).1.db =
      match fetched with
      | .error _ => s.db
      | .ok manifest =>
        if manifest.version ≤ s.localVersion then s.db
        else (applyBodies o s.db (pending o base s.metadata manifest.entries.rows)).1 := by
  unfold SeedOps.seedRefresh
  cases fetched with
  | error e => rfl
  | ok manifest =>
    dsimp only
    split_ifs
    · rfl
    · dsimp only
      rw [finishRefresh_db, (refreshEntries_eq manifest.entries.nodup).1]

theorem seedRefresh_column {α : Type} {column : Channel → α}
    (hcolumn : ∀ (ch : SeedChannel) now old, column (ch.onConflict now old) = column old) {s : SeedStore}
    (fetched : Except StorageError SeedManifest) {id : String} {value : α}
    (hvalue : (s.db.channels.find? id).map column = some value) :
    ((SeedOps.seedRefresh o base s fetched).1.db.channels.find? id).map column = some value := by
  rw [seedRefresh_db]
  cases fetched with
  | error e => exact hvalue
  | ok manifest =>
    dsimp only
    split_ifs
    · exact hvalue
    · exact applyBodies_column hcolumn _ hvalue

theorem applyBodies_append (db : Database) (bs cs : List Body) :
    applyBodies o db (bs ++ cs) =
      ((applyBodies o (applyBodies o db bs).1 cs).1,
        (applyBodies o db bs).2 ++ (applyBodies o (applyBodies o db bs).1 cs).2) := by
  induction bs generalizing db with
  | nil => rfl
  | cons b bs ih =>
    simp only [List.cons_append, applyBodies, ih, List.append_assoc]

end

namespace Sample

theorem pending_models (es : List NamedEntry) :
    pending outside base metadata (modelsEntry :: es) =
      ("models", .ok ([model 1].map .model)) :: pending outside base metadata es := by
  have hhash : metadata (hashKey modelsEntry.1) ≠ some modelsEntry.2.sha256 := by decide +kernel
  have hfetch : fetchEntry outside base modelsEntry = .ok modelsText := by
    simp only [fetchEntry, outside, modelsEntry]
    decide +kernel
  have hbody : body outside base modelsEntry = ("models", .ok ([model 1].map .model)) := by
    simp only [body, hfetch, Except.bind]
    rfl
  rw [pending_cons, if_neg hhash, hbody]

theorem pending_providers (es : List NamedEntry) :
    pending outside base metadata (providersEntry :: es) =
      ("providers", .ok ([provider].map .provider)) :: pending outside base metadata es := by
  have hhash : metadata (hashKey providersEntry.1) ≠ some providersEntry.2.sha256 := by decide +kernel
  have hfetch : fetchEntry outside base providersEntry = .ok providersText := by
    simp only [fetchEntry, outside, providersEntry]
    decide +kernel
  have hbody : body outside base providersEntry = ("providers", .ok ([provider].map .provider)) := by
    simp only [body, hfetch, Except.bind]
    rfl
  rw [pending_cons, if_neg hhash, hbody]

end Sample

end AgentProxy.Storage.SeedOps
