import AgentProxy.Storage.SeedBodies
import AgentProxy.Storage.SeedTables

namespace AgentProxy.Storage.SeedOps

open Statements Tables

section

variable (db : Database) (now : ℤ)

/-- A model is refused when its provider is not stored and neither the stored models nor the rows before it hold its
id or client name. -/
def RefusesModel (pre : List Model) (m : Model) : Prop :=
  db.hasProvider m.providerId = false ∧
    ¬ ((pre.filter fun n => db.hasProvider n.providerId).foldl (putModel now) db.models).Clash Model.clientName m

def RefusesChannel (_ : List SeedChannel) (ch : SeedChannel) : Prop := quotaFits ch.monthlyQuota = false

def RefusesMapping (_ : List ModelMapping) (m : ModelMapping) : Prop := db.hasChannel m.channelId = false

def ModelsStored (pre : List Model) : Prop := ∀ m ∈ pre, db.models.Clash Model.clientName m

/-- Of the rows with one id the last one counts. -/
def ChannelsStored (pre : List SeedChannel) : Prop :=
  ∀ p ch q, pre = p ++ ch :: q → (∀ c ∈ q, c.id ≠ ch.id) →
    ∃ old, db.channels.find? ch.id = some old ∧ ch.onConflict now old = old

def MappingsStored (pre : List ModelMapping) : Prop :=
  ∀ p m q, pre = p ++ m :: q → (∀ n ∈ q, n.id ≠ m.id) → db.mappings.find? m.id = some m

end

/-- The rows before the first refused row of the body write nothing that is not stored. -/
structure Harmless (o : Outside) (db : Database) (now : ℤ) (name body : String) : Prop where
  models : name = "models" → ∀ ms, o.models body = .ok ms → Guarded (RefusesModel db now) (ModelsStored db) ms
  channels : name = "channels" → ∀ chs, o.channels body = .ok chs → Guarded RefusesChannel (ChannelsStored db now) chs
  mappings : name = "modelMappings" ∨ name = "model_mappings" → ∀ ms, o.mappings body = .ok ms →
    Guarded (RefusesMapping db) (MappingsStored db) ms

/-- The tables and the stored hash of the entry are those before the call. -/
structure EntryUnchanged (s : SeedStore) (name : String) (s' : SeedStore) : Prop where
  tables : s'.db = s.db
  hash : s'.metadata (hashKey name) = s.metadata (hashKey name)

section

variable {db : Database} {now : ℤ}

theorem put_eq_iff {τ : Type} (get : Database → τ) (put : τ → Database) (hget : ∀ t, get (put t) = t)
    (hput : put (get db) = db) {t : τ} : put t = db ↔ t = get db := by
  constructor
  · intro h
    rw [← h, hget]
  · intro h
    rw [h, hput]

theorem models_after_run {known : String → Bool} {t u : Models} {pre : List Model}
    (h : run (modelStep known now) t pre = (u, .ok ())) :
    u = (pre.filter fun n => known n.providerId).foldl (putModel now) t := by
  induction pre generalizing t with
  | nil =>
    cases h
    rfl
  | cons m pre ih =>
    cases hstep : modelStep known now t m with
    | error e =>
      rw [run_cons_error hstep] at h
      cases h
    | ok v =>
      rw [run_cons_ok hstep] at h
      obtain ⟨haccepted, rfl⟩ := modelStep_ok hstep
      rw [List.filter_cons]
      split_ifs with hknown
      · exact ih h
      · have hclash : t.Clash Model.clientName (m.stamped now) := haccepted.resolve_right hknown
        rw [putModel, Table.insertOrIgnore_of_clash hclash] at h
        exact ih h

theorem refusesModel_iff {t : Models} {pre : List Model} {m : Model}
    (h : run (modelStep db.hasProvider now) db.models pre = (t, .ok ())) :
    (∃ e, modelStep db.hasProvider now t m = .error e) ↔ RefusesModel db now pre m := by
  rw [RefusesModel, ← models_after_run h]
  constructor
  · rintro ⟨e, he⟩
    obtain ⟨hclash, hknown, -⟩ := modelStep_error he
    exact ⟨hknown, hclash⟩
  · rintro ⟨hknown, hclash⟩
    exact ⟨_, if_neg (not_or.mpr ⟨hclash, Bool.not_eq_true _ ▸ hknown⟩)⟩

theorem modelsStored_iff {t : Models} {pre : List Model}
    (h : run (modelStep db.hasProvider now) db.models pre = (t, .ok ())) : t = db.models ↔ ModelsStored db pre := by
  have hfold : t = pre.foldl (putModel now) db.models := run_ok_eq (fun _ _ _ hstep => (modelStep_ok hstep).2) h
  have hall : pre.foldl (putModel now) db.models =
      db.models.insertAll Model.clientName (pre.map fun m => m.stamped now) := by
    rw [Table.insertAll, List.foldl_map]
    rfl
  rw [hfold, hall, Table.insertAll_eq_self_iff, List.forall_mem_map]
  rfl

theorem models_unchanged_iff {ms : List Model} :
    (∀ e, (upsertEntry db now (ms.map .model)).2 = .error e → (upsertEntry db now (ms.map .model)).1 = db) ↔
      Guarded (RefusesModel db now) (ModelsStored db) ms := by
  rw [upsertEntry_models, ← unchanged_on_error_iff (fun _ _ _ => refusesModel_iff) (fun _ _ => modelsStored_iff)]
  apply forall₂_congr
  intro e _
  exact put_eq_iff Database.models (fun models => { db with models }) (fun _ => rfl) rfl

theorem channels_unchanged_iff {chs : List SeedChannel} :
    (∀ e, (upsertEntry db now (chs.map .channel)).2 = .error e → (upsertEntry db now (chs.map .channel)).1 = db) ↔
      Guarded RefusesChannel (ChannelsStored db now) chs := by
  have hrefuses (pre : List SeedChannel) (t : Channels) (ch : SeedChannel)
      (_ : run (channelStep now) db.channels pre = (t, .ok ())) :
      (∃ e, channelStep now t ch = .error e) ↔ RefusesChannel pre ch := by
    unfold channelStep RefusesChannel
    cases quotaFits ch.monthlyQuota with
    | true => simp
    | false => simp
  have hstored (pre : List SeedChannel) (t : Channels) (h : run (channelStep now) db.channels pre = (t, .ok ())) :
      t = db.channels ↔ ChannelsStored db now pre := by
    rw [run_ok_eq (fun _ _ _ hstep => (channelStep_ok hstep).2) h]
    exact Table.upsertAll_eq_self_iff fun _ _ _ => rfl
  rw [upsertEntry_channels, ← unchanged_on_error_iff hrefuses hstored]
  apply forall₂_congr
  intro e _
  exact put_eq_iff Database.channels (fun channels => { db with channels }) (fun _ => rfl) rfl

theorem mappings_unchanged_iff {ms : List ModelMapping} :
    (∀ e, (upsertEntry db now (ms.map .mapping)).2 = .error e → (upsertEntry db now (ms.map .mapping)).1 = db) ↔
      Guarded (RefusesMapping db) (MappingsStored db) ms := by
  have hrefuses (pre : List ModelMapping) (t : Mappings) (m : ModelMapping)
      (_ : run (mappingStep db.hasChannel) db.mappings pre = (t, .ok ())) :
      (∃ e, mappingStep db.hasChannel t m = .error e) ↔ RefusesMapping db pre m := by
    unfold mappingStep RefusesMapping
    cases db.hasChannel m.channelId with
    | true => simp
    | false => simp
  have hsame (m : ModelMapping) :
      (∃ old, db.mappings.find? m.id = some old ∧ mappingConflict m old = old) ↔ db.mappings.find? m.id = some m := by
    constructor
    · rintro ⟨old, hold, hconflict⟩
      have hid : old.id = m.id := (db.mappings.find?_eq_some.mp hold).2
      rw [mappingConflict, hid] at hconflict
      rw [hold, ← hconflict]
    · intro hm
      exact ⟨m, hm, rfl⟩
  have hstored (pre : List ModelMapping) (t : Mappings)
      (h : run (mappingStep db.hasChannel) db.mappings pre = (t, .ok ())) :
      t = db.mappings ↔ MappingsStored db pre := by
    rw [run_ok_eq (fun _ _ _ hstep => (mappingStep_ok hstep).2) h]
    unfold MappingsStored
    simp only [← hsame]
    exact Table.upsertAll_eq_self_iff fun _ _ _ => rfl
  rw [upsertEntry_mappings, ← unchanged_on_error_iff hrefuses hstored]
  apply forall₂_congr
  intro e _
  exact put_eq_iff Database.mappings (fun mappings => { db with mappings }) (fun _ => rfl) rfl

end

section

variable {o : Outside} {base : String} {s : SeedStore} {e : NamedEntry}

theorem typed_unchanged_iff {db : Database} {name body label : String} {α : Type} {row : α → SeedRow}
    {decoded : Except String (List α)} {p : List α → Prop} (hdecode : decode o name body = rowsOf label row decoded)
    (hp : ∀ xs, (∀ err, (upsertEntry db (o.clock name) (xs.map row)).2 = .error err →
      (upsertEntry db (o.clock name) (xs.map row)).1 = db) ↔ p xs) :
    (∀ err, (upsertNamed o db name body).2 = .error err → (upsertNamed o db name body).1 = db) ↔
      ∀ xs, decoded = .ok xs → p xs := by
  unfold upsertNamed
  rw [hdecode]
  cases decoded with
  | error text =>
    apply iff_of_true
    · exact fun _ _ => rfl
    · intro xs h
      cases h
  | ok xs =>
    apply (hp xs).trans
    constructor
    · rintro h _ ⟨⟩
      exact h
    · intro h
      exact h xs rfl

theorem upsertNamed_unchanged_iff {db : Database} {name body : String} :
    (∀ err, (upsertNamed o db name body).2 = .error err → (upsertNamed o db name body).1 = db) ↔
      Harmless o db (o.clock name) name body := by
  by_cases hproviders : name = "providers"
  · subst hproviders
    apply iff_of_true
    · apply (typed_unchanged_iff (p := fun _ => True) rfl _).mpr fun _ _ => trivial
      intro ps
      rw [upsertEntry_providers]
      exact iff_of_true (fun _ h => by cases h) trivial
    · exact ⟨fun h => absurd h (by decide), fun h => absurd h (by decide), fun h => absurd h (by decide)⟩
  by_cases hmodels : name = "models"
  · subst hmodels
    rw [typed_unchanged_iff rfl fun _ => models_unchanged_iff]
    exact ⟨fun h => ⟨fun _ => h, fun h => absurd h (by decide), fun h => absurd h (by decide)⟩,
      fun h => h.models rfl⟩
  by_cases hchannels : name = "channels"
  · subst hchannels
    rw [typed_unchanged_iff rfl fun _ => channels_unchanged_iff]
    exact ⟨fun h => ⟨fun h => absurd h (by decide), fun _ => h, fun h => absurd h (by decide)⟩,
      fun h => h.channels rfl⟩
  by_cases hmappings : name = "modelMappings" ∨ name = "model_mappings"
  · have hdecode : decode o name body = rowsOf "invalid model_mappings: " .mapping (o.mappings body) := by
      rw [decode, if_neg hproviders, if_neg hmodels, if_neg hchannels, if_pos hmappings]
    rw [typed_unchanged_iff hdecode fun _ => mappings_unchanged_iff]
    exact ⟨fun h => ⟨fun h => absurd h hmodels, fun h => absurd h hchannels, fun _ => h⟩,
      fun h => h.mappings hmappings⟩
  · have hdecode : decode o name body = .error (.backend ("unknown seed entry type: " ++ name)) := by
      rw [decode, if_neg hproviders, if_neg hmodels, if_neg hchannels, if_neg hmappings]
    apply iff_of_true
    · intro err _
      rw [upsertNamed, hdecode]
    · exact ⟨fun h => absurd h hmodels, fun h => absurd h hchannels, fun h => absurd h hmappings⟩

theorem failed_entry_unchanged_iff :
    (∀ err, (fetchAndApplyEntry o base s e).2 = .error err →
      EntryUnchanged s e.1 (fetchAndApplyEntry o base s e).1) ↔
      ∀ body, o.fetch e.1 = .ok body → o.sha256 body = e.2.sha256 → Harmless o s.db (o.clock e.1) e.1 body := by
  unfold fetchAndApplyEntry
  cases hfetch : o.fetch e.1 with
  | error err =>
    rw [fetchEntry, hfetch]
    apply iff_of_true
    · exact fun _ _ => ⟨rfl, rfl⟩
    · intro body h
      cases h
  | ok body =>
    by_cases hhash : o.sha256 body = e.2.sha256
    · rw [fetchEntry, hfetch]
      simp only [if_pos hhash]
      have hbody : (∀ b, (.ok body : Except FetchError String) = .ok b → o.sha256 b = e.2.sha256 →
          Harmless o s.db (o.clock e.1) e.1 b) ↔ Harmless o s.db (o.clock e.1) e.1 body := by
        constructor
        · intro h
          exact h body rfl hhash
        · rintro h _ ⟨⟩ _
          exact h
      rw [hbody, ← upsertNamed_unchanged_iff]
      apply forall_congr'
      intro err
      obtain ⟨db, result⟩ := upsertNamed o s.db e.1 body
      cases result with
      | ok _ => exact iff_of_true (fun h => by cases h) (fun h => by cases h)
      | error err' =>
        apply imp_congr_right
        intro _
        exact ⟨fun h => h.tables, fun h => ⟨h, rfl⟩⟩
    · rw [fetchEntry, hfetch]
      simp only [if_neg hhash]
      apply iff_of_true
      · exact fun _ _ => ⟨rfl, rfl⟩
      · rintro _ ⟨⟩ h
        exact absurd h hhash

end

namespace Sample

def twoMappingsText : String :=
  "[\x7b\"id\":\"m1\",\"channel_id\":\"deepseek\",\"client_name\":\"sonnet\",\"upstream_name\":\"deepseek-chat\"\x7d," ++
    "\x7b\"id\":\"m2\",\"channel_id\":\"missing\",\"client_name\":\"opus\",\"upstream_name\":\"deepseek-chat\"\x7d]"

def twoMappingsHash : String := "6f0abb4ede8d76810969136c521c117bc90adbae130c2fd732124acc271d0eb0"

def missingChannel : ModelMapping := { mapping true with id := "m2", channelId := "missing", clientName := "opus" }

def twoMappings : Outside :=
  { outside with
    fetch := fun _ => .ok twoMappingsText
    sha256 := fun _ => twoMappingsHash
    mappings := fun _ => .ok [mapping true, missingChannel] }

def twoMappingsEntry : NamedEntry := ("model_mappings", ⟨"model_mappings.json", twoMappingsHash⟩)

def oneChannel : SeedStore := ⟨{ Database.empty with channels := .single (channel "sk-1") }, metadata⟩

end Sample

theorem failed_entry_keeps_first_row :
    (fetchAndApplyEntry Sample.twoMappings Sample.base Sample.oneChannel Sample.twoMappingsEntry).2 =
        .error (noChannel Sample.missingChannel) ∧
      ¬ ∀ err, (fetchAndApplyEntry Sample.twoMappings Sample.base Sample.oneChannel Sample.twoMappingsEntry).2 =
          .error err → EntryUnchanged Sample.oneChannel Sample.twoMappingsEntry.1
            (fetchAndApplyEntry Sample.twoMappings Sample.base Sample.oneChannel Sample.twoMappingsEntry).1 := by
  have herror : (fetchAndApplyEntry Sample.twoMappings Sample.base Sample.oneChannel Sample.twoMappingsEntry).2 =
      .error (noChannel Sample.missingChannel) := rfl
  have hrows : (fetchAndApplyEntry Sample.twoMappings Sample.base Sample.oneChannel
      Sample.twoMappingsEntry).1.db.mappings.rows.length = 1 := rfl
  apply And.intro herror
  intro h
  rw [(h _ herror).tables] at hrows
  exact absurd hrows (by decide)

end AgentProxy.Storage.SeedOps
