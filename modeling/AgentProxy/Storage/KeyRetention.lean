import AgentProxy.Storage.SeedBodies

namespace AgentProxy.Storage.KeyRetention

open SeedOps

/-- The tables of the schema that no channel operation reads or writes (aliases, cost records, switch logs,
fees, auth keys) are the component `rest`. -/
structure Store (ω : Type) where
  seeds : SeedStore
  rest : ω

inductive Op (ω : Type) where
  | upsertChannel (ch : Channel) (now : ℤ)
  | updateChannel (id : String) (u : ChannelUpdate) (now : ℤ)
  | setChannelEnabled (id : String) (enabled : Bool) (now : ℤ)
  | setChannelApiKey (id key : String) (now : ℤ)
  | deleteChannel (id : String)
  | markChannelHealthy (id : String) (now : ℤ)
  | recordChannelFailure (id : String) (now : ℤ) (cooldown : String)
  | seedInit (o : Outside) (b : Embedded)
  | seedRefresh (o : Outside) (base : String) (fetched : Except StorageError SeedManifest)
  | upsertMapping (m : ModelMapping)
  | setMappingEnabled (id : String) (enabled : Bool)
  | deleteMapping (id : String)
  | elsewhere (f : ω → ω)

namespace Store

variable {ω : Type}

def apiKey? (s : Store ω) (id : String) : Option String := s.seeds.db.apiKey? id

def write (s : Store ω) (result : Except StorageError Database) : Store ω :=
  match result with
  | .ok db => { s with seeds := { s.seeds with db } }
  | .error _ => s

def apply (s : Store ω) : Op ω → Store ω
  | .upsertChannel ch now => s.write (upsertChannel s.seeds.db ch now)
  | .updateChannel id u now => s.write (updateChannel s.seeds.db id u now)
  | .setChannelEnabled id enabled now => s.write (setChannelEnabled s.seeds.db id enabled now)
  | .setChannelApiKey id key now => s.write (setChannelApiKey s.seeds.db id key now)
  | .deleteChannel id => s.write (deleteChannel s.seeds.db id)
  | .markChannelHealthy id now => s.write (markChannelHealthy s.seeds.db id now)
  | .recordChannelFailure id now cooldown =>
    s.write (.ok (recordChannelFailure s.seeds.db id now cooldown).1)
  | .seedInit o b => { s with seeds := (seedInit o b s.seeds).1 }
  | .seedRefresh o base fetched => { s with seeds := (SeedOps.seedRefresh o base s.seeds fetched).1 }
  | .upsertMapping m => s.write (upsertMapping s.seeds.db m)
  | .setMappingEnabled id enabled => s.write (setMappingEnabled s.seeds.db id enabled)
  | .deleteMapping id => s.write (deleteMapping s.seeds.db id)
  | .elsewhere f => { s with rest := f s.rest }

def after (s : Store ω) (ops : List (Op ω)) : Store ω := ops.foldl apply s

end Store

def Clears {ω : Type} (id : String) : Op ω → Prop
  | .setChannelApiKey c key _ => c = id ∧ key = ""
  | .deleteChannel c => c = id
  | _ => False

section

variable {o : Outside} {db : Database} {id key : String}

theorem applyEach_apiKey {bodies : List (String × String)} (hkey : db.apiKey? id = some key) :
    (applyEach o db bodies).1.apiKey? id = some key := by
  induction bodies generalizing db with
  | nil => exact hkey
  | cons p rest ih =>
    have hfirst : (upsertNamed o db p.1 p.2).1.apiKey? id = some key := by
      unfold upsertNamed
      split
      · exact upsertEntry_column (fun _ _ _ => rfl) _ _ hkey
      · exact hkey
    simp only [applyEach]
    split
    · rename_i hentry
      rw [hentry] at hfirst
      exact ih hfirst
    · rename_i hentry
      rwa [hentry] at hfirst

theorem applyAllEntries_apiKey {s : SeedStore} {b : Embedded} {source : String} (hkey : s.db.apiKey? id = some key) :
    (applyAllEntries o s b source).1.db.apiKey? id = some key := by
  have h := fun bodies => @applyEach_apiKey o s.db id key bodies hkey
  unfold applyAllEntries
  dsimp only
  split
  all_goals
    rename_i hentries
    have hdb := congrArg (fun r => r.1.apiKey? id) hentries
    exact hdb.symm.trans (h _)

theorem seedInit_apiKey {s : SeedStore} {b : Embedded} (hkey : s.db.apiKey? id = some key) :
    (seedInit o b s).1.db.apiKey? id = some key := by
  have h := @applyAllEntries_apiKey o id key s b "embedded" hkey
  unfold seedInit
  split_ifs
  · exact hkey
  · split
    · rename_i hentries
      rwa [hentries] at h
    · rename_i hentries
      rw [hentries] at h
      cases b.version with
      | error e => exact h
      | ok version => exact h

end

section

variable {ω : Type} {s : Store ω} {id key : String}

theorem write_apiKey {result : Except StorageError Database} (hne : key ≠ "") (hkey : s.apiKey? id = some key)
    (h : ∀ db, result = .ok db → ∃ later, later ≠ "" ∧ db.apiKey? id = some later) :
    ∃ later, later ≠ "" ∧ (s.write result).apiKey? id = some later := by
  cases result with
  | error e => exact ⟨key, hne, hkey⟩
  | ok db => exact h db rfl

theorem write_same {result : Except StorageError Database} (hne : key ≠ "") (hkey : s.apiKey? id = some key)
    (h : ∀ db, result = .ok db → db.apiKey? = s.seeds.db.apiKey?) :
    ∃ later, later ≠ "" ∧ (s.write result).apiKey? id = some later := by
  apply write_apiKey hne hkey
  intro db hdb
  rw [h db hdb]
  exact ⟨key, hne, hkey⟩

theorem upsertChannel_kept {ch : Channel} {now : ℤ} (hempty : ch.apiKey = "") (hkey : s.apiKey? id = some key) :
    (s.apply (.upsertChannel ch now)).apiKey? id = some key := by
  simp only [Store.apply, Store.write]
  split
  · rename_i db hdb
    have h := upsertChannel_apiKey hdb hkey
    rwa [if_neg fun h => h.2 hempty] at h
  · exact hkey

theorem apply_apiKey {op : Op ω} (hop : ¬ Clears id op) (hne : key ≠ "") (hkey : s.apiKey? id = some key) :
    ∃ later, later ≠ "" ∧ (s.apply op).apiKey? id = some later := by
  cases op with
  | upsertChannel ch now =>
    apply write_apiKey hne hkey
    intro db hdb
    refine ⟨_, ?_, upsertChannel_apiKey hdb hkey⟩
    split_ifs with h
    · exact h.2
    · exact hne
  | updateChannel c u now => exact write_same hne hkey fun _ => updateChannel_apiKey
  | setChannelEnabled c enabled now => exact write_same hne hkey fun _ => setChannelEnabled_apiKey
  | setChannelApiKey c new now =>
    apply write_apiKey hne hkey
    intro db hdb
    rw [setChannelApiKey_apiKey hdb]
    by_cases hc : id = c
    · rw [hc, Function.update_self]
      exact ⟨new, fun hnew => hop ⟨hc.symm, hnew⟩, rfl⟩
    · rw [Function.update_of_ne hc]
      exact ⟨key, hne, hkey⟩
  | deleteChannel c =>
    apply write_apiKey hne hkey
    intro db hdb
    rw [deleteChannel_apiKey hdb, Function.update_of_ne fun hc => hop hc.symm]
    exact ⟨key, hne, hkey⟩
  | markChannelHealthy c now => exact write_same hne hkey fun _ => markChannelHealthy_apiKey
  | recordChannelFailure c now cooldown =>
    apply write_same hne hkey
    intro db hdb
    cases hdb
    exact recordChannelFailure_apiKey c now cooldown
  | seedInit o b => exact ⟨key, hne, seedInit_apiKey hkey⟩
  | seedRefresh o base fetched => exact ⟨key, hne, seedRefresh_column (fun _ _ _ => rfl) fetched hkey⟩
  | upsertMapping m => exact write_same hne hkey fun _ => upsertMapping_apiKey
  | setMappingEnabled c enabled => exact write_same hne hkey fun _ => setMappingEnabled_apiKey
  | deleteMapping c => exact write_same hne hkey fun _ => deleteMapping_apiKey
  | elsewhere f => exact ⟨key, hne, hkey⟩

theorem after_apiKey {ops : List (Op ω)} (hops : ∀ op ∈ ops, ¬ Clears id op) (hne : key ≠ "")
    (hkey : s.apiKey? id = some key) : ∃ later, later ≠ "" ∧ (s.after ops).apiKey? id = some later := by
  induction ops generalizing s key with
  | nil => exact ⟨key, hne, hkey⟩
  | cons op ops ih =>
    obtain ⟨hop, hrest⟩ := List.forall_mem_cons.mp hops
    obtain ⟨later, hlater, hnext⟩ := apply_apiKey hop hne hkey
    exact ih hrest hlater hnext

end

namespace Sample

def store : Store Unit :=
  ⟨⟨{ Database.empty with channels := .single (SeedOps.Sample.channel "sk") }, fun _ => none⟩, ()⟩

def ops : List (Op Unit) :=
  [.upsertChannel (SeedOps.Sample.channel "") 1, .updateChannel "deepseek" { name := some "D" } 2,
    .setChannelApiKey "deepseek" "" 3]

end Sample

theorem apiKey_lost_only_if_cleared {ω : Type} (s : Store ω) {id key : String} (hkey : s.apiKey? id = some key) :
    (key ≠ "" → ∀ ops : List (Op ω), ((s.after ops).apiKey? id = none ∨ (s.after ops).apiKey? id = some "") →
      ∃ op ∈ ops, Clears id op) ∧
    ∀ (ch : Channel) (now : ℤ), ch.apiKey = "" → (s.apply (.upsertChannel ch now)).apiKey? id = some key := by
  constructor
  · intro hne ops hlost
    by_contra hnone
    have hops : ∀ op ∈ ops, ¬ Clears id op := fun op hop hclears => hnone ⟨op, hop, hclears⟩
    obtain ⟨later, hlater, hstored⟩ := after_apiKey hops hne hkey
    rcases hlost with h | h
    · exact absurd (hstored.symm.trans h) (by simp)
    · exact hlater (Option.some.inj (hstored.symm.trans h))
  · intro ch now hempty
    exact upsertChannel_kept hempty hkey

theorem apiKey_lost_sample :
    (Sample.store.after Sample.ops).apiKey? "deepseek" = some "" ∧
      ∃ op ∈ Sample.ops, Clears "deepseek" op := by
  have hlost : (Sample.store.after Sample.ops).apiKey? "deepseek" = some "" := by decide +kernel
  have hkey : Sample.store.apiKey? "deepseek" = some "sk" := by decide +kernel
  exact ⟨hlost, (apiKey_lost_only_if_cleared Sample.store hkey).1 (by decide) Sample.ops (.inr hlost)⟩

end AgentProxy.Storage.KeyRetention
