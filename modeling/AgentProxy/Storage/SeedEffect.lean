import AgentProxy.Storage.SeedBodies
import AgentProxy.Storage.SeedTables

namespace AgentProxy.Storage.SeedOps

def IsMappings (name : String) : Prop := name = "modelMappings" ∨ name = "model_mappings"

inductive Typed : Body → Prop
  | failed (name : String) (e : StorageError) : Typed (name, .error e)
  | providers (ps : List Provider) : Typed ("providers", .ok (ps.map .provider))
  | models (ms : List Model) : Typed ("models", .ok (ms.map .model))
  | channels (chs : List SeedChannel) : Typed ("channels", .ok (chs.map .channel))
  | mappings {name : String} (hname : IsMappings name) (ms : List ModelMapping) :
    Typed (name, .ok (ms.map .mapping))

structure Distinct (bs : List Body) : Prop where
  names : (bs.map Prod.fst).Nodup
  typed : ∀ b ∈ bs, Typed b

section

variable {o : Outside} {base : String}

theorem rowsOf_typed {α : Type} {label : String} {row : α → SeedRow} {name : String}
    (result : Except String (List α)) (h : ∀ xs : List α, Typed (name, .ok (xs.map row))) :
    Typed (name, rowsOf label row result) := by
  cases result with
  | error e => exact .failed _ _
  | ok xs => exact h xs

theorem decode_typed (name json : String) : Typed (name, decode o name json) := by
  unfold decode
  split_ifs with hp hm hc hx
  · rw [hp]
    exact rowsOf_typed _ Typed.providers
  · rw [hm]
    exact rowsOf_typed _ Typed.models
  · rw [hc]
    exact rowsOf_typed _ Typed.channels
  · exact rowsOf_typed _ (Typed.mappings hx)
  · exact .failed _ _

theorem body_typed (e : NamedEntry) : Typed (body o base e) := by
  unfold body
  cases fetchEntry o base e with
  | error err => exact .failed _ _
  | ok json => exact decode_typed e.1 json

theorem mapping_row_typed {b : Body} (hb : Typed b) {rows : List SeedRow} (hrows : b.2 = .ok rows) {m : ModelMapping}
    (hm : .mapping m ∈ rows) : IsMappings b.1 ∧ ∃ ms : List ModelMapping, b.2 = .ok (ms.map .mapping) ∧ m ∈ ms := by
  cases hb with
  | failed name e => cases hrows
  | providers ps =>
    cases hrows
    simp at hm
  | models ms =>
    cases hrows
    simp at hm
  | channels chs =>
    cases hrows
    simp at hm
  | mappings hname ms =>
    cases hrows
    exact ⟨hname, ms, rfl, by simpa using hm⟩

theorem pending_distinct {metadata : String → Option String} {es : List NamedEntry} (h : (es.map Prod.fst).Nodup) :
    Distinct (pending o base metadata es) := by
  constructor
  · have hnames : (pending o base metadata es).map Prod.fst =
        (es.filter fun e => metadata (hashKey e.1) ≠ some e.2.sha256).map Prod.fst := by
      simp only [pending, List.map_map]
      rfl
    rw [hnames]
    exact h.sublist (List.filter_sublist.map Prod.fst)
  · intro b hb
    obtain ⟨e, -, rfl⟩ := List.mem_map.mp hb
    exact body_typed e

section

variable (db : Database)

theorem applyBody_ok (name : String) (rows : List SeedRow) :
    applyBody o db (name, .ok rows) = ((upsertEntry db (o.clock name) rows).1,
      match (upsertEntry db (o.clock name) rows).2 with
      | .ok () => none
      | .error e => some (message name e)) := by
  unfold applyBody
  dsimp only
  rcases upsertEntry db (o.clock name) rows with ⟨db', e | ok⟩
  · rfl
  · rfl

theorem applyBody_providers_of_ne {b : Body} (hb : Typed b)
    (h : ∀ ps : List Provider, b ≠ ("providers", .ok (ps.map .provider))) :
    (applyBody o db b).1.providers = db.providers := by
  cases hb with
  | failed name e => rfl
  | providers ps => exact absurd rfl (h ps)
  | models ms => rw [applyBody_ok, upsertEntry_models]
  | channels chs => rw [applyBody_ok, upsertEntry_channels]
  | mappings hname ms => rw [applyBody_ok, upsertEntry_mappings]

theorem applyBody_providers {b : Body} (hb : Typed b) (hname : b.1 ≠ "providers") :
    (applyBody o db b).1.providers = db.providers :=
  applyBody_providers_of_ne db hb fun _ h => hname (congrArg Prod.fst h)

theorem applyBody_models_of_ne {b : Body} (hb : Typed b)
    (h : ∀ ms : List Model, b ≠ ("models", .ok (ms.map .model))) : (applyBody o db b).1.models = db.models := by
  cases hb with
  | failed name e => rfl
  | providers ps => rw [applyBody_ok, upsertEntry_providers]
  | models ms => exact absurd rfl (h ms)
  | channels chs => rw [applyBody_ok, upsertEntry_channels]
  | mappings hname ms => rw [applyBody_ok, upsertEntry_mappings]

theorem applyBody_models {b : Body} (hb : Typed b) (hname : b.1 ≠ "models") :
    (applyBody o db b).1.models = db.models :=
  applyBody_models_of_ne db hb fun _ h => hname (congrArg Prod.fst h)

theorem applyBody_channels_of_ne {b : Body} (hb : Typed b)
    (h : ∀ chs : List SeedChannel, b ≠ ("channels", .ok (chs.map .channel))) :
    (applyBody o db b).1.channels = db.channels := by
  cases hb with
  | failed name e => rfl
  | providers ps => rw [applyBody_ok, upsertEntry_providers]
  | models ms => rw [applyBody_ok, upsertEntry_models]
  | channels chs => exact absurd rfl (h chs)
  | mappings hname ms => rw [applyBody_ok, upsertEntry_mappings]

theorem applyBody_channels {b : Body} (hb : Typed b) (hname : b.1 ≠ "channels") :
    (applyBody o db b).1.channels = db.channels :=
  applyBody_channels_of_ne db hb fun _ h => hname (congrArg Prod.fst h)

end

theorem applyBodies_frame {τ : Type} {table : Database → τ} {bs : List Body}
    (h : ∀ b ∈ bs, ∀ db, table (applyBody o db b).1 = table db) (db : Database) :
    table (applyBodies o db bs).1 = table db := by
  induction bs generalizing db with
  | nil => rfl
  | cons b bs ih =>
    obtain ⟨hb, hrest⟩ := List.forall_mem_cons.mp h
    exact (ih hrest _).trans (hb db)

theorem applyBodies_alone {τ : Type} {table : Database → τ} {bs pre post : List Body} {b : Body}
    (hsplit : bs = pre ++ b :: post) (hother : ∀ c ∈ pre ++ post, ∀ db, table (applyBody o db c).1 = table db)
    (db : Database) :
    table (applyBodies o db bs).1 = table (applyBody o (applyBodies o db pre).1 b).1 ∧
      table (applyBodies o db pre).1 = table db := by
  rw [hsplit, applyBodies_append]
  constructor
  · exact applyBodies_frame (fun c hc => hother c (List.mem_append_right _ hc)) _
  · exact applyBodies_frame (fun c hc => hother c (List.mem_append_left _ hc)) _

theorem Distinct.others {bs pre post : List Body} {b : Body} (h : Distinct bs) (hsplit : bs = pre ++ b :: post) :
    ∀ c ∈ pre ++ post, Typed c ∧ c.1 ≠ b.1 := by
  subst hsplit
  intro c hc
  have hperm : (pre ++ b :: post).Perm (b :: (pre ++ post)) := List.perm_middle
  have hnames := (hperm.map Prod.fst).nodup_iff.mp h.names
  rw [List.map_cons, List.nodup_cons] at hnames
  constructor
  · exact h.typed c (hperm.mem_iff.mpr (List.mem_cons_of_mem _ hc))
  · intro hname
    exact hnames.1 (hname ▸ List.mem_map_of_mem hc)

variable {bs : List Body} {db : Database}

theorem final_providers (h : Distinct bs) {ps : List Provider} (hps : ("providers", .ok (ps.map .provider)) ∈ bs) :
    (applyBodies o db bs).1.providers = ps.foldl (putProvider (o.clock "providers")) db.providers := by
  obtain ⟨pre, post, hsplit⟩ := List.append_of_mem hps
  obtain ⟨hfinal, hpre⟩ := @applyBodies_alone o _ Database.providers _ _ _ _ hsplit
    (fun c hc db => applyBody_providers db (h.others hsplit c hc).1 (h.others hsplit c hc).2) db
  rw [hfinal, applyBody_ok, upsertEntry_providers, hpre]

theorem final_channels (h : Distinct bs) {chs : List SeedChannel} (hchs : ("channels", .ok (chs.map .channel)) ∈ bs) :
    (applyBodies o db bs).1.channels =
      (Statements.run (channelStep (o.clock "channels")) db.channels chs).1 := by
  obtain ⟨pre, post, hsplit⟩ := List.append_of_mem hchs
  obtain ⟨hfinal, hpre⟩ := @applyBodies_alone o _ Database.channels _ _ _ _ hsplit
    (fun c hc db => applyBody_channels db (h.others hsplit c hc).1 (h.others hsplit c hc).2) db
  rw [hfinal, applyBody_ok, upsertEntry_channels, hpre]

theorem final_models (h : Distinct bs) {ms : List Model} {pre post : List Body}
    (hsplit : bs = pre ++ ("models", .ok (ms.map .model)) :: post) :
    (applyBodies o db bs).1.models =
      (Statements.run (modelStep (applyBodies o db pre).1.hasProvider (o.clock "models")) db.models ms).1 := by
  obtain ⟨hfinal, hpre⟩ := @applyBodies_alone o _ Database.models _ _ _ _ hsplit
    (fun c hc db => applyBody_models db (h.others hsplit c hc).1 (h.others hsplit c hc).2) db
  rw [hfinal, applyBody_ok, upsertEntry_models, hpre]

end

end AgentProxy.Storage.SeedOps
