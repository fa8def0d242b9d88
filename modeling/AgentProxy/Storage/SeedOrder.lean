import AgentProxy.Storage.SeedEffect
import AgentProxy.Storage.SeedSwitches
import Mathlib.Data.List.Perm.Basic

namespace AgentProxy.Storage.SeedOps

structure SameContents (db db' : Database) : Prop where
  providers : ∀ id, db.providers.find? id = db'.providers.find? id
  models : ∀ id, db.models.find? id = db'.models.find? id
  channels : ∀ id, db.channels.find? id = db'.channels.find? id
  mappings : ∀ id, db.mappings.find? id = db'.mappings.find? id

section

variable (o : Outside) (base : String) (s : SeedStore)

def errorsOf (manifest : SeedManifest) : List String :=
  if manifest.version ≤ s.localVersion then [] else (refreshEntries o base s manifest.entries.rows).2

structure SameOutcome (m m' : SeedManifest) : Prop where
  errors : errorsOf o base s m = errorsOf o base s m'
  version :
    (SeedOps.seedRefresh o base s (.ok m)).1.localVersion = (SeedOps.seedRefresh o base s (.ok m')).1.localVersion
  tables : SameContents (SeedOps.seedRefresh o base s (.ok m)).1.db (SeedOps.seedRefresh o base s (.ok m')).1.db

/-- Every order in which the `HashMap` can yield the entries has the same outcome. -/
def OrderFree (manifest : SeedManifest) : Prop :=
  ∀ manifest' : SeedManifest, manifest'.version = manifest.version →
    manifest'.entries.rows.Perm manifest.entries.rows → SameOutcome o base s manifest' manifest

end

structure Referential (db : Database) (bs : List Body) : Prop where
  models : ∀ ms : List Model, ("models", .ok (ms.map .model)) ∈ bs → ∀ m ∈ ms, db.hasProvider m.providerId = true ∨
    ∃ ps : List Provider, ("providers", .ok (ps.map .provider)) ∈ bs ∧ ∃ p ∈ ps, p.id = m.providerId
  mappings : ∀ (name : String) (ms : List ModelMapping), (name, .ok (ms.map .mapping)) ∈ bs → ∀ m ∈ ms,
    db.hasChannel m.channelId = true ∨
      ∃ chs : List SeedChannel, ("channels", .ok (chs.map .channel)) ∈ bs ∧ ∃ ch ∈ chs, ch.id = m.channelId

def lastMapping (id : String) (b : Body) : Option ModelMapping :=
  match b.2 with
  | .ok rows => lastWritten id rows
  | .error _ => none

/-- No body waits for another one: the first model that is refused for its provider is refused with the
fetched providers as well, and the channels of all mappings are stored already. -/
structure Independent (o : Outside) (db : Database) (bs : List Body) : Prop where
  models : ∀ (ms : List Model) (ps : List Provider), ("models", .ok (ms.map .model)) ∈ bs →
    ("providers", .ok (ps.map .provider)) ∈ bs →
    ∀ m, Statements.refused (modelStep db.hasProvider (o.clock "models")) db.models ms = some m →
      ((ps.foldl (putProvider (o.clock "providers")) db.providers).find? m.providerId).isSome = false
  mappings : ∀ (name : String) (ms : List ModelMapping), (name, .ok (ms.map .mapping)) ∈ bs →
    ∀ m ∈ ms, db.hasChannel m.channelId = true

/-- Besides, two bodies that carry a mapping of one id end with the same row for it, and entries that fail
when they are applied alone report the same text. -/
structure Unordered (o : Outside) (db : Database) (bs : List Body) : Prop extends Independent o db bs where
  agree : ∀ b ∈ bs, ∀ c ∈ bs, ∀ id x y, lastMapping id b = some x → lastMapping id c = some y → x = y
  messages : ∀ b ∈ bs, ∀ c ∈ bs, ∀ e e', (applyBody o db b).2 = some e → (applyBody o db c).2 = some e' → e = e'

section

variable {o : Outside} {db : Database} {bs pre post : List Body} {b : Body} {id : String}

theorem providers_unwritten (hd : Distinct bs)
    (h : ¬ ∃ ps : List Provider, ("providers", .ok (ps.map .provider)) ∈ bs) :
    (applyBodies o db bs).1.providers = db.providers := by
  refine applyBodies_frame (fun b hb db => applyBody_providers_of_ne db (hd.typed b hb) fun ps heq => ?_) db
  exact h ⟨ps, heq ▸ hb⟩

theorem models_unwritten (hd : Distinct bs) (h : ¬ ∃ ms : List Model, ("models", .ok (ms.map .model)) ∈ bs) :
    (applyBodies o db bs).1.models = db.models := by
  refine applyBodies_frame (fun b hb db => applyBody_models_of_ne db (hd.typed b hb) fun ms heq => ?_) db
  exact h ⟨ms, heq ▸ hb⟩

theorem channels_unwritten (hd : Distinct bs)
    (h : ¬ ∃ chs : List SeedChannel, ("channels", .ok (chs.map .channel)) ∈ bs) :
    (applyBodies o db bs).1.channels = db.channels := by
  refine applyBodies_frame (fun b hb db => applyBody_channels_of_ne db (hd.typed b hb) fun chs heq => ?_) db
  exact h ⟨chs, heq ▸ hb⟩

theorem hasChannel_kept (bs : List Body) (h : db.hasChannel id = true) :
    (applyBodies o db bs).1.hasChannel id = true := by
  have hfind : (db.channels.find? id).map (fun _ => ()) = some () := by
    obtain ⟨row, hrow⟩ := Option.isSome_iff_exists.mp h
    rw [hrow, Option.map_some]
  have hkept := @applyBodies_column o Unit (fun _ => ()) (fun _ _ _ => rfl) db bs id () hfind
  obtain ⟨row, hrow, -⟩ := Option.map_eq_some_iff.mp hkept
  rw [Database.hasChannel, hrow, Option.isSome_some]

theorem Distinct.prefixed (hd : Distinct (pre ++ post)) : Distinct pre where
  names := (List.nodup_append.mp (List.map_append ▸ hd.names)).1
  typed := fun b hb => hd.typed b (List.mem_append_left _ hb)

theorem run_mappings_find {known : String → Bool} {t : Tables.Mappings} {ms : List ModelMapping}
    (hall : ∀ m ∈ ms, known m.channelId = true) :
    (Statements.run (mappingStep known) t ms).2 = .ok () ∧
      (Statements.run (mappingStep known) t ms).1.find? id = (lastWritten id (ms.map .mapping)).or (t.find? id) := by
  induction ms generalizing t with
  | nil => exact ⟨rfl, rfl⟩
  | cons m ms ih =>
    obtain ⟨hm, hms⟩ := List.forall_mem_cons.mp hall
    have hstep : mappingStep known t m = .ok (putMapping t m) := if_pos hm
    have hput : (putMapping t m).find? id = (written id (.mapping m)).or (t.find? id) := by
      rw [putMapping, find?_upsert_mapping, written]
      by_cases hid : id = m.id
      · rw [if_pos hid, if_pos hid.symm, Option.some_or]
      · rw [if_neg hid, if_neg (Ne.symm hid), Option.none_or]
    obtain ⟨hok, hfind⟩ := @ih (putMapping t m) hms
    rw [Statements.run_cons_ok hstep, List.map_cons, lastWritten_cons, Option.or_assoc, ← hput]
    exact ⟨hok, hfind⟩

theorem modelStep_more {known known' : String → Bool} {now : ℤ} (h : ∀ id, known id = true → known' id = true)
    (t : Tables.Models) (m : Model) (u : Tables.Models) (hstep : modelStep known now t m = .ok u) :
    modelStep known' now t m = .ok u := by
  obtain ⟨hrow, rfl⟩ := modelStep_ok hstep
  exact if_pos (hrow.imp_right (h m.providerId))

theorem find?_foldl_putProvider {t : Tables.Providers} {now : ℤ} {ps : List Provider} {row : Provider}
    (h : t.find? id = some row) : (ps.foldl (putProvider now) t).find? id = some row := by
  induction ps generalizing t with
  | nil => exact h
  | cons p ps ih =>
    apply ih
    obtain ⟨hmem, hid⟩ := (Table.find?_eq_some _).mp h
    exact (Table.find?_eq_some _).mpr ⟨Table.mem_insertOrIgnore hmem, hid⟩

theorem hasProvider_fetched (ps : List Provider) (h : db.hasProvider id = true) :
    ((ps.foldl (putProvider (o.clock "providers")) db.providers).find? id).isSome = true := by
  obtain ⟨row, hrow⟩ := Option.isSome_iff_exists.mp h
  rw [find?_foldl_putProvider hrow, Option.isSome_some]

theorem models_run_eq (hd : Distinct bs) (hi : Independent o db bs) {ms : List Model}
    (hsplit : bs = pre ++ ("models", .ok (ms.map .model)) :: post) :
    Statements.run (modelStep (applyBodies o db pre).1.hasProvider (o.clock "models")) db.models ms =
      Statements.run (modelStep db.hasProvider (o.clock "models")) db.models ms := by
  have hms : ("models", .ok (ms.map .model)) ∈ bs := hsplit ▸ List.mem_append_right _ List.mem_cons_self
  have hpre : Distinct pre := (hsplit ▸ hd).prefixed
  by_cases hps : ∃ ps : List Provider, ("providers", .ok (ps.map .provider)) ∈ pre
  · obtain ⟨ps, hps⟩ := hps
    have hknown : ∀ id, (applyBodies o db pre).1.hasProvider id =
        ((ps.foldl (putProvider (o.clock "providers")) db.providers).find? id).isSome := by
      intro id
      rw [Database.hasProvider, final_providers hpre hps]
    apply Statements.run_congr
    · apply modelStep_more
      intro id hid
      rw [hknown]
      exact hasProvider_fetched ps hid
    · intro m hm t e hstep
      have hnot := hi.models ms ps hms (hsplit ▸ List.mem_append_left _ hps) m hm
      obtain ⟨hclash, -, rfl⟩ := modelStep_error hstep
      apply if_neg
      rw [hknown, hnot]
      exact not_or.mpr ⟨hclash, Bool.false_ne_true⟩
  · have hsame : (applyBodies o db pre).1.hasProvider = db.hasProvider := by
      funext id
      rw [Database.hasProvider, Database.hasProvider, providers_unwritten hpre hps]
    rw [hsame]

theorem applyBody_error_eq (hd : Distinct bs) (hi : Independent o db bs) (hsplit : bs = pre ++ b :: post) :
    (applyBody o (applyBodies o db pre).1 b).2 = (applyBody o db b).2 := by
  have hb : b ∈ bs := hsplit ▸ List.mem_append_right _ List.mem_cons_self
  have hothers := hd.others hsplit
  cases hd.typed b hb with
  | failed name e => rfl
  | providers ps => rw [applyBody_ok, applyBody_ok, upsertEntry_providers, upsertEntry_providers]
  | models ms =>
    have hsame := (@applyBodies_alone o _ Database.models _ _ _ _ hsplit
      (fun c hc db => applyBody_models db (hothers c hc).1 (hothers c hc).2) db).2
    rw [applyBody_ok, applyBody_ok, upsertEntry_models, upsertEntry_models, hsame, models_run_eq hd hi hsplit]
  | channels chs =>
    have hsame := (@applyBodies_alone o _ Database.channels _ _ _ _ hsplit
      (fun c hc db => applyBody_channels db (hothers c hc).1 (hothers c hc).2) db).2
    rw [applyBody_ok, applyBody_ok, upsertEntry_channels, upsertEntry_channels, hsame]
  | @mappings name hname ms =>
    have hknown := hi.mappings name ms hb
    have hknown' : ∀ m ∈ ms, (applyBodies o db pre).1.hasChannel m.channelId = true :=
      fun m hm => hasChannel_kept pre (hknown m hm)
    rw [applyBody_ok, applyBody_ok, upsertEntry_mappings, upsertEntry_mappings,
      (@run_mappings_find "" _ _ _ hknown).1, (@run_mappings_find "" _ _ _ hknown').1]

theorem bodies_induction {p : List Body → Prop} (nil : p [])
    (last : ∀ pre b post, bs = pre ++ b :: post → p pre → p (pre ++ [b])) : p bs := by
  have hprefix : ∀ pre post, bs = pre ++ post → p pre := by
    intro pre
    induction pre using List.reverseRecOn with
    | nil => exact fun _ _ => nil
    | append_singleton pre b ih =>
      intro post hsplit
      rw [List.append_assoc, List.singleton_append] at hsplit
      exact last pre b post hsplit (ih (b :: post) hsplit)
  exact hprefix bs [] (List.append_nil bs).symm

theorem applyBodies_errors (hd : Distinct bs) (hi : Independent o db bs) :
    (applyBodies o db bs).2 = bs.filterMap fun b => (applyBody o db b).2 := by
  apply bodies_induction (p := fun bs => (applyBodies o db bs).2 = bs.filterMap fun b => (applyBody o db b).2) rfl
  intro pre b post hsplit ih
  have hlast : (applyBodies o (applyBodies o db pre).1 [b]).2 = (applyBody o db b).2.toList := by
    simp only [applyBodies, List.append_nil, applyBody_error_eq hd hi hsplit]
  rw [applyBodies_append, ih, hlast, List.filterMap_append]
  congr 1

theorem lastMapping_of_other {α : Type} {f : α → SeedRow} (name : String) (xs : List α)
    (h : ∀ x, written id (f x) = none) : lastMapping id (name, .ok (xs.map f)) = none := by
  simp only [lastMapping, lastWritten, List.filterMap_map, Function.comp_def, h, List.filterMap_none]
  rfl

theorem applyBody_find_mapping {db : Database} (hb : Typed b)
    (hknown : ∀ ms : List ModelMapping, b.2 = .ok (ms.map .mapping) → ∀ m ∈ ms, db.hasChannel m.channelId = true) :
    (applyBody o db b).1.mappings.find? id = (lastMapping id b).or (db.mappings.find? id) := by
  cases hb with
  | failed name e => rfl
  | providers ps =>
    rw [lastMapping_of_other "providers" ps fun _ => rfl, applyBody_ok, upsertEntry_providers, Option.none_or]
  | models ms => rw [lastMapping_of_other "models" ms fun _ => rfl, applyBody_ok, upsertEntry_models, Option.none_or]
  | channels chs =>
    rw [lastMapping_of_other "channels" chs fun _ => rfl, applyBody_ok, upsertEntry_channels, Option.none_or]
  | mappings hname ms =>
    rw [applyBody_ok, upsertEntry_mappings]
    exact (run_mappings_find (hknown ms rfl)).2

theorem applyBodies_find_mapping (hd : Distinct bs) (hi : Independent o db bs) :
    (applyBodies o db bs).1.mappings.find? id =
      (bs.filterMap (lastMapping id)).getLast?.or (db.mappings.find? id) := by
  refine bodies_induction (p := fun bs => (applyBodies o db bs).1.mappings.find? id =
    (bs.filterMap (lastMapping id)).getLast?.or (db.mappings.find? id)) rfl ?_
  intro pre b post hsplit ih
  have hb : b ∈ bs := hsplit ▸ List.mem_append_right _ List.mem_cons_self
  have hlast := @applyBody_find_mapping o b id (applyBodies o db pre).1 (hd.typed b hb)
    (fun ms hms m hm => hasChannel_kept pre (hi.mappings b.1 ms (hms ▸ hb) m hm))
  rw [applyBodies_append]
  change (applyBody o (applyBodies o db pre).1 b).1.mappings.find? id = _
  rw [hlast, ih, List.filterMap_append]
  cases hm : lastMapping id b with
  | none => rw [List.filterMap_cons_none hm, List.filterMap_nil, List.append_nil, Option.none_or]
  | some m =>
    rw [List.filterMap_cons_some hm, List.getLast?_append]
    rfl

theorem perm_eq_of_constant {α : Type} {xs ys : List α} (h : xs.Perm ys) (hall : ∀ a ∈ xs, ∀ b ∈ xs, a = b) :
    xs = ys := by
  cases xs with
  | nil => exact h.nil_eq
  | cons a xs =>
    have hxs : a :: xs = List.replicate (xs.length + 1) a :=
      List.eq_replicate_of_mem fun b hb => hall b hb a List.mem_cons_self
    rw [hxs] at h ⊢
    exact List.replicate_perm.mp h

theorem Distinct.perm {bs' : List Body} (hd : Distinct bs) (hperm : bs'.Perm bs) : Distinct bs' where
  names := (hperm.map Prod.fst).nodup_iff.mpr hd.names
  typed := fun b hb => hd.typed b (hperm.mem_iff.mp hb)

theorem Independent.perm {bs' : List Body} (hi : Independent o db bs) (hperm : bs'.Perm bs) : Independent o db bs' where
  models := fun ms ps hms hps => hi.models ms ps (hperm.mem_iff.mp hms) (hperm.mem_iff.mp hps)
  mappings := fun name ms hms => hi.mappings name ms (hperm.mem_iff.mp hms)

theorem errors_perm {bs' : List Body} (hd : Distinct bs) (hu : Unordered o db bs) (hperm : bs'.Perm bs) :
    (applyBodies o db bs').2 = (applyBodies o db bs).2 := by
  rw [applyBodies_errors (hd.perm hperm) (hu.toIndependent.perm hperm), applyBodies_errors hd hu.toIndependent]
  refine perm_eq_of_constant (hperm.filterMap _) fun e he e' he' => ?_
  obtain ⟨b, hb, heb⟩ := List.mem_filterMap.mp he
  obtain ⟨c, hc, hec⟩ := List.mem_filterMap.mp he'
  exact hu.messages b (hperm.mem_iff.mp hb) c (hperm.mem_iff.mp hc) e e' heb hec

theorem table_perm {bs' : List Body} {α τ : Type} {table : Database → τ} {row : α → SeedRow} {name : String}
    {value : List α → τ} (hd : Distinct bs) (hperm : bs'.Perm bs)
    (hwritten : ∀ {bs'}, bs'.Perm bs → ∀ {xs}, (name, .ok (xs.map row)) ∈ bs' →
      table (applyBodies o db bs').1 = value xs)
    (hunwritten : ∀ {bs'}, Distinct bs' → (¬ ∃ xs : List α, (name, .ok (xs.map row)) ∈ bs') →
      table (applyBodies o db bs').1 = table db) :
    table (applyBodies o db bs').1 = table (applyBodies o db bs).1 := by
  by_cases h : ∃ xs : List α, (name, .ok (xs.map row)) ∈ bs
  · obtain ⟨xs, hxs⟩ := h
    rw [hwritten (List.Perm.refl bs) hxs, hwritten hperm (hperm.mem_iff.mpr hxs)]
  · rw [hunwritten hd h, hunwritten (hd.perm hperm) (by simpa only [hperm.mem_iff] using h)]

theorem final_models_alone (hd : Distinct bs) (hi : Independent o db bs) {ms : List Model}
    (hms : ("models", .ok (ms.map .model)) ∈ bs) :
    (applyBodies o db bs).1.models =
      (Statements.run (modelStep db.hasProvider (o.clock "models")) db.models ms).1 := by
  obtain ⟨pre, post, hsplit⟩ := List.append_of_mem hms
  rw [final_models hd hsplit, models_run_eq hd hi hsplit]

theorem mappings_perm {bs' : List Body} (hd : Distinct bs) (hu : Unordered o db bs) (hperm : bs'.Perm bs) :
    (applyBodies o db bs').1.mappings.find? id = (applyBodies o db bs).1.mappings.find? id := by
  rw [applyBodies_find_mapping hd hu.toIndependent,
    applyBodies_find_mapping (hd.perm hperm) (hu.toIndependent.perm hperm)]
  have hsame : bs'.filterMap (lastMapping id) = bs.filterMap (lastMapping id) := by
    refine perm_eq_of_constant (hperm.filterMap _) fun x hx y hy => ?_
    obtain ⟨b, hb, hbx⟩ := List.mem_filterMap.mp hx
    obtain ⟨c, hc, hcy⟩ := List.mem_filterMap.mp hy
    exact hu.agree b (hperm.mem_iff.mp hb) c (hperm.mem_iff.mp hc) id x y hbx hcy
  rw [hsame]

theorem contents_perm {bs' : List Body} (hd : Distinct bs) (hu : Unordered o db bs) (hperm : bs'.Perm bs) :
    SameContents (applyBodies o db bs').1 (applyBodies o db bs).1 := by
  have hproviders : (applyBodies o db bs').1.providers = (applyBodies o db bs).1.providers :=
    table_perm hd hperm (fun hperm _ hps => final_providers (hd.perm hperm) hps) providers_unwritten
  have hmodels : (applyBodies o db bs').1.models = (applyBodies o db bs).1.models :=
    table_perm hd hperm (fun hperm _ hms => final_models_alone (hd.perm hperm) (hu.toIndependent.perm hperm) hms)
      models_unwritten
  have hchannels : (applyBodies o db bs').1.channels = (applyBodies o db bs).1.channels :=
    table_perm hd hperm (fun hperm _ hchs => final_channels (hd.perm hperm) hchs) channels_unwritten
  refine ⟨?_, ?_, ?_, ?_⟩
  · intro id
    rw [hproviders]
  · intro id
    rw [hmodels]
  · intro id
    rw [hchannels]
  · intro id
    exact mappings_perm hd hu hperm

end

end AgentProxy.Storage.SeedOps
