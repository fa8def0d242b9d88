import AgentProxy.Lib.Absorb
import AgentProxy.Storage.SeedOps
import AgentProxy.Storage.SeedTables

namespace AgentProxy.Storage

open Tables

structure Bodies where
  providers : List Provider
  models : List Model
  channels : List SeedChannel
  mappings : List ModelMapping

inductive Kind where
  | providers
  | models
  | channels
  | mappings
  deriving DecidableEq

namespace Bodies

def rows (b : Bodies) : Kind → List SeedRow
  | .providers => b.providers.map .provider
  | .models => b.models.map .model
  | .channels => b.channels.map .channel
  | .mappings => b.mappings.map .mapping

structure Distinct (b : Bodies) : Prop where
  providers : (b.providers.map Provider.id).Nodup
  models : (b.models.map Model.id).Nodup
  channels : (b.channels.map SeedChannel.id).Nodup
  mappings : (b.mappings.map ModelMapping.id).Nodup

def applyAll (b : Bodies) (clock : Kind → ℤ) (db : Database) : Database × Except StorageError Unit :=
  match upsertEntry db (clock .providers) (b.rows .providers) with
  | (db, .error e) => (db, .error e)
  | (db, .ok ()) =>
    match upsertEntry db (clock .models) (b.rows .models) with
    | (db, .error e) => (db, .error e)
    | (db, .ok ()) =>
      match upsertEntry db (clock .channels) (b.rows .channels) with
      | (db, .error e) => (db, .error e)
      | (db, .ok ()) => upsertEntry db (clock .mappings) (b.rows .mappings)

structure DecodedFrom (b : Bodies) (o : SeedOps.Outside) (e : SeedOps.Embedded) : Prop where
  providers : o.providers e.providers = .ok b.providers
  models : o.models e.models = .ok b.models
  channels : o.channels e.channels = .ok b.channels
  mappings : o.mappings e.mappings = .ok b.mappings

def clockOf (o : SeedOps.Outside) : Kind → ℤ
  | .providers => o.clock "providers"
  | .models => o.clock "models"
  | .channels => o.clock "channels"
  | .mappings => o.clock "model_mappings"

theorem applyAllEntries_eq {b : Bodies} {o : SeedOps.Outside} {e : SeedOps.Embedded} (h : b.DecodedFrom o e)
    (s : SeedOps.SeedStore) (source : String) :
    (SeedOps.applyAllEntries o s e source).1.db = (b.applyAll (clockOf o) s.db).1 ∧
      (SeedOps.applyAllEntries o s e source).2 = (b.applyAll (clockOf o) s.db).2 := by
  have hp : SeedOps.decode o "providers" e.providers = .ok (b.rows .providers) := by
    rw [SeedOps.decode, if_pos rfl, h.providers]
    rfl
  have hm : SeedOps.decode o "models" e.models = .ok (b.rows .models) := by
    rw [SeedOps.decode, if_neg (by decide), if_pos rfl, h.models]
    rfl
  have hc : SeedOps.decode o "channels" e.channels = .ok (b.rows .channels) := by
    rw [SeedOps.decode, if_neg (by decide), if_neg (by decide), if_pos rfl, h.channels]
    rfl
  have hx : SeedOps.decode o "model_mappings" e.mappings = .ok (b.rows .mappings) := by
    rw [SeedOps.decode, if_neg (by decide), if_neg (by decide), if_neg (by decide), if_pos (.inr rfl), h.mappings]
    rfl
  have heach : SeedOps.applyEach o s.db [("providers", e.providers), ("models", e.models), ("channels", e.channels),
      ("model_mappings", e.mappings)] = b.applyAll (clockOf o) s.db := by
    simp only [SeedOps.applyEach, SeedOps.upsertNamed, hp, hm, hc, hx, applyAll, clockOf]
    rcases upsertEntry s.db (o.clock "providers") (b.rows .providers) with ⟨db₁, e₁ | ok₁⟩
    · rfl
    dsimp only
    rcases upsertEntry db₁ (o.clock "models") (b.rows .models) with ⟨db₂, e₂ | ok₂⟩
    · rfl
    dsimp only
    rcases upsertEntry db₂ (o.clock "channels") (b.rows .channels) with ⟨db₃, e₃ | ok₃⟩
    · rfl
    dsimp only
    rcases upsertEntry db₃ (o.clock "model_mappings") (b.rows .mappings) with ⟨db₄, e₄ | ok₄⟩
    · rfl
    · rfl
  unfold SeedOps.applyAllEntries
  dsimp only
  rw [heach]
  rcases b.applyAll (clockOf o) s.db with ⟨db, err | ok⟩
  · exact ⟨rfl, rfl⟩
  · exact ⟨rfl, rfl⟩

end Bodies

/-- An application that is cut off after `count` row statements of one body, or at its first failure. -/
structure Attempt where
  kind : Kind
  count : ℕ
  now : ℤ

def attempt (b : Bodies) (db : Database) (a : Attempt) : Database :=
  (upsertEntry db a.now ((b.rows a.kind).take a.count)).1

def Provider.timeless (p : Provider) : Provider := { p with createdAt := 0 }

def Model.timeless (m : Model) : Model := { m with createdAt := 0 }

def Channel.timeless (ch : Channel) : Channel := { ch with createdAt := 0, updatedAt := 0 }

def Tables.Providers.timeless (t : Providers) : Providers := t.mapRows Provider.timeless fun _ => rfl

def Tables.Models.timeless (t : Models) : Models := t.mapRows Model.timeless fun _ => rfl

def Tables.Channels.timeless (t : Channels) : Channels := t.mapRows Channel.timeless fun _ => rfl

def Database.timeless (db : Database) : Database where
  providers := Providers.timeless db.providers
  models := Models.timeless db.models
  channels := Channels.timeless db.channels
  mappings := db.mappings

def SameTables (db db' : Database) : Prop := db.timeless = db'.timeless

section

variable (known : String → Bool) (now : ℤ)

def insertProvider (t : Providers) (p : Provider) : Providers := t.insertOrIgnore Provider.name p.timeless

def insertModel (t : Models) (m : Model) : Models := t.insertOrIgnore Model.clientName m.timeless

def timelessModelStep (t : Models) (m : Model) : Except StorageError Models :=
  if t.Clash Model.clientName m ∨ known m.providerId then .ok (insertModel t m) else .error foreignKeyFailed

theorem putProvider_timeless (t : Providers) (p : Provider) :
    Providers.timeless (putProvider now t p) = insertProvider (Providers.timeless t) p :=
  Table.insertOrIgnore_mapRows fun _ => rfl

theorem putModel_timeless (t : Models) (m : Model) :
    Models.timeless (putModel now t m) = insertModel (Models.timeless t) m :=
  Table.insertOrIgnore_mapRows fun _ => rfl

theorem putChannel_timeless (t : Channels) (ch : SeedChannel) :
    Channels.timeless (putChannel now t ch) = putChannel 0 (Channels.timeless t) ch :=
  Table.upsert_mapRows fun _ => rfl

theorem foldl_putProvider_timeless (t : Providers) (ps : List Provider) :
    Providers.timeless (ps.foldl (putProvider now) t) = ps.foldl insertProvider (Providers.timeless t) := by
  induction ps generalizing t with
  | nil => rfl
  | cons p ps ih =>
    rw [List.foldl_cons, List.foldl_cons, ih, putProvider_timeless]

theorem modelStep_timeless (t : Models) (m : Model) :
    timelessModelStep known (Models.timeless t) m = (modelStep known now t m).map Models.timeless := by
  have hclash : (Models.timeless t).Clash Model.clientName m ↔ t.Clash Model.clientName m :=
    Table.clash_mapRows fun _ => rfl
  unfold timelessModelStep modelStep
  by_cases h : t.Clash Model.clientName m ∨ known m.providerId = true
  · rw [if_pos h, if_pos (h.imp_left hclash.mpr), Except.map, putModel_timeless]
  · rw [if_neg h, if_neg (mt (Or.imp_left hclash.mp) h)]
    rfl

theorem channelStep_timeless (t : Channels) (ch : SeedChannel) :
    channelStep 0 (Channels.timeless t) ch = (channelStep now t ch).map Channels.timeless := by
  unfold channelStep
  split_ifs
  · rw [Except.map, putChannel_timeless]
  · rfl

theorem run_models_timeless (t : Models) (ms : List Model) :
    Statements.run (timelessModelStep known) (Models.timeless t) ms =
      (Models.timeless (Statements.run (modelStep known now) t ms).1,
        (Statements.run (modelStep known now) t ms).2) := by
  have h := @Statements.run_map _ _ _ _ _ (timelessModelStep known) (modelStep known now) Models.timeless id ms t
    (modelStep_timeless known now)
  rwa [List.map_id] at h

theorem run_channels_timeless (t : Channels) (chs : List SeedChannel) :
    Statements.run (channelStep 0) (Channels.timeless t) chs =
      (Channels.timeless (Statements.run (channelStep now) t chs).1, (Statements.run (channelStep now) t chs).2) := by
  have h := @Statements.run_map _ _ _ _ _ (channelStep 0) (channelStep now) Channels.timeless id chs t
    (channelStep_timeless now)
  rwa [List.map_id] at h

end

section

variable {known : String → Bool} {now : ℤ}

theorem timelessModelStep_ok (t : Models) (m : Model) (u : Models) (h : timelessModelStep known t m = .ok u) :
    u = insertModel t m := by
  unfold timelessModelStep at h
  split_ifs at h
  exact (Except.ok.inj h).symm

end

section

variable {b : Bodies}

open Absorb

theorem absorbing_providers : Absorbing insertProvider b.providers := absorbing_insert Provider.name Provider.timeless _

theorem absorbing_models : Absorbing insertModel b.models := absorbing_insert Model.clientName Model.timeless _

theorem absorbing_channels (h : b.Distinct) : Absorbing (putChannel 0) b.channels :=
  absorbing_upsert (fun ch => ch.onConflict_id 0) (fun _ => rfl) (fun _ _ => rfl) h.channels

theorem absorbing_mappings (h : b.Distinct) : Absorbing putMapping b.mappings :=
  absorbing_upsert mappingConflict_id (fun _ => rfl) (fun _ _ => rfl) h.mappings

/-- Up to the times, every table is the initial one after a prefix of its body. -/
structure Reached (b : Bodies) (db₀ db : Database) : Prop where
  providers : ∃ pre, pre <+: b.providers ∧
    Providers.timeless db.providers = pre.foldl insertProvider (Providers.timeless db₀.providers)
  models : ∃ pre, pre <+: b.models ∧
    Models.timeless db.models = pre.foldl insertModel (Models.timeless db₀.models)
  channels : ∃ pre, pre <+: b.channels ∧
    Channels.timeless db.channels = pre.foldl (putChannel 0) (Channels.timeless db₀.channels)
  mappings : ∃ pre, pre <+: b.mappings ∧ db.mappings = pre.foldl putMapping db₀.mappings

variable {db₀ db : Database}

theorem reached_refl (b : Bodies) (db : Database) : Reached b db db :=
  ⟨⟨[], List.nil_prefix, rfl⟩, ⟨[], List.nil_prefix, rfl⟩, ⟨[], List.nil_prefix, rfl⟩, ⟨[], List.nil_prefix, rfl⟩⟩

theorem attempt_reached (hb : b.Distinct) (h : Reached b db₀ db) (a : Attempt) : Reached b db₀ (attempt b db a) := by
  obtain ⟨kind, count, now⟩ := a
  unfold attempt
  cases kind with
  | providers =>
    simp only [Bodies.rows, ← List.map_take, upsertEntry_providers]
    refine ⟨?_, h.models, h.channels, h.mappings⟩
    obtain ⟨pre, hpre, heq⟩ := h.providers
    rw [foldl_putProvider_timeless, heq]
    exact absorbing_providers.foldl_initial hpre (List.take_prefix count b.providers) _
  | models =>
    simp only [Bodies.rows, ← List.map_take, upsertEntry_models]
    refine ⟨h.providers, ?_, h.channels, h.mappings⟩
    obtain ⟨pre, hpre, heq⟩ := h.models
    obtain ⟨more, hmore, hrun⟩ := Statements.run_prefix (@timelessModelStep_ok db.hasProvider)
      (Models.timeless db.models) (b.models.take count)
    rw [run_models_timeless db.hasProvider now] at hrun
    dsimp only at hrun ⊢
    rw [hrun, heq]
    exact absorbing_models.foldl_initial hpre (hmore.trans (List.take_prefix count b.models)) _
  | channels =>
    simp only [Bodies.rows, ← List.map_take, upsertEntry_channels]
    refine ⟨h.providers, h.models, ?_, h.mappings⟩
    obtain ⟨pre, hpre, heq⟩ := h.channels
    obtain ⟨more, hmore, hrun⟩ := Statements.run_prefix (fun _ _ _ h => (@channelStep_ok 0 _ _ _ h).2)
      (Channels.timeless db.channels) (b.channels.take count)
    rw [run_channels_timeless now] at hrun
    dsimp only at hrun ⊢
    rw [hrun, heq]
    exact (absorbing_channels hb).foldl_initial hpre (hmore.trans (List.take_prefix count b.channels)) _
  | mappings =>
    simp only [Bodies.rows, ← List.map_take, upsertEntry_mappings]
    refine ⟨h.providers, h.models, h.channels, ?_⟩
    obtain ⟨pre, hpre, heq⟩ := h.mappings
    obtain ⟨more, hmore, hrun⟩ := Statements.run_prefix (fun _ _ _ h => (@mappingStep_ok db.hasChannel _ _ _ h).2)
      db.mappings (b.mappings.take count)
    rw [hrun, heq]
    exact (absorbing_mappings hb).foldl_initial hpre (hmore.trans (List.take_prefix count b.mappings)) _

theorem attempts_reached (hb : b.Distinct) (attempts : List Attempt) (h : Reached b db₀ db) :
    Reached b db₀ (attempts.foldl (attempt b) db) := by
  induction attempts generalizing db with
  | nil => exact h
  | cons a attempts ih => exact ih (attempt_reached hb h a)

def exists? {ρ : Type} {key : ρ → String} (t : Table key) (id : String) : Bool := (t.find? id).isSome

def newProviders (b : Bodies) (clock : Kind → ℤ) (db : Database) : Providers :=
  b.providers.foldl (putProvider (clock .providers)) db.providers

structure Completes (b : Bodies) (clock : Kind → ℤ) (db : Database) (ms : Models) (chs : Channels) (xs : Mappings) :
    Prop where
  models : Statements.run (modelStep (exists? (newProviders b clock db)) (clock .models)) db.models b.models =
    (ms, .ok ())
  channels : Statements.run (channelStep (clock .channels)) db.channels b.channels = (chs, .ok ())
  mappings : Statements.run (mappingStep (exists? chs)) db.mappings b.mappings = (xs, .ok ())

variable {clock : Kind → ℤ}

theorem applyAll_providers (b : Bodies) (clock : Kind → ℤ) (db : Database) :
    upsertEntry db (clock .providers) (b.rows .providers) =
      ({ db with providers := newProviders b clock db }, .ok ()) := upsertEntry_providers db _ b.providers

theorem applyAll_of_completes {ms : Models} {chs : Channels} {xs : Mappings} (h : Completes b clock db ms chs xs) :
    b.applyAll clock db = (⟨newProviders b clock db, ms, chs, xs⟩, .ok ()) := by
  have hm : upsertEntry { db with providers := newProviders b clock db } (clock .models) (b.rows .models) =
      (⟨newProviders b clock db, ms, db.channels, db.mappings⟩, .ok ()) := by
    apply (upsertEntry_models _ _ b.models).trans
    have hrun : Statements.run (modelStep (Database.hasProvider { db with providers := newProviders b clock db })
        (clock .models)) db.models b.models = (ms, .ok ()) := h.models
    simp only [hrun]
  have hc : upsertEntry ⟨newProviders b clock db, ms, db.channels, db.mappings⟩ (clock .channels)
      (b.rows .channels) = (⟨newProviders b clock db, ms, chs, db.mappings⟩, .ok ()) := by
    apply (upsertEntry_channels _ _ b.channels).trans
    simp only [h.channels]
  have hx : upsertEntry ⟨newProviders b clock db, ms, chs, db.mappings⟩ (clock .mappings) (b.rows .mappings) =
      (⟨newProviders b clock db, ms, chs, xs⟩, .ok ()) := by
    apply (upsertEntry_mappings _ _ b.mappings).trans
    have hrun : Statements.run (mappingStep (Database.hasChannel ⟨newProviders b clock db, ms, chs, db.mappings⟩))
        db.mappings b.mappings = (xs, .ok ()) := h.mappings
    simp only [hrun]
  simp only [Bodies.applyAll, applyAll_providers, hm, hc, hx]

theorem completes_of_applyAll (h : (b.applyAll clock db).2 = .ok ()) :
    ∃ ms chs xs, Completes b clock db ms chs xs := by
  simp only [Bodies.applyAll, applyAll_providers] at h
  split at h
  · cases h
  rename_i db₁ hm
  split at h
  · cases h
  rename_i db₂ hc
  rw [Bodies.rows, upsertEntry_models] at hm
  obtain ⟨hdb₁, hmok⟩ := Prod.mk.inj hm
  subst hdb₁
  rw [Bodies.rows, upsertEntry_channels] at hc
  obtain ⟨hdb₂, hcok⟩ := Prod.mk.inj hc
  subst hdb₂
  rw [Bodies.rows, upsertEntry_mappings] at h
  exact ⟨_, _, _, Prod.ext rfl hmok, Prod.ext rfl hcok, Prod.ext rfl h⟩

theorem exists?_timeless_providers (t : Providers) : exists? (Providers.timeless t) = exists? t := by
  funext id
  have hfind := Table.find?_mapRows t Provider.timeless (fun _ => rfl) id
  exact (congrArg Option.isSome hfind).trans (Option.isSome_map ..)

theorem exists?_timeless_channels (t : Channels) : exists? (Channels.timeless t) = exists? t := by
  funext id
  have hfind := Table.find?_mapRows t Channel.timeless (fun _ => rfl) id
  exact (congrArg Option.isSome hfind).trans (Option.isSome_map ..)

theorem providers_again (clock' : Kind → ℤ) (h : Reached b db₀ db) :
    Providers.timeless (newProviders b clock' db) = Providers.timeless (newProviders b clock db₀) := by
  obtain ⟨pre, hpre, heq⟩ := h.providers
  rw [newProviders, newProviders, foldl_putProvider_timeless, foldl_putProvider_timeless, heq]
  exact absorbing_providers.foldl_twice hpre _

theorem models_again {known : String → Bool} {now now' : ℤ} {ms : Models} (h : Reached b db₀ db)
    (hok : Statements.run (modelStep known now) db₀.models b.models = (ms, .ok ())) :
    ∃ ms', Statements.run (modelStep known now') db.models b.models = (ms', .ok ()) ∧
      Models.timeless ms' = Models.timeless ms := by
  obtain ⟨pre, hpre, heq⟩ := h.models
  have hdirect := run_models_timeless known now db₀.models b.models
  rw [hok] at hdirect
  have hagain := run_models_timeless known now' db.models b.models
  have hstep : ∀ m ∈ pre, ∃ u,
      timelessModelStep known (pre.foldl insertModel (Models.timeless db₀.models)) m = .ok u := by
    intro m hm
    have hfixed := (@absorbing_models b).settled (s := Models.timeless db₀.models) (fun a ha => hpre.subset ha) m hm
    have hclash : (pre.foldl insertModel (Models.timeless db₀.models)).Clash Model.clientName m.timeless :=
      Table.clash_of_insertOrIgnore hfixed
    exact ⟨_, if_pos (.inl hclash)⟩
  rw [heq, absorbing_models.run_again timelessModelStep_ok hpre hstep (by rw [hdirect]), hdirect] at hagain
  obtain ⟨htables, hresult⟩ := Prod.mk.inj hagain
  exact ⟨_, Prod.ext rfl hresult.symm, htables.symm⟩

theorem channels_again {now now' : ℤ} {chs : Channels} (hb : b.Distinct) (h : Reached b db₀ db)
    (hok : Statements.run (channelStep now) db₀.channels b.channels = (chs, .ok ())) :
    ∃ chs', Statements.run (channelStep now') db.channels b.channels = (chs', .ok ()) ∧
      Channels.timeless chs' = Channels.timeless chs := by
  obtain ⟨pre, hpre, heq⟩ := h.channels
  have hdirect := run_channels_timeless now db₀.channels b.channels
  rw [hok] at hdirect
  have hagain := run_channels_timeless now' db.channels b.channels
  have hquota : ∀ ch ∈ b.channels, quotaFits ch.monthlyQuota = true :=
    Statements.run_ok_forall (fun _ _ _ hstep => (channelStep_ok hstep).1) (congrArg Prod.snd hok)
  have hstep : ∀ ch ∈ pre, ∃ u,
      channelStep 0 (pre.foldl (putChannel 0) (Channels.timeless db₀.channels)) ch = .ok u :=
    fun ch hch => ⟨_, if_pos (hquota ch (hpre.subset hch))⟩
  have hsame := (absorbing_channels hb).run_again (fun _ _ _ h => (channelStep_ok h).2) hpre hstep (by rw [hdirect])
  rw [heq, hsame, hdirect] at hagain
  obtain ⟨htables, hresult⟩ := Prod.mk.inj hagain
  exact ⟨_, Prod.ext rfl hresult.symm, htables.symm⟩

theorem mappings_again {known : String → Bool} {xs : Mappings} (hb : b.Distinct) (h : Reached b db₀ db)
    (hok : Statements.run (mappingStep known) db₀.mappings b.mappings = (xs, .ok ())) :
    Statements.run (mappingStep known) db.mappings b.mappings = (xs, .ok ()) := by
  obtain ⟨pre, hpre, heq⟩ := h.mappings
  have hknown : ∀ m ∈ b.mappings, known m.channelId = true :=
    Statements.run_ok_forall (fun _ _ _ hstep => (mappingStep_ok hstep).1) (congrArg Prod.snd hok)
  have hstep : ∀ m ∈ pre, ∃ u, mappingStep known (pre.foldl putMapping db₀.mappings) m = .ok u :=
    fun m hm => ⟨_, if_pos (hknown m (hpre.subset hm))⟩
  have hsame :=
    (absorbing_mappings hb).run_again (fun _ _ _ h => (mappingStep_ok h).2) hpre hstep (congrArg Prod.snd hok)
  rw [heq, hsame, hok]

theorem completes_again {ms : Models} {chs : Channels} {xs : Mappings} (clock' : Kind → ℤ) (hb : b.Distinct)
    (h : Reached b db₀ db) (hc : Completes b clock db₀ ms chs xs) :
    ∃ ms' chs', Completes b clock' db ms' chs' xs ∧ Models.timeless ms' = Models.timeless ms ∧
      Channels.timeless chs' = Channels.timeless chs := by
  have hknown : exists? (newProviders b clock' db) = exists? (newProviders b clock db₀) := by
    rw [← exists?_timeless_providers, @providers_again b db₀ db clock clock' h, exists?_timeless_providers]
  obtain ⟨ms', hms', hmodels⟩ := @models_again b db₀ db _ _ (clock' .models) _ h hc.models
  obtain ⟨chs', hchs', hchannels⟩ := @channels_again b db₀ db _ (clock' .channels) _ hb h hc.channels
  have hchs : exists? chs' = exists? chs := by
    rw [← exists?_timeless_channels, hchannels, exists?_timeless_channels]
  refine ⟨ms', chs', ⟨?_, hchs', ?_⟩, hmodels, hchannels⟩
  · rw [hknown]
    exact hms'
  · rw [hchs]
    exact mappings_again hb h hc.mappings

end

theorem seed_restartable {b : Bodies} (hb : b.Distinct) {db : Database} {clock : Kind → ℤ}
    (hok : (b.applyAll clock db).2 = .ok ()) (attempts : List Attempt) (clock' : Kind → ℤ) :
    (b.applyAll clock' (attempts.foldl (attempt b) db)).2 = .ok () ∧
      SameTables (b.applyAll clock' (attempts.foldl (attempt b) db)).1 (b.applyAll clock db).1 := by
  obtain ⟨ms, chs, xs, hdirect⟩ := completes_of_applyAll hok
  have hreached := attempts_reached hb attempts (reached_refl b db)
  obtain ⟨ms', chs', hagain, hmodels, hchannels⟩ := completes_again clock' hb hreached hdirect
  have hproviders := @providers_again b db _ clock clock' hreached
  rw [applyAll_of_completes hagain, applyAll_of_completes hdirect]
  refine ⟨rfl, ?_⟩
  simp only [SameTables, Database.timeless, hproviders, hmodels, hchannels]

namespace Sample

open SeedOps.Sample

def bodies : Bodies where
  providers := [provider]
  models := [model 1]
  channels := [{ id := "deepseek", name := "DeepSeek", protocol := "openai_chat" }]
  mappings := [mapping true]

def attempts : List Attempt := [⟨.mappings, 1, 1⟩, ⟨.channels, 1, 2⟩, ⟨.models, 1, 3⟩, ⟨.providers, 0, 4⟩]

end Sample

theorem seed_restarted :
    (Sample.bodies.applyAll (fun _ => 9) (Sample.attempts.foldl (attempt Sample.bodies) Database.empty)).2 = .ok () ∧
      SameTables
        (Sample.bodies.applyAll (fun _ => 9) (Sample.attempts.foldl (attempt Sample.bodies) Database.empty)).1
        (Sample.bodies.applyAll (fun _ => 0) Database.empty).1 := by
  have hb : Sample.bodies.Distinct := ⟨by decide, by decide, by decide, by decide⟩
  exact seed_restartable hb (by decide +kernel) Sample.attempts fun _ => 9

end AgentProxy.Storage
