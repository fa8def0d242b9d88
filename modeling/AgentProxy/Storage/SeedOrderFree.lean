import AgentProxy.Storage.SeedOrder

namespace AgentProxy.Storage.SeedOps

section

variable {o : Outside} {base : String} {s : SeedStore} {manifest manifest' : SeedManifest} {es es' : List NamedEntry}

theorem pending_perm (metadata : String → Option String) (h : es'.Perm es) :
    (pending o base metadata es').Perm (pending o base metadata es) := (h.filter _).map _

theorem pending_append (metadata : String → Option String) (es es' : List NamedEntry) :
    pending o base metadata (es ++ es') = pending o base metadata es ++ pending o base metadata es' := by
  simp only [pending, List.filter_append, List.map_append]

theorem refreshEntry_version (e : NamedEntry) :
    (refreshEntry o base s e).1.localVersion = s.localVersion := by
  unfold refreshEntry fetchAndApplyEntry
  split_ifs
  · rfl
  · cases fetchEntry o base e with
    | error err => rfl
    | ok json =>
      dsimp only
      rcases upsertNamed o s.db e.1 json with ⟨db, err | ok⟩
      · rfl
      · exact localVersion_of_ne (hashKey_ne_version e.1) _

theorem refreshEntries_version (es : List NamedEntry) :
    (refreshEntries o base s es).1.localVersion = s.localVersion := by
  induction es generalizing s with
  | nil => rfl
  | cons e es ih => exact ih.trans (refreshEntry_version e)

theorem finishRefresh_version (version : UInt32) (errors : List String) :
    (finishRefresh o base version s errors).localVersion = if errors.isEmpty then version else s.localVersion := by
  unfold finishRefresh
  split_ifs
  · rw [localVersion_of_ne (by decide), localVersion_of_ne (by decide), localVersion_of_ne (by decide),
      localVersion_of_ne (by decide), localVersion_set]
  · exact localVersion_of_ne (by decide) _

theorem seedRefresh_version (hnew : ¬ manifest.version ≤ s.localVersion) :
    (SeedOps.seedRefresh o base s (.ok manifest)).1.localVersion =
      if (errorsOf o base s manifest).isEmpty then manifest.version else s.localVersion := by
  simp only [SeedOps.seedRefresh, errorsOf, if_neg hnew, finishRefresh_version, refreshEntries_version]

theorem errorsOf_eq (hnew : ¬ manifest.version ≤ s.localVersion) :
    errorsOf o base s manifest = (applyBodies o s.db (pending o base s.metadata manifest.entries.rows)).2 := by
  rw [errorsOf, if_neg hnew, (refreshEntries_eq manifest.entries.nodup).2]

theorem seedRefresh_tables (hnew : ¬ manifest.version ≤ s.localVersion) :
    (SeedOps.seedRefresh o base s (.ok manifest)).1.db =
      (applyBodies o s.db (pending o base s.metadata manifest.entries.rows)).1 := by
  rw [seedRefresh_db]
  exact if_neg hnew

theorem orderFree_of_outdated (h : manifest.version ≤ s.localVersion) : OrderFree o base s manifest := by
  intro manifest' hversion _
  have h' : manifest'.version ≤ s.localVersion := hversion ▸ h
  refine ⟨?_, ?_, ?_⟩
  · rw [errorsOf, errorsOf, if_pos h, if_pos h']
  · simp only [SeedOps.seedRefresh, if_pos h, if_pos h']
  · simp only [SeedOps.seedRefresh, if_pos h, if_pos h']
    exact ⟨fun _ => rfl, fun _ => rfl, fun _ => rfl, fun _ => rfl⟩

theorem orderFree_of_unordered (hnew : ¬ manifest.version ≤ s.localVersion)
    (hu : Unordered o s.db (pending o base s.metadata manifest.entries.rows)) : OrderFree o base s manifest := by
  intro manifest' hversion hperm
  have hnew' : ¬ manifest'.version ≤ s.localVersion := hversion ▸ hnew
  have hd := @pending_distinct o base s.metadata _ manifest.entries.nodup
  have hbodies := @pending_perm o base _ _ s.metadata hperm
  have herrors : errorsOf o base s manifest' = errorsOf o base s manifest := by
    rw [errorsOf_eq hnew, errorsOf_eq hnew', errors_perm hd hu hbodies]
  refine ⟨herrors, ?_, ?_⟩
  · rw [seedRefresh_version hnew, seedRefresh_version hnew', herrors, hversion]
  · rw [seedRefresh_tables hnew, seedRefresh_tables hnew']
    exact contents_perm hd hu hbodies

theorem mem_pending {metadata : String → Option String} {b : Body} (h : b ∈ pending o base metadata es) :
    ∃ e ∈ es, body o base e = b ∧ ∀ es', pending o base metadata (e :: es') = b :: pending o base metadata es' := by
  obtain ⟨e, he, rfl⟩ := List.mem_map.mp h
  obtain ⟨hmem, hhash⟩ := List.mem_filter.mp he
  refine ⟨e, hmem, rfl, fun es' => ?_⟩
  rw [pending_cons, if_neg (of_decide_eq_true hhash)]

theorem SameContents.symm {db db' : Database} (h : SameContents db db') : SameContents db' db :=
  ⟨fun id => (h.providers id).symm, fun id => (h.models id).symm, fun id => (h.channels id).symm,
    fun id => (h.mappings id).symm⟩

theorem SameContents.trans {db db' db'' : Database} (h : SameContents db db') (h' : SameContents db' db'') :
    SameContents db db'' :=
  ⟨fun id => (h.providers id).trans (h'.providers id), fun id => (h.models id).trans (h'.models id),
    fun id => (h.channels id).trans (h'.channels id), fun id => (h.mappings id).trans (h'.mappings id)⟩

theorem orderFree_swap (h : OrderFree o base s manifest) (hnew : ¬ manifest.version ≤ s.localVersion) {b c : Body}
    (hb : b ∈ pending o base s.metadata manifest.entries.rows)
    (hc : c ∈ pending o base s.metadata manifest.entries.rows) (hne : b.1 ≠ c.1) :
    ∃ rest, (rest ++ [b, c]).Perm (pending o base s.metadata manifest.entries.rows) ∧
      (applyBodies o s.db (rest ++ [b, c])).2 = (applyBodies o s.db (rest ++ [c, b])).2 ∧
      SameContents (applyBodies o s.db (rest ++ [b, c])).1 (applyBodies o s.db (rest ++ [c, b])).1 := by
  obtain ⟨e, he, rfl, hpe⟩ := mem_pending hb
  obtain ⟨f, hf, rfl, hpf⟩ := mem_pending hc
  have hef : f ≠ e := fun heq => hne (congrArg (fun e => (body o base e).1) heq.symm)
  obtain ⟨l₁, l₂, hsplit⟩ := List.append_of_mem he
  have hmem : f ∈ l₁ ++ l₂ := by
    rw [hsplit] at hf
    simpa [hef] using hf
  obtain ⟨r₁, r₂, hsplit'⟩ := List.append_of_mem hmem
  have hentries : (r₁ ++ r₂ ++ [e, f]).Perm manifest.entries.rows := by
    rw [hsplit]
    refine List.perm_append_comm.trans (List.Perm.trans ?_ List.perm_middle.symm)
    rw [hsplit', List.cons_append, List.singleton_append]
    exact List.Perm.cons e List.perm_middle.symm
  have hswapped : (r₁ ++ r₂ ++ [f, e]).Perm manifest.entries.rows :=
    ((List.Perm.swap e f []).append_left _).trans hentries
  have hlast : ∀ g g', (r₁ ++ r₂ ++ [g, g']).Perm manifest.entries.rows →
      errorsOf o base s manifest = (applyBodies o s.db (pending o base s.metadata (r₁ ++ r₂ ++ [g, g']))).2 ∧
        SameContents (applyBodies o s.db (pending o base s.metadata (r₁ ++ r₂ ++ [g, g']))).1
          (SeedOps.seedRefresh o base s (.ok manifest)).1.db := by
    intro g g' hperm
    let ordered : SeedManifest :=
      ⟨manifest.version, r₁ ++ r₂ ++ [g, g'], (hperm.map Prod.fst).nodup_iff.mpr manifest.entries.nodup⟩
    have hnew' : ¬ ordered.version ≤ s.localVersion := hnew
    obtain ⟨herrors, -, htables⟩ := h ordered rfl hperm
    rw [errorsOf_eq hnew'] at herrors
    rw [seedRefresh_tables hnew'] at htables
    exact ⟨herrors.symm, htables⟩
  obtain ⟨herrors, htables⟩ := hlast e f hentries
  obtain ⟨herrors', htables'⟩ := hlast f e hswapped
  have hpef : pending o base s.metadata (r₁ ++ r₂ ++ [e, f]) =
      pending o base s.metadata (r₁ ++ r₂) ++ [body o base e, body o base f] := by
    rw [pending_append, hpe, hpf]
    rfl
  have hpfe : pending o base s.metadata (r₁ ++ r₂ ++ [f, e]) =
      pending o base s.metadata (r₁ ++ r₂) ++ [body o base f, body o base e] := by
    rw [pending_append, hpf, hpe]
    rfl
  rw [hpef] at herrors htables
  rw [hpfe] at herrors' htables'
  exact ⟨_, hpef ▸ pending_perm s.metadata hentries, herrors.symm.trans herrors', htables.trans htables'.symm⟩

end

section

variable {o : Outside} {db : Database} {bs rest : List Body} {b c : Body}

theorem Distinct.last (hd : Distinct (rest ++ [b, c])) : ∀ d ∈ rest, d.1 ≠ c.1 := by
  intro d hdrest
  have hsplit : rest ++ [b, c] = rest ++ [b] ++ c :: [] := by simp
  exact (hd.others hsplit d (by simp [hdrest])).2

theorem refused_model_absent {known : String → Bool} {now : ℤ} {t : Tables.Models} {ms : List Model} {m : Model}
    (h : Statements.refused (modelStep known now) t ms = some m) :
    (Statements.run (modelStep known now) t ms).1.find? m.id = none := by
  obtain ⟨u, e, hstep, hrun⟩ := Statements.run_error_of_refused h
  rw [hrun, Table.find?_eq_none]
  intro n hn hid
  exact (modelStep_error hstep).1 ⟨n, hn, .inl hid⟩

theorem refused_model_inserted {known known' : String → Bool} {now : ℤ} {t : Tables.Models} {ms : List Model}
    {m : Model} (hmore : ∀ id, known id = true → known' id = true)
    (h : Statements.refused (modelStep known now) t ms = some m) (hknown : known' m.providerId = true) :
    ∃ n ∈ (Statements.run (modelStep known' now) t ms).1.rows, n.id = m.id := by
  refine Statements.run_past_refused (modelStep_more hmore) h (p := fun u => ∃ n ∈ u.rows, n.id = m.id) ?_ ?_
  · intro u e hstep
    have hclash : ¬ u.Clash Model.clientName (m.stamped now) := (modelStep_error hstep).1
    refine ⟨putModel now u m, if_pos (.inr hknown), m.stamped now, ?_, rfl⟩
    rw [putModel, Table.rows_insertOrIgnore, if_neg hclash]
    exact List.mem_append_right _ (List.mem_singleton_self _)
  · rintro u n v ⟨row, hrow, hid⟩ hstep
    obtain ⟨-, rfl⟩ := modelStep_ok hstep
    exact ⟨row, Table.mem_insertOrIgnore hrow, hid⟩

theorem models_independent {ms : List Model} {ps : List Provider}
    (hd : Distinct (rest ++ [("models", .ok (ms.map .model)), ("providers", .ok (ps.map .provider))]))
    (hsame : SameContents
      (applyBodies o db (rest ++ [("models", .ok (ms.map .model)), ("providers", .ok (ps.map .provider))])).1
      (applyBodies o db (rest ++ [("providers", .ok (ps.map .provider)), ("models", .ok (ms.map .model))])).1)
    {m : Model} (hm : Statements.refused (modelStep db.hasProvider (o.clock "models")) db.models ms = some m) :
    ((ps.foldl (putProvider (o.clock "providers")) db.providers).find? m.providerId).isSome = false := by
  have hd' := hd.perm ((List.Perm.swap _ _ []).append_left rest)
  have hbefore : (applyBodies o db rest).1.hasProvider = db.hasProvider := by
    funext id
    rw [Database.hasProvider, Database.hasProvider, providers_unwritten hd.prefixed]
    rintro ⟨ps', hps'⟩
    exact hd.last _ hps' rfl
  have hafter : (applyBodies o db (rest ++ [("providers", .ok (ps.map .provider))])).1.hasProvider =
      fun id => ((ps.foldl (putProvider (o.clock "providers")) db.providers).find? id).isSome := by
    have hsplit : rest ++ [("providers", .ok (ps.map .provider)), ("models", .ok (ms.map .model))] =
        rest ++ [("providers", .ok (ps.map .provider))] ++ [("models", .ok (ms.map .model))] := by simp
    have hmem : ("providers", .ok (ps.map .provider)) ∈ rest ++ [("providers", .ok (ps.map .provider))] :=
      List.mem_append_right _ List.mem_cons_self
    funext id
    rw [Database.hasProvider, final_providers (hsplit ▸ hd').prefixed hmem]
  have hfind := hsame.models m.id
  rw [final_models hd rfl, hbefore, refused_model_absent hm] at hfind
  by_contra hknown
  rw [Bool.not_eq_false] at hknown
  obtain ⟨n, hn, hid⟩ := refused_model_inserted (fun id => hasProvider_fetched ps) hm hknown
  have hsecond := @final_models o _ db hd' ms (rest ++ [("providers", .ok (ps.map .provider))]) [] (by simp)
  rw [hafter] at hsecond
  rw [hsecond, (Table.find?_eq_some _).mpr ⟨hn, hid⟩] at hfind
  cases hfind

theorem channels_kept {now : ℤ} {t : Tables.Channels} {id : String} (chs : List SeedChannel)
    (h : (t.find? id).isSome = true) :
    ((Statements.run (channelStep now) t chs).1.find? id).isSome = true := by
  have hkeep : ∀ (t : Tables.Channels) (ch : SeedChannel) (u : Tables.Channels), (t.find? id).isSome = true →
      channelStep now t ch = .ok u → (u.find? id).isSome = true := by
    intro t ch u ht hstep
    obtain ⟨-, rfl⟩ := channelStep_ok hstep
    rw [putChannel, Table.find?_upsert]
    split_ifs
    · rfl
    · exact ht
  exact Statements.run_keeps hkeep chs h

theorem channels_known {now : ℤ} {t : Tables.Channels} {chs : List SeedChannel}
    (h : (Statements.run (channelStep now) t chs).2 = .ok ()) :
    ∀ ch ∈ chs, ((Statements.run (channelStep now) t chs).1.find? ch.id).isSome = true := by
  induction chs generalizing t with
  | nil =>
    intro ch hch
    cases hch
  | cons first chs ih =>
    cases hstep : channelStep now t first with
    | error e => simp [Statements.run, hstep] at h
    | ok u =>
      rw [Statements.run_cons_ok hstep] at h ⊢
      refine List.forall_mem_cons.mpr ⟨channels_kept chs ?_, ih h⟩
      obtain ⟨-, rfl⟩ := channelStep_ok hstep
      rw [putChannel, Table.find?_upsert]
      exact congrArg Option.isSome (if_pos rfl)

theorem run_mappings_error {known : String → Bool} {t : Tables.Mappings} {ms : List ModelMapping} {m : ModelMapping}
    (hm : m ∈ ms) (hknown : known m.channelId = false) :
    ∃ e, (Statements.run (mappingStep known) t ms).2 = .error e := by
  cases h : (Statements.run (mappingStep known) t ms).2 with
  | error e => exact ⟨e, rfl⟩
  | ok ok =>
    have hall : ∀ m ∈ ms, known m.channelId = true :=
      Statements.run_ok_forall (fun _ _ _ hstep => (mappingStep_ok hstep).1) h
    rw [hall m hm] at hknown
    cases hknown

theorem message_names {name : String} (hname : IsMappings name) (e e' : StorageError) :
    message name e ≠ message "channels" e' := by
  intro h
  have hhead := congrArg (fun m => m.toList.head?) h
  obtain rfl | rfl := hname
  · simp [message] at hhead
  · simp [message] at hhead

theorem applyBodies_two (rest : List Body) (b c : Body) :
    (applyBodies o db (rest ++ [b, c])).2 = (applyBodies o db rest).2 ++
      ((applyBody o (applyBodies o db rest).1 b).2.toList ++
        (applyBody o (applyBody o (applyBodies o db rest).1 b).1 c).2.toList) := by
  rw [applyBodies_append]
  simp only [applyBodies, List.append_nil]

theorem mappings_independent {name : String} {ms : List ModelMapping} {chs : List SeedChannel} (hname : IsMappings name)
    (hd : Distinct (rest ++ [(name, .ok (ms.map .mapping)), ("channels", .ok (chs.map .channel))]))
    (hsame : (applyBodies o db (rest ++ [(name, .ok (ms.map .mapping)), ("channels", .ok (chs.map .channel))])).2 =
      (applyBodies o db (rest ++ [("channels", .ok (chs.map .channel)), (name, .ok (ms.map .mapping))])).2)
    (hall : ∀ m ∈ ms, db.hasChannel m.channelId = true ∨ ∃ ch ∈ chs, ch.id = m.channelId) :
    ∀ m ∈ ms, db.hasChannel m.channelId = true := by
  have hchannels : (applyBodies o db rest).1.channels = db.channels := by
    apply channels_unwritten hd.prefixed
    rintro ⟨chs', hchs'⟩
    exact hd.last _ hchs' rfl
  have hknown : (applyBodies o db rest).1.hasChannel = db.hasChannel := by
    funext id
    rw [Database.hasChannel, Database.hasChannel, hchannels]
  intro m hm
  by_contra hnot
  rw [Bool.not_eq_true] at hnot
  obtain ⟨e, he⟩ := @run_mappings_error db.hasChannel (applyBodies o db rest).1.mappings ms m hm hnot
  have hfail : (applyBody o (applyBodies o db rest).1 (name, .ok (ms.map .mapping))).2 = some (message name e) := by
    rw [applyBody_ok, upsertEntry_mappings, hknown, he]
  rw [applyBodies_two, applyBodies_two, List.append_right_inj, hfail] at hsame
  cases hrun : (Statements.run (channelStep (o.clock "channels")) db.channels chs).2 with
  | error e' =>
    have hfail' : (applyBody o (applyBodies o db rest).1 ("channels", .ok (chs.map .channel))).2 =
        some (message "channels" e') := by
      rw [applyBody_ok, upsertEntry_channels, hchannels, hrun]
    rw [hfail'] at hsame
    exact message_names hname e e' (List.cons.inj hsame).1
  | ok ok =>
    have hpass : (applyBody o (applyBodies o db rest).1 ("channels", .ok (chs.map .channel))).2 = none := by
      rw [applyBody_ok, upsertEntry_channels, hchannels, hrun]
    have hfetched : ∀ m ∈ ms, (applyBody o (applyBodies o db rest).1
        ("channels", .ok (chs.map .channel))).1.hasChannel m.channelId = true := by
      intro m hm
      rw [applyBody_ok, upsertEntry_channels, Database.hasChannel, hchannels]
      obtain hstored | ⟨ch, hch, hid⟩ := hall m hm
      · exact channels_kept chs hstored
      · exact hid ▸ channels_known hrun ch hch
    have hpass' : (applyBody o (applyBody o (applyBodies o db rest).1 ("channels", .ok (chs.map .channel))).1
        (name, .ok (ms.map .mapping))).2 = none := by
      rw [applyBody_ok, upsertEntry_mappings, (@run_mappings_find "" _ _ _ hfetched).1]
    rw [hpass, hpass'] at hsame
    cases hsame

theorem Distinct.eq_of_name (hd : Distinct bs) (hb : b ∈ bs) (hc : c ∈ bs) (h : b.1 = c.1) : b = c :=
  List.inj_on_of_nodup_map hd.names hb hc h

end

section

variable {o : Outside} {base : String} {s : SeedStore} {manifest : SeedManifest}

theorem independent_of_orderFree (hnew : ¬ manifest.version ≤ s.localVersion)
    (href : Referential s.db (pending o base s.metadata manifest.entries.rows)) (h : OrderFree o base s manifest) :
    Independent o s.db (pending o base s.metadata manifest.entries.rows) := by
  have hd := @pending_distinct o base s.metadata _ manifest.entries.nodup
  constructor
  · intro ms ps hms hps m hm
    have hne : "models" ≠ "providers" := by decide
    obtain ⟨rest, hperm, -, hsame⟩ := orderFree_swap h hnew hms hps hne
    exact models_independent (hd.perm hperm) hsame hm
  · intro name ms hms m hm
    have hname : IsMappings name := (mapping_row_typed (hd.typed _ hms) rfl (List.mem_map_of_mem hm)).1
    by_cases hchs : ∃ chs : List SeedChannel,
        ("channels", .ok (chs.map .channel)) ∈ pending o base s.metadata manifest.entries.rows
    · obtain ⟨chs, hchs⟩ := hchs
      have hne : name ≠ "channels" := by
        obtain rfl | rfl := hname
        · decide
        · decide
      obtain ⟨rest, hperm, hsame, -⟩ := orderFree_swap h hnew hms hchs hne
      refine mappings_independent hname (hd.perm hperm) hsame (fun m hm => ?_) m hm
      obtain hstored | ⟨chs', hchs', hch⟩ := href.mappings name ms hms m hm
      · exact .inl hstored
      · have hbody := hd.eq_of_name hchs' hchs rfl
        have hrows : chs'.map SeedRow.channel = chs.map .channel := Except.ok.inj (Prod.mk.inj hbody).2
        have hsame : chs' = chs := List.map_injective_iff.mpr (fun _ _ h => SeedRow.channel.inj h) hrows
        exact .inr (hsame ▸ hch)
    · obtain hstored | ⟨chs, hmem, -⟩ := href.mappings name ms hms m hm
      · exact hstored
      · exact absurd ⟨chs, hmem⟩ hchs

theorem unordered_of_orderFree (hnew : ¬ manifest.version ≤ s.localVersion)
    (href : Referential s.db (pending o base s.metadata manifest.entries.rows)) (h : OrderFree o base s manifest) :
    Unordered o s.db (pending o base s.metadata manifest.entries.rows) := by
  have hd := @pending_distinct o base s.metadata _ manifest.entries.nodup
  have hi := independent_of_orderFree hnew href h
  refine ⟨hi, ?_, ?_⟩
  · intro b hb c hc id x y hx hy
    by_cases hname : b.1 = c.1
    · cases hd.eq_of_name hb hc hname
      exact Option.some.inj (hx.symm.trans hy)
    · obtain ⟨rest, hperm, -, hsame⟩ := orderFree_swap h hnew hb hc hname
      have hperm' := ((List.Perm.swap b c []).append_left rest).trans hperm
      have hfind := hsame.mappings id
      rw [applyBodies_find_mapping (hd.perm hperm) (hi.perm hperm),
        applyBodies_find_mapping (hd.perm hperm') (hi.perm hperm')] at hfind
      simp only [List.filterMap_append, List.filterMap_cons, List.filterMap_nil, hx, hy, List.getLast?_append,
        List.getLast?_cons_cons, List.getLast?_singleton, Option.some_or, Option.some.injEq] at hfind
      exact hfind.symm
  · intro b hb c hc e e' he he'
    by_cases hname : b.1 = c.1
    · cases hd.eq_of_name hb hc hname
      exact Option.some.inj (he.symm.trans he')
    · obtain ⟨rest, hperm, hsame, -⟩ := orderFree_swap h hnew hb hc hname
      have hperm' := ((List.Perm.swap b c []).append_left rest).trans hperm
      rw [applyBodies_errors (hd.perm hperm) (hi.perm hperm),
        applyBodies_errors (hd.perm hperm') (hi.perm hperm'), List.filterMap_append, List.filterMap_append,
        List.append_right_inj] at hsame
      simp only [List.filterMap_cons, he, he'] at hsame
      exact (List.cons.inj hsame).1

theorem orderFree_iff (href : Referential s.db (pending o base s.metadata manifest.entries.rows)) :
    OrderFree o base s manifest ↔ manifest.version ≤ s.localVersion ∨
      Unordered o s.db (pending o base s.metadata manifest.entries.rows) := by
  by_cases hnew : manifest.version ≤ s.localVersion
  · exact ⟨fun _ => .inl hnew, fun _ => orderFree_of_outdated hnew⟩
  · constructor
    · intro h
      exact .inr (unordered_of_orderFree hnew href h)
    · intro h
      exact orderFree_of_unordered hnew (h.resolve_left hnew)

end

namespace Sample

def providersAndModels : SeedManifest := ⟨2, ⟨[providersEntry, modelsEntry], by decide⟩⟩

def modelsAndProviders : SeedManifest := ⟨2, ⟨[modelsEntry, providersEntry], by decide⟩⟩

def stored (providers : Tables.Providers) : SeedStore where
  db := { Database.empty with providers }
  metadata := metadata

def unseeded : SeedStore := stored .empty

def seeded : SeedStore := stored (.single provider)

theorem pending_both (providers : Tables.Providers) :
    pending outside base (stored providers).metadata providersAndModels.entries.rows =
      [("providers", .ok ([provider].map .provider)), ("models", .ok ([model 1].map .model))] :=
  (pending_providers [modelsEntry]).trans (congrArg _ (pending_models []))

theorem mem_both_models {ms : List Model}
    (h : ("models", .ok (ms.map .model)) ∈ ([("providers", .ok ([provider].map .provider)),
      ("models", .ok ([model 1].map .model))] : List Body)) : ms = [model 1] := by
  obtain h | h := List.mem_cons.mp h
  · exact absurd (Prod.mk.inj h).1 (by decide)
  · have hrows := Except.ok.inj (Prod.mk.inj (List.mem_singleton.mp h)).2
    exact List.map_injective_iff.mpr (fun a b h => SeedRow.model.inj h) hrows

theorem mem_both_mappings {name : String} {ms : List ModelMapping}
    (h : (name, .ok (ms.map .mapping)) ∈ ([("providers", .ok ([provider].map .provider)),
      ("models", .ok ([model 1].map .model))] : List Body)) : ms = [] := by
  obtain h | h := List.mem_cons.mp h
  · have hrows := Except.ok.inj (Prod.mk.inj h).2
    cases ms with
    | nil => rfl
    | cons m ms => cases hrows
  · have hrows := Except.ok.inj (Prod.mk.inj (List.mem_singleton.mp h)).2
    cases ms with
    | nil => rfl
    | cons m ms => cases hrows

theorem referential_both (providers : Tables.Providers) :
    Referential (stored providers).db
      (pending outside base (stored providers).metadata providersAndModels.entries.rows) := by
  rw [pending_both]
  constructor
  · intro ms hms m hm
    rw [mem_both_models hms, List.mem_singleton] at hm
    rw [hm]
    exact .inr ⟨[provider], List.mem_cons_self, provider, List.mem_cons_self, rfl⟩
  · intro name ms hms m hm
    rw [mem_both_mappings hms] at hm
    cases hm

theorem unordered_both : Unordered outside seeded.db
    [("providers", .ok ([provider].map .provider)), ("models", .ok ([model 1].map .model))] := by
  have hlast : ∀ b ∈ ([("providers", .ok ([provider].map .provider)),
      ("models", .ok ([model 1].map .model))] : List Body), ∀ id, lastMapping id b = none := by
    intro b hb id
    obtain rfl | hb := List.mem_cons.mp hb
    · rfl
    · cases List.mem_singleton.mp hb
      rfl
  have hok : ∀ b ∈ ([("providers", .ok ([provider].map .provider)),
      ("models", .ok ([model 1].map .model))] : List Body), (applyBody outside seeded.db b).2 = none := by
    intro b hb
    obtain rfl | hb := List.mem_cons.mp hb
    · decide +kernel
    · cases List.mem_singleton.mp hb
      decide +kernel
  refine ⟨⟨?_, ?_⟩, ?_, ?_⟩
  · intro ms ps hms _ m hm
    have hnone : Statements.refused (modelStep seeded.db.hasProvider (outside.clock "models")) seeded.db.models
        [model 1] = none := by decide +kernel
    rw [mem_both_models hms, hnone] at hm
    cases hm
  · intro name ms hms m hm
    rw [mem_both_mappings hms] at hm
    cases hm
  · intro b hb c _ id x y hx
    rw [hlast b hb id] at hx
    cases hx
  · intro b hb c _ e e' he
    rw [hok b hb] at he
    cases he

end Sample

theorem orderFree_with_stored_provider :
    OrderFree Sample.outside Sample.base Sample.seeded Sample.providersAndModels := by
  refine (orderFree_iff (s := Sample.seeded) (Sample.referential_both _)).mpr (.inr ?_)
  have hpending : pending Sample.outside Sample.base Sample.seeded.metadata Sample.providersAndModels.entries.rows =
      [("providers", .ok ([Sample.provider].map .provider)), ("models", .ok ([Sample.model 1].map .model))] :=
    Sample.pending_both (.single Sample.provider)
  rw [hpending]
  exact Sample.unordered_both

theorem order_decides_errors :
    ¬ ∀ (o : Outside) (base : String) (s : SeedStore) (manifest : SeedManifest),
      Referential s.db (pending o base s.metadata manifest.entries.rows) → OrderFree o base s manifest := by
  intro h
  have hfree := h Sample.outside Sample.base Sample.unseeded Sample.providersAndModels (Sample.referential_both _)
  have hperm : Sample.modelsAndProviders.entries.rows.Perm Sample.providersAndModels.entries.rows := List.Perm.swap ..
  have herrors := (hfree Sample.modelsAndProviders rfl hperm).errors
  exact absurd (congrArg List.length herrors) (by decide +kernel)

end AgentProxy.Storage.SeedOps
