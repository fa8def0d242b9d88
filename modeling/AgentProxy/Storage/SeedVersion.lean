import AgentProxy.Lib.Pool
import AgentProxy.Storage.SeedBodies

namespace AgentProxy.Storage.SeedOps.Concurrent

open Transition Pool

structure Call where
  outside : Outside
  base : String
  manifest : SeedManifest

inductive Phase where
  | check
  | entries (todo : List NamedEntry) (errors : List String)
  | rows (e : NamedEntry) (rest : List SeedRow) (todo : List NamedEntry) (errors : List String)
  | finishing (writes : List (String × String))

namespace Phase

def pastCheck : Phase → Bool
  | check => false
  | entries _ _ => true
  | rows _ _ _ _ => true
  | finishing writes => !writes.isEmpty

def writesNext : Phase → Bool
  | check => false
  | entries _ _ => false
  | rows _ _ _ _ => true
  | finishing writes => !writes.isEmpty

end Phase

def finalWrites (c : Call) (errors : List String) : List (String × String) :=
  if errors.isEmpty then
    [("version", toString c.manifest.version.toNat), ("last_refresh_at", c.outside.finishedAt), ("last_error", ""),
      ("source", "remote"), ("remote_url", c.base)]
  else [("last_error", "; ".intercalate errors)]

/-- One statement of the call, with the work outside the database that follows it. -/
def advance (c : Call) (s : SeedStore) : Phase → SeedStore × Option Phase
  | .check =>
    if c.manifest.version ≤ s.localVersion then (s, none)
    else (s, some (.entries c.manifest.entries.rows []))
  | .entries [] errors => (s, some (.finishing (finalWrites c errors)))
  | .entries (e :: todo) errors =>
    if s.metadata (hashKey e.1) = some e.2.sha256 then (s, some (.entries todo errors))
    else
      match (body c.outside c.base e).2 with
      | .error err => (s, some (.entries todo (errors ++ [message e.1 err])))
      | .ok rows => (s, some (.rows e rows todo errors))
  | .rows e [] todo errors => (s.setMetadata (hashKey e.1) e.2.sha256, some (.entries todo errors))
  | .rows e (row :: rest) todo errors =>
    match seedRow s.db (c.outside.clock e.1) row with
    | .ok db => ({ s with db }, some (.rows e rest todo errors))
    | .error err => (s, some (.entries todo (errors ++ [message e.1 err])))
  | .finishing [] => (s, none)
  | .finishing (w :: writes) => (s.setMetadata w.1 w.2, some (.finishing writes))

abbrev Task := Call × Phase

def execute (s : SeedStore) (t : Task) : SeedStore × Option Task :=
  let next := advance t.1 s t.2
  (next.1, next.2.map fun p => (t.1, p))

def initial (c : Call) : Task := (c, .check)

/-- When a call writes its version, every other call that has passed its own comparison and still has
statements to execute is for a manifest at least as new. -/
def EventOk (s : State SeedStore Task) : Event Call → Prop
  | .start _ _ => True
  | .statement i => ∀ c value writes, s.active i = some (c, .finishing (("version", value) :: writes)) →
      ∀ j c' p, j ≠ i → s.active j = some (c', p) → p.pastCheck = true → c.manifest.version ≤ c'.manifest.version

section

variable (ok : State SeedStore Task → Event Call → Prop) (store : SeedStore)

def VersionMonotone : Prop :=
  ∀ (es fs : List (Event Call)) (s t : State SeedStore Task),
    Meets (step initial execute) ok (.idle store) (es ++ fs) → run (step initial execute) (.idle store) es = some s →
    run (step initial execute) s fs = some t → s.store.localVersion ≤ t.store.localVersion

def NoOlderWrites : Prop :=
  ∀ (es : List (Event Call)) (s : State SeedStore Task),
    Meets (step initial execute) ok (.idle store) es → run (step initial execute) (.idle store) es = some s →
    ∀ i c p, s.active i = some (c, p) → p.writesNext = true → s.store.localVersion ≤ c.manifest.version

end

structure Inv (s : State SeedStore Task) : Prop where
  ahead : ∀ i c p, s.active i = some (c, p) → p.pastCheck = true → s.store.localVersion ≤ c.manifest.version
  final : ∀ i c writes, s.active i = some (c, .finishing writes) → ∃ errors, writes <:+ finalWrites c errors

section

variable {s : SeedStore} {c : Call}

theorem finalWrites_version {writes : List (String × String)} {value : String} {es : List String}
    (h : ("version", value) :: writes <:+ finalWrites c es) : value = toString c.manifest.version.toNat := by
  have hmem : ("version", value) ∈ finalWrites c es := h.subset List.mem_cons_self
  unfold finalWrites at hmem
  split_ifs at hmem
  · simpa using hmem
  · simp at hmem

theorem advance_localVersion {p : Phase} :
    (advance c s p).1.localVersion = s.localVersion ∨
      ∃ value writes, p = .finishing (("version", value) :: writes) ∧
        (advance c s p).1 = s.setMetadata "version" value := by
  cases p with
  | check =>
    left
    simp only [advance]
    split_ifs
    · rfl
    · rfl
  | entries todo errors =>
    left
    cases todo with
    | nil => rfl
    | cons e todo =>
      simp only [advance]
      split_ifs
      · rfl
      · split
        · rfl
        · rfl
  | rows e rest todo errors =>
    left
    cases rest with
    | nil => exact localVersion_of_ne (hashKey_ne_version e.1) _
    | cons row rest =>
      simp only [advance]
      split
      · rfl
      · rfl
  | finishing writes =>
    cases writes with
    | nil => exact .inl rfl
    | cons w writes =>
      obtain ⟨key, value⟩ := w
      by_cases h : key = "version"
      · subst h
        exact .inr ⟨value, writes, rfl, rfl⟩
      · exact .inl (localVersion_of_ne h value)

theorem advance_pastCheck {p q : Phase} (h : (advance c s p).2 = some q) :
    p.pastCheck = true ∨ s.localVersion < c.manifest.version ∧ (advance c s p).1 = s := by
  cases p with
  | check =>
    right
    simp only [advance] at h ⊢
    split_ifs at h ⊢ with hle
    exact ⟨UInt32.not_le.mp hle, rfl⟩
  | entries todo errors => exact .inl rfl
  | rows e rest todo errors => exact .inl rfl
  | finishing writes =>
    left
    cases writes with
    | nil => cases h
    | cons w writes => rfl

theorem advance_finishing {p : Phase} {writes : List (String × String)}
    (h : (advance c s p).2 = some (.finishing writes)) :
    (∃ errors, writes = finalWrites c errors) ∨ ∃ w, p = .finishing (w :: writes) := by
  cases p with
  | check =>
    simp only [advance] at h
    split_ifs at h
    all_goals cases h
  | entries todo errors =>
    cases todo with
    | nil =>
      cases h
      exact .inl ⟨errors, rfl⟩
    | cons e todo =>
      simp only [advance] at h
      split_ifs at h
      · cases h
      · split at h
        all_goals cases h
  | rows e rest todo errors =>
    cases rest with
    | nil => cases h
    | cons row rest =>
      simp only [advance] at h
      split at h
      all_goals cases h
  | finishing ws =>
    cases ws with
    | nil => cases h
    | cons w ws =>
      cases h
      exact .inr ⟨w, rfl⟩

end

section

variable {s t : State SeedStore Task} {e : Event Call}

theorem statement_localVersion (hs : Inv s) {i : ℕ} {c : Call} {p : Phase} (hp : s.active i = some (c, p)) :
    (advance c s.store p).1.localVersion = s.store.localVersion ∨
      p.pastCheck = true ∧ (advance c s.store p).1.localVersion = c.manifest.version ∧
        ∃ value writes, p = .finishing (("version", value) :: writes) := by
  obtain hsame | ⟨value, writes, rfl, hset⟩ := @advance_localVersion s.store c p
  · exact .inl hsame
  · obtain ⟨errors, hsuffix⟩ := hs.final i c _ hp
    right
    refine ⟨rfl, ?_, value, writes, rfl⟩
    rw [hset, finalWrites_version hsuffix, localVersion_set]

theorem execute_task {store : SeedStore} {c c' : Call} {p p' : Phase}
    (h : (execute store (c, p)).2 = some (c', p')) : c' = c ∧ (advance c store p).2 = some p' := by
  obtain ⟨q, hq, heq⟩ := Option.map_eq_some_iff.mp h
  cases heq
  exact ⟨rfl, hq⟩

theorem step_inv (hs : Inv s) (hok : EventOk s e) (h : step initial execute s e = some t) : Inv t := by
  obtain ⟨i, c, rfl, -, rfl⟩ | ⟨i, ⟨c, p⟩, rfl, hp, rfl⟩ := step_cases h
  · constructor
    · intro j c' q hq hpast
      obtain ⟨rfl, htask⟩ | ⟨-, hother⟩ := update_eq_some hq
      · cases htask
        cases hpast
      · exact hs.ahead j c' q hother hpast
    · intro j c' writes hq
      obtain ⟨rfl, htask⟩ | ⟨-, hother⟩ := update_eq_some hq
      · cases htask
      · exact hs.final j c' writes hother
  · constructor
    · intro j c' q hq hpast
      have hversion := statement_localVersion hs hp
      change (advance c s.store p).1.localVersion ≤ c'.manifest.version
      obtain ⟨rfl, htask⟩ | ⟨hj, hother⟩ := update_eq_some hq
      · obtain ⟨rfl, hnext⟩ := execute_task htask
        obtain hsame | ⟨-, hown, -⟩ := hversion
        · rw [hsame]
          obtain hbefore | ⟨hlt, -⟩ := advance_pastCheck hnext
          · exact hs.ahead j _ p hp hbefore
          · exact UInt32.le_of_lt hlt
        · exact hown ▸ UInt32.le_refl _
      · obtain hsame | ⟨-, hown, value, writes, rfl⟩ := hversion
        · rw [hsame]
          exact hs.ahead j c' q hother hpast
        · rw [hown]
          exact hok c value writes hp j c' q hj hother hpast
    · intro j c' writes hq
      obtain ⟨rfl, htask⟩ | ⟨-, hother⟩ := update_eq_some hq
      · obtain ⟨rfl, hnext⟩ := execute_task htask
        obtain ⟨errors, rfl⟩ | ⟨w, rfl⟩ := advance_finishing hnext
        · exact ⟨errors, List.suffix_refl _⟩
        · obtain ⟨errors, hsuffix⟩ := hs.final j _ (w :: writes) hp
          exact ⟨errors, (List.suffix_cons w writes).trans hsuffix⟩
      · exact hs.final j c' writes hother

theorem step_version (hs : Inv s) (h : step initial execute s e = some t) :
    s.store.localVersion ≤ t.store.localVersion := by
  obtain ⟨i, c, rfl, -, rfl⟩ | ⟨i, ⟨c, p⟩, rfl, hp, rfl⟩ := step_cases h
  · exact UInt32.le_refl _
  · change s.store.localVersion ≤ (advance c s.store p).1.localVersion
    obtain hsame | ⟨hpast, hown, -⟩ := statement_localVersion hs hp
    · exact hsame ▸ UInt32.le_refl _
    · exact hown ▸ hs.ahead i c p hp hpast

theorem idle_inv (store : SeedStore) : Inv (.idle store) where
  ahead := fun _ _ _ h => nomatch h
  final := fun _ _ _ h => nomatch h

theorem reached_inv {store : SeedStore} {es : List (Event Call)}
    (hok : Meets (step initial execute) EventOk (.idle store) es)
    (hs : run (step initial execute) (.idle store) es = some s) : Inv s :=
  run_invariant Inv (fun _ _ _ => step_inv) (idle_inv store) hok hs

theorem run_version {es : List (Event Call)} (hs : Inv s) (hok : Meets (step initial execute) EventOk s es)
    (ht : run (step initial execute) s es = some t) : s.store.localVersion ≤ t.store.localVersion := by
  have hstep : ∀ u e v, Inv u ∧ s.store.localVersion ≤ u.store.localVersion → EventOk u e →
      step initial execute u e = some v → Inv v ∧ s.store.localVersion ≤ v.store.localVersion := by
    intro u e v hu hok hv
    exact ⟨step_inv hu.1 hok hv, UInt32.le_trans hu.2 (step_version hu.1 hv)⟩
  exact (run_invariant _ hstep ⟨hs, UInt32.le_refl _⟩ hok ht).2

end

section

variable {c : Call}

theorem alone_advance {s s' : SeedStore} {p p' : Phase} {d : SeedStore × Option Task}
    (h : advance c s p = (s', some p')) (hd : Alone execute (s', some (c, p')) d) :
    Alone execute (s, some (c, p)) d := by
  refine alone_execute ?_ hd
  simp only [execute, h, Option.map_some]

theorem finishing_alone (s : SeedStore) (writes : List (String × String)) :
    Alone execute (s, some (c, .finishing writes)) (writes.foldl (fun s w => s.setMetadata w.1 w.2) s, none) := by
  induction writes generalizing s with
  | nil => exact alone_execute rfl (alone_refl _)
  | cons w writes ih => exact alone_advance rfl (ih _)

theorem rows_alone (s : SeedStore) (e : NamedEntry) (rows : List SeedRow) (todo : List NamedEntry)
    (errors : List String) :
    Alone execute (s, some (c, .rows e rows todo errors))
      (match upsertEntry s.db (c.outside.clock e.1) rows with
        | (db, .ok ()) => (({ s with db } : SeedStore).setMetadata (hashKey e.1) e.2.sha256,
            some (c, .entries todo errors))
        | (db, .error err) => ({ s with db }, some (c, .entries todo (errors ++ [message e.1 err])))) := by
  induction rows generalizing s with
  | nil => exact alone_advance rfl (alone_refl _)
  | cons row rows ih =>
    simp only [upsertEntry]
    cases hrow : seedRow s.db (c.outside.clock e.1) row with
    | ok db =>
      have hnext : advance c s (.rows e (row :: rows) todo errors) =
          ({ s with db }, some (.rows e rows todo errors)) := by simp only [advance, hrow]
      exact alone_advance hnext (ih { s with db })
    | error err =>
      have hnext : advance c s (.rows e (row :: rows) todo errors) =
          (s, some (.entries todo (errors ++ [message e.1 err]))) := by simp only [advance, hrow]
      exact alone_advance hnext (alone_refl _)

theorem entry_alone (s : SeedStore) (e : NamedEntry) (todo : List NamedEntry) (errors : List String) :
    Alone execute (s, some (c, .entries (e :: todo) errors))
      ((refreshEntry c.outside c.base s e).1,
        some (c, .entries todo (errors ++ (refreshEntry c.outside c.base s e).2.toList))) := by
  unfold refreshEntry fetchAndApplyEntry upsertNamed
  split_ifs with hsame
  · refine alone_advance (if_pos hsame) ?_
    rw [Option.toList_none, List.append_nil]
    exact alone_refl _
  · cases hfetch : fetchEntry c.outside c.base e with
    | error err =>
      have hnext : advance c s (.entries (e :: todo) errors) =
          (s, some (.entries todo (errors ++ [message e.1 err]))) := by
        simp only [advance, if_neg hsame, body, hfetch, Except.bind]
      exact alone_advance hnext (alone_refl _)
    | ok json =>
      dsimp only
      cases hrows : decode c.outside e.1 json with
      | error err =>
        have hnext : advance c s (.entries (e :: todo) errors) =
            (s, some (.entries todo (errors ++ [message e.1 err]))) := by
          simp only [advance, if_neg hsame, body, hfetch, Except.bind, hrows]
        exact alone_advance hnext (alone_refl _)
      | ok rows =>
        have hnext : advance c s (.entries (e :: todo) errors) = (s, some (.rows e rows todo errors)) := by
          simp only [advance, if_neg hsame, body, hfetch, Except.bind, hrows]
        have hrun := @rows_alone c s e rows todo errors
        apply alone_advance hnext
        dsimp only
        rcases hup : upsertEntry s.db (c.outside.clock e.1) rows with ⟨db, err | ok⟩
        · rw [hup] at hrun
          exact hrun
        · rw [hup] at hrun
          rw [Option.toList_none, List.append_nil]
          exact hrun

theorem entries_alone (s : SeedStore) (es : List NamedEntry) (errors : List String) :
    Alone execute (s, some (c, .entries es errors))
      ((refreshEntries c.outside c.base s es).1,
        some (c, .finishing (finalWrites c (errors ++ (refreshEntries c.outside c.base s es).2)))) := by
  induction es generalizing s errors with
  | nil =>
    apply alone_advance rfl
    rw [refreshEntries, List.append_nil]
    exact alone_refl _
  | cons e es ih =>
    apply (entry_alone s e es errors).trans
    simpa only [refreshEntries, List.append_assoc] using ih (refreshEntry c.outside c.base s e).1
      (errors ++ (refreshEntry c.outside c.base s e).2.toList)

theorem finalWrites_foldl (s : SeedStore) (errors : List String) :
    (finalWrites c errors).foldl (fun s w => s.setMetadata w.1 w.2) s =
      finishRefresh c.outside c.base c.manifest.version s errors := by
  unfold finalWrites finishRefresh
  split_ifs
  · rfl
  · rfl

theorem seedRefresh_alone (s : SeedStore) :
    Alone execute (s, some (initial c)) ((SeedOps.seedRefresh c.outside c.base s (.ok c.manifest)).1, none) := by
  unfold SeedOps.seedRefresh
  dsimp only
  split_ifs with hle
  · refine alone_execute ?_ (alone_refl _)
    have hend : advance c s .check = (s, none) := if_pos hle
    simp only [execute, initial, hend, Option.map_none]
  · have hentries := @entries_alone c s c.manifest.entries.rows []
    rw [List.nil_append] at hentries
    refine alone_advance (if_neg hle) (hentries.trans ?_)
    rw [← finalWrites_foldl]
    exact finishing_alone _ _

theorem eventOk_alone (s : State SeedStore Task) (i : ℕ) (h : ∀ j, j ≠ i → s.active j = none) :
    EventOk s (.statement i) := by
  intro c value writes hi j c' p hj hp
  rw [h j hj] at hp
  cases hp

theorem seedRefresh_uninterrupted (c : Call) (s : SeedStore) (i : ℕ) :
    ∃ n, Meets (step initial execute) EventOk (.idle s) (.start i c :: List.replicate n (.statement i)) ∧
      run (step initial execute) (.idle s) (.start i c :: List.replicate n (.statement i)) =
        some (.idle (SeedOps.seedRefresh c.outside c.base s (.ok c.manifest)).1) :=
  run_alone (fun _ _ _ => trivial) eventOk_alone (seedRefresh_alone s) i

theorem execute_call {task : Task} {p : Phase} (h : (execute s task).2 = some (c, p)) : c = task.1 := by
  obtain ⟨next, -, heq⟩ := Option.map_eq_some_iff.mp h
  cases heq
  rfl

variable {calls : ℕ → Call} {u v : State SeedStore Task}

theorem statement_calls (hu : ∀ j c p, u.active j = some (c, p) → c = calls j) {i : ℕ}
    (hv : step initial execute u (.statement i) = some v) : ∀ j c p, v.active j = some (c, p) → c = calls j := by
  intro j c p hj
  obtain ⟨_, _, he, -⟩ | ⟨k, task, -, htask, rfl⟩ := step_cases hv
  · cases he
  · rcases update_eq_some hj with ⟨rfl, hnext⟩ | ⟨-, hsame⟩
    · rw [execute_call hnext]
      exact hu j _ _ htask
    · exact hu j c p hsame

theorem eventOk_oldest (hu : ∀ j c p, u.active j = some (c, p) → c = calls j) {i : ℕ}
    (hold : ∀ j, (calls i).manifest.version ≤ (calls j).manifest.version) : EventOk u (.statement i) := by
  intro c value writes hi j c' p _ hj _
  rw [hu i _ _ hi, hu j _ _ hj]
  exact hold j

theorem meets_oldest (hu : ∀ j c p, u.active j = some (c, p) → c = calls j) {i : ℕ}
    (hold : ∀ j, (calls i).manifest.version ≤ (calls j).manifest.version) (n : ℕ) :
    Meets (step initial execute) EventOk u (List.replicate n (.statement i)) := by
  apply @meets_of_inv _ _ _ _ fun u => ∀ j c p, u.active j = some (c, p) → c = calls j
  · intro e he s t hs ht
    rw [List.eq_of_mem_replicate he] at ht
    exact statement_calls hs ht
  · intro e he s hs
    rw [List.eq_of_mem_replicate he]
    exact eventOk_oldest hs hold
  · exact hu

end

theorem version_never_back (store : SeedStore) :
    VersionMonotone EventOk store ∧ NoOlderWrites EventOk store := by
  constructor
  · intro es fs s t hok hs ht
    obtain ⟨hes, hfs⟩ := (meets_append hs).mp hok
    exact run_version (reached_inv hes hs) hfs ht
  · intro es s hok hs i c p hp hwrites
    apply (reached_inv hok hs).ahead i c p hp
    cases p with
    | check => cases hwrites
    | entries todo errors => rfl
    | rows e rest todo errors => rfl
    | finishing writes => exact hwrites

namespace Sample

def call (version : UInt32) : Call :=
  ⟨SeedOps.Sample.outside, SeedOps.Sample.base, version, ⟨[], List.nodup_nil⟩⟩

def store : SeedStore := ⟨Database.empty, SeedOps.Sample.metadata⟩

def newerFirst : List (Event Call) :=
  [.start 0 (call 2), .start 1 (call 3), .statement 0, .statement 1, .statement 1, .statement 1]

def olderLast : List (Event Call) := [.statement 0, .statement 0]

def calls (i : ℕ) : Call := if i = 0 then call 2 else call 3

def olderFirst : List (Event Call) :=
  [.start 0 (call 2), .start 1 (call 3), .statement 0, .statement 1] ++ List.replicate 7 (.statement 0)

def newerLast : List (Event Call) := List.replicate 7 (.statement 1)

end Sample

theorem version_never_back_overlapping :
    ∃ s t, run (step initial execute) (.idle Sample.store) Sample.olderFirst = some s ∧
      run (step initial execute) s Sample.newerLast = some t ∧
      s.store.localVersion = 2 ∧ t.store.localVersion = 3 ∧ s.store.localVersion ≤ t.store.localVersion := by
  have hfirst : Meets (step initial execute) EventOk (.idle Sample.store) Sample.olderFirst := by
    refine ⟨trivial, fun t ht => ?_⟩
    cases ht
    refine ⟨trivial, fun t ht => ?_⟩
    cases ht
    have hcalls : ∀ j c p, (Function.update (Function.update (fun _ => none) 0 (some (initial (Sample.call 2)))) 1
        (some (initial (Sample.call 3))) : ℕ → Option Task) j = some (c, p) → c = Sample.calls j := by
      intro j c p hj
      rcases update_eq_some hj with ⟨rfl, hj⟩ | ⟨-, hj⟩
      · cases hj
        rfl
      · rcases update_eq_some hj with ⟨rfl, hj⟩ | ⟨-, hj⟩
        · cases hj
          rfl
        · cases hj
    have hold : ∀ j, (Sample.calls 0).manifest.version ≤ (Sample.calls j).manifest.version := by
      intro j
      by_cases hj : j = 0
      · subst hj
        exact UInt32.le_refl _
      · simp only [Sample.calls, if_neg hj]
        decide
    refine ⟨eventOk_oldest hcalls hold, fun t ht => ?_⟩
    have hcalls := statement_calls hcalls ht
    cases ht
    refine ⟨fun c value writes h => (nomatch h), fun t ht => ?_⟩
    exact meets_oldest (statement_calls hcalls ht) hold 7
  have hidle : ∀ s, run (step initial execute) (.idle Sample.store) Sample.olderFirst = some s →
      ∀ j, j ≠ 1 → s.active j = none := by
    intro s hs j hj
    by_cases hzero : j = 0
    · subst hzero
      cases hs
      rfl
    · exact run_other hs (by simp [Sample.olderFirst, Event.index, Ne.symm hzero, Ne.symm hj])
  have hs : run (step initial execute) (.idle Sample.store) Sample.olderFirst = some _ := rfl
  have hok := (meets_append hs).mpr ⟨hfirst, meets_alone eventOk_alone (hidle _ hs) 7⟩
  refine ⟨_, _, hs, rfl, by decide +kernel, by decide +kernel, ?_⟩
  exact (version_never_back Sample.store).1 Sample.olderFirst Sample.newerLast _ _ hok hs rfl

theorem older_version_written_last : ¬ ∀ store, VersionMonotone (fun _ _ => True) store := by
  intro h
  have hversion := h Sample.store Sample.newerFirst Sample.olderLast _ _
    (meets_of_forall (fun _ _ _ => trivial) _) rfl rfl
  exact absurd hversion (by decide +kernel)

end AgentProxy.Storage.SeedOps.Concurrent
