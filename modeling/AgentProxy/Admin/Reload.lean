import AgentProxy.Lib.Run
import AgentProxy.Router.Resolve
import AgentProxy.Storage.Seed

namespace AgentProxy.Admin.Concurrent

open Storage Router Transition

inductive Write where
  | updateChannel (id : String) (body : ChannelUpdate) (now : ℤ)
  | deleteChannel (id : String)
  | upsertMapping (m : ModelMapping)
  | deleteMapping (id : String)
  | seedRow (row : SeedRow) (now : ℤ)

def Write.apply (db : Database) : Write → Except StorageError Database
  | updateChannel id body now => Storage.updateChannel db id body now
  | deleteChannel id => Storage.deleteChannel db id
  | upsertMapping m => Storage.upsertMapping db m
  | deleteMapping id => Storage.deleteMapping db id
  | seedRow row now => Storage.seedRow db now row

inductive Request where
  | updateChannel (id : String) (body : ChannelUpdate) (now : ℤ)
  | deleteChannel (id : String)
  | createModelMapping (m : ModelMapping)
  | updateModelMapping (m : ModelMapping)
  | deleteModelMapping (id : String)
  | seedRefresh (rows : List SeedRow) (now : ℤ)

namespace Request

def writes : Request → List Write
  | updateChannel id body now => [.updateChannel id body now]
  | deleteChannel id => [.deleteChannel id]
  | createModelMapping m => [.upsertMapping m]
  | updateModelMapping m => [.upsertMapping m]
  | deleteModelMapping id => [.deleteMapping id]
  | seedRefresh rows now => rows.map fun row => .seedRow row now

def reloads : Request → Bool
  | seedRefresh .. => false
  | _ => true

end Request

/-- A reload after `list_channels`: the channels whose mappings it has still to read and those it
has resolved. `outdated` records that a write since then changed what `from_storage` resolves; the code
keeps no such record. -/
structure Reload where
  todo : List Channel
  done : List ResolvedChannel
  outdated : Bool

inductive Task where
  | writing (rest : List Write) (reloads : Bool)
  | reading (r : Reload)

namespace Task

def age (changed : Bool) : Task → Task
  | writing rest reloads => writing rest reloads
  | reading r => reading { r with outdated := r.outdated || changed }

def Pending : Task → Prop
  | writing _ reloads => reloads = true
  | reading _ => False

def Renews : Task → Prop
  | writing _ reloads => reloads = true
  | reading r => r.outdated = false

end Task

structure State where
  db : Database
  channels : List ResolvedChannel
  active : ℕ → Option Task

inductive Event where
  | start (i : ℕ) (req : Request)
  | write (i : ℕ)
  | listChannels (i : ℕ)
  | listMappings (i : ℕ)
  | swap (i : ℕ)
  | finish (i : ℕ)

def Event.index : Event → ℕ
  | start i _ | write i | listChannels i | listMappings i | swap i | finish i => i

namespace State

def set (s : State) (i : ℕ) (task : Option Task) : State := { s with active := Function.update s.active i task }

end State

section

variable (serde : Serde)

def start (db : Database) : State := ⟨db, resolveChannels serde db, fun _ => none⟩

def resolve (db : Database) (ch : Channel) : Option ResolvedChannel :=
  resolveChannel serde ch (listMappings db ch.id)

def Reload.result (db : Database) (r : Reload) : List ResolvedChannel :=
  r.done ++ r.todo.filterMap (resolve serde db)

def writeDb (s : State) (i : ℕ) (rest : List Write) (reloads : Bool) (db : Database) : State :=
  let changed := decide (resolveChannels serde db ≠ resolveChannels serde s.db)
  { s with db, active := fun j => (s.active j).map (Task.age changed) }.set i (some (.writing rest reloads))

def step (s : State) : Event → Option State
  | .start i req =>
    match s.active i with
    | none => some (s.set i (some (.writing req.writes req.reloads)))
    | some _ => none
  | .write i =>
    match s.active i with
    | some (.writing (w :: rest) reloads) => (w.apply s.db).toOption.map (writeDb serde s i rest reloads)
    | _ => none
  | .listChannels i =>
    match s.active i with
    | some (.writing [] true) => some (s.set i (some (.reading ⟨listChannels s.db, [], false⟩)))
    | _ => none
  | .listMappings i =>
    match s.active i with
    | some (.reading ⟨ch :: todo, done, outdated⟩) =>
      some (s.set i (some (.reading ⟨todo, done ++ (resolve serde s.db ch).toList, outdated⟩)))
    | _ => none
  | .swap i =>
    match s.active i with
    | some (.reading ⟨[], done, _⟩) => some { s.set i none with channels := done }
    | _ => none
  | .finish i =>
    match s.active i with
    | some (.writing [] false) => some (s.set i none)
    | _ => none

/-- A row of a seed refresh changes nothing that `from_storage` reads, or comes before the reload of
another request; and a reload that was overtaken by a write swaps only while another one will still follow. -/
def EventOk (s : State) : Event → Prop
  | .write i => ∀ w rest db, s.active i = some (.writing (w :: rest) false) → w.apply s.db = .ok db →
      resolveChannels serde db = resolveChannels serde s.db ∨ ∃ j task, s.active j = some task ∧ task.Pending
  | .swap i => ∀ r, s.active i = some (.reading r) → r.outdated = true →
      ∃ j task, j ≠ i ∧ s.active j = some task ∧ task.Renews
  | _ => True

def ListCoherence (ok : State → Event → Prop) (db : Database) : Prop :=
  ∀ (events : List Event) (s : State), Meets (step serde) ok (start serde db) events →
    run (step serde) (start serde db) events = some s → (∀ i, s.active i = none) →
    s.channels = (fromStorage serde s.db).channels

structure Inv (s : State) : Prop where
  reading : ∀ i r, s.active i = some (.reading r) → r.outdated = false →
    r.result serde s.db = resolveChannels serde s.db
  fresh : s.channels = resolveChannels serde s.db ∨ ∃ j task, s.active j = some task ∧ task.Renews

end

section

variable {serde : Serde} {s t : State}

theorem start_inv (db : Database) : Inv serde (start serde db) where
  reading := by
    intro i r h
    cases h
  fresh := .inl rfl

theorem step_cases {e : Event} (h : step serde s e = some t) :
    (∃ i req, e = .start i req ∧ s.active i = none ∧ t = s.set i (some (.writing req.writes req.reloads))) ∨
    (∃ i w rest reloads db, e = .write i ∧ s.active i = some (.writing (w :: rest) reloads) ∧
      w.apply s.db = .ok db ∧ t = writeDb serde s i rest reloads db) ∨
    (∃ i, e = .listChannels i ∧ s.active i = some (.writing [] true) ∧
      t = s.set i (some (.reading ⟨listChannels s.db, [], false⟩))) ∨
    (∃ i ch todo done outdated, e = .listMappings i ∧ s.active i = some (.reading ⟨ch :: todo, done, outdated⟩) ∧
      t = s.set i (some (.reading ⟨todo, done ++ (resolve serde s.db ch).toList, outdated⟩))) ∨
    (∃ i done outdated, e = .swap i ∧ s.active i = some (.reading ⟨[], done, outdated⟩) ∧
      t = { s.set i none with channels := done }) ∨
    ∃ i, e = .finish i ∧ s.active i = some (.writing [] false) ∧ t = s.set i none := by
  cases e with
  | start i req =>
    simp only [step] at h
    split at h
    · rename_i ha
      exact .inl ⟨i, req, rfl, ha, (Option.some.inj h).symm⟩
    · cases h
  | write i =>
    simp only [step] at h
    split at h
    · rename_i w rest reloads ha
      obtain ⟨db, hdb, rfl⟩ := Option.map_eq_some_iff.mp h
      refine .inr (.inl ⟨i, w, rest, reloads, db, rfl, ha, ?_, rfl⟩)
      cases hw : w.apply s.db with
      | error e => simp [hw, Except.toOption] at hdb
      | ok db' => simpa [hw, Except.toOption] using hdb
    · cases h
  | listChannels i =>
    simp only [step] at h
    split at h
    · rename_i ha
      exact .inr (.inr (.inl ⟨i, rfl, ha, (Option.some.inj h).symm⟩))
    · cases h
  | listMappings i =>
    simp only [step] at h
    split at h
    · rename_i ch todo done outdated ha
      exact .inr (.inr (.inr (.inl ⟨i, ch, todo, done, outdated, rfl, ha, (Option.some.inj h).symm⟩)))
    · cases h
  | swap i =>
    simp only [step] at h
    split at h
    · rename_i done outdated ha
      exact .inr (.inr (.inr (.inr (.inl ⟨i, done, outdated, rfl, ha, (Option.some.inj h).symm⟩))))
    · cases h
  | finish i =>
    simp only [step] at h
    split at h
    · rename_i ha
      exact .inr (.inr (.inr (.inr (.inr ⟨i, rfl, ha, (Option.some.inj h).symm⟩))))
    · cases h

theorem set_active (i j : ℕ) (task : Option Task) :
    (s.set i task).active j = if j = i then task else s.active j := Function.update_apply ..

theorem writeDb_active (i j : ℕ) (rest : List Write) (reloads : Bool) (db : Database) :
    (writeDb serde s i rest reloads db).active j = if j = i then some (.writing rest reloads)
      else (s.active j).map (Task.age (decide (resolveChannels serde db ≠ resolveChannels serde s.db))) :=
  set_active ..

theorem active_ne {i j : ℕ} {task : Task} (hj : s.active j = some task) (hi : s.active i ≠ some task) : j ≠ i := by
  rintro rfl
  exact hi hj

theorem set_other {i j : ℕ} {task : Task} {new : Option Task} (hj : s.active j = some task)
    (hi : s.active i ≠ some task) : (s.set i new).active j = some task := by
  rw [set_active, if_neg (active_ne hj hi), hj]

theorem step_other {e : Event} {j : ℕ} (h : step serde s e = some t) (hj : j ≠ e.index) (ha : s.active j = none) :
    t.active j = none := by
  obtain ⟨i, req, rfl, -, rfl⟩ | ⟨i, w, rest, reloads, db, rfl, -, -, rfl⟩ | ⟨i, rfl, -, rfl⟩ |
    ⟨i, ch, todo, done, outdated, rfl, -, rfl⟩ | ⟨i, done, outdated, rfl, -, rfl⟩ | ⟨i, rfl, -, rfl⟩ :=
      step_cases h
  · exact (set_active i j _).trans ((if_neg hj).trans ha)
  · have hne : j ≠ i := hj
    rw [writeDb_active, if_neg hne, ha, Option.map_none]
  all_goals exact (set_active i j _).trans ((if_neg hj).trans ha)

theorem run_other (events : List Event) {j : ℕ} (h : run (step serde) s events = some t)
    (hj : ∀ e ∈ events, j ≠ e.index) (ha : s.active j = none) : t.active j = none := by
  have hmeets : Meets (step serde) (fun _ e => j ≠ e.index) s events := meets_of_forall (fun e he _ => hj e he) s
  exact run_invariant (fun u => u.active j = none) (fun _ _ _ ha he hu => step_other hu he ha) ha hmeets h

theorem age_reading {changed : Bool} {task : Task} {r : Reload} (h : task.age changed = .reading r)
    (hr : r.outdated = false) : task = .reading r ∧ changed = false := by
  cases task with
  | writing rest reloads => cases h
  | reading r' =>
    cases h
    obtain ⟨hr', hc⟩ := Bool.or_eq_false_iff.mp hr
    subst hc
    simp

theorem Task.Pending.age {changed : Bool} {task : Task} (h : task.Pending) : (task.age changed).Renews := by
  cases task with
  | writing rest reloads => exact h
  | reading r => exact h.elim

theorem Task.Renews.age {task : Task} (h : task.Renews) : (task.age false).Renews := by
  cases task with
  | writing rest reloads => exact h
  | reading r => exact Bool.or_eq_false_iff.mpr ⟨h, rfl⟩

theorem result_next (db : Database) (ch : Channel) (todo : List Channel) (done : List ResolvedChannel)
    (outdated outdated' : Bool) :
    (⟨todo, done ++ (resolve serde db ch).toList, outdated⟩ : Reload).result serde db =
      (⟨ch :: todo, done, outdated'⟩ : Reload).result serde db := by
  simp only [Reload.result, List.filterMap_cons]
  cases resolve serde db ch <;> simp

theorem result_congr {db db' : Database} {r : Reload} (h : r.result serde db = resolveChannels serde db)
    (hsame : resolveChannels serde db' = resolveChannels serde db) :
    r.result serde db' = resolveChannels serde db' := by
  have hres : ∀ ch ∈ r.todo, resolve serde db' ch = resolve serde db ch := by
    intro ch hch
    by_cases hp : (parseProtocols serde ch).isEmpty
    · simp only [resolve, resolveChannel, hp, ↓reduceIte]
    · obtain ⟨rc, hrc⟩ : ∃ rc, resolve serde db ch = some rc := by
        simp [resolve, resolveChannel, hp]
      have hmem : rc ∈ resolveChannels serde db' := by
        rw [hsame, ← h]
        exact List.mem_append_right _ (List.mem_filterMap.mpr ⟨ch, hch, hrc⟩)
      obtain ⟨ch', -, hrc'⟩ := List.mem_filterMap.mp hmem
      have hid : ch'.id = ch.id := by
        rw [← (resolveChannel_eq_some serde hrc).1, (resolveChannel_eq_some serde hrc').1]
      have hmap := (resolveChannel_mappings serde hrc').symm.trans (resolveChannel_mappings serde hrc)
      rw [hid] at hmap
      exact resolveChannel_congr serde ch hmap
  rw [Reload.result, List.filterMap_congr hres, hsame]
  exact h

theorem start_step_inv {i : ℕ} {req : Request} (hs : Inv serde s) (ha : s.active i = none) :
    Inv serde (s.set i (some (.writing req.writes req.reloads))) := by
  constructor
  · intro j r hj hr
    rw [set_active] at hj
    split_ifs at hj
    · cases hj
    · exact hs.reading j r hj hr
  · apply hs.fresh.imp_right
    rintro ⟨j, task, hj, hr⟩
    exact ⟨j, task, set_other hj (by simp [ha]), hr⟩

theorem write_inv {i : ℕ} {w : Write} {rest : List Write} {reloads : Bool} {db : Database} (hs : Inv serde s)
    (hok : EventOk serde s (.write i)) (ha : s.active i = some (.writing (w :: rest) reloads))
    (hdb : w.apply s.db = .ok db) : Inv serde (writeDb serde s i rest reloads db) := by
  constructor
  · intro j r hj hr
    rw [writeDb_active] at hj
    split_ifs at hj
    · cases hj
    · obtain ⟨task, htask, hage⟩ := Option.map_eq_some_iff.mp hj
      obtain ⟨rfl, hsame⟩ := age_reading hage hr
      have hsame : resolveChannels serde db = resolveChannels serde s.db := by simpa using hsame
      exact result_congr (hs.reading j r htask hr) hsame
  · cases reloads with
    | true =>
      refine .inr ⟨i, .writing rest true, ?_, rfl⟩
      rw [writeDb_active, if_pos rfl]
    | false =>
      -- the writer will not reload, so it is not among the requests that renew the list
      have haged : ∀ j task, s.active j = some task → task.Renews → (writeDb serde s i rest false db).active j =
          some (task.age (decide (resolveChannels serde db ≠ resolveChannels serde s.db))) := by
        intro j task hj hr
        have hne : j ≠ i := active_ne hj fun h => by
          rw [ha] at h
          cases h
          cases hr
        rw [writeDb_active, if_neg hne, hj, Option.map_some]
      rcases hok w rest db ha hdb with hsame | ⟨j, task, hj, hp⟩
      · rcases hs.fresh with h | ⟨j, task, hj, hr⟩
        · exact .inl (h.trans hsame.symm)
        · refine .inr ⟨j, _, haged j task hj hr, ?_⟩
          rw [decide_eq_false (not_not.mpr hsame)]
          exact hr.age
      · have hr : task.Renews := by
          cases task with
          | writing rest' reloads => exact hp
          | reading r => exact hp.elim
        exact .inr ⟨j, _, haged j task hj hr, hp.age⟩

theorem listChannels_inv {i : ℕ} (hs : Inv serde s) :
    Inv serde (s.set i (some (.reading ⟨listChannels s.db, [], false⟩))) := by
  refine ⟨fun j r hj hr => ?_, .inr ⟨i, .reading _, (set_active i i _).trans (if_pos rfl), ?_⟩⟩
  · rw [set_active] at hj
    split_ifs at hj
    · cases hj
      rfl
    · exact hs.reading j r hj hr
  · exact rfl

theorem listMappings_inv {i : ℕ} {ch : Channel} {todo : List Channel} {done : List ResolvedChannel} {outdated : Bool}
    (hs : Inv serde s) (ha : s.active i = some (.reading ⟨ch :: todo, done, outdated⟩)) :
    Inv serde (s.set i (some (.reading ⟨todo, done ++ (resolve serde s.db ch).toList, outdated⟩))) := by
  constructor
  · intro j r hj hr
    rw [set_active] at hj
    split_ifs at hj
    · cases hj
      exact (result_next s.db ch todo done outdated outdated).trans (hs.reading i _ ha hr)
    · exact hs.reading j r hj hr
  · apply hs.fresh.imp_right
    rintro ⟨j, task, hj, hr⟩
    by_cases hji : s.active i = some task
    · rw [ha] at hji
      cases hji
      exact ⟨i, _, (set_active i i _).trans (if_pos rfl), hr⟩
    · exact ⟨j, task, set_other hj hji, hr⟩

theorem swap_inv {i : ℕ} {done : List ResolvedChannel} {outdated : Bool} (hs : Inv serde s)
    (hok : EventOk serde s (.swap i)) (ha : s.active i = some (.reading ⟨[], done, outdated⟩)) :
    Inv serde { s.set i none with channels := done } := by
  have hactive : ∀ j, ({ s.set i none with channels := done } : State).active j =
      if j = i then none else s.active j := fun j => set_active i j none
  constructor
  · intro j r hj hr
    rw [hactive] at hj
    split_ifs at hj
    exact hs.reading j r hj hr
  · cases outdated with
    | false =>
      have hresult := hs.reading i _ ha rfl
      simp only [Reload.result, List.filterMap_nil, List.append_nil] at hresult
      exact .inl hresult
    | true =>
      obtain ⟨j, task, hne, hj, hr⟩ := hok _ ha rfl
      exact .inr ⟨j, task, by rw [hactive, if_neg hne, hj], hr⟩

theorem finish_inv {i : ℕ} (hs : Inv serde s) (ha : s.active i = some (.writing [] false)) :
    Inv serde (s.set i none) := by
  constructor
  · intro j r hj hr
    rw [set_active] at hj
    split_ifs at hj
    exact hs.reading j r hj hr
  · apply hs.fresh.imp_right
    rintro ⟨j, task, hj, hr⟩
    refine ⟨j, task, set_other hj fun h => ?_, hr⟩
    rw [ha] at h
    cases h
    cases hr

theorem step_inv {e : Event} (hs : Inv serde s) (hok : EventOk serde s e) (h : step serde s e = some t) :
    Inv serde t := by
  obtain ⟨i, req, rfl, ha, rfl⟩ | ⟨i, w, rest, reloads, db, rfl, ha, hdb, rfl⟩ | ⟨i, rfl, -, rfl⟩ |
    ⟨i, ch, todo, done, outdated, rfl, ha, rfl⟩ | ⟨i, done, outdated, rfl, ha, rfl⟩ | ⟨i, rfl, ha, rfl⟩ :=
      step_cases h
  · exact start_step_inv hs ha
  · exact write_inv hs hok ha hdb
  · exact listChannels_inv hs
  · exact listMappings_inv hs ha
  · exact swap_inv hs hok ha
  · exact finish_inv hs ha

end

namespace Sample

def database : Database := Router.Sample.database "deepseek" "deepseek" "sk"

def enable (enabled : Bool) (now : ℤ) : Request := .updateChannel "deepseek" { enabled := some enabled } now

def overtaken : List Event :=
  [.start 0 (enable false 1), .start 1 (enable true 2), .write 0, .listChannels 0, .write 1, .listMappings 0, .swap 0,
    .listChannels 1, .listMappings 1, .swap 1]

def seedChannel : SeedChannel where
  id := "kimi"
  name := "Kimi"
  protocol := "openai_chat"
  protocols := Router.Sample.protocolsText

def seed : List Event := [.start 0 (.seedRefresh [.channel seedChannel] 1), .write 0, .finish 0]

end Sample

theorem listCoherence_of_eventOk (serde : Serde) (db : Database) : ListCoherence serde (EventOk serde) db := by
  intro events s hok hrun hidle
  have hs : Inv serde s := run_invariant (Inv serde) (fun _ _ _ => step_inv) (start_inv db) hok hrun
  rcases hs.fresh with h | ⟨j, task, hj, -⟩
  · exact h
  · rw [hidle j] at hj
    cases hj

theorem listCoherence_overtaken :
    ∃ s, run (step Router.Sample.serde) (start Router.Sample.serde Sample.database) Sample.overtaken = some s ∧
      s.channels.map (·.enabled) = [true] ∧ s.channels = (fromStorage Router.Sample.serde s.db).channels := by
  refine ⟨_, rfl, by decide +kernel, listCoherence_of_eventOk _ Sample.database Sample.overtaken _ ?_ rfl fun i => ?_⟩
  · refine ⟨trivial, fun t ht => ?_⟩
    cases ht
    refine ⟨trivial, fun t ht => ?_⟩
    cases ht
    refine ⟨fun w rest db hw => (nomatch hw), fun t ht => ?_⟩
    cases ht
    refine ⟨trivial, fun t ht => ?_⟩
    cases ht
    refine ⟨fun w rest db hw => (nomatch hw), fun t ht => ?_⟩
    cases ht
    refine ⟨trivial, fun t ht => ?_⟩
    cases ht
    -- the first reload misses the second write, whose own reload is still to come
    refine ⟨fun r hr hout => ⟨1, .writing [] true, by decide, rfl, rfl⟩, fun t ht => ?_⟩
    cases ht
    refine ⟨trivial, fun t ht => ?_⟩
    cases ht
    refine ⟨trivial, fun t ht => ?_⟩
    cases ht
    refine ⟨fun r hr hout => ?_, fun _ _ => trivial⟩
    cases hr
    cases hout
  · by_cases hi : i = 0 ∨ i = 1
    · rcases hi with rfl | rfl
      · rfl
      · rfl
    · rw [not_or] at hi
      exact run_other (s := start Router.Sample.serde Sample.database) Sample.overtaken rfl
        (by simp [Sample.overtaken, Event.index, hi]) rfl

theorem seed_refresh_not_loaded : ¬ ListCoherence Router.Sample.serde (fun _ _ => True) Sample.database := by
  intro h
  have hmeets : Meets (step Router.Sample.serde) (fun _ _ => True) (start Router.Sample.serde Sample.database)
      Sample.seed := ⟨trivial, fun _ _ => ⟨trivial, fun _ _ => ⟨trivial, fun _ _ => trivial⟩⟩⟩
  have hlist := h Sample.seed _ hmeets rfl fun i => by
    by_cases hi : i = 0
    · subst hi
      rfl
    · exact run_other (s := start Router.Sample.serde Sample.database) Sample.seed rfl
        (by simp [Sample.seed, Event.index, hi]) rfl
  exact absurd (congrArg List.length hlist) (by decide +kernel)

end AgentProxy.Admin.Concurrent
