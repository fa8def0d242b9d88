import AgentProxy.Admin.Handlers
import AgentProxy.Lib.Pool

namespace AgentProxy.Admin

open Storage

namespace UpdateMappingBody

def Carried (body : UpdateMappingBody) (m : ModelMapping) : Prop := body.apply m = m

structure DisjointFrom (a b : UpdateMappingBody) : Prop where
  upstreamName : a.upstreamName = none ∨ b.upstreamName = none
  clientName : a.clientName = none ∨ b.clientName = none
  billing : a.billing = none ∨ b.billing = none
  pricingJson : a.pricingJson = none ∨ b.pricingJson = none
  weight : a.weight = none ∨ b.weight = none
  enabled : a.enabled = none ∨ b.enabled = none
  protocols : a.protocols = none ∨ b.protocols = none

theorem carried_iff {body : UpdateMappingBody} {m : ModelMapping} :
    body.Carried m ↔ body.upstreamName.getD m.upstreamName = m.upstreamName ∧
      body.clientName.getD m.clientName = m.clientName ∧ body.billing.getD m.billing = m.billing ∧
      body.pricingJson.getD m.pricingJson = m.pricingJson ∧ body.weight.getD m.weight = m.weight ∧
      body.enabled.getD m.enabled = m.enabled ∧ body.protocols.getD m.protocols = m.protocols := by
  obtain ⟨id, channelId, clientName, upstreamName, billing, pricingJson, weight, enabled, protocols⟩ := m
  simp only [Carried, apply, ModelMapping.mk.injEq, true_and]
  tauto

theorem getD_settled {α : Type} (x : Option α) (d : α) : x.getD (x.getD d) = x.getD d := by
  cases x <;> rfl

theorem getD_settled_iff {α : Type} {x y : Option α} (h : x = none ∨ y = none) (d : α) :
    x.getD (y.getD d) = y.getD d ↔ x.getD d = d := by
  rcases h with rfl | rfl
  · simp
  · simp

theorem carried_apply (body : UpdateMappingBody) (m : ModelMapping) : body.Carried (body.apply m) := by
  simp only [carried_iff, apply, getD_settled, and_self]

theorem DisjointFrom.carried_apply_iff {a b : UpdateMappingBody} (h : a.DisjointFrom b) (m : ModelMapping) :
    a.Carried (b.apply m) ↔ a.Carried m := by
  simp only [carried_iff, apply, getD_settled_iff h.upstreamName, getD_settled_iff h.clientName,
    getD_settled_iff h.billing, getD_settled_iff h.pricingJson, getD_settled_iff h.weight,
    getD_settled_iff h.enabled, getD_settled_iff h.protocols]

theorem DisjointFrom.symm {a b : UpdateMappingBody} (h : a.DisjointFrom b) : b.DisjointFrom a :=
  ⟨h.upstreamName.symm, h.clientName.symm, h.billing.symm, h.pricingJson.symm, h.weight.symm, h.enabled.symm,
    h.protocols.symm⟩

end UpdateMappingBody

namespace Mappings

open Transition

inductive Call where
  | update (id : String) (body : UpdateMappingBody)
  | delete (id : String)

/-- A request between two of its storage calls; `upserting` holds the row that `list_all_mappings` returned.
The reads of `reload_channels` count as one call. -/
inductive Task where
  | listing (id : String) (body : UpdateMappingBody)
  | upserting (existing : ModelMapping) (body : UpdateMappingBody)
  | deleting (id : String)
  | reloading
  | returned (result : Except AppError Unit)

namespace Call

def id : Call → String
  | update id _ | delete id => id

def task : Call → Task
  | update id body => .listing id body
  | delete id => .deleting id

def handle (serde : Serde) (s : AdminState) : Call → Except AppError Unit × AdminState
  | update id body => updateModelMapping serde s id body
  | delete id => deleteModelMapping serde s id

/-- What the request leaves of the row it works on. -/
def result : Call → ModelMapping → Option ModelMapping
  | update _ body, m => some (body.apply m)
  | delete _, _ => none

end Call

def execute (serde : Serde) (s : AdminState) : Task → AdminState × Option Task
  | .listing id body =>
    match (listAllMappings s.storage).find? fun m => m.id = id with
    | none => (s, some (.returned (.error (.notFound ("mapping " ++ id)))))
    | some existing => (s, some (.upserting existing body))
  | .upserting existing body =>
    match upsertMapping s.storage (body.apply existing) with
    | .ok db => ({ s with storage := db }, some .reloading)
    | .error e => (s, some (.returned (.error (.fromStorage e))))
  | .deleting id =>
    match deleteMapping s.storage id with
    | .ok db => ({ s with storage := db }, some .reloading)
    | .error e => (s, some (.returned (.error (.missing ("mapping " ++ id) e))))
  | .reloading => (s.reloadChannels serde, some (.returned (.ok ())))
  | .returned result => (s, some (.returned result))

abbrev State := Pool.State AdminState Task

abbrev step (serde : Serde) : State → Pool.Event Call → Option State := Pool.step Call.task (execute serde)

def row (s : AdminState) (id : String) : Option ModelMapping := s.storage.mappings.find? id

def both (s : AdminState) (c d : Call) : State :=
  ⟨s, fun i => if i = 0 then some c.task else if i = 1 then some d.task else none⟩

def BothSucceeded (t : State) : Prop :=
  t.active 0 = some (.returned (.ok ())) ∧ t.active 1 = some (.returned (.ok ()))

def calls (schedule : List ℕ) : List (Pool.Event Call) := schedule.map .statement

def TaskCurrent (s : AdminState) : Task → Prop
  | .upserting existing _ => row s existing.id = some existing
  | _ => True

/-- An upsert is executed while the mapping is stored as the request read it. -/
def Current (s : State) : Pool.Event Call → Prop
  | .statement i => ∀ task, s.active i = some task → TaskCurrent s.store task
  | .start _ _ => True

def Task.Quiet : Task → Prop
  | .reloading | .returned _ => True
  | _ => False

def Task.Working (c : Call) (seen : ModelMapping → Prop) : Task → Prop
  | .listing id body => c = .update id body
  | .upserting existing body => c = .update existing.id body ∧ seen existing
  | .deleting id => c = .delete id
  | _ => False

/-- `c` writes first, on the row `m`, and `d` then writes on the row `n`, which it read before or after that. -/
structure Follows (c d : Call) (m n : ModelMapping) (final : Option ModelMapping) (current : Prop) : Prop where
  read : n = m ∨ c.result m = some n
  stored : final = d.result n
  current_iff : current ↔ c.result m = some n
  deleted : d.result n = none → c.result m = some n

section

variable {serde : Serde} {s : AdminState} {id : String} {task : Task}

theorem row_id {m : ModelMapping} (h : row s id = some m) : m.id = id := ((Table.find?_eq_some _).mp h).2

theorem find?_listAllMappings (s : AdminState) (id : String) :
    ((listAllMappings s.storage).find? fun m => m.id = id) = row s id := by
  cases h : (listAllMappings s.storage).find? fun m => m.id = id with
  | none =>
    refine ((Table.find?_eq_none _).mpr fun m hm hid => ?_).symm
    have hlisted : m ∈ listAllMappings s.storage := (List.mem_insertionSort _).mpr hm
    exact List.find?_eq_none.mp h m hlisted (decide_eq_true hid)
  | some m =>
    have hstored : m ∈ s.storage.mappings.rows := (List.mem_insertionSort _).mp (List.mem_of_find?_eq_some h)
    have hid : m.id = id := by simpa using List.find?_some h
    exact ((Table.find?_eq_some _).mpr ⟨hstored, hid⟩).symm

theorem upsertMapping_row {db : Database} {m : ModelMapping} (h : upsertMapping s.storage m = .ok db) :
    row { s with storage := db } m.id = some m := by
  unfold upsertMapping at h
  split at h
  · cases h
  · cases h
    simp only [row, find?_upsert_mapping, ↓reduceIte]

theorem deleteMapping_row {db : Database} (h : deleteMapping s.storage id = .ok db) :
    (∃ m, row s id = some m) ∧ row { s with storage := db } id = none := by
  unfold deleteMapping at h
  split at h
  · cases h
  · rename_i m hm
    cases h
    refine ⟨⟨m, hm⟩, ?_⟩
    simp only [row, Table.find?_filterOut_key, ↓reduceIte]

theorem Task.Working.mono {c : Call} {p q : ModelMapping → Prop} (h : task.Working c p) (hpq : ∀ m, p m → q m) :
    task.Working c q := by
  cases task with
  | upserting existing body => exact ⟨h.1, hpq existing h.2⟩
  | listing id body => exact h
  | deleting id => exact h
  | reloading => exact h
  | returned result => exact h

theorem Task.Quiet.execute (h : task.Quiet) :
    (∀ id, row (execute serde s task).1 id = row s id) ∧
      ∃ task', (Mappings.execute serde s task).2 = some task' ∧ task'.Quiet := by
  cases task with
  | listing id body => exact h.elim
  | upserting existing body => exact h.elim
  | deleting id => exact h.elim
  | reloading => exact ⟨fun _ => rfl, _, rfl, trivial⟩
  | returned result => exact ⟨fun _ => rfl, _, rfl, trivial⟩

theorem Task.Quiet.current (h : task.Quiet) : TaskCurrent s task := by
  cases task with
  | upserting existing body => exact h.elim
  | listing id body => trivial
  | deleting id => trivial
  | reloading => trivial
  | returned result => trivial

theorem handle_alone (serde : Serde) (s : AdminState) (c : Call) :
    Pool.Alone (execute serde) (s, some c.task) ((c.handle serde s).2, some (.returned (c.handle serde s).1)) := by
  cases c with
  | update id body =>
    simp only [Call.handle, updateModelMapping, Call.task]
    cases hfind : (listAllMappings s.storage).find? fun m => m.id = id with
    | none =>
      refine Pool.alone_execute ?_ (Pool.alone_refl _)
      simp only [execute, hfind]
    | some existing =>
      have hlist : execute serde s (.listing id body) = (s, some (.upserting existing body)) := by
        simp only [execute, hfind]
      apply Pool.alone_execute hlist
      cases hupsert : upsertMapping s.storage (body.apply existing) with
      | error e =>
        refine Pool.alone_execute ?_ (Pool.alone_refl _)
        simp only [execute, hupsert, AdminState.writeThenReload]
      | ok db =>
        have hwrite : execute serde s (.upserting existing body) = ({ s with storage := db }, some .reloading) := by
          simp only [execute, hupsert]
        refine Pool.alone_execute hwrite (Pool.alone_execute rfl ?_)
        simp only [hupsert, AdminState.writeThenReload]
        exact Pool.alone_refl _
  | delete id =>
    simp only [Call.handle, deleteModelMapping, Call.task]
    cases hdelete : deleteMapping s.storage id with
    | error e =>
      refine Pool.alone_execute ?_ (Pool.alone_refl _)
      simp only [execute, hdelete, AdminState.writeThenReload]
    | ok db =>
      have hwrite : execute serde s (.deleting id) = ({ s with storage := db }, some .reloading) := by
        simp only [execute, hdelete]
      exact Pool.alone_execute hwrite (Pool.alone_execute rfl (Pool.alone_refl _))

theorem working_execute {c : Call} {seen : ModelMapping → Prop} (h : task.Working c seen)
    (hseen : ∀ m, row s c.id = some m → seen m) :
    (∃ task', execute serde s task = (s, some task') ∧ task'.Working c seen ∧ TaskCurrent s task) ∨
    (∃ e, execute serde s task = (s, some (.returned (.error e)))) ∨
    ∃ s' m, execute serde s task = (s', some .reloading) ∧ seen m ∧ row s' c.id = c.result m ∧
      (TaskCurrent s task ↔ row s c.id = some m) ∧ (c.result m = none → row s c.id = some m) := by
  cases task with
  | listing id body =>
    cases h
    cases hrow : row s id with
    | none =>
      refine .inr (.inl ⟨.notFound ("mapping " ++ id), ?_⟩)
      simp only [execute, find?_listAllMappings, hrow]
    | some existing =>
      refine .inl ⟨.upserting existing body, ?_, ⟨?_, hseen existing hrow⟩, trivial⟩
      · simp only [execute, find?_listAllMappings, hrow]
      · rw [row_id hrow]
  | upserting existing body =>
    obtain ⟨rfl, hexisting⟩ := h
    cases hupsert : upsertMapping s.storage (body.apply existing) with
    | error e =>
      refine .inr (.inl ⟨.fromStorage e, ?_⟩)
      simp only [execute, hupsert]
    | ok db =>
      refine .inr (.inr ⟨{ s with storage := db }, existing, ?_, hexisting, upsertMapping_row hupsert, Iff.rfl, nofun⟩)
      simp only [execute, hupsert]
  | deleting id =>
    cases h
    cases hdelete : deleteMapping s.storage id with
    | error e =>
      refine .inr (.inl ⟨.missing ("mapping " ++ id) e, ?_⟩)
      simp only [execute, hdelete]
    | ok db =>
      obtain ⟨⟨m, hm⟩, hgone⟩ := deleteMapping_row hdelete
      refine .inr (.inr ⟨{ s with storage := db }, m, ?_, hseen m hm, hgone, ⟨fun _ => hm, fun _ => trivial⟩,
        fun _ => hm⟩)
      simp only [execute, hdelete]
  | reloading => exact h.elim
  | returned result => exact h.elim

end

section

variable {serde : Serde} {s t : State} {schedule : List ℕ}

def advance (serde : Serde) (s : State) (k : ℕ) (task : Task) : State :=
  ⟨(execute serde s.store task).1, Function.update s.active k (execute serde s.store task).2⟩

theorem run_calls_cons {k : ℕ} (h : run (step serde) s (calls (k :: schedule)) = some t) :
    ∃ task, s.active k = some task ∧ run (step serde) (advance serde s k task) (calls schedule) = some t ∧
      (Meets (step serde) Current s (calls (k :: schedule)) ↔
        TaskCurrent s.store task ∧ Meets (step serde) Current (advance serde s k task) (calls schedule)) := by
  obtain ⟨u, hu, ht⟩ := run_cons.mp h
  obtain ⟨i, call, he, -⟩ | ⟨i, task, he, htask, rfl⟩ := Pool.step_cases hu
  · cases he
  · cases he
    refine ⟨task, htask, ht, (meets_cons hu).trans (and_congr_left' ?_)⟩
    simp [Current, htask]

theorem advance_self {k : ℕ} {task : Task} : (advance serde s k task).active k = (execute serde s.store task).2 :=
  Function.update_self ..

theorem advance_other {k l : ℕ} {task : Task} (h : l ≠ k) : (advance serde s k task).active l = s.active l :=
  Function.update_of_ne h ..

theorem advance_forall {k : ℕ} {task : Task} {P : ℕ → Task → Prop}
    (hself : ∀ next, (execute serde s.store task).2 = some next → P k next)
    (hothers : ∀ l other, l ≠ k → s.active l = some other → P l other) (l : ℕ) (other : Task)
    (h : (advance serde s k task).active l = some other) : P l other := by
  obtain ⟨rfl, hnext⟩ | ⟨hl, hother⟩ := Pool.update_eq_some h
  · exact hself other hnext
  · exact hothers l other hl hother

theorem run_returned {k : ℕ} {result : Except AppError Unit} (h : s.active k = some (.returned result))
    (hrun : run (step serde) s (calls schedule) = some t) : t.active k = some (.returned result) := by
  induction schedule generalizing s with
  | nil =>
    cases hrun
    exact h
  | cons l schedule ih =>
    obtain ⟨task, htask, hrun, -⟩ := run_calls_cons hrun
    refine ih ?_ hrun
    by_cases hl : k = l
    · subst hl
      cases h.symm.trans htask
      exact advance_self
    · rw [advance_other hl]
      exact h

theorem run_quiet (h : ∀ k task, s.active k = some task → task.Quiet)
    (hrun : run (step serde) s (calls schedule) = some t) :
    (∀ id, row t.store id = row s.store id) ∧ Meets (step serde) Current s (calls schedule) := by
  induction schedule generalizing s with
  | nil =>
    cases hrun
    exact ⟨fun _ => rfl, trivial⟩
  | cons k schedule ih =>
    obtain ⟨task, htask, hrun, hmeets⟩ := run_calls_cons hrun
    obtain ⟨hrow, task', htask', hquiet⟩ := @Task.Quiet.execute serde s.store task (h k task htask)
    have hstill : ∀ l other, (advance serde s k task).active l = some other → other.Quiet := by
      refine advance_forall (fun next hnext => ?_) fun l other _ => h l other
      cases htask'.symm.trans hnext
      exact hquiet
    obtain ⟨hrest, hcurrent⟩ := ih hstill hrun
    exact ⟨fun id => (hrest id).trans (hrow id), hmeets.mpr ⟨(h k task htask).current, hcurrent⟩⟩

theorem run_last_write {j : ℕ} {d : Call} {seen : ModelMapping → Prop} {task : Task}
    (htask : s.active j = some task) (hworking : task.Working d seen)
    (hquiet : ∀ k other, s.active k = some other → k ≠ j → other.Quiet)
    (hseen : ∀ m, row s.store d.id = some m → seen m)
    (hrun : run (step serde) s (calls schedule) = some t) (hdone : t.active j = some (.returned (.ok ()))) :
    ∃ m, seen m ∧ row t.store d.id = d.result m ∧
      (Meets (step serde) Current s (calls schedule) ↔ row s.store d.id = some m) ∧
      (d.result m = none → row s.store d.id = some m) := by
  induction schedule generalizing s task with
  | nil =>
    cases hrun
    cases htask.symm.trans hdone
    exact hworking.elim
  | cons k schedule ih =>
    obtain ⟨task', htask', hrun, hmeets⟩ := run_calls_cons hrun
    by_cases hk : k = j
    · subst hk
      cases htask.symm.trans htask'
      obtain ⟨next, hnext, hworks, hcurrent⟩ | ⟨e, he⟩ | ⟨s', m, hwrite, hm, hrow, hiff, hgone⟩ :=
        @working_execute serde s.store task d seen hworking hseen
      · have hrow : (advance serde s k task).store = s.store := congrArg Prod.fst hnext
        obtain ⟨m, hm, hresult, hiff, hgone⟩ := ih (advance_self.trans (congrArg Prod.snd hnext)) hworks
          (fun l other hother hl => hquiet l other ((advance_other hl).symm.trans hother) hl)
          (fun m hm => hseen m (hrow ▸ hm)) hrun
        rw [hrow] at hiff hgone
        exact ⟨m, hm, hresult, hmeets.trans (by rw [hiff, and_iff_right hcurrent]), hgone⟩
      · have hfailed := run_returned (advance_self.trans (congrArg Prod.snd he)) hrun
        cases hfailed.symm.trans hdone
      · have hstill : ∀ l other, (advance serde s k task).active l = some other → other.Quiet := by
          refine advance_forall (fun next hnext => ?_) fun l other hl hother => hquiet l other hother hl
          cases (congrArg Prod.snd hwrite).symm.trans hnext
          trivial
        obtain ⟨hrest, hcurrent⟩ := run_quiet hstill hrun
        refine ⟨m, hm, (hrest _).trans ?_, hmeets.trans ?_, hgone⟩
        · rw [← hrow]
          exact congrArg (fun p => row p.1 d.id) hwrite
        · rw [and_iff_left hcurrent, hiff]
    · obtain ⟨hrow, next, hnext, hstill⟩ := @Task.Quiet.execute serde s.store task' (hquiet k task' htask' hk)
      have hstore : row (advance serde s k task').store d.id = row s.store d.id := hrow d.id
      have hothers : ∀ l other, (advance serde s k task').active l = some other → l ≠ j → other.Quiet := by
        refine advance_forall (fun next' hnext' _ => ?_) fun l other _ => hquiet l other
        cases hnext.symm.trans hnext'
        exact hstill
      obtain ⟨m, hm, hresult, hiff, hgone⟩ := ih ((advance_other (Ne.symm hk)).trans htask) hworking hothers
        (fun m hm => hseen m (hstore.symm.trans hm)) hrun
      rw [hstore] at hiff hgone
      exact ⟨m, hm, hresult, hmeets.trans (by rw [hiff, and_iff_right (hquiet k task' htask' hk).current]), hgone⟩

variable {i j : ℕ} {c d : Call} {ti tj : Task}

theorem run_after_write {s' : AdminState} {m : ModelMapping} (hid : d.id = c.id)
    (hwrite : execute serde s.store ti = (s', some .reloading)) (hrow : row s' c.id = c.result m)
    (hij : j ≠ i) (hj : s.active j = some tj) (hworking : tj.Working d fun n => some m = some n)
    (hidle : ∀ k, k ≠ i → k ≠ j → s.active k = none)
    (hrun : run (step serde) (advance serde s i ti) (calls schedule) = some t)
    (hdone : t.active j = some (.returned (.ok ()))) :
    ∃ n, Follows c d m n (row t.store c.id) (Meets (step serde) Current (advance serde s i ti) (calls schedule)) := by
  have hstore : row (advance serde s i ti).store d.id = c.result m := by
    rw [hid, ← hrow]
    exact congrArg (fun p => row p.1 c.id) hwrite
  have hquiet : ∀ k other, (advance serde s i ti).active k = some other → k ≠ j → other.Quiet := by
    refine advance_forall (fun next hnext _ => ?_) fun k other hk hother hkj => ?_
    · cases (congrArg Prod.snd hwrite).symm.trans hnext
      trivial
    · cases (hidle k hk hkj).symm.trans hother
  have hseen : tj.Working d fun n => n = m ∨ c.result m = some n :=
    hworking.mono fun n hn => .inl (Option.some.inj hn).symm
  obtain ⟨n, hread, hresult, hiff, hgone⟩ := run_last_write ((advance_other hij).trans hj) hseen
    hquiet (fun n hn => .inr (hstore.symm.trans hn)) hrun hdone
  rw [hstore] at hiff hgone
  rw [hid] at hresult
  exact ⟨n, hread, hresult, hiff, hgone⟩

theorem run_two_writes {x : Option ModelMapping} (hid : d.id = c.id) (hrow : row s.store c.id = x) (hij : i ≠ j)
    (hi : s.active i = some ti) (hj : s.active j = some tj) (hc : ti.Working c fun m => x = some m)
    (hd : tj.Working d fun m => x = some m) (hidle : ∀ k, k ≠ i → k ≠ j → s.active k = none)
    (hrun : run (step serde) s (calls schedule) = some t)
    (hdonei : t.active i = some (.returned (.ok ()))) (hdonej : t.active j = some (.returned (.ok ()))) :
    ∃ m n, Follows c d m n (row t.store c.id) (Meets (step serde) Current s (calls schedule)) ∨
      Follows d c m n (row t.store c.id) (Meets (step serde) Current s (calls schedule)) := by
  induction schedule generalizing s i j c d ti tj with
  | nil =>
    cases hrun
    cases hi.symm.trans hdonei
    exact hc.elim
  | cons k schedule ih =>
    obtain ⟨task, htask, hrest, hmeets⟩ := run_calls_cons hrun
    wlog hki : k = i generalizing i j c d ti tj
    · have hkj : k = j := by
        by_contra hkj
        cases (hidle k hki hkj).symm.trans htask
      obtain ⟨m, n, h⟩ := this hid.symm (by rw [hid, hrow]) hij.symm hj hi hd hc
        (fun l hl hli => hidle l hli hl) hdonej hdonei hkj
      rw [hid] at h
      exact ⟨m, n, h.symm⟩
    subst hki
    cases hi.symm.trans htask
    obtain ⟨next, hnext, hworks, hcurrent⟩ | ⟨e, he⟩ | ⟨s', m, hwrite, rfl, hresult, hiff, -⟩ :=
      @working_execute serde s.store task c _ hc fun m hm => hrow.symm.trans hm
    · have hstore : (advance serde s k task).store = s.store := congrArg Prod.fst hnext
      rw [hmeets, and_iff_right hcurrent]
      exact ih hid (by rw [hstore, hrow]) hij (advance_self.trans (congrArg Prod.snd hnext))
        ((advance_other hij.symm).trans hj) hworks hd
        (fun l hl hlj => (advance_other hl).trans (hidle l hl hlj)) hrest hdonei hdonej
    · have hfailed := run_returned (advance_self.trans (congrArg Prod.snd he)) hrest
      cases hfailed.symm.trans hdonei
    · obtain ⟨n, hfollows⟩ := run_after_write hid hwrite hresult hij.symm hj hd hidle hrest hdonej
      rw [hmeets, and_iff_right (hiff.mpr hrow)]
      exact ⟨m, n, .inl hfollows⟩

end

section

variable {id : String} {a b : UpdateMappingBody} {m n : ModelMapping} {final : Option ModelMapping} {current : Prop}

theorem Follows.updates (hdisjoint : a.DisjointFrom b)
    (h : Follows (.update id a) (.update id b) m n final current) :
    (∃ m', final = some m' ∧ a.Carried m' ∧ b.Carried m') ↔ current := by
  have hcarried : (∃ m', final = some m' ∧ a.Carried m' ∧ b.Carried m') ↔ a.Carried n := by
    rw [h.stored]
    simp only [Call.result, Option.some.injEq, exists_eq_left', hdisjoint.carried_apply_iff, b.carried_apply, and_true]
  rw [hcarried, h.current_iff, Call.result, Option.some.injEq]
  rcases h.read with rfl | hn
  · rfl
  · cases hn
    exact ⟨fun _ => rfl, fun _ => a.carried_apply m⟩

theorem Follows.deletion (h : Follows (.update id a) (.delete id) m n final current) : final = none ↔ current :=
  ⟨fun _ => h.current_iff.mpr (h.deleted rfl), fun _ => h.stored⟩

theorem Follows.resurrection (h : Follows (.delete id) (.update id a) m n final current) : final = none ↔ current := by
  rw [h.stored, h.current_iff]
  simp only [Call.result, reduceCtorEq]

end

theorem both_outcome {serde : Serde} {s : AdminState} {c d : Call} {schedule : List ℕ} {t : State}
    (hrun : run (step serde) (both s c d) (calls schedule) = some t) (hid : d.id = c.id) (hdone : BothSucceeded t) :
    ∃ m n, Follows c d m n (row t.store c.id) (Meets (step serde) Current (both s c d) (calls schedule)) ∨
      Follows d c m n (row t.store c.id) (Meets (step serde) Current (both s c d) (calls schedule)) := by
  have hworking : ∀ (e : Call) (seen : ModelMapping → Prop), e.task.Working e seen := by
    intro e seen
    cases e with
    | update id body => rfl
    | delete id => rfl
  refine run_two_writes hid rfl zero_ne_one rfl rfl (hworking c _) (hworking d _) (fun k h0 h1 => ?_) hrun
    hdone.1 hdone.2
  simp only [both, h0, h1, ↓reduceIte]

namespace Sample

def database : Database := Router.Sample.database "deepseek" "deepseek" "sk"

def state : AdminState := ⟨database, Router.fromStorage Router.Sample.serde database⟩

def setWeight : UpdateMappingBody := { weight := some 50 }

def disable : UpdateMappingBody := { enabled := some false }

end Sample

theorem mapping_updates_kept_iff (serde : Serde) (s : AdminState) (id : String) (schedule : List ℕ) (t : State) :
    (∀ a b : UpdateMappingBody, a.DisjointFrom b →
      run (step serde) (both s (.update id a) (.update id b)) (calls schedule) = some t → BothSucceeded t →
      ((∃ m, row t.store id = some m ∧ a.Carried m ∧ b.Carried m) ↔
        Meets (step serde) Current (both s (.update id a) (.update id b)) (calls schedule))) ∧
    ∀ a : UpdateMappingBody,
      run (step serde) (both s (.update id a) (.delete id)) (calls schedule) = some t → BothSucceeded t →
      (row t.store id = none ↔
        Meets (step serde) Current (both s (.update id a) (.delete id)) (calls schedule)) := by
  constructor
  · intro a b hdisjoint hrun hdone
    obtain ⟨m, n, h | h⟩ := both_outcome hrun rfl hdone
    · exact h.updates hdisjoint
    · refine Iff.trans ?_ (h.updates hdisjoint.symm)
      simp only [Call.id, and_comm]
  · intro a hrun hdone
    obtain ⟨m, n, h | h⟩ := both_outcome hrun rfl hdone
    · exact h.deletion
    · exact h.resurrection

theorem sequential_updates_kept :
    Sample.setWeight.DisjointFrom Sample.disable ∧
    (∃ t, run (step Router.Sample.serde) (both Sample.state (.update "m1" Sample.setWeight)
        (.update "m1" Sample.disable)) (calls [0, 0, 0, 1, 1, 1]) = some t ∧ BothSucceeded t ∧
      ((∃ m, row t.store "m1" = some m ∧ Sample.setWeight.Carried m ∧ Sample.disable.Carried m) ↔
        Meets (step Router.Sample.serde) Current (both Sample.state (.update "m1" Sample.setWeight)
          (.update "m1" Sample.disable)) (calls [0, 0, 0, 1, 1, 1]))) ∧
    ∃ t, run (step Router.Sample.serde) (both Sample.state (.update "m1" Sample.setWeight) (.delete "m1"))
        (calls [0, 0, 1, 0, 1]) = some t ∧ BothSucceeded t ∧
      (row t.store "m1" = none ↔ Meets (step Router.Sample.serde) Current
        (both Sample.state (.update "m1" Sample.setWeight) (.delete "m1")) (calls [0, 0, 1, 0, 1])) := by
  have hdisjoint : Sample.setWeight.DisjointFrom Sample.disable :=
    ⟨.inl rfl, .inl rfl, .inl rfl, .inl rfl, .inr rfl, .inl rfl, .inl rfl⟩
  refine ⟨hdisjoint, ⟨_, rfl, ⟨rfl, rfl⟩, ?_⟩, _, rfl, ⟨rfl, rfl⟩, ?_⟩
  · exact (mapping_updates_kept_iff _ _ "m1" _ _).1 _ _ hdisjoint rfl ⟨rfl, rfl⟩
  · exact (mapping_updates_kept_iff _ _ "m1" _ _).2 _ rfl ⟨rfl, rfl⟩

theorem stale_upsert_undoes_request :
    (¬ ∀ t, run (step Router.Sample.serde) (both Sample.state (.update "m1" Sample.setWeight)
        (.update "m1" Sample.disable)) (calls [0, 1, 0, 1, 0, 1]) = some t → BothSucceeded t →
      ∃ m, row t.store "m1" = some m ∧ Sample.setWeight.Carried m ∧ Sample.disable.Carried m) ∧
    ¬ ∀ t, run (step Router.Sample.serde) (both Sample.state (.update "m1" Sample.setWeight) (.delete "m1"))
        (calls [0, 1, 0, 0, 1]) = some t → BothSucceeded t → row t.store "m1" = none := by
  constructor
  · intro h
    obtain ⟨m, hm, hweight, -⟩ := h _ rfl ⟨rfl, rfl⟩
    cases hm
    exact absurd (congrArg ModelMapping.weight hweight) (by decide)
  · intro h
    exact absurd (h _ rfl ⟨rfl, rfl⟩) (by decide +kernel)

end Mappings

end AgentProxy.Admin
