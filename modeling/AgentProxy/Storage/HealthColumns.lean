import AgentProxy.Lib.Pool
import AgentProxy.Storage.SeedOps

namespace AgentProxy.Storage.HealthColumns

open Transition Pool

inductive Call where
  | recordChannelFailure (now : ℤ) (cooldown : String)
  | markChannelHealthy (now : ℤ)

inductive Task where
  | increment (now : ℤ) (cooldown : String)
  | readBack (cooldown : String)
  | write (failures : ℕ) (cooldown : String)
  | mark (now : ℤ)

namespace Task

def counted : Task → Bool
  | increment _ _ => false
  | readBack _ => true
  | write _ _ => true
  | mark _ => false

end Task

def initial : Call → Task
  | .recordChannelFailure now cooldown => .increment now cooldown
  | .markChannelHealthy now => .mark now

def raised (now : ℤ) (row : Channel) : Channel :=
  { row with consecutiveFailures := row.consecutiveFailures + 1, updatedAt := now }

def withStatus (failures : ℕ) (cooldown : String) (row : Channel) : Channel :=
  { row with
    healthStatus := failureStatus failures
    cooldownUntil := if 3 ≤ failures then some cooldown else none }

def healthy (now : ℤ) (row : Channel) : Channel :=
  { row with healthStatus := "Healthy", cooldownUntil := none, consecutiveFailures := 0, updatedAt := now }

section

variable (id : String)

/-- One SQL statement of a call. A counter that does not fit an `i32` ends the call at the read. -/
def execute (db : Database) : Task → Database × Option Task
  | .increment now cooldown => (db.modifyChannel id (raised now) fun _ => rfl, some (.readBack cooldown))
  | .readBack cooldown =>
    match db.channels.find? id with
    | none => (db, none)
    | some row => if 2 ^ 31 ≤ row.consecutiveFailures then (db, none)
        else (db, some (.write row.consecutiveFailures cooldown))
  | .write failures cooldown => (db.modifyChannel id (withStatus failures cooldown) fun _ => rfl, none)
  | .mark now => (db.modifyChannel id (healthy now) fun _ => rfl, none)

structure Consistent (row : Channel) : Prop where
  healthy : row.consecutiveFailures = 0 ↔ row.healthStatus = "Healthy"
  degraded : row.consecutiveFailures = 1 ∨ row.consecutiveFailures = 2 ↔ row.healthStatus = "Degraded"
  cooldown : 3 ≤ row.consecutiveFailures ↔ row.healthStatus = "Cooldown"
  cooldownUntil : row.cooldownUntil ≠ none ↔ row.healthStatus = "Cooldown"

def AnotherCounted (s : State Database Task) (i : ℕ) : Prop :=
  ∃ j task, j ≠ i ∧ s.active j = some task ∧ task.counted = true

/-- A status is written for a count that the row no longer has the status of, or a read fails while the row
is not in cooldown, only while another call that has raised the counter still has its own write to come. -/
def EventOk (s : State Database Task) : Event Call → Prop
  | .start _ _ => True
  | .statement i => ∀ row, s.store.channels.find? id = some row →
      (∀ failures cooldown, s.active i = some (.write failures cooldown) →
        failureStatus failures = failureStatus row.consecutiveFailures ∨ AnotherCounted s i) ∧
      (∀ cooldown, s.active i = some (.readBack cooldown) → 2 ^ 31 ≤ row.consecutiveFailures →
        (row.healthStatus = "Cooldown" ∧ row.cooldownUntil ≠ none) ∨ AnotherCounted s i)

def StartsHealthy (db : Database) : Prop :=
  ∃ row, db.channels.find? id = some row ∧ row.healthStatus = "Healthy" ∧ row.cooldownUntil = none ∧
    row.consecutiveFailures = 0

def ColumnsConsistent (ok : State Database Task → Event Call → Prop) : Prop :=
  ∀ (db : Database) (events : List (Event Call)) (s : State Database Task), StartsHealthy id db →
    Meets (step initial (execute id)) ok (.idle db) events →
    run (step initial (execute id)) (.idle db) events = some s → (∀ i, s.active i = none) →
    ∃ row, s.store.channels.find? id = some row ∧ Consistent row

def Inv (s : State Database Task) : Prop :=
  ∃ row, s.store.channels.find? id = some row ∧
    (Consistent row ∨ ∃ i task, s.active i = some task ∧ task.counted = true)

end

theorem failureStatus_healthy {n : ℕ} : n = 0 ↔ failureStatus n = "Healthy" := by
  unfold failureStatus
  split_ifs with h3 h1
  · exact iff_of_false (by omega) (by decide)
  · exact iff_of_false (by omega) (by decide)
  · exact iff_of_true (by omega) rfl

theorem failureStatus_degraded {n : ℕ} : n = 1 ∨ n = 2 ↔ failureStatus n = "Degraded" := by
  unfold failureStatus
  split_ifs with h3 h1
  · exact iff_of_false (by omega) (by decide)
  · exact iff_of_true (by omega) rfl
  · exact iff_of_false (by omega) (by decide)

theorem failureStatus_cooldown {n : ℕ} : 3 ≤ n ↔ failureStatus n = "Cooldown" := by
  unfold failureStatus
  split_ifs with h3 h1
  · exact iff_of_true h3 rfl
  · exact iff_of_false h3 (by decide)
  · exact iff_of_false h3 (by decide)

theorem consistent_of_status {row : Channel} (hs : row.healthStatus = failureStatus row.consecutiveFailures)
    (hu : row.cooldownUntil ≠ none ↔ 3 ≤ row.consecutiveFailures) : Consistent row where
  healthy := hs ▸ failureStatus_healthy
  degraded := hs ▸ failureStatus_degraded
  cooldown := hs ▸ failureStatus_cooldown
  cooldownUntil := hu.trans (hs ▸ failureStatus_cooldown)

theorem consistent_withStatus {row : Channel} {failures : ℕ} {cooldown : String}
    (h : failureStatus failures = failureStatus row.consecutiveFailures) :
    Consistent (withStatus failures cooldown row) := by
  apply consistent_of_status h
  have hthree : 3 ≤ failures ↔ 3 ≤ row.consecutiveFailures := by
    rw [failureStatus_cooldown, h, ← failureStatus_cooldown]
  change (if 3 ≤ failures then some cooldown else none) ≠ none ↔ 3 ≤ row.consecutiveFailures
  rw [← hthree]
  split_ifs with h3
  · simp [h3]
  · simp [h3]

theorem consistent_healthy (now : ℤ) (row : Channel) : Consistent (healthy now row) :=
  consistent_of_status rfl (by simp [healthy])

section

variable {id : String} {s t : State Database Task} {e : Event Call} {db : Database} {row : Channel}

theorem find?_modifyChannel {f : Channel → Channel} {hf : ∀ row, (f row).id = row.id}
    (h : db.channels.find? id = some row) : (db.modifyChannel id f hf).channels.find? id = some (f row) := by
  simp only [Database.modifyChannel, Table.find?_modify, h, Option.map_some, if_true]

theorem idle_inv (h : StartsHealthy id db) : Inv id (.idle db) := by
  obtain ⟨row, hrow, hstatus, huntil, hcount⟩ := h
  refine ⟨row, hrow, .inl (consistent_of_status ?_ ?_)⟩
  · rw [hstatus, hcount]
    rfl
  · simp [huntil, hcount]

theorem another_stays {i : ℕ} {next : Option Task} (h : AnotherCounted s i) :
    ∃ j task, Function.update s.active i next j = some task ∧ task.counted = true := by
  obtain ⟨j, task, hj, htask, hcounted⟩ := h
  exact ⟨j, task, (Function.update_of_ne hj _ _).trans htask, hcounted⟩

theorem step_inv (hs : Inv id s) (hok : EventOk id s e) (h : step initial (execute id) s e = some t) : Inv id t := by
  obtain ⟨row, hrow, hstate⟩ := hs
  obtain ⟨i, call, rfl, hnone, rfl⟩ | ⟨i, task, rfl, htask, rfl⟩ := step_cases h
  · refine ⟨row, hrow, hstate.imp_right ?_⟩
    rintro ⟨j, task, hj, hcounted⟩
    have hne : j ≠ i := by
      rintro rfl
      rw [hnone] at hj
      cases hj
    exact ⟨j, task, (Function.update_of_ne hne _ _).trans hj, hcounted⟩
  · obtain ⟨hwrite, hread⟩ := hok row hrow
    cases task with
    | increment now cooldown =>
      exact ⟨raised now row, find?_modifyChannel hrow, .inr ⟨i, .readBack cooldown, Function.update_self .., rfl⟩⟩
    | readBack cooldown =>
      have hfull := hread cooldown htask
      simp only [execute, hrow]
      split_ifs with hbig
      · refine ⟨row, hrow, ?_⟩
        obtain ⟨hstatus, huntil⟩ | hother := hfull hbig
        · refine .inl (consistent_of_status ?_ ?_)
          · rw [hstatus, failureStatus, if_pos (by omega)]
          · simp only [huntil, ne_eq, not_false_eq_true, true_iff]
            omega
        · exact .inr (another_stays hother)
      · exact ⟨row, hrow, .inr ⟨i, .write row.consecutiveFailures cooldown, Function.update_self .., rfl⟩⟩
    | write failures cooldown =>
      refine ⟨withStatus failures cooldown row, find?_modifyChannel hrow, ?_⟩
      obtain hsame | hother := hwrite failures cooldown htask
      · exact .inl (consistent_withStatus hsame)
      · exact .inr (another_stays hother)
    | mark now => exact ⟨healthy now row, find?_modifyChannel hrow, .inl (consistent_healthy now row)⟩

theorem modifyChannel_raised (h : db.channels.find? id = some row) (now : ℤ) :
    db.modifyChannel id (raised now) (fun _ => rfl) =
      db.modifyChannel id (fun r => { r with
        consecutiveFailures := row.consecutiveFailures + 1, updatedAt := now }) fun _ => rfl := by
  refine congrArg (fun channels => { db with channels }) (Table.modify_congr _ fun r hr => ?_)
  rw [h] at hr
  cases hr
  rfl

theorem recordChannelFailure_alone (db : Database) (id : String) (now : ℤ) (cooldown : String) :
    Alone (execute id) (db, some (initial (.recordChannelFailure now cooldown)))
      ((recordChannelFailure db id now cooldown).1, none) := by
  unfold recordChannelFailure
  cases hrow : db.channels.find? id with
  | none =>
    have hsame : db.modifyChannel id (raised now) (fun _ => rfl) = db :=
      congrArg (fun channels => { db with channels }) (Table.modify_of_none _ hrow)
    have hfirst : execute id db (initial (.recordChannelFailure now cooldown)) = (db, some (.readBack cooldown)) :=
      congrArg (fun db => (db, some (Task.readBack cooldown))) hsame
    have hread : execute id db (.readBack cooldown) = (db, none) := by simp only [execute, hrow]
    exact alone_execute hfirst (alone_execute hread (alone_refl _))
  | some row =>
    have hfirst : execute id db (initial (.recordChannelFailure now cooldown)) =
        (db.modifyChannel id (raised now) fun _ => rfl, some (.readBack cooldown)) := rfl
    have hfind := @find?_modifyChannel id db row (raised now) (fun _ => rfl) hrow
    apply alone_execute hfirst
    dsimp only
    rw [← modifyChannel_raised hrow now]
    by_cases hbig : 2 ^ 31 ≤ row.consecutiveFailures + 1
    · rw [if_pos hbig]
      refine alone_execute ?_ (alone_refl _)
      simp only [execute, hfind, raised, if_pos hbig]
    · rw [if_neg hbig]
      have hread : execute id (db.modifyChannel id (raised now) fun _ => rfl) (.readBack cooldown) =
          (db.modifyChannel id (raised now) fun _ => rfl,
            some (.write (row.consecutiveFailures + 1) cooldown)) := by
        simp only [execute, hfind, raised, if_neg hbig]
      exact alone_execute hread (alone_execute rfl (alone_refl _))

theorem markChannelHealthy_alone {db' : Database} {now : ℤ} (h : markChannelHealthy db id now = .ok db') :
    Alone (execute id) (db, some (initial (.markChannelHealthy now))) (db', none) := by
  unfold markChannelHealthy at h
  split at h
  · cases h
  · cases h
    exact alone_execute rfl (alone_refl _)

end

theorem columns_consistent (id : String) : ColumnsConsistent id (EventOk id) := by
  intro db events s hdb hok hs hidle
  obtain ⟨row, hrow, hstate⟩ := run_invariant (Inv id) (fun _ _ _ => step_inv) (idle_inv hdb) hok hs
  obtain hrow' | ⟨i, task, hi, -⟩ := hstate
  · exact ⟨row, hrow, hrow'⟩
  · rw [hidle i] at hi
    cases hi

namespace Sample

def database : Database := { Database.empty with channels := .single (SeedOps.Sample.channel "sk") }

def failure : Call := .recordChannelFailure 0 "1970-01-01T00:05:00+00:00"

def twoFailures : List (Event Call) :=
  [.start 0 failure, .start 1 failure, .statement 0, .statement 1, .statement 0, .statement 1, .statement 1,
    .statement 0]

def overtaken : List (Event Call) :=
  [.start 0 failure, .start 1 (.markChannelHealthy 0), .statement 0, .statement 0, .statement 1, .statement 0]

end Sample

theorem columns_consistent_two_failures :
    ∃ s row, run (step initial (execute "deepseek")) (.idle Sample.database) Sample.twoFailures = some s ∧
      s.store.channels.find? "deepseek" = some row ∧ row.consecutiveFailures = 2 ∧ Consistent row := by
  have hok : Meets (step initial (execute "deepseek")) (EventOk "deepseek") (.idle Sample.database)
      Sample.twoFailures := by
    refine ⟨trivial, fun t ht => ?_⟩
    cases ht
    refine ⟨trivial, fun t ht => ?_⟩
    cases ht
    refine ⟨fun row _ => ⟨fun _ _ h => (nomatch h), fun _ h => (nomatch h)⟩, fun t ht => ?_⟩
    cases ht
    refine ⟨fun row _ => ⟨fun _ _ h => (nomatch h), fun _ h => (nomatch h)⟩, fun t ht => ?_⟩
    cases ht
    -- both failures have been counted when the first call reads the count back
    refine ⟨fun row hrow => ⟨fun _ _ h => (nomatch h), fun _ _ hbig => ?_⟩, fun t ht => ?_⟩
    · cases hrow
      exact absurd hbig (by decide +kernel)
    cases ht
    refine ⟨fun row hrow => ⟨fun _ _ h => (nomatch h), fun _ _ hbig => ?_⟩, fun t ht => ?_⟩
    · cases hrow
      exact absurd hbig (by decide +kernel)
    cases ht
    refine ⟨fun row hrow => ⟨fun failures cooldown h => .inl ?_, fun _ h => (nomatch h)⟩, fun t ht => ?_⟩
    · cases hrow
      cases h
      rfl
    cases ht
    refine ⟨fun row hrow => ⟨fun failures cooldown h => .inl ?_, fun _ h => (nomatch h)⟩, fun _ _ => trivial⟩
    cases hrow
    cases h
    rfl
  have hidle : ∀ s, run (step initial (execute "deepseek")) (.idle Sample.database) Sample.twoFailures = some s →
      ∀ i, s.active i = none := by
    intro s hs
    refine idle_of_run hs ?_
    cases hs
    decide +kernel
  have hstart : StartsHealthy "deepseek" Sample.database := ⟨SeedOps.Sample.channel "sk", rfl, rfl, rfl, rfl⟩
  obtain ⟨row, hrow, hconsistent⟩ := columns_consistent "deepseek" Sample.database Sample.twoFailures _ hstart hok rfl
    (hidle _ rfl)
  refine ⟨_, row, rfl, hrow, ?_, hconsistent⟩
  cases hrow
  rfl

theorem status_of_reset_count : ¬ ColumnsConsistent "deepseek" fun _ _ => True := by
  intro h
  have hstart : StartsHealthy "deepseek" Sample.database := ⟨SeedOps.Sample.channel "sk", rfl, rfl, rfl, rfl⟩
  have hidle : ∀ s, run (step initial (execute "deepseek")) (.idle Sample.database) Sample.overtaken = some s →
      ∀ i, s.active i = none := by
    intro s hs
    refine idle_of_run hs ?_
    cases hs
    decide +kernel
  obtain ⟨row, hrow, hconsistent⟩ := h Sample.database Sample.overtaken _ hstart
    (meets_of_forall (fun _ _ _ => trivial) _) rfl (hidle _ rfl)
  cases hrow
  exact absurd (hconsistent.healthy.mp rfl) (by decide +kernel)

end AgentProxy.Storage.HealthColumns
