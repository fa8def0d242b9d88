import AgentProxy.Admin.Handlers
import AgentProxy.Lib.Run

namespace AgentProxy.Admin.HealthSync

open Storage Router Transition

inductive Op where
  | markChannelHealthy (m : Moment) (id : String)
  | recordChannelFailure (m : Moment) (id : String)
  | probe (m : Moment) (id : String)
  | setChannelApiKey (m : Moment) (id key : String) (hkey : key ≠ "")

def handle (s : AdminState) : Op → Except AppError Unit × AdminState
  | .markChannelHealthy m id => Admin.markChannelHealthy s m id
  | .recordChannelFailure m id => Admin.recordChannelFailure s m id
  | .probe m id => probeChannelHandler s m id
  | .setChannelApiKey m id key _ => Admin.setChannelApiKey s m id key

def step (s : AdminState) (op : Op) : Option AdminState :=
  match handle s op with
  | (.ok (), t) => some t
  | (.error _, _) => none

def healthStatus (s : AdminState) (id : String) : Option String := (s.storage.channels.find? id).map (·.healthStatus)

structure SaysHealthy (now : ℕ) (id : String) (t : AdminState) : Prop where
  memory : t.router.isHealthy now id = true
  database : healthStatus t id = some "Healthy"

structure SaysUnhealthy (now : ℕ) (id : String) (t : AdminState) : Prop where
  memory : t.router.isHealthy now id = false
  database : healthStatus t id ≠ some "Healthy"

structure Unchanged (id : String) (s t : AdminState) : Prop where
  memory : t.router.health id = s.router.health id
  database : healthStatus t id = healthStatus s id

def Outcome (now : ℕ) (id : String) (s t : AdminState) : ProbeResult → Prop
  | .healthy | .rateLimited => SaysHealthy now id t
  | .invalidKey | .unreachable | .unknown => SaysUnhealthy now id t
  | .noModels | .noProtocols => Unchanged id s t

def InTable (s t : AdminState) : Op → Prop
  | .markChannelHealthy m id => SaysHealthy m.now id t
  | .recordChannelFailure _ _ => True
  | .probe m id => Outcome m.now id s t m.probe
  | .setChannelApiKey m id _ _ => Outcome m.now id s t m.probe

def Satisfied (s : AdminState) (op : Op) : Prop := ∀ t, step s op = some t → InTable s t op

def Refuted (r : ProbeResult) : Prop := r = .invalidKey ∨ r = .unreachable ∨ r = .unknown

def Unprobed (r : ProbeResult) : Prop := r = .noModels ∨ r = .noProtocols

/-- A channel is marked healthy only when the router would try it anyway; a probe refutes a channel only when
the database does not say Healthy; and a key is set on a channel that cannot be probed only when its entry is
already the one of a channel marked unhealthy at that instant. -/
def OpOk (s : AdminState) : Op → Prop
  | .markChannelHealthy m id => s.router.isHealthy m.now id = true
  | .recordChannelFailure _ _ => True
  | .probe m id => Refuted m.probe → healthStatus s id ≠ some "Healthy"
  | .setChannelApiKey m id _ _ => (Refuted m.probe → healthStatus s id ≠ some "Healthy") ∧
      (Unprobed m.probe → s.router.health id = some (ChannelState.new.markUnhealthy m.now))

section

variable {s t : AdminState} {m : Moment} {id key : String}

theorem markUnhealthy_not_healthy (s : AdminState) (now : ℕ) (id : String) :
    (s.markUnhealthy id now).router.isHealthy now id = false := by
  have hentry : (s.markUnhealthy id now).router.health id =
      some (((s.router.health id).getD .new).markUnhealthy now) := Function.update_self ..
  simp only [RouterState.isHealthy, hentry]
  apply (ChannelState.markUnhealthy_downSince _ (Nat.le_refl now)).not_tryable
  simp [secs]

theorem setHealth_healthy (s : AdminState) (now : ℕ) (id : String) :
    (s.setHealth id none).router.isHealthy now id = true := by
  have hentry : (s.setHealth id none).router.health id = none := Function.update_self ..
  simp only [RouterState.isHealthy, hentry]

theorem healthStatus_markChannelHealthy {db : Database} (now : ℤ)
    (h : Storage.markChannelHealthy s.storage id now = .ok db) :
    (db.channels.find? id).map (·.healthStatus) = some "Healthy" := by
  unfold Storage.markChannelHealthy at h
  split at h
  · cases h
  · rename_i row hrow
    cases h
    simp [Database.modifyChannel, Table.find?_modify, hrow]

theorem healthStatus_setChannelApiKey {db : Database} {now : ℤ}
    (h : Storage.setChannelApiKey s.storage id key now = .ok db) (c : String) :
    (db.channels.find? c).map (·.healthStatus) = healthStatus s c := by
  unfold Storage.setChannelApiKey at h
  split at h
  · cases h
  · cases h
    simp only [Database.modifyChannel, Table.find?_modify, Option.map_map, healthStatus]
    congr 1
    funext row
    simp only [Function.comp_apply]
    split_ifs
    · rfl
    · rfl

theorem probed_healthy (m : Moment) (h : s.storage.channels.find? id ≠ none) :
    SaysHealthy m.now id { s.setHealth id none with
      storage := (Storage.markChannelHealthy s.storage id m.unix).toOption.getD s.storage } := by
  constructor
  · exact setHealth_healthy s m.now id
  · cases hm : Storage.markChannelHealthy s.storage id m.unix with
    | error e =>
      unfold Storage.markChannelHealthy at hm
      split at hm
      · rename_i hnone
        exact absurd hnone h
      · cases hm
    | ok db => exact healthStatus_markChannelHealthy m.unix hm

theorem saysUnhealthy_iff (s : AdminState) (now : ℕ) (id : String) :
    SaysUnhealthy now id (s.markUnhealthy id now) ↔ healthStatus s id ≠ some "Healthy" :=
  ⟨fun h => h.database, fun h => ⟨markUnhealthy_not_healthy s now id, h⟩⟩

theorem unchanged_iff (s : AdminState) (now : ℕ) (id : String) :
    Unchanged id s (s.markUnhealthy id now) ↔ s.router.health id = some (ChannelState.new.markUnhealthy now) := by
  have hentry : (s.markUnhealthy id now).router.health id =
      some (((s.router.health id).getD .new).markUnhealthy now) := Function.update_self ..
  constructor
  · intro h
    rw [← h.memory, hentry]
    rfl
  · intro h
    refine ⟨?_, rfl⟩
    rw [hentry, h]
    rfl

theorem refuted_of_not_healthy {r : ProbeResult} (hhealthy : r.isHealthy = false) : Refuted r ∨ Unprobed r := by
  cases r with
  | healthy => cases hhealthy
  | rateLimited => cases hhealthy
  | invalidKey => exact .inl (.inl rfl)
  | unreachable => exact .inl (.inr (.inl rfl))
  | unknown => exact .inl (.inr (.inr rfl))
  | noModels => exact .inr (.inl rfl)
  | noProtocols => exact .inr (.inr rfl)

theorem outcome_healthy {r : ProbeResult} {now : ℕ} (h : r.isHealthy = true) :
    Outcome now id s t r = SaysHealthy now id t := by
  cases r <;> first | rfl | cases h

theorem outcome_refuted {r : ProbeResult} {now : ℕ} (h : Refuted r) :
    Outcome now id s t r = SaysUnhealthy now id t := by
  obtain rfl | rfl | rfl := h
  · rfl
  · rfl
  · rfl

theorem outcome_unprobed {r : ProbeResult} {now : ℕ} (h : Unprobed r) : Outcome now id s t r = Unchanged id s t := by
  obtain rfl | rfl := h
  · rfl
  · rfl

theorem not_refuted_of_healthy {r : ProbeResult} (h : r.isHealthy = true) : ¬ Refuted r := by
  rintro (rfl | rfl | rfl) <;> cases h

theorem not_unprobed_of_healthy {r : ProbeResult} (h : r.isHealthy = true) : ¬ Unprobed r := by
  rintro (rfl | rfl) <;> cases h

theorem not_unprobed_of_refuted {r : ProbeResult} (h : Refuted r) : ¬ Unprobed r := by
  obtain rfl | rfl | rfl := h <;> rintro (h | h) <;> cases h

theorem probe_outcome_iff (h : probeChannelHandler s m id = (.ok (), t)) :
    Outcome m.now id s t m.probe ↔ (Refuted m.probe → healthStatus s id ≠ some "Healthy") := by
  unfold probeChannelHandler at h
  cases hrow : getChannel s.storage id with
  | none => simp [hrow] at h
  | some row =>
    simp only [hrow] at h
    have hfind : s.storage.channels.find? id ≠ none := by
      intro hnone
      simp [getChannel, hnone] at hrow
    split_ifs at h with hhealthy hunprobed
    · cases h
      simp only [outcome_healthy hhealthy, not_refuted_of_healthy hhealthy, false_imp_iff, iff_true]
      exact probed_healthy m hfind
    · cases h
      have hnot : ¬ Refuted m.probe := fun hr => not_unprobed_of_refuted hr hunprobed
      simp only [outcome_unprobed hunprobed, hnot, false_imp_iff, iff_true]
      exact ⟨rfl, rfl⟩
    · cases h
      have hrefuted : Refuted m.probe :=
        (refuted_of_not_healthy (Bool.not_eq_true _ ▸ hhealthy)).resolve_right hunprobed
      simp only [outcome_refuted hrefuted, hrefuted, true_imp_iff]
      exact saysUnhealthy_iff s m.now id

theorem set_outcome_iff (hkey : key ≠ "") (h : Admin.setChannelApiKey s m id key = (.ok (), t)) :
    Outcome m.now id s t m.probe ↔ (Refuted m.probe → healthStatus s id ≠ some "Healthy") ∧
      (Unprobed m.probe → s.router.health id = some (ChannelState.new.markUnhealthy m.now)) := by
  have hempty : key.isEmpty = false := by simpa using hkey
  unfold Admin.setChannelApiKey at h
  cases hdb : Storage.setChannelApiKey s.storage id key m.unix with
  | error e => simp [hdb] at h
  | ok db =>
    let keyed : AdminState := ({ s with storage := db } : AdminState).setKey id (some key)
    have hstatus : healthStatus keyed id = healthStatus s id := healthStatus_setChannelApiKey hdb id
    simp only [hdb, hempty, Bool.false_eq_true, if_false] at h
    cases hrow : getChannel db id with
    | none => simp [AdminState.setKey, hrow] at h
    | some row =>
      have hfind : db.channels.find? id ≠ none := by
        intro hnone
        simp [getChannel, hnone] at hrow
      simp only [AdminState.setKey, hrow] at h
      split_ifs at h with hhealthy
      · cases h
        simp only [outcome_healthy hhealthy, not_refuted_of_healthy hhealthy, not_unprobed_of_healthy hhealthy,
          false_imp_iff, and_self, iff_true]
        exact @probed_healthy keyed id m hfind
      · cases h
        obtain hrefuted | hunprobed := refuted_of_not_healthy (Bool.not_eq_true _ ▸ hhealthy)
        · simp only [outcome_refuted hrefuted, hrefuted, not_unprobed_of_refuted hrefuted, true_imp_iff,
            false_imp_iff, and_true]
          rw [← hstatus]
          exact saysUnhealthy_iff keyed m.now id
        · have hnot : ¬ Refuted m.probe := fun hr => not_unprobed_of_refuted hr hunprobed
          simp only [outcome_unprobed hunprobed, hunprobed, hnot, true_imp_iff, false_imp_iff, true_and]
          refine Iff.trans ⟨fun hu => ⟨hu.memory, hu.database.trans hstatus.symm⟩,
            fun hu => ⟨hu.memory, hu.database.trans hstatus⟩⟩ (unchanged_iff keyed m.now id)

theorem inTable_iff {op : Op} (h : step s op = some t) : InTable s t op ↔ OpOk s op := by
  have hok : handle s op = (.ok (), t) := by
    unfold step at h
    split at h
    · rename_i u hu
      cases h
      exact hu
    · cases h
  cases op with
  | markChannelHealthy m id =>
    simp only [handle, Admin.markChannelHealthy] at hok
    split at hok
    · cases hok
    · rename_i db hdb
      cases hok
      exact ⟨fun hs => hs.memory, fun hm => ⟨hm, healthStatus_markChannelHealthy m.unix hdb⟩⟩
  | recordChannelFailure m id => rfl
  | probe m id => exact probe_outcome_iff hok
  | setChannelApiKey m id key hkey => exact set_outcome_iff hkey hok

end

theorem table_kept_iff {s u : AdminState} {ops : List Op} (h : run step s ops = some u) :
    Meets step Satisfied s ops ↔ Meets step OpOk s ops := by
  refine meets_congr (fun s op t ht => ?_) h
  rw [← inTable_iff ht]
  constructor
  · intro hs
    exact hs t ht
  · intro hin t' ht'
    cases ht.symm.trans ht'
    exact hin

namespace Sample

def database : Database := Router.Sample.database "deepseek" "deepseek" "sk"

def state : AdminState := ⟨database, fromStorage Router.Sample.serde database⟩

def moment (probe : ProbeResult) : Moment := ⟨0, 0, "1970-01-01T00:05:00+00:00", probe⟩

def refutedFailing : List Op :=
  [.recordChannelFailure (moment .healthy) "deepseek", .probe (moment .invalidKey) "deepseek",
    .setChannelApiKey (moment .healthy) "deepseek" "sk2" (by decide), .probe (moment .noModels) "deepseek",
    .markChannelHealthy (moment .healthy) "deepseek"]

def refutedHealthy : List Op := [.probe (moment .invalidKey) "deepseek"]

end Sample

theorem table_kept_failing : Meets step Satisfied Sample.state Sample.refutedFailing := by
  refine (table_kept_iff rfl).mpr ⟨trivial, fun t ht => ?_⟩
  cases ht
  refine ⟨fun _ => by decide +kernel, fun t ht => ?_⟩
  cases ht
  refine ⟨⟨fun h => absurd h (not_refuted_of_healthy rfl), fun h => absurd h (not_unprobed_of_healthy rfl)⟩,
    fun t ht => ?_⟩
  cases ht
  refine ⟨fun h => absurd (.inl rfl) (not_unprobed_of_refuted h), fun t ht => ?_⟩
  cases ht
  exact ⟨rfl, fun _ _ => trivial⟩

theorem refuted_channel_still_healthy :
    ¬ ∀ (s u : AdminState) (ops : List Op), run step s ops = some u → Meets step Satisfied s ops := by
  intro h
  have hprobe := (h Sample.state _ Sample.refutedHealthy rfl).1 _ rfl
  exact hprobe.database (by decide +kernel)

end AgentProxy.Admin.HealthSync
