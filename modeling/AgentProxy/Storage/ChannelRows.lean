import AgentProxy.Lib.Sql
import AgentProxy.Storage.Tables

namespace AgentProxy.Storage.Rows

open Sql

def channelCols : List String :=
  ["id", "name", "api_key", "protocol", "protocols", "is_builtin", "enabled", "created_at", "updated_at",
    "health_status", "cooldown_until", "consecutive_failures", "billing_type", "monthly_quota", "quota_policy",
    "priority", "force_protocol"]

def rowToChannel (row : Fields) : Except String Channel := do
  let apiKey ← field asText row 2
  let healthStatus ← field asText row 9
  let effectiveHealth := if apiKey.isEmpty then "Unavailable" else healthStatus
  let id ← field asText row 0
  let name ← field asText row 1
  let protocol ← field asText row 3
  let protocols := ((field asText row 4).toOption).getD ""
  let isBuiltin ← field asBool row 5
  let enabled ← field asBool row 6
  let createdAt ← field asInteger row 7
  let updatedAt ← field asInteger row 8
  let cooldownUntil ← field (asOption asText) row 10
  let consecutiveFailures ← field (asUnsigned 32) row 11
  let billingType ← field asText row 12
  let monthlyQuota ← field (asOption (asUnsigned 64)) row 13
  let quotaPolicy ← field asText row 14
  let priority ← field (asUnsigned 32) row 15
  let forceProtocol ← field (asOption asText) row 16
  return {
    id, name, apiKey, protocol, protocols, isBuiltin, enabled, createdAt, updatedAt
    healthStatus := effectiveHealth
    cooldownUntil, consecutiveFailures, billingType, monthlyQuota, quotaPolicy, priority, forceProtocol }

def updateAssignments (u : ChannelUpdate) (now : ℤ) : Assignments :=
  (((((((Assignments.first "updated_at" (.integer now)).push
    "name" (u.name.map .text)).push
    "enabled" (u.enabled.map boolean)).push
    "priority" (u.priority.map fun p => .integer p)).push
    "monthly_quota" (u.monthlyQuota.map fun q => .integer (min q (2 ^ 63 - 1) : ℕ))).push
    "quota_policy" (u.quotaPolicy.map .text)).push
    "protocols" (u.protocols.map .text)).push
    "force_protocol" (u.forceProtocol.map .text)

def hasId (id : String) (row : Row) : Bool := Op.eq.holds (row "id") (.text id)

def queryRow (rows : List Row) (id : String) : Except String Channel :=
  match rows.find? (hasId id) with
  | some row => rowToChannel (select channelCols row)
  | none => .error "Query returned no rows"

def updateChannel (rows : List Row) (id : String) (u : ChannelUpdate) (now : ℤ) :
    List Row × Except StorageError Channel :=
  let b := updateAssignments u now
  match updateRows b.sets "id" (b.params.length + 1) (b.params ++ [.text id]) rows with
  | .error e => (rows, .error (.backend e))
  | .ok (updated, count) =>
    if count = 0 then (updated, .error (channelNotFound id))
    else (updated, (queryRow updated id).mapError .backend)

def supplied (u : ChannelUpdate) (now : ℤ) (column : String) : Option Value :=
  if column = "updated_at" then some (.integer now)
  else if column = "name" then u.name.map .text
  else if column = "enabled" then u.enabled.map boolean
  else if column = "priority" then u.priority.map fun p => .integer p
  else if column = "monthly_quota" then u.monthlyQuota.map fun q => .integer (min q (2 ^ 63 - 1) : ℕ)
  else if column = "quota_policy" then u.quotaPolicy.map .text
  else if column = "protocols" then u.protocols.map .text
  else if column = "force_protocol" then u.forceProtocol.map .text
  else none

def withSupplied (u : ChannelUpdate) (now : ℤ) (row : Row) : Row := fun c => (supplied u now c).getD (row c)

theorem run_updateAssignments (u : ChannelUpdate) (now : ℤ) (extra : List Value) (row : Row) :
    (updateAssignments u now).run extra row = withSupplied u now row := by
  funext c
  simp only [updateAssignments, Assignments.run_push, Assignments.run_first, setIf_apply, withSupplied, supplied]
  by_cases hcolumn : c ∈ ["updated_at", "name", "enabled", "priority", "monthly_quota", "quota_policy", "protocols",
      "force_protocol"]
  · simp only [List.mem_cons, List.not_mem_nil, or_false] at hcolumn
    rcases hcolumn with rfl | rfl | rfl | rfl | rfl | rfl | rfl | rfl
    all_goals simp
  · simp only [List.mem_cons, List.not_mem_nil, or_false, not_or] at hcolumn
    obtain ⟨hupdated, hname, henabled, hpriority, hquota, hpolicy, hprotocols, hforce⟩ := hcolumn
    simp only [if_neg hupdated, if_neg hname, if_neg henabled, if_neg hpriority, if_neg hquota, if_neg hpolicy,
      if_neg hprotocols, if_neg hforce, Option.getD_none]

theorem withSupplied_id (u : ChannelUpdate) (now : ℤ) (row : Row) : withSupplied u now row "id" = row "id" := rfl

theorem updateChannel_eq (rows : List Row) (id : String) (u : ChannelUpdate) (now : ℤ) :
    updateChannel rows id u now =
      let updated := rows.map fun row => if hasId id row then withSupplied u now row else row
      if rows.countP (hasId id) = 0 then (updated, .error (channelNotFound id))
      else (updated, (queryRow updated id).mapError .backend) := by
  have hrun : (updateAssignments u now).run [.text id] = withSupplied u now :=
    funext (run_updateAssignments u now [.text id])
  simp only [updateChannel, updateRows_built, hrun]
  rfl

theorem find?_updated (rows : List Row) (id : String) (u : ChannelUpdate) (now : ℤ) :
    (rows.map fun row => if hasId id row then withSupplied u now row else row).find? (hasId id) =
      (rows.find? (hasId id)).map (withSupplied u now) := by
  have hkeeps (row : Row) : hasId id (if hasId id row then withSupplied u now row else row) = hasId id row := by
    split_ifs
    · rw [hasId, withSupplied_id, hasId]
    · rfl
  have hcomp : hasId id ∘ (fun row => if hasId id row then withSupplied u now row else row) = hasId id :=
    funext hkeeps
  rw [List.find?_map, hcomp]
  cases hfind : rows.find? (hasId id) with
  | none => rfl
  | some row =>
    rw [Option.map_some, Option.map_some, if_pos (List.find?_some hfind)]

theorem updateChannel_missing {rows : List Row} {id : String} (u : ChannelUpdate) (now : ℤ)
    (h : rows.find? (hasId id) = none) : updateChannel rows id u now = (rows, .error (channelNotFound id)) := by
  have hcount : rows.countP (hasId id) = 0 := List.countP_eq_zero.mpr (List.find?_eq_none.mp h)
  have hsame : (rows.map fun row => if hasId id row then withSupplied u now row else row) = rows := by
    apply (List.map_congr_left _).trans (List.map_id rows)
    intro row hrow
    exact if_neg (List.find?_eq_none.mp h row hrow)
  rw [updateChannel_eq]
  dsimp only
  rw [if_pos hcount, hsame]

theorem updateChannel_existing {rows : List Row} {id : String} {row : Row} (u : ChannelUpdate) (now : ℤ)
    (h : rows.find? (hasId id) = some row) :
    updateChannel rows id u now =
      (rows.map fun r => if hasId id r then withSupplied u now r else r,
        (rowToChannel (select channelCols (withSupplied u now row))).mapError .backend) := by
  have hcount : rows.countP (hasId id) ≠ 0 := by
    intro hzero
    exact List.countP_eq_zero.mp hzero row (List.mem_of_find?_eq_some h) (List.find?_some h)
  rw [updateChannel_eq]
  dsimp only
  rw [if_neg hcount, queryRow, find?_updated, h]
  rfl

def encodeChannel (ch : Channel) : Row :=
  Row.ofList [("id", .text ch.id), ("name", .text ch.name), ("api_key", .text ch.apiKey),
    ("protocol", .text ch.protocol), ("protocols", .text ch.protocols), ("is_builtin", boolean ch.isBuiltin),
    ("enabled", boolean ch.enabled), ("created_at", .integer ch.createdAt), ("updated_at", .integer ch.updatedAt),
    ("health_status", .text ch.healthStatus), ("cooldown_until", nullable .text ch.cooldownUntil),
    ("consecutive_failures", .integer ch.consecutiveFailures), ("billing_type", .text ch.billingType),
    ("monthly_quota", nullable (fun q : ℕ => .integer q) ch.monthlyQuota), ("quota_policy", .text ch.quotaPolicy),
    ("priority", .integer ch.priority), ("force_protocol", nullable .text ch.forceProtocol)]

structure InRange (ch : Channel) : Prop where
  failures : ch.consecutiveFailures < 2 ^ 32
  quota : ∀ q ∈ ch.monthlyQuota, q < 2 ^ 64
  priority : ch.priority < 2 ^ 32

theorem rowToChannel_encode {ch : Channel} (h : InRange ch) :
    rowToChannel (select channelCols (encodeChannel ch)) = .ok (Storage.rowToChannel ch) := by
  obtain ⟨fields, hfields⟩ : ∃ fields, fields = select channelCols (encodeChannel ch) := ⟨_, rfl⟩
  have hat (i : ℕ) : fields[i]? = (select channelCols (encodeChannel ch))[i]? := by rw [hfields]
  rw [← hfields]
  have hid : field asText fields 0 = .ok ch.id := field_ok (hat 0) rfl
  have hname : field asText fields 1 = .ok ch.name := field_ok (hat 1) rfl
  have hapiKey : field asText fields 2 = .ok ch.apiKey := field_ok (hat 2) rfl
  have hprotocol : field asText fields 3 = .ok ch.protocol := field_ok (hat 3) rfl
  have hprotocols : field asText fields 4 = .ok ch.protocols := field_ok (hat 4) rfl
  have hbuiltin : field asBool fields 5 = .ok ch.isBuiltin := field_ok (hat 5) (asBool_boolean _)
  have henabled : field asBool fields 6 = .ok ch.enabled := field_ok (hat 6) (asBool_boolean _)
  have hcreated : field asInteger fields 7 = .ok ch.createdAt := field_ok (hat 7) rfl
  have hupdated : field asInteger fields 8 = .ok ch.updatedAt := field_ok (hat 8) rfl
  have hhealth : field asText fields 9 = .ok ch.healthStatus := field_ok (hat 9) rfl
  have hcooldown : field (asOption asText) fields 10 = .ok ch.cooldownUntil := field_ok (hat 10) (asOption_text _)
  have hfailures : field (asUnsigned 32) fields 11 = .ok ch.consecutiveFailures :=
    field_ok (hat 11) (asUnsigned_natCast h.failures)
  have hbilling : field asText fields 12 = .ok ch.billingType := field_ok (hat 12) rfl
  have hquota : field (asOption (asUnsigned 64)) fields 13 = .ok ch.monthlyQuota :=
    field_ok (hat 13) (asOption_unsigned h.quota)
  have hpolicy : field asText fields 14 = .ok ch.quotaPolicy := field_ok (hat 14) rfl
  have hpriority : field (asUnsigned 32) fields 15 = .ok ch.priority := field_ok (hat 15) (asUnsigned_natCast h.priority)
  have hforce : field (asOption asText) fields 16 = .ok ch.forceProtocol := field_ok (hat 16) (asOption_text _)
  simp only [rowToChannel, hapiKey, hhealth, hid, hname, hprotocol, hprotocols, hbuiltin, henabled, hcreated, hupdated,
    hcooldown, hfailures, hbilling, hquota, hpolicy, hpriority, hforce, bind, Except.bind, pure, Except.pure,
    Except.toOption, Option.getD_some]
  unfold Storage.rowToChannel
  split_ifs
  · rfl
  · rfl

theorem ofList_of_not_mem {columns : List (String × Value)} {c : String} (h : c ∉ columns.map (·.1)) :
    Row.ofList columns c = .null := by
  have hnone : (columns.find? fun p => decide (p.1 = c)) = none := by
    apply List.find?_eq_none.mpr
    intro p hp hname
    exact h (of_decide_eq_true hname ▸ List.mem_map_of_mem hp)
  rw [Row.ofList, hnone]
  rfl

theorem supplied_of_not_mem (u : ChannelUpdate) (now : ℤ) {c : String} (h : c ∉ channelCols) :
    supplied u now c = none := by
  simp only [channelCols, List.mem_cons, List.not_mem_nil, or_false, not_or] at h
  obtain ⟨-, hname, -, -, hprotocols, -, henabled, -, hupdated, -, -, -, -, hquota, hpolicy, hpriority, hforce⟩ := h
  rw [supplied, if_neg hupdated, if_neg hname, if_neg henabled, if_neg hpriority, if_neg hquota, if_neg hpolicy,
    if_neg hprotocols, if_neg hforce]

theorem withSupplied_encode (u : ChannelUpdate) (now : ℤ) (ch : Channel) :
    withSupplied u now (encodeChannel ch) = encodeChannel (u.apply now ch) := by
  funext c
  by_cases hc : c ∈ channelCols
  · obtain ⟨name, enabled, priority, monthlyQuota, quotaPolicy, protocols, forceProtocol⟩ := u
    simp only [channelCols, List.mem_cons, List.not_mem_nil, or_false] at hc
    rcases hc with rfl | rfl | rfl | rfl | rfl | rfl | rfl | rfl | rfl | rfl | rfl | rfl | rfl | rfl | rfl | rfl | rfl
    all_goals first
      | rfl
      | cases name <;> rfl
      | cases protocols <;> rfl
      | cases enabled <;> rfl
      | cases priority <;> rfl
      | cases monthlyQuota <;> rfl
      | cases quotaPolicy <;> rfl
      | cases forceProtocol <;> rfl
  · rw [withSupplied, supplied_of_not_mem u now hc, Option.getD_none]
    exact (ofList_of_not_mem hc).trans (ofList_of_not_mem hc).symm

theorem hasId_encode (id : String) (ch : Channel) : hasId id (encodeChannel ch) = decide (ch.id = id) := rfl

theorem apply_inRange {u : ChannelUpdate} {ch : Channel} (now : ℤ) (h : InRange ch) (hu : ∀ p ∈ u.priority, p < 2 ^ 32) :
    InRange (u.apply now ch) where
  failures := h.failures
  quota := by
    intro q hq
    cases hquota : u.monthlyQuota with
    | none =>
      rw [ChannelUpdate.apply, hquota] at hq
      exact h.quota q hq
    | some given =>
      rw [ChannelUpdate.apply, hquota] at hq
      obtain rfl : min given (2 ^ 63 - 1) = q := Option.some.inj hq
      omega
  priority := by
    cases hpriority : u.priority with
    | none =>
      rw [ChannelUpdate.apply, hpriority]
      exact h.priority
    | some given =>
      rw [ChannelUpdate.apply, hpriority]
      exact hu given hpriority

/-- On rows that hold channels, the statement does what the table operation of the abstract store does. -/
theorem updateChannel_refines (db : Database) (id : String) {u : ChannelUpdate} (now : ℤ)
    (hrange : ∀ ch ∈ db.channels.rows, InRange ch) (hu : ∀ p ∈ u.priority, p < 2 ^ 32) :
    updateChannel (db.channels.rows.map encodeChannel) id u now =
      match Storage.updateChannel db id u now with
      | .error e => (db.channels.rows.map encodeChannel, .error e)
      | .ok db' => (db'.channels.rows.map encodeChannel,
          match getChannel db' id with
          | some ch => .ok ch
          | none => .error (.backend "Query returned no rows")) := by
  have hfind : (db.channels.rows.map encodeChannel).find? (hasId id) = (db.channels.find? id).map encodeChannel := by
    rw [List.find?_map]
    rfl
  unfold Storage.updateChannel
  cases hch : db.channels.find? id with
  | none =>
    rw [hch] at hfind
    exact updateChannel_missing u now hfind
  | some ch =>
    rw [hch] at hfind
    have hmem : ch ∈ db.channels.rows := (db.channels.find?_eq_some.mp hch).1
    have hupdated : getChannel (db.modifyChannel id (u.apply now) fun _ => rfl) id =
        some (Storage.rowToChannel (u.apply now ch)) := by
      have hmodified := db.channels.find?_modify id id (u.apply now) fun _ => rfl
      rw [hch, Option.map_some, if_pos rfl] at hmodified
      exact congrArg (Option.map Storage.rowToChannel) hmodified
    dsimp only
    rw [hupdated, updateChannel_existing u now hfind]
    apply Prod.ext
    · dsimp only
      rw [List.map_map]
      change _ = (List.map _ db.channels.rows).map encodeChannel
      rw [List.map_map]
      apply List.map_congr_left
      intro row _
      rw [Function.comp_apply, Function.comp_apply, hasId_encode, withSupplied_encode]
      by_cases hid : row.id = id
      · simp [hid]
      · simp [hid]
    · dsimp only
      rw [withSupplied_encode, rowToChannel_encode (apply_inRange now (hrange ch hmem) hu)]
      rfl

theorem update_channel_exact (rows : List Row) (id : String) (u : ChannelUpdate) (now : ℤ) :
    (rows.find? (hasId id) = none → updateChannel rows id u now = (rows, .error (channelNotFound id))) ∧
      ∀ row, rows.find? (hasId id) = some row →
        (updateChannel rows id u now).1 = (rows.map fun r => if hasId id r then withSupplied u now r else r) ∧
          (updateChannel rows id u now).2 =
            (rowToChannel (select channelCols (withSupplied u now row))).mapError .backend := by
  constructor
  · exact updateChannel_missing u now
  · intro row h
    rw [updateChannel_existing u now h]
    exact ⟨rfl, rfl⟩

namespace Sample

def channel : Channel where
  id := "deepseek"
  name := "DeepSeek"
  apiKey := "sk-1"
  protocol := "openai_chat"
  protocols := "[]"
  isBuiltin := true
  enabled := true
  createdAt := 0
  updatedAt := 0
  healthStatus := "Healthy"
  cooldownUntil := none
  consecutiveFailures := 0
  billingType := "metered"
  monthlyQuota := none
  quotaPolicy := "fallback"
  priority := 0
  forceProtocol := none

end Sample

theorem update_channel_priority_and_quota :
    [encodeChannel Sample.channel].find? (hasId "deepseek") = some (encodeChannel Sample.channel) ∧
      (updateChannel [encodeChannel Sample.channel] "deepseek" { priority := some 5, monthlyQuota := some (2 ^ 64 - 1) }
          1767225600).2 =
        .ok { Sample.channel with priority := 5, monthlyQuota := some (2 ^ 63 - 1), updatedAt := 1767225600 } := by
  have hfind : [encodeChannel Sample.channel].find? (hasId "deepseek") = some (encodeChannel Sample.channel) := rfl
  obtain ⟨-, hexisting⟩ := update_channel_exact [encodeChannel Sample.channel] "deepseek"
    { priority := some 5, monthlyQuota := some (2 ^ 64 - 1) } 1767225600
  apply And.intro hfind
  rw [(hexisting _ hfind).2]
  rfl

end AgentProxy.Storage.Rows
