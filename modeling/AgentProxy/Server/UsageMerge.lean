import AgentProxy.Server.Sse
import Mathlib.Algebra.Order.Ring.Int
import Mathlib.Data.List.Nodup
import Mathlib.Data.Rat.Cast.Order

namespace AgentProxy

def Number.value : Number → ℚ
  | posInt n => n.toNat
  | negInt n => n.toInt
  | float q => q

namespace Json

def asF64 : Json → Option ℚ
  | num n => some n.value
  | _ => none

def StrictlyPositive (v : Json) : Prop := ∃ n, v = .num n ∧ 0 < n.value

theorem isPositive_num (n : Number) : (num n).isPositive = decide (0 < n.value) := by
  rcases n with n | n | q
  · simp [isPositive, Number.value, UInt64.lt_iff_toNat_lt]
  · simp [isPositive, Number.value, Int64.lt_iff_toInt_lt]
  · rfl

theorem isPositive_eq (v : Json) :
    v.isPositive = (v.asU64.any (fun n => decide (0 < n)) || v.asF64.any fun f => decide (0 < f)) := by
  rcases v with _ | b | n | s | items | fields
  · rfl
  · rfl
  · rcases n with n | n | q
    · rw [isPositive_num]
      simp [asU64, asF64, Number.value, UInt64.lt_iff_toNat_lt]
    · rw [isPositive_num]
      rfl
    · rfl
  · rfl
  · rfl
  · rfl

theorem isPositive_iff {v : Json} : v.isPositive = true ↔ v.StrictlyPositive := by
  constructor
  · intro h
    rcases v with _ | b | n | s | items | fields
    · cases h
    · cases h
    · rw [isPositive_num] at h
      exact ⟨n, rfl, of_decide_eq_true h⟩
    · cases h
    · cases h
    · cases h
  · rintro ⟨n, rfl, h⟩
    rw [isPositive_num]
    exact decide_eq_true h

end Json

namespace Server

section

variable {acc fields : List (String × Json)} {k : String}

theorem lookup_isSome_iff : (acc.lookup k).isSome = true ↔ k ∈ acc.map (·.1) := by
  induction acc with
  | nil => simp
  | cons field acc ih =>
    obtain ⟨k', v⟩ := field
    rw [lookup_cons_ite, List.map_cons, List.mem_cons, ← ih]
    by_cases h : k = k'
    · simp [h]
    · simp [h]

theorem keys_insertField (k : String) (v : Json) : (insertField k v acc).map (·.1) =
    if k ∈ acc.map (·.1) then acc.map (·.1) else acc.map (·.1) ++ [k] := by
  induction acc with
  | nil => simp [insertField]
  | cons field acc ih =>
    obtain ⟨k', v'⟩ := field
    by_cases h : k' = k
    · simp [insertField, h]
    · have hne : k ≠ k' := fun heq => h heq.symm
      simp only [insertField, if_neg h, List.map_cons, ih, List.mem_cons, hne, false_or]
      split_ifs
      · rfl
      · rfl

theorem nodup_mergeField (field : String × Json) (h : (acc.map (·.1)).Nodup) :
    ((mergeField acc field).map (·.1)).Nodup := by
  unfold mergeField
  split_ifs
  · rw [keys_insertField]
    split_ifs with hmem
    · exact h
    · rw [List.nodup_append]
      refine ⟨h, List.nodup_singleton _, ?_⟩
      rintro k hk k' hk' rfl
      rw [List.mem_singleton] at hk'
      exact hmem (hk' ▸ hk)
  · exact h

theorem nodup_foldl_mergeField (h : (acc.map (·.1)).Nodup) : ((fields.foldl mergeField acc).map (·.1)).Nodup := by
  induction fields generalizing acc with
  | nil => exact h
  | cons field fields ih => exact ih (nodup_mergeField field h)

theorem lastReported_eq_none_iff {values : List Json} : lastReported values = none ↔ values = [] := by
  rcases values with _ | ⟨v, values⟩
  · simp [lastReported]
  · simp [lastReported]

theorem lastReported_positive {earlier later : List Json} {v : Json} (hv : v.isPositive = true)
    (hlater : ∀ w ∈ later, w.isPositive = false) : lastReported (earlier ++ v :: later) = some v := by
  rw [lastReported, List.reverse_append, List.reverse_cons, List.find?_append, List.find?_append,
    find?_reverse_of_not_positive hlater]
  simp [hv]

theorem valuesOf_ne_nil_iff : valuesOf k fields ≠ [] ↔ k ∈ fields.map (·.1) := by
  rw [valuesOf, ne_eq, List.map_eq_nil_iff, List.filter_eq_nil_iff]
  simp [eq_comm]

end

def mergeUsages (usages : List Json) : List (String × Json) := usages.foldl mergeUsageFields []

def objectFields (usages : List Json) : List (String × Json) := usages.flatMap fun usage => usage.asObject.getD []

/-- The values that the objects of a sequence give for a key, in their order. -/
def given (k : String) (usages : List Json) : List Json := valuesOf k (objectFields usages)

theorem mergeUsages_eq (usages : List Json) : mergeUsages usages = (objectFields usages).foldl mergeField [] := by
  rw [objectFields, List.foldl_flatMap]
  simp only [mergeUsages, ← mergeUsageFields_eq]

theorem lookup_mergeUsages (usages : List Json) (k : String) :
    (mergeUsages usages).lookup k = lastReported (given k usages) := by
  rw [mergeUsages_eq, lookup_foldl_mergeField, given, ← foldl_keepValue]
  rfl

theorem mem_objectFields_keys {usages : List Json} {k : String} :
    k ∈ (objectFields usages).map (·.1) ↔ ∃ fields, .obj fields ∈ usages ∧ k ∈ fields.map (·.1) := by
  rw [objectFields, List.map_flatMap, List.mem_flatMap]
  constructor
  · rintro ⟨usage, husage, hk⟩
    rcases usage with _ | b | n | s | items | fields
    · cases hk
    · cases hk
    · cases hk
    · cases hk
    · cases hk
    · exact ⟨fields, husage, hk⟩
  · rintro ⟨fields, hfields, hk⟩
    exact ⟨.obj fields, hfields, hk⟩

/-- A key for every key of an object, with the last number above zero that was given for it, or the first value
where no such number was. -/
structure KeyedFold (usages : List Json) (merged : List (String × Json)) : Prop where
  distinct : (merged.map (·.1)).Nodup
  keys : ∀ k, k ∈ merged.map (·.1) ↔ ∃ fields, .obj fields ∈ usages ∧ k ∈ fields.map (·.1)
  positive : ∀ k earlier v later, given k usages = earlier ++ v :: later → v.StrictlyPositive →
    (∀ w ∈ later, ¬ w.StrictlyPositive) → merged.lookup k = some v
  first : ∀ k v later, given k usages = v :: later → (∀ w ∈ v :: later, ¬ w.StrictlyPositive) →
    merged.lookup k = some v

theorem isPositive_of_not_strictlyPositive {values : List Json} (h : ∀ w ∈ values, ¬ w.StrictlyPositive) :
    ∀ w ∈ values, w.isPositive = false := by
  intro w hw
  rw [Bool.eq_false_iff, ne_eq, Json.isPositive_iff]
  exact h w hw

theorem mergeUsages_keyedFold (usages : List Json) : KeyedFold usages (mergeUsages usages) where
  distinct := by
    rw [mergeUsages_eq]
    exact nodup_foldl_mergeField List.nodup_nil
  keys k := by
    rw [← lookup_isSome_iff, lookup_mergeUsages, Option.isSome_iff_ne_none, ne_eq, lastReported_eq_none_iff,
      given, ← ne_eq, valuesOf_ne_nil_iff, mem_objectFields_keys]
  positive k earlier v later hgiven hv hlater := by
    rw [lookup_mergeUsages, hgiven]
    exact lastReported_positive (Json.isPositive_iff.mpr hv) (isPositive_of_not_strictlyPositive hlater)
  first k v later hgiven hall := by
    rw [lookup_mergeUsages, hgiven, lastReported_of_not_positive (isPositive_of_not_strictlyPositive hall)]
    rfl

theorem mergeUsageFields_of_not_object (acc : List (String × Json)) {usage : Json}
    (h : ∀ fields, usage ≠ .obj fields) : mergeUsageFields acc usage = acc := by
  rcases usage with _ | b | n | s | items | fields
  · rfl
  · rfl
  · rfl
  · rfl
  · rfl
  · exact absurd rfl (h fields)

theorem usage_merge_keyed_fold (usages : List Json) :
    KeyedFold usages (mergeUsages usages) ∧
      ∀ acc usage, (∀ fields, usage ≠ .obj fields) → mergeUsageFields acc usage = acc := by
  constructor
  · exact mergeUsages_keyedFold usages
  · intro acc usage h
    exact mergeUsageFields_of_not_object acc h

theorem mergeEvents_eq_mergeUsages (events : List Json) :
    mergeEvents events = mergeUsages (events.flatMap eventUsages) := by
  rw [mergeEvents_eq, mergeUsages_eq]
  rfl

theorem extractUsageFromSse_keyedFold (serde : Serde) (text : String) {usage : Json}
    (h : (extractUsageFromSse serde (.utf8 text)).get "usage" = some usage) :
    ∃ merged, usage = .obj merged ∧ KeyedFold ((sseEvents serde text.toList).flatMap eventUsages) merged := by
  simp only [extractUsageFromSse] at h
  split_ifs at h
  · cases h
  · cases h
    refine ⟨_, rfl, ?_⟩
    rw [mergeEvents_eq_mergeUsages]
    exact mergeUsages_keyedFold _

end Server

end AgentProxy
