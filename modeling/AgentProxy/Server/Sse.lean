import AgentProxy.Core.Types
import AgentProxy.Lib.Text
import Mathlib.Data.List.Induction

namespace AgentProxy.Server

open Text

def normalizeLine (l : List Char) : List Char :=
  let l := trimEnd l
  match stripPrefix? "data:".toList l with
  | some rest => if [' '].isPrefixOf rest then l else "data: ".toList ++ rest
  | none =>
    match stripPrefix? "event:".toList l with
    | some rest => if [' '].isPrefixOf rest then l else "event: ".toList ++ rest
    | none => l

def normalizeSseFormat (text : List Char) : List Char :=
  List.intercalate ['\n'] ((lines text).map normalizeLine)

def insertField (k : String) (v : Json) : List (String × Json) → List (String × Json)
  | [] => [(k, v)]
  | (k', v') :: rest => if k' = k then (k, v) :: rest else (k', v') :: insertField k v rest

def mergeField (acc : List (String × Json)) (field : String × Json) : List (String × Json) :=
  if field.2.isPositive ∨ acc.lookup field.1 = none then insertField field.1 field.2 acc else acc

def mergeUsageFields (acc : List (String × Json)) (usage : Json) : List (String × Json) :=
  match usage.asObject with
  | some fields => fields.foldl mergeField acc
  | none => acc

def hasType (event : Json) (name : String) : Bool := (event.get "type").bind Json.asStr = some name

def eventUsages (event : Json) : List Json :=
  (if hasType event "message_start" then ((event.get "message").bind fun m => m.get "usage").toList else []) ++
  (if hasType event "message_delta" then (event.get "usage").toList else []) ++
  (if hasType event "response.completed" then
    ((event.get "response").bind fun r => r.get "usage").toList else []) ++
  (if (event.get "choices").isSome then (event.get "usage").toList else []) ++
  (if (event.get "choices").isNone ∧ (event.get "type").isNone then (event.get "usage").toList else [])

variable (serde : Serde)

def lineEvent (line : List Char) : Option Json := do
  let data ← stripPrefix? "data: ".toList line
  if data.isEmpty ∨ data = "[DONE]".toList then none else (serde.value (String.ofList data)).toOption

def mergeEvents (events : List Json) : List (String × Json) :=
  events.foldl (fun acc event => (eventUsages event).foldl mergeUsageFields acc) []

def sseEvents (text : List Char) : List Json := (lines (normalizeSseFormat text)).filterMap (lineEvent serde)

def extractUsageFromSse (body : Body) : Json :=
  match body with
  | .binary _ => .null
  | .utf8 text =>
    let merged := mergeEvents (sseEvents serde text.toList)
    if merged.isEmpty then .null else .obj [("usage", .obj merged)]

section Merge

variable {acc fields : List (String × Json)} {k : String}

theorem lookup_cons_ite (k' : String) (v : Json) :
    List.lookup k ((k', v) :: acc) = if k = k' then some v else acc.lookup k := by
  by_cases h : k = k'
  · simp [h]
  · have hb : (k == k') = false := by simpa using h
    simp [List.lookup_cons, hb, h]

theorem lookup_insertField (k' : String) (v : Json) :
    (insertField k' v acc).lookup k = if k = k' then some v else acc.lookup k := by
  induction acc with
  | nil => exact lookup_cons_ite k' v
  | cons field acc ih =>
    obtain ⟨k₀, v₀⟩ := field
    by_cases hk : k₀ = k'
    · subst hk
      simp only [insertField, ↓reduceIte, lookup_cons_ite]
      split_ifs <;> rfl
    · simp only [insertField, hk, ↓reduceIte, lookup_cons_ite, ih]
      by_cases h : k = k₀
      · subst h
        simp [hk]
      · simp [h]

def keepValue (old : Option Json) (v : Json) : Option Json := if v.isPositive ∨ old = none then some v else old

def valuesOf (k : String) (fields : List (String × Json)) : List Json :=
  (fields.filter fun f => f.1 = k).map (·.2)

theorem lookup_mergeField (field : String × Json) :
    (mergeField acc field).lookup k =
      if k = field.1 then keepValue (acc.lookup k) field.2 else acc.lookup k := by
  by_cases h : k = field.1
  · subst h
    simp only [mergeField, keepValue, ↓reduceIte]
    split_ifs <;> simp [lookup_insertField]
  · simp only [mergeField, h, ↓reduceIte]
    split_ifs <;> simp [lookup_insertField, h]

theorem lookup_foldl_mergeField :
    (fields.foldl mergeField acc).lookup k = (valuesOf k fields).foldl keepValue (acc.lookup k) := by
  induction fields generalizing acc with
  | nil => rfl
  | cons field fields ih =>
    rw [List.foldl_cons, ih, lookup_mergeField]
    by_cases h : k = field.1
    · subst h
      simp [valuesOf]
    · simp [valuesOf, h, Ne.symm h]

def lastReported (values : List Json) : Option Json := (values.reverse.find? Json.isPositive).or values.head?

theorem find?_reverse_of_not_positive {values : List Json} (h : ∀ v ∈ values, v.isPositive = false) :
    values.reverse.find? Json.isPositive = none := by
  rw [List.find?_eq_none]
  intro v hv
  rw [h v (List.mem_reverse.mp hv)]
  exact Bool.false_ne_true

theorem lastReported_of_not_positive {values : List Json} (h : ∀ v ∈ values, v.isPositive = false) :
    lastReported values = values.head? := by
  rw [lastReported, find?_reverse_of_not_positive h, Option.none_or]

theorem foldl_keepValue (values : List Json) : values.foldl keepValue none = lastReported values := by
  induction values using List.reverseRecOn with
  | nil => rfl
  | append_singleton values v ih =>
    rw [List.foldl_append, ih, List.foldl_cons, List.foldl_nil, keepValue]
    by_cases hv : v.isPositive = true
    · simp [lastReported, hv]
    · cases values with
      | nil => simp [lastReported, hv]
      | cons w values =>
        have hne : lastReported (w :: values) ≠ none := by simp [lastReported]
        simp [lastReported, hv] at hne ⊢

end Merge

def reportedFields (events : List Json) : List (String × Json) :=
  (events.flatMap eventUsages).flatMap fun usage => usage.asObject.getD []

theorem mergeUsageFields_eq (acc : List (String × Json)) (usage : Json) :
    mergeUsageFields acc usage = (usage.asObject.getD []).foldl mergeField acc := by
  unfold mergeUsageFields
  cases usage.asObject <;> rfl

theorem mergeEvents_eq (events : List Json) : mergeEvents events = (reportedFields events).foldl mergeField [] := by
  rw [reportedFields, List.foldl_flatMap, List.foldl_flatMap]
  simp only [mergeEvents, ← mergeUsageFields_eq]

theorem lookup_mergeEvents (events : List Json) (k : String) :
    (mergeEvents events).lookup k = lastReported (valuesOf k (reportedFields events)) := by
  rw [mergeEvents_eq, lookup_foldl_mergeField, ← foldl_keepValue]
  rfl

theorem extractUsageFromSse_get (text : String) (k : String) :
    ((extractUsageFromSse serde (.utf8 text)).get "usage").bind (fun usage => usage.get k) =
      lastReported (valuesOf k (reportedFields (sseEvents serde text.toList))) := by
  rw [← lookup_mergeEvents]
  simp only [extractUsageFromSse]
  cases hm : mergeEvents (sseEvents serde text.toList) with
  | nil => rfl
  | cons field rest => rfl

end AgentProxy.Server
