import AgentProxy.Cost.StreamedUsage

namespace AgentProxy.Cost

open Server Text

def detailsKey : ApiFormat → Option String
  | .anthropicMessages => none
  | .openaiChat => some "prompt_tokens_details"
  | .openaiResponses => some "input_tokens_details"

def cachedIn (details : Option Json) : UInt64 :=
  ((details.bind fun d => d.get "cached_tokens").bind Json.asU64).getD 0

/-- The values that the usage objects of a stream give for `key`, in the order of the stream. -/
def detailsReported (serde : Serde) (text : String) (key : String) : List Json :=
  valuesOf key (reportedFields (sseEvents serde text.toList))

def lastObject (values : List Json) : Option Json := values.reverse.find? fun v => v.asObject.isSome

section

variable {serde : Serde} {text key : String} {format : ApiFormat} {values : List Json}

theorem isPositive_of_null_or_object {v : Json} (h : v = .null ∨ ∃ fields, v = .obj fields) : v.isPositive = false := by
  rcases h with rfl | ⟨fields, rfl⟩
  · rfl
  · rfl

theorem cacheReadTokens_eq (hkey : detailsKey format = some key) (usage : Json) :
    (extractUsage (.obj [("usage", usage)]) (some format)).cacheReadTokens = cachedIn (usage.get key) := by
  cases format with
  | anthropicMessages => cases hkey
  | openaiChat =>
    cases hkey
    rfl
  | openaiResponses =>
    cases hkey
    rfl

theorem streamed_cacheReadTokens (hkey : detailsKey format = some key)
    (hdetails : ∀ v ∈ detailsReported serde text key, v = .null ∨ ∃ fields, v = .obj fields) :
    (extractUsage (extractUsageFromSse serde (.utf8 text)) (some format)).cacheReadTokens =
      cachedIn (detailsReported serde text key).head? := by
  have hfirst := lastReported_of_not_positive fun v hv => isPositive_of_null_or_object (hdetails v hv)
  rw [← hfirst, detailsReported, ← lookup_mergeEvents]
  simp only [extractUsageFromSse]
  split
  · rename_i hempty
    rw [List.isEmpty_iff.mp hempty, extractUsage_null, cacheReadTokens_eq hkey]
    rfl
  · exact cacheReadTokens_eq hkey _

end

theorem cached_tokens_follow_last_iff (serde : Serde) (text key : String) (format : ApiFormat)
    (hkey : detailsKey format = some key)
    (hdetails : ∀ v ∈ detailsReported serde text key, v = .null ∨ ∃ fields, v = .obj fields) :
    (extractUsage (extractUsageFromSse serde (.utf8 text)) (some format)).cacheReadTokens =
        cachedIn (lastObject (detailsReported serde text key)) ↔
      cachedIn (detailsReported serde text key).head? = cachedIn (lastObject (detailsReported serde text key)) := by
  rw [streamed_cacheReadTokens hkey hdetails]

namespace Sample

def chunk (details : Json) : Json :=
  .obj [("choices", .arr []), ("usage", .obj [("prompt_tokens", tokenCount 100), ("prompt_tokens_details", details)])]

def cached : Json := .obj [("cached_tokens", tokenCount 64)]

def chunkSerde : Serde := AgentProxy.Sample.serdeOn [chunk .null, chunk cached]

def chunks (details : List Json) : String :=
  String.ofList (unlines (details.map fun d => "data: ".toList ++ (AgentProxy.Sample.compact (chunk d)).toList))

end Sample

theorem segmentEvent_chunk {d : Json} (hd : d = .null ∨ d = Sample.cached) :
    segmentEvent Sample.chunkSerde ("data: ".toList ++ (AgentProxy.Sample.compact (Sample.chunk d)).toList) =
      some (Sample.chunk d) := by
  have hne : AgentProxy.Sample.compact (Sample.chunk .null) ≠ AgentProxy.Sample.compact (Sample.chunk Sample.cached) := by
    decide +kernel
  have hfind : [Sample.chunk .null, Sample.chunk Sample.cached].find?
      (fun w => AgentProxy.Sample.compact w = AgentProxy.Sample.compact (Sample.chunk d)) = some (Sample.chunk d) := by
    rcases hd with rfl | rfl
    · simp [List.find?]
    · simp [List.find?, hne]
  exact segmentEvent_object (.inl rfl) rfl hfind

theorem sseEvents_chunks {details : List Json} (h : ∀ d ∈ details, d = .null ∨ d = Sample.cached) :
    sseEvents Sample.chunkSerde (Sample.chunks details).toList = details.map Sample.chunk := by
  have hlines : ∀ d, d = .null ∨ d = Sample.cached →
      '\n' ∉ "data: ".toList ++ (AgentProxy.Sample.compact (Sample.chunk d)).toList := by
    rintro d (rfl | rfl)
    · decide +kernel
    · decide +kernel
  rw [Sample.chunks, String.toList_ofList, sseEvents_unlines]
  · rw [List.filterMap_map, ← List.filterMap_eq_map]
    exact List.filterMap_congr fun d hd => segmentEvent_chunk (h d hd)
  · intro l hl
    obtain ⟨d, hd, rfl⟩ := List.mem_map.mp hl
    exact hlines d (h d hd)

theorem cached_tokens_follow_last_object_first :
    (extractUsage (extractUsageFromSse Sample.chunkSerde (.utf8 (Sample.chunks [Sample.cached, .null])))
      (some .openaiChat)).cacheReadTokens = 64 := by
  have hvalues : detailsReported Sample.chunkSerde (Sample.chunks [Sample.cached, .null]) "prompt_tokens_details" =
      [Sample.cached, .null] := by
    rw [detailsReported, sseEvents_chunks (by simp)]
    rfl
  have hiff := cached_tokens_follow_last_iff Sample.chunkSerde (Sample.chunks [Sample.cached, .null])
    "prompt_tokens_details" .openaiChat rfl (by rw [hvalues]; simp [Sample.cached])
  rw [hvalues] at hiff
  exact hiff.mpr rfl

theorem null_details_hide_cached_tokens :
    (∀ v ∈ detailsReported Sample.chunkSerde (Sample.chunks [.null, Sample.cached]) "prompt_tokens_details",
      v = .null ∨ ∃ fields, v = .obj fields) ∧
    (extractUsage (extractUsageFromSse Sample.chunkSerde (.utf8 (Sample.chunks [.null, Sample.cached])))
      (some .openaiChat)).cacheReadTokens ≠
      cachedIn (lastObject (detailsReported Sample.chunkSerde (Sample.chunks [.null, Sample.cached])
        "prompt_tokens_details")) := by
  have hevents : sseEvents Sample.chunkSerde (Sample.chunks [.null, Sample.cached]).toList =
      [Sample.chunk .null, Sample.chunk Sample.cached] := sseEvents_chunks (by simp)
  have hvalues : detailsReported Sample.chunkSerde (Sample.chunks [.null, Sample.cached]) "prompt_tokens_details" =
      [.null, Sample.cached] := by
    rw [detailsReported, hevents]
    rfl
  have hextracted : (extractUsage (extractUsageFromSse Sample.chunkSerde (.utf8 (Sample.chunks [.null, Sample.cached])))
      (some .openaiChat)).cacheReadTokens = 0 := by
    simp only [extractUsageFromSse, hevents]
    rfl
  have hlast : cachedIn (lastObject [.null, Sample.cached]) = 64 := rfl
  rw [hvalues, hextracted, hlast]
  refine ⟨by simp [Sample.cached], by decide⟩

end AgentProxy.Cost
