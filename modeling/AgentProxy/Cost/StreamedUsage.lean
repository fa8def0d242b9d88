import AgentProxy.Cost.Usage
import AgentProxy.Server.Framing
import Mathlib.Data.List.Chain
import Mathlib.Order.Defs.LinearOrder

namespace AgentProxy.Cost

open Server Text

def tokenCount (n : UInt64) : Json := .num (.posInt n)

/-- The usage objects of the stream hold counters only, and the values reported for a counter never decrease. -/
def NeverDecreasing (events : List Json) : Prop :=
  ∀ k, ∃ ns : List UInt64, valuesOf k (reportedFields events) = ns.map tokenCount ∧ ns.IsChain (· ≤ ·)

section

variable {ns : List UInt64} {fields fields' : List (String × Json)}

theorem isPositive_tokenCount (n : UInt64) : (tokenCount n).isPositive = decide (0 < n) := rfl

theorem find?_reverse_of_zero (h : ∀ n ∈ ns, n = 0) : (ns.map tokenCount).reverse.find? Json.isPositive = none := by
  apply find?_reverse_of_not_positive
  intro v hv
  obtain ⟨n, hn, rfl⟩ := List.mem_map.mp hv
  rw [h n hn, isPositive_tokenCount]
  decide

theorem lastReported_of_chain (h : ns.IsChain (· ≤ ·)) :
    lastReported (ns.map tokenCount) = (ns.map tokenCount).getLast? := by
  rw [List.isChain_iff_pairwise] at h
  rcases List.eq_nil_or_concat' ns with rfl | ⟨ns, n, rfl⟩
  · rfl
  · rw [List.map_append, List.map_singleton, List.getLast?_concat]
    by_cases hn : 0 < n
    · have hpositive : (tokenCount n).isPositive = true := decide_eq_true hn
      simp [lastReported, hpositive]
    · -- the last value is 0, so all of them are
      have hzero : ∀ m ∈ ns ++ [n], m = 0 := by
        have hle : ∀ m ∈ ns ++ [n], m ≤ n := by
          rw [List.forall_mem_append]
          refine ⟨fun m hm => (List.pairwise_append.mp h).2.2 m hm n (List.mem_singleton_self n), ?_⟩
          simp
        intro m hm
        have hm' := UInt64.le_iff_toNat_le.mp (hle m hm)
        have hn' := UInt64.lt_iff_toNat_lt.not.mp hn
        apply UInt64.toNat_inj.mp
        rw [UInt64.toNat_zero] at hn' ⊢
        omega
      have hnone := find?_reverse_of_zero hzero
      rw [List.map_append, List.map_singleton] at hnone
      rw [lastReported, hnone, Option.none_or]
      cases ns with
      | nil => rfl
      | cons m ns =>
        have hm : m = n := by rw [hzero m (by simp), hzero n (by simp)]
        rw [hm]
        rfl

theorem extractUsage_congr (h : ∀ k, fields.lookup k = fields'.lookup k) (format : ApiFormat) :
    extractUsage (.obj [("usage", .obj fields)]) (some format) =
      extractUsage (.obj [("usage", .obj fields')]) (some format) := by
  have hget : ∀ k, (Json.obj fields).get k = (Json.obj fields').get k := h
  have husage : ∀ usage : Json, (Json.obj [("usage", usage)]).get "usage" = some usage := fun _ => rfl
  have hcounter : ∀ k, (Json.obj fields).counter k = (Json.obj fields').counter k := by
    intro k
    rw [Json.counter, Json.counter, hget]
  have hcached : ∀ details, cachedTokens (.obj fields) details = cachedTokens (.obj fields') details := by
    intro details
    rw [cachedTokens, cachedTokens, hget]
  have hchat : chatTokens (.obj fields) = chatTokens (.obj fields') := by
    rw [chatTokens, chatTokens, hget, hcounter, hcounter, hcounter, hcounter]
  cases format with
  | anthropicMessages => simp only [extractUsage, extractAnthropic, husage, hcounter]
  | openaiChat => simp only [extractUsage, extractOpenaiChat, husage, hchat, hcached]
  | openaiResponses => simp only [extractUsage, extractOpenaiResponses, husage, hcounter, hcached]

theorem extractUsage_null (format : ApiFormat) :
    extractUsage .null (some format) = extractUsage (.obj [("usage", .obj [])]) (some format) := by
  cases format with
  | anthropicMessages => rfl
  | openaiChat => rfl
  | openaiResponses => rfl

end

theorem streamed_usage_eq_last (serde : Serde) (text : String) (format : ApiFormat) (u : List (String × Json))
    (hcounters : NeverDecreasing (sseEvents serde text.toList))
    (hlast : ∀ k, u.lookup k = (valuesOf k (reportedFields (sseEvents serde text.toList))).getLast?) :
    extractUsage (extractUsageFromSse serde (.utf8 text)) (some format) =
      extractUsage (.obj [("usage", .obj u)]) (some format) := by
  have hsame : ∀ k, (mergeEvents (sseEvents serde text.toList)).lookup k = u.lookup k := by
    intro k
    obtain ⟨ns, hns, hchain⟩ := hcounters k
    rw [lookup_mergeEvents, hlast, hns, lastReported_of_chain hchain]
  rw [← extractUsage_congr hsame format]
  simp only [extractUsageFromSse]
  split
  · rename_i hempty
    rw [List.isEmpty_iff.mp hempty]
    exact extractUsage_null format
  · rfl

namespace Sample

def messageStart : Json :=
  .obj [("type", .str "message_start"),
    ("message", .obj [("usage", .obj [("input_tokens", tokenCount 25), ("output_tokens", tokenCount 1)])])]

def messageDelta : Json := .obj [("type", .str "message_delta"), ("usage", .obj [("output_tokens", tokenCount 15)])]

def streamSerde : Serde := AgentProxy.Sample.serdeOn [messageStart, messageDelta]

def stream : String :=
  "event: message_start\ndata: " ++ AgentProxy.Sample.compact messageStart ++ "\n\ndata:" ++
    AgentProxy.Sample.compact messageDelta ++ "\n\ndata: [DONE]\n"

def finalUsage : List (String × Json) := [("input_tokens", tokenCount 25), ("output_tokens", tokenCount 15)]

end Sample

theorem segmentEvent_object {documents : List Json} {v : Json} {fields : List (String × Json)} {lead : List Char}
    (hlead : lead = "data: ".toList ∨ lead = "data:".toList) (hv : v = .obj fields)
    (hfind : documents.find? (fun w => AgentProxy.Sample.compact w = AgentProxy.Sample.compact v) = some v) :
    segmentEvent (AgentProxy.Sample.serdeOn documents) (lead ++ (AgentProxy.Sample.compact v).toList) = some v := by
  obtain ⟨inner, htext⟩ : ∃ inner, (AgentProxy.Sample.compact v).toList = '\x7b' :: (inner ++ ['\x7d']) := by
    refine ⟨(",".intercalate (AgentProxy.Sample.compactFields fields)).toList, ?_⟩
    rw [hv, AgentProxy.Sample.compact, String.toList_append, String.toList_append]
    rfl
  have hdata : dataEvent (AgentProxy.Sample.serdeOn documents) (AgentProxy.Sample.compact v).toList = some v := by
    rw [dataEvent, if_neg, String.ofList_toList, AgentProxy.Sample.serdeOn]
    · simp only [hfind]
      rfl
    · rw [htext]
      rintro (h | h)
      · cases h
      · cases h
  rw [htext] at hdata ⊢
  have hkept : trimEnd ('\x7b' :: (inner ++ ['\x7d'])) = '\x7b' :: (inner ++ ['\x7d']) := by
    rw [← List.cons_append, trimEnd_append]
    rfl
  rcases hlead with rfl | rfl
  · have hspace := trimEnd_data (' ' :: '\x7b' :: (inner ++ ['\x7d']))
    rw [trimEnd_space, hkept, if_neg (List.cons_ne_nil _ _)] at hspace
    exact (segmentEvent_data hspace).trans hdata
  · have hplain := trimEnd_data ('\x7b' :: (inner ++ ['\x7d']))
    rw [hkept] at hplain
    exact (segmentEvent_data hplain).trans hdata

theorem sample_lines (start delta : String) :
    ("event: message_start\ndata: " ++ start ++ "\n\ndata:" ++ delta ++ "\n\ndata: [DONE]\n").toList =
      unlines ["event: message_start".toList, "data: ".toList ++ start.toList, [], "data:".toList ++ delta.toList, [],
        "data: [DONE]".toList] := by
  simp [unlines]

theorem sseEvents_sample :
    sseEvents Sample.streamSerde Sample.stream.toList = [Sample.messageStart, Sample.messageDelta] := by
  have hne : AgentProxy.Sample.compact Sample.messageStart ≠ AgentProxy.Sample.compact Sample.messageDelta := by
    decide +kernel
  have hstart : segmentEvent Sample.streamSerde
      ("data: ".toList ++ (AgentProxy.Sample.compact Sample.messageStart).toList) = some Sample.messageStart :=
    segmentEvent_object (.inl rfl) rfl (by simp [List.find?])
  have hdelta : segmentEvent Sample.streamSerde
      ("data:".toList ++ (AgentProxy.Sample.compact Sample.messageDelta).toList) = some Sample.messageDelta :=
    segmentEvent_object (.inr rfl) rfl (by simp [List.find?, hne])
  have hlines : Sample.stream.toList = unlines ["event: message_start".toList,
      "data: ".toList ++ (AgentProxy.Sample.compact Sample.messageStart).toList, [],
      "data:".toList ++ (AgentProxy.Sample.compact Sample.messageDelta).toList, [], "data: [DONE]".toList] := by
    exact sample_lines _ _
  have hevent : segmentEvent Sample.streamSerde "event: message_start".toList = none := rfl
  have hdone : segmentEvent Sample.streamSerde "data: [DONE]".toList = none := by decide +kernel
  rw [hlines, sseEvents_unlines, List.filterMap_cons_none hevent, List.filterMap_cons_some hstart,
    List.filterMap_cons_none segmentEvent_nil, List.filterMap_cons_some hdelta,
    List.filterMap_cons_none segmentEvent_nil, List.filterMap_cons_none hdone, List.filterMap_nil]
  decide +kernel

theorem reportedFields_sample :
    reportedFields (sseEvents Sample.streamSerde Sample.stream.toList) =
      [("input_tokens", tokenCount 25), ("output_tokens", tokenCount 1), ("output_tokens", tokenCount 15)] := by
  rw [sseEvents_sample]
  rfl

theorem streamed_usage_eq_last_anthropic :
    extractUsage (extractUsageFromSse Sample.streamSerde (.utf8 Sample.stream)) (some .anthropicMessages) =
      { inputTokens := 25, outputTokens := 15 } := by
  refine (streamed_usage_eq_last _ _ _ Sample.finalUsage ?_ ?_).trans rfl
  · intro k
    rw [reportedFields_sample]
    by_cases hinput : k = "input_tokens"
    · exact ⟨[25], by rw [hinput]; rfl, List.isChain_singleton _⟩
    by_cases houtput : k = "output_tokens"
    · exact ⟨[1, 15], by rw [houtput]; rfl, by decide⟩
    · exact ⟨[], by simp [valuesOf, Ne.symm hinput, Ne.symm houtput], List.isChain_nil⟩
  · intro k
    rw [reportedFields_sample]
    by_cases hinput : k = "input_tokens"
    · rw [hinput]
      rfl
    by_cases houtput : k = "output_tokens"
    · rw [houtput]
      rfl
    · simp [valuesOf, Sample.finalUsage, lookup_cons_ite, hinput, houtput, Ne.symm hinput, Ne.symm houtput]

end AgentProxy.Cost
