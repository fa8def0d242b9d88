import AgentProxy.Lib.Lines
import AgentProxy.Server.Sse
import Mathlib.Logic.Relation

namespace AgentProxy.Server

open Text

def LineStart (before : List Char) : Prop := before = [] ∨ ∃ text, before = text ++ ['\n']

def LineEnd (after : List Char) : Prop :=
  after = [] ∨ (∃ text, after = '\n' :: text) ∨ ∃ text, after = '\r' :: '\n' :: text

/-- One rewrite of the framing of a text, read from left to right or from right to left. -/
inductive Reframed : List Char → List Char → Prop where
  | space {before field rest : List Char} (hfield : field = "data:".toList ∨ field = "event:".toList)
      (hstart : LineStart before) : Reframed (before ++ field ++ rest) (before ++ field ++ ' ' :: rest)
  | trailing {before blank after : List Char} (hblank : ∀ c ∈ blank, isWhitespace c = true ∧ c ≠ '\n')
      (hend : LineEnd after) : Reframed (before ++ after) (before ++ blank ++ after)
  | crlf {before after : List Char} : Reframed (before ++ '\n' :: after) (before ++ '\r' :: '\n' :: after)
  | line {before line after : List Char} (hstart : LineStart before) (hline : '\n' ∉ line)
      (hdata : ¬ "data:".toList <+: line) : Reframed (before ++ after) (before ++ line ++ '\n' :: after)
  | lastLine {before line : List Char} (hline : '\n' ∉ line) (hdata : ¬ "data:".toList <+: line) :
      Reframed before (before ++ '\n' :: line)

/-- JSON text may start with blanks, and the end marker of a stream is not JSON. -/
structure ReadsJson (serde : Serde) : Prop where
  space : ∀ s, (serde.value (" " ++ s)).toOption = (serde.value s).toOption
  done : (serde.value "[DONE]").toOption = none

section

variable {serde : Serde} {l : List Char}

def segmentEvent (serde : Serde) (l : List Char) : Option Json := lineEvent serde (normalizeLine l)

theorem normalizeLine_congr {l l' : List Char} (h : trimEnd l = trimEnd l') : normalizeLine l = normalizeLine l' := by
  simp only [normalizeLine, h]

theorem stripPrefix?_append (p s : List Char) : stripPrefix? p (p ++ s) = some s := by
  rw [stripPrefix?, if_pos (List.isPrefixOf_iff_prefix.mpr (List.prefix_append p s)), List.drop_left]

theorem stripPrefix?_eq_none {p s : List Char} : stripPrefix? p s = none ↔ ¬ p <+: s := by
  simp [stripPrefix?]

theorem stripPrefix?_eq_some {p s rest : List Char} : stripPrefix? p s = some rest ↔ s = p ++ rest := by
  constructor
  · intro h
    rw [stripPrefix?] at h
    split at h
    · rename_i hp
      obtain ⟨t, rfl⟩ := List.isPrefixOf_iff_prefix.mp hp
      rw [List.drop_left] at h
      rw [Option.some.inj h]
    · cases h
  · rintro rfl
    exact stripPrefix?_append p rest

theorem normalizeLine_suffix (l : List Char) :
    ∃ field rest, normalizeLine l = field ++ rest ∧ rest <:+ trimEnd l ∧
      field ∈ [[], "data: ".toList, "event: ".toList] := by
  have hkept : ∃ field rest, trimEnd l = field ++ rest ∧ rest <:+ trimEnd l ∧
      field ∈ [[], "data: ".toList, "event: ".toList] := ⟨[], trimEnd l, rfl, List.suffix_refl _, by simp⟩
  simp only [normalizeLine]
  split
  · rename_i rest h
    split
    · exact hkept
    · exact ⟨_, rest, rfl, ⟨_, (stripPrefix?_eq_some.mp h).symm⟩, by simp⟩
  · split
    · rename_i rest h
      split
      · exact hkept
      · exact ⟨_, rest, rfl, ⟨_, (stripPrefix?_eq_some.mp h).symm⟩, by simp⟩
    · exact hkept

theorem normalizeLine_framed (hl : '\n' ∉ l) :
    '\n' ∉ normalizeLine l ∧ (normalizeLine l).getLast? ≠ some '\r' := by
  obtain ⟨field, rest, hline, hrest, hfield⟩ := normalizeLine_suffix l
  obtain ⟨w, hw, -⟩ := trimEnd_split l
  have hrestline : '\n' ∉ rest := by
    intro hmem
    apply hl
    rw [hw]
    exact List.mem_append_left w (hrest.subset hmem)
  have hfields : ∀ field ∈ [[], "data: ".toList, "event: ".toList],
      '\n' ∉ field ∧ field.getLast? ≠ some '\r' := by decide
  obtain ⟨hfieldline, hfieldlast⟩ := hfields field hfield
  rw [hline, List.mem_append]
  refine ⟨fun h => h.elim hfieldline hrestline, ?_⟩
  by_cases hempty : rest = []
  · rwa [hempty, List.append_nil]
  · obtain ⟨t, ht⟩ := hrest
    rw [List.getLast?_append_of_ne_nil _ hempty]
    intro hlast
    have hblank : isWhitespace '\r' = false := by
      apply trimEnd_getLast? l
      rw [← ht, List.getLast?_append_of_ne_nil _ hempty, hlast]
    exact absurd hblank (by decide)

theorem segmentEvent_nil : segmentEvent serde [] = none := rfl

theorem sseEvents_eq (text : List Char) :
    sseEvents serde text = (text.splitOn '\n').filterMap (segmentEvent serde) := by
  rw [sseEvents, normalizeSseFormat, filterMap_lines_intercalate rfl, List.filterMap_map, filterMap_lines]
  · rfl
  · intro l l' h
    simp only [Function.comp_apply, normalizeLine_congr h]
  · rfl
  · intro m hm
    obtain ⟨l, hl, rfl⟩ := List.mem_map.mp hm
    exact normalizeLine_framed (not_mem_of_mem_lines hl)

theorem segmentEvent_congr {l l' : List Char} (h : trimEnd l = trimEnd l') :
    segmentEvent serde l = segmentEvent serde l' := by
  rw [segmentEvent, segmentEvent, normalizeLine_congr h]

theorem segmentEvent_of_not_data (h : ¬ "data:".toList <+: l) : segmentEvent serde l = none := by
  obtain ⟨w, hw, -⟩ := trimEnd_split l
  have hdata : stripPrefix? "data:".toList (trimEnd l) = none := by
    rw [stripPrefix?_eq_none]
    intro hstart
    apply h
    rw [hw]
    exact hstart.trans (List.prefix_append _ w)
  have hnone : ∀ m, ¬ "data:".toList <+: m → lineEvent serde m = none := by
    intro m hm
    have hspace : stripPrefix? "data: ".toList m = none := by
      rw [stripPrefix?_eq_none]
      exact fun hstart => hm (List.IsPrefix.trans ⟨[' '], rfl⟩ hstart)
    simp only [lineEvent, hspace, Option.bind_eq_bind, Option.bind_none]
  simp only [segmentEvent, normalizeLine, hdata]
  rw [stripPrefix?_eq_none] at hdata
  split
  · split
    · exact hnone _ hdata
    · apply hnone
      rintro ⟨t, ht⟩
      cases ht
  · exact hnone _ hdata

def dropSpace : List Char → List Char
  | ' ' :: rest => rest
  | rest => rest

def dataEvent (serde : Serde) (data : List Char) : Option Json :=
  if data.isEmpty ∨ data = "[DONE]".toList then none else (serde.value (String.ofList data)).toOption

theorem segmentEvent_data {rest : List Char} (h : trimEnd l = "data:".toList ++ rest) :
    segmentEvent serde l = dataEvent serde (dropSpace rest) := by
  have hline : normalizeLine l = "data: ".toList ++ dropSpace rest := by
    simp only [normalizeLine, h, stripPrefix?_append]
    rcases rest with _ | ⟨c, rest⟩
    · rfl
    · by_cases hc : c = ' '
      · subst hc
        rfl
      · have hfirst : [' '].isPrefixOf (c :: rest) = false := by simp [List.isPrefixOf, Ne.symm hc]
        have hdrop : dropSpace (c :: rest) = c :: rest := by simp [dropSpace, hc]
        rw [hfirst, hdrop]
        rfl
  rw [segmentEvent, hline, lineEvent, stripPrefix?_append]
  rfl

theorem dataEvent_space (hserde : ReadsJson serde) {data : List Char} (hne : data ≠ []) :
    dataEvent serde (' ' :: data) = dataEvent serde data := by
  have hspace := hserde.space (String.ofList data)
  have htext : String.ofList (' ' :: data) = " " ++ String.ofList data := by
    apply String.toList_injective
    simp
  have hblank : ¬ ((' ' :: data).isEmpty ∨ ' ' :: data = "[DONE]".toList) := by
    rintro (h | h)
    · cases h
    · cases h
  rw [dataEvent, dataEvent, if_neg hblank, htext, hspace]
  split
  · rename_i h
    rcases h with h | rfl
    · exact absurd (List.isEmpty_iff.mp h) hne
    · exact hserde.done
  · rfl

theorem trimEnd_data (rest : List Char) : trimEnd ("data:".toList ++ rest) = "data:".toList ++ trimEnd rest := by
  rw [trimEnd_append]
  split
  · rename_i h
    rw [h]
    rfl
  · rfl

theorem trimEnd_space (rest : List Char) :
    trimEnd (' ' :: rest) = if trimEnd rest = [] then [] else ' ' :: trimEnd rest :=
  trimEnd_append [' '] rest

theorem segmentEvent_space (hserde : ReadsJson serde) (rest : List Char) :
    segmentEvent serde ("data:".toList ++ ' ' :: rest) = segmentEvent serde ("data:".toList ++ rest) := by
  have hspace := trimEnd_data (' ' :: rest)
  rw [trimEnd_space] at hspace
  rw [segmentEvent_data hspace, segmentEvent_data (trimEnd_data rest)]
  split
  · rename_i h
    rw [h]
  · rename_i h
    change dataEvent serde (trimEnd rest) = _
    rcases hrest : trimEnd rest with _ | ⟨c, data⟩
    · exact absurd hrest h
    · by_cases hc : c = ' '
      · subst hc
        have hne : data ≠ [] := by
          rintro rfl
          have hblank : isWhitespace ' ' = false := trimEnd_getLast? rest (by rw [hrest]; rfl)
          exact absurd hblank (by decide)
        exact dataEvent_space hserde hne
      · have hdrop : dropSpace (c :: data) = c :: data := by simp [dropSpace, hc]
        rw [hdrop]

theorem sseEvents_append (a b : List Char) :
    sseEvents serde (a ++ '\n' :: b) = sseEvents serde a ++ sseEvents serde b := by
  rw [sseEvents_eq, sseEvents_eq, sseEvents_eq, List.splitOn_append_cons_self, List.filterMap_append]

theorem sseEvents_unlines {ls : List (List Char)} (hls : ∀ l ∈ ls, '\n' ∉ l) :
    sseEvents serde (unlines ls) = ls.filterMap (segmentEvent serde) := by
  have hsplit := splitOn_unlines_append hls List.not_mem_nil
  rw [List.append_nil] at hsplit
  rw [sseEvents_eq, hsplit, List.filterMap_append, List.filterMap_cons_none segmentEvent_nil, List.filterMap_nil,
    List.append_nil]

theorem sseEvents_line (hl : '\n' ∉ l) : sseEvents serde l = (segmentEvent serde l).toList := by
  rw [sseEvents_eq, List.splitOn_eq_singleton hl]
  rcases h : segmentEvent serde l with _ | event
  · exact List.filterMap_cons_none h
  · exact List.filterMap_cons_some h

theorem sseEvents_of_not_data (hl : '\n' ∉ l) (h : ¬ "data:".toList <+: l) : sseEvents serde l = [] := by
  rw [sseEvents_line hl, segmentEvent_of_not_data h]
  rfl

theorem sseEvents_lineStart {before : List Char} (h : LineStart before) (rest : List Char) :
    sseEvents serde (before ++ rest) = sseEvents serde before ++ sseEvents serde rest := by
  rcases h with rfl | ⟨text, rfl⟩
  · rfl
  · have hnil : sseEvents serde [] = [] := rfl
    rw [List.append_assoc, List.singleton_append, sseEvents_append, sseEvents_append, hnil, List.append_nil]

/-- Only the first line of a text is read together with what stands before it on the line. -/
theorem sseEvents_firstLine {x y : List Char} (hx : '\n' ∉ x) (hy : '\n' ∉ y)
    (h : ∀ p, segmentEvent serde (x ++ p) = segmentEvent serde (y ++ p)) (rest : List Char) :
    sseEvents serde (x ++ rest) = sseEvents serde (y ++ rest) := by
  have hline : ∀ p, '\n' ∉ p → sseEvents serde (x ++ p) = sseEvents serde (y ++ p) := by
    intro p hp
    rw [sseEvents_line (by simp [hx, hp]), sseEvents_line (by simp [hy, hp]), h]
  by_cases hrest : '\n' ∈ rest
  · obtain ⟨p, b, rfl, hp⟩ := List.eq_append_cons_of_mem hrest
    rw [← List.append_assoc, ← List.append_assoc, sseEvents_append, sseEvents_append, hline p hp]
  · exact hline rest hrest

theorem sseEvents_blank (before : List Char) {blank : List Char}
    (hblank : ∀ c ∈ blank, isWhitespace c = true ∧ c ≠ '\n') :
    sseEvents serde (before ++ blank) = sseEvents serde before := by
  obtain ⟨ls, p, rfl, hls, hp⟩ := exists_unlines_append before
  have hline : '\n' ∉ p ++ blank := by
    rw [List.mem_append]
    rintro (h | h)
    · exact hp h
    · exact (hblank _ h).2 rfl
  have hevent : segmentEvent serde (p ++ blank) = segmentEvent serde p :=
    segmentEvent_congr (trimEnd_append_whitespace p fun c hc => (hblank c hc).1)
  rw [List.append_assoc, sseEvents_eq, sseEvents_eq, splitOn_unlines_append hls hline, splitOn_unlines_append hls hp,
    List.filterMap_append, List.filterMap_append, List.filterMap_cons, List.filterMap_cons, hevent]

theorem return_blank : ∀ c ∈ ['\r'], isWhitespace c = true ∧ c ≠ '\n' := by
  intro c hc
  rw [List.mem_singleton.mp hc]
  decide

theorem sseEvents_trailing {before blank after : List Char}
    (hblank : ∀ c ∈ blank, isWhitespace c = true ∧ c ≠ '\n') (hend : LineEnd after) :
    sseEvents serde (before ++ after) = sseEvents serde (before ++ blank ++ after) := by
  rcases hend with rfl | ⟨text, rfl⟩ | ⟨text, rfl⟩
  · rw [List.append_nil, List.append_nil, sseEvents_blank before hblank]
  · rw [sseEvents_append, sseEvents_append, sseEvents_blank before hblank]
  · have hsplit : ∀ a : List Char, a ++ '\r' :: '\n' :: text = a ++ ['\r'] ++ '\n' :: text := by simp
    rw [hsplit, hsplit, sseEvents_append, sseEvents_append, sseEvents_blank _ return_blank, sseEvents_blank _ return_blank,
      sseEvents_blank before hblank]

theorem sseEvents_space (hserde : ReadsJson serde) {field : List Char}
    (hfield : field = "data:".toList ∨ field = "event:".toList) (rest : List Char) :
    sseEvents serde (field ++ rest) = sseEvents serde (field ++ ' ' :: rest) := by
  have hsplit : field ++ ' ' :: rest = field ++ [' '] ++ rest := by simp
  rw [hsplit]
  rcases hfield with rfl | rfl
  · apply sseEvents_firstLine (by decide) (by decide)
    intro p
    rw [List.append_assoc]
    exact (segmentEvent_space hserde p).symm
  · have hevent : ∀ p, ¬ "data:".toList <+: "event:".toList ++ p := by
      rintro p ⟨t, ht⟩
      cases ht
    apply sseEvents_firstLine (by decide) (by decide)
    intro p
    rw [List.append_assoc, segmentEvent_of_not_data (hevent _), segmentEvent_of_not_data (hevent _)]

theorem sseEvents_reframed (hserde : ReadsJson serde) {s t : List Char} (h : Reframed s t) :
    sseEvents serde s = sseEvents serde t := by
  cases h with
  | space hfield hstart =>
    rw [List.append_assoc, List.append_assoc, sseEvents_lineStart hstart, sseEvents_lineStart hstart,
      sseEvents_space hserde hfield]
  | trailing hblank hend => exact sseEvents_trailing hblank hend
  | @crlf before after =>
    have h := @sseEvents_trailing serde before _ _ return_blank (.inr (.inl ⟨after, rfl⟩))
    rwa [List.append_assoc, List.singleton_append] at h
  | line hstart hline hdata =>
    rw [List.append_assoc, sseEvents_lineStart hstart, sseEvents_lineStart hstart, sseEvents_append,
      sseEvents_of_not_data hline hdata, List.nil_append]
  | lastLine hline hdata => rw [sseEvents_append, sseEvents_of_not_data hline hdata, List.append_nil]

end

theorem framing_irrelevant (serde : Serde) (hserde : ReadsJson serde) (s t : String)
    (h : Relation.EqvGen Reframed s.toList t.toList) :
    extractUsageFromSse serde (.utf8 s) = extractUsageFromSse serde (.utf8 t) := by
  have hevents : ∀ {a b : List Char}, Relation.EqvGen Reframed a b → sseEvents serde a = sseEvents serde b := by
    intro a b hab
    induction hab with
    | rel a b hab => exact sseEvents_reframed hserde hab
    | refl a => rfl
    | symm a b _ ih => exact ih.symm
    | trans a b c _ _ hab hbc => exact hab.trans hbc
  simp only [extractUsageFromSse, hevents h]

namespace Sample

def usageDocument : Json := .obj [("usage", .obj [("output_tokens", .num (.posInt 7))])]

def blankSerde : Serde :=
  { AgentProxy.Sample.serdeOn [usageDocument] with
    value := fun s =>
      (AgentProxy.Sample.serdeOn [usageDocument]).value (String.ofList (s.toList.dropWhile (· = ' '))) }

def text : List Char := (AgentProxy.Sample.compact usageDocument).toList

end Sample

theorem blankSerde_readsJson : ReadsJson Sample.blankSerde := by
  constructor
  · intro s
    simp only [Sample.blankSerde, String.toList_append]
    rfl
  · decide +kernel

theorem framing_irrelevant_crlf :
    extractUsageFromSse Sample.blankSerde (.utf8 (String.ofList ("data:".toList ++ Sample.text ++ ['\r', '\n']))) =
      extractUsageFromSse Sample.blankSerde (.utf8 (String.ofList ("data: ".toList ++ Sample.text ++ ['\n']))) := by
  apply framing_irrelevant Sample.blankSerde blankSerde_readsJson
  rw [String.toList_ofList, String.toList_ofList]
  have hspace : Reframed ("data:".toList ++ Sample.text ++ ['\n']) ("data: ".toList ++ Sample.text ++ ['\n']) :=
    @Reframed.space [] "data:".toList (Sample.text ++ ['\n']) (.inl rfl) (.inl rfl)
  exact .trans _ _ _ (.symm _ _ (.rel _ _ .crlf)) (.rel _ _ hspace)

end AgentProxy.Server
