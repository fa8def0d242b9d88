import AgentProxy.Lib.Text
import Mathlib.Data.List.TakeWhile

namespace AgentProxy.Text

theorem trimEnd_split (s : List Char) : ∃ w, s = trimEnd s ++ w ∧ ∀ c ∈ w, isWhitespace c = true := by
  refine ⟨(s.reverse.takeWhile isWhitespace).reverse, ?_, fun c hc => ?_⟩
  · rw [trimEnd, ← List.reverse_append, List.takeWhile_append_dropWhile, List.reverse_reverse]
  · exact List.mem_takeWhile_imp (List.mem_reverse.mp hc)

theorem trimEnd_append (s t : List Char) : trimEnd (s ++ t) = if trimEnd t = [] then trimEnd s else s ++ trimEnd t := by
  simp only [trimEnd, List.reverse_append, List.dropWhile_append, List.reverse_eq_nil_iff, List.isEmpty_iff]
  split
  · rfl
  · rw [List.reverse_append, List.reverse_reverse]

theorem trimEnd_eq_nil_iff {s : List Char} : trimEnd s = [] ↔ ∀ c ∈ s, isWhitespace c = true := by
  rw [trimEnd, List.reverse_eq_nil_iff, List.dropWhile_eq_nil_iff]
  simp only [List.mem_reverse]

theorem trimStart_eq_nil_iff {s : List Char} : trimStart s = [] ↔ ∀ c ∈ s, isWhitespace c = true :=
  List.dropWhile_eq_nil_iff

theorem trimStart_append {s : List Char} (h : trimStart s ≠ []) (t : List Char) :
    trimStart (s ++ t) = trimStart s ++ t := by
  rw [trimStart, List.dropWhile_append, if_neg]
  · rfl
  · rwa [List.isEmpty_iff]

theorem trim_append_whitespace (s : List Char) {t : List Char} (ht : ∀ c ∈ t, isWhitespace c = true) :
    trim (s ++ t) = trim s := by
  by_cases hs : trimStart s = []
  · have hall : ∀ c ∈ s ++ t, isWhitespace c = true := List.forall_mem_append.mpr ⟨trimStart_eq_nil_iff.mp hs, ht⟩
    rw [trim, trim, hs, trimStart_eq_nil_iff.mpr hall]
  · rw [trim, trim, trimStart_append hs, trimEnd_append, if_pos (trimEnd_eq_nil_iff.mpr ht)]

theorem trim_of_ends {c d : Char} (hc : isWhitespace c = false) (hd : isWhitespace d = false) (mid : List Char) :
    trim (c :: (mid ++ [d])) = c :: (mid ++ [d]) := by
  have hstart : trimStart (c :: (mid ++ [d])) = c :: (mid ++ [d]) := by simp [trimStart, hc]
  have hend : trimEnd (c :: (mid ++ [d])) = c :: (mid ++ [d]) := by simp [trimEnd, hd]
  rw [trim, hstart, hend]

/-- What follows a text that is not blank is either dropped or stands after it in the trimmed whole. -/
theorem trim_append {s : List Char} (hs : trim s ≠ []) (t : List Char) :
    ∃ more, trim (s ++ t) = trim s ++ more ∧
      ((∀ c ∈ more, isWhitespace c = true) → ∀ c ∈ t, isWhitespace c = true) := by
  have hstart : trimStart s ≠ [] := by
    intro h
    rw [trim, h] at hs
    exact hs rfl
  rw [trim, trim, trimStart_append hstart, trimEnd_append]
  split
  · rename_i ht
    exact ⟨[], (List.append_nil _).symm, fun _ => trimEnd_eq_nil_iff.mp ht⟩
  · obtain ⟨w, hw, -⟩ := trimEnd_split (trimStart s)
    obtain ⟨v, hv, hblank⟩ := trimEnd_split t
    refine ⟨w ++ trimEnd t, ?_, fun hmore => ?_⟩
    · rw [← List.append_assoc, ← hw]
    · rw [List.forall_mem_append] at hmore
      rw [hv, List.forall_mem_append]
      exact ⟨hmore.2, hblank⟩

theorem stripEol_split (l : List Char) : ∃ w, l = stripEol l ++ w ∧ ∀ c ∈ w, isWhitespace c = true := by
  unfold stripEol
  split
  · rename_i rest h
    have hblank : ['\r', '\n'].all isWhitespace = true := by decide
    refine ⟨['\r', '\n'], ?_, List.all_eq_true.mp hblank⟩
    rw [← List.reverse_reverse l, h]
    simp
  · rename_i rest h
    have hblank : ['\n'].all isWhitespace = true := by decide
    refine ⟨['\n'], ?_, List.all_eq_true.mp hblank⟩
    rw [← List.reverse_reverse l, h]
    simp
  · exact ⟨[], (List.append_nil l).symm, by simp⟩

/-- The text after the last line break. -/
def unfinished (s : List Char) : List Char := (s.reverse.takeWhile (· ≠ '\n')).reverse

theorem exists_unlines_append (s : List Char) : ∃ ls p, s = unlines ls ++ p ∧ (∀ l ∈ ls, '\n' ∉ l) ∧ '\n' ∉ p := by
  induction s with
  | nil => exact ⟨[], [], rfl, by simp, by simp⟩
  | cons c s ih =>
    obtain ⟨ls, p, rfl, hls, hp⟩ := ih
    by_cases hc : c = '\n'
    · refine ⟨[] :: ls, p, ?_, ?_, hp⟩
      · rw [hc]
        rfl
      · exact List.forall_mem_cons.mpr ⟨List.not_mem_nil, hls⟩
    · cases ls with
      | nil => exact ⟨[], c :: p, rfl, hls, by simp [hp, Ne.symm hc]⟩
      | cons l ls =>
        rw [List.forall_mem_cons] at hls
        refine ⟨(c :: l) :: ls, p, rfl, List.forall_mem_cons.mpr ⟨?_, hls.2⟩, hp⟩
        simp [hls.1, Ne.symm hc]

theorem unfinished_unlines_append (ls : List (List Char)) {p : List Char} (hp : '\n' ∉ p) :
    unfinished (unlines ls ++ p) = p := by
  have hall : ∀ c ∈ p.reverse, decide (c ≠ '\n') = true := by
    intro c hc
    simp only [decide_eq_true_eq]
    rintro rfl
    exact hp (List.mem_reverse.mp hc)
  rw [unfinished, List.reverse_append, List.takeWhile_append_of_pos hall]
  rcases List.eq_nil_or_concat ls with rfl | ⟨ls, l, rfl⟩
  · simp [unlines]
  · simp [unlines]

theorem splitInclusive_unlines_append {ls : List (List Char)} (h : ∀ l ∈ ls, '\n' ∉ l) (s : List Char) :
    splitInclusive (unlines ls ++ s) = ls.map (· ++ ['\n']) ++ splitInclusive s := by
  induction ls with
  | nil => rfl
  | cons l ls ih =>
    rw [List.forall_mem_cons] at h
    have hsplit := splitInclusive_line h.1 (unlines ls ++ s)
    rw [ih h.2] at hsplit
    simpa [unlines] using hsplit

theorem splitInclusive_of_not_mem {p : List Char} (h : '\n' ∉ p) : splitInclusive p = if p = [] then [] else [p] := by
  induction p with
  | nil => rfl
  | cons c p ih =>
    have hc : c ≠ '\n' := fun hc => h (hc ▸ List.mem_cons_self)
    rw [splitInclusive, if_neg hc, ih fun hp => h (List.mem_cons_of_mem _ hp), if_neg (List.cons_ne_nil c p)]
    split
    · rename_i hnil
      split at hnil
      · rename_i hp
        rw [hp]
      · cases hnil
    · rename_i hcons
      split at hcons
      · cases hcons
      · cases hcons
        rfl

/-- An unfinished line goes on with what is appended, up to its first line break. -/
theorem splitInclusive_grow {p : List Char} (hp : '\n' ∉ p) (hne : p ≠ []) (t : List Char) :
    ∃ q more, splitInclusive (p ++ t) = (p ++ q) :: more := by
  obtain ⟨ms, q, rfl, hms, hq⟩ := exists_unlines_append t
  cases ms with
  | nil =>
    have hpq : '\n' ∉ p ++ q := by simp [hp, hq]
    refine ⟨q, [], ?_⟩
    rw [unlines, List.flatMap_nil, List.nil_append, splitInclusive_of_not_mem hpq, if_neg (by simp [hne])]
  | cons m ms =>
    have hpm : '\n' ∉ p ++ m := by simp [hp, hms m List.mem_cons_self]
    refine ⟨m ++ ['\n'], splitInclusive (unlines ms ++ q), ?_⟩
    have hline := splitInclusive_line hpm (unlines ms ++ q)
    simpa [unlines] using hline

theorem lineOffsets_unlines_append {ls : List (List Char)} (h : ∀ l ∈ ls, '\n' ∉ l) (s : List Char) :
    lineOffsets (unlines ls ++ s) =
      lineOffsets (unlines ls) ++ linesFrom (byteLen (unlines ls)) (splitInclusive s) := by
  rw [lineOffsets, lineOffsets, splitInclusive_unlines_append h, splitInclusive_unlines h, linesFrom_append,
    Nat.zero_add]
  rfl

theorem lineOffsets_lt (s : List Char) :
    (∀ line ∈ lineOffsets s, line.1 < byteLen s) ∧ (lineOffsets s).Pairwise fun a b => a.1 < b.1 := by
  obtain ⟨ls, p, rfl, hls, hp⟩ := exists_unlines_append s
  have hflatten : (splitInclusive (unlines ls ++ p)).flatten = unlines ls ++ p := by
    rw [splitInclusive_unlines_append hls, splitInclusive_of_not_mem hp, List.flatten_append]
    split
    · rename_i hnil
      rw [hnil]
      rfl
    · rw [List.flatten_singleton]
      rfl
  have hne : ∀ piece ∈ splitInclusive (unlines ls ++ p), piece ≠ [] := by
    rw [splitInclusive_unlines_append hls, splitInclusive_of_not_mem hp]
    split
    · simp
    · rename_i hp
      simp [hp, or_imp, forall_and]
  have h := linesFrom_lt 0 hne
  rwa [hflatten, Nat.zero_add] at h

theorem eq_of_byteLen_eq {a b c d : List Char} (h : a ++ b = c ++ d) (hlen : byteLen a = byteLen c) : a = c := by
  have hnil : ∀ {s t : List Char}, byteLen (s ++ t) = byteLen s → t = [] := by
    intro s t heq
    by_contra hne
    have hpos := byteLen_pos hne
    rw [byteLen_append] at heq
    omega
  have hstart : a <+: c ++ d := h ▸ List.prefix_append a b
  rcases List.prefix_or_prefix_of_prefix hstart (List.prefix_append c d) with ⟨rest, rfl⟩ | ⟨rest, rfl⟩
  · rw [hnil hlen.symm, List.append_nil]
  · rw [hnil hlen, List.append_nil]

theorem trimEnd_append_whitespace (s : List Char) {w : List Char} (hw : ∀ c ∈ w, isWhitespace c = true) :
    trimEnd (s ++ w) = trimEnd s := by
  rw [trimEnd_append, if_pos (trimEnd_eq_nil_iff.mpr hw)]

theorem trimEnd_stripEol (l : List Char) : trimEnd (stripEol l) = trimEnd l := by
  obtain ⟨w, hw, hblank⟩ := stripEol_split l
  have h := trimEnd_append_whitespace (stripEol l) hblank
  rw [← hw] at h
  exact h.symm

theorem trimEnd_getLast? (s : List Char) {c : Char} (h : (trimEnd s).getLast? = some c) : isWhitespace c = false := by
  have hhead := List.head?_dropWhile_not isWhitespace s.reverse
  rw [trimEnd, List.getLast?_reverse] at h
  rwa [h] at hhead

theorem splitOn_unlines_append {ls : List (List Char)} (hls : ∀ l ∈ ls, '\n' ∉ l) {p : List Char} (hp : '\n' ∉ p) :
    (unlines ls ++ p).splitOn '\n' = ls ++ [p] := by
  induction ls with
  | nil => exact List.splitOn_eq_singleton hp
  | cons l ls ih =>
    rw [List.forall_mem_cons] at hls
    have hsplit := List.splitOn_append_cons_self_of_not_mem hls.1 (unlines ls ++ p)
    rw [ih hls.2] at hsplit
    simpa [unlines] using hsplit

theorem lines_unlines_append {ls : List (List Char)} (hls : ∀ l ∈ ls, '\n' ∉ l) {p : List Char} (hp : '\n' ∉ p) :
    lines (unlines ls ++ p) = ls.map (fun l => stripEol (l ++ ['\n'])) ++ if p = [] then [] else [stripEol p] := by
  rw [lines, splitInclusive_unlines_append hls, splitInclusive_of_not_mem hp, List.map_append, List.map_map]
  split
  · rfl
  · rfl

theorem filterMap_lines {β : Type} {f : List Char → Option β} (hf : ∀ l l', trimEnd l = trimEnd l' → f l = f l')
    (hnil : f [] = none) (s : List Char) : (lines s).filterMap f = (s.splitOn '\n').filterMap f := by
  obtain ⟨ls, p, rfl, hls, hp⟩ := exists_unlines_append s
  have hline : ∀ l, f (stripEol (l ++ ['\n'])) = f l := by
    intro l
    apply hf
    have hblank : ['\n'].all isWhitespace = true := by decide
    rw [trimEnd_stripEol, trimEnd_append_whitespace l (List.all_eq_true.mp hblank)]
  have hlast : f (stripEol p) = f p := hf _ _ (trimEnd_stripEol p)
  rw [lines_unlines_append hls hp, splitOn_unlines_append hls hp, List.filterMap_append, List.filterMap_append,
    List.filterMap_map]
  congr 1
  · exact List.filterMap_congr fun l _ => hline l
  · split
    · rename_i hempty
      rw [hempty, List.filterMap_cons_none hnil]
    · simp only [List.filterMap_cons, hlast]

theorem stripEol_line (l : List Char) : stripEol (l ++ ['\n']) = if l.getLast? = some '\r' then l.dropLast else l := by
  rcases List.eq_nil_or_concat' l with rfl | ⟨l, c, rfl⟩
  · rfl
  · by_cases hc : c = '\r'
    · simp [stripEol, hc]
    · simp [stripEol, hc]

theorem stripEol_of_not_mem {p : List Char} (hp : '\n' ∉ p) : stripEol p = p := by
  rcases List.eq_nil_or_concat' p with rfl | ⟨p, c, rfl⟩
  · rfl
  · have hc : c ≠ '\n' := by
      rintro rfl
      exact hp (by simp)
    simp [stripEol, hc]

theorem not_mem_of_mem_lines {s l : List Char} (h : l ∈ lines s) : '\n' ∉ l := by
  obtain ⟨ls, p, rfl, hls, hp⟩ := exists_unlines_append s
  rw [lines_unlines_append hls hp, List.mem_append, List.mem_map] at h
  rcases h with ⟨l, hl, rfl⟩ | h
  · rw [stripEol_line]
    split
    · exact fun hmem => hls l hl (List.dropLast_subset l hmem)
    · exact hls l hl
  · split at h
    · cases h
    · rw [List.mem_singleton.mp h, stripEol_of_not_mem hp]
      exact hp

theorem filterMap_lines_intercalate {β : Type} {f : List Char → Option β} (hnil : f [] = none) {ms : List (List Char)}
    (hms : ∀ m ∈ ms, '\n' ∉ m ∧ m.getLast? ≠ some '\r') :
    (lines (List.intercalate ['\n'] ms)).filterMap f = ms.filterMap f := by
  by_cases hempty : ms = []
  · rw [hempty]
    rfl
  · have hsplit := List.splitOn_intercalate '\n' (fun m hm => (hms m hm).1) hempty
    obtain ⟨ls, p, htext, hls, hp⟩ := exists_unlines_append (List.intercalate ['\n'] ms)
    rw [htext, splitOn_unlines_append hls hp] at hsplit
    rw [← hsplit, List.forall_mem_append] at hms
    have hlines : ls.map (fun l => stripEol (l ++ ['\n'])) = ls := by
      conv_rhs => rw [← List.map_id ls]
      apply List.map_congr_left
      intro l hl
      rw [stripEol_line, if_neg (hms.1 l hl).2, id_eq]
    rw [htext, lines_unlines_append hls hp, hlines, stripEol_of_not_mem hp, ← hsplit, List.filterMap_append,
      List.filterMap_append]
    split
    · rename_i hblank
      rw [hblank, List.filterMap_cons_none hnil]
    · rfl

end AgentProxy.Text
