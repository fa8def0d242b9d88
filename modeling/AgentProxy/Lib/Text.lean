import Mathlib.Algebra.Ring.Nat
import Mathlib.Data.List.Basic
import Mathlib.Data.List.Induction

namespace AgentProxy.Text

def isWhitespace (c : Char) : Bool :=
  let n := c.toNat
  (9 ≤ n && n ≤ 13) || n = 32 || n = 0x85 || n = 0xA0 || n = 0x1680 || (0x2000 ≤ n && n ≤ 0x200A) ||
    n = 0x2028 || n = 0x2029 || n = 0x202F || n = 0x205F || n = 0x3000

def trimStart (s : List Char) : List Char := s.dropWhile isWhitespace

def trimEnd (s : List Char) : List Char := (s.reverse.dropWhile isWhitespace).reverse

def trim (s : List Char) : List Char := trimEnd (trimStart s)

def stripPrefix? (p s : List Char) : Option (List Char) :=
  if p.isPrefixOf s then some (s.drop p.length) else none

def splitInclusive : List Char → List (List Char)
  | [] => []
  | c :: s =>
    if c = '\n' then [c] :: splitInclusive s
    else
      match splitInclusive s with
      | [] => [[c]]
      | l :: ls => (c :: l) :: ls

/-- A line without its `\n` or `\r\n`; a lone `\r` at the end of the text stays. -/
def stripEol (l : List Char) : List Char :=
  match l.reverse with
  | '\n' :: '\r' :: rest => rest.reverse
  | '\n' :: rest => rest.reverse
  | _ => l

def lines (s : List Char) : List (List Char) := (splitInclusive s).map stripEol

def byteLen (s : List Char) : ℕ := (s.map Char.utf8Size).sum

def linesFrom (n : ℕ) : List (List Char) → List (ℕ × List Char)
  | [] => []
  | piece :: rest => (n, stripEol piece) :: linesFrom (n + byteLen piece) rest

def lineOffsets (s : List Char) : List (ℕ × List Char) := linesFrom 0 (splitInclusive s)

def unlines (ls : List (List Char)) : List Char := ls.flatMap (· ++ ['\n'])

/-- `str::parse` of an unsigned integer, without the bound of its type. -/
def unsigned? (s : List Char) : Option ℕ :=
  let digits := match s with
    | '+' :: rest => rest
    | _ => s
  if digits.isEmpty || !digits.all Char.isDigit then none else some (Nat.ofDigitChars 10 digits 0)

theorem unsigned?_repr (n : ℕ) : unsigned? (toString n).toList = some n := by
  have hdigit : ∀ c ∈ Nat.toDigits 10 n, c.isDigit = true := fun c hc =>
    Nat.isDigit_of_mem_toDigits (by omega) (by omega) hc
  have hall : (Nat.toDigits 10 n).all Char.isDigit = true := List.all_eq_true.mpr hdigit
  have hne : (Nat.toDigits 10 n).isEmpty = false := by simp
  have hplus : ∀ rest, Nat.toDigits 10 n ≠ '+' :: rest := by
    intro rest h
    have hc := hdigit '+' (h ▸ List.mem_cons_self)
    exact absurd hc (by decide)
  rw [Nat.toString_eq_repr, Nat.toList_repr]
  unfold unsigned?
  split
  · rename_i rest h
    exact absurd h (hplus rest)
  · simp only [hne, hall, Bool.not_true, Bool.or_self, Bool.false_eq_true, ↓reduceIte,
      Nat.ofDigitChars_ten_toDigits]

theorem intercalate_ne_empty (sep : String) {first : String} (h : first ≠ "") (rest : List String) :
    sep.intercalate (first :: rest) ≠ "" := by
  unfold String.intercalate
  induction rest generalizing first with
  | nil => exact h
  | cons next rest ih =>
    apply ih
    intro hempty
    have hlist := congrArg String.toList hempty
    simp only [String.toList_append, String.toList_empty, List.append_eq_nil_iff] at hlist
    exact h (String.toList_injective hlist.1.1)

theorem unlines_append (ls ms : List (List Char)) : unlines (ls ++ ms) = unlines ls ++ unlines ms :=
  List.flatMap_append

theorem byteLen_append (s t : List Char) : byteLen (s ++ t) = byteLen s + byteLen t := by
  simp [byteLen]

theorem splitInclusive_line {l : List Char} (h : '\n' ∉ l) (s : List Char) :
    splitInclusive (l ++ '\n' :: s) = (l ++ ['\n']) :: splitInclusive s := by
  induction l with
  | nil => simp [splitInclusive]
  | cons c l ih =>
    have hc : c ≠ '\n' := fun hc => h (hc ▸ List.mem_cons_self)
    have hl : '\n' ∉ l := fun hl => h (List.mem_cons_of_mem _ hl)
    simp [splitInclusive, hc, ih hl]

theorem splitInclusive_unlines {ls : List (List Char)} (h : ∀ l ∈ ls, '\n' ∉ l) :
    splitInclusive (unlines ls) = ls.map (· ++ ['\n']) := by
  induction ls with
  | nil => rfl
  | cons l ls ih =>
    have hrest : ∀ m ∈ ls, '\n' ∉ m := fun m hm => h m (List.mem_cons_of_mem _ hm)
    have hsplit := splitInclusive_line (h l List.mem_cons_self) (unlines ls)
    rw [ih hrest] at hsplit
    simpa [unlines] using hsplit

theorem linesFrom_append (n : ℕ) (ps qs : List (List Char)) :
    linesFrom n (ps ++ qs) = linesFrom n ps ++ linesFrom (n + byteLen ps.flatten) qs := by
  induction ps generalizing n with
  | nil => simp [linesFrom, byteLen]
  | cons p ps ih =>
    simp only [List.cons_append, linesFrom, ih, List.flatten_cons, byteLen_append]
    rw [Nat.add_assoc]

theorem linesFrom_ge {n : ℕ} {ps : List (List Char)} {line : ℕ × List Char} (h : line ∈ linesFrom n ps) :
    n ≤ line.1 := by
  induction ps generalizing n with
  | nil => cases h
  | cons p ps ih =>
    rcases List.mem_cons.mp h with rfl | h
    · exact Nat.le_refl n
    · have := ih h
      omega

theorem byteLen_pos {s : List Char} (h : s ≠ []) : 0 < byteLen s := by
  cases s with
  | nil => exact absurd rfl h
  | cons c s =>
    have hc := c.utf8Size_pos
    simp only [byteLen, List.map_cons, List.sum_cons]
    omega

theorem linesFrom_lt (n : ℕ) {ps : List (List Char)} (hne : ∀ p ∈ ps, p ≠ []) :
    (∀ line ∈ linesFrom n ps, line.1 < n + byteLen ps.flatten) ∧
      (linesFrom n ps).Pairwise fun a b => a.1 < b.1 := by
  induction ps generalizing n with
  | nil => exact ⟨fun line h => absurd h List.not_mem_nil, List.Pairwise.nil⟩
  | cons p ps ih =>
    have hp := byteLen_pos (hne p List.mem_cons_self)
    obtain ⟨hlt, hpair⟩ := ih (n := n + byteLen p) fun q hq => hne q (List.mem_cons_of_mem _ hq)
    refine ⟨fun line h => ?_, List.pairwise_cons.mpr ⟨fun line h => ?_, hpair⟩⟩
    · rw [List.flatten_cons, byteLen_append]
      rcases List.mem_cons.mp h with rfl | h
      · dsimp only
        omega
      · have := hlt line h
        omega
    · have := linesFrom_ge h
      dsimp only
      omega

/-- A character of `s` starts before byte `n` and ends after it. -/
def Straddles (n : ℕ) (s : List Char) : Prop :=
  ∃ p c q, s = p ++ c :: q ∧ byteLen p < n ∧ n < byteLen p + c.utf8Size

theorem byteLen_le_of_isPrefix {p s : List Char} (h : p <+: s) : byteLen p ≤ byteLen s := by
  obtain ⟨t, rfl⟩ := h
  rw [byteLen_append]
  exact Nat.le_add_right _ _

theorem byteLen_concat (s : List Char) (c : Char) : byteLen (s ++ [c]) = byteLen s + c.utf8Size := by
  simp [byteLen]

theorem straddles_lt_byteLen {n : ℕ} {s : List Char} (h : Straddles n s) : n < byteLen s := by
  obtain ⟨p, c, q, rfl, -, hafter⟩ := h
  have hle := byteLen_le_of_isPrefix (⟨q, by simp⟩ : p ++ [c] <+: p ++ c :: q)
  rw [byteLen_concat] at hle
  omega

theorem not_straddles_of_isPrefix {p s : List Char} (h : p <+: s) : ¬ Straddles (byteLen p) s := by
  rintro ⟨p', c, q, rfl, hbefore, hafter⟩
  have hchar : p' ++ [c] <+: p' ++ c :: q := ⟨q, by simp⟩
  rcases Nat.le_total p.length (p' ++ [c]).length with hlength | hlength
  · have hshort := List.prefix_of_prefix_length_le h hchar hlength
    rcases List.prefix_concat_iff.mp hshort with rfl | hshorter
    · rw [byteLen_concat] at hafter
      omega
    · have hle := byteLen_le_of_isPrefix hshorter
      omega
  · have hle := byteLen_le_of_isPrefix (List.prefix_of_prefix_length_le hchar h hlength)
    rw [byteLen_concat] at hle
    omega

/-- A text can be cut at byte `n` when it is that long and no character lies across the cut. -/
theorem exists_cut_iff {n : ℕ} {s : List Char} :
    (∃ p, p <+: s ∧ byteLen p = n) ↔ n ≤ byteLen s ∧ ¬ Straddles n s := by
  constructor
  · rintro ⟨p, hp, rfl⟩
    exact ⟨byteLen_le_of_isPrefix hp, not_straddles_of_isPrefix hp⟩
  · rintro ⟨hle, hwhole⟩
    induction s using List.reverseRecOn with
    | nil => exact ⟨[], List.prefix_rfl, (Nat.le_zero.mp hle).symm⟩
    | append_singleton s c ih =>
      rw [byteLen_concat] at hle
      rcases Nat.lt_or_ge (byteLen s) n with hlt | hge
      · -- the cut is inside or right after the last character
        have hend : n = byteLen s + c.utf8Size := by
          by_contra hne
          exact hwhole ⟨s, c, [], rfl, hlt, by omega⟩
        exact ⟨s ++ [c], List.prefix_rfl, by rw [byteLen_concat, hend]⟩
      · have hstart : ¬ Straddles n s := by
          rintro ⟨p, d, q, rfl, hbefore, hafter⟩
          exact hwhole ⟨p, d, q ++ [c], by simp, hbefore, hafter⟩
        obtain ⟨p, hp, hlen⟩ := ih hge hstart
        exact ⟨p, hp.trans (List.prefix_append s [c]), hlen⟩

end AgentProxy.Text
