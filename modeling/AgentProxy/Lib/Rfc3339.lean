import AgentProxy.Lib.Calendar
import AgentProxy.Lib.TextOrder
import Mathlib.Data.Nat.Log

namespace AgentProxy.Rfc3339

open Calendar TextOrder

/-- The last `w` decimal digits of a number below `10 ^ w`, with leading zeros. -/
def digits : ℕ → ℕ → List Char
  | 0, _ => []
  | w + 1, n => Nat.digitChar (n / 10 ^ w) :: digits w (n % 10 ^ w)

theorem digitChar_mono : ∀ b < 10, ∀ a < b, Nat.digitChar a < Nat.digitChar b := by decide

theorem digits_below {w a b : ℕ} (h : a < b) (hb : b < 10 ^ w) : Below (digits w a) (digits w b) := by
  induction w generalizing a b with
  | zero => omega
  | succ w ih =>
    have hpos : 0 < 10 ^ w := Nat.pow_pos (by omega)
    have hdigit : b / 10 ^ w < 10 := by
      apply Nat.div_lt_of_lt_mul
      rwa [← Nat.pow_succ]
    rcases (Nat.div_le_div_right h.le : a / 10 ^ w ≤ b / 10 ^ w).lt_or_eq with hlt | heq
    · exact below_cons (digitChar_mono _ hdigit _ hlt) _ _
    · have hrest : a % 10 ^ w < b % 10 ^ w := by
        have ha := Nat.div_add_mod a (10 ^ w)
        have hb := Nat.div_add_mod b (10 ^ w)
        rw [heq] at ha
        omega
      rw [digits, digits, heq]
      exact (ih hrest (Nat.mod_lt _ hpos)).cons _

theorem digits_add (v w n : ℕ) (h : n < 10 ^ (v + w)) :
    digits (v + w) n = digits v (n / 10 ^ w) ++ digits w (n % 10 ^ w) := by
  induction v generalizing n with
  | zero =>
    rw [Nat.zero_add] at h ⊢
    rw [Nat.mod_eq_of_lt h]
    rfl
  | succ v ih =>
    have hsplit : v + 1 + w = v + w + 1 := by omega
    have hrest : n % 10 ^ (v + w) < 10 ^ (v + w) := Nat.mod_lt _ (Nat.pow_pos (by omega))
    rw [hsplit, digits, ih _ hrest, digits, Nat.div_div_eq_div_mul, ← Nat.pow_add, Nat.add_comm w v]
    rw [Nat.mod_mod_of_dvd _ (Nat.pow_dvd_pow 10 (Nat.le_add_left w v)), Nat.pow_add, Nat.mul_comm (10 ^ v),
      Nat.mod_mul_right_div_self]
    rfl

def yearText (year : ℤ) : List Char :=
  if 0 ≤ year ∧ year ≤ 9999 then digits 4 year.toNat
  else (if year < 0 then '-' else '+') :: digits (max 4 (Nat.log 10 year.natAbs + 1)) year.natAbs

def dateText (c : Civil) : List Char := yearText c.year ++ ('-' :: (digits 2 c.month ++ '-' :: digits 2 c.day))

def timeText (second : ℕ) : List Char :=
  digits 2 (second / 3600) ++ (':' :: (digits 2 (second / 60 % 60) ++ ':' :: digits 2 (second % 60)))

/-- The fewest of 0, 3, 6 and 9 digits that show the fraction of the second exactly. -/
def precision (nano : ℕ) : ℕ :=
  if nano = 0 then 0 else if nano % 1000000 = 0 then 3 else if nano % 1000 = 0 then 6 else 9

def fraction (nano : ℕ) : List Char :=
  if precision nano = 0 then [] else '.' :: digits (precision nano) (nano / 10 ^ (9 - precision nano))

def zone : List Char := ['+', '0', '0', ':', '0', '0']

/-- Instants are counted in nanoseconds from 1970-01-01T00:00:00 UTC. -/
def date (t : ℤ) : Civil := ofDays (t / 86400000000000)

def secondOfDay (t : ℤ) : ℕ := (t / 1000000000 % 86400).toNat

def nanosecond (t : ℤ) : ℕ := (t % 1000000000).toNat

def toRfc3339 (t : ℤ) : String :=
  String.ofList (dateText (date t) ++ 'T' :: (timeText (secondOfDay t) ++ (fraction (nanosecond t) ++ zone)))

def InYears (t : ℤ) : Prop := 0 ≤ (date t).year ∧ (date t).year ≤ 9999

instance (t : ℤ) : Decidable (InYears t) := inferInstanceAs (Decidable (_ ∧ _))

theorem dot_lt_digitChar : ∀ d < 10, '.' < Nat.digitChar d := by decide

theorem digits_head {w n : ℕ} (hw : 0 < w) (h : n < 10 ^ w) :
    ∃ d < 10, ∃ rest, digits w n = Nat.digitChar d :: rest := by
  obtain ⟨v, rfl⟩ : ∃ v, w = v + 1 := ⟨w - 1, by omega⟩
  have hdigit : n / 10 ^ v < 10 := by
    apply Nat.div_lt_of_lt_mul
    rwa [← Nat.pow_succ]
  exact ⟨_, hdigit, _, rfl⟩

theorem precision_spec (nano : ℕ) :
    precision nano ≤ 9 ∧ (precision nano = 0 ↔ nano = 0) ∧ nano % 10 ^ (9 - precision nano) = 0 := by
  unfold precision
  split_ifs with hzero hmilli hmicro
  · subst hzero
    exact ⟨by omega, Iff.rfl, rfl⟩
  · exact ⟨by omega, iff_of_false id hzero, hmilli⟩
  · exact ⟨by omega, iff_of_false id hzero, hmicro⟩
  · exact ⟨by omega, iff_of_false id hzero, Nat.mod_one _⟩

/-- `precision` is the least of the three that is exact. -/
theorem precision_le {nano nano' : ℕ} (hnano : nano < 10 ^ 9) (h : nano % 10 ^ (9 - precision nano') = 0) :
    precision nano ≤ precision nano' := by
  unfold precision at h ⊢
  split_ifs at h ⊢ <;> omega

theorem digits_front {k m n : ℕ} (hm : m ≤ k) (hk : k ≤ 9) (hn : n < 10 ^ 9) :
    digits k (n / 10 ^ (9 - k)) =
      digits m (n / 10 ^ (9 - m)) ++ digits (k - m) (n / 10 ^ (9 - k) % 10 ^ (k - m)) := by
  obtain ⟨j, rfl⟩ : ∃ j, k = m + j := ⟨k - m, by omega⟩
  have hlt : n / 10 ^ (9 - (m + j)) < 10 ^ (m + j) := by
    apply Nat.div_lt_of_lt_mul
    rw [← Nat.pow_add]
    have hnine : 9 - (m + j) + (m + j) = 9 := by omega
    rwa [hnine]
  have hdiv : n / 10 ^ (9 - (m + j)) / 10 ^ j = n / 10 ^ (9 - m) := by
    rw [Nat.div_div_eq_div_mul, ← Nat.pow_add]
    have hsum : 9 - (m + j) + j = 9 - m := by omega
    rw [hsum]
  rw [digits_add m j _ hlt, hdiv, Nat.add_sub_cancel_left]

theorem fraction_lt {a b : ℕ} (h : a < b) (hb : b < 10 ^ 9) : fraction a ++ zone < fraction b ++ zone := by
  obtain ⟨hka, hza, hexact⟩ := precision_spec a
  obtain ⟨hkb, hzb, hexact'⟩ := precision_spec b
  have hb0 : precision b ≠ 0 := fun h0 => by omega
  rw [fraction, fraction, if_neg hb0]
  by_cases ha0 : precision a = 0
  · rw [if_pos ha0]
    exact (below_cons (by decide : '+' < '.') _ _).lt
  · rw [if_neg ha0]
    apply List.Lex.cons
    change digits _ _ ++ zone < digits _ _ ++ zone
    generalize precision a = j at *
    generalize precision b = k at *
    have hfront := digits_front (Nat.min_le_left j k) hka (h.trans hb)
    have hfront' := digits_front (Nat.min_le_right j k) hkb hb
    rcases (Nat.div_le_div_right h.le : a / 10 ^ (9 - min j k) ≤ b / 10 ^ (9 - min j k)).lt_or_eq with hlt | heq
    · have hbound : b / 10 ^ (9 - min j k) < 10 ^ min j k := by
        apply Nat.div_lt_of_lt_mul
        rw [← Nat.pow_add]
        have hnine : 9 - min j k + min j k = 9 := by omega
        rwa [hnine]
      have hbelow := (digits_below hlt hbound).append (digits (j - min j k) (a / 10 ^ (9 - j) % 10 ^ (j - min j k)))
        (digits (k - min j k) (b / 10 ^ (9 - k) % 10 ^ (k - min j k)))
      rw [← hfront, ← hfront'] at hbelow
      exact hbelow zone zone
    · have hshorter : j < k := by
        by_contra hge
        have hmin : min j k = k := by omega
        rw [hmin] at heq
        have ha := Nat.div_add_mod a (10 ^ (9 - k))
        have hb := Nat.div_add_mod b (10 ^ (9 - k))
        rw [heq] at ha
        omega
      have hmin : min j k = j := by omega
      rw [hmin] at heq hfront'
      obtain ⟨d, hd, rest, hrest⟩ := digits_head (show 0 < k - j by omega)
        (Nat.mod_lt (b / 10 ^ (9 - k)) (Nat.pow_pos (show 0 < 10 by omega)))
      rw [hfront', hrest, heq, List.append_assoc]
      apply List.append_left_lt
      exact (below_cons (lt_trans (by decide : '+' < '.') (dot_lt_digitChar d hd)) _ _).lt

theorem timeText_below {a b : ℕ} (h : a < b) (hb : b < 86400) : Below (timeText a) (timeText b) := by
  have hsplit (s : ℕ) : s = 3600 * (s / 3600) + 60 * (s / 60 % 60) + s % 60 := by omega
  have ha := hsplit a
  have hb := hsplit b
  rcases (show a / 3600 ≤ b / 3600 by omega).lt_or_eq with hlt | heq
  · exact (digits_below hlt (by omega)).append _ _
  · rw [timeText, timeText, heq]
    apply Below.append_left
    apply Below.cons
    rcases (show a / 60 % 60 ≤ b / 60 % 60 by omega).lt_or_eq with hlt | hminute
    · exact (digits_below hlt (by omega)).append _ _
    · rw [hminute]
      apply Below.append_left
      apply Below.cons
      apply digits_below
      all_goals omega

theorem dateText_below {c c' : Civil} (h : c.Before c') (hy : 0 ≤ c.year) (hy' : c'.year ≤ 9999)
    (hm : c'.month ≤ 12) (hd : c.day ≤ 31) (hd' : c'.day ≤ 31) : Below (dateText c) (dateText c') := by
  have hyear : c.year ≤ c'.year := by
    obtain hlt | ⟨heq, -⟩ := h
    all_goals omega
  rw [dateText, dateText, yearText, yearText, if_pos ⟨hy, by omega⟩, if_pos ⟨by omega, hy'⟩]
  obtain hlt | ⟨heq, hlt⟩ := h
  · exact (digits_below (by omega) (by omega)).append _ _
  · rw [heq]
    apply Below.append_left
    apply Below.cons
    rcases (show c.month ≤ c'.month by omega).lt_or_eq with hmonth | hmonth
    · exact (digits_below hmonth (by omega)).append _ _
    · rw [hmonth]
      apply Below.append_left
      apply Below.cons
      apply digits_below
      all_goals omega

theorem dateText_below_of_year_neg {c c' : Civil} (h : c.year < 0) (hy : 0 ≤ c'.year) (hy' : c'.year ≤ 9999) :
    Below (dateText c) (dateText c') := by
  obtain ⟨d, hd, rest, hrest⟩ := digits_head (show 0 < 4 by omega) (show c'.year.toNat < 10 ^ 4 by omega)
  have hminus : '-' < Nat.digitChar d := lt_trans (by decide : '-' < '.') (dot_lt_digitChar d hd)
  have hout : ¬ (0 ≤ c.year ∧ c.year ≤ 9999) := fun hin => by omega
  rw [dateText, dateText, yearText, yearText, if_neg hout, if_pos h, if_pos ⟨hy, hy'⟩, hrest]
  exact below_cons hminus _ _

theorem date_below {s t : ℤ} (ht : InYears t) (h : s / 86400000000000 < t / 86400000000000) :
    Below (dateText (date s)) (dateText (date t)) := by
  rcases lt_or_ge (date s).year 0 with hneg | hpos
  · exact dateText_below_of_year_neg hneg ht.1 ht.2
  · exact dateText_below (ofDays_mono h) hpos ht.2 (ofDays_month _).2 (ofDays_day _).2 (ofDays_day _).2

theorem year_mono {s t : ℤ} (h : s ≤ t) : (date s).year ≤ (date t).year := by
  have hday : s / 86400000000000 ≤ t / 86400000000000 := Int.ediv_le_ediv (by omega) h
  rcases hday.lt_or_eq with hlt | heq
  · obtain hyear | ⟨hyear, -⟩ := ofDays_mono hlt
    · exact hyear.le
    · exact hyear.le
  · rw [date, date, heq]

theorem toRfc3339_lt {s t : ℤ} (ht : InYears t) (h : s < t) : toRfc3339 s < toRfc3339 t := by
  rw [String.lt_iff_toList_lt, toRfc3339, toRfc3339, String.toList_ofList, String.toList_ofList]
  have hday : s / 86400000000000 ≤ t / 86400000000000 := Int.ediv_le_ediv (by omega) h.le
  rcases hday.lt_or_eq with hlt | heq
  · exact date_below ht hlt _ _
  · rw [date, date, heq]
    apply List.append_left_lt
    apply List.Lex.cons
    have hsecond : secondOfDay s ≤ secondOfDay t := by
      unfold secondOfDay
      omega
    rcases hsecond.lt_or_eq with hlt | hsame
    · apply timeText_below hlt
      unfold secondOfDay
      omega
    · rw [hsame]
      apply List.append_left_lt
      unfold secondOfDay at hsame
      apply fraction_lt
      all_goals
        unfold nanosecond
        omega

theorem toRfc3339_lt_iff {s t : ℤ} (hs : InYears s) (ht : InYears t) : toRfc3339 s < toRfc3339 t ↔ s < t := by
  constructor
  · intro h
    by_contra hle
    rcases (not_lt.mp hle).lt_or_eq with hlt | rfl
    · exact lt_asymm h (toRfc3339_lt hs hlt)
    · exact lt_irrefl _ h
  · exact toRfc3339_lt ht

theorem toRfc3339_le_iff {s t : ℤ} (hs : InYears s) (ht : InYears t) : toRfc3339 s ≤ toRfc3339 t ↔ s ≤ t := by
  rw [← not_lt, ← not_lt, toRfc3339_lt_iff ht hs]

theorem toRfc3339_inj {s t : ℤ} (hs : InYears s) (ht : InYears t) : toRfc3339 s = toRfc3339 t ↔ s = t := by
  rw [le_antisymm_iff, toRfc3339_le_iff hs ht, toRfc3339_le_iff ht hs, ← le_antisymm_iff]

theorem inYears_iff {t : ℤ} : InYears t ↔ -62167219200000000000 ≤ t ∧ t < 253402300800000000000 := by
  have hfirst : (date (-62167219200000000000)).year = 0 := by decide +kernel
  have hbefore : (date (-62167219200000000001)).year = -1 := by decide +kernel
  have hlast : (date 253402300799999999999).year = 9999 := by decide +kernel
  have hafter : (date 253402300800000000000).year = 10000 := by decide +kernel
  constructor
  · rintro ⟨hlow, hhigh⟩
    constructor
    · by_contra hlt
      have hyear := year_mono (show t ≤ -62167219200000000001 by omega)
      omega
    · by_contra hge
      have hyear := year_mono (show 253402300800000000000 ≤ t by omega)
      omega
  · rintro ⟨hlow, hhigh⟩
    have hyear := year_mono hlow
    have hyear' := year_mono (show t ≤ 253402300799999999999 by omega)
    exact ⟨by omega, by omega⟩

theorem toRfc3339_mono {s t : ℤ} (ht : InYears t) (h : s ≤ t) : toRfc3339 s ≤ toRfc3339 t := by
  rcases h.lt_or_eq with hlt | rfl
  · exact (toRfc3339_lt ht hlt).le
  · exact le_refl _

example : toRfc3339 (-1000000) = "1969-12-31T23:59:59.999+00:00" := by decide +kernel

end AgentProxy.Rfc3339
