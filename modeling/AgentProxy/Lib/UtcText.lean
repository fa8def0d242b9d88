import AgentProxy.Lib.Rfc3339
import Mathlib.Algebra.Order.Field.Basic
import Mathlib.Algebra.Order.Field.Rat
import Mathlib.Tactic.FieldSimp
import Mathlib.Tactic.Linarith
import Mathlib.Tactic.Positivity
import Mathlib.Tactic.Ring

namespace AgentProxy.Rfc3339

open Calendar TextOrder

inductive DateMark where
  | upper
  | lower
  | space
  deriving DecidableEq

def DateMark.char : DateMark → Char
  | .upper => 'T'
  | .lower => 't'
  | .space => ' '

inductive UtcOffset where
  | upper
  | lower
  | plus
  | minus
  deriving DecidableEq

namespace UtcOffset

def text : UtcOffset → List Char
  | upper => ['Z']
  | lower => ['z']
  | plus => ['+', '0', '0', ':', '0', '0']
  | minus => ['-', '0', '0', ':', '0', '0']

def isLetter : UtcOffset → Bool
  | upper | lower => true
  | plus | minus => false

end UtcOffset

def decimals (places n : ℕ) : List Char := if places = 0 then [] else '.' :: digits places n

/-- An RFC 3339 text in UTC: a second of the years 0 to 9999 and any number of decimals. -/
structure UtcText where
  mark : DateMark
  second : ℤ
  places : ℕ
  numerator : ℕ
  offset : UtcOffset
  inYears : InYears (second * 1000000000)
  fits : numerator < 10 ^ places

namespace UtcText

def text (s : UtcText) : String :=
  String.ofList (dateText (date (s.second * 1000000000)) ++
    s.mark.char :: (timeText (secondOfDay (s.second * 1000000000)) ++
      (decimals s.places s.numerator ++ s.offset.text)))

/-- In nanoseconds, as the instants of `toRfc3339`. -/
def instant (s : UtcText) : ℚ := (s.second + s.numerator / 10 ^ s.places) * 1000000000

/-- As texts, `s` and that of `t` are in the other order than their instants. -/
def Misplaced (s : UtcText) (t : ℤ) : Prop :=
  match s.mark with
  | .lower => s.second / 86400 = t / 86400000000000 ∧ s.instant < t
  | .space => s.second / 86400 = t / 86400000000000 ∧ t ≤ s.instant
  | .upper =>
    s.second = t / 1000000000 ∧ s.places < precision (nanosecond t) ∧
      s.numerator = nanosecond t / 10 ^ (9 - s.places) ∧
      (s.offset.isLetter = true ↔ nanosecond t % 10 ^ (9 - s.places) ≠ 0)

end UtcText

section

variable {w k n c : ℕ}

theorem decimals_below (h : n / 10 ^ (w - min w k) < c / 10 ^ (k - min w k)) (hn : n < 10 ^ w) (hc : c < 10 ^ k) :
    Below (decimals w n) (decimals k c) := by
  obtain ⟨i, hi⟩ : ∃ i, w = min w k + i := ⟨w - min w k, by omega⟩
  obtain ⟨j, hj⟩ : ∃ j, k = min w k + j := ⟨k - min w k, by omega⟩
  have hbound : c / 10 ^ (k - min w k) < 10 ^ min w k := by
    apply Nat.div_lt_of_lt_mul
    rw [← Nat.pow_add]
    have hk : k - min w k + min w k = k := by omega
    rwa [hk]
  have hmin : min w k ≠ 0 := by
    intro h0
    rw [h0, Nat.pow_zero, Nat.lt_one_iff] at hbound
    rw [h0, hbound] at h
    exact Nat.not_lt_zero _ h
  have hw0 : w ≠ 0 := by omega
  have hk0 : k ≠ 0 := by omega
  rw [decimals, decimals, if_neg hw0, if_neg hk0]
  apply Below.cons
  generalize min w k = m at *
  subst hi hj
  rw [digits_add m i n hn, digits_add m j c hc]
  rw [Nat.add_sub_cancel_left, Nat.add_sub_cancel_left] at h
  rw [Nat.add_sub_cancel_left] at hbound
  exact (digits_below h hbound).append _ _

/-- A longer fraction that begins alike goes on with the dot or a digit. -/
theorem decimals_longer (h : w < k) (hc : c < 10 ^ k) :
    ∃ d rest, decimals k c = decimals w (c / 10 ^ (k - w)) ++ d :: rest ∧ '+' < d ∧ '-' < d ∧ d < 'Z' ∧ d < 'z' := by
  have hk : k ≠ 0 := by omega
  have hdigit : ∀ d < 10, '+' < Nat.digitChar d ∧ '-' < Nat.digitChar d ∧ Nat.digitChar d < 'Z' ∧
      Nat.digitChar d < 'z' := by decide
  obtain ⟨j, rfl⟩ : ∃ j, k = w + j := ⟨k - w, by omega⟩
  rw [decimals, if_neg hk, decimals, Nat.add_sub_cancel_left]
  split_ifs with hw
  · exact ⟨'.', _, rfl, by decide⟩
  · obtain ⟨d, hd, rest, hrest⟩ := digits_head (show 0 < j by omega)
      (Nat.mod_lt c (Nat.pow_pos (show 0 < 10 by omega)))
    refine ⟨_, rest, ?_, hdigit d hd⟩
    rw [digits_add w j c hc, hrest, List.cons_append]

theorem cross_lt (h : n / 10 ^ (w - min w k) < c / 10 ^ (k - min w k)) : n * 10 ^ k < c * 10 ^ w := by
  have hn : n < 10 ^ (w - min w k) * (n / 10 ^ (w - min w k) + 1) :=
    Nat.lt_mul_div_succ n (Nat.pow_pos (by omega))
  have hc : c / 10 ^ (k - min w k) * 10 ^ (k - min w k) ≤ c := Nat.div_mul_le_self _ _
  have hpow : 10 ^ (w - min w k) * 10 ^ k = 10 ^ (k - min w k) * 10 ^ w := by
    rw [← Nat.pow_add, ← Nat.pow_add]
    congr 1
    omega
  calc n * 10 ^ k < 10 ^ (w - min w k) * (n / 10 ^ (w - min w k) + 1) * 10 ^ k :=
        Nat.mul_lt_mul_of_pos_right hn (Nat.pow_pos (by omega))
    _ ≤ 10 ^ (w - min w k) * (c / 10 ^ (k - min w k)) * 10 ^ k := by gcongr; omega
    _ = c / 10 ^ (k - min w k) * (10 ^ (w - min w k) * 10 ^ k) := by ring
    _ = c / 10 ^ (k - min w k) * 10 ^ (k - min w k) * 10 ^ w := by rw [hpow, Nat.mul_assoc]
    _ ≤ c * 10 ^ w := Nat.mul_le_mul_right _ hc

theorem cross_longer (h : w < k) : c / 10 ^ (k - w) * 10 ^ k < c * 10 ^ w ↔ c % 10 ^ (k - w) ≠ 0 := by
  have hpow : 10 ^ k = 10 ^ (k - w) * 10 ^ w := by
    rw [← Nat.pow_add, Nat.sub_add_cancel h.le]
  have hdiv := Nat.div_add_mod' c (10 ^ (k - w))
  rw [hpow, ← Nat.mul_assoc, Nat.mul_lt_mul_right (Nat.pow_pos (by omega))]
  omega

theorem cross_not_lt (h : k ≤ w) : ¬ n * 10 ^ k < n / 10 ^ (w - k) * 10 ^ w := by
  have hpow : 10 ^ w = 10 ^ (w - k) * 10 ^ k := by
    rw [← Nat.pow_add, Nat.sub_add_cancel h]
  rw [not_lt, hpow, ← Nat.mul_assoc]
  exact Nat.mul_le_mul_right _ (Nat.div_mul_le_self _ _)

theorem not_lt_front {front a b : List Char} (h : b ≤ a) : ¬ front ++ a < front ++ b := by
  rw [not_lt]
  rcases h.lt_or_eq with hlt | rfl
  · exact (List.append_left_lt hlt).le
  · exact le_refl _

theorem front_lt_front_iff {front a b : List Char} : front ++ a < front ++ b ↔ a < b :=
  ⟨fun h => not_le.mp fun hle => not_lt_front hle h, List.append_left_lt⟩

theorem cons_lt_cons_iff {c : Char} {a b : List Char} : c :: a < c :: b ↔ a < b := @front_lt_front_iff [c] a b

theorem zone_le (z : UtcOffset) : zone ≤ z.text := by
  cases z <;> decide

theorem zone_text_lt {z : UtcOffset} (hz : z.isLetter = false) {d : Char} (hplus : '+' < d) (hminus : '-' < d)
    (rest : List Char) : z.text < d :: rest := by
  cases z with
  | upper | lower => cases hz
  | plus => exact .rel hplus
  | minus => exact .rel hminus

theorem lt_zone_text {z : UtcOffset} (hz : z.isLetter = true) {d : Char} (hupper : d < 'Z') (hlower : d < 'z')
    (rest : List Char) : d :: rest < z.text := by
  cases z with
  | upper => exact .rel hupper
  | lower => exact .rel hlower
  | plus | minus => cases hz

theorem decimals_lt_longer (h : w < k) (hc : c < 10 ^ k) (z : UtcOffset) :
    decimals w (c / 10 ^ (k - w)) ++ z.text < decimals k c ++ zone ↔ z.isLetter = false := by
  obtain ⟨d, rest, hlonger, hplus, hminus, hupper, hlower⟩ := decimals_longer h hc
  rw [hlonger, List.append_assoc, List.cons_append]
  cases hz : z.isLetter with
  | true => exact iff_of_false (not_lt_front (lt_zone_text hz hupper hlower _).le) (Bool.noConfusion ·)
  | false => exact iff_of_true (List.append_left_lt (zone_text_lt hz hplus hminus _)) rfl

theorem decimals_not_lt (h : k ≤ w) (hn : n < 10 ^ w) (z : UtcOffset) :
    ¬ decimals w n ++ z.text < decimals k (n / 10 ^ (w - k)) ++ zone := by
  rcases h.lt_or_eq with hlonger | rfl
  · obtain ⟨d, rest, hd, hplus, -⟩ := decimals_longer hlonger hn
    have hlt : zone < d :: (rest ++ z.text) := .rel hplus
    rw [hd, List.append_assoc]
    exact not_lt_front hlt.le
  · rw [Nat.sub_self, Nat.pow_zero, Nat.div_one]
    exact not_lt_front (zone_le z)

/-- Cases: a digit differs, the text is a proper part of the other fraction, or it goes on from it. -/
theorem decimals_lt_iff (hn : n < 10 ^ w) (hc : c < 10 ^ k) (z : UtcOffset) :
    decimals w n ++ z.text < decimals k c ++ zone ↔
      (n * 10 ^ k < c * 10 ^ w ↔
        ¬ (w < k ∧ n = c / 10 ^ (k - w) ∧ (z.isLetter = true ↔ c % 10 ^ (k - w) ≠ 0))) := by
  rcases lt_trichotomy (n / 10 ^ (w - min w k)) (c / 10 ^ (k - min w k)) with hlt | heq | hgt
  · apply iff_of_true (decimals_below hlt hn hc _ _)
    apply iff_of_true (cross_lt hlt)
    rintro ⟨hw, hfront, -⟩
    rw [Nat.min_eq_left hw.le, Nat.sub_self, Nat.pow_zero, Nat.div_one, hfront] at hlt
    exact lt_irrefl _ hlt
  · by_cases hw : w < k
    · rw [Nat.min_eq_left hw.le, Nat.sub_self, Nat.pow_zero, Nat.div_one] at heq
      rw [heq, decimals_lt_longer hw hc, cross_longer hw]
      cases z.isLetter <;> simp [hw]
    · have hk := not_lt.mp hw
      rw [Nat.min_eq_right hk, Nat.sub_self, Nat.pow_zero, Nat.div_one] at heq
      rw [← heq]
      simp [decimals_not_lt hk hn, cross_not_lt hk, hw]
  · rw [Nat.min_comm] at hgt
    apply iff_of_false (lt_asymm (decimals_below hgt hc hn _ _))
    intro hiff
    apply lt_asymm (cross_lt hgt)
    rw [hiff]
    rintro ⟨hw, hfront, -⟩
    rw [Nat.min_eq_right hw.le, Nat.sub_self, Nat.pow_zero, Nat.div_one, hfront] at hgt
    exact lt_irrefl _ hgt

theorem fraction_lt_iff {nano : ℕ} (hn : n < 10 ^ w) (hnano : nano < 10 ^ 9) (z : UtcOffset) :
    decimals w n ++ z.text < fraction nano ++ zone ↔
      (n * 10 ^ 9 < nano * 10 ^ w ↔
        ¬ (w < precision nano ∧ n = nano / 10 ^ (9 - w) ∧ (z.isLetter = true ↔ nano % 10 ^ (9 - w) ≠ 0))) := by
  obtain ⟨hk, -, hexact⟩ := precision_spec nano
  have hfraction : fraction nano = decimals (precision nano) (nano / 10 ^ (9 - precision nano)) := rfl
  rw [hfraction]
  generalize precision nano = k at *
  obtain ⟨c, rfl⟩ : ∃ c, nano = c * 10 ^ (9 - k) := exists_eq_mul_left_of_dvd (Nat.dvd_of_mod_eq_zero hexact)
  have hpow : 0 < 10 ^ (9 - k) := Nat.pow_pos (by omega)
  have hnine : 10 ^ 9 = 10 ^ k * 10 ^ (9 - k) := by rw [← Nat.pow_add, Nat.add_sub_cancel' hk]
  have hc : c < 10 ^ k := by
    rw [hnine] at hnano
    exact Nat.lt_of_mul_lt_mul_right hnano
  have hcross : n * 10 ^ 9 < c * 10 ^ (9 - k) * 10 ^ w ↔ n * 10 ^ k < c * 10 ^ w := by
    rw [hnine, ← Nat.mul_assoc, Nat.mul_right_comm c, Nat.mul_lt_mul_right hpow]
  rw [Nat.mul_div_cancel _ hpow, decimals_lt_iff hn hc, hcross]
  apply iff_congr Iff.rfl
  apply not_congr
  apply and_congr_right
  intro hw
  have hsplit : 10 ^ (9 - w) = 10 ^ (k - w) * 10 ^ (9 - k) := by
    rw [← Nat.pow_add]
    congr 1
    omega
  rw [hsplit, Nat.mul_div_mul_right _ _ hpow, Nat.mul_mod_mul_right]
  simp

end

namespace UtcText

variable (s : UtcText) {t : ℤ}

theorem instant_lt_of_second_lt (h : s.second < t / 1000000000) : s.instant < t := by
  have hfraction : (s.numerator : ℚ) / 10 ^ s.places < 1 := by
    rw [div_lt_one (by positivity)]
    exact_mod_cast s.fits
  have hsecond : (s.second : ℚ) + 1 ≤ (t / 1000000000 : ℤ) := by exact_mod_cast h
  have ht : ((t / 1000000000 : ℤ) : ℚ) * 1000000000 ≤ t := by
    have hfloor : t / 1000000000 * 1000000000 ≤ t := by omega
    exact_mod_cast hfloor
  unfold instant
  linarith

theorem le_instant_of_lt_second (h : t / 1000000000 < s.second) : t ≤ s.instant := by
  have hfraction : 0 ≤ (s.numerator : ℚ) / 10 ^ s.places := by positivity
  have ht : (t : ℚ) ≤ s.second * 1000000000 := by
    have hceil : t ≤ s.second * 1000000000 := by omega
    exact_mod_cast hceil
  unfold instant
  linarith

theorem instant_lt_iff (h : s.second = t / 1000000000) :
    s.instant < t ↔ s.numerator * 10 ^ 9 < nanosecond t * 10 ^ s.places := by
  have hpow : (0 : ℚ) < 10 ^ s.places := by positivity
  have hnano : (nanosecond t : ℚ) = t - s.second * 1000000000 := by
    have hsplit : (nanosecond t : ℤ) = t - s.second * 1000000000 := by
      unfold nanosecond
      omega
    exact_mod_cast hsplit
  have hscale : s.instant < t ↔ (s.numerator : ℚ) / 10 ^ s.places * 1000000000 < nanosecond t := by
    rw [hnano, instant]
    constructor
    all_goals
      intro hlt
      linarith
  rw [hscale, div_mul_eq_mul_div, div_lt_iff₀ hpow]
  norm_cast

theorem day_eq : s.second * 1000000000 / 86400000000000 = s.second / 86400 := by omega

variable {s} in
theorem not_misplaced_of_second_ne (hday : s.second / 86400 ≠ t / 86400000000000) : ¬ s.Misplaced t := by
  rw [Misplaced]
  cases s.mark with
  | lower | space => exact fun h => hday h.1
  | upper =>
    rintro ⟨hsecond, -⟩
    omega

/-- On one day the mark decides before the time of day does. -/
theorem dayTail_lt_iff (hday : s.second / 86400 = t / 86400000000000) :
    s.mark.char :: (timeText (secondOfDay (s.second * 1000000000)) ++
        (decimals s.places s.numerator ++ s.offset.text)) <
      'T' :: (timeText (secondOfDay t) ++ (fraction (nanosecond t) ++ zone)) ↔
    (s.instant < t ↔ ¬ s.Misplaced t) := by
  rw [Misplaced]
  cases s.mark with
  | lower =>
    have hmark : Below ['T'] ['t'] := below_cons (by decide) _ _
    apply iff_of_false (lt_asymm (hmark _ _))
    simp only [hday, true_and]
    exact iff_not_self
  | space =>
    apply iff_of_true (.rel (by decide))
    simp only [hday, true_and, not_le]
  | upper =>
    rw [DateMark.char, cons_lt_cons_iff]
    rcases lt_trichotomy s.second (t / 1000000000) with hlt | hsame | hgt
    · have htime : Below (timeText (secondOfDay (s.second * 1000000000))) (timeText (secondOfDay t)) := by
        apply timeText_below
        all_goals
          unfold secondOfDay
          omega
      apply iff_of_true (htime _ _)
      exact iff_of_true (s.instant_lt_of_second_lt hlt) fun h => hlt.ne h.1
    · have htime : secondOfDay (s.second * 1000000000) = secondOfDay t := by
        unfold secondOfDay
        omega
      have hnano : nanosecond t < 10 ^ 9 := by
        unfold nanosecond
        omega
      rw [htime, front_lt_front_iff, fraction_lt_iff s.fits hnano, s.instant_lt_iff hsame]
      simp only [hsame, true_and]
    · have htime : Below (timeText (secondOfDay t)) (timeText (secondOfDay (s.second * 1000000000))) := by
        apply timeText_below
        all_goals
          unfold secondOfDay
          omega
      apply iff_of_false (lt_asymm (htime _ _))
      intro hiff
      exact not_lt.mpr (s.le_instant_of_lt_second hgt) (hiff.mpr fun h => hgt.ne' h.1)

theorem text_lt_iff (ht : (date t).year ≤ 9999) :
    s.text < toRfc3339 t ↔ (s.instant < t ↔ ¬ s.Misplaced t) := by
  have hday := s.day_eq
  rw [String.lt_iff_toList_lt, text, toRfc3339, String.toList_ofList, String.toList_ofList]
  rcases lt_trichotomy (s.second / 86400) (t / 86400000000000) with hlt | heq | hgt
  · have hyear : InYears t := ⟨s.inYears.1.trans (year_mono (by omega)), ht⟩
    apply iff_of_true (date_below hyear (by rwa [hday]) _ _)
    exact iff_of_true (s.instant_lt_of_second_lt (by omega)) (not_misplaced_of_second_ne hlt.ne)
  · have hdate : date (s.second * 1000000000) = date t := by rw [date, date, hday, heq]
    rw [hdate, front_lt_front_iff]
    exact s.dayTail_lt_iff heq
  · apply iff_of_false (lt_asymm (date_below s.inYears (by rwa [hday]) _ _))
    intro hiff
    have hlater : t ≤ s.instant := s.le_instant_of_lt_second (by omega)
    exact not_lt.mpr hlater (hiff.mpr (not_misplaced_of_second_ne hgt.ne'))

/-- The text that `toRfc3339` writes. -/
def ofInstant (t : ℤ) (h : InYears t) : UtcText where
  mark := .upper
  second := t / 1000000000
  places := precision (nanosecond t)
  numerator := nanosecond t / 10 ^ (9 - precision (nanosecond t))
  offset := .plus
  inYears := by
    have hyears := inYears_iff.mp h
    exact inYears_iff.mpr ⟨by omega, by omega⟩
  fits := by
    have hnine := (precision_spec (nanosecond t)).1
    have hnano : nanosecond t < 10 ^ 9 := by
      unfold nanosecond
      omega
    apply Nat.div_lt_of_lt_mul
    rwa [← Nat.pow_add, Nat.sub_add_cancel hnine]

section

variable (h : InYears t)

theorem ofInstant_text : (ofInstant t h).text = toRfc3339 t := by
  have hdate : date (t / 1000000000 * 1000000000) = date t := by
    have hday : t / 1000000000 * 1000000000 / 86400000000000 = t / 86400000000000 := by omega
    rw [date, date, hday]
  have htime : secondOfDay (t / 1000000000 * 1000000000) = secondOfDay t := by
    unfold secondOfDay
    omega
  rw [text, toRfc3339, ofInstant]
  dsimp only
  rw [hdate, htime]
  rfl

theorem ofInstant_instant : (ofInstant t h).instant = t := by
  obtain ⟨hnine, -, hexact⟩ := precision_spec (nanosecond t)
  have hnano : (t : ℚ) = (t / 1000000000 : ℤ) * 1000000000 + nanosecond t := by
    have hsplit : t = t / 1000000000 * 1000000000 + nanosecond t := by
      unfold nanosecond
      omega
    exact_mod_cast hsplit
  have hscale : ((nanosecond t / 10 ^ (9 - precision (nanosecond t)) : ℕ) : ℚ) / 10 ^ precision (nanosecond t) *
      1000000000 = nanosecond t := by
    have hpow : (1000000000 : ℚ) = 10 ^ (9 - precision (nanosecond t)) * 10 ^ precision (nanosecond t) := by
      rw [← pow_add, Nat.sub_add_cancel hnine]
      norm_num
    have hmul : ((nanosecond t / 10 ^ (9 - precision (nanosecond t)) : ℕ) : ℚ) *
        10 ^ (9 - precision (nanosecond t)) = nanosecond t := by
      exact_mod_cast Nat.div_mul_cancel (Nat.dvd_of_mod_eq_zero hexact)
    rw [hpow, ← hmul]
    field_simp
  rw [instant, ofInstant]
  dsimp only
  rw [add_mul, hscale, ← hnano]

theorem not_misplaced_ofInstant (u : ℤ) : ¬ (ofInstant t h).Misplaced u := by
  rintro ⟨-, hshorter, -, hzero⟩
  have hrest : nanosecond u % 10 ^ (9 - precision (nanosecond t)) = 0 := by
    by_contra hne
    exact absurd (hzero.mpr hne) Bool.false_ne_true
  have hnano : nanosecond u < 10 ^ 9 := by
    unfold nanosecond
    omega
  exact not_lt.mpr (precision_le hnano hrest) hshorter

end

end UtcText

end AgentProxy.Rfc3339
