import Mathlib.Algebra.Order.Ring.Int
import Mathlib.Data.Nat.Notation

namespace AgentProxy.Calendar

/-- A date of the proleptic Gregorian calendar. -/
structure Civil where
  year : ℤ
  month : ℕ
  day : ℕ
  deriving DecidableEq

def isLeap (year : ℤ) : Bool := year % 4 = 0 && (year % 100 ≠ 0 || year % 400 = 0)

/-- Days from the first of January of the year 1 to that of `year`. -/
def daysBeforeYear (year : ℤ) : ℤ := 365 * (year - 1) + (year - 1) / 4 - (year - 1) / 100 + (year - 1) / 400

def monthStarts : List ℕ := [0, 31, 60, 91, 121, 152, 182, 213, 244, 274, 305, 335]

/-- The place of a day in a leap year. -/
def leapPlace (leap : Bool) (ordinal : ℕ) : ℕ := if leap || ordinal < 59 then ordinal else ordinal + 1

def monthAt (place : ℕ) : ℕ := monthStarts.countP fun start => start ≤ place

def dayAt (place : ℕ) : ℕ := place + 1 - monthStarts.getD (monthAt place - 1) 0

/-- The year of a day and the days before it in that year, for days counted from the year 1. -/
def yearOrdinal (n : ℤ) : ℤ × ℕ :=
  let inCycle := (n % 146097).toNat
  let century := min (inCycle / 36524) 3
  let inCentury := inCycle - century * 36524
  let inFour := inCentury % 1461
  let year := min (inFour / 365) 3
  (400 * (n / 146097) + 100 * century + 4 * (inCentury / 1461 : ℕ) + year + 1, inFour - year * 365)

/-- Days are counted from 1970-01-01. -/
def ofDays (n : ℤ) : Civil :=
  let (year, ordinal) := yearOrdinal (n + 719162)
  let place := leapPlace (isLeap year) ordinal
  ⟨year, monthAt place, dayAt place⟩

def toDays (c : Civil) : ℤ :=
  let place := monthStarts.getD (c.month - 1) 0 + c.day - 1
  daysBeforeYear c.year + (if isLeap c.year || place < 59 then place else place - 1 : ℕ) - 719162

theorem isLeap_iff (year : ℤ) : isLeap year = true ↔ year % 4 = 0 ∧ (year % 100 ≠ 0 ∨ year % 400 = 0) := by
  simp only [isLeap, Bool.and_eq_true, Bool.or_eq_true, decide_eq_true_eq]

theorem daysBeforeYear_succ (year : ℤ) :
    daysBeforeYear (year + 1) = daysBeforeYear year + 365 + if isLeap year then 1 else 0 := by
  have hleap := isLeap_iff year
  unfold daysBeforeYear
  split_ifs with h
  · obtain ⟨hfour, hcentury⟩ := hleap.mp h
    omega
  · have hcommon : ¬ (year % 4 = 0 ∧ (year % 100 ≠ 0 ∨ year % 400 = 0)) := fun hy => h (hleap.mpr hy)
    omega

theorem daysBeforeYear_mono {a b : ℤ} (h : a ≤ b) : daysBeforeYear a ≤ daysBeforeYear b := by
  unfold daysBeforeYear
  omega

theorem inCycle_year (q : ℤ) {c f y : ℕ} (hc : c ≤ 3) (hf : f ≤ 24) (hy : y ≤ 3) :
    daysBeforeYear (400 * q + 100 * c + 4 * f + y + 1) = 146097 * q + 36524 * c + 1461 * f + 365 * y ∧
      (isLeap (400 * q + 100 * c + 4 * f + y + 1) = true ↔ y = 3 ∧ (f ≠ 24 ∨ c = 3)) := by
  constructor
  · unfold daysBeforeYear
    omega
  · rw [isLeap_iff]
    omega

theorem yearOrdinal_spec (n : ℤ) : n = daysBeforeYear (yearOrdinal n).1 + (yearOrdinal n).2 ∧
    (yearOrdinal n).2 < 365 + if isLeap (yearOrdinal n).1 then 1 else 0 := by
  obtain ⟨cycle, hcycle⟩ : ∃ cycle : ℕ, n % 146097 = cycle := ⟨(n % 146097).toNat, by omega⟩
  have hbound : cycle < 146097 := by omega
  have hn : n = 146097 * (n / 146097) + cycle := by omega
  simp only [yearOrdinal, hcycle, Int.toNat_natCast]
  generalize n / 146097 = q at hn ⊢
  have hcentury : min (cycle / 36524) 3 ≤ 3 := Nat.min_le_right _ _
  have hinCentury : cycle - min (cycle / 36524) 3 * 36524 < 36524 + if min (cycle / 36524) 3 = 3 then 1 else 0 := by
    split_ifs with h
    all_goals omega
  have hcycle : cycle = min (cycle / 36524) 3 * 36524 + (cycle - min (cycle / 36524) 3 * 36524) := by omega
  generalize min (cycle / 36524) 3 = c at *
  generalize cycle - c * 36524 = r at *
  have hyear : min (r % 1461 / 365) 3 ≤ 3 := Nat.min_le_right _ _
  have hordinal : r % 1461 - min (r % 1461 / 365) 3 * 365 < 365 + if min (r % 1461 / 365) 3 = 3 then 1 else 0 := by
    split_ifs with h
    all_goals omega
  have hr : r = 1461 * (r / 1461) + min (r % 1461 / 365) 3 * 365 + (r % 1461 - min (r % 1461 / 365) 3 * 365) := by omega
  generalize min (r % 1461 / 365) 3 = y at *
  generalize r % 1461 - y * 365 = o at *
  generalize r / 1461 = f at *
  have hf : f ≤ 24 := by
    split_ifs at hinCentury
    all_goals omega
  obtain ⟨hdays, hleap⟩ := inCycle_year q hcentury hf hyear
  constructor
  · rw [hdays]
    omega
  · simp only [hleap]
    split_ifs at hinCentury hordinal ⊢
    all_goals omega

theorem leapPlace_lt {leap : Bool} {ordinal : ℕ} (h : ordinal < 365 + if leap then 1 else 0) :
    leapPlace leap ordinal < 366 := by
  unfold leapPlace
  cases leap
  all_goals
    simp only [Bool.false_or, Bool.true_or, decide_eq_true_eq, Bool.false_eq_true, if_true, if_false] at h ⊢
    try split_ifs
    all_goals omega

theorem leapPlace_mono (leap : Bool) {a b : ℕ} (h : a < b) : leapPlace leap a < leapPlace leap b := by
  unfold leapPlace
  cases leap
  all_goals
    simp only [Bool.false_or, Bool.true_or, decide_eq_true_eq, if_true]
    try split_ifs
    all_goals omega

def monthDay (place : ℕ) : ℕ := 100 * monthAt place + dayAt place

theorem monthAt_bounds (place : ℕ) : 1 ≤ monthAt place ∧ monthAt place ≤ 12 := by
  constructor
  · apply List.countP_pos_iff.mpr
    exact ⟨0, List.mem_cons_self, decide_eq_true (Nat.zero_le place)⟩
  · exact List.countP_le_length

theorem dayAt_bounds : ∀ place < 366, 1 ≤ dayAt place ∧ dayAt place ≤ 31 := by decide +kernel

theorem place_monthDay : ∀ place < 366, monthStarts.getD (monthAt place - 1) 0 + dayAt place - 1 = place := by
  decide +kernel

theorem monthDay_succ : ∀ place < 365, monthDay place < monthDay (place + 1) := by decide +kernel

theorem monthDay_mono {a b : ℕ} (h : a < b) (hb : b < 366) : monthDay a < monthDay b := by
  induction b, h using Nat.le_induction with
  | base => exact monthDay_succ a (by omega)
  | succ b hab ih => exact (ih (by omega)).trans (monthDay_succ b (by omega))

theorem toDays_ofDays (n : ℤ) : toDays (ofDays n) = n := by
  obtain ⟨hn, hordinal⟩ := yearOrdinal_spec (n + 719162)
  have hplace := place_monthDay _ (leapPlace_lt hordinal)
  simp only [toDays, ofDays, hplace]
  generalize (yearOrdinal (n + 719162)).1 = year at *
  generalize (yearOrdinal (n + 719162)).2 = ordinal at *
  have hback : (if isLeap year || decide (leapPlace (isLeap year) ordinal < 59) then leapPlace (isLeap year) ordinal
      else leapPlace (isLeap year) ordinal - 1) = ordinal := by
    unfold leapPlace
    cases isLeap year
    all_goals
      simp only [Bool.false_or, Bool.true_or, decide_eq_true_eq, if_true]
      try split_ifs
      all_goals omega
  rw [hback]
  omega

def Civil.Before (a b : Civil) : Prop :=
  a.year < b.year ∨ a.year = b.year ∧ 100 * a.month + a.day < 100 * b.month + b.day

theorem ofDays_mono {m n : ℤ} (h : m < n) : (ofDays m).Before (ofDays n) := by
  obtain ⟨hm, hmordinal⟩ := yearOrdinal_spec (m + 719162)
  obtain ⟨hn, hnordinal⟩ := yearOrdinal_spec (n + 719162)
  have hplace := leapPlace_lt hnordinal
  simp only [Civil.Before, ofDays]
  generalize (yearOrdinal (m + 719162)).1 = year at *
  generalize (yearOrdinal (n + 719162)).1 = year' at *
  rcases lt_trichotomy year year' with hyear | rfl | hyear
  · exact .inl hyear
  · right
    constructor
    · rfl
    · apply monthDay_mono (leapPlace_mono _ _) hplace
      omega
  · have hsucc := daysBeforeYear_succ year'
    have hmono := daysBeforeYear_mono (show year' + 1 ≤ year by omega)
    split_ifs at hsucc hnordinal
    all_goals omega

theorem ofDays_month (n : ℤ) : 1 ≤ (ofDays n).month ∧ (ofDays n).month ≤ 12 :=
  monthAt_bounds _

theorem ofDays_day (n : ℤ) : 1 ≤ (ofDays n).day ∧ (ofDays n).day ≤ 31 :=
  dayAt_bounds _ (leapPlace_lt (yearOrdinal_spec (n + 719162)).2)

end AgentProxy.Calendar
