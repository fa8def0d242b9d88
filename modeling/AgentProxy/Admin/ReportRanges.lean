import AgentProxy.Admin.CostReports
import AgentProxy.Storage.Timestamps

namespace AgentProxy.Admin

open Calendar Rfc3339 Storage

/-- The calendar date and the second of the day of chrono's `NaiveDateTime`; no report range keeps the nanoseconds. -/
structure NaiveDateTime where
  date : Civil
  second : ℕ

namespace NaiveDateTime

def dateOfDays (day : ℤ) : Option Civil := if -96465292 ≤ day ∧ day ≤ 95026236 then some (ofDays day) else none

/-- The operator `-` with a duration of whole seconds; nothing where it panics. -/
def sub (t : NaiveDateTime) (seconds : ℤ) : Option NaiveDateTime := do
  let date ← dateOfDays (toDays t.date + (t.second - seconds) / 86400)
  some ⟨date, ((t.second - seconds) % 86400).toNat⟩

def midnight (t : NaiveDateTime) : NaiveDateTime := ⟨t.date, 0⟩

def timestamp (t : NaiveDateTime) : ℤ := toDays t.date * 86400 + t.second

def ofSeconds (seconds : ℤ) : NaiveDateTime := ⟨ofDays (seconds / 86400), (seconds % 86400).toNat⟩

theorem timestamp_ofSeconds (seconds : ℤ) : (ofSeconds seconds).timestamp = seconds := by
  simp only [timestamp, ofSeconds, toDays_ofDays]
  omega

theorem midnight_ofSeconds (seconds : ℤ) : (ofSeconds seconds).midnight = ofSeconds (seconds / 86400 * 86400) := by
  simp only [midnight, ofSeconds, NaiveDateTime.mk.injEq]
  constructor
  · congr 1
    omega
  · omega

theorem sub_ofSeconds (seconds d : ℤ) : (ofSeconds seconds).sub d = (naive (seconds - d)).map ofSeconds := by
  have hday : seconds / 86400 + (((seconds % 86400).toNat : ℤ) - d) / 86400 = (seconds - d) / 86400 := by omega
  have hsecond : (((seconds % 86400).toNat : ℤ) - d) % 86400 = (seconds - d) % 86400 := by omega
  simp only [sub, ofSeconds, toDays_ofDays, hday, hsecond, dateOfDays, naive]
  by_cases h : -8334601228800 ≤ seconds - d ∧ seconds - d ≤ 8210266876799
  · rw [if_pos h, if_pos ⟨by omega, by omega⟩]
    rfl
  · rw [if_neg h, if_neg (by omega)]
    rfl

end NaiveDateTime

open NaiveDateTime

def localOffset (offsetMinutes : Int32) : ℤ := (eastOpt (max (-720) (min offsetMinutes.toInt 840) * 60)).getD 0

/-- `compute_time_range` at an instant in nanoseconds, through the calendar; nothing where chrono panics. -/
def zonedTimeRange (now : ℤ) (days : UInt32) (tzOffset : Option Int32) (project : Option String) : Option TimeRange :=
  match tzOffset with
  | none => some ⟨now / 1000000000 - days.toNat * 86400, now / 1000000000, project⟩
  | some offsetMinutes => do
    let offset := localOffset offsetMinutes
    let localNow ← (NaiveDateTime.mk (Rfc3339.date now) (secondOfDay now)).sub (-offset)
    let localStart ← localNow.midnight.sub (((days.toNat - 1 : ℕ) : ℤ) * 86400)
    let utcStart ← localStart.sub offset
    some ⟨utcStart.timestamp, now / 1000000000, project⟩

theorem zonedTimeRange_eq (now : ℤ) (days : UInt32) (tzOffset : Option Int32) (project : Option String) :
    zonedTimeRange now days tzOffset project = computeTimeRange (now / 1000000000) days tzOffset project := by
  cases tzOffset with
  | none => rfl
  | some offsetMinutes =>
    have hnow : NaiveDateTime.mk (Rfc3339.date now) (secondOfDay now) = ofSeconds (now / 1000000000) := by
      simp only [ofSeconds, Rfc3339.date, secondOfDay, NaiveDateTime.mk.injEq, and_true]
      congr 1
      omega
    simp only [zonedTimeRange, computeTimeRange, hnow, sub_ofSeconds, sub_neg_eq_add, Option.bind_eq_bind,
      Option.bind_map, Function.comp_def, midnight_ofSeconds, timestamp_ofSeconds]
    rfl

def offsetSeconds (offsetMinutes : Int32) : ℤ := max (-720) (min offsetMinutes.toInt 840) * 60

theorem offsetSeconds_bounds (offsetMinutes : Int32) :
    -43200 ≤ offsetSeconds offsetMinutes ∧ offsetSeconds offsetMinutes ≤ 50400 := by
  unfold offsetSeconds
  omega

theorem eastOpt_offsetSeconds (offsetMinutes : Int32) :
    eastOpt (max (-720) (min offsetMinutes.toInt 840) * 60) = some (offsetSeconds offsetMinutes) := by
  have hbounds := offsetSeconds_bounds offsetMinutes
  exact if_pos ⟨by omega, by omega⟩

def Representable (seconds : ℤ) : Prop := -8334601228800 ≤ seconds ∧ seconds ≤ 8210266876799

instance (seconds : ℤ) : Decidable (Representable seconds) := inferInstanceAs (Decidable (_ ∧ _))

theorem naive_eq_some {seconds : ℤ} (h : Representable seconds) : naive seconds = some seconds := if_pos h

theorem naive_eq_none {seconds : ℤ} (h : ¬ Representable seconds) : naive seconds = none := if_neg h

theorem representable_of_naive {seconds t : ℤ} (h : naive seconds = some t) : Representable seconds := by
  by_contra hout
  rw [naive_eq_none hout] at h
  cases h

/-- The first local midnight of the last `d` local days, as a local time. -/
def firstMidnight (now : ℤ) (offset : ℤ) (d : ℕ) : ℤ := (now + offset) / 86400 * 86400 - (d - 1) * 86400

structure DatesRepresentable (now : ℤ) (days : UInt32) (offset : ℤ) : Prop where
  localNow : Representable (now + offset)
  localStart : Representable (firstMidnight now offset (max days.toNat 1))
  utcStart : Representable (firstMidnight now offset (max days.toNat 1) - offset)

theorem computeTimeRange_some (now : ℤ) (days : UInt32) (offsetMinutes : Int32) (project : Option String) :
    computeTimeRange now days (some offsetMinutes) project =
      (naive (now + offsetSeconds offsetMinutes)).bind fun _ =>
        (naive (firstMidnight now (offsetSeconds offsetMinutes) (max days.toNat 1))).bind fun _ =>
          (naive (firstMidnight now (offsetSeconds offsetMinutes) (max days.toNat 1) - offsetSeconds offsetMinutes)).bind
            fun start => some ⟨start, now, project⟩ := by
  have hdays : ((days.toNat - 1 : ℕ) : ℤ) = ((max days.toNat 1 : ℕ) : ℤ) - 1 := by omega
  simp only [computeTimeRange, eastOpt_offsetSeconds, Option.getD_some, Option.bind_eq_bind, hdays]
  by_cases hnow : Representable (now + offsetSeconds offsetMinutes)
  · rw [naive_eq_some hnow, Option.bind_some, Option.bind_some]
    change (naive (firstMidnight now (offsetSeconds offsetMinutes) (max days.toNat 1))).bind _ = _
    by_cases hstart : Representable (firstMidnight now (offsetSeconds offsetMinutes) (max days.toNat 1))
    · rw [naive_eq_some hstart]
      rfl
    · rw [naive_eq_none hstart]
      rfl
  · rw [naive_eq_none hnow]
    rfl

theorem computeTimeRange_of_representable {now : ℤ} {days : UInt32} {offsetMinutes : Int32} (project : Option String)
    (h : DatesRepresentable now days (offsetSeconds offsetMinutes)) :
    computeTimeRange now days (some offsetMinutes) project =
      some ⟨firstMidnight now (offsetSeconds offsetMinutes) (max days.toNat 1) - offsetSeconds offsetMinutes, now,
        project⟩ := by
  rw [computeTimeRange_some, naive_eq_some h.localNow, naive_eq_some h.localStart, naive_eq_some h.utcStart]
  rfl

theorem report_range_local_days {now : ℤ} {days : UInt32} {offsetMinutes : Int32} (project : Option String)
    (h : DatesRepresentable (now / 1000000000) days (offsetSeconds offsetMinutes)) :
    ∃ start, start = (now / 1000000000 + offsetSeconds offsetMinutes) / 86400 * 86400 -
          ((max days.toNat 1 : ℕ) - 1) * 86400 - offsetSeconds offsetMinutes ∧
      zonedTimeRange now days (some offsetMinutes) project = some ⟨start, now / 1000000000, project⟩ ∧
      (start + offsetSeconds offsetMinutes) % 86400 = 0 ∧ start ≤ now / 1000000000 ∧
      now / 1000000000 - start < (max days.toNat 1 : ℕ) * 86400 ∧
      ∀ next : UInt32, next.toNat = max days.toNat 1 + 1 →
        DatesRepresentable (now / 1000000000) next (offsetSeconds offsetMinutes) →
          zonedTimeRange now next (some offsetMinutes) project = some ⟨start - 86400, now / 1000000000, project⟩ := by
  have hstart := computeTimeRange_of_representable project h
  rw [firstMidnight] at hstart
  apply Exists.intro _
  apply And.intro rfl
  rw [zonedTimeRange_eq]
  apply And.intro hstart
  constructor
  · omega
  constructor
  · omega
  constructor
  · omega
  intro next hnext hdates
  rw [zonedTimeRange_eq, computeTimeRange_of_representable project hdates, firstMidnight]
  have hmax : max next.toNat 1 = max days.toNat 1 + 1 := by omega
  rw [hmax, Option.some_inj, TimeRange.mk.injEq]
  apply And.intro _ ⟨rfl, rfl⟩
  omega

theorem report_range_shanghai :
    DatesRepresentable (1767225600123000000 / 1000000000) 2 (offsetSeconds 480) ∧
      zonedTimeRange 1767225600123000000 2 (some 480) none = some ⟨1767110400, 1767225600, none⟩ := by
  have hdates : DatesRepresentable (1767225600123000000 / 1000000000) 2 (offsetSeconds 480) :=
    ⟨by decide, by decide, by decide⟩
  obtain ⟨start, rfl, hrange, -⟩ := report_range_local_days none hdates
  exact ⟨hdates, hrange.trans (by decide +kernel)⟩

/-- The range is computed without a panic and both its ends and its bounds are in order. -/
def RangeServed (now : ℤ) (days : UInt32) (tzOffset : Option Int32) (project : Option String) : Prop :=
  ∃ range, zonedTimeRange now days tzOffset project = some range ∧ range.start ≤ range.stop ∧
    boundText range.start ≤ boundText range.stop

theorem nonneg_of_year {now : ℤ} (h : 1970 ≤ (Rfc3339.date now).year) : 0 ≤ now := by
  by_contra hneg
  have hyear := year_mono (show now ≤ -1 by omega)
  have hlast : (Rfc3339.date (-1)).year = 1969 := by decide +kernel
  omega

theorem inYears_seconds {now : ℤ} (h : InYears now) : InYears (now / 1000000000 * 1000000000) := by
  have hbounds := inYears_iff.mp h
  apply inYears_iff.mpr
  constructor
  · omega
  · omega

theorem rangeServed_of_eq {now : ℤ} {days : UInt32} {tzOffset : Option Int32} {project : Option String} {start : ℤ}
    (hpos : 0 ≤ now) (hnow : InYears now)
    (h : zonedTimeRange now days tzOffset project = some ⟨start, now / 1000000000, project⟩)
    (hstart : start ≤ now / 1000000000) : RangeServed now days tzOffset project := by
  have hseconds : 0 ≤ now / 1000000000 := by omega
  exact ⟨_, h, hstart, boundText_mono hstart hseconds (inYears_seconds hnow)⟩

theorem report_range_served_iff {now : ℤ} (hfirst : 1970 ≤ (Rfc3339.date now).year)
    (hlast : (Rfc3339.date now).year ≤ 9999) (days : UInt32) (tzOffset : Option Int32) (project : Option String) :
    RangeServed now days tzOffset project ↔ ∀ offsetMinutes, tzOffset = some offsetMinutes →
      -8334601228800 ≤
          firstMidnight (now / 1000000000) (offsetSeconds offsetMinutes) (max days.toNat 1) ∧
        -8334601228800 ≤
          firstMidnight (now / 1000000000) (offsetSeconds offsetMinutes) (max days.toNat 1) -
            offsetSeconds offsetMinutes := by
  have hpos := nonneg_of_year hfirst
  have hnow : InYears now := ⟨by omega, hlast⟩
  have hbounds := inYears_iff.mp hnow
  cases tzOffset with
  | none =>
    apply iff_of_true
    · exact rangeServed_of_eq hpos hnow rfl (by omega)
    · intro offsetMinutes h
      cases h
  | some offsetMinutes =>
    have hoffset := offsetSeconds_bounds offsetMinutes
    constructor
    · rintro ⟨range, hrange, -⟩ _ ⟨⟩
      rw [zonedTimeRange_eq, computeTimeRange_some] at hrange
      simp only [Option.bind_eq_some_iff] at hrange
      obtain ⟨_, -, _, hstart, _, hutc, -⟩ := hrange
      exact ⟨(representable_of_naive hstart).1, (representable_of_naive hutc).1⟩
    · intro h
      obtain ⟨hlocal, hutc⟩ := h offsetMinutes rfl
      have hdates : DatesRepresentable (now / 1000000000) days (offsetSeconds offsetMinutes) := by
        unfold firstMidnight at hlocal hutc
        constructor
        · exact ⟨by omega, by omega⟩
        · unfold firstMidnight
          exact ⟨hlocal, by omega⟩
        · unfold firstMidnight
          exact ⟨hutc, by omega⟩
      apply rangeServed_of_eq hpos hnow
      · rw [zonedTimeRange_eq]
        exact computeTimeRange_of_representable project hdates
      · unfold firstMidnight
        omega

theorem report_range_served_thirty_days : 1970 ≤ (Rfc3339.date 1767225600123000000).year ∧
    (Rfc3339.date 1767225600123000000).year ≤ 9999 ∧ RangeServed 1767225600123000000 30 (some 480) none := by
  have hfirst : 1970 ≤ (Rfc3339.date 1767225600123000000).year := by decide +kernel
  have hlast : (Rfc3339.date 1767225600123000000).year ≤ 9999 := by decide +kernel
  apply And.intro hfirst
  apply And.intro hlast
  rw [report_range_served_iff hfirst hlast]
  rintro _ ⟨⟩
  exact ⟨by decide +kernel, by decide +kernel⟩

theorem report_range_panics : 1970 ≤ (Rfc3339.date 1767225600123000000).year ∧
    (Rfc3339.date 1767225600123000000).year ≤ 9999 ∧
    ¬ RangeServed 1767225600123000000 4294967295 (some 0) none := by
  apply And.intro (by decide +kernel)
  apply And.intro (by decide +kernel)
  rintro ⟨range, hrange, -⟩
  have hnone : zonedTimeRange 1767225600123000000 4294967295 (some 0) none = none := by decide +kernel
  rw [hnone] at hrange
  cases hrange

end AgentProxy.Admin
