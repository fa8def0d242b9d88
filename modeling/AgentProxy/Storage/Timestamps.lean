import AgentProxy.Lib.Rfc3339
import AgentProxy.Storage.CostRecords

namespace AgentProxy.Storage

open Bytes Cost Rfc3339 TextOrder

/-- `chrono::DateTime::from_timestamp` at a whole second. -/
def fromTimestamp (seconds : ℤ) : Option ℤ :=
  if -8334601228800 ≤ seconds ∧ seconds ≤ 8210266876799 then some (seconds * 1000000000) else none

def boundText (seconds : ℤ) : String := toRfc3339 ((fromTimestamp seconds).getD 0)

theorem boundText_of_inYears {seconds : ℤ} (h : InYears (seconds * 1000000000)) :
    boundText seconds = toRfc3339 (seconds * 1000000000) := by
  have hbounds := inYears_iff.mp h
  rw [boundText, fromTimestamp, if_pos ⟨by omega, by omega⟩, Option.getD_some]

/-- The epoch, which stands in for a bound chrono cannot represent, is no later than `b`. -/
theorem boundText_mono {a b : ℤ} (hab : a ≤ b) (hpos : 0 ≤ b) (hb : InYears (b * 1000000000)) :
    boundText a ≤ boundText b := by
  rw [boundText_of_inYears hb, boundText]
  apply toRfc3339_mono hb
  unfold fromTimestamp
  split_ifs
  · rw [Option.getD_some]
    omega
  · rw [Option.getD_none]
    omega

/-- Every stored timestamp is the text of an instant of the years 0 to 9999. -/
def Stamped (instant : CostRecord → ℤ) (records : Table CostRecord.id) : Prop :=
  ∀ r ∈ records.rows, InYears (instant r) ∧ r.timestamp = toRfc3339 (instant r)

def TimeRange.Contains (range : TimeRange) (t : ℤ) : Prop :=
  range.start * 1000000000 ≤ t ∧ t < range.stop * 1000000000

theorem selects_iff_contains {range : TimeRange} {r : CostRecord} {t : ℤ}
    (hstart : InYears (range.start * 1000000000)) (hstop : InYears (range.stop * 1000000000))
    (ht : InYears t) (hr : r.timestamp = toRfc3339 t) :
    range.selects boundText r = true ↔ range.Contains t := by
  rw [TimeRange.selects, Bool.and_eq_true, decide_eq_true_eq, decide_eq_true_eq, hr, boundText_of_inYears hstart,
    boundText_of_inYears hstop, toRfc3339_le_iff hstart ht, toRfc3339_lt_iff ht hstop]
  rfl

theorem mem_newestFirst {rfc3339 : ℤ → String} {engine : Engine} {records : Table CostRecord.id} {filter : CostFilter}
    {r : CostRecord} :
    r ∈ newestFirst rfc3339 engine records filter ↔ r ∈ records.rows ∧ filter.selects rfc3339 r = true := by
  rw [newestFirst, List.mem_insertionSort, (engine.scan_perm _).mem_iff, List.mem_filter]

theorem filter_selects_timeRange {rfc3339 : ℤ → String} {filter : CostFilter} {range : TimeRange} {r : CostRecord}
    (h : filter.timeRange = some range) :
    filter.selects rfc3339 r = true ↔
      ({ filter with timeRange := none } : CostFilter).selects rfc3339 r = true ∧ range.selects rfc3339 r = true := by
  simp only [CostFilter.selects, h, Option.all_some, Option.all_none, Bool.and_true, Bool.and_eq_true]

theorem timestamp_order_is_time_order (engine : Engine) {records : Table CostRecord.id} {instant : CostRecord → ℤ}
    (hrecords : Stamped instant records) {range : TimeRange} (hstart : InYears (range.start * 1000000000))
    (hstop : InYears (range.stop * 1000000000)) :
    (∀ s t, InYears s → InYears t →
      (utf8 (toRfc3339 s) < utf8 (toRfc3339 t) ↔ s < t) ∧ (utf8 (toRfc3339 s) = utf8 (toRfc3339 t) ↔ s = t)) ∧
      (∀ filter : CostFilter, filter.timeRange = some range → ∀ r,
        r ∈ newestFirst boundText engine records filter ↔
          r ∈ newestFirst boundText engine records { filter with timeRange := none } ∧ range.Contains (instant r)) ∧
      ∀ r, r ∈ scanned boundText engine records range ↔
        r ∈ records.rows ∧ (range.project.all fun project => decide (r.project = project)) = true ∧
          range.Contains (instant r) := by
  have hselects (r : CostRecord) (hr : r ∈ records.rows) :
      range.selects boundText r = true ↔ range.Contains (instant r) :=
    selects_iff_contains hstart hstop (hrecords r hr).1 (hrecords r hr).2
  constructor
  · intro s t hs ht
    constructor
    · rw [utf8_lt_iff, toRfc3339_lt_iff hs ht]
    · rw [utf8_injective.eq_iff, toRfc3339_inj hs ht]
  constructor
  · intro filter hfilter r
    rw [mem_newestFirst, mem_newestFirst, filter_selects_timeRange hfilter, and_assoc]
    apply and_congr_right
    intro hr
    rw [hselects r hr]
  · intro r
    rw [mem_scanned, inRange, Bool.and_eq_true, and_comm (a := range.selects boundText r = true)]
    apply and_congr_right
    intro hr
    rw [hselects r hr]

namespace Sample

def stamped : Table CostRecord.id :=
  .single (costRecord "r1" "/work/agent" (toRfc3339 1767225600123000000) 0)

theorem stamped_stamped : Stamped (fun _ => 1767225600123000000) stamped := by
  intro r hr
  obtain rfl := List.mem_singleton.mp hr
  exact ⟨by decide +kernel, rfl⟩

end Sample

theorem timestamp_order_in_january : InYears (1767225600 * 1000000000) ∧ InYears (1769904000 * 1000000000) ∧
    ∀ r ∈ Sample.stamped.rows, r ∈ scanned boundText Sample.engine Sample.stamped ⟨1767225600, 1769904000, none⟩ := by
  have hstart : InYears (1767225600 * 1000000000) := by decide +kernel
  have hstop : InYears (1769904000 * 1000000000) := by decide +kernel
  obtain ⟨-, -, hscanned⟩ :=
    @timestamp_order_is_time_order Sample.engine _ _ Sample.stamped_stamped ⟨1767225600, 1769904000, none⟩ hstart hstop
  apply And.intro hstart
  apply And.intro hstop
  intro r hr
  exact (hscanned r).mpr ⟨hr, rfl, by decide, by decide⟩

end AgentProxy.Storage
