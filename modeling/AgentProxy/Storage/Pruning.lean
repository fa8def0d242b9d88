import AgentProxy.Lib.UtcText
import AgentProxy.Storage.Timestamps

namespace AgentProxy.Storage

open Cost Rfc3339

def checkedSubDays (t : ℤ) (days : ℕ) : Option ℤ :=
  (fromTimestamp (t / 1000000000 - days * 86400)).map fun _ => t - days * 86400000000000

/-- `unwrap_or` reads the clock a second time, also when the first reading is used. -/
def pruneCutoff (now again : ℤ) (olderThanDays : UInt32) : ℤ := (checkedSubDays now olderThanDays.toNat).getD again

def pruneCostRecords (now again : ℤ) (olderThanDays : UInt32) (records : Table CostRecord.id) :
    Table CostRecord.id × ℕ :=
  let cutoff := toRfc3339 (pruneCutoff now again olderThanDays)
  (records.filterOut fun r => decide (r.timestamp < cutoff),
    records.rows.countP fun r => decide (r.timestamp < cutoff))

structure DeletesExactly (doomed : CostRecord → Bool) (records : Table CostRecord.id)
    (result : Table CostRecord.id × ℕ) : Prop where
  kept : result.1.rows = records.rows.filter fun r => !doomed r
  count : result.2 = records.rows.countP doomed

/-- Every stored timestamp is a UTC text of RFC 3339. -/
def Written (stamp : CostRecord → UtcText) (records : Table CostRecord.id) : Prop :=
  ∀ r ∈ records.rows, r.timestamp = (stamp r).text

def boundary (now : ℤ) (days : UInt32) : ℤ := now - days.toNat * 86400000000000

def olderThan (stamp : CostRecord → UtcText) (now : ℤ) (days : UInt32) (r : CostRecord) : Bool :=
  decide ((stamp r).instant < boundary now days)

section

variable {now again : ℤ} {days : UInt32} {records : Table CostRecord.id} {stamp : CostRecord → UtcText}

theorem pruneCutoff_year (hnow : InYears now) (hagain : InYears again) :
    (date (pruneCutoff now again days)).year ≤ 9999 := by
  rw [pruneCutoff]
  unfold checkedSubDays
  cases fromTimestamp (now / 1000000000 - days.toNat * 86400) with
  | none => exact hagain.2
  | some _ => exact (year_mono (by simp)).trans hnow.2

theorem pruneCutoff_eq (hnow : InYears now) : pruneCutoff now again days =
    if -8334601228800 ≤ now / 1000000000 - days.toNat * 86400 then boundary now days else again := by
  have hbounds := inYears_iff.mp hnow
  rw [pruneCutoff, checkedSubDays]
  split_ifs with hcutoff
  · have hsome : fromTimestamp (now / 1000000000 - days.toNat * 86400) =
        some ((now / 1000000000 - days.toNat * 86400) * 1000000000) := if_pos ⟨hcutoff, by omega⟩
    rw [hsome]
    rfl
  · have hnone : fromTimestamp (now / 1000000000 - days.toNat * 86400) = none := if_neg fun h => hcutoff h.1
    rw [hnone]
    rfl

theorem deletesExactly_congr {doomed doomed' : CostRecord → Bool} {result : Table CostRecord.id × ℕ}
    (h : DeletesExactly doomed records result) :
    DeletesExactly doomed' records result ↔ ∀ r ∈ records.rows, doomed r = doomed' r := by
  constructor
  · intro h' r hr
    have hkept : r ∈ records.rows.filter (fun r => !doomed r) ↔ r ∈ records.rows.filter (fun r => !doomed' r) := by
      rw [← h.kept, ← h'.kept]
    rw [List.mem_filter, List.mem_filter, and_iff_right hr, and_iff_right hr, ← Bool.eq_iff_iff] at hkept
    exact Bool.not_inj hkept
  · intro hsame
    constructor
    · rw [h.kept]
      apply List.filter_congr
      intro r hr
      rw [hsame r hr]
    · rw [h.count]
      apply List.countP_congr
      intro r hr
      rw [hsame r hr]

theorem deletesExactly_pruned : DeletesExactly
    (fun r => decide (r.timestamp < toRfc3339 (pruneCutoff now again days))) records
    (pruneCostRecords now again days records) := ⟨rfl, rfl⟩

theorem not_older_of_unrepresentable (hnow : InYears now)
    (h : ¬ -8334601228800 ≤ now / 1000000000 - days.toNat * 86400) (s : UtcText) :
    ¬ s.instant < boundary now days := by
  have hyear := inYears_iff.mp s.inYears
  have hnow' := inYears_iff.mp hnow
  apply not_lt.mpr
  apply s.le_instant_of_lt_second
  unfold boundary
  omega

theorem prunes_older_iff (hnow : InYears now) (hagain : InYears again) (hrecords : Written stamp records) :
    DeletesExactly (olderThan stamp now days) records (pruneCostRecords now again days records) ↔
      if -8334601228800 ≤ now / 1000000000 - days.toNat * 86400 then
        ∀ r ∈ records.rows, ¬ (stamp r).Misplaced (boundary now days)
      else ∀ r ∈ records.rows, (stamp r).instant < again ↔ (stamp r).Misplaced again := by
  have htext (r : CostRecord) := (stamp r).text_lt_iff (@pruneCutoff_year now again days hnow hagain)
  have hcutoff := @pruneCutoff_eq now again days hnow
  rw [deletesExactly_congr deletesExactly_pruned]
  split_ifs at hcutoff ⊢ with hrepresentable
  · apply forall₂_congr
    intro r hr
    rw [olderThan, decide_eq_decide, hrecords r hr, htext r, hcutoff]
    by_cases holder : (stamp r).instant < boundary now days <;> simp [holder]
  · apply forall₂_congr
    intro r hr
    have hyoung := not_older_of_unrepresentable hnow hrepresentable (stamp r)
    rw [olderThan, decide_eq_decide, hrecords r hr, htext r, hcutoff, iff_false_intro hyoung, iff_false]
    by_cases hmisplaced : (stamp r).Misplaced again <;> simp [hmisplaced]

end

/-- A second without a fraction and with `Z` is above the text half a second later. -/
example : (⟨.upper, 1767225600, 0, 0, .upper, by decide +kernel, by decide⟩ : UtcText).Misplaced 1767225600500000000 :=
  ⟨by decide, by decide, by decide, by decide⟩

namespace Sample

theorem newYear : InYears 1767225600123000000 := by decide +kernel

def newYearText : UtcText := .ofInstant _ newYear

theorem stamped_written : Written (fun _ => newYearText) stamped := by
  intro r hr
  obtain rfl := List.mem_singleton.mp hr
  exact (UtcText.ofInstant_text newYear).symm

end Sample

theorem prunes_older_ninety_days : InYears 1767225601000000000 ∧ Written (fun _ => Sample.newYearText) Sample.stamped ∧
    DeletesExactly (olderThan (fun _ => Sample.newYearText) 1767225601000000000 90) Sample.stamped
      (pruneCostRecords 1767225601000000000 1767225601000000000 90 Sample.stamped) := by
  have hnow : InYears 1767225601000000000 := by decide +kernel
  refine ⟨hnow, Sample.stamped_written, (prunes_older_iff hnow hnow Sample.stamped_written).mpr ?_⟩
  rw [if_pos (by decide)]
  exact fun r _ => UtcText.not_misplaced_ofInstant Sample.newYear _

theorem prune_drops_recent : InYears 1767225601000000000 ∧ Written (fun _ => Sample.newYearText) Sample.stamped ∧
    ¬ DeletesExactly (olderThan (fun _ => Sample.newYearText) 1767225601000000000 4294967295) Sample.stamped
      (pruneCostRecords 1767225601000000000 1767225601000000000 4294967295 Sample.stamped) := by
  have hnow : InYears 1767225601000000000 := by decide +kernel
  have hcount : (pruneCostRecords 1767225601000000000 1767225601000000000 4294967295 Sample.stamped).2 = 1 := by
    decide +kernel
  refine ⟨hnow, Sample.stamped_written, ?_⟩
  intro h
  have hyoung := @not_older_of_unrepresentable _ 4294967295 hnow (by decide) Sample.newYearText
  have hnone : Sample.stamped.rows.countP (olderThan (fun _ => Sample.newYearText) 1767225601000000000 4294967295) =
      0 := List.countP_eq_zero.mpr fun _ _ holder => hyoung (of_decide_eq_true holder)
  have hone := hcount.symm.trans (h.count.trans hnone)
  exact absurd hone (by decide)

end AgentProxy.Storage
