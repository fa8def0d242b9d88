import Mathlib.Algebra.BigOperators.Group.List.Basic
import Mathlib.Algebra.Order.BigOperators.Group.List
import Mathlib.Algebra.Order.Ring.Int
import Mathlib.Algebra.Ring.Int.Defs
import Mathlib.Algebra.Ring.Nat
import Mathlib.Data.UInt
import Mathlib.Tactic.SplitIfs

namespace AgentProxy.Counter

theorem toNat_eq_mod (x : UInt64) : x.toNat = x.toNat % 2 ^ 64 := (Nat.mod_eq_of_lt x.toNat_lt).symm

theorem toNat_add_eq_mod {x y : UInt64} {m n : ℕ} (hx : x.toNat = m % 2 ^ 64) (hy : y.toNat = n % 2 ^ 64) :
    (x + y).toNat = (m + n) % 2 ^ 64 := by
  rw [UInt64.toNat_add, hx, hy, ← Nat.add_mod]

theorem toNat_add_eq_iff {x y : UInt64} {n : ℕ} (hy : y.toNat = n % 2 ^ 64) :
    (x + y).toNat = x.toNat + n ↔ x.toNat + n < 2 ^ 64 := by
  have hadd := toNat_add_eq_mod (toNat_eq_mod x) hy
  have hlt := (x + y).toNat_lt
  omega

theorem toInt64_toInt (x : UInt64) :
    x.toInt64.toInt = if x.toNat < 2 ^ 63 then (x.toNat : ℤ) else (x.toNat : ℤ) - 2 ^ 64 := by
  have hx : x.toNat = x.toBitVec.toNat := rfl
  rw [← Int64.toInt_toBitVec, UInt64.toBitVec_toInt64, BitVec.toInt_eq_toNat_cond, hx]
  split_ifs <;> omega

theorem toInt64_eq_natCast {x : UInt64} {n : ℕ} (hn : n < 2 ^ 63) :
    x.toInt64.toInt = n ↔ x.toNat = n := by
  have hx := x.toNat_lt
  rw [toInt64_toInt]
  split_ifs <;> omega

theorem toInt64_eq_iff_lt {x : UInt64} {n : ℕ} (hx : x.toNat = n % 2 ^ 64) : x.toInt64.toInt = n ↔ n < 2 ^ 63 := by
  rw [toInt64_toInt, hx]
  split_ifs <;> omega

/-- Two counters, each stored as an `i64`, add up to `t`. -/
def StoredSum (x y : UInt64) (t : ℕ) : Prop :=
  x.toNat < 2 ^ 63 ∧ y.toNat < 2 ^ 63 ∧ x.toNat + y.toNat = t ∨
    (x.toNat < 2 ^ 63 ∨ y.toNat < 2 ^ 63) ∧ x.toNat + y.toNat = t + 2 ^ 64

/-- Storing two counters as `i64` keeps their wrapped sum. -/
def Storable (x y : UInt64) : Prop :=
  x.toNat < 2 ^ 63 ∧ y.toNat < 2 ^ 63 ∨
    (x.toNat < 2 ^ 63 ∨ y.toNat < 2 ^ 63) ∧ 2 ^ 64 ≤ x.toNat + y.toNat

theorem storedSum_iff {x y : UInt64} {t : ℕ} :
    StoredSum x y t ↔ (t : ℤ) = x.toInt64.toInt + y.toInt64.toInt := by
  have hx := x.toNat_lt
  have hy := y.toNat_lt
  rw [StoredSum, toInt64_toInt, toInt64_toInt]
  split_ifs <;> omega

theorem storedSum_wrapped {x y : UInt64} : StoredSum x y ((x.toNat + y.toNat) % 2 ^ 64) ↔ Storable x y := by
  have hx := x.toNat_lt
  have hy := y.toNat_lt
  unfold StoredSum Storable
  omega

theorem storedSum_half {x : UInt64} {t : ℕ} : StoredSum (x / 2) (x / 2) t ↔ x.toNat / 2 * 2 = t := by
  have hx := x.toNat_lt
  have hhalf : (x / 2).toNat = x.toNat / 2 := UInt64.toNat_div x 2
  rw [StoredSum, hhalf]
  omega

def Fits (x : ℤ) : Prop := -2 ^ 63 ≤ x ∧ x < 2 ^ 63

instance : DecidablePred Fits := fun _ => inferInstanceAs (Decidable (_ ∧ _))

def sumOverflows (acc : ℤ) : List Int64 → Bool
  | [] => false
  | x :: xs => !decide (Fits (acc + x.toInt)) || sumOverflows (acc + x.toInt) xs

def RunningFits (xs : List Int64) : Prop := ∀ n, Fits ((xs.take n).map Int64.toInt).sum

theorem fits_toInt (x : Int64) : Fits x.toInt := ⟨x.le_toInt, x.toInt_lt⟩

theorem runningFits_of_le {xs : List Int64} {bound : ℕ} (h : ∀ x ∈ xs, 0 ≤ x.toInt ∧ x.toInt ≤ bound)
    (hfew : xs.length * bound < 2 ^ 63) : RunningFits xs := by
  intro n
  have hall : ∀ y ∈ (xs.take n).map Int64.toInt, 0 ≤ y ∧ y ≤ bound := by
    intro y hy
    obtain ⟨x, hx, rfl⟩ := List.mem_map.mp hy
    exact h x (List.mem_of_mem_take hx)
  have hnonneg := List.sum_nonneg fun y hy => (hall y hy).1
  have hle := List.sum_le_card_nsmul _ _ fun y hy => (hall y hy).2
  rw [List.length_map, nsmul_eq_mul] at hle
  have hlength : ((xs.take n).length : ℤ) * bound ≤ xs.length * bound :=
    Int.mul_le_mul_of_nonneg_right (by exact_mod_cast List.length_take_le' n xs) (Int.natCast_nonneg bound)
  have hfew : (xs.length : ℤ) * bound < 2 ^ 63 := by exact_mod_cast hfew
  exact ⟨le_trans (by decide) hnonneg, lt_of_le_of_lt (hle.trans hlength) hfew⟩

theorem sumOverflows_eq_false {acc : ℤ} (hacc : Fits acc) {xs : List Int64} :
    sumOverflows acc xs = false ↔ ∀ n, Fits (acc + ((xs.take n).map Int64.toInt).sum) := by
  induction xs generalizing acc with
  | nil => simp [sumOverflows, hacc]
  | cons x xs ih =>
    rw [sumOverflows, Bool.or_eq_false_iff, Bool.not_eq_false', decide_eq_true_eq]
    constructor
    · rintro ⟨hx, hxs⟩ n
      cases n with
      | zero => simpa using hacc
      | succ n =>
        rw [List.take_succ_cons, List.map_cons, List.sum_cons, ← add_assoc]
        exact (ih hx).mp hxs n
    · intro h
      have hx : Fits (acc + x.toInt) := by simpa using h 1
      refine ⟨hx, (ih hx).mpr fun n => ?_⟩
      have hn := h (n + 1)
      rwa [List.take_succ_cons, List.map_cons, List.sum_cons, ← add_assoc] at hn

theorem sum_toInt (xs : List Int64) : xs.sum.toInt = (xs.map Int64.toInt).sum.bmod (2 ^ 64) := by
  induction xs with
  | nil => rfl
  | cons x xs ih =>
    rw [List.sum_cons, Int64.toInt_add, ih, List.map_cons, List.sum_cons, Int.add_bmod_bmod]

theorem bmod_eq_iff {x y : ℤ} : x.bmod (2 ^ 64) = y ↔ Fits y ∧ (2 ^ 64 : ℤ) ∣ y - x := by
  rw [Fits, Int.bmod_def]
  split_ifs <;> omega

theorem bmod_of_fits {x : ℤ} (h : Fits x) : x.bmod (2 ^ 64) = x :=
  bmod_eq_iff.mpr ⟨h, by simp⟩

theorem sum_toInt_of_runningFits {xs : List Int64} (h : RunningFits xs) : xs.sum.toInt = (xs.map Int64.toInt).sum := by
  have hall := h xs.length
  rw [List.take_length] at hall
  rw [sum_toInt, bmod_of_fits hall]

end AgentProxy.Counter
