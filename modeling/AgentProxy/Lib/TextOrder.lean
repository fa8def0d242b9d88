import AgentProxy.Lib.Bytes
import Mathlib.Data.String.Basic

namespace AgentProxy.TextOrder

open Bytes

section

variable {α : Type} [LT α] {a b : List α}

/-- Every text that goes on from `a` is below every text that goes on from `b`. -/
def Below (a b : List α) : Prop := ∀ x y, a ++ x < b ++ y

theorem Below.append (h : Below a b) (x y : List α) : Below (a ++ x) (b ++ y) := by
  intro x' y'
  rw [List.append_assoc, List.append_assoc]
  exact h _ _

theorem Below.append_left (h : Below a b) (front : List α) : Below (front ++ a) (front ++ b) := by
  intro x y
  rw [List.append_assoc, List.append_assoc]
  exact List.append_left_lt (h x y)

theorem Below.cons (h : Below a b) (c : α) : Below (c :: a) (c :: b) := fun x y => .cons (h x y)

theorem Below.lt (h : Below a b) : a < b := by
  have hlt := h [] []
  rwa [List.append_nil, List.append_nil] at hlt

theorem below_cons {c d : α} (h : c < d) (a b : List α) : Below (c :: a) (d :: b) := fun _ _ => .rel h

end


theorem ofNat_lt {a b : ℕ} (h : a < b) (hb : b < 256) : UInt8.ofNat a < UInt8.ofNat b := by
  rw [UInt8.lt_iff_toNat_lt, UInt8.toNat_ofNat_of_lt' (h.trans hb), UInt8.toNat_ofNat_of_lt' hb]
  exact h

theorem below_byte {a b : ℕ} {x y : List UInt8} (h : a ≤ b) (hb : b < 256) (hrest : a = b → Below x y) :
    Below (UInt8.ofNat a :: x) (UInt8.ofNat b :: y) := by
  rcases h.lt_or_eq with hlt | rfl
  · exact below_cons (ofNat_lt hlt hb) _ _
  · exact (hrest rfl).cons _

/-- UTF-8 is ordered as the code points are: the lead byte grows with the length, and equal lead bytes have equal
lengths. -/
theorem utf8EncodeChar_below {c d : Char} (h : c < d) : Below (String.utf8EncodeChar c) (String.utf8EncodeChar d) := by
  have hlt : c.val.toNat < d.val.toNat := h
  have hmax : d.val.toNat < 1114112 := by
    obtain hv | ⟨-, hv⟩ := d.valid
    · exact hv.trans (by omega)
    · exact hv
  unfold String.utf8EncodeChar
  generalize c.val.toNat = v at *
  generalize d.val.toNat = w at *
  dsimp only
  split_ifs
  all_goals
    apply below_byte
    · omega
    · omega
    intro hlead
    try omega
  · apply below_byte
    · omega
    · omega
    intro hsecond
    omega
  · apply below_byte
    · omega
    · omega
    intro hsecond
    apply below_byte
    · omega
    · omega
    intro hthird
    omega
  · apply below_byte
    · omega
    · omega
    intro hsecond
    apply below_byte
    · omega
    · omega
    intro hthird
    apply below_byte
    · omega
    · omega
    intro hfourth
    omega

theorem utf8EncodeChar_ne_nil (c : Char) : String.utf8EncodeChar c ≠ [] := by
  unfold String.utf8EncodeChar
  dsimp only
  split_ifs
  all_goals exact List.cons_ne_nil _ _

theorem flatMap_utf8_lt {a b : List Char} (h : a < b) :
    a.flatMap String.utf8EncodeChar < b.flatMap String.utf8EncodeChar := by
  induction h with
  | @nil c _ =>
    obtain ⟨byte, bytes, hc⟩ := List.exists_cons_of_ne_nil (utf8EncodeChar_ne_nil c)
    rw [List.flatMap_cons, hc]
    exact .nil
  | cons _ ih => exact List.append_left_lt ih
  | rel h => exact utf8EncodeChar_below h _ _

theorem utf8_lt_iff {s t : String} : utf8 s < utf8 t ↔ s < t := by
  have hlt {s t : String} (h : s < t) : utf8 s < utf8 t := flatMap_utf8_lt (String.lt_iff_toList_lt.mp h)
  constructor
  · intro h
    by_contra hle
    rcases (not_lt.mp hle).lt_or_eq with hgt | rfl
    · exact List.lt_asymm h (hlt hgt)
    · exact List.lt_irrefl _ h
  · exact hlt

end AgentProxy.TextOrder
