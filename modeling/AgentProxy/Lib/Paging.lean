import Mathlib.Data.List.Basic
import Mathlib.Order.Lattice

namespace AgentProxy.Paging

variable {α κ : Type} {l : List α} {offset size : ℕ}

def page (offset size : ℕ) (l : List α) : List α := (l.drop offset).take size

theorem length_page_le (offset size : ℕ) (l : List α) : (page offset size l).length ≤ size := by
  rw [page, List.length_take]
  exact Nat.min_le_left _ _

theorem take_append_page (offset size : ℕ) (l : List α) :
    l.take offset ++ page offset size l = l.take (offset + (page offset size l).length) := by
  rw [page, List.length_take, List.length_drop, List.take_add]
  congr 1
  rcases Nat.le_total size (l.length - offset) with h | h
  · rw [Nat.min_eq_left h]
  · have hdrop : (l.drop offset).length ≤ size := by rwa [List.length_drop]
    rw [Nat.min_eq_right h, List.take_of_length_le hdrop, ← List.length_drop, List.take_length]

theorem take_of_page_nil (hsize : 0 < size) (h : page offset size l = []) : l.take offset = l := by
  apply List.take_of_length_le
  rcases List.take_eq_nil_iff.mp h with rfl | hdrop
  · exact absurd hsize (Nat.lt_irrefl 0)
  · exact List.drop_eq_nil_iff.mp hdrop

section

variable [LinearOrder κ] {key : α → κ} {r : α}

/-- How many items of `l` have a higher key than `r`. -/
def rank (key : α → κ) (r : α) (l : List α) : ℕ := l.countP fun a => key r < key a

/-- Where the item with a key of its own stands in a list with the highest keys first. -/
theorem split_at_rank (hsorted : l.Pairwise fun a b => key b ≤ key a) (hr : r ∈ l)
    (hown : ∀ a ∈ l, key a = key r → a = r) :
    ∃ front back, l = front ++ r :: back ∧ front.length = rank key r l := by
  obtain ⟨front, back, rfl, hfresh⟩ := List.eq_append_cons_of_mem hr
  refine ⟨front, back, rfl, ?_⟩
  obtain ⟨-, htail, hcross⟩ := List.pairwise_append.mp hsorted
  have hfront : front.countP (fun a => decide (key r < key a)) = front.length := by
    apply List.countP_eq_length.mpr
    intro a ha
    apply decide_eq_true
    apply lt_of_le_of_ne (hcross a ha r List.mem_cons_self)
    intro hkey
    rw [hown a (List.mem_append_left _ ha) hkey.symm] at ha
    exact hfresh ha
  have hback : (r :: back).countP (fun a => decide (key r < key a)) = 0 := by
    apply List.countP_eq_zero.mpr
    intro a ha
    simp only [decide_eq_true_eq, not_lt]
    rcases List.mem_cons.mp ha with rfl | ha
    · exact le_rfl
    · exact (List.pairwise_cons.mp htail).1 a ha
  rw [rank, List.countP_append, hfront, hback, Nat.add_zero]

theorem mem_page (hsorted : l.Pairwise fun a b => key b ≤ key a) (hr : r ∈ l)
    (hown : ∀ a ∈ l, key a = key r → a = r) (hfrom : offset ≤ rank key r l) (hto : rank key r l < offset + size) :
    r ∈ page offset size l := by
  obtain ⟨front, back, hl, hlength⟩ := split_at_rank hsorted hr hown
  rw [← hlength] at hfrom hto
  obtain ⟨gap, hgap⟩ := Nat.exists_eq_add_of_le hfrom
  rw [hl, page, List.drop_append_of_le_length hfrom, List.take_append]
  apply List.mem_append_right
  have hroom : size - (front.drop offset).length = (size - gap - 1) + 1 := by
    rw [List.length_drop]
    omega
  rw [hroom, List.take_succ_cons]
  exact List.mem_cons_self

/-- A page that starts no later than `r` contains it or is full of items before it. -/
theorem mem_page_or_le_rank (size : ℕ) (hsorted : l.Pairwise fun a b => key b ≤ key a) (hr : r ∈ l)
    (hown : ∀ a ∈ l, key a = key r → a = r) (hfrom : offset ≤ rank key r l) :
    r ∈ page offset size l ∨ offset + (page offset size l).length ≤ rank key r l := by
  by_cases hto : rank key r l < offset + size
  · exact .inl (mem_page hsorted hr hown hfrom hto)
  · have hlength := length_page_le offset size l
    exact .inr (by omega)

theorem page_ne_nil (hsize : 0 < size) (hsorted : l.Pairwise fun a b => key b ≤ key a) (hr : r ∈ l)
    (hown : ∀ a ∈ l, key a = key r → a = r) (hfrom : offset ≤ rank key r l) : page offset size l ≠ [] := by
  intro hnil
  obtain ⟨front, back, hl, hlength⟩ := split_at_rank hsorted hr hown
  have hall := congrArg List.length (take_of_page_nil hsize hnil)
  rw [← hlength] at hfrom
  rw [hl, List.length_take, List.length_append, List.length_cons] at hall
  omega

end

end AgentProxy.Paging
