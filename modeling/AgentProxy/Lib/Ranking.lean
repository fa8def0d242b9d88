import Mathlib.Data.List.MinMax
import Mathlib.Data.List.Sort

namespace AgentProxy.Ranking

variable {α κ : Type} [LinearOrder κ] {key : α → κ} {l l' : List α}

/-- The items of `l` with the highest keys first, items of one key in the order of `l`. -/
structure Ranked (key : α → κ) (l l' : List α) : Prop where
  perm : l'.Perm l
  descending : l'.Pairwise fun a b => key b ≤ key a
  stable : ∀ k, l'.filter (fun a => key a = k) = l.filter fun a => key a = k

theorem Ranked.mem_iff (h : Ranked key l l') {a : α} : a ∈ l' ↔ a ∈ l := h.perm.mem_iff

theorem Ranked.nil_iff (h : Ranked key l l') : l' = [] ↔ l = [] := by
  constructor
  · rintro rfl
    exact List.nil_perm.mp h.perm
  · rintro rfl
    exact List.perm_nil.mp h.perm

theorem Ranked.filter (h : Ranked key l l') (p : α → Bool) : Ranked key (l.filter p) (l'.filter p) := by
  refine ⟨h.perm.filter p, h.descending.filter p, fun k => ?_⟩
  have hcomm : ∀ l : List α, (l.filter p).filter (fun a => key a = k) = (l.filter fun a => key a = k).filter p := by
    intro l
    simp only [List.filter_filter, Bool.and_comm]
  rw [hcomm, hcomm, h.stable k]

theorem filter_orderedInsert (a : α) (l : List α) (k : κ) :
    (l.orderedInsert (fun a b => key b ≤ key a) a).filter (fun b => key b = k) =
      (a :: l).filter fun b => key b = k := by
  induction l with
  | nil => rfl
  | cons b l ih =>
    by_cases hle : key b ≤ key a
    · rw [List.orderedInsert_cons_of_le _ l hle]
    · rw [List.orderedInsert_of_not_le _ l hle, List.filter_cons, ih]
      by_cases ha : key a = k
      · have hb : key b ≠ k := fun hb => hle (hb.trans ha.symm).le
        simp [ha, hb]
      · simp [ha, List.filter_cons]

theorem ranked_insertionSort (key : α → κ) (l : List α) :
    Ranked key l (l.insertionSort fun a b => key b ≤ key a) := by
  have htotal : Std.Total fun a b : α => key b ≤ key a := ⟨fun a b => le_total (key b) (key a)⟩
  have htrans : IsTrans α fun a b : α => key b ≤ key a := ⟨fun _ _ _ hab hbc => hbc.trans hab⟩
  refine ⟨List.perm_insertionSort _ l, List.pairwise_insertionSort _ l, fun k => ?_⟩
  induction l with
  | nil => rfl
  | cons a l ih => rw [List.insertionSort_cons, filter_orderedInsert, List.filter_cons, List.filter_cons, ih]

/-- Of the items with the lowest key, `argmin` takes the one that comes first. -/
theorem argmin_first {r : α → α → Prop} {m : α} (hr : l.Pairwise r) (h : l.argmin key = some m) :
    m ∈ l ∧ ∀ a ∈ l, key m < key a ∨ key m = key a ∧ (m = a ∨ r m a) := by
  refine ⟨List.argmin_mem h, ?_⟩
  induction l using List.reverseRecOn generalizing m with
  | nil => cases h
  | append_singleton l b ih =>
    obtain ⟨hl, -, hb⟩ := List.pairwise_append.mp hr
    rw [List.argmin_concat] at h
    cases hmin : l.argmin key with
    | none =>
      rw [hmin] at h
      cases h
      rw [List.argmin_eq_none.mp hmin]
      intro a ha
      exact .inr ⟨by rw [List.mem_singleton.mp ha], .inl (List.mem_singleton.mp ha).symm⟩
    | some c =>
      rw [hmin] at h
      have hc := ih hl hmin
      have hmem : c ∈ l := List.argmin_mem hmin
      dsimp only at h
      split_ifs at h with hlt
      · cases h
        intro a ha
        rcases List.mem_append.mp ha with ha | ha
        · rcases hc a ha with hca | ⟨hca, -⟩
          · exact .inl (hlt.trans hca)
          · exact .inl (hca ▸ hlt)
        · exact .inr ⟨by rw [List.mem_singleton.mp ha], .inl (List.mem_singleton.mp ha).symm⟩
      · cases h
        intro a ha
        rcases List.mem_append.mp ha with ha | ha
        · exact hc a ha
        · rw [List.mem_singleton.mp ha]
          rcases (not_lt.mp hlt).lt_or_eq with hlt' | heq
          · exact .inl hlt'
          · exact .inr ⟨heq, .inr (hb _ hmem b (List.mem_singleton_self b))⟩

end AgentProxy.Ranking
