import Mathlib.Algebra.BigOperators.Group.List.Basic
import Mathlib.Data.List.Dedup
import Mathlib.Data.List.Perm.Basic

namespace AgentProxy.Grouping

variable {ρ κ : Type} [DecidableEq κ] (key : ρ → κ) (rows : List ρ)

def keys : List κ := (rows.map key).dedup

def members (k : κ) : List ρ := rows.filter fun r => decide (key r = k)

theorem nodup_keys : (keys key rows).Nodup := List.nodup_dedup _

variable {key rows}

theorem mem_keys {k : κ} : k ∈ keys key rows ↔ ∃ r ∈ rows, key r = k := by
  rw [keys, List.mem_dedup, List.mem_map]

theorem mem_members {k : κ} {r : ρ} : r ∈ members key rows k ↔ r ∈ rows ∧ key r = k := by
  rw [members, List.mem_filter, decide_eq_true_eq]

theorem flatMap_members_perm {ks : List κ} (hks : ks.Nodup) :
    (ks.flatMap (members key rows)).Perm (rows.filter fun r => decide (key r ∈ ks)) := by
  induction ks with
  | nil => simp
  | cons k ks ih =>
    obtain ⟨hk, hks⟩ := List.nodup_cons.mp hks
    -- the rows with one of the keys, split by whether it is the first
    have hsplit := List.filter_append_perm (fun r => decide (key r = k)) (rows.filter fun r => decide (key r ∈ k :: ks))
    have hfirst : (rows.filter fun r => decide (key r ∈ k :: ks)).filter (fun r => decide (key r = k)) =
        members key rows k := by
      rw [List.filter_filter]
      apply List.filter_congr
      intro r _
      by_cases h : key r = k <;> simp [h]
    have hrest : (rows.filter fun r => decide (key r ∈ k :: ks)).filter (fun r => !decide (key r = k)) =
        rows.filter fun r => decide (key r ∈ ks) := by
      rw [List.filter_filter]
      apply List.filter_congr
      intro r _
      by_cases h : key r = k
      · simp [h, hk]
      · simp [h]
    rw [hfirst, hrest] at hsplit
    exact ((ih hks).append_left _).trans hsplit

theorem flatMap_keys_perm : ((keys key rows).flatMap (members key rows)).Perm rows := by
  have hall : rows.filter (fun r => decide (key r ∈ keys key rows)) = rows := by
    apply List.filter_eq_self.mpr
    intro r hr
    exact decide_eq_true (mem_keys.mpr ⟨r, hr, rfl⟩)
  have hperm := @flatMap_members_perm _ _ _ key rows _ (nodup_keys key rows)
  rwa [hall] at hperm

theorem sum_members {μ : Type} [AddCommMonoid μ] {ks : List κ} (hks : ks.Nodup) {p : ρ → Bool}
    (hp : ∀ r ∈ rows, p r = true ↔ key r ∈ ks) (f : ρ → μ) :
    (ks.map fun k => ((members key rows k).map f).sum).sum = ((rows.filter p).map f).sum := by
  have hrows : rows.filter p = rows.filter fun r => decide (key r ∈ ks) := by
    apply List.filter_congr
    intro r hr
    rw [Bool.eq_iff_iff, hp r hr, decide_eq_true_eq]
  rw [hrows, ← ((flatMap_members_perm hks).map f).sum_eq, List.map_flatMap, List.flatMap_def, List.sum_flatten,
    List.map_map]
  rfl

section

variable {α β γ : Type}

theorem flatMap_filterMap (g : α → Option β) (f : β → List γ) (as : List α) :
    (as.filterMap g).flatMap f = as.flatMap fun a => (g a).elim [] f := by
  induction as with
  | nil => rfl
  | cons a as ih =>
    cases hg : g a with
    | none => simp [hg, ih]
    | some b => simp [hg, ih]

theorem map_filterMap_sublist {f : α → Option β} {g : β → γ} {k : α → γ}
    (h : ∀ a b, f a = some b → g b = k a) (as : List α) : ((as.filterMap f).map g).Sublist (as.map k) := by
  induction as with
  | nil => exact List.Sublist.refl _
  | cons a as ih =>
    cases hf : f a with
    | none =>
      rw [List.filterMap_cons_none hf]
      exact ih.cons _
    | some b =>
      rw [List.filterMap_cons_some hf, List.map_cons, List.map_cons, h a b hf]
      exact ih.cons_cons _

end

end AgentProxy.Grouping
