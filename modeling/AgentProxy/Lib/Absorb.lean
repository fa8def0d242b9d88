import AgentProxy.Lib.Statements
import AgentProxy.Lib.Table
import Mathlib.Data.List.Induction

namespace AgentProxy.Absorb

variable {σ α ε : Type}

structure Absorbing (f : σ → α → σ) (as : List α) : Prop where
  again : ∀ s, ∀ a ∈ as, f (f s a) a = f s a
  kept : ∀ s, ∀ a ∈ as, ∀ b ∈ as, f s a = s → f (f s b) a = f s b

variable {f : σ → α → σ} {as pre : List α} {s : σ}

/-- Each step makes a fact of its own true that no other step undoes, and does nothing where it holds. -/
theorem absorbing_of_done {done : σ → α → Prop} (hself : ∀ s a, done (f s a) a)
    (hkeep : ∀ s a b, done s a → done (f s b) a) (hfix : ∀ s a, done s a → f s a = s) (as : List α) :
    Absorbing f as where
  again := fun s a _ => hfix _ a (hself s a)
  kept := by
    intro s a _ b _ hsame
    apply hfix
    apply hkeep
    have hdone := hself s a
    rwa [hsame] at hdone

theorem Absorbing.settled (h : Absorbing f as) (hpre : ∀ a ∈ pre, a ∈ as) :
    ∀ a ∈ pre, f (pre.foldl f s) a = pre.foldl f s := by
  induction pre using List.reverseRecOn with
  | nil =>
    intro a ha
    cases ha
  | append_singleton pre b ih =>
    have hmem : ∀ a ∈ pre, a ∈ as := fun a ha => hpre a (List.mem_append_left _ ha)
    have hb : b ∈ as := hpre b (by simp)
    intro a ha
    rw [List.foldl_append, List.foldl_cons, List.foldl_nil]
    rcases List.mem_append.mp ha with ha | ha
    · exact h.kept _ a (hmem a ha) b hb (ih hmem a ha)
    · rw [List.mem_singleton.mp ha]
      exact h.again _ b hb

theorem foldl_fixed (h : ∀ a ∈ as, f s a = s) : as.foldl f s = s := by
  induction as with
  | nil => rfl
  | cons a as ih =>
    rw [List.foldl_cons, h a List.mem_cons_self]
    exact ih fun b hb => h b (List.mem_cons_of_mem _ hb)

theorem Absorbing.foldl_twice (h : Absorbing f as) (hpre : pre <+: as) (s : σ) :
    as.foldl f (pre.foldl f s) = as.foldl f s := by
  obtain ⟨rest, rfl⟩ := hpre
  rw [List.foldl_append, List.foldl_append, foldl_fixed (h.settled fun a ha => List.mem_append_left _ ha)]

theorem Absorbing.foldl_initial (h : Absorbing f as) {p q : List α} (hp : p <+: as) (hq : q <+: as) (s : σ) :
    ∃ r, r <+: as ∧ q.foldl f (p.foldl f s) = r.foldl f s := by
  have hsub : ∀ {r : List α}, r <+: as → Absorbing f r := fun hr =>
    ⟨fun s a ha => h.again s a (hr.subset ha), fun s a ha b hb => h.kept s a (hr.subset ha) b (hr.subset hb)⟩
  rcases List.prefix_or_prefix_of_prefix hp hq with hpq | hqp
  · exact ⟨q, hq, (hsub hq).foldl_twice hpq s⟩
  · refine ⟨p, hp, foldl_fixed fun a ha => ?_⟩
    exact (hsub hp).settled (fun b hb => hb) a (hqp.subset ha)

theorem Absorbing.run_again {step : σ → α → Except ε σ} (h : Absorbing f as)
    (hf : ∀ s a t, step s a = .ok t → t = f s a) (hpre : pre <+: as)
    (hstep : ∀ a ∈ pre, ∃ t, step (pre.foldl f s) a = .ok t)
    (hok : (Statements.run step s as).2 = .ok ()) :
    Statements.run step (pre.foldl f s) as = Statements.run step s as := by
  obtain ⟨rest, rfl⟩ := hpre
  have hall : Statements.run step s (pre ++ rest) = ((Statements.run step s (pre ++ rest)).1, .ok ()) :=
    Prod.ext rfl hok
  obtain ⟨t, hfirst, hrest⟩ := Statements.run_ok_split hall
  have hfixed : Statements.run step (pre.foldl f s) pre = (pre.foldl f s, .ok ()) := by
    apply Statements.run_fixed
    intro a ha
    obtain ⟨u, hu⟩ := hstep a ha
    rw [hu, hf _ a u hu, h.settled (fun b hb => List.mem_append_left _ hb) a ha]
  rw [Statements.run_append_ok hfixed, Statements.run_append_ok hfirst, Statements.run_ok_eq hf hfirst]

section

variable {κ ρ : Type} [DecidableEq κ] {key : ρ → κ}

theorem absorbing_insert {υ : Type} [DecidableEq υ] (unique : ρ → υ) (row : α → ρ) (as : List α) :
    Absorbing (fun (t : Table key) a => t.insertOrIgnore unique (row a)) as where
  again := fun t a _ => Table.insertOrIgnore_of_clash Table.clash_insertOrIgnore
  kept := by
    intro t a _ b _ hfix
    obtain ⟨s, hs, hclash⟩ := Table.clash_of_insertOrIgnore hfix
    exact Table.insertOrIgnore_of_clash ⟨s, Table.mem_insertOrIgnore hs, hclash⟩

theorem absorbing_upsert {new : α → ρ} {merge : α → ρ → ρ} (hmerge : ∀ a r, key (merge a r) = key r)
    (hnew : ∀ a, merge a (new a) = new a) (htwice : ∀ a r, merge a (merge a r) = merge a r)
    (has : (as.map fun a => key (new a)).Nodup) :
    Absorbing (fun (t : Table key) a => t.upsert (new a) (merge a) (hmerge a)) as where
  again := by
    intro t a _
    apply Table.upsert_eq_self_iff.mpr
    rw [Table.find?_upsert, if_pos rfl]
    refine ⟨_, rfl, ?_⟩
    cases t.find? (key (new a)) with
    | none => exact hnew a
    | some r => exact htwice a r
  kept := by
    intro t a ha b hb hfix
    by_cases hab : key (new a) = key (new b)
    · have heq : a = b := List.inj_on_of_nodup_map has ha hb hab
      rw [← heq, hfix]
      exact hfix
    · apply Table.upsert_eq_self_iff.mpr
      rw [Table.find?_upsert, if_neg hab]
      exact Table.upsert_eq_self_iff.mp hfix

end

end AgentProxy.Absorb
