import Mathlib.Data.List.Basic
import Mathlib.Data.List.Infix
import Mathlib.Data.List.TakeDrop

namespace AgentProxy.Statements

variable {σ τ α β ε : Type}

def run (step : σ → α → Except ε σ) (s : σ) : List α → σ × Except ε Unit
  | [] => (s, .ok ())
  | a :: as =>
    match step s a with
    | .ok t => run step t as
    | .error e => (s, .error e)

def refused (step : σ → α → Except ε σ) (s : σ) : List α → Option α
  | [] => none
  | a :: as =>
    match step s a with
    | .ok t => refused step t as
    | .error _ => some a

section

variable {step : σ → α → Except ε σ} {s t : σ} {a : α} {as bs : List α}

theorem run_cons_ok (h : step s a = .ok t) : run step s (a :: as) = run step t as := by
  simp only [run, h]

theorem run_append_ok (h : run step s as = (t, .ok ())) : run step s (as ++ bs) = run step t bs := by
  induction as generalizing s with
  | nil =>
    cases h
    rfl
  | cons a as ih =>
    cases hstep : step s a with
    | error e => simp [run, hstep] at h
    | ok u =>
      rw [run_cons_ok hstep] at h
      rw [List.cons_append, run_cons_ok hstep]
      exact ih h

theorem run_ok_split {u : σ} (h : run step s (as ++ bs) = (u, .ok ())) :
    ∃ t, run step s as = (t, .ok ()) ∧ run step t bs = (u, .ok ()) := by
  induction as generalizing s with
  | nil => exact ⟨s, rfl, h⟩
  | cons a as ih =>
    rw [List.cons_append] at h
    cases hstep : step s a with
    | error e => simp [run, hstep] at h
    | ok v =>
      rw [run_cons_ok hstep] at h ⊢
      exact ih h

theorem run_fixed (h : ∀ a ∈ as, step s a = .ok s) : run step s as = (s, .ok ()) := by
  induction as with
  | nil => rfl
  | cons a as ih =>
    rw [run_cons_ok (h a List.mem_cons_self)]
    exact ih fun b hb => h b (List.mem_cons_of_mem _ hb)

theorem run_ok_forall {p : α → Prop} (hp : ∀ s a t, step s a = .ok t → p a) (h : (run step s as).2 = .ok ()) :
    ∀ a ∈ as, p a := by
  induction as generalizing s with
  | nil =>
    intro a ha
    cases ha
  | cons b as ih =>
    cases hstep : step s b with
    | error e => simp [run, hstep] at h
    | ok t =>
      rw [run_cons_ok hstep] at h
      exact List.forall_mem_cons.mpr ⟨hp s b t hstep, ih h⟩

theorem run_keeps {p : σ → Prop} (hkeep : ∀ s a t, p s → step s a = .ok t → p t) (as : List α) (h : p s) :
    p (run step s as).1 := by
  induction as generalizing s with
  | nil => exact h
  | cons a as ih =>
    cases hstep : step s a with
    | error e => simpa only [run, hstep] using h
    | ok t =>
      rw [run_cons_ok hstep]
      exact ih (hkeep s a t h hstep)

theorem run_map {step' : τ → β → Except ε τ} {put : τ → σ} {row : β → α} (bs : List β) (t : τ)
    (h : ∀ t b, step (put t) (row b) = (step' t b).map put) :
    run step (put t) (bs.map row) = (put (run step' t bs).1, (run step' t bs).2) := by
  induction bs generalizing t with
  | nil => rfl
  | cons b bs ih =>
    simp only [List.map_cons, run, h]
    cases step' t b with
    | error e => rfl
    | ok u => exact ih u

section

variable {f : σ → α → σ}

theorem run_ok_eq (hf : ∀ s a t, step s a = .ok t → t = f s a) (h : run step s as = (t, .ok ())) :
    t = as.foldl f s := by
  induction as generalizing s with
  | nil =>
    cases h
    rfl
  | cons a as ih =>
    cases hstep : step s a with
    | error e => simp [run, hstep] at h
    | ok u =>
      rw [run_cons_ok hstep] at h
      rw [List.foldl_cons, ← hf s a u hstep]
      exact ih h

theorem run_prefix (hf : ∀ s a t, step s a = .ok t → t = f s a) (s : σ) (as : List α) :
    ∃ pre, pre <+: as ∧ (run step s as).1 = pre.foldl f s := by
  induction as generalizing s with
  | nil => exact ⟨[], List.prefix_refl _, rfl⟩
  | cons a as ih =>
    simp only [run]
    cases hstep : step s a with
    | error e => exact ⟨[], List.nil_prefix, rfl⟩
    | ok t =>
      obtain ⟨pre, hpre, hrun⟩ := ih t
      refine ⟨a :: pre, List.cons_prefix_cons.mpr ⟨rfl, hpre⟩, ?_⟩
      rw [List.foldl_cons, ← hf s a t hstep]
      exact hrun

end

theorem run_error_of_refused (h : refused step s as = some a) :
    ∃ t e, step t a = .error e ∧ run step s as = (t, .error e) := by
  induction as generalizing s with
  | nil => cases h
  | cons b as ih =>
    simp only [refused] at h
    cases hstep : step s b with
    | error e =>
      rw [hstep] at h
      cases h
      exact ⟨s, e, hstep, by simp only [run, hstep]⟩
    | ok t =>
      rw [hstep] at h
      rw [run_cons_ok hstep]
      exact ih h

theorem run_past_refused {step' : σ → α → Except ε σ} {p : σ → Prop}
    (hmore : ∀ s a t, step s a = .ok t → step' s a = .ok t) (h : refused step s as = some a)
    (hpass : ∀ t e, step t a = .error e → ∃ u, step' t a = .ok u ∧ p u)
    (hkeep : ∀ t b u, p t → step' t b = .ok u → p u) : p (run step' s as).1 := by
  induction as generalizing s with
  | nil => cases h
  | cons b as ih =>
    simp only [refused] at h
    cases hstep : step s b with
    | error e =>
      rw [hstep] at h
      cases h
      obtain ⟨u, hu, hp⟩ := hpass s e hstep
      rw [run_cons_ok hu]
      exact run_keeps hkeep as hp
    | ok t =>
      rw [hstep] at h
      rw [run_cons_ok (hmore s b t hstep)]
      exact ih h

theorem run_congr {step' : σ → α → Except ε σ} (hmore : ∀ s a t, step s a = .ok t → step' s a = .ok t)
    (hstop : ∀ a, refused step s as = some a → ∀ t e, step t a = .error e → step' t a = .error e) :
    run step' s as = run step s as := by
  induction as generalizing s with
  | nil => rfl
  | cons a as ih =>
    cases hstep : step s a with
    | error e =>
      have hstep' := hstop a (by simp only [refused, hstep]) s e hstep
      simp only [run, hstep, hstep']
    | ok t =>
      rw [run_cons_ok hstep, run_cons_ok (hmore s a t hstep)]
      apply ih
      intro b hb
      apply hstop b
      simp only [refused, hstep]
      exact hb

theorem run_cons_error {e : ε} (h : step s a = .error e) : run step s (a :: as) = (s, .error e) := by
  simp only [run, h]

theorem run_error_split {e : ε} (h : (run step s as).2 = .error e) :
    ∃ pre a post t, as = pre ++ a :: post ∧ run step s pre = (t, .ok ()) ∧ step t a = .error e ∧
      run step s as = (t, .error e) := by
  induction as generalizing s with
  | nil => cases h
  | cons b as ih =>
    cases hstep : step s b with
    | error e' =>
      rw [run_cons_error hstep] at h ⊢
      cases h
      exact ⟨[], b, as, s, rfl, rfl, hstep, rfl⟩
    | ok u =>
      rw [run_cons_ok hstep] at h ⊢
      obtain ⟨pre, a, post, t, rfl, hpre, ha, hrun⟩ := ih h
      exact ⟨b :: pre, a, post, t, rfl, (run_cons_ok hstep).trans hpre, ha, hrun⟩

/-- What comes before the first refused statement is settled. -/
def Guarded (refuses : List α → α → Prop) (settled : List α → Prop) (as : List α) : Prop :=
  ∀ pre a post, as = pre ++ a :: post → refuses pre a → (∀ p b q, pre = p ++ b :: q → ¬ refuses p b) → settled pre

section

variable {refuses : List α → α → Prop} {settled : List α → Prop}

theorem run_ok_iff_accepted
    (hrefuses : ∀ pre t a, run step s pre = (t, .ok ()) → ((∃ e, step t a = .error e) ↔ refuses pre a)) :
    (∃ t, run step s as = (t, .ok ())) ↔ ∀ p b q, as = p ++ b :: q → ¬ refuses p b := by
  constructor
  · rintro ⟨t, hrun⟩ p b q rfl hb
    obtain ⟨u, hp, hq⟩ := run_ok_split hrun
    obtain ⟨e, he⟩ := (hrefuses p u b hp).mpr hb
    rw [run_cons_error he] at hq
    cases hq
  · intro haccepted
    cases hrun : (run step s as).2 with
    | ok _ => exact ⟨_, Prod.ext rfl hrun⟩
    | error e =>
      obtain ⟨pre, a, post, t, hsplit, hpre, ha, -⟩ := run_error_split hrun
      exact absurd ((hrefuses pre t a hpre).mp ⟨e, ha⟩) (haccepted pre a post hsplit)

theorem unchanged_on_error_iff
    (hrefuses : ∀ pre t a, run step s pre = (t, .ok ()) → ((∃ e, step t a = .error e) ↔ refuses pre a))
    (hsettled : ∀ pre t, run step s pre = (t, .ok ()) → (t = s ↔ settled pre)) :
    (∀ e, (run step s as).2 = .error e → (run step s as).1 = s) ↔ Guarded refuses settled as := by
  constructor
  · rintro h pre a post rfl ha hbefore
    obtain ⟨t, ht⟩ := (run_ok_iff_accepted hrefuses).mpr hbefore
    obtain ⟨e, he⟩ := (hrefuses pre t a ht).mpr ha
    have hrun : run step s (pre ++ a :: post) = (t, .error e) := (run_append_ok ht).trans (run_cons_error he)
    have hsame := h e (by rw [hrun])
    rw [hrun] at hsame
    exact (hsettled pre t ht).mp hsame
  · intro h e herror
    obtain ⟨pre, a, post, t, hsplit, ht, ha, hrun⟩ := run_error_split herror
    rw [hrun]
    apply (hsettled pre t ht).mpr
    exact h pre a post hsplit ((hrefuses pre t a ht).mp ⟨e, ha⟩) ((run_ok_iff_accepted hrefuses).mp ⟨t, ht⟩)

end

end

end AgentProxy.Statements
