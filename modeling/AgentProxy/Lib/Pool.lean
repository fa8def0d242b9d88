import AgentProxy.Lib.Run
import Mathlib.Logic.Function.Basic
import Mathlib.Logic.Relation

namespace AgentProxy.Pool

open Transition

structure State (σ τ : Type) where
  store : σ
  active : ℕ → Option τ

def State.idle {σ τ : Type} (store : σ) : State σ τ := ⟨store, fun _ => none⟩

inductive Event (κ : Type) where
  | start (i : ℕ) (call : κ)
  | statement (i : ℕ)

def Event.index {κ : Type} : Event κ → ℕ
  | start i _ | statement i => i

section

variable {σ τ κ : Type} (init : κ → τ) (execute : σ → τ → σ × Option τ)

/-- A call starts, or executes its next statement, after which it goes on as the returned task or has ended. -/
def step (s : State σ τ) : Event κ → Option (State σ τ)
  | .start i call =>
    match s.active i with
    | none => some { s with active := Function.update s.active i (some (init call)) }
    | some _ => none
  | .statement i =>
    match s.active i with
    | none => none
    | some task =>
      let next := execute s.store task
      some ⟨next.1, Function.update s.active i next.2⟩

def Alone : σ × Option τ → σ × Option τ → Prop :=
  Relation.ReflTransGen fun a b => ∃ task, a.2 = some task ∧ execute a.1 task = b

end

section

variable {σ τ κ : Type} {init : κ → τ} {execute : σ → τ → σ × Option τ} {s t : State σ τ} {e : Event κ}

theorem step_cases (h : step init execute s e = some t) :
    (∃ i call, e = .start i call ∧ s.active i = none ∧
      t = ⟨s.store, Function.update s.active i (some (init call))⟩) ∨
    ∃ i task, e = .statement i ∧ s.active i = some task ∧
      t = ⟨(execute s.store task).1, Function.update s.active i (execute s.store task).2⟩ := by
  cases e with
  | start i call =>
    left
    simp only [step] at h
    split at h
    · rename_i hnone
      exact ⟨i, call, rfl, hnone, (Option.some.inj h).symm⟩
    · cases h
  | statement i =>
    right
    simp only [step] at h
    split at h
    · cases h
    · rename_i task htask
      exact ⟨i, task, rfl, htask, (Option.some.inj h).symm⟩

theorem update_eq_some {active : ℕ → Option τ} {i j : ℕ} {next : Option τ} {task : τ}
    (h : Function.update active i next j = some task) :
    j = i ∧ next = some task ∨ j ≠ i ∧ active j = some task := by
  by_cases hj : j = i
  · subst hj
    rw [Function.update_self] at h
    exact .inl ⟨rfl, h⟩
  · rw [Function.update_of_ne hj] at h
    exact .inr ⟨hj, h⟩

theorem run_other {i : ℕ} {es : List (Event κ)} (h : run (step init execute) s es = some t)
    (hes : ∀ e ∈ es, e.index ≠ i) : t.active i = s.active i := by
  have hmeets : Meets (step init execute) (fun _ e => e.index ≠ i) s es := meets_of_forall (fun e he _ => hes e he) s
  refine run_invariant (fun u => u.active i = s.active i) (fun u e v hu he hv => ?_) rfl hmeets h
  obtain ⟨j, call, rfl, -, rfl⟩ | ⟨j, task, rfl, -, rfl⟩ := step_cases hv
  · exact (Function.update_of_ne he.symm _ _).trans hu
  · exact (Function.update_of_ne he.symm _ _).trans hu

theorem idle_of_run {store : σ} {es : List (Event κ)} (h : run (step init execute) (.idle store) es = some t)
    (hes : ∀ e ∈ es, t.active e.index = none) (i : ℕ) : t.active i = none := by
  by_cases hi : ∃ e ∈ es, e.index = i
  · obtain ⟨e, he, rfl⟩ := hi
    exact hes e he
  · exact run_other h fun e he hindex => hi ⟨e, he, hindex⟩

theorem alone_refl (a : σ × Option τ) : Alone execute a a := .refl

theorem Alone.trans {a b d : σ × Option τ} (h : Alone execute a b) (h' : Alone execute b d) : Alone execute a d :=
  Relation.ReflTransGen.trans h h'

theorem alone_execute {store : σ} {task : τ} {b d : σ × Option τ} (h : execute store task = b)
    (hd : Alone execute b d) : Alone execute (store, some task) d := .head ⟨task, rfl, h⟩ hd

theorem statements_of_alone {a b : σ × Option τ} (h : Alone execute a b) (active : ℕ → Option τ) (i : ℕ) :
    ∃ n, run (step init execute) ⟨a.1, Function.update active i a.2⟩ (List.replicate n (.statement i)) =
      some ⟨b.1, Function.update active i b.2⟩ := by
  induction h using Relation.ReflTransGen.head_induction_on with
  | refl => exact ⟨0, rfl⟩
  | @head a d hnext _ ih =>
    obtain ⟨task, htask, rfl⟩ := hnext
    obtain ⟨n, hn⟩ := ih
    refine ⟨n + 1, run_cons.mpr ⟨_, ?_, hn⟩⟩
    simp only [step, htask, Function.update_self, Function.update_idem]

theorem meets_alone {ok : State σ τ → Event κ → Prop}
    (hok : ∀ s i, (∀ j, j ≠ i → s.active j = none) → ok s (.statement i)) {i : ℕ}
    (h : ∀ j, j ≠ i → s.active j = none) (n : ℕ) :
    Meets (step init execute) ok s (List.replicate n (.statement i)) := by
  induction n generalizing s with
  | zero => trivial
  | succ n ih =>
    refine ⟨hok s i h, fun t ht => ih fun j hj => ?_⟩
    obtain ⟨_, _, he, -⟩ | ⟨k, task, he, -, rfl⟩ := step_cases ht
    · cases he
    · cases he
      exact (Function.update_of_ne hj _ _).trans (h j hj)

theorem run_alone {ok : State σ τ → Event κ → Prop} (hstart : ∀ s i call, ok s (.start i call))
    (hok : ∀ s i, (∀ j, j ≠ i → s.active j = none) → ok s (.statement i)) {store store' : σ} {call : κ}
    (h : Alone execute (store, some (init call)) (store', none)) (i : ℕ) :
    ∃ n, Meets (step init execute) ok (.idle store) (.start i call :: List.replicate n (.statement i)) ∧
      run (step init execute) (.idle store) (.start i call :: List.replicate n (.statement i)) =
        some (.idle store') := by
  obtain ⟨n, hn⟩ := @statements_of_alone σ τ κ init execute _ _ h (fun _ => none) i
  refine ⟨n, ⟨hstart _ i call, fun t ht => ?_⟩, run_cons.mpr ⟨_, rfl, ?_⟩⟩
  · cases ht
    apply meets_alone hok
    intro j hj
    exact Function.update_of_ne hj _ _
  · apply hn.trans
    rw [Function.update_eq_self_iff.mpr rfl]
    rfl

end

end AgentProxy.Pool
