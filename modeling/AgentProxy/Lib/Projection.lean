import AgentProxy.Lib.Run

namespace AgentProxy.Transition

variable {σ ε α ρ : Type} {step : σ → ε → Option σ} {ok : σ → ε → Prop} {op : σ → ε → Option α} {s t u : σ}
  {es : List ε}

/-- What the events of a run do to one component of the state, in their order. -/
def opsAlong (step : σ → ε → Option σ) (op : σ → ε → Option α) (s : σ) : List ε → List α
  | [] => []
  | e :: es => (op s e).toList ++ ((step s e).map fun t => opsAlong step op t es).getD []

theorem opsAlong_cons {e : ε} (h : step s e = some t) :
    opsAlong step op s (e :: es) = (op s e).toList ++ opsAlong step op t es := by
  simp only [opsAlong, h, Option.map_some, Option.getD_some]

theorem opsAlong_filterMap {β : Type} (f : α → Option β) (s : σ) (es : List ε) :
    (opsAlong step op s es).filterMap f = opsAlong step (fun s e => (op s e).bind f) s es := by
  induction es generalizing s with
  | nil => rfl
  | cons e es ih =>
    simp only [opsAlong, List.filterMap_append]
    congr 1
    · cases op s e with
      | none => rfl
      | some a => cases hf : f a <;> simp [hf]
    · cases step s e with
      | none => rfl
      | some t => exact ih t

theorem mem_opsAlong {a : α} (h : a ∈ opsAlong step op s es) : ∃ t e, op t e = some a := by
  induction es generalizing s with
  | nil => cases h
  | cons e es ih =>
    rw [opsAlong] at h
    rcases List.mem_append.mp h with h | h
    · exact ⟨s, e, by simpa using h⟩
    · cases hstep : step s e with
      | none => simp [hstep] at h
      | some t =>
        rw [hstep] at h
        exact ih h

/-- A component that every step changes by its own operation is the machine run on these alone. -/
theorem run_view {view : σ → ρ} {act : ρ → α → ρ}
    (hstep : ∀ s e t, ok s e → step s e = some t → view t = (op s e).toList.foldl act (view s))
    (hok : Meets step ok s es) (h : run step s es = some u) : view u = (opsAlong step op s es).foldl act (view s) := by
  induction es generalizing s with
  | nil =>
    cases h
    rfl
  | cons e es ih =>
    obtain ⟨t, ht, hu⟩ := run_cons.mp h
    have hmeets := (meets_cons ht).mp hok
    rw [opsAlong_cons ht, List.foldl_append, ← hstep s e t hmeets.1 ht]
    exact ih hmeets.2 hu

/-- Operations that carry the time of their event are in order when time does not run backwards. -/
theorem opsAlong_ordered {time : α → ℕ} {clock : σ → ℕ}
    (hstep : ∀ s e t, step s e = some t → clock s ≤ clock t ∧ ∀ a ∈ op s e, time a = clock t)
    (h : run step s es = some u) :
    (opsAlong step op s es).Pairwise (fun a b => time a ≤ time b) ∧ ∀ a ∈ opsAlong step op s es, clock s ≤ time a := by
  induction es generalizing s with
  | nil => exact ⟨List.Pairwise.nil, fun a ha => absurd ha List.not_mem_nil⟩
  | cons e es ih =>
    obtain ⟨t, ht, hu⟩ := run_cons.mp h
    obtain ⟨hclock, htime⟩ := hstep s e t ht
    obtain ⟨hpair, hlate⟩ := ih hu
    rw [opsAlong_cons ht]
    cases hop : op s e with
    | none => exact ⟨hpair, fun a ha => Nat.le_trans hclock (hlate a ha)⟩
    | some a =>
      have ha : time a = clock t := htime a hop
      constructor
      · apply List.pairwise_cons.mpr
        refine ⟨fun b hb => ?_, hpair⟩
        rw [ha]
        exact hlate b hb
      · intro b hb
        rcases List.mem_cons.mp hb with rfl | hb
        · rw [ha]
          exact hclock
        · exact Nat.le_trans hclock (hlate b hb)

/-- What enters a stock is what leaves it and what is in it at the end. -/
theorem run_conserved {stock : σ → List α} {inflow outflow : σ → ε → Option α}
    (hstep : ∀ s e t, step s e = some t → (stock s ++ (inflow s e).toList).Perm ((outflow s e).toList ++ stock t))
    (h : run step s es = some u) :
    (stock s ++ opsAlong step inflow s es).Perm (opsAlong step outflow s es ++ stock u) := by
  induction es generalizing s with
  | nil =>
    cases h
    simp [opsAlong]
  | cons e es ih =>
    obtain ⟨t, ht, hu⟩ := run_cons.mp h
    rw [opsAlong_cons ht, opsAlong_cons ht, ← List.append_assoc, List.append_assoc (outflow s e).toList]
    apply ((hstep s e t ht).append_right _).trans
    rw [List.append_assoc]
    exact (ih hu).append_left _

end AgentProxy.Transition
