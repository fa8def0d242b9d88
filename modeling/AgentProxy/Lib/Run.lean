import Mathlib.Data.List.Basic
import Mathlib.Data.Option.Basic

namespace AgentProxy.Transition

variable {σ ε : Type}

def run (step : σ → ε → Option σ) (s : σ) : List ε → Option σ
  | [] => some s
  | e :: es => (step s e).bind fun t => run step t es

/-- Every event of the run meets `ok` in the state in which it is executed. -/
def Meets (step : σ → ε → Option σ) (ok : σ → ε → Prop) (s : σ) : List ε → Prop
  | [] => True
  | e :: es => ok s e ∧ ∀ t, step s e = some t → Meets step ok t es

theorem run_cons {step : σ → ε → Option σ} {s u : σ} {e : ε} {es : List ε} :
    run step s (e :: es) = some u ↔ ∃ t, step s e = some t ∧ run step t es = some u := by
  simp [run, Option.bind_eq_some_iff]

theorem run_append {step : σ → ε → Option σ} {s u : σ} {es fs : List ε} :
    run step s (es ++ fs) = some u ↔ ∃ t, run step s es = some t ∧ run step t fs = some u := by
  induction es generalizing s with
  | nil => simp [run]
  | cons e es ih =>
    simp only [List.cons_append, run_cons, ih]
    constructor
    · rintro ⟨t, he, v, hv, hu⟩
      exact ⟨v, ⟨t, he, hv⟩, hu⟩
    · rintro ⟨v, ⟨t, he, hv⟩, hu⟩
      exact ⟨t, he, v, hv, hu⟩

theorem run_total {step : σ → ε → Option σ} (h : ∀ s e, ∃ t, step s e = some t) (s : σ) (es : List ε) :
    ∃ u, run step s es = some u := by
  induction es generalizing s with
  | nil => exact ⟨s, rfl⟩
  | cons e es ih =>
    obtain ⟨t, ht⟩ := h s e
    obtain ⟨u, hu⟩ := ih t
    exact ⟨u, run_cons.mpr ⟨t, ht, hu⟩⟩

theorem meets_cons {step : σ → ε → Option σ} {ok : σ → ε → Prop} {s t : σ} {e : ε} {es : List ε}
    (h : step s e = some t) : Meets step ok s (e :: es) ↔ ok s e ∧ Meets step ok t es := by
  simp only [Meets, h, Option.some.injEq, forall_eq']

theorem meets_and {step : σ → ε → Option σ} {p q : σ → ε → Prop} {s : σ} {es : List ε} :
    Meets step (fun s e => p s e ∧ q s e) s es ↔ Meets step p s es ∧ Meets step q s es := by
  induction es generalizing s with
  | nil => simp [Meets]
  | cons e es ih =>
    simp only [Meets, ih]
    constructor
    · rintro ⟨⟨hp, hq⟩, h⟩
      exact ⟨⟨hp, fun t ht => (h t ht).1⟩, hq, fun t ht => (h t ht).2⟩
    · rintro ⟨⟨hp, h⟩, hq, h'⟩
      exact ⟨⟨hp, hq⟩, fun t ht => ⟨h t ht, h' t ht⟩⟩

theorem meets_of_forall {step : σ → ε → Option σ} {ok : σ → ε → Prop} {es : List ε} (h : ∀ e ∈ es, ∀ s, ok s e) (s : σ) :
    Meets step ok s es := by
  induction es generalizing s with
  | nil => trivial
  | cons e es ih =>
    obtain ⟨he, hes⟩ := List.forall_mem_cons.mp h
    exact ⟨he s, fun t _ => ih hes t⟩

theorem meets_of_inv {step : σ → ε → Option σ} {ok : σ → ε → Prop} {inv : σ → Prop} {es : List ε}
    (hkeep : ∀ e ∈ es, ∀ s t, inv s → step s e = some t → inv t) (hok : ∀ e ∈ es, ∀ s, inv s → ok s e) {s : σ}
    (hs : inv s) : Meets step ok s es := by
  induction es generalizing s with
  | nil => trivial
  | cons e es ih =>
    obtain ⟨hkeeps, hkeep⟩ := List.forall_mem_cons.mp hkeep
    obtain ⟨hmeets, hok⟩ := List.forall_mem_cons.mp hok
    exact ⟨hmeets s hs, fun t ht => ih hkeep hok (hkeeps s t hs ht)⟩

theorem meets_congr {step : σ → ε → Option σ} {p q : σ → ε → Prop}
    (h : ∀ s e t, step s e = some t → (p s e ↔ q s e)) {s u : σ} {es : List ε} (hrun : run step s es = some u) :
    Meets step p s es ↔ Meets step q s es := by
  induction es generalizing s with
  | nil => rfl
  | cons e es ih =>
    obtain ⟨t, ht, hu⟩ := run_cons.mp hrun
    rw [meets_cons ht, meets_cons ht, h s e t ht, ih hu]

theorem meets_append {step : σ → ε → Option σ} {ok : σ → ε → Prop} {s t : σ} {es fs : List ε}
    (h : run step s es = some t) : Meets step ok s (es ++ fs) ↔ Meets step ok s es ∧ Meets step ok t fs := by
  induction es generalizing s with
  | nil =>
    cases h
    simp [Meets]
  | cons e es ih =>
    obtain ⟨u, hu, ht⟩ := run_cons.mp h
    rw [List.cons_append, meets_cons hu, meets_cons hu, ih ht, and_assoc]

theorem meets_iff_split {step : σ → ε → Option σ} {ok : σ → ε → Prop} {s u : σ} {es : List ε}
    (h : run step s es = some u) : Meets step ok s es ↔
      ∀ before e rest t, es = before ++ e :: rest → run step s before = some t → ok t e := by
  induction es generalizing s with
  | nil => simp [Meets]
  | cons e es ih =>
    obtain ⟨t, ht, hu⟩ := run_cons.mp h
    constructor
    · rintro ⟨hok, hmeets⟩ before f rest v hsplit hv
      cases before with
      | nil =>
        cases hsplit
        cases hv
        exact hok
      | cons f before =>
        obtain ⟨rfl, rfl⟩ := List.cons.inj hsplit
        obtain ⟨w, hw, hv⟩ := run_cons.mp hv
        cases ht.symm.trans hw
        exact (ih hu).mp (hmeets t ht) before _ rest v rfl hv
    · intro hall
      refine ⟨hall [] e es s rfl rfl, fun v hv => ?_⟩
      cases ht.symm.trans hv
      refine (ih hu).mpr fun before f rest w hsplit hw => ?_
      exact hall (e :: before) f rest w (by rw [hsplit]; rfl) (run_cons.mpr ⟨t, ht, hw⟩)

theorem run_invariant {step : σ → ε → Option σ} {ok : σ → ε → Prop} (inv : σ → Prop)
    (hstep : ∀ s e t, inv s → ok s e → step s e = some t → inv t)
    {s u : σ} {es : List ε} (hs : inv s) (hok : Meets step ok s es) (hrun : run step s es = some u) :
    inv u := by
  induction es generalizing s with
  | nil =>
    cases hrun
    exact hs
  | cons e es ih =>
    obtain ⟨t, ht, hu⟩ := run_cons.mp hrun
    exact ih (hstep s e t hs hok.1 ht) (hok.2 t ht) hu

/-- What holds in every state of the run, when an event keeps the invariant `inv` if it meets `ok` and must
meet `ok` for `p` to hold after it. -/
theorem always_iff_meets {step : σ → ε → Option σ} {ok : σ → ε → Prop} {inv p : σ → Prop} (hinv : ∀ s, inv s → p s)
    (hkeep : ∀ s e t, inv s → ok s e → step s e = some t → inv t)
    (hneed : ∀ s e t, inv s → p t → step s e = some t → ok s e) {s u : σ} {es : List ε} (hs : inv s)
    (h : run step s es = some u) :
    (∀ before rest t, es = before ++ rest → run step s before = some t → p t) ↔ Meets step ok s es := by
  induction es generalizing s with
  | nil =>
    refine ⟨fun _ => trivial, fun _ before rest t hsplit ht => ?_⟩
    cases (List.append_eq_nil_iff.mp hsplit.symm).1
    cases ht
    exact hinv s hs
  | cons e es ih =>
    obtain ⟨t, ht, hu⟩ := run_cons.mp h
    rw [meets_cons ht]
    constructor
    · intro hall
      have hok : ok s e := hneed s e t hs (hall [e] es t rfl (run_cons.mpr ⟨t, ht, rfl⟩)) ht
      refine ⟨hok, (ih (hkeep s e t hs hok ht) hu).mp fun before rest v hsplit hv => ?_⟩
      exact hall (e :: before) rest v (by rw [hsplit]; rfl) (run_cons.mpr ⟨t, ht, hv⟩)
    · rintro ⟨hok, hmeets⟩ before rest v hsplit hv
      cases before with
      | nil =>
        cases hv
        exact hinv s hs
      | cons f before =>
        obtain ⟨rfl, rfl⟩ := List.cons.inj hsplit
        obtain ⟨w, hw, hv⟩ := run_cons.mp hv
        cases ht.symm.trans hw
        exact (ih (hkeep s _ t hs hok ht) hu).mpr hmeets before rest v rfl hv

end AgentProxy.Transition
