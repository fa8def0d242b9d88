import Mathlib.Algebra.Order.Field.Basic
import Mathlib.Data.List.Induction
import Mathlib.Tactic.Linarith

namespace AgentProxy.Bucket

structure Level (K : Type) where
  tokens : K
  last : K

def admitted {K : Type} (log : List (K × Bool)) : ℕ := log.countP fun e => e.2

theorem admitted_append {K : Type} (l m : List (K × Bool)) : admitted (l ++ m) = admitted l + admitted m :=
  List.countP_append

theorem getElem?_concat {α : Type} {l : List α} {a e : α} {j : ℕ} (h : (l ++ [a])[j]? = some e) :
    j < l.length ∧ l[j]? = some e ∨ j = l.length ∧ a = e := by
  obtain hlt | rfl | hgt := lt_trichotomy j l.length
  · exact .inl ⟨hlt, by rwa [List.getElem?_append_left hlt] at h⟩
  · exact .inr ⟨rfl, by simpa using h⟩
  · rw [List.getElem?_eq_none (by simp; omega)] at h
    cases h

variable {K : Type} [Field K]

theorem admitted_single (t : K) (ok : Bool) : (admitted [(t, ok)] : K) = if ok then 1 else 0 := by
  cases ok <;> simp [admitted]

variable [LinearOrder K]

def available (capacity rate : K) (b : Level K) (t : K) : K := min (b.tokens + (t - b.last) * rate) capacity

def take (capacity rate : K) (b : Level K) (t : K) : Bool × Level K :=
  if 1 ≤ available capacity rate b t then (true, ⟨available capacity rate b t - 1, t⟩)
  else (false, ⟨available capacity rate b t, t⟩)

def after (capacity rate : K) (b : Level K) (times : List K) : Level K :=
  times.foldl (fun b t => (take capacity rate b t).2) b

def log (capacity rate : K) (b : Level K) : List K → List (K × Bool)
  | [] => []
  | t :: times => (t, (take capacity rate b t).1) :: log capacity rate (take capacity rate b t).2 times

/-- Call `k` is admitted exactly if in no window that starts at an earlier call, or at itself, the admissions
exceed what a full bucket and the refill since then provide. -/
def Exact (capacity rate : K) (log : List (K × Bool)) : Prop :=
  ∀ k t ok, log[k]? = some (t, ok) → (ok = true ↔ ∀ j ≤ k, ∀ e, log[j]? = some e →
    (admitted ((log.take k).drop j) : K) + 1 ≤ capacity + rate * (t - e.1))

section

variable (capacity rate : K) (b : Level K) (times : List K) (t : K)

theorem take_fst : (take capacity rate b t).1 = decide (1 ≤ available capacity rate b t) := by
  unfold take
  split <;> simp_all

theorem take_snd : (take capacity rate b t).2 =
    ⟨available capacity rate b t - if (take capacity rate b t).1 then 1 else 0, t⟩ := by
  unfold take
  split <;> simp

theorem after_concat : after capacity rate b (times ++ [t]) =
    (take capacity rate (after capacity rate b times) t).2 := by
  simp [after]

theorem log_concat : log capacity rate b (times ++ [t]) =
    log capacity rate b times ++ [(t, (take capacity rate (after capacity rate b times) t).1)] := by
  induction times generalizing b with
  | nil => rfl
  | cons u times ih => simp [log, ih, after]

theorem log_take (k : ℕ) : (log capacity rate b times).take k = log capacity rate b (times.take k) := by
  induction times generalizing b k with
  | nil => simp [log]
  | cons t times ih =>
    cases k with
    | zero => rfl
    | succ k => simp [log, ih]

theorem log_getElem? {k : ℕ} {t : K} {ok : Bool} (h : (log capacity rate b times)[k]? = some (t, ok)) :
    times[k]? = some t ∧ ok = (take capacity rate (after capacity rate b (times.take k)) t).1 := by
  induction times generalizing b k with
  | nil => simp [log] at h
  | cons u times ih =>
    cases k with
    | zero =>
      obtain ⟨rfl, rfl⟩ : u = t ∧ _ = ok := by simpa [log] using h
      exact ⟨rfl, rfl⟩
    | succ k => exact ih (take capacity rate b u).2 (by simpa [log] using h)

end

section

variable [IsStrictOrderedRing K] {capacity rate : K}

theorem le_available_concat (b : Level K) (times : List K) (u t z : K) :
    z ≤ available capacity rate (after capacity rate b (times ++ [u])) t ↔ z ≤ capacity ∧
      z + (if (take capacity rate (after capacity rate b times) u).1 then 1 else 0) - rate * (t - u) ≤
        available capacity rate (after capacity rate b times) u := by
  rw [after_concat, take_snd]
  set y := available capacity rate (after capacity rate b times) u
  simp only [available, le_min_iff]
  rw [and_comm]
  refine and_congr_right fun _ => ?_
  constructor <;> intro h <;> linarith

/-- What a full bucket holds at time `t` after the calls at `times`: the least of the bounds set by the windows
that start at one of them. -/
theorem le_available_iff (hrate : 0 ≤ rate) {start : K} {times : List K} {t : K}
    (hord : (start :: times ++ [t]).Pairwise (· ≤ ·)) (z : K) :
    z ≤ available capacity rate (after capacity rate ⟨capacity, start⟩ times) t ↔ z ≤ capacity ∧
      ∀ j e, (log capacity rate ⟨capacity, start⟩ times)[j]? = some e →
        z + admitted ((log capacity rate ⟨capacity, start⟩ times).drop j) ≤ capacity + rate * (t - e.1) := by
  induction times using List.reverseRecOn generalizing t z with
  | nil =>
    have hle : start ≤ t := by simpa using hord
    have hfull : capacity ≤ capacity + (t - start) * rate := by
      have := mul_nonneg (sub_nonneg.mpr hle) hrate
      linarith
    simp [after, available, min_eq_right hfull, log]
  | append_singleton times u ih =>
    have hu : (start :: times ++ [u]).Pairwise (· ≤ ·) := by
      refine hord.sublist ?_
      simp
    rw [le_available_concat, ih hu, log_concat]
    set ok := (take capacity rate (after capacity rate ⟨capacity, start⟩ times) u).1
    set l := log capacity rate ⟨capacity, start⟩ times
    refine and_congr_right fun hz => ?_
    constructor
    · rintro ⟨hlast, hall⟩ j e hj
      obtain ⟨hlt, hj⟩ | ⟨rfl, rfl⟩ := getElem?_concat hj
      · have hbound := hall j e hj
        rw [List.drop_append_of_le_length hlt.le, admitted_append, Nat.cast_add, admitted_single]
        linarith
      · rw [List.drop_left, admitted_single]
        linarith
    · intro hall
      constructor
      · have hbound := hall l.length (u, ok) (by simp)
        rw [List.drop_left, admitted_single] at hbound
        linarith
      · intro j e hj
        have hlt : j < l.length := (List.getElem?_eq_some_iff.mp hj).1
        have hbound := hall j e (by rw [List.getElem?_append_left hlt, hj])
        rw [List.drop_append_of_le_length hlt.le, admitted_append, Nat.cast_add, admitted_single] at hbound
        linarith

theorem exact_log (hrate : 0 ≤ rate) {start : K} {times : List K}
    (hord : (start :: times).Pairwise (· ≤ ·)) : Exact capacity rate (log capacity rate ⟨capacity, start⟩ times) := by
  intro k t ok hk
  obtain ⟨ht, rfl⟩ := log_getElem? capacity rate _ _ hk
  obtain ⟨hlt, rfl⟩ := List.getElem?_eq_some_iff.mp ht
  have hsplit : (start :: times.take k ++ [times[k]]).Pairwise (· ≤ ·) := by
    rw [List.cons_append, List.take_append_getElem]
    exact hord.sublist ((List.take_sublist _ _).cons_cons _)
  rw [take_fst, decide_eq_true_iff, le_available_iff hrate hsplit, ← log_take]
  set l := log capacity rate ⟨capacity, start⟩ times
  constructor
  · rintro ⟨hone, hall⟩ j hjk e hj
    obtain hjk | rfl := hjk.lt_or_eq
    · have hbound := hall j e (by rw [List.getElem?_take_of_lt hjk, hj])
      linarith
    · cases Option.some.inj (hk.symm.trans hj)
      simpa [admitted] using hone
  · intro hall
    constructor
    · simpa [admitted] using hall k le_rfl _ hk
    · intro j e hj
      have hjk : j < k := by
        have := (List.getElem?_eq_some_iff.mp hj).1
        rw [List.length_take] at this
        omega
      rw [List.getElem?_take_of_lt hjk] at hj
      have hbound := hall j hjk.le e hj
      linarith

omit [IsStrictOrderedRing K] in
theorem exact_of_concat {l : List (K × Bool)} {e : K × Bool} (h : Exact capacity rate (l ++ [e])) :
    Exact capacity rate l := by
  intro k t ok hk
  have hlt : k < l.length := (List.getElem?_eq_some_iff.mp hk).1
  rw [h k t ok (by rw [List.getElem?_append_left hlt, hk]), List.take_append_of_le_length hlt.le]
  refine forall₂_congr fun j hjk => forall_congr' fun f => ?_
  rw [List.getElem?_append_left (by omega)]

/-- From the first entry at or after `a` on, `Exact` bounds the admissions; the entries before it do not count. -/
theorem interval_concat {l : List (K × Bool)} {t a T : K} (hrate : 0 ≤ rate)
    (h : Exact capacity rate (l ++ [(t, true)])) (ha : a ≤ t) (hT : t ≤ a + T) :
    (l.countP (fun e => e.2 && decide (a ≤ e.1 ∧ e.1 ≤ a + T)) : K) + 1 ≤ capacity + rate * T := by
  set inside : K × Bool → Bool := fun e => e.2 && decide (a ≤ e.1 ∧ e.1 ≤ a + T)
  have hearly : ∀ m : List (K × Bool), (∀ e ∈ m, e.1 < a) → m.countP inside = 0 := by
    intro m hm
    refine List.countP_eq_zero.mpr fun e he => ?_
    simp [inside, hm e he]
  have hall := (h l.length t true (by simp)).mp rfl
  rw [List.take_left] at hall
  cases hfirst : l.find? fun e => decide (a ≤ e.1) with
  | none =>
    have hone : (1 : K) ≤ capacity := by simpa [admitted] using hall l.length le_rfl (t, true) (by simp)
    have hnonneg := mul_nonneg hrate (show 0 ≤ T by linarith)
    rw [hearly l (by simpa using hfirst)]
    simp only [Nat.cast_zero]
    linarith
  | some e =>
    obtain ⟨hge, before, rest, rfl, hbefore⟩ := List.find?_eq_some_iff_append.mp hfirst
    have hbound := hall before.length (by simp) e (by simp)
    rw [List.drop_left] at hbound
    have hle : (e :: rest).countP inside ≤ admitted (e :: rest) :=
      List.countP_mono_left fun f _ hf => (Bool.and_eq_true_iff.mp hf).1
    have hcast : ((e :: rest).countP inside : K) ≤ admitted (e :: rest) := Nat.cast_le.mpr hle
    have hstart : a ≤ e.1 := of_decide_eq_true hge
    have hwindow := mul_le_mul_of_nonneg_left (show t - e.1 ≤ T by linarith) hrate
    rw [List.countP_append, hearly before (by simpa using hbefore), Nat.zero_add]
    linarith

theorem interval_admitted_le {l : List (K × Bool)} (hcap : 0 ≤ capacity) (hrate : 0 ≤ rate)
    (h : Exact capacity rate l) (a : K) {T : K} (hT : 0 ≤ T) :
    (l.countP (fun e => e.2 && decide (a ≤ e.1 ∧ e.1 ≤ a + T)) : K) ≤ capacity + rate * T := by
  induction l using List.reverseRecOn with
  | nil =>
    have := mul_nonneg hrate hT
    simp
    linarith
  | append_singleton l e ih =>
    obtain ⟨t, ok⟩ := e
    rw [List.countP_append, Nat.cast_add]
    by_cases hin : ok = true ∧ a ≤ t ∧ t ≤ a + T
    · obtain ⟨rfl, ha, hle⟩ := hin
      simpa [ha, hle] using interval_concat hrate h ha hle
    · have hzero : [(t, ok)].countP (fun e => e.2 && decide (a ≤ e.1 ∧ e.1 ≤ a + T)) = 0 := by
        simpa using hin
      rw [hzero]
      simpa using ih (exact_of_concat h)

theorem take_within {b : Level K} {t : K} (hcap : 0 ≤ capacity) (hrate : 0 ≤ rate) (ht : b.last ≤ t)
    (hb : 0 ≤ b.tokens) : 0 ≤ (take capacity rate b t).2.tokens ∧ (take capacity rate b t).2.tokens ≤ capacity := by
  have hadded := mul_nonneg (sub_nonneg.mpr ht) hrate
  have hnonneg : 0 ≤ available capacity rate b t := le_min (by linarith) hcap
  have hle : available capacity rate b t ≤ capacity := min_le_right _ _
  unfold take
  split
  · rename_i hone
    exact ⟨by dsimp only; linarith, by dsimp only; linarith⟩
  · exact ⟨hnonneg, hle⟩

theorem after_within {b : Level K} {times : List K} (hcap : 0 ≤ capacity) (hrate : 0 ≤ rate)
    (hord : (b.last :: times).Pairwise (· ≤ ·)) (hb : 0 ≤ b.tokens ∧ b.tokens ≤ capacity) :
    0 ≤ (after capacity rate b times).tokens ∧ (after capacity rate b times).tokens ≤ capacity := by
  induction times generalizing b with
  | nil => exact hb
  | cons t times ih =>
    have hlast : (take capacity rate b t).2.last = t := by rw [take_snd]
    obtain ⟨hle, htimes⟩ := List.pairwise_cons.mp hord
    exact ih (by rw [hlast]; exact htimes) (take_within hcap hrate (hle t (by simp)) hb.1)

end

end AgentProxy.Bucket
