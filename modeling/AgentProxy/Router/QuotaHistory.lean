import AgentProxy.Router.Middleware
import Mathlib.Algebra.Ring.Nat

namespace AgentProxy.Router.QuotaHistory

inductive Metric where
  | requests
  | tokens

namespace Metric

def quota : Metric → UInt64 → Quota
  | requests, n => .maxRequests n
  | tokens, n => .maxTokens n

def counter : Metric → QuotaUsage → UInt64
  | requests, u => u.requestsThisMonth
  | tokens, u => u.tokensThisMonth

def amount : Metric → UInt64 → UInt64
  | requests, _ => 1
  | tokens, n => n

end Metric

inductive Event where
  | record (month : ℕ) (tokens : UInt64)
  | check (month : ℕ)

namespace Event

def month : Event → ℕ
  | record m _ => m
  | check m => m

def recordMonth : Event → Option ℕ
  | record m _ => some m
  | check _ => none

def usage (metric : Metric) (k : ℕ) : Event → ℕ
  | record m n => if m = k then (metric.amount n).toNat else 0
  | check _ => 0

end Event

variable (now : ℕ) (id : String) (metric : Metric) (n : UInt64)

def apply (r : RouterState) : Event → RouterState
  | .record month tokens => perform now month r (.recordUsage id tokens)
  | .check month => (r.quotaCheck month id (some (metric.quota n))).2

def after (r : RouterState) (history : List Event) : RouterState := history.foldl (apply now id metric n) r

def answer (r : RouterState) (month : ℕ) : Bool := (r.quotaCheck month id (some (metric.quota n))).1

def usedIn (k : ℕ) (history : List Event) : ℕ := (history.map (Event.usage metric k)).sum

def lastRecord (history : List Event) : Option ℕ := (history.filterMap Event.recordMonth).getLast?

def Ordered (history : List Event) (k : ℕ) : Prop :=
  history.Pairwise (fun a b => a.month ≤ b.month) ∧ ∀ e ∈ history, e.month ≤ k

instance (history : List Event) (k : ℕ) : Decidable (Ordered history k) := inferInstanceAs (Decidable (_ ∧ _))

/-- The counter starts the month at zero, or what is left in it from the last month of use makes no
difference; and it has not run over 64 bits. -/
def Undisturbed (history : List Event) (k : ℕ) : Prop :=
  ∀ j, lastRecord history = some j →
    if j = k then usedIn metric k history < 2 ^ 64 ∨ n.toNat ≤ usedIn metric k history % 2 ^ 64
    else n = 0 ∨ usedIn metric j history % 2 ^ 64 < n.toNat

section

variable {now : ℕ} {id : String} {metric : Metric} {n : UInt64} {k : ℕ} {history : List Event}

@[simp] theorem usedIn_concat (e : Event) :
    usedIn metric k (history ++ [e]) = usedIn metric k history + e.usage metric k := by
  simp [usedIn]

@[simp] theorem lastRecord_record (m : ℕ) (tokens : UInt64) :
    lastRecord (history ++ [.record m tokens]) = some m := by
  simp [lastRecord, Event.recordMonth]

@[simp] theorem lastRecord_check (m : ℕ) : lastRecord (history ++ [.check m]) = lastRecord history := by
  simp [lastRecord, Event.recordMonth]

theorem after_concat (r : RouterState) (e : Event) :
    after now id metric n r (history ++ [e]) = apply now id metric n (after now id metric n r history) e := by
  simp [after]

theorem ordered_concat {e : Event} (h : Ordered (history ++ [e]) k) :
    Ordered history e.month ∧ e.month ≤ k := by
  obtain ⟨hpair, hle⟩ := h
  obtain ⟨hpair, -, hlast⟩ := List.pairwise_append.mp hpair
  exact ⟨⟨hpair, fun a ha => hlast a ha e List.mem_cons_self⟩, hle e (by simp)⟩

theorem usedIn_eq_zero (h : ∀ m ∈ history.filterMap Event.recordMonth, m ≠ k) : usedIn metric k history = 0 := by
  induction history with
  | nil => rfl
  | cons e history ih =>
    cases e with
    | record m tokens =>
      simp only [List.filterMap_cons, Event.recordMonth, List.forall_mem_cons] at h
      simpa [usedIn, Event.usage, h.1] using ih h.2
    | check m =>
      simp only [List.filterMap_cons, Event.recordMonth] at h
      simpa [usedIn, Event.usage] using ih h

theorem record_le_last {j m : ℕ} (ho : Ordered history k) (hj : lastRecord history = some j)
    (hm : m ∈ history.filterMap Event.recordMonth) : m ≤ j := by
  induction history using List.reverseRecOn generalizing k j with
  | nil => cases hm
  | append_singleton history e ih =>
    obtain ⟨ho, -⟩ := ordered_concat ho
    cases e with
    | record m' tokens =>
      rw [lastRecord_record] at hj
      cases hj
      rw [List.filterMap_append, List.mem_append] at hm
      rcases hm with hm | hm
      · obtain ⟨e, he, hm⟩ := List.mem_filterMap.mp hm
        have hle := ho.2 e he
        cases e with
        | record m'' t => cases hm; exact hle
        | check => cases hm
      · simp only [List.filterMap_cons, Event.recordMonth, List.filterMap_nil, List.mem_singleton] at hm
        exact hm.le
    | check m' =>
      rw [lastRecord_check] at hj
      exact ih ho hj (by simpa [Event.recordMonth] using hm)

theorem usedIn_after_last {j : ℕ} (ho : Ordered history k) (hj : lastRecord history = some j) (hlt : j < k) :
    usedIn metric k history = 0 := by
  apply usedIn_eq_zero
  intro m hm hk
  have := record_le_last ho hj hm
  omega

theorem Ordered.lastRecord_le {j : ℕ} (ho : Ordered history k) (hj : lastRecord history = some j) : j ≤ k := by
  obtain ⟨e, he, hm⟩ := List.mem_filterMap.mp (List.mem_of_getLast? hj)
  cases e with
  | record m t => cases hm; exact ho.2 _ he
  | check => cases hm

theorem usedIn_no_record (h : lastRecord history = none) : usedIn metric k history = 0 := by
  apply usedIn_eq_zero
  intro m hm
  rw [lastRecord, List.getLast?_eq_none_iff] at h
  rw [h] at hm
  cases hm

theorem counter_recordUsage (u : QuotaUsage) (month : ℕ) (tokens : UInt64) :
    metric.counter (u.recordUsage month tokens) =
      (if month = u.monthKey then metric.counter u else 0) + metric.amount tokens := by
  by_cases h : month = u.monthKey <;> cases metric <;>
    simp [QuotaUsage.recordUsage, QuotaUsage.maybeReset, Metric.counter, Metric.amount, h]

theorem monthKey_recordUsage (u : QuotaUsage) (month : ℕ) (tokens : UInt64) :
    (u.recordUsage month tokens).monthKey = month := by
  by_cases h : month = u.monthKey <;> simp [QuotaUsage.recordUsage, QuotaUsage.maybeReset, h]

end

structure Tracks (r : RouterState) (history : List Event) : Prop where
  untouched : r.quotaUsage id = none → lastRecord history = none
  idle : ∀ u, r.quotaUsage id = some u → lastRecord history = none → metric.counter u = 0
  used : ∀ u j, r.quotaUsage id = some u → lastRecord history = some j →
    u.monthKey = j ∧ (metric.counter u).toNat = usedIn metric j history % 2 ^ 64

section

variable {now : ℕ} {id : String} {metric : Metric} {n : UInt64} {k : ℕ} {history : List Event} {r : RouterState}

theorem counter_new (month : ℕ) : metric.counter (QuotaUsage.new month) = 0 := by
  cases metric <;> rfl

theorem Tracks.reset (h : Tracks id metric r history) (ho : Ordered history k) :
    (if k = (r.quotaEntry k id).monthKey then metric.counter (r.quotaEntry k id) else 0).toNat =
      usedIn metric k history % 2 ^ 64 := by
  cases hu : r.quotaUsage id with
  | none =>
    rw [usedIn_no_record (h.untouched hu)]
    simp [RouterState.quotaEntry, hu, counter_new]
  | some u =>
    simp only [RouterState.quotaEntry, hu, Option.getD_some]
    cases hj : lastRecord history with
    | none =>
      rw [usedIn_no_record hj, h.idle u hu hj]
      simp
    | some j =>
      obtain ⟨hkey, hcounter⟩ := h.used u j hu hj
      rw [hkey]
      by_cases hk : k = j
      · rw [if_pos hk, hk, hcounter]
      · have hle : j ≤ k := ho.lastRecord_le hj
        rw [if_neg hk, usedIn_after_last ho hj (by omega)]
        rfl

theorem apply_tracks {e : Event} (h : Tracks id metric r history) (ho : Ordered history e.month) :
    Tracks id metric (apply now id metric n r e) (history ++ [e]) := by
  cases e with
  | record month tokens =>
    have hentry : (apply now id metric n r (.record month tokens)).quotaUsage id =
        some ((r.quotaEntry month id).recordUsage month tokens) := by
      simp [apply, perform, RouterState.setQuota]
    constructor
    · intro hnone
      rw [hentry] at hnone
      cases hnone
    · intro u _ hnone
      rw [lastRecord_record] at hnone
      cases hnone
    · intro u j hu hj
      rw [hentry] at hu
      rw [lastRecord_record] at hj
      cases hu
      cases hj
      refine ⟨monthKey_recordUsage _ _ _, ?_⟩
      have hreset := h.reset (k := month) ho
      rw [counter_recordUsage, UInt64.toNat_add, hreset, usedIn_concat, Event.usage, if_pos rfl, Nat.mod_add_mod]
  | check month =>
    have hentry : (apply now id metric n r (.check month)).quotaUsage id = some (r.quotaEntry month id) := by
      simp [apply, RouterState.quotaCheck, RouterState.setQuota]
    constructor
    · intro hnone
      rw [hentry] at hnone
      cases hnone
    · intro u hu hnone
      rw [hentry] at hu
      rw [lastRecord_check] at hnone
      cases hu
      cases he : r.quotaUsage id with
      | none => rw [RouterState.quotaEntry, he, Option.getD_none, counter_new]
      | some u => rw [RouterState.quotaEntry, he, Option.getD_some, h.idle u he hnone]
    · intro u j hu hj
      rw [hentry] at hu
      rw [lastRecord_check] at hj
      cases hu
      rw [usedIn_concat]
      cases he : r.quotaUsage id with
      | none =>
        rw [h.untouched he] at hj
        cases hj
      | some u =>
        rw [RouterState.quotaEntry, he, Option.getD_some]
        exact h.used u j he hj

theorem after_tracks (hr : r.quotaUsage id = none) (ho : Ordered history k) :
    Tracks id metric (after now id metric n r history) history := by
  induction history using List.reverseRecOn generalizing k with
  | nil => exact ⟨fun _ => rfl, fun u hu => by simp [after, hr] at hu, fun u j hu => by simp [after, hr] at hu⟩
  | append_singleton history e ih =>
    obtain ⟨ho, -⟩ := ordered_concat ho
    rw [after_concat]
    exact apply_tracks (ih ho) ho

theorem answer_eq (r : RouterState) (k : ℕ) :
    answer id metric n r k = decide ((metric.counter (r.quotaEntry k id)).toNat < n.toNat) := by
  cases metric <;> rfl

theorem Tracks.answer_iff (h : Tracks id metric r history) :
    answer id metric n r k = true ↔
      ((lastRecord history).elim 0 fun j => usedIn metric j history % 2 ^ 64) < n.toNat := by
  rw [answer_eq, decide_eq_true_iff]
  cases hu : r.quotaUsage id with
  | none => simp [RouterState.quotaEntry, hu, counter_new, h.untouched hu]
  | some u =>
    rw [RouterState.quotaEntry, hu, Option.getD_some]
    cases hj : lastRecord history with
    | none => simp [h.idle u hu hj]
    | some j => simp [(h.used u j hu hj).2]

theorem withinQuota_iff_undisturbed (hr : r.quotaUsage id = none) (ho : Ordered history k) :
    (answer id metric n (after now id metric n r history) k = true ↔ usedIn metric k history < n.toNat) ↔
      Undisturbed metric n history k := by
  rw [(after_tracks hr ho).answer_iff, Undisturbed]
  cases hj : lastRecord history with
  | none => simp [usedIn_no_record hj]
  | some j =>
    have hn : n.toNat < 2 ^ 64 := n.toNat_lt
    simp only [Option.elim_some, Option.some.injEq, forall_eq']
    by_cases hk : j = k
    · rw [if_pos hk, hk]
      constructor
      · intro h
        by_contra hne
        have := h.mp (by omega)
        omega
      · rintro (h | h)
        · rw [Nat.mod_eq_of_lt h]
        · have := Nat.mod_le (usedIn metric k history) (2 ^ 64)
          omega
    · have hle : j ≤ k := ho.lastRecord_le hj
      rw [if_neg hk, usedIn_after_last ho hj (by omega), ← UInt64.toNat_inj, UInt64.toNat_zero]
      omega

end

namespace Sample

def state : RouterState := fromStorage Router.Sample.serde Storage.Database.empty

def history : List Event := [.check 0, .record 0 10]

end Sample

theorem withinQuota_same_month :
    answer "m1" .requests 1 (after 0 "m1" .requests 1 Sample.state Sample.history) 0 = true ↔
      usedIn .requests 0 Sample.history < (1 : UInt64).toNat :=
  (withinQuota_iff_undisturbed rfl (by decide)).mpr fun j hj => by
    cases hj
    decide

theorem exhausted_quota_survives_month :
    Ordered Sample.history 1 ∧
      ¬ (answer "m1" .requests 1 (after 0 "m1" .requests 1 Sample.state Sample.history) 1 = true ↔
        usedIn .requests 1 Sample.history < (1 : UInt64).toNat) := by
  decide

end AgentProxy.Router.QuotaHistory
