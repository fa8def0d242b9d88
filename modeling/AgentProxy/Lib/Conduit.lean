import AgentProxy.Lib.Run

namespace AgentProxy.Conduit

open Transition

/-- What a task does with an input: nothing, send an output and go on, or send a last output. -/
inductive Verdict (σ ο : Type) where
  | skip (s : σ)
  | emit (s : σ) (o : ο)
  | fail (o : ο)

inductive Task (σ ο : Type) where
  | waiting (s : σ)
  | sending (s : σ) (o : ο)
  | failing (o : ο)
  | ended

/-- A task that feeds a bounded queue; `read` and `taken` record its inputs and what the receiver took. -/
structure State (σ ι ο : Type) where
  task : Task σ ο
  queue : List ο
  listening : Bool
  read : List ι
  taken : List ο

inductive Event (ι : Type) where
  | input (i : ι)
  | close
  | deliver
  | receive
  | leave

variable {σ ι ο : Type}

def State.start (s : σ) : State σ ι ο := ⟨.waiting s, [], true, [], []⟩

def Verdict.state : Verdict σ ο → Option σ
  | skip s => some s
  | emit s _ => some s
  | fail _ => none

def Verdict.task : Verdict σ ο → Task σ ο
  | skip s => .waiting s
  | emit s o => .sending s o
  | fail o => .failing o

def Task.state : Task σ ο → Option σ
  | waiting s => some s
  | sending s _ => some s
  | failing _ => none
  | ended => none

def Task.held : Task σ ο → List ο
  | waiting _ => []
  | sending _ o => [o]
  | failing o => [o]
  | ended => []

/-- The task after the output in its hand is in the queue. -/
def Task.sent : Task σ ο → Task σ ο
  | sending s _ => .waiting s
  | _ => .ended

section

variable (feed : σ → ι → Verdict σ ο)

/-- The outputs for a list of inputs, and the state after it unless an output was the last one. -/
def feedAll (s : σ) : List ι → List ο × Option σ
  | [] => ([], some s)
  | i :: is =>
    match feed s i with
    | .skip t => feedAll t is
    | .emit t o => (o :: (feedAll t is).1, (feedAll t is).2)
    | .fail o => ([o], none)

def emitted (s : σ) (is : List ι) : List ο := (feedAll feed s is).1

variable (capacity : ℕ)

def step (s : State σ ι ο) : Event ι → Option (State σ ι ο)
  | .input i =>
    match s.task with
    | .waiting x => some { s with task := (feed x i).task, read := s.read ++ [i] }
    | _ => none
  | .close =>
    match s.task with
    | .waiting _ => some { s with task := .ended }
    | _ => none
  | .deliver =>
    if s.task.held = [] then none
    else if s.listening = false then some { s with task := .ended }
    else if s.queue.length < capacity then some { s with task := s.task.sent, queue := s.queue ++ s.task.held }
    else none
  | .receive =>
    match s.queue with
    | [] => none
    | o :: rest => some { s with queue := rest, taken := s.taken ++ [o] }
  | .leave => if s.listening then some { s with listening := false, queue := [] } else none

end

structure Inv (feed : σ → ι → Verdict σ ο) (capacity : ℕ) (x : σ) (s : State σ ι ο) : Prop where
  state : ∀ y, s.task.state = some y → (feedAll feed x s.read).2 = some y
  kept : s.listening = true → s.taken ++ s.queue ++ s.task.held = emitted feed x s.read
  left : s.listening = false → s.queue = [] ∧ s.taken <+: emitted feed x s.read
  bounded : s.queue.length ≤ capacity

variable {feed : σ → ι → Verdict σ ο} {capacity : ℕ} {x : σ} {s t : State σ ι ο} {e : Event ι}

theorem feedAll_concat {y : σ} {is : List ι} {i : ι} (h : (feedAll feed x is).2 = some y) :
    feedAll feed x (is ++ [i]) = ((feedAll feed x is).1 ++ (feed y i).task.held, (feed y i).state) := by
  induction is generalizing x with
  | nil =>
    cases h
    simp only [List.nil_append, feedAll]
    cases feed y i <;> rfl
  | cons j is ih =>
    simp only [List.cons_append, feedAll] at h ⊢
    cases hj : feed x j with
    | skip z =>
      rw [hj] at h
      exact ih h
    | emit z o =>
      rw [hj] at h
      simp only [ih h, List.cons_append]
    | fail o =>
      rw [hj] at h
      cases h

theorem start_inv : Inv feed capacity x (.start x : State σ ι ο) where
  state y h := h
  kept _ := rfl
  left h := absurd h (by simp [State.start])
  bounded := Nat.zero_le _

theorem step_cases (h : step feed capacity s e = some t) :
    (∃ i y, e = .input i ∧ s.task = .waiting y ∧ t = { s with task := (feed y i).task, read := s.read ++ [i] }) ∨
    (∃ y, e = .close ∧ s.task = .waiting y ∧ t = { s with task := .ended }) ∨
    (e = .deliver ∧ s.task.held ≠ [] ∧ s.listening = false ∧ t = { s with task := .ended }) ∨
    (e = .deliver ∧ s.task.held ≠ [] ∧ s.listening = true ∧ s.queue.length < capacity ∧
      t = { s with task := s.task.sent, queue := s.queue ++ s.task.held }) ∨
    (∃ o rest, e = .receive ∧ s.queue = o :: rest ∧ t = { s with queue := rest, taken := s.taken ++ [o] }) ∨
    (e = .leave ∧ s.listening = true ∧ t = { s with listening := false, queue := [] }) := by
  cases e with
  | input i =>
    simp only [step] at h
    split at h
    · rename_i y hy
      cases h
      exact .inl ⟨i, y, rfl, hy, rfl⟩
    · cases h
  | close =>
    simp only [step] at h
    split at h
    · rename_i y hy
      cases h
      exact .inr (.inl ⟨y, rfl, hy, rfl⟩)
    · cases h
  | deliver =>
    simp only [step] at h
    split_ifs at h with hheld hlistening hroom
    · cases h
      exact .inr (.inr (.inl ⟨rfl, hheld, hlistening, rfl⟩))
    · cases h
      exact .inr (.inr (.inr (.inl ⟨rfl, hheld, by simpa using hlistening, hroom, rfl⟩)))
  | receive =>
    simp only [step] at h
    split at h
    · cases h
    · rename_i o rest hqueue
      cases h
      exact .inr (.inr (.inr (.inr (.inl ⟨o, rest, rfl, hqueue, rfl⟩))))
  | leave =>
    simp only [step] at h
    split_ifs at h with hlistening
    cases h
    exact .inr (.inr (.inr (.inr (.inr ⟨rfl, hlistening, rfl⟩))))

theorem held_ended : (Task.ended : Task σ ο).held = [] := rfl

theorem task_state (v : Verdict σ ο) : v.task.state = v.state := by
  cases v <;> rfl

theorem held_sent (task : Task σ ο) : task.sent.held = [] := by
  cases task <;> rfl

theorem length_held_le (task : Task σ ο) : task.held.length ≤ 1 := by
  cases task <;> simp [Task.held]

theorem Inv.input {y : σ} (h : Inv feed capacity x s) (htask : s.task = .waiting y) (i : ι) :
    Inv feed capacity x { s with task := (feed y i).task, read := s.read ++ [i] } := by
  have hall := feedAll_concat (i := i) (h.state y (by rw [htask]; rfl))
  have hemitted : emitted feed x (s.read ++ [i]) = emitted feed x s.read ++ (feed y i).task.held := by
    rw [emitted, hall, emitted]
  constructor
  · intro z hz
    rw [hall]
    rwa [← task_state]
  · intro hlistening
    have hkept := h.kept hlistening
    rw [htask, Task.held, List.append_nil] at hkept
    rw [hemitted, ← hkept]
  · intro hlistening
    obtain ⟨hqueue, htaken⟩ := h.left hlistening
    rw [hemitted]
    exact ⟨hqueue, htaken.trans (List.prefix_append _ _)⟩
  · exact h.bounded

theorem Inv.taken_isPrefix (h : Inv feed capacity x s) : s.taken <+: emitted feed x s.read := by
  cases hlistening : s.listening with
  | false => exact (h.left hlistening).2
  | true =>
    rw [← h.kept hlistening, List.append_assoc]
    exact List.prefix_append _ _

theorem Inv.next (h : Inv feed capacity x s) (hstep : step feed capacity s e = some t) : Inv feed capacity x t := by
  rcases step_cases hstep with ⟨i, y, -, htask, rfl⟩ | ⟨y, -, htask, rfl⟩ | ⟨-, -, hlistening, rfl⟩ |
    ⟨-, hheld, hlistening, hroom, rfl⟩ | ⟨o, rest, -, hqueue, rfl⟩ | ⟨-, hlistening, rfl⟩
  · exact h.input htask i
  · constructor
    · intro z hz
      cases hz
    · intro hlistening
      have hkept := h.kept hlistening
      rwa [htask] at hkept
    · exact h.left
    · exact h.bounded
  · constructor
    · intro z hz
      cases hz
    · intro hlistening'
      exact absurd (hlistening'.symm.trans hlistening) (by decide)
    · exact h.left
    · exact h.bounded
  · constructor
    · intro z hz
      apply h.state z
      dsimp only at hz
      cases htask : s.task with
      | sending y o => simpa [htask, Task.sent, Task.state] using hz
      | waiting y => simp [htask, Task.held] at hheld
      | failing o => simp [htask, Task.sent, Task.state] at hz
      | ended => simp [htask, Task.held] at hheld
    · intro _
      dsimp only
      rw [held_sent, List.append_nil, ← List.append_assoc]
      exact h.kept hlistening
    · intro hlistening'
      exact absurd (hlistening.symm.trans hlistening') (by decide)
    · have hlength := length_held_le s.task
      simp only [List.length_append]
      omega
  · have hopen : s.listening = true := by
      by_contra hclosed
      rw [(h.left (by simpa using hclosed)).1] at hqueue
      cases hqueue
    have hbounded := h.bounded
    constructor
    · exact h.state
    · intro _
      have hkept := h.kept hopen
      rw [hqueue] at hkept
      simpa using hkept
    · intro hlistening
      exact absurd (hopen.symm.trans hlistening) (by decide)
    · rw [hqueue, List.length_cons] at hbounded
      dsimp only
      omega
  · constructor
    · exact h.state
    · intro hlistening'
      cases hlistening'
    · intro _
      exact ⟨rfl, h.taken_isPrefix⟩
    · exact Nat.zero_le _

theorem run_inv {es : List (Event ι)} (h : run (step feed capacity) (.start x) es = some s) : Inv feed capacity x s :=
  @run_invariant _ _ _ (fun _ _ => True) (Inv feed capacity x) (fun _ _ _ hs _ hstep => hs.next hstep) _ _ _
    start_inv (meets_of_forall (fun _ _ _ => trivial) _) h

/-- When neither the task nor the receiver can go on without an input, everything has arrived. -/
theorem Inv.quiescent (h : Inv feed capacity x s) (hcapacity : 0 < capacity) (hlistening : s.listening = true)
    (hdeliver : step feed capacity s .deliver = none) (hreceive : step feed capacity s .receive = none) :
    s.taken = emitted feed x s.read := by
  have hqueue : s.queue = [] := by
    simp only [step] at hreceive
    split at hreceive
    · assumption
    · cases hreceive
  have hheld : s.task.held = [] := by
    simp only [step, hlistening, hqueue, List.length_nil, hcapacity, if_true] at hdeliver
    by_contra hne
    simp [hne] at hdeliver
  have hkept := h.kept hlistening
  rwa [hqueue, hheld, List.append_nil, List.append_nil] at hkept

def Event.Internal : Event ι → Prop
  | deliver => True
  | receive => True
  | _ => False

def pending (s : State σ ι ο) : ℕ := 2 * s.task.held.length + s.queue.length

theorem internal_step (h : step feed capacity s e = some t) (he : e.Internal) :
    t.read = s.read ∧ t.listening = s.listening ∧ pending t < pending s := by
  rcases step_cases h with ⟨i, y, rfl, -, -⟩ | ⟨y, rfl, -, -⟩ | ⟨-, hheld, -, rfl⟩ | ⟨-, hheld, -, -, rfl⟩ |
    ⟨o, rest, -, hqueue, rfl⟩ | ⟨rfl, -, -⟩
  · exact he.elim
  · exact he.elim
  · have hpos := List.length_pos_iff.mpr hheld
    refine ⟨rfl, rfl, ?_⟩
    simp only [pending, held_ended, List.length_nil]
    omega
  · have hpos := List.length_pos_iff.mpr hheld
    refine ⟨rfl, rfl, ?_⟩
    simp only [pending, held_sent, List.length_append, List.length_nil]
    omega
  · refine ⟨rfl, rfl, ?_⟩
    simp only [pending, hqueue, List.length_cons]
    omega
  · exact he.elim

/-- Without inputs only so many steps are possible, and they lose and add no input. -/
theorem internal_run {es : List (Event ι)} (h : run (step feed capacity) s es = some t) (hes : ∀ e ∈ es, e.Internal) :
    t.read = s.read ∧ t.listening = s.listening ∧ es.length + pending t ≤ pending s := by
  induction es generalizing s with
  | nil =>
    cases h
    exact ⟨rfl, rfl, by simp⟩
  | cons e es ih =>
    obtain ⟨u, hu, ht⟩ := run_cons.mp h
    obtain ⟨he, hrest⟩ := List.forall_mem_cons.mp hes
    obtain ⟨hread, hlistening, hlt⟩ := internal_step hu he
    obtain ⟨hread', hlistening', hle⟩ := ih ht hrest
    refine ⟨hread'.trans hread, hlistening'.trans hlistening, ?_⟩
    rw [List.length_cons]
    omega

end AgentProxy.Conduit
