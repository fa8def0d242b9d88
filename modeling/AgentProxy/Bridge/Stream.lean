import AgentProxy.Bridge.Convert
import AgentProxy.Lib.Conduit

namespace AgentProxy.Bridge.Stream

open Conduit Transition

abbrev Bytes := List UInt8

/-- The stream functions of `llm_bridge_core`, which is not part of the repository, on a state of type `σ`. -/
structure StreamCore (σ : Type) where
  start : σ
  transform : StreamTransform → Bytes → ApiFormat → σ → Except TransformError Bytes × σ

/-- A chunk of the upstream body, or the text of the error that ends it. -/
abbrev Chunk := Except String Bytes

abbrev Item := Except ProxyError Bytes

variable {σ : Type} (core : StreamCore σ) (source target : ApiFormat)

def feed (state : σ) : Chunk → Verdict σ Item
  | .error e => .fail (.error (.internal e))
  | .ok chunk =>
    if chunk.isEmpty then .skip state
    else
      match core.transform (streamTransform target) chunk source state with
      | (.error e, _) => .fail (.error (.internal e.message))
      | (.ok output, state') => if output.isEmpty then .skip state' else .emit state' (.ok output)

def capacity : ℕ := 32

abbrev BridgeStream (σ : Type) := State σ Chunk Item

def bridgeStream : BridgeStream σ → Event Chunk → Option (BridgeStream σ) := step (feed core source target) capacity

def converted (chunks : List Chunk) : List Item := emitted (feed core source target) core.start chunks

theorem feed_cases (state : σ) (chunk : Chunk) :
    (∃ t, feed core source target state chunk = .skip t) ∨
    (∃ t output, output ≠ [] ∧ feed core source target state chunk = .emit t (.ok output)) ∨
    ∃ e, feed core source target state chunk = .fail (.error e) := by
  cases chunk with
  | error e => exact .inr (.inr ⟨_, rfl⟩)
  | ok chunk =>
    simp only [feed]
    split_ifs
    · exact .inl ⟨state, rfl⟩
    · split
      · exact .inr (.inr ⟨_, rfl⟩)
      · split_ifs with hempty
        · exact .inl ⟨_, rfl⟩
        · exact .inr (.inl ⟨_, _, by simpa using hempty, rfl⟩)

theorem emitted_wellFormed (state : σ) (chunks : List Chunk) :
    ∃ (outputs : List Bytes) (error : Option ProxyError), (∀ output ∈ outputs, output ≠ []) ∧
      emitted (feed core source target) state chunks = outputs.map .ok ++ error.toList.map .error := by
  induction chunks generalizing state with
  | nil => exact ⟨[], none, by simp, rfl⟩
  | cons chunk chunks ih =>
    simp only [emitted, feedAll] at ih ⊢
    rcases feed_cases core source target state chunk with ⟨t, hfeed⟩ | ⟨t, output, hne, hfeed⟩ | ⟨e, hfeed⟩
    · rw [hfeed]
      exact ih t
    · obtain ⟨outputs, error, houtputs, heq⟩ := ih t
      rw [hfeed]
      refine ⟨output :: outputs, error, List.forall_mem_cons.mpr ⟨hne, houtputs⟩, ?_⟩
      dsimp only
      rw [heq, List.map_cons, List.cons_append]
    · rw [hfeed]
      exact ⟨[], some e, by simp, rfl⟩

/-- What the client of a stream can rely on, however reading, sending and receiving interleave. -/
structure Delivers (s : BridgeStream σ) : Prop where
  inOrder : s.taken <+: converted core source target s.read
  complete : s.listening = true → s.taken ++ s.queue ++ s.task.held = converted core source target s.read
  bounded : s.queue.length ≤ 32
  wellFormed : ∃ (outputs : List Bytes) (error : Option ProxyError), (∀ output ∈ outputs, output ≠ []) ∧
    converted core source target s.read = outputs.map .ok ++ error.toList.map .error
  drains : ∀ es t, (∀ e ∈ es, e.Internal) → run (bridgeStream core source target) s es = some t →
    es.length ≤ 34 ∧ (s.listening = true → bridgeStream core source target t .deliver = none →
      bridgeStream core source target t .receive = none → t.taken = converted core source target s.read)

variable {core source target}

theorem bridge_stream_delivers {es : List (Event Chunk)} {s : BridgeStream σ}
    (h : run (bridgeStream core source target) (.start core.start) es = some s) : Delivers core source target s := by
  have hinv := run_inv h
  constructor
  · exact hinv.taken_isPrefix
  · exact hinv.kept
  · exact hinv.bounded
  · exact emitted_wellFormed core source target core.start s.read
  · intro es' t hes' ht
    obtain ⟨hread, hlistening, hle⟩ := internal_run ht hes'
    have hheld := length_held_le s.task
    have hbounded : s.queue.length ≤ 32 := hinv.bounded
    constructor
    · simp only [pending] at hle
      omega
    · intro hopen hdeliver hreceive
      have hinv' := run_inv (run_append.mpr ⟨s, h, ht⟩)
      rw [← hread]
      exact hinv'.quiescent (by decide) (hlistening.trans hopen) hdeliver hreceive

namespace Sample

def relay : StreamCore ℕ := ⟨0, fun _ chunk _ n => (.ok (UInt8.ofNat n :: chunk), n + 1)⟩

def events : List (Event Chunk) :=
  [.input (.ok [1]), .deliver, .input (.ok []), .input (.ok [2, 3]), .receive, .deliver, .input (.error "reset")]

end Sample

theorem bridge_stream_delivers_relay :
    ∃ s, run (bridgeStream Sample.relay .openaiChat .anthropicMessages) (.start 0) Sample.events = some s ∧
      s.taken = [.ok [0, 1]] ∧ Delivers Sample.relay .openaiChat .anthropicMessages s :=
  ⟨_, rfl, rfl, @bridge_stream_delivers _ Sample.relay .openaiChat .anthropicMessages Sample.events _ rfl⟩

end AgentProxy.Bridge.Stream
