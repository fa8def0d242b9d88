import Mathlib.Data.List.Basic

namespace AgentProxy.Bytes

def utf8 (s : String) : List UInt8 := s.toList.flatMap String.utf8EncodeChar

theorem utf8_injective : Function.Injective utf8 := by
  intro s t h
  have hbytes : s.toList.utf8Encode = t.toList.utf8Encode := congrArg List.toByteArray h
  rw [String.utf8Encode_toList, String.utf8Encode_toList] at hbytes
  exact String.toByteArray_inj.mp hbytes

theorem utf8_eq_nil {s : String} : utf8 s = [] ↔ s = "" := utf8_injective.eq_iff (b := "")

/-- A byte of visible text: printable ASCII or a tab. -/
def isVisible (b : UInt8) : Bool := 32 ≤ b && b < 127 || b = 9

def visibleText? (bytes : List UInt8) : Option String :=
  if bytes.all isVisible then some (String.ofList (bytes.map fun b => Char.ofNat b.toNat)) else none

theorem isVisible_lt {b : UInt8} (h : isVisible b = true) : b.toNat < 128 := by
  simp only [isVisible, Bool.or_eq_true, Bool.and_eq_true, decide_eq_true_eq] at h
  obtain ⟨-, hlt⟩ | rfl := h
  · have hnat : b.toNat < 127 := UInt8.lt_iff_toNat_lt.mp hlt
    omega
  · decide

theorem utf8EncodeChar_ofNat {b : UInt8} (h : b.toNat < 128) :
    String.utf8EncodeChar (Char.ofNat b.toNat) = [b] := by
  have hall : ∀ n < 128, String.utf8EncodeChar (Char.ofNat n) = [UInt8.ofNat n] := by decide
  rw [hall b.toNat h, UInt8.ofNat_toNat]

theorem utf8_ofList_visible {bytes : List UInt8} (h : bytes.all isVisible = true) :
    utf8 (String.ofList (bytes.map fun b => Char.ofNat b.toNat)) = bytes := by
  simp only [utf8, String.toList_ofList]
  induction bytes with
  | nil => rfl
  | cons b bytes ih =>
    rw [List.all_cons, Bool.and_eq_true] at h
    rw [List.map_cons, List.flatMap_cons, utf8EncodeChar_ofNat (isVisible_lt h.1), ih h.2]
    rfl

theorem visibleText?_eq_some_iff {bytes : List UInt8} {s : String} :
    visibleText? bytes = some s ↔ bytes.all isVisible = true ∧ bytes = utf8 s := by
  unfold visibleText?
  split
  · rename_i hall
    have hbytes := utf8_ofList_visible hall
    rw [Option.some_inj]
    constructor
    · rintro rfl
      exact ⟨hall, hbytes.symm⟩
    · rintro ⟨-, heq⟩
      apply utf8_injective
      rw [hbytes, heq]
  · rename_i hall
    constructor
    · intro h
      cases h
    · rintro ⟨h, -⟩
      exact absurd h hall

/-- The bits in which two texts of one length differ, gathered over all positions. -/
def differences (a b : List UInt8) : UInt8 := (a.zip b).foldl (fun diff p => diff ||| (p.1 ^^^ p.2)) 0

theorem foldl_differences (pairs : List (UInt8 × UInt8)) (diff : UInt8) :
    pairs.foldl (fun diff p => diff ||| (p.1 ^^^ p.2)) diff = 0 ↔ diff = 0 ∧ ∀ p ∈ pairs, p.1 = p.2 := by
  induction pairs generalizing diff with
  | nil => simp
  | cons p pairs ih =>
    simp only [List.foldl_cons, ih, UInt8.or_eq_zero_iff, UInt8.xor_eq_zero_iff, List.forall_mem_cons]
    exact and_assoc

theorem zip_agrees_iff {α : Type} {a b : List α} (hlen : a.length = b.length) :
    (∀ p ∈ a.zip b, p.1 = p.2) ↔ a = b := by
  induction a generalizing b with
  | nil =>
    cases b with
    | nil => simp
    | cons y b => simp at hlen
  | cons x a ih =>
    cases b with
    | nil => simp at hlen
    | cons y b =>
      simp only [List.length_cons, Nat.add_right_cancel_iff] at hlen
      rw [List.zip_cons_cons, List.forall_mem_cons, ih hlen, List.cons.injEq]

theorem differences_eq_zero_iff {a b : List UInt8} (hlen : a.length = b.length) : differences a b = 0 ↔ a = b := by
  rw [differences, foldl_differences, zip_agrees_iff hlen]
  exact and_iff_right rfl

end AgentProxy.Bytes
