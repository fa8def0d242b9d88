import AgentProxy.Admin.Handlers
import AgentProxy.Server.Gate

namespace AgentProxy.Admin

open Bytes Server

def adminKeyHeader : String := "x-admin-key"

def adminKeyEnv : String := "AGENT_PROXY_ADMIN_KEY"

structure AdminKey where
  key : String
  generated : Bool
  deriving DecidableEq

def hexByte (b : UInt8) : List Char := [Nat.digitChar (b.toNat / 16), Nat.digitChar (b.toNat % 16)]

def randomKey (random : ℕ → UInt8) : String := String.ofList ((List.range 32).flatMap fun i => hexByte (random i))

def resolveAdminKeyWith (envLookup : String → Option String) (random : ℕ → UInt8) : AdminKey :=
  match envLookup adminKeyEnv with
  | some value =>
    let key := String.ofList (Text.trim value.toList)
    if key.isEmpty then ⟨randomKey random, true⟩ else ⟨key, false⟩
  | none => ⟨randomKey random, true⟩

def constantTimeEq (a b : String) : Bool :=
  if (utf8 a).length ≠ (utf8 b).length then false else differences (utf8 a) (utf8 b) = 0

structure AdminAuthLayer where
  expectedKey : String

def AppError.unauthorized : AppError := ⟨401, "unauthorized", "invalid or missing x-admin-key header"⟩

def adminAuthMiddleware (layer : AdminAuthLayer) (headers : HeaderMap) : Except AppError Unit :=
  let provided := (headerText headers adminKeyHeader).getD ""
  if constantTimeEq provided layer.expectedKey then .ok () else .error .unauthorized

/-- The request has no header of the admin key, an empty one or one that is not visible ASCII. -/
def NoAdminKey (raw : RawHeaders) : Prop :=
  raw.lookup adminKeyHeader = none ∨ raw.lookup adminKeyHeader = some [] ∨
    ∃ bytes, raw.lookup adminKeyHeader = some bytes ∧ bytes.all isVisible = false

theorem constantTimeEq_iff (a b : String) : constantTimeEq a b = true ↔ a = b := by
  unfold constantTimeEq
  split
  · rename_i hlen
    constructor
    · intro h
      cases h
    · rintro rfl
      exact absurd rfl hlen
  · rename_i hlen
    rw [decide_eq_true_eq, differences_eq_zero_iff (not_not.mp hlen), utf8_injective.eq_iff]

theorem randomKey_ne_empty (random : ℕ → UInt8) : randomKey random ≠ "" := by
  intro h
  have hlist := congrArg String.toList h
  rw [randomKey, String.toList_ofList, List.range_succ_eq_map, List.flatMap_cons] at hlist
  cases hlist

theorem resolveAdminKeyWith_ne_empty (envLookup : String → Option String) (random : ℕ → UInt8) :
    (resolveAdminKeyWith envLookup random).key ≠ "" := by
  unfold resolveAdminKeyWith
  split
  · dsimp only
    split
    · exact randomKey_ne_empty random
    · rename_i hkey
      simpa using hkey
  · exact randomKey_ne_empty random

theorem adminAuthMiddleware_ok_iff {layer : AdminAuthLayer} {raw : RawHeaders} (hkey : layer.expectedKey ≠ "") :
    adminAuthMiddleware layer raw.received = .ok () ↔
      ∃ bytes, raw.lookup adminKeyHeader = some bytes ∧ Auth.VisiblySpelledBy bytes layer.expectedKey := by
  have hpass : adminAuthMiddleware layer raw.received = .ok () ↔
      (headerText raw.received adminKeyHeader).getD "" = layer.expectedKey := by
    rw [← constantTimeEq_iff]
    simp [adminAuthMiddleware]
  have hread : (headerText raw.received adminKeyHeader).getD "" = layer.expectedKey ↔
      headerText raw.received adminKeyHeader = some layer.expectedKey := by
    rcases headerText raw.received adminKeyHeader with _ | text
    · simp [hkey.symm]
    · simp
  rw [hpass, hread]
  exact headerText_received_eq_some_iff

theorem not_spelled_of_noAdminKey {raw : RawHeaders} {key : String} (hkey : key ≠ "") (h : NoAdminKey raw) :
    ¬ ∃ bytes, raw.lookup adminKeyHeader = some bytes ∧ Auth.VisiblySpelledBy bytes key := by
  rintro ⟨bytes, hbytes, hvisible, rfl⟩
  unfold NoAdminKey at h
  rw [hbytes] at h
  obtain h | h | ⟨other, hother, hbinary⟩ := h
  · cases h
  · rw [Option.some_inj, utf8_eq_nil] at h
    exact hkey h
  · rw [Option.some_inj] at hother
    rw [← hother, hvisible] at hbinary
    cases hbinary

theorem adminAuthMiddleware_of_not_ok {layer : AdminAuthLayer} {headers : HeaderMap}
    (h : adminAuthMiddleware layer headers ≠ .ok ()) : adminAuthMiddleware layer headers = .error .unauthorized := by
  unfold adminAuthMiddleware at h ⊢
  dsimp only at h ⊢
  split at h
  · exact absurd rfl h
  · rename_i hdiffer
    rw [if_neg hdiffer]

theorem admin_gate_exact (envLookup : String → Option String) (random : ℕ → UInt8) (raw : RawHeaders) :
    let key := (resolveAdminKeyWith envLookup random).key
    key ≠ "" ∧
      (adminAuthMiddleware ⟨key⟩ raw.received = .ok () ↔
        ∃ bytes, raw.lookup adminKeyHeader = some bytes ∧ bytes.all isVisible = true ∧ bytes = utf8 key) ∧
      (NoAdminKey raw → adminAuthMiddleware ⟨key⟩ raw.received = .error .unauthorized) ∧
      ∀ a b, constantTimeEq a b = true ↔ a = b := by
  intro key
  have hkey : key ≠ "" := resolveAdminKeyWith_ne_empty envLookup random
  have hiff := @adminAuthMiddleware_ok_iff ⟨key⟩ raw hkey
  refine ⟨hkey, hiff, fun hmissing => ?_, constantTimeEq_iff⟩
  apply adminAuthMiddleware_of_not_ok
  rw [Ne, hiff]
  exact not_spelled_of_noAdminKey hkey hmissing

theorem admin_gate_blank_variable : NoAdminKey [("x-api-key", utf8 "secret")] ∧
    adminAuthMiddleware ⟨(resolveAdminKeyWith (fun _ => some " ") (fun _ => 7)).key⟩
      (RawHeaders.received [("x-api-key", utf8 "secret")]) = .error .unauthorized := by
  have hmissing : NoAdminKey [("x-api-key", utf8 "secret")] := .inl rfl
  exact ⟨hmissing, (admin_gate_exact (fun _ => some " ") (fun _ => 7) _).2.2.1 hmissing⟩

end AgentProxy.Admin
