import Mathlib.Data.Rat.Defs
import Mathlib.Data.List.Basic

namespace AgentProxy

inductive Number where
  | posInt (n : UInt64)
  | negInt (n : Int64)
  | float (q : ℚ)
  deriving DecidableEq

/-- `serde_json::Value`; the keys of an object are distinct. -/
inductive Json where
  | null
  | bool (b : Bool)
  | num (n : Number)
  | str (s : String)
  | arr (items : List Json)
  | obj (fields : List (String × Json))

namespace Json

mutual

def beq : Json → Json → Bool
  | null, null => true
  | bool a, bool b => a == b
  | num a, num b => a == b
  | str a, str b => a == b
  | arr a, arr b => beqItems a b
  | obj a, obj b => beqFields a b
  | _, _ => false

def beqItems : List Json → List Json → Bool
  | [], [] => true
  | a :: as, b :: bs => beq a b && beqItems as bs
  | _, _ => false

def beqFields : List (String × Json) → List (String × Json) → Bool
  | [], [] => true
  | (k, a) :: as, (l, b) :: bs => k == l && beq a b && beqFields as bs
  | _, _ => false

end

instance : BEq Json := ⟨beq⟩

def get (v : Json) (k : String) : Option Json :=
  match v with
  | obj fields => fields.lookup k
  | _ => none

def asU64 : Json → Option UInt64
  | num (.posInt n) => some n
  | _ => none

def asStr : Json → Option String
  | str s => some s
  | _ => none

def asBool : Json → Option Bool
  | bool b => some b
  | _ => none

def asArray : Json → Option (List Json)
  | arr items => some items
  | _ => none

def asObject : Json → Option (List (String × Json))
  | obj fields => some fields
  | _ => none

def isPositive : Json → Bool
  | num (.posInt n) => decide (0 < n)
  | num (.negInt n) => decide (0 < n)
  | num (.float q) => decide (0 < q)
  | _ => false

def setField (k : String) (v : Json) : List (String × Json) → List (String × Json)
  | [] => []
  | (k', v') :: rest => if k' = k then (k', v) :: rest else (k', v') :: setField k v rest

def replace (body : Json) (k : String) (v : Json) : Json :=
  match body with
  | obj fields => obj (setField k v fields)
  | other => other

def counter (v : Json) (k : String) : UInt64 := ((v.get k).bind asU64).getD 0

end Json

end AgentProxy
