import Mathlib.Algebra.Order.Ring.Int
import Mathlib.Data.Rat.Defs
import Mathlib.Data.String.Basic
import Mathlib.Logic.Function.Basic
import Mathlib.Tactic.SplitIfs

namespace AgentProxy.Sql

inductive Value where
  | null
  | integer (n : ℤ)
  | real (x : ℚ)
  | text (s : String)
  deriving DecidableEq

def Value.typeName : Value → String
  | null => "Null"
  | integer _ => "Integer"
  | real _ => "Real"
  | text _ => "Text"

abbrev Row := String → Value

def Row.ofList (columns : List (String × Value)) : Row :=
  fun c => ((columns.find? fun p => decide (p.1 = c)).map (·.2)).getD .null

/-- Only TEXT columns are compared; they hold text or null, and a comparison with null selects nothing. -/
inductive Op where
  | eq
  | ge
  | lt

def Op.holds : Op → Value → Value → Bool
  | eq, .text a, .text b => decide (a = b)
  | ge, .text a, .text b => decide (b ≤ a)
  | lt, .text a, .text b => decide (a < b)
  | _, _, _ => false

/-- The parameter that `?i` stands for. -/
def bound (params : List Value) (i : ℕ) : Value := (params[i - 1]?).getD .null

def wrongCount (given needed : ℕ) : String :=
  "Wrong number of parameters passed to query. Got " ++ toString given ++ ", needed " ++ toString needed

def parameterCount (indices : List ℕ) : ℕ := indices.foldl max 0

def assign (sets : List (String × ℕ)) (params : List Value) (row : Row) : Row :=
  sets.foldl (fun row set => Function.update row set.1 (bound params set.2)) row

/-- `UPDATE … SET … WHERE key = ?i`: the rows afterwards and how many were hit. -/
def updateRows (sets : List (String × ℕ)) (key : String) (i : ℕ) (params : List Value) (rows : List Row) :
    Except String (List Row × ℕ) :=
  let needed := parameterCount (sets.map (·.2) ++ [i])
  let hit := fun row : Row => Op.eq.holds (row key) (bound params i)
  if needed = params.length then
    .ok (rows.map fun row => if hit row then assign sets params row else row, rows.countP hit)
  else .error (wrongCount params.length needed)

/-- A SET clause and its parameters as they grow side by side. -/
structure Assignments where
  sets : List (String × ℕ)
  params : List Value
  counted : parameterCount (sets.map (·.2)) = params.length

namespace Assignments

theorem parameterCount_concat (indices : List ℕ) (i : ℕ) :
    parameterCount (indices ++ [i]) = max (parameterCount indices) i := by
  rw [parameterCount, List.foldl_append]
  rfl

def first (column : String) (value : Value) : Assignments := ⟨[(column, 1)], [value], rfl⟩

def push (b : Assignments) (column : String) : Option Value → Assignments
  | none => b
  | some value =>
    { sets := b.sets ++ [(column, b.params.length + 1)]
      params := b.params ++ [value]
      counted := by
        rw [List.map_append, List.map_singleton, parameterCount_concat, b.counted, List.length_append,
          List.length_singleton]
        omega }

def run (b : Assignments) (extra : List Value) (row : Row) : Row := assign b.sets (b.params ++ extra) row

end Assignments

def setIf (row : Row) (column : String) (value : Option Value) : Row := value.elim row (Function.update row column)

theorem setIf_apply (row : Row) (column : String) (value : Option Value) (c : String) :
    setIf row column value c = if c = column then value.getD (row c) else row c := by
  cases value with
  | none =>
    rw [setIf, Option.elim_none, Option.getD_none, ite_self]
  | some v =>
    rw [setIf, Option.elim_some, Function.update_apply, Option.getD_some]

theorem bound_append (params extra : List Value) (value : Value) :
    bound (params ++ value :: extra) (params.length + 1) = value := by
  rw [bound, Nat.add_sub_cancel, List.getElem?_append_right (Nat.le_refl _), Nat.sub_self]
  rfl

namespace Assignments

theorem run_first (column : String) (value : Value) (extra : List Value) (row : Row) :
    (first column value).run extra row = setIf row column (some value) := rfl

theorem run_push (b : Assignments) (column : String) (value : Option Value) (extra : List Value) (row : Row) :
    (b.push column value).run extra row = setIf (b.run (value.toList ++ extra) row) column value := by
  cases value with
  | none => rfl
  | some v =>
    have hparams : b.params ++ [v] ++ extra = b.params ++ v :: extra := by simp
    rw [run, push, assign, List.foldl_append, hparams, List.foldl_cons, List.foldl_nil, bound_append]
    rfl

end Assignments

theorem updateRows_built (b : Assignments) (key : String) (value : Value) (rows : List Row) :
    updateRows b.sets key (b.params.length + 1) (b.params ++ [value]) rows =
      .ok (rows.map fun row => if Op.eq.holds (row key) value then b.run [value] row else row,
        rows.countP fun row => Op.eq.holds (row key) value) := by
  have hcount : parameterCount (b.sets.map (·.2) ++ [b.params.length + 1]) = (b.params ++ [value]).length := by
    rw [Assignments.parameterCount_concat, b.counted, List.length_append, List.length_singleton]
    omega
  rw [updateRows, if_pos hcount, bound_append]
  rfl

/-- `INSERT INTO … (columns) VALUES (?i, …)` into a table with the primary key `key`. -/
def insertRow (table key : String) (columns : List String) (indices : List ℕ) (params : List Value) (rows : List Row) :
    Except String (List Row) :=
  let needed := parameterCount indices
  let row := Row.ofList (columns.zip (indices.map (bound params)))
  if needed = params.length then
    if rows.any fun r => Op.eq.holds (r key) (row key) then
      .error ("UNIQUE constraint failed: " ++ table ++ "." ++ key)
    else .ok (rows ++ [row])
  else .error (wrongCount params.length needed)

/-- A WHERE clause of conditions `column op ?` and its parameters as they grow side by side; each `?` takes the next
parameter. -/
structure Conditions where
  clauses : List (String × Op)
  params : List Value
  counted : clauses.length = params.length

namespace Conditions

def none : Conditions := ⟨[], [], rfl⟩

def push (b : Conditions) (column : String) (op : Op) : Option Value → Conditions
  | .none => b
  | some value =>
    { clauses := b.clauses ++ [(column, op)]
      params := b.params ++ [value]
      counted := by
        rw [List.length_append, List.length_append, b.counted]
        rfl }

end Conditions

def whereHolds (clauses : List (String × Op)) (params : List Value) (row : Row) : Bool :=
  (clauses.zip params).all fun p => p.1.2.holds (row p.1.1) p.2

theorem whereHolds_none (row : Row) : whereHolds Conditions.none.clauses Conditions.none.params row = true := rfl

theorem whereHolds_push (b : Conditions) (column : String) (op : Op) (value : Option Value) (row : Row) :
    whereHolds (b.push column op value).clauses (b.push column op value).params row =
      (whereHolds b.clauses b.params row && value.all fun v => op.holds (row column) v) := by
  cases value with
  | none => exact (Bool.and_true _).symm
  | some v =>
    rw [whereHolds, Conditions.push, List.zip_append b.counted, List.all_append]
    simp [whereHolds]

abbrev Fields := List (String × Value)

def select (columns : List String) (row : Row) : Fields := columns.map fun c => (c, row c)

inductive Fault where
  | type
  | range (n : ℤ)

def field {α : Type} (convert : Value → Except Fault α) (fields : Fields) (i : ℕ) : Except String α :=
  match fields[i]? with
  | none => .error ("Invalid column index: " ++ toString i)
  | some (name, value) =>
    match convert value with
    | .ok a => .ok a
    | .error .type =>
      .error ("Invalid column type " ++ value.typeName ++ " at index: " ++ toString i ++ ", name: " ++ name)
    | .error (.range n) => .error ("Integer " ++ toString n ++ " out of range at index " ++ toString i)

def asText : Value → Except Fault String
  | .text s => .ok s
  | _ => .error .type

def asInteger : Value → Except Fault ℤ
  | .integer n => .ok n
  | _ => .error .type

def asBool : Value → Except Fault Bool
  | .integer n => .ok (decide (n ≠ 0))
  | _ => .error .type

def asUnsigned (bits : ℕ) : Value → Except Fault ℕ
  | .integer n => if 0 ≤ n ∧ n < 2 ^ bits then .ok n.toNat else .error (.range n)
  | _ => .error .type

def asReal : Value → Except Fault ℚ
  | .integer n => .ok n
  | .real x => .ok x
  | _ => .error .type

def asOption {α : Type} (convert : Value → Except Fault α) : Value → Except Fault (Option α)
  | .null => .ok none
  | value => (convert value).map some

def nullable {α : Type} (value : α → Value) (a : Option α) : Value := (a.map value).getD .null

def boolean (b : Bool) : Value := .integer (if b then 1 else 0)

theorem field_ok {α : Type} {convert : Value → Except Fault α} {fields : Fields} {i : ℕ} {name : String} {value : Value}
    {a : α} (hfield : fields[i]? = some (name, value)) (h : convert value = .ok a) : field convert fields i = .ok a := by
  rw [field, hfield]
  dsimp only
  rw [h]

theorem asBool_boolean (b : Bool) : asBool (boolean b) = .ok b := by
  cases b with
  | false => rfl
  | true => rfl

theorem asUnsigned_natCast {bits n : ℕ} (h : n < 2 ^ bits) : asUnsigned bits (.integer n) = .ok n := by
  have hrange : (0 : ℤ) ≤ n ∧ (n : ℤ) < 2 ^ bits := ⟨by omega, by exact_mod_cast h⟩
  rw [asUnsigned, if_pos hrange, Int.toNat_natCast]

theorem asOption_text (s : Option String) : asOption asText (nullable .text s) = .ok s := by
  cases s with
  | none => rfl
  | some s => rfl

theorem asOption_unsigned {bits : ℕ} {n : Option ℕ} (h : ∀ q ∈ n, q < 2 ^ bits) :
    asOption (asUnsigned bits) (nullable (fun q : ℕ => .integer q) n) = .ok n := by
  cases n with
  | none => rfl
  | some q =>
    change (asUnsigned bits (.integer q)).map some = _
    rw [asUnsigned_natCast (h q rfl)]
    rfl

end AgentProxy.Sql
