-- Values: what an environment slot holds, what an expression computes and what a session notes.
-- A value is a document of nulls, booleans, integers, floating-point numbers, strings, lists and
-- objects; the fields of an object are in ascending order of their names.
import Gamebook.Dict
import Gamebook.Number.Shortest

namespace Gamebook

/-! ## The type -/

inductive Value where
  | null
  | bool (b : Bool)
  | int (n : Int)
  | float (x : Binary64)
  | str (s : String)
  | list (items : List Value)
  | object (fields : List (String × Value))

namespace Value

instance : Inhabited Value := ⟨.null⟩

/-- An object of the given fields; of several with one name the last stays. -/
def ofFields (fields : List (String × Value)) : Value := .object (Dict.ofList fields).entries

/-! ## The stored form -/

mutual

/-- The form a value is stored in: a floating-point number that is not finite becomes null. -/
def stored : Value → Value
  | .float x => if x.isFinite then .float x else .null
  | .list items => .list (storedItems items)
  | .object fields => .object (storedFields fields)
  | v => v

def storedItems : List Value → List Value
  | [] => []
  | v :: vs => v.stored :: storedItems vs

def storedFields : List (String × Value) → List (String × Value)
  | [] => []
  | (name, v) :: fields => (name, v.stored) :: storedFields fields

end

theorem storedItems_eq_map (items : List Value) : storedItems items = items.map stored := by
  induction items with
  | nil => simp [storedItems]
  | cons v vs ih => simp [storedItems, ih]

/-! ## Equality -/

mutual

/-- Whether two values are equal. Integers and floating-point numbers are never equal to each
other; two floating-point numbers are equal when their bits are, so that the two zeros differ. -/
def same : Value → Value → Bool
  | .null, .null => true
  | .bool a, .bool b => a = b
  | .int a, .int b => a = b
  | .float a, .float b => a = b
  | .str a, .str b => a = b
  | .list a, .list b => sameItems a b
  | .object a, .object b => sameFields a b
  | _, _ => false

def sameItems : List Value → List Value → Bool
  | [], [] => true
  | a :: as, b :: bs => a.same b && sameItems as bs
  | _, _ => false

def sameFields : List (String × Value) → List (String × Value) → Bool
  | [], [] => true
  | (j, a) :: as, (k, b) :: bs => j = k && a.same b && sameFields as bs
  | _, _ => false

end

/-! ## Parts that expressions look at -/

/-- The integer of a value that is one in the signed range of 64 bits, else zero. -/
def toInt : Value → Int
  | .int n => if -0x8000000000000000 ≤ n ∧ n < 0x8000000000000000 then n else 0
  | _ => 0

/-- Whether a value is the boolean true. -/
def isTrue : Value → Bool
  | .bool b => b
  | _ => false

end Value

end Gamebook
