-- The kinds of typed slots: what values a slot of a kind takes, the form they are stored in, and
-- how a stored value is read back at a kind. Reading accepts the stored forms of the kind, and
-- any integer as the nearest floating-point number; nothing is truncated or replaced by a default.
import Gamebook.Value
import Gamebook.Text.Quoted

namespace Gamebook

/-! ## Kinds and their values -/

/-- The ranges of integers a slot may be declared with. -/
inductive IntRange where
  | signed64 | unsigned8 | unsigned32 | unsigned64
  deriving DecidableEq, Repr

namespace IntRange

def name : IntRange → String
  | .signed64 => "i64"
  | .unsigned8 => "u8"
  | .unsigned32 => "u32"
  | .unsigned64 => "u64"

def low : IntRange → Int
  | .signed64 => -0x8000000000000000
  | _ => 0

def high : IntRange → Int
  | .signed64 => 0x7fffffffffffffff
  | .unsigned8 => 0xff
  | .unsigned32 => 0xffffffff
  | .unsigned64 => 0xffffffffffffffff

def Fits (w : IntRange) (n : Int) : Prop := w.low ≤ n ∧ n ≤ w.high

instance (w : IntRange) (n : Int) : Decidable (w.Fits n) := inferInstanceAs (Decidable (_ ∧ _))

example : signed64.low = -2 ^ 63 ∧ signed64.high = 2 ^ 63 - 1 ∧ unsigned8.high = 2 ^ 8 - 1 ∧
    unsigned32.high = 2 ^ 32 - 1 ∧ unsigned64.high = 2 ^ 64 - 1 := by decide

end IntRange

inductive Kind where
  | bool
  | int (range : IntRange)
  | float
  | string
  | unit
  | value
  | list (item : Kind)
  | option (item : Kind)
  | pair (first second : Kind)
  | table (item : Kind)
  deriving DecidableEq, Repr

namespace Kind

@[reducible] def Carrier : Kind → Type
  | .bool => Bool
  | .int w => { n : Int // w.Fits n }
  | .float => Binary64
  | .string => String
  | .unit => Unit
  | .value => Value
  | .list k => List k.Carrier
  | .option k => Option k.Carrier
  | .pair a b => a.Carrier × b.Carrier
  | .table k => Dict k.Carrier

/-! ## Writing -/

/-- A value of a kind as a document. -/
def toValue : (k : Kind) → k.Carrier → Value
  | .bool, b => .bool b
  | .int _, n => .int n.1
  | .float, x => .float x
  | .string, s => .str s
  | .unit, () => .null
  | .value, v => v
  | .list k, xs => .list (xs.map k.toValue)
  | .option _, none => .null
  | .option k, some x => k.toValue x
  | .pair a b, (x, y) => .list [a.toValue x, b.toValue y]
  | .table k, d => .object (d.entries.map fun (name, x) => (name, k.toValue x))

/-- The stored form of a value of a kind. -/
def encode (k : Kind) (x : k.Carrier) : Value := (k.toValue x).stored

/-! ## Reading -/

/-- Why a stored value cannot be read at a kind. -/
inductive Mismatch where
  /-- The value has another shape than the wanted one. -/
  | wrongShape (got : Value) (wanted : String)
  | outOfRange (n : Int) (range : IntRange)
  /-- A list for a pair ends too soon. -/
  | tooShort (length : Nat)
  /-- A list for a pair goes on. -/
  | tooLong (length : Nat)

/-- What error messages call a value. -/
def Mismatch.nameOf : Value → String
  | .null => "null"
  | .bool b => "boolean `" ++ (if b then "true" else "false") ++ "`"
  | .int n => "integer `" ++ toString n ++ "`"
  | .float x => "floating point `" ++ x.text ++ "`"
  | .str s => "string " ++ Text.quoted s
  | .list _ => "sequence"
  | .object _ => "map"

def Mismatch.message : Mismatch → String
  | .wrongShape got wanted => "invalid type: " ++ nameOf got ++ ", expected " ++ wanted
  | .outOfRange n w => "invalid value: integer `" ++ toString n ++ "`, expected " ++ w.name
  | .tooShort n => "invalid length " ++ toString n ++ ", expected a tuple of size 2"
  | .tooLong n => "invalid length " ++ toString n ++ ", expected fewer elements in array"

/-- Reads the items of a list in order; the first that cannot be read is reported. -/
def readAll {α : Type} (read : Value → Except Mismatch α) : List Value → Except Mismatch (List α)
  | [] => .ok []
  | v :: vs => do
    let x ← read v
    let xs ← readAll read vs
    return x :: xs

def readFields {α : Type} (read : Value → Except Mismatch α) :
    List (String × Value) → Except Mismatch (List (String × α))
  | [] => .ok []
  | (name, v) :: fields => do
    let x ← read v
    let xs ← readFields read fields
    return (name, x) :: xs

/-- Reads the two items of a pair. An item that is there but cannot be read is reported before
the length. -/
def readPair {α β : Type} (first : Value → Except Mismatch α) (second : Value → Except Mismatch β) :
    List Value → Except Mismatch (α × β)
  | [] => .error (.tooShort 0)
  | v :: vs => do
    let x ← first v
    match vs with
    | [] => .error (.tooShort 1)
    | w :: ws =>
      let y ← second w
      match ws with
      | [] => .ok (x, y)
      | _ :: _ => .error (.tooLong (ws.length + 2))

def decode : (k : Kind) → Value → Except Mismatch k.Carrier
  | .bool, .bool b => .ok b
  | .bool, v => .error (.wrongShape v "a boolean")
  | .int w, .int n => if h : w.Fits n then .ok ⟨n, h⟩ else .error (.outOfRange n w)
  | .int w, v => .error (.wrongShape v w.name)
  | .float, .float x => .ok x
  | .float, .int n => .ok (Binary64.ofInt n)
  | .float, v => .error (.wrongShape v "f64")
  | .string, .str s => .ok s
  | .string, v => .error (.wrongShape v "a string")
  | .unit, .null => .ok ()
  | .unit, v => .error (.wrongShape v "unit")
  | .value, v => .ok v
  | .list k, .list vs => readAll k.decode vs
  | .list _, v => .error (.wrongShape v "a sequence")
  | .option _, .null => .ok none
  | .option k, v => (k.decode v).map some
  | .pair a b, .list vs => readPair a.decode b.decode vs
  | .pair _ _, v => .error (.wrongShape v "a tuple of size 2")
  | .table k, .object fields => (readFields k.decode fields).map Dict.ofList
  | .table _, v => .error (.wrongShape v "a map")

end Kind

end Gamebook
