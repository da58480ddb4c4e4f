-- Values written as JSON documents: compact, on one line without blanks, and indented, two
-- blanks for each level. Object fields come out in the order they are in. A floating-point number
-- is its bits in the compact form, where nothing of it is lost, and its decimal text in the other.
import Gamebook.Value

namespace Gamebook

/-! ## Strings -/

/-- A hexadecimal digit of a control character's code. -/
def hexDigit (n : Nat) : Char := (Nat.toDigits 16 n).headD '0'

/-- How one character stands inside a string. Only the quote, the backslash and control
characters below U+0020 are escaped. -/
def jsonEscape (c : Char) : List Char :=
  if c = '"' then ['\\', '"']
  else if c = '\\' then ['\\', '\\']
  else if c = '\n' then ['\\', 'n']
  else if c = '\r' then ['\\', 'r']
  else if c = '\t' then ['\\', 't']
  else if c = '\x08' then ['\\', 'b']
  else if c = '\x0c' then ['\\', 'f']
  else if c.toNat < 0x20 then
    ['\\', 'u', '0', '0', hexDigit (c.toNat / 16), hexDigit (c.toNat % 16)]
  else [c]

def jsonString (s : String) : String :=
  String.ofList (['"'] ++ s.toList.flatMap jsonEscape ++ ['"'])

namespace Value

/-- The text of a value that has no parts, given how a floating-point number is written. -/
def scalarText (float : Binary64 → String) : Value → String
  | .null => "null"
  | .bool b => if b then "true" else "false"
  | .int n => toString n
  | .float x => float x
  | .str s => jsonString s
  | .list _ => ""
  | .object _ => ""

def bitText (x : Binary64) : String :=
  String.ofList ((List.range 16).map fun i => hexDigit (x.pattern / Nat.pow 16 (15 - i) % 16))

def bitObject (x : Binary64) : String := "\x7b\"$f\":\"" ++ bitText x ++ "\"\x7d"

/-- A number as a decimal, or null if it is not finite. -/
def decimalText (x : Binary64) : String := if x.isFinite then x.text else "null"

/-! ## Compact -/

mutual

def compact : Value → String
  | .list items => "[" ++ String.intercalate "," (compactItems items) ++ "]"
  | .object fields => "\x7b" ++ String.intercalate "," (compactFields fields) ++ "\x7d"
  | v => v.scalarText bitObject

def compactItems : List Value → List String
  | [] => []
  | v :: vs => v.compact :: compactItems vs

def compactFields : List (String × Value) → List String
  | [] => []
  | (name, v) :: fields => (jsonString name ++ ":" ++ v.compact) :: compactFields fields

end

/-! ## Indented -/

/-- The start of a line at the given depth. -/
def lineAt (depth : Nat) : String := "\n" ++ String.ofList (List.replicate (2 * depth) ' ')

/-- Members between brackets, each on a line of its own; nothing between them if there are no
members. -/
def bracketed (opening closing : String) (depth : Nat) (members : List String) : String :=
  if members.isEmpty then opening ++ closing
  else opening ++ lineAt (depth + 1) ++ String.intercalate ("," ++ lineAt (depth + 1)) members
    ++ lineAt depth ++ closing

mutual

def indentedAt (depth : Nat) : Value → String
  | .list items => bracketed "[" "]" depth (indentedItems (depth + 1) items)
  | .object fields => bracketed "\x7b" "\x7d" depth (indentedFields (depth + 1) fields)
  | v => v.scalarText decimalText

def indentedItems (depth : Nat) : List Value → List String
  | [] => []
  | v :: vs => v.indentedAt depth :: indentedItems depth vs

def indentedFields (depth : Nat) : List (String × Value) → List String
  | [] => []
  | (name, v) :: fields =>
    (jsonString name ++ ": " ++ v.indentedAt depth) :: indentedFields depth fields

end

def indented (v : Value) : String := v.indentedAt 0

/-- A value as a piece of text: null is empty, a string stands for itself, and anything else is
its compact document. -/
def asText : Value → String
  | .null => ""
  | .str s => s
  | v => v.compact

example : asText (.list [.int 3, .float ⟨0xbfe0000000000000⟩])
    = "[3,\x7b\"$f\":\"bfe0000000000000\"\x7d]" := by
  decide +kernel

end Value

end Gamebook
