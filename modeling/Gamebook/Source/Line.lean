-- The lines of a story source, each with its number, its byte range and its text, and what a
-- line can be: a comment, a node marker, a setting or an option.
import Gamebook.Text.Blank
import Gamebook.Text.Pieces

namespace Gamebook.Source

/-! ## Lines -/

/-- A range of bytes, from `start` up to but not including `stop`. -/
structure Span where
  start : Nat
  stop : Nat
  deriving DecidableEq, Repr

/-- A line of a source: its number from 1 on, its range, and its characters without the line
feed. -/
structure Line where
  number : Nat
  span : Span
  raw : List Char
  deriving DecidableEq, Repr

/-- The text of a line: its characters without the blanks around them. -/
def Line.text (l : Line) : List Char := Text.trim l.raw

/-- Numbers and places pieces that begin with line `number` at byte `offset`; one byte, the line
feed, stands between two of them. -/
def linesFrom (number offset : Nat) : List (List Char) → List Line
  | [] => []
  | p :: ps =>
    { number, span := ⟨offset, offset + Text.byteSize p⟩, raw := p }
      :: linesFrom (number + 1) (offset + Text.byteSize p + 1) ps

def linesOf (source : List Char) : List Line := linesFrom 1 0 (Text.pieces '\n' source)

/-! ## What a text can be -/

/-- A comment begins with two slashes. -/
def isComment : List Char → Bool
  | '/' :: '/' :: _ => true
  | _ => false

/-- The id of a node marker: what stands between an opening bracket at the start and a closing
one at the end, if that is not empty. -/
def marker? : List Char → Option (List Char)
  | '[' :: r => if r.getLast? = some ']' ∧ 2 ≤ r.length then some r.dropLast else none
  | _ => none

/-- Key and value of a setting: what stands before and after the first equals sign, trimmed. -/
def setting? (text : List Char) : Option (List Char × List Char) :=
  (Text.cut '=' text).map fun (key, value) => (Text.trim key, Text.trim value)

/-- Label and target of an option line. The label stands between an opening brace at the start
and the first closing one that leaves it not empty; the target is what follows, without the
blanks before it, and must not be empty. -/
def option? : List Char → Option (List Char × List Char)
  | '{' :: c :: r =>
    match Text.cut '}' r with
    | none => none
    | some (label, rest) =>
      match Text.trimLeft rest with
      | [] => none
      | target => some (c :: label, target)
  | _ => none

end Gamebook.Source
