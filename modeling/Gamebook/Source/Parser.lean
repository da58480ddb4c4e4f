-- Reading a story source in one pass over its lines. Comments are skipped; before the first node
-- a line with an equals sign is a setting and any other line but a marker is dropped; from the
-- first node on a marker closes the open passage and opens the next, and every other line is an
-- option or text of the open passage.
import Gamebook.Source.Outline
import Gamebook.Text.Utf8

namespace Gamebook.Source

/-! ## Configuration -/

/-- What happens to a setting whose key has no meaning. -/
inductive UnknownKeys where
  | ignore | warn | reject
  deriving DecidableEq, Repr

structure Config where
  unknownKeys : UnknownKeys := .ignore
  /-- Whether options whose target is never declared are warned of. -/
  warnDangling : Bool := false
  deriving DecidableEq, Repr

/-! ## Results -/

structure Parsed where
  outline : Outline
  /-- Every option of the source, in order. -/
  links : List Link
  diagnostics : List Diagnostic
  deriving DecidableEq, Repr

namespace Parsed

def danglingLinks (p : Parsed) : List Link :=
  p.links.filter fun l => !p.outline.declares l.target

end Parsed

/-! ## One line -/

/-- How far the reading has come: what is complete, and the passage that is still open. -/
structure Progress where
  outline : Outline := {}
  current : Option Passage := none
  links : List Link := []
  warnings : List Diagnostic := []

namespace Progress

def setting (unknown : UnknownKeys) (s : Progress) (l : Line) (key value : List Char) :
    Except ParseError Progress :=
  if key = "title".toList then
    .ok { s with outline := { s.outline with title := String.ofList value } }
  else if key = "author".toList then
    .ok { s with outline := { s.outline with author := String.ofList value } }
  else if key = "initialNode".toList then
    .ok { s with outline := { s.outline with start := String.ofList value } }
  else match unknown with
    | .ignore => .ok s
    | .warn =>
      .ok { s with
        warnings := s.warnings ++
          [{ severity := .warning, span := l.span, line := l.number
             message := ParseError.unknownKeyText (String.ofList key), label := some "ignored" }] }
    | .reject => .error (.unknownKey l.number l.span (String.ofList key))

/-- Completes the open passage, if there is one, because of a line or of the end. -/
def close (s : Progress) (number : Nat) (span : Span) : Except ParseError Progress :=
  match s.current with
  | none => .ok s
  | some p =>
    match s.outline.insert p with
    | .ok outline => .ok { s with outline, current := none }
    | .error e => .error (.story number span e)

/-- Opens a passage at its marker, unless the id is taken. -/
def start (s : Progress) (l : Line) (id : String) : Except ParseError Progress :=
  if s.outline.declares id then .error (.story l.number l.span (.duplicateNode id))
  else .ok { s with current := some { id } }

/-- Takes a line of the open passage in: an option or text. -/
def extend (s : Progress) (p : Passage) (l : Line) : Progress :=
  match option? l.text with
  | some (label, target) =>
    let label := String.ofList label
    let target := String.ofList target
    { s with
      current := some { p with options := p.options ++ [(label, target)] }
      links := s.links ++ [{ origin := p.id, label, target, line := l.number, span := l.span }] }
  | none => { s with current := some { p with lines := p.lines ++ [l.text] } }

def step (unknown : UnknownKeys) (s : Progress) (l : Line) : Except ParseError Progress :=
  if isComment l.text then .ok s
  else match s.current, setting? l.text, marker? l.text with
    | none, some (key, value), _ => s.setting unknown l key value
    | _, _, some id => do
      let s ← s.close l.number l.span
      s.start l (String.ofList id)
    | some p, _, none => .ok (s.extend p l)
    | none, none, none => .ok s

/-- Takes lines in, up to the first error. -/
def run (unknown : UnknownKeys) (s : Progress) (ls : List Line) : Except ParseError Progress :=
  ls.foldlM (step unknown) s

end Progress

/-! ## Whole sources -/

/-- The warning of a link whose target is never declared. -/
def danglingWarning (l : Link) : Diagnostic :=
  { severity := .warning, span := l.span, line := l.line
    message := "option " ++ StoryError.inQuotes l.label ++ " leads to undeclared node "
      ++ StoryError.inQuotes l.target
    label := some "selecting this option will fail" }

/-- Adds the warnings of dangling links, where they are wanted. -/
def Parsed.warned (c : Config) (p : Parsed) : Parsed :=
  if c.warnDangling then
    { p with diagnostics := p.diagnostics ++ p.danglingLinks.map danglingWarning }
  else p

def parse (c : Config) (source : String) : Except ParseError Parsed := do
  let s ← Progress.run c.unknownKeys {} (linesOf source.toList)
  let size := Text.byteSize source.toList
  let s ← s.close 0 ⟨size, size⟩
  return Parsed.warned c { outline := s.outline, links := s.links, diagnostics := s.warnings }

def parseBytes (c : Config) (bytes : List UInt8) : Except ParseError Parsed :=
  match Text.Utf8.decode bytes with
  | .ok source => parse c source
  | .error _ => .error (.io .notText)

end Gamebook.Source
