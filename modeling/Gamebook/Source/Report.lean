-- Reports: diagnostics drawn into their source. A report has a headline, the place, the line with
-- the marked characters in the color of the severity, and the remark under it. A span that ends on
-- a later line has its first and its last line drawn, joined by a bar. The span of a diagnostic is
-- taken as a range of characters of the source.
import Gamebook.Source.Diagnostic
import Gamebook.Text.Width

namespace Gamebook.Source.Report

/-! ## The lines of a drawing -/

def isLineEnd (c : Char) : Bool :=
  c = '\r' || c = '\n' || c = '\x0b' || c = '\x0c' || c = '\u0085' || c = '\u2028' || c = '\u2029'

/-- Cuts a text after each line end; a carriage return and a line feed are one. -/
def cutLines : List Char → List (List Char)
  | [] => []
  | '\r' :: '\n' :: cs => ['\r', '\n'] :: cutLines cs
  | c :: cs =>
    if isLineEnd c then [c] :: cutLines cs
    else match cutLines cs with
      | [] => [[c]]
      | l :: ls => (c :: l) :: ls

/-- The lines with their ends. An empty text has one empty line. -/
def drawnLines (source : List Char) : List (List Char) :=
  if source = [] then [[]] else cutLines source

/-- Where a character stands: the number of its line from 1 on, the offset of the line, and the
line itself. -/
structure Place where
  number : Nat
  offset : Nat
  text : List Char

/-- The last of some lines, the first of which has the given number and offset, that begins at a
position or before it. -/
def placeFrom (position number offset : Nat) : List (List Char) → Option Place
  | [] => none
  | l :: ls =>
    match placeFrom position (number + 1) (offset + l.length) ls with
    | some p => some p
    | none => if offset ≤ position then some { number, offset, text := l } else none

/-- The place of a position. There is one up to the end of the source. -/
def place? (source : List Char) (position : Nat) : Option Place :=
  if source.length < position then none else placeFrom position 1 0 (drawnLines source)

/-! ## Columns -/

/-- The columns of a character at an index of its line. A tab goes on to the next multiple of
four. -/
def columns (c : Char) (index : Nat) : Nat :=
  if c = '\t' then (index / 4 + 1) * 4 - index
  else if Text.isBlank c then 1
  else Text.charWidth c

/-! ## Colors -/

def tinted (code text : String) : String := "\x1b[" ++ code ++ "m" ++ text ++ "\x1b[0m"

def tintOf : Severity → String
  | .error => "31"
  | .warning => "33"

def titleOf : Severity → String
  | .error => "Error:"
  | .warning => "Warning:"

def frame (text : String) : String := tinted "38;5;246" text

/-- The color of characters outside the span. -/
def plainTint : String := "38;5;249"

def spaces (n : Nat) : String := String.ofList (List.replicate n ' ')

def repeated (n : Nat) (s : String) : String := String.join (List.replicate n s)

/-! ## The rows of a drawing -/

/-- What is marked in a line: its characters without the blanks at the end, where it begins, the
span, and the color. -/
structure Marking where
  body : List Char
  offset : Nat
  span : Span
  tint : String
  /-- The characters of the line, from its start on, that the rows under it pass. -/
  reach : Nat

namespace Marking

/-- The index of the middle of the span, where the remark hangs. -/
def middle (m : Marking) : Nat := max ((m.span.start + m.span.stop) / 2) m.span.start - m.offset

def covers (m : Marking) (index : Nat) : Bool :=
  m.span.start ≤ m.offset + index && m.offset + index < m.span.stop

/-- The columns at an index; beyond the end every index has one. -/
def columnsAt (m : Marking) (index : Nat) : Nat :=
  match m.body[index]? with
  | some c => columns c index
  | none => 1

def indexes (m : Marking) : List Nat := List.range (m.reach + 2)

/-- The characters of the line. Every blank is drawn as spaces. -/
def textRow (m : Marking) : String :=
  String.join (m.body.zipIdx.map fun (c, index) =>
    let tint := if m.covers index then m.tint else plainTint
    if Text.isBlank c then repeated (columns c index) (tinted tint " ")
    else tinted tint (String.singleton c))

/-- A row of drawing: under each index its first column, then the other columns. -/
def row (m : Marking) (first rest : Nat → String) : String :=
  String.join (m.indexes.map fun index =>
    match m.columnsAt index with
    | 0 => ""
    | k + 1 => first index ++ repeated k (rest index))

/-- The underline, with a fork in the middle. -/
def underline (m : Marking) : String :=
  let line := tinted m.tint "─"
  m.row
    (fun index =>
      if index = m.middle then tinted m.tint (if m.covers index then "┬" else "│")
      else if m.covers index then line else " ")
    (fun index =>
      if m.covers index then line
      else if index = m.middle then tinted m.tint " " else " ")

/-- The arm that leads from the fork to the remark. -/
def arm (m : Marking) : String :=
  let line := tinted m.tint "─"
  m.row
    (fun index =>
      if index = m.middle then tinted m.tint "╰" else if m.middle < index then line else " ")
    (fun index => if m.middle ≤ index then line else " ")

def blankRow (m : Marking) : String := m.row (fun _ => " ") (fun _ => " ")

/-- A line under the whole row, which leads to the remark. -/
def bottomRow (m : Marking) : String :=
  let line := tinted m.tint "─"
  m.row (fun _ => line) (fun _ => line)

end Marking

/-- What a diagnostic marks in a line, for rows that pass so many characters. -/
def markingOf (d : Diagnostic) (p : Place) (reach : Nat) : Marking :=
  { body := Text.trimRight p.text, offset := p.offset, span := d.span, tint := tintOf d.severity,
    reach }

/-! ## Where a report is drawn -/

/-- The lines that a report begins and ends on. -/
structure Extent where
  first : Place
  last : Place

namespace Extent

def digits (e : Extent) : Nat := (toString e.last.number).length

/-- Where a span is drawn, if both its ends are in the source. An empty span ends where it
begins. -/
def ofSpan? (source : List Char) (span : Span) : Option Extent := do
  let first ← place? source span.start
  let last ← if span.start < span.stop then place? source (span.stop - 1) else some first
  return { first, last }

/-- Whether a span ends in the last line, and not after it. -/
def holdsEnd (e : Extent) (span : Span) : Bool := span.stop ≤ e.last.offset + e.last.text.length

/-- What stands before a line of the source. -/
def numbered (e : Extent) (p : Place) : String :=
  let number := toString p.number
  " " ++ frame (spaces (e.digits - number.length) ++ number ++ " │") ++ " "

/-- What stands before a row that is no line of the source. -/
def margin (e : Extent) (bar : String) : String :=
  " " ++ tinted "38;5;240" (spaces (e.digits + 1) ++ bar) ++ " "

end Extent

/-! ## Whole reports -/

/-- The line that says what is wrong. -/
def headline (d : Diagnostic) : String :=
  tinted (tintOf d.severity) (titleOf d.severity) ++ " " ++ d.message ++ "\n"

/-- The line that says where. -/
def header (file : String) (d : Diagnostic) (e : Extent) : String :=
  let pad := spaces (e.digits + 2)
  pad ++ frame "╭" ++ frame "─" ++ frame "[" ++ " " ++ file ++ ":" ++ toString e.first.number ++ ":"
    ++ toString (d.span.start - e.first.offset + 1) ++ " " ++ frame "]" ++ "\n"
    ++ pad ++ frame "│" ++ "\n"

/-- What a diagnostic says under its drawing. -/
def remark (d : Diagnostic) : String := d.label.getD d.message

/-- A span within one line: the line, the underline and the remark. A span that goes on after the
end of the source leaves only the margin. -/
def lineDrawing (d : Diagnostic) (e : Extent) : String :=
  let side := e.margin "│"
  if e.holdsEnd d.span then
    let m := markingOf d e.first (d.span.stop - e.first.offset)
    e.numbered e.first ++ m.textRow ++ "\n"
      ++ side ++ m.underline ++ "\n"
      ++ side ++ m.arm ++ " " ++ remark d ++ "\n"
  else side ++ "\n"

/-- A span over several lines: its first line, a gap for the lines between, its last line, and the
remark. A span that goes on after the end of the source has neither a last line nor a remark. -/
def bracketDrawing (d : Diagnostic) (e : Extent) : String :=
  let tint := tintOf d.severity
  let side := e.margin "│"
  let pointed := fun (corner : String) (p : Place) (m : Marking) =>
    e.numbered p ++ tinted tint corner ++ tinted tint "─" ++ tinted tint "▶" ++ tinted tint " "
      ++ m.textRow ++ "\n"
  let gap := e.margin "┆" ++ tinted tint "┆" ++ spaces 3 ++ "\n"
  let start := pointed "╭" e.first (markingOf d e.first e.first.text.length)
  if e.holdsEnd d.span then
    let m := markingOf d e.last e.last.text.length
    start ++ (if e.first.number + 1 < e.last.number then gap else "") ++ pointed "├" e.last m
      ++ side ++ tinted tint "│" ++ spaces 3 ++ m.blankRow ++ "\n"
      ++ side ++ tinted tint "╰" ++ repeated 3 (tinted tint "─") ++ m.bottomRow
      ++ " " ++ remark d ++ "\n"
  else start ++ gap

def drawing (d : Diagnostic) (e : Extent) : String :=
  if e.first.number = e.last.number then lineDrawing d e else bracketDrawing d e

def footer (e : Extent) : String := frame (repeated (e.digits + 2) "─" ++ "╯") ++ "\n"

/-- The report of a diagnostic; only its headline if it has no place in the source. -/
def render (source file : String) (d : Diagnostic) : String :=
  match Extent.ofSpan? source.toList d.span with
  | none => headline d
  | some e => headline d ++ header file d e ++ drawing d e ++ footer e

/-- The reports of several diagnostics, one after the other. -/
def renderAll (source file : String) (ds : List Diagnostic) : String :=
  String.join (ds.map (render source file))

end Gamebook.Source.Report
