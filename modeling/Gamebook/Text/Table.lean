-- Tables drawn with plain characters. Every column is as wide as its widest cell, with a space on
-- either side; a double line stands below the header and a single one between two rows.
import Gamebook.Text.Columns

namespace Gamebook.Text

structure Table where
  header : List String
  rows : List (List String)

namespace Table

def widthOf (s : String) : Nat := columns s

/-- The width of each column of the header and the rows. -/
def widths (t : Table) : List Nat :=
  t.header.zipIdx.map fun (h, i) =>
    t.rows.foldl (fun w row => max w (widthOf (row[i]?.getD ""))) (widthOf h)

def repeatChar (n : Nat) (c : Char) : String := String.ofList (List.replicate n c)

def padded (w : Nat) (s : String) : String := s ++ repeatChar (w - widthOf s) ' '

/-- A row of cells between bars. -/
def cells (ws : List Nat) (row : List String) : String :=
  "| " ++ String.intercalate " | " (List.zipWith padded ws row) ++ " |"

/-- A line across the table, with a mark at either end and one between two columns. -/
def rule (ws : List Nat) (edge middle : String) (line : Char) : String :=
  edge ++ String.intercalate middle (ws.map fun w => repeatChar (w + 2) line) ++ edge

/-- The lines of the rows, with a rule between each two. -/
def body (ws : List Nat) (rows : List (List String)) : List String :=
  (rows.map (cells ws)).intersperse (rule ws "|" "+" '-')

def lines (t : Table) : List String :=
  let ws := t.widths
  let border := rule ws "+" "+" '-'
  [border, cells ws t.header, rule ws "+" "=" '='] ++ body ws t.rows ++ [border]

def render (t : Table) : String := String.intercalate "\n" t.lines

end Table

end Gamebook.Text
