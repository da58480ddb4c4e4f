-- The `info` command: the metadata of a story and a table of its nodes.
import Gamebook.Command.Check
import Gamebook.Text.Style
import Gamebook.Text.Table

namespace Gamebook.Command.Info

/-! ## Cells -/

/-- How many characters of a line are shown. -/
def previewLength : Nat := 50

/-- The first line of a text, without a carriage return at its end. -/
def firstLine (text : String) : List Char :=
  match text.toList.takeWhile (· ≠ '\n') with
  | line =>
    if line.getLast? = some '\r' && line.length < text.toList.length then line.dropLast else line

/-- The first line of a text, cut where it is too long for a cell. -/
def preview (text : String) : String :=
  let line := firstLine text
  if previewLength < line.length then String.ofList (line.take (previewLength - 3)) ++ "..."
  else if line = [] then "-"
  else String.ofList line

def targets (links : List Source.Link) (id : String) : String :=
  match (links.filter (·.origin = id)).map (·.target) with
  | [] => "-"
  | ts => String.intercalate ", " ts

def row (parsed : Source.Parsed) (scope : Scope Unit) (n : Node Unit) :
    Except StoryError (List String) := do
  let text ← evaluate (n.text scope)
  return [n.id, toString n.options.length, targets parsed.links n.id, preview text]

/-! ## The command -/

def heading (color : Bool) (parsed : Source.Parsed) (file : String) : String :=
  "  " ++ Text.Style.bold.paint color (displayTitle parsed file) ++ "\n"
    ++ (if parsed.outline.author = "" then "" else "  by " ++ parsed.outline.author ++ "\n")
    ++ "\n"

def run (files : Files) (color : Bool) (file : String) : Report :=
  match load files file {} with
  | (.error reason, err) => { result := .error reason, err }
  | (.ok parsed, err) =>
    let story : Story Unit := parsed.outline.story
    let head := heading color parsed file
    if story.nodes.isEmpty then { out := head ++ "  No nodes.\n", err }
    else match story.nodes.mapM (row parsed story.scope) with
      | .error e => { result := .error e.message, out := head, err }
      | .ok rows =>
        let table : Text.Table := { header := ["Node", "Options", "Leads to", "Text"], rows }
        let count := toString story.nodes.length ++ " nodes"
        { out := head ++ table.render ++ "\n\n  " ++ count ++ "\n", err }

end Gamebook.Command.Info
