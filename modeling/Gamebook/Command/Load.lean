-- Loading a story file for a command: the file is read and parsed, and the problems found are
-- reported on the error stream, with a line that counts them.
import Gamebook.Files
import Gamebook.Source.Parser
import Gamebook.Source.Report

namespace Gamebook.Command

/-! ## Counting problems -/

/-- A number with a noun, in the plural unless it is one. -/
def counted (n : Nat) (noun : String) : String :=
  toString n ++ " " ++ noun ++ (if n = 1 then "" else "s")

def summary (ds : List Source.Diagnostic) : String :=
  let errors := ds.countP (·.isError)
  let warnings := ds.length - errors
  if 0 < errors then "  " ++ counted errors "error" ++ ", " ++ counted warnings "warning" ++ "\n"
  else "  " ++ counted warnings "warning" ++ "\n"

/-- What is shown of problems: a report for each, and their count. Nothing if there are none. -/
def problems (source file : String) (ds : List Source.Diagnostic) : String :=
  if ds.isEmpty then "" else Source.Report.renderAll source file ds ++ summary ds

/-! ## Loading -/

def readText (files : Files) (file : String) : Except IoFailure String :=
  match files.read file with
  | .error failure => .error failure
  | .ok bytes =>
    match Text.Utf8.decode bytes with
    | .ok source => .ok source
    | .error _ => .error .notText

/-- Reads and parses a file. Gives the story or the reason there is none, and what is shown on
the error stream. -/
def load (files : Files) (file : String) (config : Source.Config) :
    Except String Source.Parsed × String :=
  match readText files file with
  | .error failure => (.error ("cannot read " ++ file ++ ": " ++ failure.message), "")
  | .ok source =>
    match Source.parse config source with
    | .ok parsed => (.ok parsed, problems source file parsed.diagnostics)
    | .error e =>
      (.error ("parsing failed: " ++ e.message), problems source file e.diagnostic?.toList)

/-- The title of a story, or the name of its file if it has none. -/
def displayTitle (parsed : Source.Parsed) (file : String) : String :=
  if parsed.outline.title = "" then Path.fileName file else parsed.outline.title

/-! ## Reports of commands -/

/-- What a command comes to: whether it succeeded, with the reason if it did not, and what it
wrote on either stream. -/
structure Report where
  result : Except String Unit := .ok ()
  out : String := ""
  err : String := ""

end Gamebook.Command
