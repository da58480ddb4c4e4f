-- The `check` command: parses a story with warnings of dangling links, and makes sure that the
-- node it starts at exists.
import Gamebook.Command.Load
import Gamebook.Session

namespace Gamebook.Command

/-- A session in which nobody is asked. -/
def emptySession : Session Unit Unit := { env := .empty, memory := (), host := () }

/-- Runs a script with nobody to ask. -/
def evaluate {α : Type} (t : Script Unit α) : Except StoryError α :=
  (t.run Host.headless emptySession).1

namespace Check

/-- What is said of a story that passes. -/
def passed (parsed : Source.Parsed) (file initial : String) : String :=
  "  All checks passed for '" ++ displayTitle parsed file ++ "'.\n"
    ++ "  " ++ toString parsed.outline.passages.length ++ " nodes, "
    ++ toString parsed.links.length ++ " options, starting at [" ++ initial ++ "]\n"

def run (files : Files) (config : Source.Config) (file : String) : Report :=
  match load files file { config with warnDangling := true } with
  | (.error reason, err) => { result := .error reason, err }
  | (.ok parsed, err) =>
    let story : Story Unit := parsed.outline.story
    match evaluate (story.initial story.scope) with
    | .error e => { result := .error ("cannot resolve the initial node: " ++ e.message), err }
    | .ok initial => { out := passed parsed file initial, err }

end Check

end Gamebook.Command
