-- The program: reads files and lines, runs a command, and writes what it says. A story is played
-- turn by turn, so that the player sees a node before answering.
import Gamebook.Command.Line

namespace Gamebook.Program

open Gamebook.Command

/-! ## Files -/

/-- The failure behind an error of the system. -/
def failureOf : IO.Error → IoFailure
  | .noFileOrDirectory _ _ _ => .notFound
  | .noSuchThing _ _ _ => .notFound
  | .inappropriateType _ 21 _ => .isDirectory
  | .inappropriateType _ _ _ => .notDirectory
  | .invalidArgument _ 36 _ => .nameTooLong
  | e => .other (toString e)

/-- Runs an action on the system and keeps its failure. -/
def guarded {α : Type} (action : IO α) : IO (Except IoFailure α) := do
  try
    return .ok (← action)
  catch e =>
    return .error (failureOf e)

def readFile (path : String) : IO (Except IoFailure (List UInt8)) :=
  guarded do return (← IO.FS.readBinFile path).toList

/-- The files of a directory, without its directories and without the files that cannot be
reached. -/
def readDirectory (path : String) : IO (Except IoFailure (List (String × List UInt8))) :=
  guarded do
    let entries ← (System.mkFilePath [path]).readDir
    let mut files := []
    for entry in entries do
      match ← guarded entry.path.metadata with
      | .error _ => pure ()
      | .ok found =>
        if found.type == .file then
          files := (entry.fileName, (← IO.FS.readBinFile entry.path).toList) :: files
    return files

/-- The files that a command asks for: one story, and perhaps one directory. -/
def filesFor (file : String) (directory : Option String) : IO Files := do
  let story ← readFile file
  let resources ← match directory with
    | some path => readDirectory path
    | none => pure (.error .notFound)
  return { read := fun _ => story, list := fun _ => resources }

/-! ## Streams -/

/-- Writes what a terminal has to show, and takes it off the terminal. -/
def flush (s : Play.Game Unit) : IO (Play.Game Unit) := do
  let out ← IO.getStdout
  out.putStr s.host.out
  out.flush
  (← IO.getStderr).putStr s.host.err
  return Play.onTerminal s fun t => { t with out := "", err := "" }

/-- Reads a line with its line feed. -/
partial def readLine (input : IO.FS.Stream) (line : List UInt8) : IO (List UInt8) := do
  let bytes ← input.read 1
  match bytes.toList with
  | [] => return line.reverse
  | b :: _ => if b = 10 then return (b :: line).reverse else readLine input (b :: line)

/-- Whether colors are wanted: forced on, forced off, or as the output is a terminal. -/
def wantsColor : IO Bool := do
  let setting := fun (name : String) => do return (← IO.getEnv name).map (· ≠ "0")
  if (← setting "CLICOLOR_FORCE") = some true then return true
  if (← setting "NO_COLOR").isSome then return false
  return ((← setting "CLICOLOR").getD true) && (← (← IO.getStdout).isTty)

/-! ## Playing -/

/-- Takes turns with the player until the session is over. -/
partial def turns (story : Story Unit) (c : Play.Config) (r : Reader) (s : Play.Game Unit) :
    IO (Except StoryError Unit × Play.Game Unit) := do
  match Play.present c r s with
  | .over outcome s => return (outcome, s)
  | .waiting view s =>
    let s ← flush (Play.onTerminal s fun t => t.print c.prompt)
    let turn ← match ← readLine (← IO.getStdin) [] with
      | [] => pure (Play.respond story c r view none s)
      | line =>
        match lineText? line with
        | some answer => pure (Play.respond story c r view (some answer) s)
        | none => pure (.over (.error Terminal.notText) s)
    match turn with
    | .over outcome s => return (outcome, s)
    | .next r s => turns story c r s

def play (files : Files) (config : Source.Config) (c : Play.Config) (color : Bool)
    (file : String) : IO Report := do
  match load files file config with
  | (.error reason, err) => return { result := .error reason, err }
  | (.ok parsed, err) =>
    (← IO.getStderr).putStr err
    let story := parsed.outline.story
    let (outcome, s) ← match Play.begin story (Play.opening files c color [] file) with
      | (.error e, s) => pure (.error e, s)
      | (.ok r, s) => turns story c r s
    let (result, s) := Play.conclude c outcome s
    let _ ← flush s
    return { result }

def runInvocation (color : Bool) : Line.Invocation → IO Report
  | .play file unknown c => do
    play (← filesFor file (some (c.directory file))) { unknownKeys := unknown } c color file
  | .check file unknown => do
    return Check.run (← filesFor file none) { unknownKeys := unknown } file
  | .info file => do
    return Info.run (← filesFor file none) color file

end Gamebook.Program

open Gamebook Gamebook.Command in
def main (args : List String) : IO UInt32 := do
  let e ← match Line.read {} args with
    | .error stop => pure stop.exit
    | .ok invocation => do
      pure (Line.exitOf (← Program.runInvocation (← Program.wantsColor) invocation))
  (← IO.getStdout).putStr e.out
  (← IO.getStderr).putStr e.err
  return e.code.toUInt32
