-- The `play` command: a story is read on a terminal, turn by turn, after its resources are loaded
-- and its title is shown. An abort and a closed input are no failures of the command.
import Gamebook.Command.Play.Progress
import Gamebook.Value.Document

namespace Gamebook.Command.Play

/-! ## Sessions -/

section

variable {μ : Type}

/-- Takes turns until the session is over. -/
def loop (story : Story μ) (c : Config) (r : Reader) (s : Game μ) :
    Except StoryError Unit × Game μ :=
  match _ : turn story c r s with
  | .over outcome s' => (outcome, s')
  | .next r' s' => loop story c r' s'
termination_by s.host.lines.length
decreasing_by exact turn_lines (by assumption)

/-- Shows the title and the author. -/
def introduce (story : Story μ) (t : Terminal) : Terminal :=
  let t := if story.title = "" then t else t.println (Text.Style.bold.paint t.color story.title)
  if story.author = "" then t
  else t.println (Text.Style.dimmed.paint t.color ("by " ++ story.author))

/-- Loads the resources, introduces the story and enters its initial node. -/
def begin (story : Story μ) (s : Game μ) : Except StoryError Reader × Game μ :=
  match s.serve Terminal.host .load with
  | (.error e, s) => (.error e, s)
  | (.ok (), s) =>
    match Reader.start Terminal.host story {} (onTerminal s (introduce story)) with
    | (.error e, _, s) => (.error e, s)
    | (.ok _, r, s) => (.ok r, s)

def play (story : Story μ) (c : Config) (s : Game μ) : Except StoryError Unit × Game μ :=
  match begin story s with
  | (.error e, s) => (.error e, s)
  | (.ok r, s) => loop story c r s

/-- What is shown of the environment at the end. -/
def dump (c : Config) (s : Game μ) : Game μ :=
  if c.dumpEnv then onTerminal s fun t => t.println (Value.object s.env.snapshot).indented else s

/-- How a session ends for the player: an abort and a closed input are no failures. -/
def finish (outcome : Except StoryError Unit) (t : Terminal) : Except String Unit × Terminal :=
  match outcome with
  | .ok () => (.ok (), t)
  | .error .aborted =>
    let told := t.println (Text.Style.dimmed.paint t.color "The story was closed.")
    (.ok (), if t.closed then told else t)
  | .error (.host .inputClosed) => (.ok (), t)
  | .error e => (.error e.message, t)

def conclude (c : Config) (outcome : Except StoryError Unit) (s : Game μ) :
    Except String Unit × Game μ :=
  let s := dump c s
  ((finish outcome s.host).1, { s with host := (finish outcome s.host).2 })

def session (story : Story μ) (c : Config) (s : Game μ) : Except String Unit × Game μ :=
  conclude c (play story c s).1 (play story c s).2

end

/-! ## The command -/

/-- The session that the command plays in. -/
def opening (files : Files) (c : Config) (color : Bool) (input : List UInt8) (file : String) :
    Game Unit :=
  { env := .empty, memory := ()
    host := Terminal.ofInput input color (files.list (c.directory file)) }

def run (files : Files) (config : Source.Config) (c : Config) (color : Bool)
    (input : List UInt8) (file : String) : Report :=
  match load files file config with
  | (.error reason, err) => { result := .error reason, err }
  | (.ok parsed, err) =>
    let (result, s) := session parsed.outline.story c (opening files c color input file)
    { result, out := s.host.out, err := err ++ s.host.err }

end Gamebook.Command.Play
