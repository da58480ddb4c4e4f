-- The turns of a game. A turn shows the node with its options numbered, reads one line and presses
-- the option it names; a line that names none is warned of and the node is shown again. The game
-- ends at a node without options, when the player quits, at the end of the input, or at an error.
import Gamebook.Command.Load
import Gamebook.Host.Terminal
import Gamebook.Reader

namespace Gamebook.Command.Play

/-! ## Configuration -/

structure Config where
  prompt : String := "> "
  /-- Whether options that are visible but not available are shown. -/
  showUnavailable : Bool := true
  /-- The directory of the resources, by default `resources` beside the story. -/
  resourceDir : Option String := none
  /-- Whether the environment is printed when the session ends. -/
  dumpEnv : Bool := false
  deriving DecidableEq, Repr

/-- The directory that resources are loaded from. -/
def Config.directory (c : Config) (file : String) : String :=
  c.resourceDir.getD (Path.sibling file "resources")

/-! ## Showing a node -/

/-- The positions of the options that get a number, the first option having the given one. -/
def shownFrom (showUnavailable : Bool) (position : Nat) : List OptionView → List Nat
  | [] => []
  | o :: os =>
    if o.available || showUnavailable then position :: shownFrom showUnavailable (position + 1) os
    else shownFrom showUnavailable (position + 1) os

/-- The positions of the options that get a number, in order of their numbers. -/
def shown (c : Config) (view : NodeView) : List Nat :=
  shownFrom c.showUnavailable 0 view.options

def optionLine (color : Bool) (number : Nat) (o : OptionView) : String :=
  let line := "  " ++ toString number ++ ") " ++ o.label
  if o.available then line else Text.Style.dimmed.paint color line

/-- Shows options with numbers from the given one on. -/
def showOptions (showUnavailable : Bool) (t : Terminal) (number : Nat) :
    List OptionView → Terminal
  | [] => t
  | o :: os =>
    if o.available || showUnavailable then
      showOptions showUnavailable (t.println (optionLine t.color number o)) (number + 1) os
    else showOptions showUnavailable t number os

def render (c : Config) (t : Terminal) (view : NodeView) : Terminal :=
  let t := t.println ""
  let t := if view.text = "" then t else (t.println view.text).println ""
  showOptions c.showUnavailable t 1 view.options

/-! ## Answers -/

def isQuit (answer : String) : Bool :=
  let lowered := answer.toList.map Char.toLower
  lowered = "q".toList || lowered = "quit".toList

/-- The position that an answer picks, or why it picks none. -/
def pick (answer : String) (shown : List Nat) (view : NodeView) : Except String Nat :=
  match Text.numeral? answer with
  | none => .error "enter an option number, or q to quit"
  | some number =>
    match number, shown[number - 1]? with
    | _ + 1, some position =>
      match view.options[position]? with
      | some o =>
        if o.available then .ok position
        else .error (StoryError.inQuotes o.label ++ " is not available")
      | none => .error ("there is no option " ++ toString number)
    | _, _ => .error ("there is no option " ++ toString number)

/-! ## Turns -/

section

variable {μ : Type}

abbrev Game (μ : Type) := Session μ Terminal

def onTerminal (s : Game μ) (f : Terminal → Terminal) : Game μ := { s with host := f s.host }

/-- Where a turn stops to wait for the player. -/
inductive Pause (μ : Type) where
  | over (outcome : Except StoryError Unit) (s : Game μ)
  /-- The view is shown, and an answer is due. -/
  | waiting (view : NodeView) (s : Game μ)

/-- Shows the current node, up to the point where the player answers. -/
def present (c : Config) (r : Reader) (s : Game μ) : Pause μ :=
  match r.view with
  | none => .over (.ok ()) s
  | some view =>
    let s := onTerminal s fun t => render c t view
    if (shown c view).isEmpty then
      .over (.ok ()) (onTerminal s fun t => t.println (Text.Style.bold.paint t.color "The End"))
    else .waiting view s

inductive Turn (μ : Type) where
  | over (outcome : Except StoryError Unit) (s : Game μ)
  | next (r : Reader) (s : Game μ)

/-- Deals with the answer to a view. -/
def respond (story : Story μ) (c : Config) (r : Reader) (view : NodeView)
    (answer : Option String) (s : Game μ) : Turn μ :=
  match answer with
  | none => .over (.ok ()) s
  | some answer =>
    if isQuit answer then .over (.ok ()) s
    else match pick answer (shown c view) view with
      | .error message => .next r (onTerminal s fun t => t.warn message)
      | .ok position =>
        match r.press Terminal.host story s position with
        | (.error e, _, s) => .over (.error e) s
        | (.ok _, r, s) => .next r s

/-- One turn: shows the node, reads a line and deals with it. -/
def turn (story : Story μ) (c : Config) (r : Reader) (s : Game μ) : Turn μ :=
  match present c r s with
  | .over outcome s => .over outcome s
  | .waiting view s =>
    match s.host.readLine c.prompt with
    | (.error e, t) => .over (.error e) { s with host := t }
    | (.ok answer, t) => respond story c r view answer { s with host := t }

end

end Gamebook.Command.Play
