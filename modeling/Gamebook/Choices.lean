-- Choices put to the player: a prompt, actions bound to its options or to cancellation, and, for
-- a choice that has to give a value, scripts that yield one. The prompt is presented once; then
-- every action bound to the outcome runs, in the order the actions were added.
import Gamebook.Script

namespace Gamebook

/-- A choice request that may yield a `β`. What is bound to `some i` is bound to the option at
index `i`, and what is bound to `none` to cancellation. -/
structure Choices (μ β : Type) where
  text : String
  title : Option String := none
  icon : Option Icon := none
  cancellable : Bool := false
  options : List PromptOption := []
  actions : List (Option Nat × Script μ Unit) := []
  yields : List (Option Nat × Script μ β) := []

/-- What actions and yields are bound to for an outcome. -/
def Outcome.key : Outcome → Option Nat
  | .chosen index => some index
  | .cancelled => none

namespace Choices

variable {μ β : Type}

/-! ## Building a request -/

/-- Adds an option; its key is the number of options before it. -/
def addOption (c : Choices μ β) (o : PromptOption) : Nat × Choices μ β :=
  (c.options.length, { c with options := c.options ++ [o] })

def choice (c : Choices μ β) (label : String) : Nat × Choices μ β := c.addOption { label }

def on (c : Choices μ β) (key : Option Nat) (action : Script μ Unit) : Choices μ β :=
  { c with actions := c.actions ++ [(key, action)] }

def yielding (c : Choices μ β) (key : Option Nat) (value : Script μ β) : Choices μ β :=
  { c with yields := c.yields ++ [(key, value)] }

/-! ## Running a request -/

def prompt (c : Choices μ β) : Prompt :=
  { cancellable := c.cancellable, icon := c.icon, title := c.title, text := c.text
    options := c.options }

/-- Presents the prompt. An answer with an option that was not offered is the host's error. -/
def present (c : Choices μ β) : Script μ Outcome := do
  match ← Script.ask (.choose c.prompt) with
  | .chosen index =>
    if index < c.options.length then return .chosen index
    else .fail (.host (.invalidChoice index))
  | .cancelled => return .cancelled

/-- Runs the actions bound to a key, in order. -/
def runActions (key : Option Nat) : List (Option Nat × Script μ Unit) → Script μ Unit
  | [] => return ()
  | (k, action) :: rest => do
    if k = key then action
    runActions key rest

/-- Presents the prompt and runs the actions bound to the outcome. -/
def run (c : Choices μ β) : Script μ Outcome := do
  let outcome ← c.present
  runActions outcome.key c.actions
  return outcome

def labelOf (c : Choices μ β) (key : Option Nat) : Option String :=
  key.bind fun index => c.options[index]?.map (·.label)

/-- Runs the request and gives the value of the first yield bound to the outcome. -/
def resolve (c : Choices μ β) : Script μ β := do
  let outcome ← c.run
  match c.yields.find? (·.1 = outcome.key) with
  | some (_, value) => value
  | none => .fail (.missingYield (c.labelOf outcome.key))

end Choices

end Gamebook
