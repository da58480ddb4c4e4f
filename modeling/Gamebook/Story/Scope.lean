-- Scopes and callbacks. A callback is given the scope of its story, through which it can look
-- nodes up, have their texts produced and have the initial node resolved, and answers with a
-- script.
import Gamebook.Script

namespace Gamebook

/-! ## Scopes -/

/-- What a callback sees of its story. -/
structure Scope (μ : Type) where
  title : String
  author : String
  storyId : String
  /-- The ids of the nodes, in order. -/
  nodeIds : List String
  nodeExists : String → Bool
  /-- The id of the node that is found by an id. -/
  nodeRef? : String → Option String
  nodeText : String → Script μ String
  initialNode : Unit → Script μ String

namespace Scope

variable {μ : Type}

/-- The id of the node that is found by an id; without one the node is not found. -/
def requireNode (scope : Scope μ) (id : String) : Except StoryError String :=
  match scope.nodeRef? id with
  | some found => .ok found
  | none => .error (.nodeNotFound id)

end Scope

/-! ## Callbacks -/

/-- A callback that produces an `α`. -/
abbrev Producer (μ α : Type) := Scope μ → Script μ α

namespace Producer

variable {μ α : Type}

def constant (a : α) : Producer μ α := fun _ => .done a

/-- Looks a node up, when it is called. -/
def requireNode (id : String) : Producer μ String := fun scope =>
  Script.ofExcept (scope.requireNode id)

end Producer

end Gamebook
