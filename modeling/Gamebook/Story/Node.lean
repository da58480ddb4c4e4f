-- Nodes: the points of a story. A node has an id that never changes and a scene that does: the
-- text, the options and what happens when the node is reached, all of them callbacks.
import Gamebook.Story.Scope
import Gamebook.Text.Substitution

namespace Gamebook

/-! ## Options -/

/-- An action a player can take at a node. Without a visibility of its own, an option is visible
exactly when it is available. -/
structure StoryOption (μ : Type) where
  label : Producer μ String
  available : Producer μ Bool := Producer.constant true
  visible : Option (Producer μ Bool) := none
  /-- The node to go to, or nothing to stay. -/
  select : Producer μ (Option String) := Producer.constant none

namespace StoryOption

variable {μ : Type}

/-- An option with a fixed label that is always available and stays at its node. -/
def labeled (label : String) : StoryOption μ := { label := Producer.constant label }

/-- Leads to the node of an id, which is looked up when the option is selected. -/
def leadsTo (o : StoryOption μ) (id : String) : StoryOption μ :=
  { o with select := fun scope => do return some (← Producer.requireNode id scope) }

def hasExplicitVisibility (o : StoryOption μ) : Bool := o.visible.isSome

def isVisible (o : StoryOption μ) : Producer μ Bool := o.visible.getD o.available

end StoryOption

/-! ## Scenes -/

/-- What is found at a node. -/
structure Scene (μ : Type) where
  text : Producer μ String := Producer.constant ""
  options : List (StoryOption μ) := []
  /-- What happens whenever the node is reached. -/
  reached : Producer μ Unit := Producer.constant ()

namespace Scene

variable {μ : Type}

/-- A scene without text, options or effect. -/
def blank : Scene μ := {}

def setText (s : Scene μ) (text : Producer μ String) : Scene μ := { s with text }

def setBody (s : Scene μ) (body : String) : Scene μ := s.setText (Producer.constant body)

/-- Replaces the occurrences of `key` in the text by what `value` produces, each time the text
is produced. Bindings stack: the text bound so far is produced first. -/
def bind (s : Scene μ) (key : String) (value : Producer μ String) : Scene μ :=
  s.setText fun scope => do
    let text ← s.text scope
    let piece ← value scope
    return Text.replaceAll text key piece

def addOption (s : Scene μ) (o : StoryOption μ) : Scene μ := { s with options := s.options ++ [o] }

def editOptions (s : Scene μ) (f : List (StoryOption μ) → List (StoryOption μ)) : Scene μ :=
  { s with options := f s.options }

def onReached (s : Scene μ) (hook : Producer μ Unit) : Scene μ := { s with reached := hook }

end Scene

/-! ## Nodes -/

structure Node (μ : Type) extends Scene μ where
  id : String

namespace Node

variable {μ : Type}

def withScene (n : Node μ) (scene : Scene μ) : Node μ := { scene with id := n.id }

@[simp] theorem withScene_id (n : Node μ) (scene : Scene μ) : (n.withScene scene).id = n.id := rfl

end Node

/-! ## Changes -/

/-- What is done to a node: the scene it has afterwards. Whoever does it sees the node, and may
remember something from one node to the next. -/
abbrev NodeAction (μ τ : Type) := Node μ → τ → Scene μ × τ

namespace Node

variable {μ τ : Type}

def change (action : NodeAction μ τ) (n : Node μ) (memory : τ) : Node μ × τ :=
  (n.withScene (action n memory).1, (action n memory).2)

@[simp] theorem change_id (action : NodeAction μ τ) (n : Node μ) (memory : τ) :
    (n.change action memory).1.id = n.id := rfl

/-- Changes nodes one after the other. -/
def changeAll (action : NodeAction μ τ) : List (Node μ) → τ → List (Node μ) × τ
  | [], memory => ([], memory)
  | n :: ns, memory =>
    let changed := n.change action memory
    let rest := changeAll action ns changed.2
    (changed.1 :: rest.1, rest.2)

@[simp] theorem changeAll_ids (action : NodeAction μ τ) (ns : List (Node μ)) (memory : τ) :
    (changeAll action ns memory).1.map (·.id) = ns.map (·.id) := by
  induction ns generalizing memory with
  | nil => rfl
  | cons n ns ih => simp [changeAll, ih]

end Node

end Gamebook
