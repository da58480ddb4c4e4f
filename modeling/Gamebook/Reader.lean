-- The reader: walks a story within a session. Starting resolves the initial node and enters it;
-- pressing an option runs its selection and enters the node it gives, or the same node again.
-- Entering a node runs its hook and then renders it, calling each callback at most once.
import Gamebook.Session
import Gamebook.Story

namespace Gamebook

/-! ## Views -/

/-- An option as it was rendered. -/
structure OptionView where
  /-- The place of the option in its node. -/
  index : Nat
  label : String
  available : Bool
  deriving DecidableEq, Repr

/-- A node as it was rendered, with the options that were visible. -/
structure NodeView where
  node : String
  text : String
  options : List OptionView
  deriving DecidableEq, Repr

/-! ## Rendering -/

namespace StoryOption

variable {μ : Type}

/-- Renders an option, or gives nothing if it is not visible. Where visibility follows
availability, availability is asked once and holds. -/
def render (o : StoryOption μ) (scope : Scope μ) (index : Nat) : Script μ (Option OptionView) := do
  if ← o.isVisible scope then
    let available ← if o.hasExplicitVisibility then o.available scope else pure true
    let label ← o.label scope
    return some { index, label, available }
  else return none

end StoryOption

namespace Node

variable {μ : Type}

/-- Renders options in order, the first of which has the given index. -/
def renderOptions (scope : Scope μ) (index : Nat) :
    List (StoryOption μ) → Script μ (List OptionView)
  | [] => return []
  | o :: os => do
    let view ← o.render scope index
    let views ← renderOptions scope (index + 1) os
    return view.toList ++ views

/-- Renders a node: its text, then its options. -/
def render (n : Node μ) (scope : Scope μ) : Script μ NodeView := do
  let text ← n.text scope
  let options ← renderOptions scope 0 n.options
  return { node := n.id, text, options }

end Node

/-! ## The reader -/

/-- Where a reader is: the node it entered last, and its view, if it could be rendered. -/
structure Reader where
  current : Option String := none
  view : Option NodeView := none
  deriving DecidableEq, Repr

namespace Reader

variable {μ σ : Type}

def isStarted (r : Reader) : Bool := r.current.isSome

def currentNode (r : Reader) (story : Story μ) : Option (Node μ) := r.current.bind story.node?

/-- Enters a node: runs its hook, moves there, and renders it. -/
def enter (h : Host σ) (story : Story μ) (r : Reader) (s : Session μ σ) (id : String) :
    Except StoryError NodeView × Reader × Session μ σ :=
  match story.require id with
  | .error e => (.error e, r, s)
  | .ok n =>
    match (n.reached story.scope).run h s with
    | (.error e, s) => (.error e, r, s)
    | (.ok (), s) =>
      match (n.render story.scope).run h s with
      | (.error e, s) => (.error e, { current := some id, view := none }, s)
      | (.ok view, s) => (.ok view, { current := some id, view := some view }, s)

/-- Resolves the initial node and enters it. -/
def start (h : Host σ) (story : Story μ) (r : Reader) (s : Session μ σ) :
    Except StoryError NodeView × Reader × Session μ σ :=
  match (story.initial story.scope).run h s with
  | (.error e, s) => (.error e, r, s)
  | (.ok id, s) => r.enter h story s id

/-- The option at a position of the current view, and the node it is at. -/
def pressed (story : Story μ) (r : Reader) (position : Nat) :
    Except StoryError (String × StoryOption μ) :=
  match r.view with
  | none => .error .notStarted
  | some view =>
    match view.options[position]? with
    | none => .error (.optionNotVisible position)
    | some o =>
      match story.require view.node with
      | .error e => .error e
      | .ok n =>
        match n.options[o.index]? with
        | none => .error (.optionNotVisible position)
        | some option => .ok (view.node, option)

def press (h : Host σ) (story : Story μ) (r : Reader) (s : Session μ σ) (position : Nat) :
    Except StoryError NodeView × Reader × Session μ σ :=
  match r.pressed story position with
  | .error e => (.error e, r, s)
  | .ok (here, option) =>
    match (option.select story.scope).run h s with
    | (.error e, s) => (.error e, r, s)
    | (.ok next, s) => r.enter h story s (next.getD here)

end Reader

/-! ## What the reader keeps -/

namespace Session.Kept

variable {μ σ : Type} {h : Host σ} {Q : Session μ σ → Session μ σ → Prop}

theorem enter (hQ : Kept h Q) (story : Story μ) (r : Reader) (s : Session μ σ) (id : String) :
    Q s (r.enter h story s id).2.2 := by
  unfold Reader.enter
  split
  · exact hQ.refl s
  rename_i n _
  have hreached := hQ.run (n.reached story.scope) s
  rcases hr : (n.reached story.scope).run h s with ⟨e | ⟨⟩, s₁⟩
  · rw [hr] at hreached
    exact hreached
  rw [hr] at hreached
  have hrender := hQ.trans hreached (hQ.run (n.render story.scope) s₁)
  simp only
  rcases hv : (n.render story.scope).run h s₁ with ⟨e | view, s₂⟩
  · rw [hv] at hrender
    exact hrender
  · rw [hv] at hrender
    exact hrender

theorem start (hQ : Kept h Q) (story : Story μ) (r : Reader) (s : Session μ σ) :
    Q s (r.start h story s).2.2 := by
  unfold Reader.start
  have hinitial := hQ.run (story.initial story.scope) s
  rcases hi : (story.initial story.scope).run h s with ⟨e | id, s₁⟩
  · rw [hi] at hinitial
    exact hinitial
  · rw [hi] at hinitial
    exact hQ.trans hinitial (hQ.enter story r s₁ id)

theorem press (hQ : Kept h Q) (story : Story μ) (r : Reader) (s : Session μ σ) (position : Nat) :
    Q s (r.press h story s position).2.2 := by
  unfold Reader.press
  split
  · exact hQ.refl s
  rename_i here option _
  have hselect := hQ.run (option.select story.scope) s
  rcases hs : (option.select story.scope).run h s with ⟨e | next, s₁⟩
  · rw [hs] at hselect
    exact hselect
  · rw [hs] at hselect
    exact hQ.trans hselect (hQ.enter story r s₁ _)

end Session.Kept

end Gamebook
