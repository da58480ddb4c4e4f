-- Edits: changes to a story written as data. Edits are carried out in order; the first error ends
-- them, and what was done before it stays done.
import Gamebook.Builder
import Gamebook.Expression

namespace Gamebook

/-! ## Options -/

/-- How an option is made or changed. A part that is absent is left alone; the parts are applied
in the order they are listed here. -/
structure OptionEdit where
  available : Option Expr := none
  visible : Option Expr := none
  selects : Option Expr := none
  leadsTo : Option String := none
  label : Option Expr := none

def OptionEdit.apply {μ : Type} (e : OptionEdit) (o : StoryOption μ) : StoryOption μ :=
  let o := match e.available with
    | some p => { o with available := p.predicate }
    | none => o
  let o := match e.visible with
    | some p => { o with visible := some p.predicate }
    | none => o
  let o := match e.selects with
    | some p => { o with select := p.transition }
    | none => o
  let o := match e.leadsTo with
    | some id => o.leadsTo id
    | none => o
  match e.label with
  | some p => { o with label := p.text }
  | none => o

/-! ## Scenes -/

inductive SceneEdit where
  | text (e : Expr)
  | body (s : String)
  | bind (key : String) (value : Expr)
  | onReached (e : Expr)
  | addOption (label : Expr) (parts : OptionEdit)
  | removeOption (index : Nat)
  | reverseOptions
  | setOption (index : Nat) (parts : OptionEdit)

namespace SceneEdit

variable {μ : Type}

/-- Carries an edit out. An index that no option has changes nothing. -/
def apply (s : Scene μ) : SceneEdit → Scene μ
  | .text e => s.setText e.text
  | .body t => s.setBody t
  | .bind key value => s.bind key value.text
  | .onReached e => s.onReached e.hook
  | .addOption label parts => s.addOption (parts.apply { label := label.text })
  | .removeOption index => s.editOptions fun os => os.eraseIdx index
  | .reverseOptions => s.editOptions List.reverse
  | .setOption index parts => s.editOptions fun os => os.modify index parts.apply

def applyAll (edits : List SceneEdit) (s : Scene μ) : Scene μ := edits.foldl apply s

/-- Edits as what is done to a node, remembering how many options it has then. -/
def action (edits : List SceneEdit) : NodeAction μ Nat := fun n _ =>
  let scene := applyAll edits n.toScene
  (scene, scene.options.length)

end SceneEdit

/-! ## Stories -/

inductive StoryEdit where
  | title (s : String)
  | author (s : String)
  | storyId (s : String)
  | create (id : String) (text : Expr) (edits : List SceneEdit)
  | insert (id : String) (edits : List SceneEdit)
  | each (edits : List SceneEdit)
  /-- Edits one node and notes how many options it has then. -/
  | within (id : String) (edits : List SceneEdit)
  | initial (e : Expr)
  | initialId (id : String)
  | require (id : String)
  /-- Carries edits out and notes how that ended. -/
  | attempt (edits : List StoryEdit)
  | raise (e : StoryError)

namespace StoryEdit

instance : Inhabited StoryEdit := ⟨.title ""⟩

variable {μ : Type}

/-- The story that an operation made, or the story as it was with the error. -/
def settle (s : Story μ) : Except StoryError (Story μ) → Story μ × Except StoryError Unit
  | .ok s => (s, .ok ())
  | .error e => (s, .error e)

mutual

/-- Carries an edit out. Gives the story it leaves and how it ended. -/
def apply (s : Story μ) : StoryEdit → Script μ (Story μ × Except StoryError Unit)
  | .title t => return ({ s with title := t }, .ok ())
  | .author t => return ({ s with author := t }, .ok ())
  | .storyId t => return ({ s with id := t }, .ok ())
  | .create id text edits =>
    return settle s (s.createNode id text.text (SceneEdit.action edits) 0).1
  | .insert id edits =>
    return settle s (s.insertNode { SceneEdit.applyAll edits Scene.blank with id })
  | .each edits => return ((s.forEachNode (SceneEdit.action edits) 0).1, .ok ())
  | .within id edits =>
    match s.withNode id (SceneEdit.action edits) 0 with
    | (.error e, _) => return (s, .error e)
    | (.ok s, count) => do
      Script.write (.counted count)
      return (s, .ok ())
  | .initial e => return (s.setInitial e.text, .ok ())
  | .initialId id => return (s.setInitialId id, .ok ())
  | .require id => return (s, (s.require id).map fun _ => ())
  | .attempt edits => do
    let (s, outcome) ← applyAll s edits
    Script.write (.attempted outcome)
    return (s, .ok ())
  | .raise e => return (s, .error e)

def applyAll (s : Story μ) : List StoryEdit → Script μ (Story μ × Except StoryError Unit)
  | [] => return (s, .ok ())
  | e :: es => do
    match ← apply s e with
    | (s, .ok ()) => applyAll s es
    | (s, .error e) => return (s, .error e)

end

/-- Edits as the refinement of a new story. -/
def refinement (edits : List StoryEdit) : Refinement μ := fun s => do
  let (s, outcome) ← applyAll s edits
  Script.ofExcept outcome
  return s

end StoryEdit

end Gamebook
