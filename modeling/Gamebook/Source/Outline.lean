-- Outlines: what a source says, as plain data. An outline has the metadata, the id of the node to
-- start at and the passages; a passage has its id, its lines of text and its options. The outline
-- of a source becomes a story whose callbacks are all constant or look one node up.
import Gamebook.Source.Diagnostic
import Gamebook.Story

namespace Gamebook.Source

/-! ## Passages -/

/-- A node as it is written. -/
structure Passage where
  id : String
  lines : List (List Char) := []
  options : List (String × String) := []
  deriving DecidableEq, Repr

/-- The lines without the empty ones at the start and at the end. -/
def dropEmptyEnds (lines : List (List Char)) : List (List Char) :=
  ((lines.dropWhile List.isEmpty).reverse.dropWhile List.isEmpty).reverse

def Passage.body (p : Passage) : String := String.ofList (Text.join '\n' (dropEmptyEnds p.lines))

/-! ## Outlines -/

structure Outline where
  title : String := ""
  author : String := ""
  /-- The id of the node to start at. -/
  start : String := Story.defaultInitial
  passages : List Passage := []
  deriving DecidableEq, Repr

namespace Outline

def ids (o : Outline) : List String := o.passages.map (·.id)

def declares (o : Outline) (id : String) : Bool := o.ids.contains id

/-- Adds a passage, unless its id is taken. -/
def insert (o : Outline) (p : Passage) : Except StoryError Outline :=
  if o.declares p.id then .error (.duplicateNode p.id)
  else .ok { o with passages := o.passages ++ [p] }

end Outline

/-! ## Links -/

/-- An option as it stands in the source. -/
structure Link where
  origin : String
  label : String
  target : String
  line : Nat
  span : Span
  deriving DecidableEq, Repr

/-! ## Stories of outlines -/

section

variable {μ : Type}

/-- The option with a label that leads to a target. -/
def writtenOption (label target : String) : StoryOption μ :=
  (StoryOption.labeled label).leadsTo target

def Passage.node (p : Passage) : Node μ :=
  { id := p.id
    text := Producer.constant p.body
    options := p.options.map fun (label, target) => writtenOption label target }

def Outline.story (o : Outline) : Story μ :=
  { title := o.title
    author := o.author
    nodes := o.passages.map Passage.node
    initial := Producer.requireNode o.start }

@[simp] theorem Outline.story_nodeIds (o : Outline) : (o.story : Story μ).nodeIds = o.ids := by
  simp [Outline.story, Story.nodeIds, Outline.ids, Passage.node]

end

end Gamebook.Source
