-- Stories: nodes with distinct ids, in the order they were added, an index that finds them by
-- their ids, the metadata, and a callback that resolves the node to start at.
import Gamebook.Story.Index
import Gamebook.Story.Node

namespace Gamebook

structure Story (μ : Type) where
  title : String := ""
  author : String := ""
  id : String := ""
  nodes : List (Node μ) := []
  /-- Where the nodes stand. -/
  index : NodeIndex (nodes.map fun n => n.id) := .of _
  /-- Resolves the node to start at, afresh at every start. -/
  initial : Producer μ String

/-- Where the nodes of a story are replaced as a whole they are indexed anew. -/
instance {ids ids' : List String} {x : NodeIndex ids} : CoeDep (NodeIndex ids) x (NodeIndex ids') :=
  ⟨.of ids'⟩

namespace Story

variable {μ τ : Type}

/-- The id of the node a story starts at unless it says otherwise. -/
def defaultInitial : String := "1"

def empty : Story μ := { initial := Producer.requireNode defaultInitial }

instance : Inhabited (Story μ) := ⟨empty⟩

def nodeIds (s : Story μ) : List String := s.nodes.map (·.id)

/-- Looks a node up. -/
def node? (s : Story μ) (id : String) : Option (Node μ) :=
  (s.index.position? id).bind fun i => s.nodes[i]?

def contains (s : Story μ) (id : String) : Bool := s.index.contains id

/-- Whoever goes through the nodes one by one finds the same. -/
theorem node?_eq_find? (s : Story μ) (id : String) : s.node? id = s.nodes.find? (·.id = id) := by
  have hposition : s.index.position? id = s.nodes.findIdx? (·.id = id) := by
    unfold NodeIndex.position?
    rw [s.index.first, List.idxOf?, List.findIdx?_map]
    rfl
  rw [node?, hposition, List.find?_eq_bind_findIdx?_getElem?]

theorem contains_iff (s : Story μ) (id : String) : s.contains id = true ↔ id ∈ s.nodeIds :=
  s.index.contains_iff id

theorem isSome_node? (s : Story μ) (id : String) : (s.node? id).isSome = s.contains id := by
  rw [Bool.eq_iff_iff, contains_iff, node?_eq_find?]
  simp [nodeIds]

theorem id_of_node? {s : Story μ} {id : String} {n : Node μ} (hn : s.node? id = some n) :
    n.id = id := by
  rw [node?_eq_find?] at hn
  simpa using List.find?_some hn

theorem mem_of_node? {s : Story μ} {id : String} {n : Node μ} (hn : s.node? id = some n) :
    n ∈ s.nodes := by
  rw [node?_eq_find?] at hn
  exact List.mem_of_find?_eq_some hn

def require (s : Story μ) (id : String) : Except StoryError (Node μ) :=
  match s.node? id with
  | some n => .ok n
  | none => .error (.nodeNotFound id)

/-! ## Adding and changing nodes -/

/-- Adds a node, unless its id is taken. -/
def insertNode (s : Story μ) (n : Node μ) : Except StoryError (Story μ) :=
  if htaken : s.contains n.id then .error (.duplicateNode n.id)
  else .ok { s with
    nodes := s.nodes ++ [n]
    index := s.index.push n.id htaken (List.map_append ..) }

/-- Adds a node with a text, once it is configured. -/
def createNode (s : Story μ) (id : String) (text : Producer μ String)
    (configure : NodeAction μ τ) (memory : τ) : Except StoryError (Story μ) × τ :=
  let made := Node.change configure { Scene.blank.setText text with id } memory
  (s.insertNode made.1, made.2)

theorem setScene_ids (ns : List (Node μ)) (i : Nat) (scene : Scene μ) :
    (ns.modify i fun n => n.withScene scene).map (·.id) = ns.map (·.id) := by
  apply List.ext_getElem?
  intro j
  simp only [List.getElem?_map, List.getElem?_modify]
  split <;> simp [Function.comp_def]

/-- Gives the node at a position another scene. -/
def setScene (s : Story μ) (i : Nat) (scene : Scene μ) : Story μ :=
  { s with
    nodes := s.nodes.modify i fun n => n.withScene scene
    index := s.index.kept (setScene_ids s.nodes i scene) }

/-- Looks a node up to be changed: the node, and the story for each scene it may be given. -/
def place? (s : Story μ) (id : String) : Option (Node μ × (Scene μ → Story μ)) :=
  (s.index.position? id).bind fun i => s.nodes[i]?.map fun n => (n, s.setScene i)

/-- Changes the node of an id, which must be there. -/
def withNode (s : Story μ) (id : String) (action : NodeAction μ τ) (memory : τ) :
    Except StoryError (Story μ) × τ :=
  match s.place? id with
  | some (n, put) => (.ok (put (action n memory).1), (action n memory).2)
  | none => (.error (.nodeNotFound id), memory)

/-- Changes every node, in order. -/
def forEachNode (s : Story μ) (action : NodeAction μ τ) (memory : τ) : Story μ × τ :=
  let changed := Node.changeAll action s.nodes memory
  ({ s with
      nodes := changed.1
      index := s.index.kept (Node.changeAll_ids action s.nodes memory) }, changed.2)

/-! ## The start -/

def setInitial (s : Story μ) (resolver : Producer μ String) : Story μ :=
  { s with initial := resolver }

/-- Starts at the node of an id, which is looked up at every start. -/
def setInitialId (s : Story μ) (id : String) : Story μ := s.setInitial (Producer.requireNode id)

/-! ## The scope of a story -/

/-- How deep callbacks may call for one another's texts. -/
def nestingLimit : Nat := 4096

/-- The scope of a story for callbacks that may call for one another `depth` times more. -/
def scopeAt : (depth : Nat) → Story μ → Scope μ
  | 0, s =>
    { title := s.title, author := s.author, storyId := s.id, nodeIds := s.nodeIds
      nodeExists := s.contains
      nodeRef? := fun id => (s.node? id).map (·.id)
      nodeText := fun _ => .fail (.failed "callbacks are nested too deeply")
      initialNode := fun _ => .fail (.failed "callbacks are nested too deeply") }
  | depth + 1, s =>
    { title := s.title, author := s.author, storyId := s.id, nodeIds := s.nodeIds
      nodeExists := s.contains
      nodeRef? := fun id => (s.node? id).map (·.id)
      nodeText := fun id =>
        match s.require id with
        | .ok n => n.text (scopeAt depth s)
        | .error e => .fail e
      initialNode := fun _ => s.initial (scopeAt depth s) }

/-- The scope that the callbacks of a story are given. -/
def scope (s : Story μ) : Scope μ := scopeAt nestingLimit s

@[simp] theorem scopeAt_nodeExists (s : Story μ) (depth : Nat) :
    (s.scopeAt depth).nodeExists = s.contains := by
  cases depth <;> rfl

@[simp] theorem scopeAt_nodeRef? (s : Story μ) (depth : Nat) (id : String) :
    (s.scopeAt depth).nodeRef? id = (s.node? id).map (·.id) := by
  cases depth <;> rfl

/-- A node is found by its id, which is the id of the node that is found. -/
theorem scopeAt_requireNode (s : Story μ) (depth : Nat) (id : String) :
    (s.scopeAt depth).requireNode id =
      if s.contains id then .ok id else .error (.nodeNotFound id) := by
  unfold Scope.requireNode
  rw [scopeAt_nodeRef?, ← isSome_node?]
  cases hn : s.node? id with
  | none => rfl
  | some n => simp [id_of_node? hn]

theorem scope_requireNode (s : Story μ) (id : String) :
    s.scope.requireNode id = if s.contains id then .ok id else .error (.nodeNotFound id) :=
  s.scopeAt_requireNode nestingLimit id

end Story

end Gamebook
