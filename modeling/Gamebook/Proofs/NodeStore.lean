-- The nodes of a story under any calls that add and change them. They stand in the order in which
-- they were added, no two under one id, and the index has each of them at its place: so whoever
-- looks a node up finds what a walk over the nodes would find. A call that fails changes nothing.
import Gamebook.Story
import Mathlib.Data.List.Sort

namespace Gamebook

/-! ## One index for some ids -/

/-- Two dictionaries from which the same is read are the same. -/
theorem Dict.ext_get? {α : Type} {d e : Dict α} (h : ∀ k, d.get? k = e.get? k) : d = e := by
  have hmem : ∀ entry, entry ∈ d.entries ↔ entry ∈ e.entries := by
    rintro ⟨k, v⟩
    rw [d.mem_entries_iff, e.mem_entries_iff, h]
  have hirrefl : Std.Irrefl fun a b : String × α => a.1 < b.1 := ⟨fun a => String.lt_irrefl a.1⟩
  have hasymm : Std.Antisymm fun a b : String × α => a.1 < b.1 :=
    ⟨fun a b hab hba => absurd (String.lt_trans hab hba) (String.lt_irrefl a.1)⟩
  exact Dict.ext (d.ascending.eq_of_mem_iff e.ascending hmem)

instance {ids : List String} : Subsingleton (NodeIndex ids) where
  allEq x y := by
    obtain ⟨p, hp⟩ := x
    obtain ⟨q, hq⟩ := y
    obtain rfl : p = q := Dict.ext_get? fun id => (hp id).trans (hq id).symm
    rfl

/-- A node before it is configured: a text, no options, and nothing happens when it is reached. -/
def Node.blank {μ : Type} (id : String) (text : Producer μ String) : Node μ :=
  { id, text, options := [], reached := fun _ => .done () }

namespace Story

variable {μ τ : Type}

/-- However the index came about, the nodes decide. -/
theorem eq_of_nodes {s s' : Story μ} (hnodes : s'.nodes = s.nodes) (htitle : s'.title = s.title)
    (hauthor : s'.author = s.author) (hid : s'.id = s.id) (hinitial : s'.initial = s.initial) :
    s' = s := by
  cases s
  cases s'
  cases hnodes
  cases htitle
  cases hauthor
  cases hid
  cases hinitial
  congr
  exact Subsingleton.elim _ _

/-! ## One call -/

theorem insertNode_new {s : Story μ} {n : Node μ} (h : n.id ∉ s.nodeIds) :
    s.insertNode n = .ok { s with nodes := s.nodes ++ [n] } := by
  unfold insertNode
  rw [dif_neg (mt (s.contains_iff n.id).mp h)]
  exact congrArg Except.ok (eq_of_nodes rfl rfl rfl rfl rfl)

theorem insertNode_taken {s : Story μ} {n : Node μ} (h : n.id ∈ s.nodeIds) :
    s.insertNode n = .error (.duplicateNode n.id) := by
  unfold insertNode
  rw [dif_pos ((s.contains_iff n.id).mpr h)]

theorem createNode_new {s : Story μ} {id : String} (h : id ∉ s.nodeIds) (text : Producer μ String)
    (configure : NodeAction μ τ) (memory : τ) :
    s.createNode id text configure memory =
      (.ok { s with nodes :=
          s.nodes ++ [{ toScene := (configure (.blank id text) memory).1, id }] },
        (configure (.blank id text) memory).2) :=
  Prod.ext (insertNode_new h) rfl

theorem createNode_taken {s : Story μ} {id : String} (h : id ∈ s.nodeIds)
    (text : Producer μ String) (configure : NodeAction μ τ) (memory : τ) :
    s.createNode id text configure memory =
      (.error (.duplicateNode id), (configure (.blank id text) memory).2) :=
  Prod.ext (insertNode_taken h) rfl

theorem position?_eq_none {s : Story μ} {id : String} (h : id ∉ s.nodeIds) :
    s.index.position? id = none := by
  unfold NodeIndex.position?
  rw [s.index.first, List.idxOf?_eq_none_iff]
  exact h

/-- Under ids that differ, each stands where the index has it. -/
theorem position?_eq_some_iff {s : Story μ} (hn : s.nodeIds.Nodup) (id : String) (i : Nat) :
    s.index.position? id = some i ↔ s.nodeIds[i]? = some id := by
  unfold NodeIndex.position?
  rw [s.index.first, List.getElem?_eq_some_iff]
  refine List.idxOf?_eq_some_iff.trans ⟨?_, ?_⟩
  · rintro ⟨hi, hid, -⟩
    exact ⟨hi, hid⟩
  · rintro ⟨hi, hid⟩
    refine ⟨hi, hid, fun j hj hsame => ?_⟩
    have hij : j = i := hn.getElem_inj_iff.mp (hsame.trans hid.symm)
    omega

/-- A node is found where it stands, or no node has the id. -/
theorem stands_or_missing (s : Story μ) (id : String) :
    (∃ before n after, s.nodes = before ++ n :: after ∧ n.id = id) ∨ id ∉ s.nodeIds := by
  by_cases hid : id ∈ s.nodeIds
  · obtain ⟨n, hn, rfl⟩ := List.mem_map.mp hid
    obtain ⟨before, after, hs⟩ := List.append_of_mem hn
    exact Or.inl ⟨before, n, after, hs, rfl⟩
  · exact Or.inr hid

theorem place?_missing {s : Story μ} {id : String} (h : id ∉ s.nodeIds) : s.place? id = none := by
  unfold place?
  rw [position?_eq_none h]
  rfl

/-- To change a node that is found leaves the others as they are. -/
theorem place?_of_nodes {s : Story μ} (hn : s.nodeIds.Nodup) {before after : List (Node μ)}
    {n : Node μ} (hs : s.nodes = before ++ n :: after) :
    s.place? n.id = some (n, fun scene =>
      { s with nodes := before ++ { toScene := scene, id := n.id } :: after }) := by
  have hnode : s.nodes[before.length]? = some n := by simp [hs]
  have hposition : s.index.position? n.id = some before.length := by
    rw [position?_eq_some_iff hn, nodeIds, List.getElem?_map, hnode]
    rfl
  have hput : s.setScene before.length =
      fun scene => { s with nodes := before ++ { toScene := scene, id := n.id } :: after } := by
    funext scene
    refine eq_of_nodes ?_ rfl rfl rfl rfl
    simp [setScene, hs, List.modify_eq_take_drop, Node.withScene]
  rw [place?, hposition, Option.bind_some, hnode, Option.map_some, hput]

theorem forEachNode_eq (s : Story μ) (action : NodeAction μ τ) (memory : τ) :
    s.forEachNode action memory =
      ({ s with nodes := (Node.changeAll action s.nodes memory).1 },
        (Node.changeAll action s.nodes memory).2) :=
  Prod.ext (eq_of_nodes rfl rfl rfl rfl rfl) rfl

end Story

/-! ## Calls -/

variable {μ τ : Type}

/-- A call that adds or changes nodes. -/
inductive StoreCall (μ τ : Type) where
  | create (id : String) (text : Producer μ String) (configure : NodeAction μ τ)
  | insert (n : Node μ)
  /-- Changes the node of an id, if there is one. -/
  | edit (id : String) (action : NodeAction μ τ)
  | within (id : String) (action : NodeAction μ τ)
  | each (action : NodeAction μ τ)

namespace StoreCall

/-- The story that an operation made, or the story as it was with the error. -/
def settle (s : Story μ) : Except StoryError (Story μ) × τ → Except StoryError Unit × Story μ × τ
  | (.ok s, memory) => (.ok (), s, memory)
  | (.error e, memory) => (.error e, s, memory)

/-- Makes a call: how it ends, and the story and the memory that it leaves. -/
def run (s : Story μ) (memory : τ) : StoreCall μ τ → Except StoryError Unit × Story μ × τ
  | .create id text configure => settle s (s.createNode id text configure memory)
  | .insert n => settle s (s.insertNode n, memory)
  | .edit id action =>
    match s.place? id with
    | some (n, put) => (.ok (), put (action n memory).1, (action n memory).2)
    | none => (.ok (), s, memory)
  | .within id action => settle s (s.withNode id action memory)
  | .each action => (.ok (), s.forEachNode action memory)

/-- The id of the node that a call is to add. -/
def adds? : StoreCall μ τ → Option String
  | .create id _ _ => some id
  | .insert n => some n.id
  | _ => none

/-- What an action remembers after some nodes. -/
def memoryAfter (action : NodeAction μ τ) (memory : τ) (ns : List (Node μ)) : τ :=
  ns.foldl (fun memory n => (action n memory).2) memory

/-- What a call does, told by a walk over the nodes: how it ends, and what it leaves. A node that
was changed has the scene that the action gave, and the id that it had. -/
inductive Does (s : Story μ) (memory : τ) :
    StoreCall μ τ → Except StoryError Unit × Story μ × τ → Prop
  | created {id : String} {text : Producer μ String} {configure : NodeAction μ τ}
      (hnew : id ∉ s.nodeIds) :
      Does s memory (.create id text configure)
        (.ok (),
          { s with nodes :=
              s.nodes ++ [{ toScene := (configure (.blank id text) memory).1, id }] },
          (configure (.blank id text) memory).2)
  | createTaken {id : String} {text : Producer μ String} {configure : NodeAction μ τ}
      (htaken : id ∈ s.nodeIds) :
      Does s memory (.create id text configure)
        (.error (.duplicateNode id), s, (configure (.blank id text) memory).2)
  | inserted {n : Node μ} (hnew : n.id ∉ s.nodeIds) :
      Does s memory (.insert n) (.ok (), { s with nodes := s.nodes ++ [n] }, memory)
  | insertTaken {n : Node μ} (htaken : n.id ∈ s.nodeIds) :
      Does s memory (.insert n) (.error (.duplicateNode n.id), s, memory)
  | edited {n : Node μ} {action : NodeAction μ τ} {before after : List (Node μ)}
      (hs : s.nodes = before ++ n :: after) :
      Does s memory (.edit n.id action)
        (.ok (),
          { s with nodes := before ++ { toScene := (action n memory).1, id := n.id } :: after },
          (action n memory).2)
  | editMissing {id : String} {action : NodeAction μ τ} (hmissing : id ∉ s.nodeIds) :
      Does s memory (.edit id action) (.ok (), s, memory)
  | changed {n : Node μ} {action : NodeAction μ τ} {before after : List (Node μ)}
      (hs : s.nodes = before ++ n :: after) :
      Does s memory (.within n.id action)
        (.ok (),
          { s with nodes := before ++ { toScene := (action n memory).1, id := n.id } :: after },
          (action n memory).2)
  | changeMissing {id : String} {action : NodeAction μ τ} (hmissing : id ∉ s.nodeIds) :
      Does s memory (.within id action) (.error (.nodeNotFound id), s, memory)
  /-- Each node is given to the action once, after those before it. -/
  | changedAll {action : NodeAction μ τ} {ns : List (Node μ)}
      (hns : ∀ i, ns[i]? = s.nodes[i]?.map fun n =>
        ({ toScene := (action n (memoryAfter action memory (s.nodes.take i))).1
           id := n.id } : Node μ)) :
      Does s memory (.each action)
        (.ok (), { s with nodes := ns }, memoryAfter action memory s.nodes)

theorem changeAll_memory (action : NodeAction μ τ) (memory : τ) (ns : List (Node μ)) :
    (Node.changeAll action ns memory).2 = memoryAfter action memory ns := by
  induction ns generalizing memory with
  | nil => rfl
  | cons n ns ih => exact ih (action n memory).2

theorem changeAll_nodes (action : NodeAction μ τ) (memory : τ) (ns : List (Node μ)) (i : Nat) :
    (Node.changeAll action ns memory).1[i]? = ns[i]?.map fun n =>
      ({ toScene := (action n (memoryAfter action memory (ns.take i))).1
         id := n.id } : Node μ) := by
  induction ns generalizing memory i with
  | nil => rfl
  | cons n ns ih =>
    cases i with
    | zero => rfl
    | succ i => exact ih (action n memory).2 i

/-- A call does what it would do by a walk over the nodes. -/
theorem run_does {s : Story μ} (hn : s.nodeIds.Nodup) (memory : τ) (c : StoreCall μ τ) :
    c.Does s memory (c.run s memory) := by
  cases c with
  | create id text configure =>
    by_cases hid : id ∈ s.nodeIds
    · simp only [run, Story.createNode_taken hid]
      exact .createTaken hid
    · simp only [run, Story.createNode_new hid]
      exact .created hid
  | insert n =>
    by_cases hid : n.id ∈ s.nodeIds
    · simp only [run, Story.insertNode_taken hid]
      exact .insertTaken hid
    · simp only [run, Story.insertNode_new hid]
      exact .inserted hid
  | edit id action =>
    rcases s.stands_or_missing id with ⟨before, n, after, hs, rfl⟩ | hmissing
    · simp only [run, Story.place?_of_nodes hn hs]
      exact .edited hs
    · simp only [run, Story.place?_missing hmissing]
      exact .editMissing hmissing
  | within id action =>
    rcases s.stands_or_missing id with ⟨before, n, after, hs, rfl⟩ | hmissing
    · simp only [run, Story.withNode, Story.place?_of_nodes hn hs]
      exact .changed hs
    · simp only [run, Story.withNode, Story.place?_missing hmissing]
      exact .changeMissing hmissing
  | each action =>
    simp only [run, Story.forEachNode_eq, changeAll_memory]
    exact .changedAll (changeAll_nodes action memory s.nodes)

/-! ## Any calls -/

/-- Nodes with new ids have been added after the others, and nothing else of the story has changed
but the scenes. -/
structure Extends (s s' : Story μ) (new : List String) : Prop where
  ids : s'.nodeIds = s.nodeIds ++ new
  nodup : s.nodeIds.Nodup → s'.nodeIds.Nodup
  rest : s' = { s with nodes := s'.nodes }

namespace Extends

variable {s s' s'' : Story μ} {new new' : List String}

theorem refl (s : Story μ) : Extends s s [] where
  ids := (List.append_nil _).symm
  nodup := id
  rest := Story.eq_of_nodes rfl rfl rfl rfl rfl

theorem trans (h : Extends s s' new) (h' : Extends s' s'' new') :
    Extends s s'' (new ++ new') where
  ids := by rw [h'.ids, h.ids, List.append_assoc]
  nodup := h'.nodup ∘ h.nodup
  rest := by
    have hrest := h'.rest
    rw [h.rest] at hrest
    exact hrest

/-- Other nodes in the places of the nodes, under the same ids. -/
theorem of_ids {ns : List (Node μ)} (h : ns.map (·.id) = s.nodeIds) :
    Extends s { s with nodes := ns } [] where
  ids := h.trans (List.append_nil _).symm
  nodup hn := by
    show (ns.map (·.id)).Nodup
    rwa [h]
  rest := rfl

theorem append {n : Node μ} (hnew : n.id ∉ s.nodeIds) :
    Extends s { s with nodes := s.nodes ++ [n] } [n.id] where
  ids := List.map_append ..
  nodup hn := by
    show ((s.nodes ++ [n]).map (·.id)).Nodup
    rw [List.map_append]
    exact hn.append (List.nodup_singleton _) (List.disjoint_singleton.mpr hnew)
  rest := rfl

end Extends

/-- The ids of the nodes that a call has added, by how it ended. -/
def newIds (c : StoreCall μ τ) : Except StoryError Unit → List String
  | .ok () => c.adds?.toList
  | .error _ => []

theorem Does.extends {s : Story μ} {memory : τ} {c : StoreCall μ τ}
    {outcome : Except StoryError Unit × Story μ × τ} (h : c.Does s memory outcome) :
    Extends s outcome.2.1 (c.newIds outcome.1) := by
  cases h with
  | created hnew => exact .append hnew
  | inserted hnew => exact .append hnew
  | createTaken | insertTaken | editMissing | changeMissing => exact .refl s
  | edited hs | changed hs => exact .of_ids (by simp [Story.nodeIds, hs])
  | changedAll hns =>
    refine .of_ids (List.ext_getElem? fun i => ?_)
    simp [Story.nodeIds, hns, Function.comp_def]

/-- The story and the memory after some calls. -/
def after (s : Story μ) (memory : τ) : List (StoreCall μ τ) → Story μ × τ
  | [] => (s, memory)
  | c :: calls =>
    let (_, s', memory') := c.run s memory
    after s' memory' calls

/-- The ids of the nodes that some calls add, in the order in which they do. -/
def added (s : Story μ) (memory : τ) : List (StoreCall μ τ) → List String
  | [] => []
  | c :: calls =>
    let (ending, s', memory') := c.run s memory
    c.newIds ending ++ added s' memory' calls

theorem extends_after {s : Story μ} (hn : s.nodeIds.Nodup) (memory : τ)
    (calls : List (StoreCall μ τ)) :
    Extends s (after s memory calls).1 (added s memory calls) := by
  induction calls generalizing s memory with
  | nil => exact .refl s
  | cons c calls ih =>
    have hstep := (c.run_does hn memory).extends
    exact hstep.trans (ih (hstep.nodup hn) _)

end StoreCall

/-! ## Looking nodes up -/

/-- Every way to look a node up, from outside or from a callback, finds for an id what a walk
over the nodes finds. -/
structure Story.Finds (s : Story μ) (id : String) (found : Option (Node μ)) : Prop where
  walk : s.nodes.find? (·.id = id) = found
  sameId : ∀ n ∈ found, n.id = id
  node : s.node? id = found
  require : s.require id = found.elim (.error (.nodeNotFound id)) .ok
  place : (s.place? id).map (·.1) = found
  contains : s.contains id = found.isSome
  nodeRef : ∀ depth, (s.scopeAt depth).nodeRef? id = found.map (·.id)
  requireNode : ∀ depth, (s.scopeAt depth).requireNode id =
    found.elim (.error (.nodeNotFound id)) fun n => .ok n.id
  nodeExists : ∀ depth, (s.scopeAt depth).nodeExists id = found.isSome

theorem Story.finds (s : Story μ) (id : String) : s.Finds id (s.nodes.find? (·.id = id)) := by
  rw [← Story.node?_eq_find?]
  have hplace : (s.place? id).map (·.1) = s.node? id := by
    rw [Story.place?, Story.node?, Option.map_bind]
    exact congrArg _ (funext fun i => by simp [Function.comp_def])
  have hsome := (s.isSome_node? id).symm
  refine
    { walk := (s.node?_eq_find? id).symm
      sameId := fun n hn => Story.id_of_node? hn
      node := rfl
      require := ?_
      place := hplace
      contains := hsome
      nodeRef := fun depth => s.scopeAt_nodeRef? depth id
      requireNode := fun depth => ?_
      nodeExists := fun depth => (congrFun (s.scopeAt_nodeExists depth) id).trans hsome }
  · unfold Story.require
    cases s.node? id <;> rfl
  · rw [Scope.requireNode, Story.scopeAt_nodeRef?]
    cases s.node? id <;> rfl

/-- A new story under any calls that add and change nodes. Its nodes have ids that differ, and
stand in the order in which they were added; nothing but the nodes has changed; the index has each
node at its place, and no other; each lookup finds what a walk over the nodes finds; and the next
call, whichever it is, does to the nodes what it says. -/
theorem a_story_keeps_its_nodes_in_order (title author id : String) (initial : Producer μ String)
    (calls : List (StoreCall μ τ)) (memory : τ) :
    let new : Story μ := { title, author, id, initial }
    let (s, memory') := StoreCall.after new memory calls
    s.nodeIds.Nodup ∧
    s.nodeIds = StoreCall.added new memory calls ∧
    s = { new with nodes := s.nodes } ∧
    (∀ id i, s.index.position? id = some i ↔ s.nodeIds[i]? = some id) ∧
    (∀ id, s.Finds id (s.nodes.find? (·.id = id))) ∧
    ∀ c : StoreCall μ τ, c.Does s memory' (c.run s memory') := by
  intro new
  have hnew : new.nodeIds.Nodup := List.nodup_nil
  have hrun := StoreCall.extends_after hnew memory calls
  have hn := hrun.nodup hnew
  refine ⟨hn, ?_, hrun.rest, Story.position?_eq_some_iff hn, Story.finds _, ?_⟩
  · exact hrun.ids.trans (List.nil_append _)
  · exact fun c => c.run_does hn _

/-- A hall is made and lit, a second one is refused, and every node gets a way out. -/
def lighting : List (StoreCall Unit Nat) :=
  [.create "hall" (Producer.constant "It is dark.") fun n seen => (n.toScene, seen + 1),
    .insert { id := "cave" },
    .create "hall" (Producer.constant "It is cold.") fun n seen => (n.toScene, seen + 1),
    .within "hall" fun n seen => (n.setBody "It is bright.", seen + 1),
    .each fun n seen => (n.addOption (.labeled (toString seen)), seen + 1)]

example :
    let (s, seen) := StoreCall.after { initial := Producer.requireNode "hall" } 0 lighting
    s.nodeIds = ["hall", "cave"] ∧
      s.nodes.map (fun n => n.text s.scope) = [.done "It is bright.", .done ""] ∧
      s.nodes.map (fun n => n.options.map fun o => o.label s.scope) =
        [[.done "3"], [.done "4"]] ∧
      seen = 5 := ⟨rfl, rfl, rfl, rfl⟩

end Gamebook
