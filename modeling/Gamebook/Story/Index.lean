-- Indexes: where each id of a list stands first. A story keeps one beside its nodes, so that a
-- node is found by its id without a walk over the nodes.
import Gamebook.Dict

namespace Gamebook

/-! ## Positions -/

/-- The positions of ids, counted from `k` on. Where an id is repeated its first position counts. -/
def positionsFrom (k : Nat) : List String → Dict Nat
  | [] => Dict.empty
  | id :: ids => (positionsFrom (k + 1) ids).insert id k

theorem get?_positionsFrom (k : Nat) (ids : List String) (id : String) :
    (positionsFrom k ids).get? id = (ids.idxOf? id).map (· + k) := by
  induction ids generalizing k with
  | nil => rfl
  | cons first ids ih =>
    rw [positionsFrom, Dict.get?_insert, ih, List.idxOf?_cons]
    by_cases hid : id = first
    · simp [hid]
    · have hne : (first == id) = false := by simpa using Ne.symm hid
      have hshift : ((· + k) ∘ (· + 1) : Nat → Nat) = (· + (k + 1)) := by
        funext i
        simp only [Function.comp_apply]
        omega
      simp [hid, hne, hshift]

/-- A new id stands at the end, and the others where they stood. -/
theorem idxOf?_append_new {ids : List String} {new : String} (hnew : new ∉ ids) (id : String) :
    (ids ++ [new]).idxOf? id = if id = new then some ids.length else ids.idxOf? id := by
  induction ids with
  | nil =>
    by_cases hid : id = new
    · simp [hid]
    · simpa [hid] using Ne.symm hid
  | cons first ids ih =>
    obtain ⟨hfirst, hids⟩ := not_or.mp (mt List.mem_cons.mpr hnew)
    rw [List.cons_append, List.idxOf?_cons, List.idxOf?_cons, ih hids]
    by_cases hid : id = new
    · have hne : (first == id) = false := by simpa [hid] using Ne.symm hfirst
      simp [hid ▸ hne, hid]
    · simp [hid]

/-! ## Indexes -/

/-- A table of where each of the ids stands first. -/
structure NodeIndex (ids : List String) where
  positions : Dict Nat
  first : ∀ id, positions.get? id = ids.idxOf? id

namespace NodeIndex

variable {ids ids' : List String}

/-- The index that is made of the ids alone. -/
def of (ids : List String) : NodeIndex ids where
  positions := positionsFrom 0 ids
  first id := by simp [get?_positionsFrom]

def position? (x : NodeIndex ids) (id : String) : Option Nat := x.positions.get? id

def contains (x : NodeIndex ids) (id : String) : Bool := x.positions.contains id

theorem contains_iff (x : NodeIndex ids) (id : String) : x.contains id = true ↔ id ∈ ids := by
  unfold contains Dict.contains
  rw [x.first, List.isSome_idxOf?]

/-- Enters a new id, at the end of the others. -/
def push (x : NodeIndex ids) (id : String) (hnew : ¬ x.contains id) (hids : ids' = ids ++ [id]) :
    NodeIndex ids' where
  positions := x.positions.insert id ids.length
  first j := by
    rw [hids, idxOf?_append_new (mt (x.contains_iff id).mpr hnew), Dict.get?_insert, x.first]

/-- The same positions, for the same ids. -/
def kept (x : NodeIndex ids) (hids : ids' = ids) : NodeIndex ids' where
  positions := x.positions
  first j := by rw [hids, x.first]

end NodeIndex

end Gamebook
