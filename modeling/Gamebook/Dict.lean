-- Dictionaries keyed by strings, kept in ascending order of their keys, so that two dictionaries
-- with the same entries are the same dictionary and listings come out sorted.
namespace Gamebook

/-! ## Ordered entries -/

def Ascending {α : Type} (entries : List (String × α)) : Prop :=
  entries.Pairwise fun a b => a.1 < b.1

/-- Puts an entry at its place, over an older entry of the same key. -/
def putEntry {α : Type} (key : String) (value : α) : List (String × α) → List (String × α)
  | [] => [(key, value)]
  | (k, v) :: rest =>
    if key < k then (key, value) :: (k, v) :: rest
    else if k < key then (k, v) :: putEntry key value rest
    else (key, value) :: rest

theorem mem_putEntry {α : Type} {key : String} {value : α} {l : List (String × α)}
    {e : String × α} (h : e ∈ putEntry key value l) : e = (key, value) ∨ e ∈ l := by
  induction l with
  | nil => simp [putEntry] at h; exact Or.inl h
  | cons kv rest ih =>
    obtain ⟨k, v⟩ := kv
    simp only [putEntry] at h
    split at h
    · simpa using h
    · split at h
      · rcases List.mem_cons.1 h with h | h
        · exact Or.inr (by simp [h])
        · exact (ih h).imp id fun h => by simp [h]
      · rcases List.mem_cons.1 h with h | h
        · exact Or.inl h
        · exact Or.inr (by simp [h])

/-- Two keys of which neither is smaller are the same key. -/
theorem key_eq_of_not_lt {a b : String} (h1 : ¬ a < b) (h2 : ¬ b < a) : a = b :=
  String.le_antisymm (String.not_lt.1 h2) (String.not_lt.1 h1)

theorem ascending_putEntry {α : Type} (key : String) (value : α) {l : List (String × α)}
    (h : Ascending l) : Ascending (putEntry key value l) := by
  induction l with
  | nil => exact List.pairwise_singleton _ _
  | cons kv rest ih =>
    obtain ⟨k, v⟩ := kv
    obtain ⟨h1, h2⟩ := List.pairwise_cons.1 h
    simp only [putEntry]
    split
    · rename_i hlt
      refine List.pairwise_cons.2 ⟨fun e he => ?_, h⟩
      rcases List.mem_cons.1 he with rfl | he
      · exact hlt
      · exact String.lt_trans hlt (h1 e he)
    · split
      · rename_i hlt
        refine List.pairwise_cons.2 ⟨fun e he => ?_, ih h2⟩
        rcases mem_putEntry he with rfl | he
        · exact hlt
        · exact h1 e he
      · rename_i hn1 hn2
        have hk := key_eq_of_not_lt hn1 hn2
        subst hk
        exact List.pairwise_cons.2 ⟨h1, h2⟩

/-- Only the keys matter. -/
theorem ascending_map_iff {α β : Type} (f : α → β) (l : List (String × α)) :
    Ascending (l.map fun e => (e.1, f e.2)) ↔ Ascending l := by
  unfold Ascending
  exact List.pairwise_map

/-! ## Dictionaries -/

/-- A finite map from strings, in ascending order of the keys. -/
structure Dict (α : Type) where
  entries : List (String × α)
  ascending : Ascending entries

namespace Dict

variable {α : Type}

def lookup (key : String) : List (String × α) → Option α
  | [] => none
  | (k, v) :: rest => if k = key then some v else lookup key rest

def empty : Dict α := ⟨[], List.Pairwise.nil⟩

instance : Inhabited (Dict α) := ⟨empty⟩

def get? (d : Dict α) (key : String) : Option α := lookup key d.entries

def contains (d : Dict α) (key : String) : Bool := (d.get? key).isSome

def insert (d : Dict α) (key : String) (value : α) : Dict α :=
  ⟨putEntry key value d.entries, ascending_putEntry key value d.ascending⟩

def erase (d : Dict α) (key : String) : Dict α :=
  ⟨d.entries.filter fun e => e.1 ≠ key, List.Pairwise.filter _ d.ascending⟩

def keys (d : Dict α) : List String := d.entries.map (·.1)

/-- Puts the entries in one after the other, so the last of several values of a key stays. -/
def insertAll (d : Dict α) (entries : List (String × α)) : Dict α :=
  entries.foldl (fun d e => d.insert e.1 e.2) d

def ofList (entries : List (String × α)) : Dict α := empty.insertAll entries

/-! ## Reading back -/

@[ext] theorem ext {d e : Dict α} (h : d.entries = e.entries) : d = e := by
  cases d; cases e; cases h; rfl

theorem lookup_putEntry (key k : String) (value : α) (l : List (String × α)) :
    lookup k (putEntry key value l) = if k = key then some value else lookup k l := by
  induction l with
  | nil => simp [putEntry, lookup, eq_comm]
  | cons e rest ih =>
    obtain ⟨j, w⟩ := e
    simp only [putEntry]
    split
    · simp [lookup, eq_comm]
    · split
      · rename_i hlt
        simp only [lookup, ih]
        by_cases hj : j = k
        · subst hj
          have : j ≠ key := fun he => String.lt_irrefl _ (he ▸ hlt)
          simp [this]
        · simp [hj]
      · rename_i h1 h2
        have hk := key_eq_of_not_lt h1 h2
        subst hk
        by_cases hk : key = k
        · simp [lookup, hk]
        · simp [lookup, hk, Ne.symm hk]

/-- A key reads back what was last put at it, and no other key is touched. -/
theorem get?_insert (d : Dict α) (key k : String) (value : α) :
    (d.insert key value).get? k = if k = key then some value else d.get? k :=
  lookup_putEntry key k value d.entries

theorem get?_erase (d : Dict α) (key k : String) :
    (d.erase key).get? k = if k = key then none else d.get? k := by
  unfold get? erase
  simp only
  induction d.entries with
  | nil => simp [lookup]
  | cons e rest ih =>
    obtain ⟨j, w⟩ := e
    by_cases hj : j = key
    · subst hj
      by_cases hk : k = j
      · simpa [lookup, hk] using ih
      · simpa [lookup, hk, Ne.symm hk] using ih
    · by_cases hk : j = k
      · subst hk
        simp [lookup, hj]
      · simpa [lookup, hj, hk] using ih

theorem get?_empty (k : String) : (empty : Dict α).get? k = none := rfl

theorem mem_keys_iff (d : Dict α) (k : String) : k ∈ d.keys ↔ d.contains k = true := by
  unfold keys contains get?
  induction d.entries with
  | nil => simp [lookup]
  | cons e rest ih =>
    obtain ⟨j, w⟩ := e
    by_cases hj : j = k
    · simp [lookup, hj]
    · simp only [lookup, hj, List.map_cons, List.mem_cons, Ne.symm hj, false_or, if_false]
      exact ih

/-- The entries are what the keys read back as. -/
theorem mem_entries_iff (d : Dict α) (k : String) (v : α) :
    (k, v) ∈ d.entries ↔ d.get? k = some v := by
  unfold get?
  obtain ⟨entries, hasc⟩ := d
  simp only
  induction entries with
  | nil => simp [lookup]
  | cons e rest ih =>
    obtain ⟨j, w⟩ := e
    obtain ⟨hbefore, hrest⟩ := List.pairwise_cons.1 hasc
    by_cases hj : j = k
    · subst hj
      have hnot : (j, v) ∉ rest := fun hmem => String.lt_irrefl j (hbefore (j, v) hmem)
      simp [lookup, hnot, eq_comm]
    · simp [lookup, hj, Ne.symm hj, ih hrest]

theorem keys_pairwise (d : Dict α) : d.keys.Pairwise (· < ·) :=
  List.pairwise_map.2 d.ascending

/-! ## Putting entries in -/

theorem putEntry_last {key : String} {value : α} {l : List (String × α)}
    (h : ∀ e ∈ l, e.1 < key) : putEntry key value l = l ++ [(key, value)] := by
  induction l with
  | nil => rfl
  | cons e rest ih =>
    obtain ⟨k, v⟩ := e
    have hk : k < key := h (k, v) (List.mem_cons_self ..)
    have hnot : ¬ key < k := fun hlt => String.lt_irrefl _ (String.lt_trans hk hlt)
    rw [putEntry, if_neg hnot, if_pos hk, ih fun e he => h e (List.mem_cons_of_mem _ he)]
    rfl

theorem insertAll_entries (d : Dict α) {l : List (String × α)} (h : Ascending (d.entries ++ l)) :
    (d.insertAll l).entries = d.entries ++ l := by
  unfold insertAll
  induction l generalizing d with
  | nil => simp
  | cons e rest ih =>
    have hlast : (d.insert e.1 e.2).entries = d.entries ++ [e] := by
      refine putEntry_last fun a ha => ?_
      exact (List.pairwise_append.1 h).2.2 a ha e (List.mem_cons_self ..)
    have hasc : Ascending ((d.insert e.1 e.2).entries ++ rest) := by
      rw [hlast, List.append_assoc]
      exact h
    rw [List.foldl_cons, ih _ hasc, hlast, List.append_assoc]
    rfl

/-- Ascending entries are put in as they are. -/
theorem ofList_entries {l : List (String × α)} (h : Ascending l) : (ofList l).entries = l :=
  insertAll_entries empty h

end Dict

end Gamebook
