-- Patterns of characters, which are matched by trying. A pattern may read a text in many ways, and
-- they are tried in an order: a greedy repetition tries to read more before it reads less, a lazy
-- one the other way round. The match of a text is the first way from the leftmost place from which
-- there is one.
import Gamebook.Text.Blank

namespace Gamebook.Text

/-! ## Patterns -/

inductive CharClass where
  | exactly (c : Char)
  /-- Every character but the line feed. -/
  | any
  | blank

def CharClass.holds : CharClass → Char → Bool
  | exactly c, d => d = c
  | any, d => d ≠ '\n'
  | blank, d => isBlank d

/-- A pattern in which only single characters are repeated. -/
inductive Pattern where
  /-- The start of the text. -/
  | start
  /-- The end of the text. -/
  | stop
  | one (k : CharClass)
  | many (greedy : Bool) (k : CharClass)
  | group (a : Pattern)
  | seq (a b : Pattern)

/-- One way to read a text: what is read, what is left, and what each group has read, in the order
in which the groups open. -/
structure Way where
  read : List Char
  rest : List Char
  groups : List (List Char) := []

namespace Way

/-- Nothing is read. -/
def idle (t : List Char) : Way := { read := [], rest := t }

def cons (c : Char) (w : Way) : Way := { w with read := c :: w.read }

/-- What is left by the first way is read in the second one. -/
def append (v w : Way) : Way :=
  { read := v.read ++ w.read, rest := w.rest, groups := v.groups ++ w.groups }

def grouped (w : Way) : Way := { w with groups := w.read :: w.groups }

@[simp] theorem idle_append (t : List Char) (w : Way) : (idle t).append w = w := rfl

end Way

/-- The ways to read any number of characters of a class, in the order in which they are tried. -/
def manyWays (greedy : Bool) (k : CharClass) : List Char → List Way
  | [] => [.idle []]
  | c :: t =>
    if k.holds c then
      let longer := (manyWays greedy k t).map (Way.cons c)
      if greedy then longer ++ [.idle (c :: t)] else .idle (c :: t) :: longer
    else [.idle (c :: t)]

namespace Pattern

/-- The ways to read a text from where one stands, in the order in which they are tried. -/
def ways : Pattern → (atStart : Bool) → List Char → List Way
  | start, atStart, t => if atStart then [.idle t] else []
  | stop, _, t => if t = [] then [.idle t] else []
  | one k, _, t =>
    match t with
    | [] => []
    | c :: t => if k.holds c then [{ read := [c], rest := t }] else []
  | many greedy k, _, t => manyWays greedy k t
  | group a, atStart, t => (a.ways atStart t).map Way.grouped
  | seq a b, atStart, t =>
    (a.ways atStart t).flatMap fun v =>
      (b.ways (atStart && v.read.isEmpty) v.rest).map v.append

/-- The first way from the leftmost place of a text from which there is one. -/
def first? (a : Pattern) : (atStart : Bool) → List Char → Option Way
  | atStart, [] => (a.ways atStart []).head?
  | atStart, c :: t => (a.ways atStart (c :: t)).head?.or (a.first? false t)

/-- What the groups have read in the match of a text. -/
def captures? (a : Pattern) (t : List Char) : Option (List (List Char)) :=
  (a.first? true t).map Way.groups

/-- A group of as few characters as possible, but one at least. -/
def fewest : Pattern := group (seq (one .any) (many false .any))

/-! ## Which ways there are -/

/-- Whether a way reads a text as the pattern says, in whichever order the ways are tried. -/
def Reads : Pattern → (atStart : Bool) → List Char → Way → Prop
  | start, atStart, t, w => atStart = true ∧ w = .idle t
  | stop, _, t, w => t = [] ∧ w = .idle t
  | one k, _, t, w => ∃ c r, t = c :: r ∧ k.holds c = true ∧ w = { read := [c], rest := r }
  | many _ k, _, t, w =>
    ∃ r u, t = r ++ u ∧ (∀ c ∈ r, k.holds c = true) ∧ w = { read := r, rest := u }
  | group a, atStart, t, w => ∃ v, a.Reads atStart t v ∧ w = v.grouped
  | seq a b, atStart, t, w =>
    ∃ v u, a.Reads atStart t v ∧ b.Reads (atStart && v.read.isEmpty) v.rest u ∧ w = v.append u

end Pattern

theorem mem_manyWays {greedy : Bool} {k : CharClass} {t : List Char} {w : Way} :
    w ∈ manyWays greedy k t ↔
      ∃ r u, t = r ++ u ∧ (∀ c ∈ r, k.holds c = true) ∧ w = { read := r, rest := u } := by
  induction t generalizing w with
  | nil =>
    rw [manyWays, List.mem_singleton]
    constructor
    · rintro rfl
      exact ⟨[], [], rfl, by simp, rfl⟩
    · rintro ⟨r, u, ht, -, rfl⟩
      obtain ⟨rfl, rfl⟩ := List.nil_eq_append_iff.mp ht
      rfl
  | cons c t ih =>
    have hidle : w = Way.idle (c :: t) →
        ∃ r u, c :: t = r ++ u ∧ (∀ d ∈ r, k.holds d = true) ∧ w = { read := r, rest := u } :=
      fun hw => ⟨[], c :: t, rfl, by simp, hw⟩
    by_cases hc : k.holds c = true
    · have hmem : w ∈ manyWays greedy k (c :: t) ↔
          w = Way.idle (c :: t) ∨ ∃ v ∈ manyWays greedy k t, v.cons c = w := by
        cases greedy <;> simp [manyWays, hc, or_comm]
      rw [hmem]
      constructor
      · rintro (hw | ⟨v, hv, rfl⟩)
        · exact hidle hw
        · obtain ⟨r, u, rfl, hr, rfl⟩ := ih.mp hv
          exact ⟨c :: r, u, rfl, List.forall_mem_cons.mpr ⟨hc, hr⟩, rfl⟩
      · rintro ⟨r, u, ht, hr, rfl⟩
        rcases r with _ | ⟨d, r⟩
        · exact Or.inl (by rw [ht]; rfl)
        · obtain ⟨rfl, rfl⟩ := List.cons.inj ht
          exact Or.inr ⟨_, ih.mpr ⟨r, u, rfl, (List.forall_mem_cons.mp hr).2, rfl⟩, rfl⟩
    · have hmem : w ∈ manyWays greedy k (c :: t) ↔ w = Way.idle (c :: t) := by
        simp [manyWays, hc]
      rw [hmem]
      refine ⟨hidle, ?_⟩
      rintro ⟨r, u, ht, hr, rfl⟩
      rcases r with _ | ⟨d, r⟩
      · rw [ht]
        rfl
      · obtain ⟨rfl, -⟩ := List.cons.inj ht
        exact absurd (hr c (List.mem_cons_self ..)) hc

namespace Pattern

/-- Every way that is tried reads as the pattern says, and every such way is tried. -/
theorem mem_ways {a : Pattern} {atStart : Bool} {t : List Char} {w : Way} :
    w ∈ a.ways atStart t ↔ a.Reads atStart t w := by
  induction a generalizing atStart t w with
  | start => cases atStart <;> simp [ways, Reads]
  | stop =>
    by_cases ht : t = []
    · simp [ways, Reads, ht]
    · simp [ways, Reads, ht]
  | one k =>
    rcases t with _ | ⟨c, t⟩
    · simp [ways, Reads]
    · constructor
      · intro hw
        simp only [ways, List.mem_ite_nil_right, List.mem_singleton] at hw
        exact ⟨c, t, rfl, hw⟩
      · rintro ⟨d, r, ht, hw⟩
        obtain ⟨rfl, rfl⟩ := List.cons.inj ht
        simpa only [ways, List.mem_ite_nil_right, List.mem_singleton] using hw
  | many greedy k => exact mem_manyWays
  | group a ih =>
    simp only [ways, Reads, List.mem_map, ih]
    exact exists_congr fun v => and_congr_right fun _ => eq_comm
  | seq a b iha ihb =>
    simp only [ways, Reads, List.mem_flatMap, List.mem_map, iha, ihb]
    constructor
    · rintro ⟨v, hv, u, hu, rfl⟩
      exact ⟨v, u, hv, hu, rfl⟩
    · rintro ⟨v, u, hv, hu, rfl⟩
      exact ⟨v, hv, u, hu, rfl⟩

namespace Reads

variable {b : Pattern} {k : CharClass} {atStart : Bool} {t : List Char} {w : Way}

theorem one_seq (h : (seq (one k) b).Reads atStart t w) :
    ∃ c u v, t = c :: u ∧ k.holds c = true ∧ b.Reads false u v := by
  obtain ⟨_, v, ⟨c, u, rfl, hc, rfl⟩, hv, -⟩ := h
  exact ⟨c, u, v, rfl, hc, by rwa [List.isEmpty_cons, Bool.and_false] at hv⟩

theorem many_seq {greedy : Bool} (h : (seq (many greedy k) b).Reads atStart t w) :
    ∃ r u v, t = r ++ u ∧ (∀ c ∈ r, k.holds c = true) ∧ ∃ atStart', b.Reads atStart' u v := by
  obtain ⟨_, v, ⟨r, u, rfl, hr, rfl⟩, hv, -⟩ := h
  exact ⟨r, u, v, rfl, hr, _, hv⟩

/-- Something is read before it goes on. -/
theorem fewest_seq (h : (seq fewest b).Reads atStart t w) :
    ∃ c r u v, t = c :: (r ++ u) ∧ b.Reads false u v := by
  obtain ⟨_, v, ⟨_, ⟨_, _, ⟨c, _, rfl, -, rfl⟩, ⟨r, u, hu, -, rfl⟩, rfl⟩, rfl⟩, hv, -⟩ := h
  refine ⟨c, r, u, v, by rw [← hu], ?_⟩
  have hread : (atStart && (c :: r).isEmpty) = false := by rw [List.isEmpty_cons, Bool.and_false]
  rw [← hread]
  exact hv

end Reads

/-- A single character has one way, if it has any. -/
theorem ways_one_seq {k : CharClass} {c : Char} (hc : k.holds c = true) (b : Pattern)
    (atStart : Bool) (t : List Char) :
    (seq (one k) b).ways atStart (c :: t) =
      (b.ways false t).map (Way.append { read := [c], rest := t }) := by
  simp [ways, hc]

theorem ways_one_seq_of_not {k : CharClass} {c : Char} (hc : k.holds c = false) (b : Pattern)
    (atStart : Bool) (t : List Char) : (seq (one k) b).ways atStart (c :: t) = [] := by
  simp [ways, hc]

/-! ## Which way is the first -/

/-- A pattern that begins at the start of the text is tried there only. -/
theorem first?_start_seq (a : Pattern) (t : List Char) :
    (seq start a).first? true t = (a.ways true t).head? := by
  have hstart (t : List Char) : (seq start a).ways true t = a.ways true t := by
    have hid : (Way.idle t).append = id := funext fun w => Way.idle_append t w
    have hidle : (seq start a).ways true t = (a.ways true t).map (Way.idle t).append := by
      simp [ways, Way.idle]
    rw [hidle, hid, List.map_id]
  have hlater (t : List Char) : (seq start a).first? false t = none := by
    induction t with
    | nil => rfl
    | cons c t ih => rw [first?, ih]; rfl
  rcases t with _ | ⟨c, t⟩
  · rw [first?, hstart]
  · rw [first?, hstart, hlater, Option.or_none]

end Pattern

variable {β : Type} {k : CharClass} {r u : List Char} {x : β}

/-- A lazy repetition is the shortest one from which it goes on. -/
theorem head?_manyWays_lazy {f : Way → List β} (hr : ∀ c ∈ r, k.holds c = true)
    (hskip : ∀ r₁ c r₂, r = r₁ ++ c :: r₂ → f { read := r₁, rest := c :: r₂ ++ u } = [])
    (hf : (f { read := r, rest := u }).head? = some x) :
    ((manyWays false k (r ++ u)).flatMap f).head? = some x := by
  induction r generalizing f with
  | nil =>
    -- The way that reads nothing is tried first, whatever follows.
    have hfirst : ∃ longer, manyWays false k ([] ++ u) = Way.idle u :: longer := by
      rcases u with _ | ⟨c, u⟩
      · exact ⟨[], rfl⟩
      · by_cases hc : k.holds c = true
        · exact ⟨_, by simp only [List.nil_append, manyWays, hc, if_true]; rfl⟩
        · exact ⟨[], by simp [manyWays, hc]⟩
    obtain ⟨longer, hlonger⟩ := hfirst
    have hidle : (f (Way.idle u)).head? = some x := hf
    rw [hlonger, List.flatMap_cons, List.head?_append, hidle, Option.some_or]
  | cons c r ih =>
    obtain ⟨hc, hr⟩ := List.forall_mem_cons.mp hr
    have hstep : manyWays false k (c :: r ++ u) =
        Way.idle (c :: (r ++ u)) :: (manyWays false k (r ++ u)).map (Way.cons c) := by
      simp [manyWays, hc]
    have hnone : f (Way.idle (c :: (r ++ u))) = [] := hskip [] c r rfl
    rw [hstep, List.flatMap_cons, hnone, List.nil_append, List.flatMap_map]
    refine ih hr ?_ hf
    intro r₁ d r₂ hsplit
    exact hskip (c :: r₁) d r₂ (by rw [hsplit, List.cons_append])

/-- A greedy repetition reads all there is of its class, if it goes on from there. -/
theorem head?_manyWays_greedy {f : Way → List β} (hr : ∀ c ∈ r, k.holds c = true)
    (hu : ∀ c ∈ u.head?, k.holds c = false) (hf : (f { read := r, rest := u }).head? = some x) :
    ((manyWays true k (r ++ u)).flatMap f).head? = some x := by
  induction r generalizing f with
  | nil =>
    have hall : manyWays true k ([] ++ u) = [Way.idle u] := by
      rcases u with _ | ⟨c, u⟩
      · rfl
      · simp [manyWays, hu c rfl]
    have hidle : (f (Way.idle u)).head? = some x := hf
    rw [hall, List.flatMap_singleton, hidle]
  | cons c r ih =>
    obtain ⟨hc, hr⟩ := List.forall_mem_cons.mp hr
    have hstep : manyWays true k (c :: r ++ u) =
        (manyWays true k (r ++ u)).map (Way.cons c) ++ [Way.idle (c :: (r ++ u))] := by
      simp [manyWays, hc]
    rw [hstep, List.flatMap_append, List.flatMap_map, List.head?_append, ih hr hf, Option.some_or]

namespace Pattern

/-- A group of as few characters as possible reads up to the first place from which it goes on. -/
theorem head?_fewest_seq {b : Pattern} {w : Way} (hne : r ≠ []) (hline : '\n' ∉ r)
    (hskip : ∀ r₁ c r₂, r = r₁ ++ c :: r₂ → r₁ ≠ [] → b.ways false (c :: r₂ ++ u) = [])
    (hb : (b.ways false u).head? = some w) :
    ((seq fewest b).ways false (r ++ u)).head? =
      some { read := r ++ w.read, rest := w.rest, groups := r :: w.groups } := by
  obtain ⟨c, r, rfl⟩ := List.exists_cons_of_ne_nil hne
  have hany : ∀ d ∈ c :: r, CharClass.any.holds d = true := by
    intro d hd
    simp only [CharClass.holds, decide_eq_true_eq]
    rintro rfl
    exact hline hd
  obtain ⟨hc, hr⟩ := List.forall_mem_cons.mp hany
  have hways : (seq fewest b).ways false (c :: r ++ u) =
      (manyWays false .any (r ++ u)).flatMap fun v =>
        (b.ways false v.rest).map (Way.append
          { read := c :: v.read, rest := v.rest, groups := (c :: v.read) :: v.groups }) := by
    simp [fewest, ways, hc, List.flatMap_map, Way.append, Way.grouped]
  rw [hways]
  refine head?_manyWays_lazy hr ?_ ?_
  · intro r₁ d r₂ hsplit
    have hnone := hskip (c :: r₁) d r₂ (by rw [hsplit, List.cons_append]) (List.cons_ne_nil _ _)
    simp only [hnone, List.map_nil]
  · rw [List.head?_map, hb]
    rfl

end Pattern

end Gamebook.Text
