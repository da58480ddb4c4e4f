-- The stored forms of typed slots. A value reads back from its stored form, and at a kind without
-- floating-point numbers nothing else reads at all: so a slot gives back what was written to it,
-- and a form that is none of the kind's is refused.
import Gamebook.Proofs.SlotRuns
import Mathlib.Data.List.Forall2

namespace Gamebook

/-! ## Documents that are stored as they are -/

namespace Value

mutual

/-- The floating-point numbers in it are of some sort, and the fields of every object ascend. -/
def Tidy (sort : Binary64 → Prop) : Value → Prop
  | .float x => sort x
  | .list items => TidyItems sort items
  | .object fields => Ascending fields ∧ TidyFields sort fields
  | _ => True

def TidyItems (sort : Binary64 → Prop) : List Value → Prop
  | [] => True
  | v :: vs => v.Tidy sort ∧ TidyItems sort vs

def TidyFields (sort : Binary64 → Prop) : List (String × Value) → Prop
  | [] => True
  | (_, v) :: fields => v.Tidy sort ∧ TidyFields sort fields

end

/-- No number in it is infinite or NaN. -/
def Storable (v : Value) : Prop := v.Tidy fun x => x.isFinite = true

theorem tidyItems_iff (sort : Binary64 → Prop) (items : List Value) :
    TidyItems sort items ↔ ∀ v ∈ items, v.Tidy sort := by
  induction items with
  | nil => simp [TidyItems]
  | cons v vs ih => simp [TidyItems, ih]

theorem tidyFields_iff (sort : Binary64 → Prop) (fields : List (String × Value)) :
    TidyFields sort fields ↔ ∀ e ∈ fields, e.2.Tidy sort := by
  induction fields with
  | nil => simp [TidyFields]
  | cons e fields ih =>
    obtain ⟨name, v⟩ := e
    simp [TidyFields, ih]

theorem storedFields_eq_map (fields : List (String × Value)) :
    storedFields fields = fields.map fun e => (e.1, e.2.stored) := by
  induction fields with
  | nil => simp [storedFields]
  | cons e fields ih =>
    obtain ⟨name, v⟩ := e
    simp [storedFields, ih]

mutual

/-- Storing changes nothing but numbers that are not finite. -/
theorem stored_of_storable : (v : Value) → v.Storable → v.stored = v
  | .null, _ => rfl
  | .bool _, _ => rfl
  | .int _, _ => rfl
  | .float _, h => if_pos h
  | .str _, _ => rfl
  | .list items, h => congrArg Value.list (storedItems_of_storable items h)
  | .object fields, h => congrArg Value.object (storedFields_of_storable fields h.2)

theorem storedItems_of_storable :
    (items : List Value) → TidyItems (fun x => x.isFinite = true) items →
      storedItems items = items
  | [], _ => rfl
  | v :: vs, h =>
    congrArg₂ List.cons (stored_of_storable v h.1) (storedItems_of_storable vs h.2)

theorem storedFields_of_storable :
    (fields : List (String × Value)) → TidyFields (fun x => x.isFinite = true) fields →
      storedFields fields = fields
  | [], _ => rfl
  | (name, v) :: fields, h =>
    congrArg₂ (fun w rest => (name, w) :: rest) (stored_of_storable v h.1)
      (storedFields_of_storable fields h.2)

end

mutual

theorem storable_stored : (v : Value) → v.Tidy (fun _ => True) → v.stored.Storable
  | .null, _ => trivial
  | .bool _, _ => trivial
  | .int _, _ => trivial
  | .float x, _ => by
    unfold stored Storable
    split
    · assumption
    · trivial
  | .str _, _ => trivial
  | .list items, h => storableItems_stored items h
  | .object fields, h => by
    refine ⟨?_, storableFields_stored fields h.2⟩
    rw [storedFields_eq_map]
    exact (ascending_map_iff stored fields).mpr h.1

theorem storableItems_stored :
    (items : List Value) → TidyItems (fun _ => True) items →
      TidyItems (fun x => x.isFinite = true) (storedItems items)
  | [], _ => trivial
  | v :: vs, h => ⟨storable_stored v h.1, storableItems_stored vs h.2⟩

theorem storableFields_stored :
    (fields : List (String × Value)) → TidyFields (fun _ => True) fields →
      TidyFields (fun x => x.isFinite = true) (storedFields fields)
  | [], _ => trivial
  | (_, v) :: fields, h => ⟨storable_stored v h.1, storableFields_stored fields h.2⟩

end

end Value

/-! ## Kinds without loss -/

namespace Kind

/-- The kinds without parts that a kind is made of. -/
def leaves : Kind → List Kind
  | .list k => k.leaves
  | .option k => k.leaves
  | .pair a b => a.leaves ++ b.leaves
  | .table k => k.leaves
  | k => [k]

/-- Whether null is the document of a value of the kind. -/
def holdsNull : Kind → Bool
  | .unit => true
  | .value => true
  | .option _ => true
  | _ => false

/-- No option is over a kind with null, where null would be two values. -/
def unambiguous : Kind → Bool
  | .list k => k.unambiguous
  | .option k => !k.holdsNull && k.unambiguous
  | .pair a b => a.unambiguous && b.unambiguous
  | .table k => k.unambiguous
  | _ => true

/-- Each value has a form of its own, which only it reads from. Floating-point numbers do not, as
they read from integers too. -/
def Exact (k : Kind) : Prop := k.unambiguous = true ∧ Kind.float ∉ k.leaves

instance : DecidablePred Exact := fun _ => inferInstanceAs (Decidable (_ ∧ _))

/-- Its document is stored as it is. -/
def Storable (k : Kind) (x : k.Carrier) : Prop := (k.toValue x).Storable

theorem encode_of_storable {k : Kind} {x : k.Carrier} (h : k.Storable x) :
    k.encode x = k.toValue x := Value.stored_of_storable _ h

theorem tidy_toValue (sort : Binary64 → Prop) (k : Kind) (hvalue : Kind.value ∉ k.leaves)
    (hfloat : Kind.float ∈ k.leaves → ∀ x, sort x) (x : k.Carrier) : (k.toValue x).Tidy sort := by
  induction k with
  | bool => trivial
  | int w => trivial
  | float => exact hfloat (List.mem_singleton_self _) x
  | string => trivial
  | unit => trivial
  | value => exact absurd (List.mem_singleton_self _) hvalue
  | list k ih =>
    refine (Value.tidyItems_iff _ _).mpr fun v hv => ?_
    obtain ⟨y, -, rfl⟩ := List.mem_map.mp hv
    exact ih hvalue hfloat y
  | option k ih =>
    rcases x with _ | y
    · trivial
    · exact ih hvalue hfloat y
  | pair a b iha ihb =>
    simp only [leaves, List.mem_append, not_or] at hvalue hfloat
    exact ⟨iha hvalue.1 (fun h => hfloat (Or.inl h)) x.1,
      ihb hvalue.2 (fun h => hfloat (Or.inr h)) x.2, trivial⟩
  | table k ih =>
    refine ⟨(ascending_map_iff k.toValue _).mpr x.ascending,
      (Value.tidyFields_iff _ _).mpr fun e he => ?_⟩
    obtain ⟨f, -, rfl⟩ := List.mem_map.mp he
    exact ih hvalue hfloat f.2

/-- Whatever is written at a kind without raw documents leaves a document that stays as it is. -/
theorem storable_encode {k : Kind} (hvalue : Kind.value ∉ k.leaves) (x : k.Carrier) :
    (k.encode x).Storable :=
  Value.storable_stored _ (tidy_toValue _ k hvalue (fun _ _ => trivial) x)

theorem storable_of_exact {k : Kind} (hk : k.Exact) (hvalue : Kind.value ∉ k.leaves)
    (x : k.Carrier) : k.Storable x :=
  tidy_toValue _ k hvalue (fun h => absurd h hk.2) x

/-! ## Reading what was written -/

theorem bind_eq_ok_iff {ε α β : Type} {r : Except ε α} {f : α → Except ε β} {y : β} :
    (r >>= f) = .ok y ↔ ∃ x, r = .ok x ∧ f x = .ok y := by
  rcases r with e | x
  · exact iff_of_false nofun fun ⟨_, h, _⟩ => nomatch h
  · constructor
    · intro h
      exact ⟨x, rfl, h⟩
    · rintro ⟨_, ⟨⟩, h⟩
      exact h

/-- The items are read one by one. -/
theorem readAll_eq_ok_iff {α : Type} {read : Value → Except Mismatch α} {vs : List Value}
    {xs : List α} :
    readAll read vs = .ok xs ↔ List.Forall₂ (fun v x => read v = .ok x) vs xs := by
  induction vs generalizing xs with
  | nil =>
    rw [List.forall₂_nil_left_iff]
    simp only [readAll, Except.ok.injEq, eq_comm]
  | cons v vs ih =>
    rw [readAll, bind_eq_ok_iff, List.forall₂_cons_left_iff]
    constructor
    · rintro ⟨x, hx, hrest⟩
      obtain ⟨ys, hys, ⟨⟩⟩ := bind_eq_ok_iff.mp hrest
      exact ⟨x, ys, hx, ih.mp hys, rfl⟩
    · rintro ⟨x, ys, hx, hys, rfl⟩
      exact ⟨x, hx, bind_eq_ok_iff.mpr ⟨ys, ih.mpr hys, rfl⟩⟩

/-- So are the fields, and their names stay. -/
theorem readFields_eq_ok_iff {α : Type} {read : Value → Except Mismatch α}
    {fields : List (String × Value)} {es : List (String × α)} :
    readFields read fields = .ok es ↔
      List.Forall₂ (fun f e => f.1 = e.1 ∧ read f.2 = .ok e.2) fields es := by
  induction fields generalizing es with
  | nil =>
    rw [List.forall₂_nil_left_iff]
    simp only [readFields, Except.ok.injEq, eq_comm]
  | cons f fields ih =>
    obtain ⟨name, v⟩ := f
    rw [readFields, bind_eq_ok_iff, List.forall₂_cons_left_iff]
    constructor
    · rintro ⟨x, hx, hrest⟩
      obtain ⟨ds, hds, ⟨⟩⟩ := bind_eq_ok_iff.mp hrest
      exact ⟨(name, x), ds, ⟨rfl, hx⟩, ih.mp hds, rfl⟩
    · rintro ⟨⟨_, x⟩, ds, ⟨⟨⟩, hx⟩, hds, rfl⟩
      exact ⟨x, hx, bind_eq_ok_iff.mpr ⟨ds, ih.mpr hds, rfl⟩⟩

/-- A pair is read from a list of two items. -/
theorem readPair_eq_ok_iff {α β : Type} {first : Value → Except Mismatch α}
    {second : Value → Except Mismatch β} {vs : List Value} {p : α × β} :
    readPair first second vs = .ok p ↔
      ∃ v w, vs = [v, w] ∧ first v = .ok p.1 ∧ second w = .ok p.2 := by
  constructor
  · intro h
    rcases vs with _ | ⟨v, vs⟩
    · cases h
    obtain ⟨x, hx, h⟩ := bind_eq_ok_iff.mp h
    rcases vs with _ | ⟨w, ws⟩
    · cases h
    obtain ⟨y, hy, h⟩ := bind_eq_ok_iff.mp h
    rcases ws with _ | ⟨u, us⟩
    · cases h
      exact ⟨v, w, rfl, hx, hy⟩
    · cases h
  · rintro ⟨v, w, rfl, hx, hy⟩
    simp only [readPair, hx, hy]
    rfl

theorem toValue_ne_null {k : Kind} (h : k.holdsNull = false) (x : k.Carrier) :
    k.toValue x ≠ .null := by
  cases k with
  | unit => cases h
  | value => cases h
  | option k => cases h
  | _ => exact nofun

theorem decode_option {k : Kind} {v : Value} (h : v ≠ .null) :
    (Kind.option k).decode v = (k.decode v).map some := by
  cases v with
  | null => exact absurd rfl h
  | _ => rfl

theorem decode_toValue {k : Kind} (hk : k.unambiguous = true) (x : k.Carrier) :
    k.decode (k.toValue x) = .ok x := by
  induction k with
  | bool => rfl
  | int w => exact dif_pos x.2
  | float => rfl
  | string => rfl
  | unit => rfl
  | value => rfl
  | list k ih =>
    refine readAll_eq_ok_iff.mpr (List.forall₂_map_left_iff.mpr ?_)
    exact List.forall₂_same.mpr fun y _ => ih hk y
  | option k ih =>
    rcases x with _ | y
    · rfl
    · simp only [unambiguous, Bool.and_eq_true, Bool.not_eq_true'] at hk
      have hne : k.toValue y ≠ .null := toValue_ne_null hk.1 y
      calc (Kind.option k).decode (k.toValue y) = (k.decode (k.toValue y)).map some :=
            decode_option hne
        _ = .ok (some y) := by rw [ih hk.2 y]; rfl
  | pair a b iha ihb =>
    simp only [unambiguous, Bool.and_eq_true] at hk
    exact readPair_eq_ok_iff.mpr ⟨a.toValue x.1, b.toValue x.2, rfl, iha hk.1 x.1, ihb hk.2 x.2⟩
  | table k ih =>
    have hread : readFields k.decode (x.entries.map fun e => (e.1, k.toValue e.2)) =
        .ok x.entries := by
      refine readFields_eq_ok_iff.mpr (List.forall₂_map_left_iff.mpr ?_)
      exact List.forall₂_same.mpr fun e _ => ⟨rfl, ih hk e.2⟩
    have hback : Dict.ofList x.entries = x := Dict.ext (Dict.ofList_entries x.ascending)
    simp only [toValue, decode, hread, Except.map, hback]

/-! ## Writing what was read -/

theorem eq_map_iff {α β : Type} (f : β → α) (l : List α) (u : List β) :
    l = u.map f ↔ List.Forall₂ (fun a b => a = f b) l u := by
  rw [← List.forall₂_map_right_iff, List.forall₂_eq_eq_eq]

theorem toValue_of_decode {k : Kind} (hk : Kind.float ∉ k.leaves) {v : Value} (hv : v.Storable)
    {x : k.Carrier} (h : k.decode v = .ok x) : k.toValue x = v := by
  induction k generalizing v with
  | bool =>
    cases v with
    | bool b =>
      cases h
      rfl
    | _ => cases h
  | int w =>
    cases v with
    | int n =>
      simp only [decode] at h
      split at h
      · cases h
        rfl
      · cases h
    | _ => cases h
  | float => exact absurd (List.mem_singleton_self _) hk
  | string =>
    cases v with
    | str s =>
      cases h
      rfl
    | _ => cases h
  | unit =>
    cases v with
    | null => rfl
    | _ => cases h
  | value =>
    cases h
    rfl
  | list k ih =>
    cases v with
    | list vs =>
      have hvs := (Value.tidyItems_iff _ _).mp hv
      have hitems := (List.forall₂_and_left _ _).mpr ⟨hvs, readAll_eq_ok_iff.mp h⟩
      have hmap : vs = x.map k.toValue :=
        (eq_map_iff _ _ _).mpr (hitems.imp fun _ _ hw => (ih hk hw.1 hw.2).symm)
      exact congrArg Value.list hmap.symm
    | _ => cases h
  | option k ih =>
    by_cases hnull : v = .null
    · subst hnull
      cases h
      rfl
    · rw [decode_option hnull] at h
      rcases hy : k.decode v with e | y
      · rw [hy] at h
        cases h
      · rw [hy] at h
        cases h
        exact ih hk hv hy
  | pair a b iha ihb =>
    simp only [leaves, List.mem_append, not_or] at hk
    cases v with
    | list vs =>
      obtain ⟨u, w, rfl, hu, hw⟩ := readPair_eq_ok_iff.mp h
      obtain ⟨hu', hw', -⟩ := hv
      have hx : (Kind.pair a b).toValue x = .list [a.toValue x.1, b.toValue x.2] := rfl
      rw [hx, iha hk.1 hu' hu, ihb hk.2 hw' hw]
    | _ => cases h
  | table k ih =>
    cases v with
    | object fields =>
      rcases hes : readFields k.decode fields with e | es
      · simp only [decode, hes] at h
        cases h
      have hfields := (Value.tidyFields_iff _ _).mp hv.2
      have hread := (List.forall₂_and_left _ _).mpr ⟨hfields, readFields_eq_ok_iff.mp hes⟩
      have hmap : fields = es.map fun e => (e.1, k.toValue e.2) := by
        refine (eq_map_iff _ _ _).mpr (hread.imp fun f e hf => ?_)
        obtain ⟨htidy, hname, he⟩ := hf
        exact Prod.ext hname (ih hk htidy he).symm
      have hasc : Ascending es := by
        rw [← ascending_map_iff k.toValue, ← hmap]
        exact hv.1
      have hx : x.entries = es := by
        simp only [decode, hes] at h
        cases h
        exact Dict.ofList_entries hasc
      have hvalue : (Kind.table k).toValue x =
          .object (x.entries.map fun e => (e.1, k.toValue e.2)) := rfl
      rw [hvalue, hx, ← hmap]
    | _ => cases h

/-- A document reads as the value whose stored form it is, and as no other. -/
theorem decode_eq_ok_iff {k : Kind} (hk : k.Exact) {v : Value} (hv : v.Storable) (x : k.Carrier) :
    k.decode v = .ok x ↔ k.Storable x ∧ v = k.encode x := by
  constructor
  · intro h
    have hx : k.toValue x = v := toValue_of_decode hk.2 hv h
    have hstorable : k.Storable x := by
      unfold Storable
      rwa [hx]
    exact ⟨hstorable, by rw [encode_of_storable hstorable, hx]⟩
  · rintro ⟨hx, rfl⟩
    rw [encode_of_storable hx]
    exact decode_toValue hk.1 x

/-- The kinds without floating-point numbers that slots are declared with. -/
def exactKinds : List Kind :=
  [.bool, .int .signed64, .int .unsigned8, .int .unsigned32, .int .unsigned64, .string, .unit,
    .list (.int .signed64), .list .string, .list (.option .bool), .option (.int .signed64),
    .pair (.int .signed64) .string, .table (.int .signed64), .value]

end Kind

/-! ## Slots of a kind -/

namespace Environment

open EnvCall

variable {env : Environment} {name : String} {k : Kind} {x y : k.Carrier} {v : Value}

theorem set_of_reads (h : k.decode (k.encode x) = .ok y) (env : Environment) (name : String) :
    env.set name k x = (.ok (), ⟨env.slots.insert name (k.encode x)⟩) := by
  simp only [set, store, h]

theorem get_of_reads (h : k.decode (k.encode x) = .ok y) (hempty : env.slots.get? name = none) :
    env.get name k x = (.ok x, ⟨env.slots.insert name (k.encode x)⟩) := by
  simp only [get, hempty, store, h]

theorem getRequired_held (h : env.slots.get? name = some v) (k : Kind) :
    env.getRequired name k = recover name k v := by
  simp only [getRequired, h]

theorem recover_eq_ok_iff (name : String) (v : Value) (x : k.Carrier) :
    recover name k v = .ok x ↔ k.decode v = .ok x := by
  unfold recover
  rcases k.decode v with reason | y
  · simp
  · simp

theorem recover_mismatch (h : ∀ x, k.decode v ≠ .ok x) (name : String) :
    ∃ reason, recover name k v = .error (.slotType name reason) := by
  unfold recover
  rcases hv : k.decode v with reason | x
  · exact ⟨reason, rfl⟩
  · exact absurd hv (h x)

theorem get?_set (h : (env.set name k x).1 = .ok ()) :
    (env.set name k x).2.slots.get? name = some (k.encode x) := by
  rcases set_cases env name k x with hset | ⟨reason, hset⟩
  · rw [hset]
    simp only
    rw [Dict.get?_insert, if_pos rfl]
  · rw [hset] at h
    cases h

theorem set_of_storable (hk : k.Exact) (hx : k.Storable x) (env : Environment) (name : String) :
    (env.set name k x).1 = .ok () := by
  have hread : k.decode (k.encode x) = .ok x := by
    rw [Kind.encode_of_storable hx]
    exact Kind.decode_toValue hk.1 x
  rw [set_of_reads hread]

theorem getRequired_eq_ok_iff (hk : k.Exact) (hheld : env.slots.get? name = some v)
    (hv : v.Storable) (u : k.Carrier) :
    env.getRequired name k = .ok u ↔ k.Storable u ∧ v = k.encode u := by
  rw [getRequired_held hheld, recover_eq_ok_iff, Kind.decode_eq_ok_iff hk hv]

/-- Calls that only offer storable forms leave nothing else in a new environment. -/
theorem storable_of_held {cs : List EnvCall} (h : ∀ c ∈ cs, ∀ e ∈ c.offer?, e.2.Storable)
    {e : String × Value} (he : e ∈ (empty.after cs).snapshot) : e.2.Storable := by
  rw [mem_snapshot_iff, holds_after] at he
  obtain ⟨before, c, rest, rfl, hfills, -⟩ := he
  exact h c (by simp) e hfills.offers

/-! ## The law -/

/-- At a kind whose values have forms of their own, a slot gives back what was written to it; what
it holds is read as the value whose form it is, whatever kind it was written at, and refused if it
is the form of none. So an integer is read at another range only as itself. -/
theorem a_slot_neither_loses_nor_invents :
    (∀ k ∈ Kind.exactKinds, k.Exact ∧ (k = .value ∨ ∀ x, k.Storable x)) ∧
    (∀ (k : Kind) (env : Environment) (name : String), k.Exact →
      (∀ x, k.Storable x →
        (env.set name k x).1 = .ok () ∧ (env.set name k x).2.getRequired name k = .ok x) ∧
      (∀ v, (name, v) ∈ env.snapshot → v.Storable →
        (∀ u, env.getRequired name k = .ok u ↔ k.Storable u ∧ v = k.encode u) ∧
        ((∀ u, k.Storable u → v ≠ k.encode u) →
          ∃ reason, env.getRequired name k = .error (.slotType name reason))) ∧
      ∀ (j : Kind) (x : j.Carrier), (env.set name j x).1 = .ok () → (j.encode x).Storable →
        ∀ u, (env.set name j x).2.getRequired name k = .ok u ↔
          k.Storable u ∧ j.encode x = k.encode u) ∧
    (∀ (r q : IntRange) (env : Environment) (name : String) (m : (Kind.int r).Carrier)
      (n : (Kind.int q).Carrier),
      (env.set name (.int r) m).2.getRequired name (.int q) = .ok n ↔ n.1 = m.1) ∧
    (∀ (k : Kind) (x : k.Carrier), Kind.value ∉ k.leaves → (k.encode x).Storable) ∧
    ∀ cs : List EnvCall, (∀ c ∈ cs, ∀ e ∈ c.offer?, e.2.Storable) →
      ∀ e ∈ (empty.after cs).snapshot, e.2.Storable := by
  refine ⟨?_, ?_, ?_, fun k x hvalue => Kind.storable_encode hvalue x,
    fun cs h e he => storable_of_held h he⟩
  · have hkinds : ∀ k ∈ Kind.exactKinds, k.Exact ∧ (k = .value ∨ Kind.value ∉ k.leaves) := by
      decide
    intro k hk
    obtain ⟨hexact, hvalue⟩ := hkinds k hk
    exact ⟨hexact, hvalue.imp_right fun h => Kind.storable_of_exact hexact h⟩
  · intro k env name hk
    refine ⟨fun x hx => ?_, fun v hv hstorable => ?_, fun j x hset hstorable => ?_⟩
    · have hset := set_of_storable hk hx env name
      have hform : (k.encode x).Storable := by
        rw [Kind.encode_of_storable hx]
        exact hx
      exact ⟨hset, (getRequired_eq_ok_iff hk (get?_set hset) hform x).mpr ⟨hx, rfl⟩⟩
    · rw [mem_snapshot_iff] at hv
      refine ⟨getRequired_eq_ok_iff hk hv hstorable, fun hnone => ?_⟩
      rw [getRequired_held hv]
      refine recover_mismatch (fun u hu => ?_) name
      obtain ⟨hu, hform⟩ := (Kind.decode_eq_ok_iff hk hstorable u).mp hu
      exact hnone u hu hform
    · exact getRequired_eq_ok_iff hk (get?_set hset) hstorable
  · intro r q env name m n
    have hexact : ∀ w, (Kind.int w).Exact := by
      intro w
      cases w with
      | _ => decide
    have hset : (env.set name (.int r) m).1 = .ok () :=
      set_of_storable (hexact r) trivial env name
    rw [getRequired_eq_ok_iff (hexact q) (get?_set hset) trivial n]
    constructor
    · rintro ⟨-, hform⟩
      exact (Value.int.inj hform).symm
    · intro h
      refine ⟨trivial, ?_⟩
      exact congrArg Value.int h.symm

/-- The largest integer of a slot, and a list whose second item is none. -/
def filledSlots : Environment :=
  let counted := (empty.set "count" (.int .unsigned64) ⟨0xffffffffffffffff, by decide⟩).2
  (counted.set "doors" (.list (.option .bool)) [some true, none]).2

theorem a_large_count_is_read_at_its_own_range_only :
    filledSlots.getRequired "count" (.int .unsigned64) = .ok ⟨0xffffffffffffffff, by decide⟩ ∧
    (∃ reason, filledSlots.getRequired "count" (.int .signed64) =
      .error (.slotType "count" reason)) ∧
    filledSlots.getRequired "doors" (.list (.option .bool)) = .ok [some true, none] ∧
    filledSlots.getRequired "doors" .value = .ok (.list [.bool true, .null]) ∧
    ∃ reason, filledSlots.getRequired "doors" (.list .string) =
      .error (.slotType "doors" reason) := by
  obtain ⟨hkinds, hslots, -⟩ := a_slot_neither_loses_nor_invents
  have hsnapshot : filledSlots.snapshot =
      [("count", .int 0xffffffffffffffff), ("doors", .list [.bool true, .null])] := by rfl
  have hcount : ("count", .int 0xffffffffffffffff) ∈ filledSlots.snapshot := by simp [hsnapshot]
  have hdoors : ("doors", .list [.bool true, .null]) ∈ filledSlots.snapshot := by simp [hsnapshot]
  have hform : Value.Storable (.list [.bool true, .null]) := ⟨trivial, trivial, trivial⟩
  have hreads : ∀ k ∈ Kind.exactKinds, ∀ name v, (name, v) ∈ filledSlots.snapshot → v.Storable →
      (∀ u, filledSlots.getRequired name k = .ok u ↔ k.Storable u ∧ v = k.encode u) ∧
        ((∀ u, k.Storable u → v ≠ k.encode u) →
          ∃ reason, filledSlots.getRequired name k = .error (.slotType name reason)) :=
    fun k hk name => (hslots k filledSlots name (hkinds k hk).1).2.1
  refine ⟨?_, ?_, ?_, ?_, ?_⟩
  · exact ((hreads (.int .unsigned64) (by decide) _ _ hcount trivial).1 _).mpr ⟨trivial, rfl⟩
  · refine (hreads (.int .signed64) (by decide) _ _ hcount trivial).2 fun u _ h => ?_
    have hu : 0xffffffffffffffff = u.1 := Value.int.inj h
    have hfits : u.1 ≤ 0x7fffffffffffffff := u.2.2
    omega
  · exact ((hreads (.list (.option .bool)) (by decide) _ _ hdoors hform).1 _).mpr ⟨hform, rfl⟩
  · exact ((hreads .value (by decide) _ _ hdoors hform).1 _).mpr ⟨hform, rfl⟩
  · refine (hreads (.list .string) (by decide) _ _ hdoors hform).2 fun u _ h => ?_
    rcases u with _ | ⟨s, _⟩
    · cases h
    · cases h

end Environment

end Gamebook
