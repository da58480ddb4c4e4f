-- Slots with floating-point numbers. A number that is not finite has no stored form of its own: a
-- write of one is refused, alone or in a list. Only an optional number that is not finite is
-- taken, and reads back as none.
import Gamebook.Proofs.SlotForms

namespace Gamebook.Environment

open EnvCall

variable {env : Environment} {name : String} {k : Kind} {x y : k.Carrier} {v : Value}

/-! ## Taken and refused -/

/-- Every read of the slot at the kind gives the value, now and after any calls that neither fill
nor empty the slot. -/
def KeepsReading (env : Environment) (name : String) (k : Kind) (x : k.Carrier) : Prop :=
  ∀ cs, Spares name env cs →
    (env.after cs).getRequired name k = .ok x ∧
      (∀ default, ((env.after cs).get name k default).1 = .ok x) ∧
      ∀ slot : Slot k, slot.name = name → (slot.get (env.after cs)).1 = .ok x

/-- A write of `x` is carried out, and so is a read of the empty slot with `x` as its default. From
then on the slot reads as `y`. -/
def Takes (env : Environment) (name : String) (k : Kind) (x y : k.Carrier) : Prop :=
  (env.set name k x).1 = .ok () ∧ KeepsReading (env.set name k x).2 name k y ∧
    (env.contains name = false →
      (env.get name k x).1 = .ok x ∧ KeepsReading (env.get name k x).2 name k y)

/-- Neither of the two is carried out, and nothing changes. -/
def Refuses (env : Environment) (name : String) (k : Kind) (x : k.Carrier) : Prop :=
  (∃ reason, env.set name k x = (.error (.unstorable name reason), env)) ∧
    (env.contains name = false →
      ∃ reason, env.get name k x = (.error (.unstorable name reason), env))

theorem get?_eq_none_iff (env : Environment) (name : String) :
    env.slots.get? name = none ↔ env.contains name = false := by
  unfold contains Dict.contains
  rw [Option.isSome_eq_false_iff, Option.isNone_iff_eq_none]

theorem keepsReading_of_held (h : env.slots.get? name = some v) (hv : k.decode v = .ok x) :
    KeepsReading env name k x := by
  intro cs hspares
  have hheld : (env.after cs).slots.get? name = some v := hspares.get?_after.trans h
  have hrecover : recover name k v = .ok x := (recover_eq_ok_iff name v x).mpr hv
  have hrequired : (env.after cs).getRequired name k = .ok x := by
    rw [getRequired_held hheld, hrecover]
  have hget : ∀ default, ((env.after cs).get name k default).1 = .ok x := by
    intro default
    rw [get_filled hheld, hrecover]
  refine ⟨hrequired, hget, ?_⟩
  rintro ⟨slotName, _ | default⟩ rfl
  · exact hrequired
  · exact hget default

/-- What has a form that reads is taken, and reads as its form does. -/
theorem takes_of_reads (h : k.decode (k.encode x) = .ok y) (env : Environment) (name : String) :
    Takes env name k x y := by
  have hheld : (env.slots.insert name (k.encode x)).get? name = some (k.encode x) := by
    rw [Dict.get?_insert, if_pos rfl]
  refine ⟨?_, ?_, fun hempty => ⟨?_, ?_⟩⟩
  · rw [set_of_reads h]
  · rw [set_of_reads h]
    exact keepsReading_of_held hheld h
  · rw [get_of_reads h ((get?_eq_none_iff _ _).mpr hempty)]
  · rw [get_of_reads h ((get?_eq_none_iff _ _).mpr hempty)]
    exact keepsReading_of_held hheld h

/-- What has a form that does not read is refused. -/
theorem refuses_of_mismatch (h : ∀ y, k.decode (k.encode x) ≠ .ok y) (env : Environment)
    (name : String) : Refuses env name k x := by
  rcases hx : k.decode (k.encode x) with reason | y
  · refine ⟨⟨reason, ?_⟩, fun hempty => ⟨reason, ?_⟩⟩
    · simp only [set, store, hx]
    · rw [← get?_eq_none_iff] at hempty
      simp only [get, hempty, store, hx]
  · exact absurd hx (h y)

/-! ## Finite numbers -/

theorem storable_float (x : Binary64) : Kind.float.Storable x ↔ x.isFinite = true := Iff.rfl

theorem storable_floats (xs : List Binary64) :
    (Kind.list .float).Storable xs ↔ ∀ x ∈ xs, x.isFinite = true := by
  have hlist : (Kind.list .float).Storable xs ↔
      ∀ v ∈ xs.map Kind.float.toValue, v.Storable := Value.tidyItems_iff _ _
  rw [hlist, List.forall_mem_map]
  rfl

theorem storable_optional (x : Option Binary64) :
    (Kind.option .float).Storable x ↔ ∀ y ∈ x, y.isFinite = true := by
  rcases x with _ | y
  · exact iff_of_true trivial fun _ h => nomatch h
  · simp only [Option.mem_def, Option.some.injEq, forall_eq']
    rfl

theorem encode_of_not_finite {x : Binary64} (h : ¬ x.isFinite = true) :
    Kind.float.encode x = .null := if_neg h

theorem float_mismatch {x : Binary64} (h : ¬ x.isFinite = true) (y : Binary64) :
    Kind.float.decode (Kind.float.encode x) ≠ .ok y := by
  rw [encode_of_not_finite h]
  exact nofun

theorem floats_mismatch {xs : List Binary64} (h : ¬ (Kind.list .float).Storable xs)
    (ys : List Binary64) :
    (Kind.list .float).decode ((Kind.list .float).encode xs) ≠ .ok ys := by
  intro hread
  have hform : (Kind.list .float).encode xs = .list (xs.map Kind.float.encode) := by
    have hitems := Value.storedItems_eq_map (xs.map Kind.float.toValue)
    rw [List.map_map] at hitems
    exact congrArg Value.list hitems
  rw [hform] at hread
  have hitems := List.forall₂_map_left_iff.mp (Kind.readAll_eq_ok_iff.mp hread)
  have hfinite : List.Forall₂ (fun x _ => x.isFinite = true ∧ True) xs ys := by
    refine hitems.imp fun x y hy => ⟨?_, trivial⟩
    by_contra hx
    exact float_mismatch hx y hy
  exact h ((storable_floats xs).mpr ((List.forall₂_and_left _ _).mp hfinite).1)

/-! ## The law -/

/-- The kinds with floating-point numbers that slots are declared with. -/
def floatKinds : List Kind := [.float, .list .float, .option .float]

/-- Finite numbers are taken and read back with every bit, until the slot is filled anew or
emptied. Other numbers are refused alone and in a list, but an optional one is taken and reads back
as none. -/
theorem a_float_slot_keeps_finite_numbers_and_loses_optional_others (env : Environment)
    (name : String) :
    (∀ k ∈ floatKinds, ∀ x, k.Storable x → Takes env name k x x) ∧
    (∀ x, ¬ Kind.float.Storable x → Refuses env name .float x) ∧
    (∀ xs, ¬ (Kind.list .float).Storable xs → Refuses env name (.list .float) xs) ∧
    (∀ x, ¬ (Kind.option .float).Storable x → Takes env name (.option .float) x none) ∧
    (∀ x, Kind.float.Storable x ↔ x.isFinite = true) ∧
    (∀ xs, (Kind.list .float).Storable xs ↔ ∀ x ∈ xs, x.isFinite = true) ∧
    ∀ x, (Kind.option .float).Storable x ↔ ∀ y ∈ x, y.isFinite = true := by
  refine ⟨?_, fun x hx => refuses_of_mismatch (float_mismatch hx) env name,
    fun xs hxs => refuses_of_mismatch (floats_mismatch hxs) env name, ?_, storable_float,
    storable_floats, storable_optional⟩
  · intro k hk x hx
    have hkinds : ∀ k ∈ floatKinds, k.unambiguous = true := by decide
    refine takes_of_reads ?_ env name
    rw [Kind.encode_of_storable hx]
    exact Kind.decode_toValue (hkinds k hk) x
  · intro x hx
    rcases x with _ | y
    · exact absurd trivial hx
    · refine takes_of_reads ?_ env name
      have hform : (Kind.option .float).encode (some y) = .null := encode_of_not_finite hx
      rw [hform]
      rfl

def half : Binary64 := ⟨0x3fe0000000000000⟩

theorem a_half_is_kept_and_an_infinity_is_not :
    Takes empty "ratio" .float half half ∧ Refuses empty "ratio" .float infinity ∧
    Refuses empty "ratio" (.list .float) [half, infinity] ∧
    Takes empty "ratio" (.option .float) (some infinity) none := by
  have hhalf : half.isFinite = true := by decide +kernel
  have hinfinity : ¬ infinity.isFinite = true := by decide +kernel
  obtain ⟨htakes, hfloat, hfloats, hoptional, hone, hmany, hsome⟩ :=
    a_float_slot_keeps_finite_numbers_and_loses_optional_others empty "ratio"
  refine ⟨htakes .float (by decide) half ((hone half).mpr hhalf),
    hfloat infinity (mt (hone infinity).mp hinfinity), hfloats [half, infinity] fun h => ?_,
    hoptional (some infinity) fun h => ?_⟩
  · exact hinfinity ((hmany _).mp h infinity (by simp))
  · exact hinfinity ((hsome _).mp h infinity rfl)

/-- An optional infinity is neither kept nor refused. -/
theorem an_optional_infinity_is_lost :
    ¬ ∀ k ∈ floatKinds, ∀ x, Takes empty "ratio" k x x ∨ Refuses empty "ratio" k x := by
  intro h
  have hnot : ¬ infinity.isFinite = true := by decide +kernel
  have hform : (Kind.option .float).encode (some infinity) = .null := encode_of_not_finite hnot
  have hlost : (empty.set "ratio" (.option .float) (some infinity)).2.getRequired "ratio"
      (.option .float) = .ok none := by
    have hread : (Kind.option .float).decode ((Kind.option .float).encode (some infinity)) =
        .ok none := by
      rw [hform]
      rfl
    exact ((takes_of_reads hread empty "ratio").2.1 [] trivial).1
  rcases h (.option .float) (by decide) (some infinity) with ⟨-, hkeeps, -⟩ | ⟨⟨reason, hset⟩, -⟩
  · have hkept := (hkeeps [] trivial).1
    rw [after_nil, hlost] at hkept
    cases hkept
  · rw [hset] at hlost
    cases hlost

end Gamebook.Environment
