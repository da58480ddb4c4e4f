-- An environment over whole runs. A call fills one slot, empties one or all of them, or leaves the
-- store as it is; so a slot holds what the last call to fill it has written, unless a call has
-- emptied it since.
import Gamebook.Environment
import Mathlib.Data.List.Induction

namespace Gamebook

/-! ## What a call does to the store -/

namespace EnvCall

/-- The slot a call may fill, and the form it would store there. -/
def offer? : EnvCall → Option (String × Value)
  | .get name k x => some (name, k.encode x)
  | .set name k x => some (name, k.encode x)
  | .slotGet k slot => slot.default.map fun x => (slot.name, k.encode x)
  | .slotSet k slot x => some (slot.name, k.encode x)
  | _ => none

/-- The slot whose value a call asks for. -/
def reads? : EnvCall → Option String
  | .get name _ _ => some name
  | .getRequired name _ => some name
  | .slotGet _ slot => some slot.name
  | _ => none

/-- The slot a call names. -/
def slot? : EnvCall → Option String
  | .get name _ _ => some name
  | .getRequired name _ => some name
  | .set name _ _ => some name
  | .slotGet _ slot => some slot.name
  | .slotSet _ slot _ => some slot.name
  | .contains name => some name
  | .remove name => some name
  | .names => none
  | .snapshot => none
  | .clear => none

/-- The call writes a form to a slot. A read does so only if the slot is empty. -/
structure Fills (env : Environment) (c : EnvCall) (name : String) (v : Value) : Prop where
  succeeds : ∃ r, (c.run env).1 = .ok r
  offers : c.offer? = some (name, v)
  empty : ∀ n, c.reads? = some n → env.contains n = false

def Empties (name : String) : EnvCall → Prop
  | .remove n => n = name
  | .clear => True
  | _ => False

/-- What becomes of the store. -/
inductive Effect (env : Environment) (c : EnvCall) : Environment → Prop
  | fills {name : String} {v : Value} (h : Fills env c name v) :
      Effect env c ⟨env.slots.insert name v⟩
  | removes {name : String} (h : c = .remove name) : Effect env c ⟨env.slots.erase name⟩
  | clears (h : c = .clear) : Effect env c .empty
  | keeps (hfills : ∀ name v, ¬ Fills env c name v) (hempties : ∀ name, ¬ c.Empties name) :
      Effect env c env

theorem store_cases (name : String) (k : Kind) (x : k.Carrier) :
    Environment.store name k x = .ok (k.encode x) ∨
      ∃ reason, Environment.store name k x = .error (.unstorable name reason) := by
  unfold Environment.store
  rcases k.decode (k.encode x) with reason | y
  · exact Or.inr ⟨reason, rfl⟩
  · exact Or.inl rfl

theorem get_filled {env : Environment} {name : String} {v : Value}
    (h : env.slots.get? name = some v) (k : Kind) (x : k.Carrier) :
    env.get name k x = (Environment.recover name k v, env) := by
  unfold Environment.get
  rw [h]

theorem get_empty {env : Environment} {name : String} (h : env.slots.get? name = none)
    (k : Kind) (x : k.Carrier) :
    env.get name k x = (.ok x, ⟨env.slots.insert name (k.encode x)⟩) ∨
      ∃ reason, env.get name k x = (.error (.unstorable name reason), env) := by
  unfold Environment.get
  rw [h]
  rcases store_cases name k x with hs | ⟨reason, hs⟩
  · rw [hs]
    exact Or.inl rfl
  · rw [hs]
    exact Or.inr ⟨reason, rfl⟩

theorem set_cases (env : Environment) (name : String) (k : Kind) (x : k.Carrier) :
    env.set name k x = (.ok (), ⟨env.slots.insert name (k.encode x)⟩) ∨
      ∃ reason, env.set name k x = (.error (.unstorable name reason), env) := by
  unfold Environment.set
  rcases store_cases name k x with hs | ⟨reason, hs⟩
  · rw [hs]
    exact Or.inl rfl
  · rw [hs]
    exact Or.inr ⟨reason, rfl⟩

variable {env : Environment} {c : EnvCall} {name : String} {v w : Value}

theorem not_fills_of_error {e : StoryError} (h : (c.run env).1 = .error e) (name : String)
    (v : Value) : ¬ Fills env c name v := by
  intro hf
  obtain ⟨r, hr⟩ := hf.succeeds
  rw [h] at hr
  cases hr

theorem not_fills_of_no_offer (h : c.offer? = none) (name : String) (v : Value) :
    ¬ Fills env c name v := by
  intro hf
  rw [hf.offers] at h
  cases h

theorem effect_get (env : Environment) (name : String) (k : Kind) (x : k.Carrier) :
    Effect env (.get name k x) (run env (.get name k x)).2 := by
  rcases hslot : env.slots.get? name with _ | v
  · have hempty : ∀ n, some name = some n → env.contains n = false := by
      rintro n ⟨⟩
      simp [Environment.contains, Dict.contains, hslot]
    rcases get_empty hslot k x with hget | ⟨reason, hget⟩
    · have hrun : run env (.get name k x) =
          (.ok (k.toValue x), ⟨env.slots.insert name (k.encode x)⟩) := by
        simp only [run, hget]
        rfl
      rw [hrun]
      exact .fills ⟨⟨_, by rw [hrun]⟩, rfl, hempty⟩
    · have hrun : run env (.get name k x) = (.error (.unstorable name reason), env) := by
        simp only [run, hget]
        rfl
      rw [hrun]
      exact .keeps (not_fills_of_error (by rw [hrun])) fun _ => id
  · have hrun : (run env (.get name k x)).2 = env := by
      simp only [run, get_filled hslot]
    rw [hrun]
    refine .keeps (fun n w hf => ?_) fun _ => id
    have hempty := hf.empty name rfl
    simp [Environment.contains, Dict.contains, hslot] at hempty

theorem effect_set (env : Environment) (name : String) (k : Kind) (x : k.Carrier) :
    Effect env (.set name k x) (run env (.set name k x)).2 := by
  rcases set_cases env name k x with hset | ⟨reason, hset⟩
  · have hrun : run env (.set name k x) =
        (.ok .null, ⟨env.slots.insert name (k.encode x)⟩) := by
      simp only [run, hset]
      rfl
    rw [hrun]
    exact .fills ⟨⟨_, by rw [hrun]⟩, rfl, fun _ hn => nomatch hn⟩
  · have hrun : run env (.set name k x) = (.error (.unstorable name reason), env) := by
      simp only [run, hset]
      rfl
    rw [hrun]
    exact .keeps (not_fills_of_error (by rw [hrun])) fun _ => id

/-- Calls that do the same have the same effect. -/
theorem Effect.congr {d : EnvCall} (hrun : d.run env = c.run env) (hoffer : d.offer? = c.offer?)
    (hreads : d.reads? = c.reads?) (hd : ∀ name, ¬ d.Empties name)
    (hc : ∀ name, ¬ c.Empties name) (h : Effect env d (d.run env).2) :
    Effect env c (c.run env).2 := by
  have hfills : ∀ name v, Fills env c name v ↔ Fills env d name v := by
    intro name v
    constructor
    · rintro ⟨h1, h2, h3⟩
      exact ⟨by rwa [hrun], by rwa [hoffer], by rwa [hreads]⟩
    · rintro ⟨h1, h2, h3⟩
      exact ⟨by rwa [← hrun], by rwa [← hoffer], by rwa [← hreads]⟩
  rw [← hrun]
  generalize (d.run env).2 = env' at h
  cases h with
  | fills hf => exact .fills ((hfills _ _).mpr hf)
  | @removes n hr =>
    subst hr
    exact absurd rfl (hd n)
  | clears hr =>
    subst hr
    exact absurd trivial (hd "")
  | keeps hf _ => exact .keeps (fun n v hn => hf n v ((hfills n v).mp hn)) hc

theorem effect (env : Environment) (c : EnvCall) : Effect env c (c.run env).2 := by
  cases c with
  | get name k x => exact effect_get env name k x
  | getRequired name k => exact .keeps (not_fills_of_no_offer rfl) fun _ => id
  | set name k x => exact effect_set env name k x
  | slotGet k slot =>
    obtain ⟨name, _ | x⟩ := slot
    · exact .keeps (not_fills_of_no_offer rfl) fun _ => id
    · exact Effect.congr (d := .get name k x) rfl rfl rfl (fun _ => id) (fun _ => id)
        (effect_get env name k x)
  | slotSet k slot x =>
    exact Effect.congr (d := .set slot.name k x) rfl rfl rfl (fun _ => id) (fun _ => id)
      (effect_set env slot.name k x)
  | contains name => exact .keeps (not_fills_of_no_offer rfl) fun _ => id
  | remove name => exact .removes rfl
  | names => exact .keeps (not_fills_of_no_offer rfl) fun _ => id
  | snapshot => exact .keeps (not_fills_of_no_offer rfl) fun _ => id
  | clear => exact .clears rfl

theorem offer?_of_empties (h : c.Empties name) : c.offer? = none := by
  cases c with
  | remove n => rfl
  | clear => rfl
  | _ => exact absurd h id

theorem slot?_of_offer? (h : c.offer? = some (name, v)) : c.slot? = some name := by
  cases c with
  | get n k x =>
    cases h
    rfl
  | set n k x =>
    cases h
    rfl
  | slotGet k slot =>
    obtain ⟨x, -, hx⟩ := Option.map_eq_some_iff.mp h
    cases hx
    rfl
  | slotSet k slot x =>
    cases h
    rfl
  | _ => cases h

theorem Fills.unique (h : Fills env c name v) (h' : Fills env c name w) : v = w := by
  have := h.offers.symm.trans h'.offers
  cases this
  rfl

/-- A slot holds what the call has written, or what it has left there. -/
theorem holds_run (env : Environment) (c : EnvCall) (name : String) (v : Value) :
    (c.run env).2.slots.get? name = some v ↔
      Fills env c name v ∨
        env.slots.get? name = some v ∧ (∀ w, ¬ Fills env c name w) ∧ ¬ c.Empties name := by
  have heffect := effect env c
  generalize (c.run env).2 = env' at heffect
  cases heffect with
  | @fills n w hf =>
    have hempties : ¬ c.Empties name := by
      intro he
      have hoffers := hf.offers
      rw [offer?_of_empties he] at hoffers
      cases hoffers
    simp only
    rw [Dict.get?_insert]
    by_cases hn : name = n
    · subst hn
      simp only [if_true, Option.some.injEq]
      constructor
      · rintro rfl
        exact Or.inl hf
      · rintro (h | ⟨-, h, -⟩)
        · exact hf.unique h
        · exact absurd hf (h w)
    · have hnot : ∀ w, ¬ Fills env c name w := by
        intro w h
        have := h.offers.symm.trans hf.offers
        cases this
        exact hn rfl
      simp [hn, hnot, hempties]
  | @removes n hc =>
    subst hc
    have hnot : ∀ w, ¬ Fills env (.remove n) name w := not_fills_of_no_offer rfl name
    simp only
    rw [Dict.get?_erase]
    by_cases hn : name = n
    · subst hn
      simp [hnot, Empties]
    · simp [hn, Ne.symm hn, hnot, Empties]
  | clears hc =>
    subst hc
    have hnot : ∀ w, ¬ Fills env .clear name w := not_fills_of_no_offer rfl name
    simp [Environment.empty, Dict.get?_empty, hnot, Empties]
  | keeps hfills hempties => simp [hfills, hempties]

theorem get?_run_of_not_filled (hfills : ∀ v, ¬ Fills env c name v) (hempties : ¬ c.Empties name) :
    (c.run env).2.slots.get? name = env.slots.get? name := by
  ext v
  rw [holds_run]
  simp [hfills, hempties]

/-- Only a read of an empty slot writes. -/
theorem run_of_filled (hreads : c.reads? = some name) (hfilled : env.contains name = true) :
    (c.run env).2 = env := by
  have heffect := effect env c
  generalize (c.run env).2 = env' at heffect
  cases heffect with
  | fills hf =>
    rw [hf.empty name hreads] at hfilled
    cases hfilled
  | removes hc =>
    subst hc
    cases hreads
  | clears hc =>
    subst hc
    cases hreads
  | keeps => rfl

theorem run_of_error {e : StoryError} (h : (c.run env).1 = .error e) : (c.run env).2 = env := by
  have heffect := effect env c
  generalize hrun : (c.run env).2 = env' at heffect
  cases heffect with
  | fills hf => exact absurd hf (not_fills_of_error h _ _)
  | removes hc =>
    subst hc
    cases h
  | clears hc =>
    subst hc
    cases h
  | keeps => rfl

theorem get?_run_of_other (hclear : c ≠ .clear) (hslot : c.slot? ≠ some name) :
    (c.run env).2.slots.get? name = env.slots.get? name := by
  refine get?_run_of_not_filled (fun v hf => hslot (slot?_of_offer? hf.offers)) fun he => ?_
  cases c with
  | remove n =>
    cases he
    exact hslot rfl
  | clear => exact hclear rfl
  | _ => exact he

end EnvCall

/-! ## Whole runs -/

namespace Environment

open EnvCall

variable {env : Environment} {name : String} {v : Value} {cs : List EnvCall} {c : EnvCall}

/-- The environment that calls leave. -/
def after (env : Environment) (cs : List EnvCall) : Environment := (runAll env cs).2

@[simp] theorem after_nil (env : Environment) : env.after [] = env := rfl

theorem after_cons (env : Environment) (c : EnvCall) (cs : List EnvCall) :
    env.after (c :: cs) = (c.run env).2.after cs := rfl

theorem after_append (env : Environment) (cs ds : List EnvCall) :
    env.after (cs ++ ds) = (env.after cs).after ds := by
  induction cs generalizing env with
  | nil => rfl
  | cons c cs ih => rw [List.cons_append, after_cons, after_cons, ih]

theorem after_snoc (env : Environment) (cs : List EnvCall) (c : EnvCall) :
    env.after (cs ++ [c]) = (c.run (env.after cs)).2 := by
  rw [after_append]
  rfl

theorem after_append_cons (env : Environment) (before rest : List EnvCall) (c : EnvCall) :
    env.after (before ++ c :: rest) = (env.after (before ++ [c])).after rest := by
  rw [← after_append, List.append_assoc, List.singleton_append]

/-- No call fills or empties the slot. -/
def Spares (name : String) : Environment → List EnvCall → Prop
  | _, [] => True
  | env, c :: cs =>
    (∀ v, ¬ Fills env c name v) ∧ ¬ c.Empties name ∧ Spares name (c.run env).2 cs

theorem spares_snoc (env : Environment) (cs : List EnvCall) (c : EnvCall) :
    Spares name env (cs ++ [c]) ↔
      Spares name env cs ∧ (∀ v, ¬ Fills (env.after cs) c name v) ∧ ¬ c.Empties name := by
  induction cs generalizing env with
  | nil => simp [Spares]
  | cons d cs ih =>
    rw [List.cons_append, after_cons]
    simp only [Spares, ih, and_assoc]

theorem Spares.not_empties (h : Spares name env cs) : ∀ c ∈ cs, ¬ c.Empties name := by
  induction cs generalizing env with
  | nil =>
    intro c hc
    cases hc
  | cons d cs ih =>
    obtain ⟨-, hd, hrest⟩ := h
    intro c hc
    rcases List.mem_cons.mp hc with rfl | hc
    · exact hd
    · exact ih hrest c hc

/-- What is spared stays. -/
theorem Spares.get?_after (h : Spares name env cs) :
    (env.after cs).slots.get? name = env.slots.get? name := by
  induction cs generalizing env with
  | nil => rfl
  | cons c cs ih =>
    obtain ⟨hfills, hempties, hrest⟩ := h
    rw [after_cons, ih hrest, get?_run_of_not_filled hfills hempties]

/-- A call of a run wrote the form to the slot, and the calls after it have spared it. -/
def WroteLast (cs : List EnvCall) (name : String) (v : Value) : Prop :=
  ∃ before c rest, cs = before ++ c :: rest ∧ Fills (empty.after before) c name v ∧
    Spares name (empty.after (before ++ [c])) rest

/-- A call of a run filled the slot, and no call after it has emptied it. -/
def Filled (cs : List EnvCall) (name : String) : Prop :=
  ∃ before c rest v, cs = before ++ c :: rest ∧ Fills (empty.after before) c name v ∧
    ∀ d ∈ rest, ¬ d.Empties name

theorem wroteLast_snoc (cs : List EnvCall) (c : EnvCall) (name : String) (v : Value) :
    WroteLast (cs ++ [c]) name v ↔
      Fills (empty.after cs) c name v ∨ WroteLast cs name v ∧
        (∀ w, ¬ Fills (empty.after cs) c name w) ∧ ¬ c.Empties name := by
  constructor
  -- The call that wrote is the last one, or the last one is among those that spare the slot.
  · rintro ⟨before, d, rest, hsplit, hfills, hspares⟩
    rcases List.eq_nil_or_concat rest with rfl | ⟨rest, e, rfl⟩
    · obtain ⟨rfl, hd⟩ := List.append_inj' hsplit rfl
      cases hd
      exact Or.inl hfills
    · have hsplit' : cs ++ [c] = (before ++ d :: rest) ++ [e] := by simp [hsplit]
      obtain ⟨rfl, he⟩ := List.append_inj' hsplit' rfl
      cases he
      rw [List.concat_eq_append, spares_snoc, ← after_append_cons] at hspares
      exact Or.inr ⟨⟨before, d, rest, rfl, hfills, hspares.1⟩, hspares.2⟩
  · rintro (hfills | ⟨⟨before, d, rest, rfl, hfills, hspares⟩, hlast⟩)
    · exact ⟨cs, c, [], rfl, hfills, trivial⟩
    · rw [after_append_cons] at hlast
      exact ⟨before, d, rest ++ [c], by simp, hfills, (spares_snoc _ _ _).mpr ⟨hspares, hlast⟩⟩

theorem holds_after (cs : List EnvCall) (name : String) (v : Value) :
    (empty.after cs).slots.get? name = some v ↔ WroteLast cs name v := by
  induction cs using List.reverseRecOn with
  | nil =>
    constructor
    · intro h
      cases h
    · rintro ⟨before, c, rest, hsplit, -⟩
      simp at hsplit
  | append_singleton cs c ih => rw [after_snoc, holds_run, wroteLast_snoc, ih]

theorem contains_iff (env : Environment) (name : String) :
    env.contains name = true ↔ ∃ v, env.slots.get? name = some v := by
  unfold contains Dict.contains
  exact Option.isSome_iff_exists

theorem contains_run (h : env.contains name = true) (hempties : ¬ c.Empties name) :
    (c.run env).2.contains name = true := by
  rw [contains_iff] at h ⊢
  obtain ⟨v, hv⟩ := h
  by_cases hfills : ∃ w, Fills env c name w
  · obtain ⟨w, hw⟩ := hfills
    exact ⟨w, (holds_run env c name w).mpr (Or.inl hw)⟩
  · have hnot : ∀ w, ¬ Fills env c name w := fun w hw => hfills ⟨w, hw⟩
    exact ⟨v, (holds_run env c name v).mpr (Or.inr ⟨hv, hnot, hempties⟩)⟩

theorem contains_after (h : env.contains name = true) (hempties : ∀ c ∈ cs, ¬ c.Empties name) :
    (env.after cs).contains name = true := by
  induction cs generalizing env with
  | nil => exact h
  | cons c cs ih =>
    rw [after_cons]
    exact ih (contains_run h (hempties c (by simp))) fun d hd =>
      hempties d (List.mem_cons_of_mem _ hd)

theorem contains_after_iff (cs : List EnvCall) (name : String) :
    (empty.after cs).contains name = true ↔ Filled cs name := by
  constructor
  · intro h
    obtain ⟨v, hv⟩ := (contains_iff _ _).mp h
    obtain ⟨before, c, rest, hsplit, hfills, hspares⟩ := (holds_after cs name v).mp hv
    exact ⟨before, c, rest, v, hsplit, hfills, hspares.not_empties⟩
  · rintro ⟨before, c, rest, v, rfl, hfills, hempties⟩
    have hwritten : (c.run (empty.after before)).2.contains name = true :=
      (contains_iff _ _).mpr ⟨v, (holds_run _ _ _ _).mpr (Or.inl hfills)⟩
    rw [after_append, after_cons]
    exact contains_after hwritten hempties

theorem mem_snapshot_iff (env : Environment) (name : String) (v : Value) :
    (name, v) ∈ env.snapshot ↔ env.slots.get? name = some v :=
  env.slots.mem_entries_iff name v

/-! ## The law -/

/-- A new environment after any calls: a slot is filled by the calls that fill it, up to one that
empties it, and holds what the last of them wrote. At any time a read of a filled slot, a call that
fails and a call about another slot change nothing, and the listings agree. -/
theorem a_slot_holds_what_was_last_written (cs : List EnvCall) :
    (∀ name, (empty.after cs).contains name = true ↔ Filled cs name) ∧
    (∀ name v, (name, v) ∈ (empty.after cs).snapshot ↔ WroteLast cs name v) ∧
    (∀ c name, c.reads? = some name → (empty.after cs).contains name = true →
      empty.after (cs ++ [c]) = empty.after cs) ∧
    (∀ c e, (c.run (empty.after cs)).1 = .error e →
      empty.after (cs ++ [c]) = empty.after cs) ∧
    (∀ c name v, c ≠ .clear → c.slot? ≠ some name →
      ((name, v) ∈ (empty.after (cs ++ [c])).snapshot ↔ (name, v) ∈ (empty.after cs).snapshot)) ∧
    (empty.after cs).names = (empty.after cs).snapshot.map Prod.fst ∧
    (empty.after cs).names.Pairwise (· < ·) ∧
    ∀ name, (empty.after cs).contains name = true ↔ name ∈ (empty.after cs).names := by
  refine ⟨contains_after_iff cs, ?_, ?_, ?_, ?_, rfl, Dict.keys_pairwise _, ?_⟩
  · intro name v
    rw [mem_snapshot_iff, holds_after]
  · intro c name hreads hfilled
    rw [after_snoc, run_of_filled hreads hfilled]
  · intro c e herror
    rw [after_snoc, run_of_error herror]
  · intro c name v hclear hslot
    rw [mem_snapshot_iff, mem_snapshot_iff, after_snoc, get?_run_of_other hclear hslot]
  · intro name
    exact (Dict.mem_keys_iff _ name).symm

def infinity : Binary64 := ⟨0x7ff0000000000000⟩

/-- A default that cannot be stored and one that can, a write that is refused, and a slot that is
emptied again. -/
def wornCalls : List EnvCall :=
  [.get "gold" .float infinity, .get "gold" (.int .unsigned8) ⟨7, by decide⟩,
    .set "gold" .float infinity, .slotGet .string ⟨"torch", some "lit"⟩, .remove "torch",
    .slotGet .unit ⟨"map", some ()⟩]

theorem a_worn_slot_holds_its_first_storable_default :
    WroteLast wornCalls "gold" (.int 7) ∧ WroteLast wornCalls "map" .null ∧
    Filled wornCalls "map" ∧ ¬ Filled wornCalls "torch" ∧
    empty.after (wornCalls ++ [.get "gold" .float infinity]) = empty.after wornCalls ∧
    empty.after (wornCalls ++ [.set "torch" .float infinity]) = empty.after wornCalls ∧
    ("gold", .int 7) ∈ (empty.after (wornCalls ++ [.remove "map"])).snapshot := by
  obtain ⟨hfilled, hheld, hreads, herrors, hothers, -⟩ :=
    a_slot_holds_what_was_last_written wornCalls
  have hslots : (empty.after wornCalls).snapshot = [("gold", .int 7), ("map", .null)] := by rfl
  have hgold : ("gold", .int 7) ∈ (empty.after wornCalls).snapshot := by simp [hslots]
  have htorch : (empty.after wornCalls).contains "torch" = false := by rfl
  have hrefused :
      ∃ e, (run (empty.after wornCalls) (.set "torch" .float infinity)).1 = .error e :=
    ⟨_, by rfl⟩
  obtain ⟨e, he⟩ := hrefused
  refine ⟨(hheld _ _).mp hgold, (hheld _ _).mp (by simp [hslots]), (hfilled _).mp (by rfl),
    fun h => ?_, hreads _ "gold" rfl (by rfl), herrors _ e he, ?_⟩
  · rw [(hfilled "torch").mpr h] at htorch
    cases htorch
  · exact (hothers (.remove "map") "gold" (.int 7) nofun (by decide)).mpr hgold

end Environment

end Gamebook
