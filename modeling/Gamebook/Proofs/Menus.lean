-- Menus. The options that a view shows are printed in their order with the numbers from 1 on, and
-- an answer picks the option that its number was printed beside, if that option is available. Which
-- options can be picked does not depend on whether the others are shown. Two words quit instead.
import Gamebook.Command.Play.Turn
import Mathlib.Data.List.Forall2

namespace Gamebook.Command.Play

section

variable {c : Config} {view : NodeView}

/-! ## What is printed -/

/-- The options that get a number, in order of their numbers, each with its position. -/
def numbered (c : Config) (view : NodeView) : List (OptionView × Nat) :=
  view.options.zipIdx.filter fun p => p.1.available || c.showUnavailable

/-- The lines of some options, numbered from `number` on. -/
def menuFrom (color : Bool) (number : Nat) (os : List OptionView) : String :=
  String.join (os.mapIdx fun i o => optionLine color (number + i) o ++ "\n")

/-- What is printed above the options. -/
def preface (view : NodeView) : String :=
  "\n" ++ if view.text = "" then "" else view.text ++ "\n\n"

theorem menuFrom_cons (color : Bool) (number : Nat) (o : OptionView) (os : List OptionView) :
    menuFrom color number (o :: os) =
      optionLine color number o ++ "\n" ++ menuFrom color (number + 1) os := by
  have hnext : (fun i (o : OptionView) => optionLine color (number + (i + 1)) o ++ "\n") =
      fun i o => optionLine color (number + 1 + i) o ++ "\n" := by
    funext i o
    rw [Nat.add_comm i 1, Nat.add_assoc]
  unfold menuFrom
  rw [List.mapIdx_cons, String.join_cons, hnext, Nat.add_zero]

theorem showOptions_eq (showUnavailable : Bool) (t : Terminal) (number : Nat)
    (os : List OptionView) :
    showOptions showUnavailable t number os =
      t.print (menuFrom t.color number (os.filter fun o => o.available || showUnavailable)) := by
  induction os generalizing t number with
  | nil => simp [showOptions, menuFrom, Terminal.print]
  | cons o os ih =>
    rw [showOptions, List.filter_cons]
    split
    · rw [ih, menuFrom_cons]
      simp [Terminal.println, Terminal.print, String.append_assoc]
    · exact ih t number

/-- All options get a number, or those that are available. -/
theorem numbered_options (c : Config) (view : NodeView) :
    (numbered c view).map Prod.fst =
      view.options.filter fun o => o.available || c.showUnavailable := by
  have hfilter : (view.options.zipIdx.map Prod.fst).filter (fun o => o.available ||
      c.showUnavailable) = (numbered c view).map Prod.fst := List.filter_map ..
  rw [← hfilter, List.zipIdx_map_fst]

theorem render_eq (c : Config) (t : Terminal) (view : NodeView) :
    render c t view =
      t.print (preface view ++ menuFrom t.color 1 ((numbered c view).map Prod.fst)) := by
  rw [numbered_options]
  unfold render preface
  simp only [showOptions_eq]
  split
  · simp [Terminal.println, Terminal.print, String.append_assoc]
  · simp [Terminal.println, Terminal.print, String.append_assoc]

/-! ## Positions -/

theorem shownFrom_eq (showUnavailable : Bool) (position : Nat) (os : List OptionView) :
    shownFrom showUnavailable position os =
      ((os.zipIdx position).filter fun p => p.1.available || showUnavailable).map Prod.snd := by
  induction os generalizing position with
  | nil => rfl
  | cons o os ih =>
    rw [shownFrom, List.zipIdx_cons, List.filter_cons, ih]
    split
    · rfl
    · rfl

theorem shown_eq (c : Config) (view : NodeView) :
    shown c view = (numbered c view).map Prod.snd := shownFrom_eq c.showUnavailable 0 view.options

theorem mem_numbered {o : OptionView} {k : Nat} :
    (o, k) ∈ numbered c view ↔
      view.options[k]? = some o ∧ (o.available = true ∨ c.showUnavailable = true) := by
  simp [numbered, List.mem_zipIdx_iff_getElem?]

theorem mem_shown {k : Nat} :
    k ∈ shown c view ↔ ∃ o, view.options[k]? = some o ∧
      (o.available = true ∨ c.showUnavailable = true) := by
  simp [shown_eq, mem_numbered]

theorem numbered_ascending (c : Config) (view : NodeView) :
    (numbered c view).Pairwise fun p q => p.2 < q.2 := by
  have hzip : view.options.zipIdx.Pairwise fun p q => p.2 < q.2 := by
    rw [← List.pairwise_map, List.zipIdx_map_snd]
    exact List.pairwise_lt_range'
  exact hzip.filter _

/-! ## Numbers -/

/-- The option that a number is printed beside, with its position. -/
def beside? (c : Config) (view : NodeView) : Nat → Option (OptionView × Nat)
  | 0 => none
  | n + 1 => (numbered c view)[n]?

/-- What an answer picks, or why it picks nothing. -/
inductive Picks (c : Config) (view : NodeView) (answer : String) : Except String Nat → Prop
  | available {n k : Nat} {o : OptionView} (hn : Text.Spells answer n)
      (hbeside : beside? c view n = some (o, k)) (ha : o.available = true) :
      Picks c view answer (.ok k)
  | unavailable {n k : Nat} {o : OptionView} (hn : Text.Spells answer n)
      (hbeside : beside? c view n = some (o, k)) (ha : o.available = false) :
      Picks c view answer (.error (StoryError.inQuotes o.label ++ " is not available"))
  | notPrinted {n : Nat} (hn : Text.Spells answer n) (hbeside : beside? c view n = none) :
      Picks c view answer (.error ("there is no option " ++ toString n))
  | noNumber (hn : ∀ n, ¬ Text.Spells answer n) :
      Picks c view answer (.error "enter an option number, or q to quit")

theorem option_of_beside {n k : Nat} {o : OptionView} (h : beside? c view n = some (o, k)) :
    view.options[k]? = some o := by
  cases n with
  | zero => cases h
  | succ n => exact (mem_numbered.mp (List.mem_of_getElem? h)).1

theorem pick_of_spells {answer : String} {n : Nat} (hn : Text.Spells answer n) :
    pick answer (shown c view) view =
      match beside? c view n with
      | none => .error ("there is no option " ++ toString n)
      | some (o, k) =>
        if o.available then .ok k
        else .error (StoryError.inQuotes o.label ++ " is not available") := by
  unfold pick
  rw [Text.numeral?_eq_some.mpr hn]
  rcases hbeside : beside? c view n with _ | ⟨o, k⟩
  · cases n with
    | zero => rfl
    | succ n =>
      have hshown : (shown c view)[n]? = none := by
        rw [shown_eq, List.getElem?_map, show (numbered c view)[n]? = none from hbeside]
        rfl
      simp only [Nat.add_sub_cancel, hshown]
  · have hoption := option_of_beside hbeside
    cases n with
    | zero => cases hbeside
    | succ n =>
      have hshown : (shown c view)[n]? = some k := by
        rw [shown_eq, List.getElem?_map, show (numbered c view)[n]? = some (o, k) from hbeside]
        rfl
      simp only [Nat.add_sub_cancel, hshown, hoption]

theorem pick_of_no_number {answer : String} (hn : ∀ n, ¬ Text.Spells answer n)
    (shown : List Nat) (view : NodeView) :
    pick answer shown view = .error "enter an option number, or q to quit" := by
  have hnone : Text.numeral? answer = none := by
    rw [Option.eq_none_iff_forall_not_mem]
    intro n hmem
    exact hn n (Text.numeral?_eq_some.mp hmem)
  unfold pick
  rw [hnone]

/-- What is picked is what the number was printed beside. -/
theorem pick_eq_iff {answer : String} {out : Except String Nat} :
    pick answer (shown c view) view = out ↔ Picks c view answer out := by
  constructor
  · rintro rfl
    by_cases hnumber : ∃ n, Text.Spells answer n
    · obtain ⟨n, hn⟩ := hnumber
      rw [pick_of_spells hn]
      rcases hbeside : beside? c view n with _ | ⟨o, k⟩
      · exact .notPrinted hn hbeside
      · simp only
        split
        · rename_i ha
          exact .available hn hbeside ha
        · rename_i ha
          exact .unavailable hn hbeside (by simpa using ha)
    · have hnone := not_exists.mp hnumber
      rw [pick_of_no_number hnone]
      exact .noNumber hnone
  · intro hpicks
    cases hpicks with
    | available hn hbeside ha => simp [pick_of_spells hn, hbeside, ha]
    | unavailable hn hbeside ha => simp [pick_of_spells hn, hbeside, ha]
    | notPrinted hn hbeside => simp [pick_of_spells hn, hbeside]
    | noNumber hn => exact pick_of_no_number hn _ _

/-! ## What can be picked -/

/-- A number can be typed as it is printed. -/
theorem spells_toString {n : Nat} (hpos : 0 < n) (hn : n ≤ Text.numeralMax) :
    Text.Spells (toString n) n := by
  have hdigits : (toString n).toList = Nat.toDigits 10 n := by
    rw [Nat.toString_eq_ofList_toDigits, String.toList_ofList]
  have hvalue : Nat.ofDigitChars 10 (Nat.toDigits 10 n) 0 = n :=
    Nat.ofDigitChars_toDigits (by omega) (by omega)
  refine ⟨Nat.toDigits 10 n, Or.inl hdigits, ?_, ?_, hvalue, hn⟩
  · intro hnil
    rw [hnil, Nat.ofDigitChars_nil] at hvalue
    omega
  · intro c hc
    exact Nat.isDigit_of_mem_toDigits (by omega) (by omega) hc

theorem length_numbered_le (c : Config) (view : NodeView) :
    (numbered c view).length ≤ view.options.length := by
  have hlen : (numbered c view).length ≤ view.options.zipIdx.length := List.length_filter_le ..
  rwa [List.length_zipIdx] at hlen

/-- Where every number that is printed can be typed, whatever is available can be picked. -/
theorem pickable_iff (hlen : view.options.length ≤ Text.numeralMax) (k : Nat) :
    (∃ answer, pick answer (shown c view) view = .ok k) ↔
      ∃ o, view.options[k]? = some o ∧ o.available = true := by
  constructor
  · rintro ⟨answer, hpick⟩
    cases pick_eq_iff.mp hpick with
    | @available _ _ o hn hbeside ha => exact ⟨o, option_of_beside hbeside, ha⟩
  · rintro ⟨o, ho, ha⟩
    have hmem : (o, k) ∈ numbered c view := mem_numbered.mpr ⟨ho, Or.inl ha⟩
    obtain ⟨i, hi, hget⟩ := List.getElem_of_mem hmem
    have hbeside : beside? c view (i + 1) = some (o, k) := List.getElem?_eq_some_iff.mpr ⟨hi, hget⟩
    have hle := length_numbered_le c view
    have hspells : Text.Spells (toString (i + 1)) (i + 1) := spells_toString (by omega) (by omega)
    exact ⟨_, pick_eq_iff.mpr (.available hspells hbeside ha)⟩

/-! ## Answers that quit -/

/-- The words that quit, by their letters, each of them small and capital. -/
def quitWords : List (List (Char × Char)) :=
  [[('q', 'Q')], [('q', 'Q'), ('u', 'U'), ('i', 'I'), ('t', 'T')]]

/-- The answer is a word that quits, whichever of its letters are capital. -/
def Quits (answer : String) : Prop :=
  ∃ word ∈ quitWords,
    List.Forall₂ (fun c letter => c = letter.1 ∨ c = letter.2) answer.toList word

theorem toNat_toLower (c : Char) :
    c.toLower.toNat = if 65 ≤ c.toNat ∧ c.toNat ≤ 90 then c.toNat + 32 else c.toNat := by
  unfold Char.toLower
  have hcapital : 'A'.val ≤ c.val ∧ c.val ≤ 'Z'.val ↔ 65 ≤ c.toNat ∧ c.toNat ≤ 90 := by
    rw [UInt32.le_iff_toNat_le, UInt32.le_iff_toNat_le]
    rfl
  by_cases hc : 65 ≤ c.toNat ∧ c.toNat ≤ 90
  · rw [dif_pos (hcapital.mpr hc), if_pos hc]
    show (c.val + ('a'.val - 'A'.val)).toNat = c.val.toNat + 32
    have hle : c.val.toNat ≤ 90 := hc.2
    have hgap : ('a'.val - 'A'.val).toNat = 32 := by decide
    rw [UInt32.toNat_add]
    omega
  · rw [dif_neg (mt hcapital.mp hc), if_neg hc]

theorem toLower_eq_iff {c small capital : Char} (hsmall : 97 ≤ small.toNat ∧ small.toNat ≤ 122)
    (hcapital : capital.toNat + 32 = small.toNat) :
    c.toLower = small ↔ c = small ∨ c = capital := by
  simp only [← Char.toNat_inj, toNat_toLower]
  split <;> omega

theorem map_toLower_eq_iff {word : List (Char × Char)}
    (hword : ∀ l ∈ word, (97 ≤ l.1.toNat ∧ l.1.toNat ≤ 122) ∧ l.2.toNat + 32 = l.1.toNat)
    {cs : List Char} :
    cs.map Char.toLower = word.map Prod.fst ↔
      List.Forall₂ (fun c letter => c = letter.1 ∨ c = letter.2) cs word := by
  induction word generalizing cs with
  | nil => simp
  | cons l word ih =>
    obtain ⟨hl, hword⟩ := List.forall_mem_cons.mp hword
    cases cs with
    | nil => simp
    | cons c cs =>
      rw [List.map_cons, List.map_cons, List.cons.injEq, List.forall₂_cons,
        toLower_eq_iff hl.1 hl.2, ih hword]

theorem isQuit_iff {answer : String} : isQuit answer = true ↔ Quits answer := by
  have hletters : ∀ word ∈ quitWords, ∀ l ∈ word,
      (97 ≤ l.1.toNat ∧ l.1.toNat ≤ 122) ∧ l.2.toNat + 32 = l.1.toNat := by decide
  have hlowered : isQuit answer = true ↔
      ∃ word ∈ quitWords, answer.toList.map Char.toLower = word.map Prod.fst := by
    simp [isQuit, quitWords]
  rw [hlowered]
  exact exists_congr fun word =>
    and_congr_right fun hmem => map_toLower_eq_iff (hletters word hmem)

theorem isQuit_eq_false_iff {answer : String} : isQuit answer = false ↔ ¬ Quits answer := by
  rw [← isQuit_iff, Bool.not_eq_true]

/-! ## The law -/

/-- The options of a view, all of them or those that are available, are printed in their order with
the numbers from 1 on, and their positions are kept. An answer picks an option exactly if it spells
the number that was printed beside it and the option is available; every other answer is refused.
So the options that can be picked are those that are available, whichever are printed, unless there
are more of them than numbers that can be typed. -/
theorem what_is_printed_is_what_is_accepted (c : Config) (t : Terminal) (view : NodeView) :
    render c t view =
        t.print (preface view ++ menuFrom t.color 1 ((numbered c view).map Prod.fst)) ∧
      (numbered c view).map Prod.fst =
        (if c.showUnavailable then view.options else view.options.filter OptionView.available) ∧
      shown c view = (numbered c view).map Prod.snd ∧
      (shown c view).Pairwise (· < ·) ∧
      (∀ p ∈ numbered c view, view.options[p.2]? = some p.1) ∧
      (∀ answer out, pick answer (shown c view) view = out ↔ Picks c view answer out) ∧
      (view.options.length ≤ Text.numeralMax → ∀ k,
        (∃ answer, pick answer (shown c view) view = .ok k) ↔
          ∃ o, view.options[k]? = some o ∧ o.available = true) := by
  refine ⟨render_eq c t view, ?_, shown_eq c view, ?_, ?_, fun _ _ => pick_eq_iff, pickable_iff⟩
  · rw [numbered_options]
    split
    · rename_i hall
      simp [hall]
    · rename_i hsome
      simp [hsome]
  · rw [shown_eq, List.pairwise_map]
    exact numbered_ascending c view
  · intro p hp
    exact (mem_numbered.mp hp).1

/-- A door that is locked and a window. -/
def landing : NodeView where
  node := "landing"
  text := ""
  options := [⟨0, "Door", false⟩, ⟨1, "Window", true⟩]

theorem a_locked_door_only_moves_the_numbers :
    let terse : Config := { showUnavailable := false }
    (render {} (Terminal.blank false) landing).out = "\n  1) Door\n  2) Window\n" ∧
      (render terse (Terminal.blank false) landing).out = "\n  1) Window\n" ∧
      pick "1" (shown {} landing) landing = .error "\"Door\" is not available" ∧
      pick "+02" (shown {} landing) landing = .ok 1 ∧
      pick "1" (shown terse landing) landing = .ok 1 ∧
      ∀ k, (∃ answer, pick answer (shown terse landing) landing = .ok k) ↔ k = 1 := by
  intro terse
  obtain ⟨hrender, -, -, -, -, hpick, -⟩ :=
    what_is_printed_is_what_is_accepted {} (Terminal.blank false) landing
  obtain ⟨hrenderTerse, -, -, -, -, hpickTerse, hpickable⟩ :=
    what_is_printed_is_what_is_accepted terse (Terminal.blank false) landing
  have hone : Text.Spells "1" 1 := Text.numeral?_eq_some.mp (by decide)
  have htwo : Text.Spells "+02" 2 := Text.numeral?_eq_some.mp (by decide)
  refine ⟨?_, ?_, ?_, ?_, ?_, ?_⟩
  · rw [hrender]
    decide
  · rw [hrenderTerse]
    decide
  · have hmessage : "\"Door\" is not available" =
        StoryError.inQuotes "Door" ++ " is not available" := by decide
    rw [hmessage]
    exact (hpick "1" _).mpr (.unavailable (o := ⟨0, "Door", false⟩) hone rfl rfl)
  · exact (hpick "+02" _).mpr (.available htwo rfl rfl)
  · exact (hpickTerse "1" _).mpr (.available hone rfl rfl)
  · intro k
    rw [hpickable (by decide)]
    rcases k with _ | _ | k <;> simp [landing]

end

end Gamebook.Command.Play
