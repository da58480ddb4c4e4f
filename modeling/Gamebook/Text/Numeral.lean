-- The numbers a player may type: ASCII digits after an optional plus sign, leading zeros
-- allowed, up to the largest unsigned number of 64 bits.
namespace Gamebook.Text

/-- The largest number that can be typed. -/
def numeralMax : Nat := 0xffffffffffffffff

/-- The value of an ASCII digit. -/
def digit? (c : Char) : Option Nat :=
  if '0' ≤ c ∧ c ≤ '9' then some (c.toNat - '0'.toNat) else none

/-- The value of a row of digits that follows digits of value `acc`. -/
def digitsFrom (acc : Nat) : List Char → Option Nat
  | [] => some acc
  | c :: cs => (digit? c).bind fun d => digitsFrom (10 * acc + d) cs

/-- The value of a non-empty row of digits. -/
def digits? : List Char → Option Nat
  | [] => none
  | cs => digitsFrom 0 cs

/-- The number that an answer spells. -/
def numeral? (answer : String) : Option Nat :=
  let digits := match answer.toList with
    | '+' :: cs => digits? cs
    | cs => digits? cs
  digits.filter (· ≤ numeralMax)

/-! ## What is typed for a number -/

theorem digit?_eq_some {c : Char} {d : Nat} :
    digit? c = some d ↔ c.isDigit = true ∧ c.toNat - '0'.toNat = d := by
  have hrange : ('0' ≤ c ∧ c ≤ '9') ↔ c.isDigit = true := by
    simp [Char.isDigit, Char.le_def]
  unfold digit?
  simp only [hrange]
  split <;> simp_all

theorem digitsFrom_eq_some {cs : List Char} {acc n : Nat} :
    digitsFrom acc cs = some n ↔
      (∀ c ∈ cs, c.isDigit = true) ∧ Nat.ofDigitChars 10 cs acc = n := by
  induction cs generalizing acc with
  | nil => simp [digitsFrom, Nat.ofDigitChars_nil]
  | cons c cs ih =>
    simp only [digitsFrom, Option.bind_eq_some_iff, digit?_eq_some, ih, Nat.ofDigitChars_cons,
      List.forall_mem_cons]
    constructor
    · rintro ⟨d, ⟨hc, rfl⟩, hcs, hn⟩
      exact ⟨⟨hc, hcs⟩, hn⟩
    · rintro ⟨⟨hc, hcs⟩, hn⟩
      exact ⟨_, ⟨hc, rfl⟩, hcs, hn⟩

theorem digits?_eq_some {cs : List Char} {n : Nat} :
    digits? cs = some n ↔
      cs ≠ [] ∧ (∀ c ∈ cs, c.isDigit = true) ∧ Nat.ofDigitChars 10 cs 0 = n := by
  cases cs with
  | nil => simp [digits?]
  | cons c cs => simp [digits?, digitsFrom_eq_some]

/-- How a number may be typed: its digits, perhaps with zeros before them, perhaps with a plus
sign before all. -/
def Spells (answer : String) (n : Nat) : Prop :=
  ∃ ds : List Char, (answer.toList = ds ∨ answer.toList = '+' :: ds) ∧ ds ≠ [] ∧
    (∀ c ∈ ds, c.isDigit = true) ∧ Nat.ofDigitChars 10 ds 0 = n ∧ n ≤ numeralMax

theorem numeral?_eq_some {answer : String} {n : Nat} :
    numeral? answer = some n ↔ Spells answer n := by
  unfold numeral? Spells
  simp only [Option.filter_eq_some_iff, decide_eq_true_eq]
  split
  · rename_i cs hcs
    rw [digits?_eq_some]
    constructor
    · rintro ⟨⟨hne, hdigits, hn⟩, hlt⟩
      exact ⟨cs, .inr hcs, hne, hdigits, hn, hlt⟩
    · rintro ⟨ds, rfl | hds, hne, hdigits, hn, hlt⟩
      · -- A plus sign is no digit.
        exact absurd (hdigits '+' (by simp [hcs])) (by decide)
      · obtain rfl : cs = ds := by simpa [hcs] using hds
        exact ⟨⟨hne, hdigits, hn⟩, hlt⟩
  · rename_i hplus
    rw [digits?_eq_some]
    constructor
    · rintro ⟨⟨hne, hdigits, hn⟩, hlt⟩
      exact ⟨_, .inl rfl, hne, hdigits, hn, hlt⟩
    · rintro ⟨ds, rfl | hds, hne, hdigits, hn, hlt⟩
      · exact ⟨⟨hne, hdigits, hn⟩, hlt⟩
      · exact absurd hds (hplus ds)

example : numeral? "+002" = some 2 ∧ numeral? "-0" = none ∧ numeral? "+" = none := by decide
example : numeral? "18446744073709551615" = some numeralMax := by decide
example : numeral? "18446744073709551616" = none := by decide

end Gamebook.Text
