-- Blank characters and trimming. Blank means the Unicode property White_Space; a line of a
-- source, an answer of the player and the two halves of a setting are all trimmed of it.
namespace Gamebook.Text

/-! ## Tables of characters -/

/-- Whether the code point of `c` lies in one of the inclusive ranges. -/
def inRanges (ranges : List (Nat × Nat)) (c : Char) : Bool :=
  ranges.any fun r => r.1 ≤ c.toNat && c.toNat ≤ r.2

/-- The code points with the property White_Space. -/
def blankRanges : List (Nat × Nat) :=
  [(0x0009, 0x000d), (0x0020, 0x0020), (0x0085, 0x0085), (0x00a0, 0x00a0), (0x1680, 0x1680),
   (0x2000, 0x200a), (0x2028, 0x2029), (0x202f, 0x202f), (0x205f, 0x205f), (0x3000, 0x3000)]

def isBlank (c : Char) : Bool := inRanges blankRanges c

/-! ## Trimming -/

def trimLeft (cs : List Char) : List Char := cs.dropWhile isBlank

def trimRight (cs : List Char) : List Char := (cs.reverse.dropWhile isBlank).reverse

def trim (cs : List Char) : List Char := trimRight (trimLeft cs)

/-! ## What trimming leaves -/

theorem head_trimLeft {cs : List Char} {c : Char} {r : List Char} (h : trimLeft cs = c :: r) :
    isBlank c = false := by
  induction cs with
  | nil => simp [trimLeft] at h
  | cons d ds ih =>
    by_cases hd : isBlank d
    · exact ih (by simpa [trimLeft, hd] using h)
    · simp only [trimLeft, hd, List.dropWhile_cons, if_false, Bool.false_eq_true] at h
      cases h
      simpa using hd

theorem head?_trimLeft (cs : List Char) : ∀ c ∈ (trimLeft cs).head?, isBlank c = false := by
  intro c hc
  obtain ⟨r, hr⟩ := List.head?_eq_some_iff.mp hc
  exact head_trimLeft hr

/-- What trimming on the left takes away is blank. -/
theorem trimLeft_split (cs : List Char) :
    ∃ b, cs = b ++ trimLeft cs ∧ ∀ c ∈ b, isBlank c = true := by
  induction cs with
  | nil => exact ⟨[], rfl, by simp⟩
  | cons d ds ih =>
    by_cases hd : isBlank d
    · obtain ⟨b, h1, h2⟩ := ih
      refine ⟨d :: b, ?_, ?_⟩
      · simpa [trimLeft, hd] using h1
      · simpa [hd] using h2
    · exact ⟨[], by simp [trimLeft, hd], by simp⟩

theorem trimLeft_sublist (cs : List Char) : (trimLeft cs).Sublist cs := List.dropWhile_sublist _

theorem trimRight_sublist (cs : List Char) : (trimRight cs).Sublist cs := by
  have h := (trimLeft_sublist cs.reverse).reverse
  rwa [List.reverse_reverse] at h

theorem trimLeft_eq_self_iff (cs : List Char) :
    trimLeft cs = cs ↔ ∀ c ∈ cs.head?, isBlank c = false := by
  rcases cs with _ | ⟨d, ds⟩
  · simp [trimLeft]
  · simp only [List.head?_cons, Option.mem_def, Option.some.injEq, forall_eq']
    constructor
    · exact head_trimLeft
    · intro hd
      simp [trimLeft, hd]

theorem trimRight_eq_self_iff (cs : List Char) :
    trimRight cs = cs ↔ ∀ c ∈ cs.getLast?, isBlank c = false := by
  rw [← List.head?_reverse, ← trimLeft_eq_self_iff]
  unfold trimRight trimLeft
  rw [List.reverse_eq_iff]

/-- A text is trimmed exactly when neither its first nor its last character is blank. -/
theorem trim_eq_self_iff (cs : List Char) :
    trim cs = cs ↔
      (∀ c ∈ cs.head?, isBlank c = false) ∧ ∀ c ∈ cs.getLast?, isBlank c = false := by
  rw [← trimLeft_eq_self_iff, ← trimRight_eq_self_iff]
  unfold trim
  constructor
  · intro h
    have hright := (trimRight_sublist (trimLeft cs)).length_le
    rw [h] at hright
    have hleft := (trimLeft_sublist cs).eq_of_length_le hright
    rw [hleft] at h
    exact ⟨hleft, h⟩
  · rintro ⟨hleft, hright⟩
    rw [hleft, hright]

/-- A text that does not end in a blank keeps its end when its front is trimmed. -/
theorem getLast?_trimLeft {cs : List Char} (hne : cs ≠ [])
    (hlast : ∀ c ∈ cs.getLast?, isBlank c = false) :
    trimLeft cs ≠ [] ∧ (trimLeft cs).getLast? = cs.getLast? := by
  obtain ⟨b, hcs, hb⟩ := trimLeft_split cs
  have hleft : trimLeft cs ≠ [] := by
    intro hnil
    rw [hnil, List.append_nil] at hcs
    have hmem := List.getLast_mem hne
    have := (hlast _ (List.getLast?_eq_some_getLast hne)).symm.trans (hb _ (hcs ▸ hmem))
    cases this
  have hend : (trimLeft cs).getLast? = cs.getLast? :=
    calc (trimLeft cs).getLast? = (b ++ trimLeft cs).getLast? := by
          rw [List.getLast?_append, List.getLast?_eq_some_getLast hleft, Option.some_or]
      _ = cs.getLast? := congrArg List.getLast? hcs.symm
  exact ⟨hleft, hend⟩

/-- What has been trimmed is trimmed. -/
theorem trim_trim (cs : List Char) : trim (trim cs) = trim cs := by
  have hlast : trimRight (trim cs) = trim cs := by
    refine (trimRight_eq_self_iff _).mpr fun c hc => ?_
    refine head?_trimLeft (trimLeft cs).reverse c ?_
    rw [← List.getLast?_reverse]
    exact hc
  have hfirst : trimLeft (trim cs) = trim cs := by
    refine (trimLeft_eq_self_iff _).mpr fun c hc => ?_
    -- The first character that is left on the right is the first one that was left on the left.
    obtain ⟨b, hb, -⟩ := trimLeft_split (trimLeft cs).reverse
    have hsplit : trimLeft cs = trim cs ++ b.reverse :=
      calc trimLeft cs = (trimLeft cs).reverse.reverse := (List.reverse_reverse _).symm
        _ = (b ++ trimLeft (trimLeft cs).reverse).reverse := congrArg List.reverse hb
        _ = trim cs ++ b.reverse := List.reverse_append
    obtain ⟨r, hr⟩ := List.head?_eq_some_iff.mp hc
    rw [hr, List.cons_append] at hsplit
    exact head_trimLeft hsplit
  unfold trim at hfirst hlast ⊢
  rw [hfirst, hlast]

theorem mem_trimLeft {cs : List Char} {c : Char} (hc : c ∈ cs) (hblank : isBlank c = false) :
    c ∈ trimLeft cs := by
  obtain ⟨b, hcs, hb⟩ := trimLeft_split cs
  rw [hcs, List.mem_append] at hc
  rcases hc with hc | hc
  · rw [hb c hc] at hblank
    cases hblank
  · exact hc

/-- Only blanks are trimmed off. -/
theorem mem_trim {cs : List Char} {c : Char} (hc : c ∈ cs) (hblank : isBlank c = false) :
    c ∈ trim cs := by
  have hright : c ∈ (trimLeft (trimLeft cs).reverse).reverse :=
    List.mem_reverse.mpr (mem_trimLeft (List.mem_reverse.mpr (mem_trimLeft hc hblank)) hblank)
  exact hright

end Gamebook.Text
