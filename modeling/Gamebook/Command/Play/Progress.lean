-- Every turn but the last reads a line: no script gives lines back to the input, so a game comes to
-- an end after at most one turn more than there are lines.
import Gamebook.Command.Play.Turn

namespace Gamebook.Command.Play

section

variable {μ : Type}

/-! ## Requests -/

/-- A terminal takes every request. -/
theorem serve_eq (s : Game μ) (r : Request) :
    s.serve Terminal.host r = ((Terminal.host.answer r s.host).1,
      { s.record (.asked r) with host := (Terminal.host.answer r s.host).2 }) := by
  cases r <;> rfl

/-- No step gives lines back to the input. -/
theorem kept_lines :
    Session.Kept Terminal.host fun s s' : Game μ => s'.host.lines <:+ s.host.lines where
  refl _ := List.suffix_rfl
  trans h h' := h'.trans h
  env _ _ := List.suffix_rfl
  memory _ _ := List.suffix_rfl
  note _ _ := List.suffix_rfl
  serve s r := by
    rw [serve_eq]
    exact Terminal.answer_lines r s.host

/-! ## What is shown -/

theorem showOptions_lines (showUnavailable : Bool) (t : Terminal) (number : Nat)
    (os : List OptionView) : (showOptions showUnavailable t number os).lines = t.lines := by
  induction os generalizing t number with
  | nil => rfl
  | cons o os ih =>
    simp only [showOptions]
    split
    · exact ih _ _
    · exact ih _ _

/-- To show a view takes no line. -/
theorem render_lines (c : Config) (t : Terminal) (view : NodeView) :
    (render c t view).lines = t.lines := by
  unfold render
  split
  · exact showOptions_lines c.showUnavailable _ _ _
  · exact showOptions_lines c.showUnavailable _ _ _

/-! ## Turns -/

theorem present_lines {c : Config} {r : Reader} {s s' : Game μ} {view : NodeView}
    (h : present c r s = .waiting view s') : s'.host.lines = s.host.lines := by
  unfold present at h
  split at h
  · cases h
  · split at h
    · cases h
    · cases h
      exact render_lines c _ _

theorem respond_lines {story : Story μ} {c : Config} {r r' : Reader} {view : NodeView}
    {answer : Option String} {s s' : Game μ} (h : respond story c r view answer s = .next r' s') :
    s'.host.lines.length ≤ s.host.lines.length := by
  unfold respond at h
  split at h
  · cases h
  · split at h
    · cases h
    · split at h
      · cases h
        exact Nat.le_refl _
      · rename_i position _
        have h1 := (kept_lines.press story r s position).length_le
        split at h
        · cases h
        · rename_i hp
          rw [hp] at h1
          cases h
          exact h1

/-- A turn that is not the last has read a line. -/
theorem turn_lines {story : Story μ} {c : Config} {r r' : Reader} {s s' : Game μ}
    (h : turn story c r s = .next r' s') : s'.host.lines.length < s.host.lines.length := by
  unfold turn at h
  split at h
  · cases h
  · rename_i view s1 hp
    have h1 := present_lines hp
    split at h
    · cases h
    · rename_i answer t hr
      have h2 := respond_lines h
      unfold Terminal.readLine at hr
      split at hr
      · rename_i hl
        cases hr
        simp [respond] at h
      · rename_i line rest hl
        rw [← h1, hl]
        split at hr
        · cases hr
          exact Nat.lt_succ_of_le h2
        · cases hr

end

end Gamebook.Command.Play
