-- Moves of a player: starting, and pressing an option of the view. What a reader can come to is
-- what moves lead to, and a run of moves is watched by its outcomes and by where the reader stands
-- after each of them.
import Gamebook.Reader
import Mathlib.Tactic.ByContra

namespace Gamebook

/-! ## Moves -/

/-- What a player can do with a reader. -/
inductive Move where
  | start
  | press (position : Nat)
  deriving DecidableEq

namespace Reader

variable {μ σ : Type}

def move (h : Host σ) (story : Story μ) (r : Reader) (s : Session μ σ) :
    Move → Except StoryError NodeView × Reader × Session μ σ
  | .start => r.start h story s
  | .press k => r.press h story s k

/-- The states a new reader can come to, through moves that may fail, in sessions that may change
in between. -/
inductive Reachable (h : Host σ) (story : Story μ) : Reader → Prop
  | new : Reachable h story {}
  | move {r : Reader} (s : Session μ σ) (m : Move) :
      Reachable h story r → Reachable h story (r.move h story s m).2.1

/-! ## Runs of moves -/

/-- The outcomes of moves made one after the other, each with the reader after it. -/
def trail (h : Host σ) (story : Story μ) (r : Reader) (s : Session μ σ) :
    List Move → List (Except StoryError NodeView × Reader)
  | [] => []
  | m :: ms =>
    let next := r.move h story s m
    (next.1, next.2.1) :: next.2.1.trail h story next.2.2 ms

/-- A reader can always be started; what can be pressed stands in its view. -/
def Offers (r : Reader) : Move → Prop
  | .start => True
  | .press k => ∃ view, r.view = some view ∧ k < view.options.length

/-- Each of the moves is offered when its turn comes. -/
def Legal (h : Host σ) (story : Story μ) (r : Reader) (s : Session μ σ) : List Move → Prop
  | [] => True
  | m :: ms =>
    r.Offers m ∧ (r.move h story s m).2.1.Legal h story (r.move h story s m).2.2 ms

/-- A move that is not offered changes nothing. -/
theorem move_of_not_offers {h : Host σ} {story : Story μ} {r : Reader} {m : Move}
    (hm : ¬ r.Offers m) (s : Session μ σ) : (r.move h story s m).2 = (r, s) := by
  cases m with
  | start => exact absurd trivial hm
  | press k =>
    unfold move press pressed
    rcases hv : r.view with _ | view
    · rfl
    · have hk : view.options[k]? = none := by
        rw [List.getElem?_eq_none_iff]
        by_contra hlt
        exact hm ⟨view, hv, by omega⟩
      simp only [hk]

end Reader

/-- Whatever the steps of scripts keep, a move keeps. -/
theorem Session.Kept.move {μ σ : Type} {h : Host σ} {Q : Session μ σ → Session μ σ → Prop}
    (hQ : Kept h Q) (story : Story μ) (r : Reader) (s : Session μ σ) (m : Move) :
    Q s (r.move h story s m).2.2 := by
  cases m with
  | start => exact hQ.start story r s
  | press k => exact hQ.press story r s k

end Gamebook
