-- Sessions: the environment, the private memory of the callbacks, the state of the host, and the
-- journal of what was noted and asked, in order. Running a script changes the session and gives
-- the script's outcome.
import Gamebook.Script

namespace Gamebook

/-- An entry of the journal. -/
inductive Event where
  | noted (n : Note)
  | asked (r : Request)

/-- A session over private memory `μ` and host states `σ`. -/
structure Session (μ σ : Type) where
  env : Environment
  memory : μ
  host : σ
  journal : List Event := []

namespace Session

variable {μ σ : Type}

def record (s : Session μ σ) (e : Event) : Session μ σ := { s with journal := s.journal ++ [e] }

/-- Puts a request to the host, and into the journal. A request that needs a capability the host
does not have is refused without reaching either. -/
def serve (h : Host σ) (s : Session μ σ) (r : Request) :
    Except StoryError r.Reply × Session μ σ :=
  match h.permits s.host r with
  | .error e => (.error e, s)
  | .ok () => ((h.answer r s.host).1, { s.record (.asked r) with host := (h.answer r s.host).2 })

end Session

namespace Script

variable {μ σ α β : Type}

/-- Runs a script in a session. -/
def run (h : Host σ) : Script μ α → Session μ σ → Except StoryError α × Session μ σ
  | .done a, s => (.ok a, s)
  | .fail e, s => (.error e, s)
  | .readEnv next, s => (next s.env).run h s
  | .writeEnv env next, s => next.run h { s with env := env }
  | .readMemory next, s => (next s.memory).run h s
  | .writeMemory m next, s => next.run h { s with memory := m }
  | .note n next, s => next.run h (s.record (.noted n))
  | .supports c next, s => (next (h.supports s.host c)).run h s
  | .request r next, s => (next (s.serve h r).1).run h (s.serve h r).2

/-- A sequence runs its second part where the first one ended well. -/
theorem run_bind (h : Host σ) (t : Script μ α) (f : α → Script μ β) (s : Session μ σ) :
    (t.bind f).run h s =
      match t.run h s with
      | (.ok a, s') => (f a).run h s'
      | (.error e, s') => (.error e, s') := by
  induction t generalizing s with
  | done a => rfl
  | fail e => rfl
  | readEnv next ih => simp only [bind, run, ih]
  | writeEnv env next ih => simp only [bind, run, ih]
  | readMemory next ih => simp only [bind, run, ih]
  | writeMemory m next ih => simp only [bind, run, ih]
  | note n next ih => simp only [bind, run, ih]
  | supports c next ih => simp only [bind, run, ih]
  | request r next ih => simp only [bind, run, ih]

theorem run_ofExcept (h : Host σ) (x : Except StoryError α) (s : Session μ σ) :
    (ofExcept x).run h s = (x, s) := by
  rcases x with e | a <;> rfl

/-- Asking is what the session does with the request. -/
theorem run_ask (h : Host σ) (r : Request) (s : Session μ σ) : (ask r).run h s = s.serve h r :=
  run_ofExcept h (s.serve h r).1 (s.serve h r).2

end Script

/-! ## What runs keep -/

section

variable {μ σ α : Type}

/-- A relation between the session before and the session after, which every step keeps. -/
structure Session.Kept (h : Host σ) (Q : Session μ σ → Session μ σ → Prop) : Prop where
  refl : ∀ s, Q s s
  trans : ∀ {s s' s''}, Q s s' → Q s' s'' → Q s s''
  env : ∀ s env, Q s { s with env := env }
  memory : ∀ s m, Q s { s with memory := m }
  note : ∀ s n, Q s (s.record (.noted n))
  serve : ∀ s r, Q s (s.serve h r).2

/-- Whatever the steps of scripts keep, a script keeps. -/
theorem Session.Kept.run {h : Host σ} {Q : Session μ σ → Session μ σ → Prop} (hQ : Kept h Q)
    (t : Script μ α) (s : Session μ σ) : Q s (t.run h s).2 := by
  induction t generalizing s with
  | done a => exact hQ.refl s
  | fail e => exact hQ.refl s
  | readEnv next ih => exact ih s.env s
  | writeEnv env next ih => exact hQ.trans (hQ.env s env) (ih _)
  | readMemory next ih => exact ih s.memory s
  | writeMemory m next ih => exact hQ.trans (hQ.memory s m) (ih _)
  | note n next ih => exact hQ.trans (hQ.note s n) (ih _)
  | supports c next ih => exact ih _ s
  | request r next ih => exact hQ.trans (hQ.serve s r) (ih _ _)

end

end Gamebook
