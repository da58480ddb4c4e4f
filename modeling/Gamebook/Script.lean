-- Scripts: what a callback of a story does, as a tree of steps. A script may read and change the
-- environment and the private memory that the callbacks of a story share, note something in the
-- journal of the session, and ask the host; it ends in a value or in an error. Every script ends,
-- whatever it is answered, and it never sees what the host has shown.
import Gamebook.Environment
import Gamebook.Host

namespace Gamebook

/-! ## Steps -/

/-- Something a script writes into the journal of the session. -/
inductive Note where
  | logged (v : Value)
  | counted (options : Nat)
  | attempted (outcome : Except StoryError Unit)

/-- A script over private memory `μ`. -/
inductive Script (μ α : Type) where
  | done (a : α)
  | fail (e : StoryError)
  | readEnv (next : Environment → Script μ α)
  | writeEnv (env : Environment) (next : Script μ α)
  | readMemory (next : μ → Script μ α)
  | writeMemory (m : μ) (next : Script μ α)
  | note (n : Note) (next : Script μ α)
  | supports (c : Capability) (next : Bool → Script μ α)
  | request (r : Request) (next : Except StoryError r.Reply → Script μ α)

namespace Script

variable {μ α β : Type}

/-- Runs `s`, then goes on with its value; an error ends the whole. -/
def bind : Script μ α → (α → Script μ β) → Script μ β
  | .done a, f => f a
  | .fail e, _ => .fail e
  | .readEnv next, f => .readEnv fun env => (next env).bind f
  | .writeEnv env next, f => .writeEnv env (next.bind f)
  | .readMemory next, f => .readMemory fun m => (next m).bind f
  | .writeMemory m next, f => .writeMemory m (next.bind f)
  | .note n next, f => .note n (next.bind f)
  | .supports c next, f => .supports c fun b => (next b).bind f
  | .request r next, f => .request r fun a => (next a).bind f

instance : Monad (Script μ) where
  pure := .done
  bind := .bind

/-- Runs a script and gives its outcome as a value, so that an error can be looked at. -/
def attempt : Script μ α → Script μ (Except StoryError α)
  | .done a => .done (.ok a)
  | .fail e => .done (.error e)
  | .readEnv next => .readEnv fun env => (next env).attempt
  | .writeEnv env next => .writeEnv env next.attempt
  | .readMemory next => .readMemory fun m => (next m).attempt
  | .writeMemory m next => .writeMemory m next.attempt
  | .note n next => .note n next.attempt
  | .supports c next => .supports c fun b => (next b).attempt
  | .request r next => .request r fun a => (next a).attempt

@[simp] theorem pure_eq (a : α) : (pure a : Script μ α) = .done a := rfl
@[simp] theorem bind_eq (s : Script μ α) (f : α → Script μ β) : s >>= f = s.bind f := rfl
@[simp] theorem bind_done (a : α) (f : α → Script μ β) : (Script.done a).bind f = f a := rfl

/-! ## Scripts of one step -/

def ofExcept : Except StoryError α → Script μ α
  | .ok a => .done a
  | .error e => .fail e

/-- Carries out an operation on the environment. -/
def onEnv (op : Environment → Except StoryError α × Environment) : Script μ α :=
  .readEnv fun env => .writeEnv (op env).2 (ofExcept (op env).1)

/-- Asks the host; an error of the host is the script's error. -/
def ask (r : Request) : Script μ r.Reply := .request r ofExcept

/-- Fails unless the host has a capability. -/
def require (c : Capability) : Script μ Unit :=
  .supports c fun b => if b then .done () else .fail (.unsupported c)

def write (n : Note) : Script μ Unit := .note n (.done ())

end Script

end Gamebook
