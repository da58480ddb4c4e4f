-- The boundary between a story and whoever presents it. A story reaches its host only through
-- requests; a host is what answers them, over a state of its own.
import Gamebook.Error

namespace Gamebook

/-! ## What passes over the boundary -/

structure Resource where
  name : String
  bytes : List UInt8
  deriving DecidableEq

/-- An option of a choice prompt, with hints for its looks. -/
structure PromptOption where
  label : String
  color : Option String := none
  whiteText : Bool := false
  deriving DecidableEq

inductive Icon where
  | named (name : String)
  | image (resource : Resource)
  deriving DecidableEq

/-- What a host is given to present a choice. -/
structure Prompt where
  cancellable : Bool
  icon : Option Icon
  title : Option String
  text : String
  options : List PromptOption
  deriving DecidableEq

inductive Outcome where
  | chosen (index : Nat)
  | cancelled
  deriving DecidableEq

/-! ## Requests -/

/-- What a story may ask of its host. -/
inductive Request where
  | warn (message : String)
  | error (message : String)
  | close
  | ask (question : String)
  | choose (prompt : Prompt)
  | fetch (name : String)
  | load
  deriving DecidableEq

namespace Request

/-- What a request brings back when it is granted. -/
@[reducible] def Reply : Request → Type
  | .ask _ => String
  | .choose _ => Outcome
  | .fetch _ => Resource
  | _ => Unit

def needs : Request → Option Capability
  | .ask _ => some .input
  | .choose _ => some .choice
  | .fetch _ => some .resources
  | .load => some .resources
  | _ => none

end Request

/-! ## Hosts -/

/-- A host over states `σ`. Messages are always shown; every other request may fail. -/
structure Host (σ : Type) where
  supports : σ → Capability → Bool
  warn : String → σ → σ
  error : String → σ → σ
  close : σ → Except StoryError Unit × σ
  ask : String → σ → Except StoryError String × σ
  choose : Prompt → σ → Except StoryError Outcome × σ
  fetch : String → σ → Except StoryError Resource × σ
  load : σ → Except StoryError Unit × σ

namespace Host

variable {σ : Type}

/-- The host's own answer to a request. -/
def answer (h : Host σ) : (r : Request) → σ → Except StoryError r.Reply × σ
  | .warn m, s => (.ok (), h.warn m s)
  | .error m, s => (.ok (), h.error m s)
  | .close, s => h.close s
  | .ask q, s => h.ask q s
  | .choose p, s => h.choose p s
  | .fetch n, s => h.fetch n s
  | .load, s => h.load s

/-- Whether the host can be asked at all: a request that needs a capability reaches the host
only if the host has it. -/
def permits (h : Host σ) (s : σ) (r : Request) : Except StoryError Unit :=
  match r.needs with
  | none => .ok ()
  | some c => if h.supports s c then .ok () else .error (.unsupported c)

/-- A host without capabilities, which shows nothing and aborts the session when it is closed. -/
def headless : Host Unit where
  supports _ _ := false
  warn _ s := s
  error _ s := s
  close s := (.error .aborted, s)
  ask _ s := (.error (.unsupported .input), s)
  choose _ s := (.error (.unsupported .choice), s)
  fetch _ s := (.error (.unsupported .resources), s)
  load s := (.error (.unsupported .resources), s)

end Host

end Gamebook
