-- The errors of building and reading stories. Each error is a cause; its wording and its kind are
-- functions of it.
import Gamebook.Slot.Kind
import Gamebook.Text.Utf8

namespace Gamebook

/-! ## Capabilities -/

/-- What a host may be able to do beyond showing messages. -/
inductive Capability where
  | input | choice | resources
  deriving DecidableEq, Repr

def Capability.name : Capability → String
  | .input => "input"
  | .choice => "choice"
  | .resources => "resources"

/-! ## Failures of files and hosts -/

/-- Why a file, a directory or a stream cannot be read. -/
inductive IoFailure where
  | notFound
  | notDirectory
  | isDirectory
  /-- A name, or a path as a whole, is longer than the system takes. -/
  | nameTooLong
  /-- A path has a zero byte, which would end it. -/
  | zeroInPath
  | notText
  /-- The bytes of a resource are not UTF-8, with the place where they go wrong. -/
  | notUtf8 (fault : Text.Utf8.Fault)
  | other (reason : String)
  deriving DecidableEq, Repr

def IoFailure.message : IoFailure → String
  | .notFound => "No such file or directory (os error 2)"
  | .notDirectory => "Not a directory (os error 20)"
  | .isDirectory => "Is a directory (os error 21)"
  | .nameTooLong => "File name too long (os error 36)"
  | .zeroInPath => "file name contained an unexpected NUL byte"
  | .notText => "stream did not contain valid UTF-8"
  | .notUtf8 fault => fault.message
  | .other reason => reason

inductive HostError where
  | resourceNotFound (name : String)
  /-- The host answered a prompt with an option that was never offered. -/
  | invalidChoice (index : Nat)
  | inputClosed
  | io (failure : IoFailure)
  deriving DecidableEq, Repr

def HostError.message : HostError → String
  | .resourceNotFound name => "resource was not loaded and/or does not exist: " ++ name
  | .invalidChoice index => "host returned unknown choice index " ++ toString index
  | .inputClosed => "input closed before an answer was given"
  | .io failure => "host I/O error: " ++ failure.message

/-! ## Story errors -/

inductive StoryError where
  | duplicateNode (id : String)
  | nodeNotFound (id : String)
  | duplicateStory (id : String)
  /-- A choice that has to yield a value ended on an outcome without one: the label of the
  chosen option, or nothing for a cancelled choice. -/
  | missingYield (label : Option String)
  | unsupported (capability : Capability)
  /-- A slot was read before it was set, and has no default. -/
  | noDefault (slot : String)
  /-- A slot holds a value of another shape than the wanted kind. -/
  | slotType (slot : String) (reason : Kind.Mismatch)
  /-- The stored form of a value would not read back at its kind. -/
  | unstorable (slot : String) (reason : Kind.Mismatch)
  | invalid (reason : String)
  | notStarted
  | optionNotVisible (position : Nat)
  | failed (reason : String)
  /-- The session was closed while a callback ran. -/
  | aborted
  | host (error : HostError)

/-- How an error is dealt with: definition and runtime errors are the author's, host errors the
host's own business, and an abort is not shown at all. -/
inductive ErrorKind where
  | definition | runtime | abort | host
  deriving DecidableEq, Repr

namespace StoryError

def inQuotes (s : String) : String := "\"" ++ s ++ "\""

def message : StoryError → String
  | .duplicateNode id => "duplicate node id: " ++ inQuotes id
  | .nodeNotFound id => "node not found: " ++ inQuotes id
  | .duplicateStory id => "stories built together must not have identical ids: " ++ inQuotes id
  | .missingYield (some label) =>
    "the choice did not specify any value for when choosing " ++ inQuotes label
      ++ "; declare one with `yields` after the option"
  | .missingYield none =>
    "the choice did not specify any value for when cancelling; "
      ++ "declare one with `yield_if_cancelled`"
  | .unsupported capability => "host does not support the " ++ capability.name ++ " capability"
  | .noDefault slot => "no value set for " ++ inQuotes slot ++ " and no default was provided"
  | .slotType slot reason =>
    "environment slot " ++ inQuotes slot ++ " holds an incompatible value: " ++ reason.message
  | .unstorable slot reason =>
    "environment slot " ++ inQuotes slot ++ " cannot store this value: " ++ reason.message
  | .invalid reason => reason
  | .notStarted => "the story has not been started"
  | .optionNotVisible position =>
    "option " ++ toString position ++ " is not visible at the current node"
  | .failed reason => reason
  | .aborted => "story session aborted"
  | .host error => error.message

def kind : StoryError → ErrorKind
  | .failed _ => .runtime
  | .aborted => .abort
  | .host _ => .host
  | _ => .definition

/-- Whether the error is the sign of a closed session. -/
def isAbort : StoryError → Bool
  | .aborted => true
  | _ => false

end StoryError

end Gamebook
