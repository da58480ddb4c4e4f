-- Diagnostics: problems found in a source, each tied to the line it is on, and the errors that
-- end the reading of one.
import Gamebook.Error
import Gamebook.Source.Line

namespace Gamebook.Source

/-! ## Diagnostics -/

inductive Severity where
  /-- The story cannot be used as it is written. -/
  | error
  /-- The story can be read, but something looks wrong. -/
  | warning
  deriving DecidableEq, Repr

def Severity.name : Severity → String
  | .error => "error"
  | .warning => "warning"

structure Diagnostic where
  severity : Severity
  span : Span
  line : Nat
  message : String
  /-- A short remark under the line, which is the message if there is none. -/
  label : Option String := none
  deriving DecidableEq, Repr

namespace Diagnostic

def isError (d : Diagnostic) : Bool := d.severity = .error

def headline (d : Diagnostic) : String :=
  d.severity.name ++ ": line " ++ toString d.line ++ ": " ++ d.message

end Diagnostic

/-! ## Errors -/

inductive ParseError where
  | io (failure : IoFailure)
  /-- The story cannot be built, because of the given line. -/
  | story (line : Nat) (span : Span) (error : StoryError)
  | unknownKey (line : Nat) (span : Span) (key : String)

namespace ParseError

def unknownKeyText (key : String) : String := "unknown metadata key " ++ StoryError.inQuotes key

def message : ParseError → String
  | .io failure => "cannot read story: " ++ failure.message
  | .story line _ e => "line " ++ toString line ++ ": " ++ e.message
  | .unknownKey line _ key => "line " ++ toString line ++ ": " ++ unknownKeyText key

/-- The error as a diagnostic, if it has a place. -/
def diagnostic? : ParseError → Option Diagnostic
  | .io _ => none
  | .story line span e => some { severity := .error, span, line, message := e.message }
  | .unknownKey line span key =>
    some { severity := .error, span, line, message := unknownKeyText key
           label := some "not one of title, author, initialNode" }

/-- The error as a story error. A story error stays the one it is; its place is dropped. -/
def toStoryError : ParseError → StoryError
  | .io failure => .host (.io failure)
  | .story _ _ e => e
  | e@(.unknownKey _ _ _) => .invalid e.message

end ParseError

end Gamebook.Source
