-- A host that answers from lists prepared beforehand: a session can be rehearsed with it. When a
-- list runs out the session is aborted.
import Gamebook.Host

namespace Gamebook

structure Scripted where
  capabilities : List Capability := []
  answers : List (Except StoryError Outcome) := []
  inputs : List (Except StoryError String) := []
  resources : List (String × List UInt8) := []
  /-- Whether resources can be fetched. -/
  loaded : Bool := true
  closing : Except StoryError Unit := .error .aborted

namespace Scripted

/-- The next prepared answer and those after it. -/
def next {α : Type} : List (Except StoryError α) → Except StoryError α × List (Except StoryError α)
  | [] => (.error .aborted, [])
  | a :: rest => (a, rest)

def fetch (name : String) (s : Scripted) : Except StoryError Resource :=
  if s.loaded then
    match s.resources.lookup name with
    | some bytes => .ok { name, bytes }
    | none => .error (.host (.resourceNotFound name))
  else .error (.host (.resourceNotFound name))

def host : Host Scripted where
  supports s c := s.capabilities.contains c
  warn _ s := s
  error _ s := s
  close s := (s.closing, s)
  ask _ s := ((next s.inputs).1, { s with inputs := (next s.inputs).2 })
  choose _ s := ((next s.answers).1, { s with answers := (next s.answers).2 })
  fetch name s := (s.fetch name, s)
  load s := (.ok (), { s with loaded := true })

end Scripted

end Gamebook
