-- Expressions: callbacks written as data. An expression computes a value in the scope of a story,
-- reading and changing the environment, noting values in the journal and asking the host on the
-- way; its first error ends it.
import Gamebook.Choices
import Gamebook.Story.Scope
import Gamebook.Value.Document

namespace Gamebook

/-! ## The type -/

inductive Expr where
  | literal (v : Value)
  /-- Notes a value in the journal. -/
  | log (e : Expr)
  /-- The value of the last of several expressions. -/
  | seq (es : List Expr)
  /-- The texts of several expressions, one after the other. -/
  | cat (es : List Expr)
  | add (a b : Expr)
  | less (a b : Expr)
  | same (a b : Expr)
  | negate (e : Expr)
  | choose (test yes no : Expr)
  | env (call : EnvCall)
  /-- Writes a computed value to a slot. -/
  | put (slot : String) (k : Kind) (e : Expr)
  | raise (e : StoryError)
  | ask (question : Expr)
  | warn (message : Expr)
  | error (message : Expr)
  | close
  | supports (c : Capability)
  | require (c : Capability)
  | nodeExists (id : Expr)
  | nodeRef (id : Expr)
  | requireNode (id : Expr)
  | nodeText (id : Expr)
  | initial
  | story
  /-- The name and the bytes of a resource, in hexadecimal. A host without resources is refused
  before the name is computed. -/
  | fetch (name : Expr)
  | fetchText (name : Expr)
  | load
  /-- A choice whose outcome is the value, or, if it yields, the value of its yield. What is bound
  to a key is given beside the list of the keys. -/
  | prompt (request : Prompt) (yielding : Bool) (actionKeys : List (Option Nat))
      (actions : List Expr) (yieldKeys : List (Option Nat)) (yields : List Expr)

namespace Expr

instance : Inhabited Expr := ⟨.literal .null⟩

/-! ## Arithmetic and texts -/

/-- The sum of two integers, wrapped to the signed range of 64 bits. -/
def wrappingAdd (a b : Int) : Int := (a + b).bmod 0x10000000000000000

/-- Bytes in hexadecimal, two digits for each. -/
def hex (bytes : List UInt8) : String :=
  String.ofList (bytes.flatMap fun b => [hexDigit (b.toNat / 16), hexDigit (b.toNat % 16)])

def ofOutcome : Outcome → Value
  | .chosen index => .list [.str "chosen", .int index]
  | .cancelled => .list [.str "cancelled"]

/-! ## Evaluation -/

section

variable {μ : Type}

mutual

def eval (scope : Scope μ) : Expr → Script μ Value
  | .literal v => return v
  | .log e => do
    let v ← eval scope e
    Script.write (.logged v)
    return .null
  | .seq es => do return (← evalAll scope es).getLast?.getD .null
  | .cat es => do return .str (String.join ((← evalAll scope es).map Value.asText))
  | .add a b => do
    let x ← eval scope a
    let y ← eval scope b
    return .int (wrappingAdd x.toInt y.toInt)
  | .less a b => do
    let x ← eval scope a
    let y ← eval scope b
    return .bool (x.toInt < y.toInt)
  | .same a b => do
    let x ← eval scope a
    let y ← eval scope b
    return .bool (x.same y)
  | .negate e => do return .bool !(← eval scope e).isTrue
  | .choose test yes no => do
    if (← eval scope test).isTrue then eval scope yes else eval scope no
  | .env call => Script.onEnv fun env => call.run env
  | .put slot k e => do
    let v ← eval scope e
    match k.decode v with
    | .ok x => Script.onEnv fun env => EnvCall.run env (.set slot k x)
    | .error reason => .fail (.unstorable slot reason)
  | .raise e => .fail e
  | .ask e => do
    let question ← eval scope e
    return .str (← Script.ask (.ask question.asText))
  | .warn e => do
    let message ← eval scope e
    Script.ask (.warn message.asText)
    return .null
  | .error e => do
    let message ← eval scope e
    Script.ask (.error message.asText)
    return .null
  | .close => do
    Script.ask .close
    return .null
  | .supports c => .supports c fun b => .done (.bool b)
  | .require c => do
    Script.require c
    return .null
  | .nodeExists e => do return .bool (scope.nodeExists (← eval scope e).asText)
  | .nodeRef e => do
    let id ← eval scope e
    return ((scope.nodeRef? id.asText).map .str).getD .null
  | .requireNode e => do
    let id ← eval scope e
    return .str (← Script.ofExcept (scope.requireNode id.asText))
  | .nodeText e => do
    let id ← eval scope e
    return .str (← scope.nodeText id.asText)
  | .initial => do return .str (← scope.initialNode ())
  | .story =>
    return .list [.str scope.title, .str scope.author, .str scope.storyId,
      .int scope.nodeIds.length]
  | .fetch e => do
    Script.require .resources
    let name ← eval scope e
    let resource ← Script.ask (.fetch name.asText)
    return .list [.str resource.name, .str (hex resource.bytes)]
  | .fetchText e => do
    Script.require .resources
    let name ← eval scope e
    let resource ← Script.ask (.fetch name.asText)
    return .str (Text.Utf8.decodeLenient resource.bytes)
  | .load => do
    Script.ask .load
    return .null
  | .prompt request yielding actionKeys actions yieldKeys yields =>
    let choices : Choices μ Value :=
      { text := request.text, title := request.title, icon := request.icon
        cancellable := request.cancellable, options := request.options
        actions := actionKeys.zip ((scripts scope actions).map fun t => do let _ ← t)
        yields := yieldKeys.zip (scripts scope yields) }
    if yielding then choices.resolve else do return ofOutcome (← choices.run)

def evalAll (scope : Scope μ) : List Expr → Script μ (List Value)
  | [] => return []
  | e :: es => do
    let v ← eval scope e
    let vs ← evalAll scope es
    return v :: vs

/-- The scripts of expressions, none of them run. -/
def scripts (scope : Scope μ) : List Expr → List (Script μ Value)
  | [] => []
  | e :: es => eval scope e :: scripts scope es

end

/-! ## Expressions as callbacks -/

def text (e : Expr) : Producer μ String := fun scope => do return (← e.eval scope).asText

def predicate (e : Expr) : Producer μ Bool := fun scope => do return (← e.eval scope).isTrue

def hook (e : Expr) : Producer μ Unit := fun scope => do let _ ← e.eval scope

/-- Goes to the node that a string names, without looking it up, and stays for any other value. -/
def transition (e : Expr) : Producer μ (Option String) := fun scope => do
  match ← e.eval scope with
  | .str id => return some id
  | _ => return none

end

end Expr

end Gamebook
