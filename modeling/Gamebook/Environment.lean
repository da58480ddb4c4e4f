-- The environment: named slots that outlive any single story of a session. A slot holds the
-- stored form of the value last written to it; a read at a kind decodes that form, and a write is
-- refused unless the stored form reads back at the kind.
import Gamebook.Error

namespace Gamebook

structure Environment where
  slots : Dict Value

namespace Environment

def empty : Environment := ⟨Dict.empty⟩

instance : Inhabited Environment := ⟨empty⟩

/-! ## Reading and writing at a kind -/

/-- The stored form of a value for a slot, if it reads back at the kind. -/
def store (name : String) (k : Kind) (x : k.Carrier) : Except StoryError Value :=
  match k.decode (k.encode x) with
  | .ok _ => .ok (k.encode x)
  | .error reason => .error (.unstorable name reason)

def recover (name : String) (k : Kind) (v : Value) : Except StoryError k.Carrier :=
  match k.decode v with
  | .ok x => .ok x
  | .error reason => .error (.slotType name reason)

def set (env : Environment) (name : String) (k : Kind) (x : k.Carrier) :
    Except StoryError Unit × Environment :=
  match store name k x with
  | .ok v => (.ok (), ⟨env.slots.insert name v⟩)
  | .error e => (.error e, env)

/-- Reads a slot, which takes the default if it is empty. The default of a filled slot is not
looked at. -/
def get (env : Environment) (name : String) (k : Kind) (default : k.Carrier) :
    Except StoryError k.Carrier × Environment :=
  match env.slots.get? name with
  | some v => (recover name k v, env)
  | none =>
    match store name k default with
    | .ok v => (.ok default, ⟨env.slots.insert name v⟩)
    | .error e => (.error e, env)

def getRequired (env : Environment) (name : String) (k : Kind) : Except StoryError k.Carrier :=
  match env.slots.get? name with
  | some v => recover name k v
  | none => .error (.noDefault name)

/-! ## The slots as such -/

def contains (env : Environment) (name : String) : Bool := env.slots.contains name

/-- Empties a slot and gives the form it held. -/
def remove (env : Environment) (name : String) : Option Value × Environment :=
  (env.slots.get? name, ⟨env.slots.erase name⟩)

/-- The names of the filled slots, ascending. -/
def names (env : Environment) : List String := env.slots.keys

/-- The filled slots with their stored forms, ascending by name. -/
def snapshot (env : Environment) : List (String × Value) := env.slots.entries

def clear (_ : Environment) : Environment := empty

/-! ## Typed handles -/

/-- A named slot of a fixed kind, with or without a default. -/
structure Slot (k : Kind) where
  name : String
  default : Option k.Carrier

def Slot.get {k : Kind} (slot : Slot k) (env : Environment) :
    Except StoryError k.Carrier × Environment :=
  match slot.default with
  | some x => env.get slot.name k x
  | none => (env.getRequired slot.name k, env)

def Slot.set {k : Kind} (slot : Slot k) (env : Environment) (x : k.Carrier) :
    Except StoryError Unit × Environment :=
  env.set slot.name k x

end Environment

/-! ## Calls as data -/

inductive EnvCall where
  | get (name : String) (k : Kind) (default : k.Carrier)
  | getRequired (name : String) (k : Kind)
  | set (name : String) (k : Kind) (x : k.Carrier)
  | slotGet (k : Kind) (slot : Environment.Slot k)
  | slotSet (k : Kind) (slot : Environment.Slot k) (x : k.Carrier)
  | contains (name : String)
  | remove (name : String)
  | names
  | snapshot
  | clear

namespace EnvCall

/-- Slots with their stored forms, as a list of pairs. -/
def listing (slots : List (String × Value)) : Value :=
  .list (slots.map fun (name, v) => .list [.str name, v])

/-- Carries a call out. The answer is given as a value: null where the call only acts. -/
def run (env : Environment) : EnvCall → Except StoryError Value × Environment
  | .get name k x =>
    let (r, env) := env.get name k x
    (r.map k.toValue, env)
  | .getRequired name k => ((env.getRequired name k).map k.toValue, env)
  | .set name k x =>
    let (r, env) := env.set name k x
    (r.map fun _ => .null, env)
  | .slotGet k slot =>
    let (r, env) := slot.get env
    (r.map k.toValue, env)
  | .slotSet _ slot x =>
    let (r, env) := slot.set env x
    (r.map fun _ => .null, env)
  | .contains name => (.ok (.bool (env.contains name)), env)
  | .remove name =>
    let (v, env) := env.remove name
    (.ok (.list v.toList), env)
  | .names => (.ok (.list (env.names.map .str)), env)
  | .snapshot => (.ok (listing env.snapshot), env)
  | .clear => (.ok .null, env.clear)

/-- Carries calls out one after the other, whatever fails. -/
def runAll (env : Environment) : List EnvCall → List (Except StoryError Value) × Environment
  | [] => ([], env)
  | c :: cs =>
    let (r, env) := c.run env
    let (rs, env) := runAll env cs
    (r :: rs, env)

end EnvCall

end Gamebook
