-- The command line: which command is meant, with which file and options, and what running it
-- comes to. Arguments are read from left to right, and the first one that cannot be right, or that
-- asks for the version or for help, ends the reading.
import Gamebook.Command.Info
import Gamebook.Command.Play

namespace Gamebook.Command.Line

/-! ## Commands -/

inductive Verb where
  | play | check | info
  deriving DecidableEq, Repr

def Verb.name : Verb → String
  | .play => "play"
  | .check => "check"
  | .info => "info"

def Verb.ofName? : String → Option Verb
  | "play" => some .play
  | "check" => some .check
  | "info" => some .info
  | _ => none

inductive Invocation where
  | play (file : String) (unknown : Source.UnknownKeys) (config : Play.Config)
  | check (file : String) (unknown : Source.UnknownKeys)
  | info (file : String)

/-- Why the reading of arguments ended before its time. -/
inductive Stop where
  | misuse
  | version (verb : Option Verb)
  | help (verb : Option Verb)
  deriving DecidableEq, Repr

/-! ## Options -/

/-- The options that take a value, and those that do not. -/
inductive Valued where
  | metadata | resources | prompt
  deriving DecidableEq, Repr

inductive Switch where
  | hideUnavailable | dumpEnv | verbose | version | help
  deriving DecidableEq, Repr

/-- The options of a command by their long names. -/
def valued? : Verb → String → Option Valued
  | .play, "metadata" => some .metadata
  | .play, "resources" => some .resources
  | .play, "prompt" => some .prompt
  | .check, "metadata" => some .metadata
  | _, _ => none

def switch? : Option Verb → String → Option Switch
  | some .play, "hide-unavailable" => some .hideUnavailable
  | some .play, "dump-env" => some .dumpEnv
  | _, "verbose" => some .verbose
  | _, "version" => some .version
  | _, "help" => some .help
  | _, _ => none

def short? : Char → Option Switch
  | 'v' => some .verbose
  | 'V' => some .version
  | 'h' => some .help
  | _ => none

def policy? : String → Option Source.UnknownKeys
  | "ignore" => some .ignore
  | "warn" => some .warn
  | "reject" => some .reject
  | _ => none

structure Given where
  file : Option String := none
  metadata : Option Source.UnknownKeys := none
  resources : Option String := none
  prompt : Option String := none
  hideUnavailable : Bool := false
  dumpEnv : Bool := false
  verbose : Bool := false

/-! ## One argument -/

/-- Takes an operand. There is one, and it is not empty. -/
def Given.operand (g : Given) (a : String) : Except Stop Given :=
  if a = "" || g.file.isSome then .error .misuse else .ok { g with file := some a }

/-- Takes the value of an option. No option is given twice. -/
def Given.value (g : Given) (v : String) : Valued → Except Stop Given
  | .metadata =>
    match g.metadata, policy? v with
    | none, some policy => .ok { g with metadata := some policy }
    | _, _ => .error .misuse
  | .resources =>
    if v = "" || g.resources.isSome then .error .misuse else .ok { g with resources := some v }
  | .prompt => if g.prompt.isSome then .error .misuse else .ok { g with prompt := some v }

/-- Takes a switch. No switch is given twice. -/
def Given.switch (verb : Option Verb) (g : Given) : Switch → Except Stop Given
  | .hideUnavailable =>
    if g.hideUnavailable then .error .misuse else .ok { g with hideUnavailable := true }
  | .dumpEnv => if g.dumpEnv then .error .misuse else .ok { g with dumpEnv := true }
  | .verbose => if g.verbose then .error .misuse else .ok { g with verbose := true }
  | .version => .error (.version verb)
  | .help => .error (.help verb)

def Given.shorts (verb : Option Verb) (g : Given) : List Char → Except Stop Given
  | [] => .ok g
  | c :: cs =>
    match short? c with
    | none => .error .misuse
    | some s => do
      let g ← g.switch verb s
      g.shorts verb cs

inductive Shape where
  | operand
  /-- Two dashes alone: what follows is operands. -/
  | divider
  /-- A long name, perhaps with a value after an equals sign. -/
  | long (name : String) (value : Option String)
  | shorts (names : List Char)
  deriving DecidableEq, Repr

def Shape.of (a : String) : Shape :=
  match a.toList with
  | ['-', '-'] => .divider
  | '-' :: '-' :: cs =>
    match Text.cut '=' cs with
    | some (name, value) => .long (String.ofList name) (some (String.ofList value))
    | none => .long (String.ofList cs) none
  | '-' :: c :: cs => .shorts (c :: cs)
  | _ => .operand

/-! ## All arguments -/

/-- Reads what follows a command. -/
def scan (verb : Verb) (g : Given) : List String → Except Stop Given
  | [] => .ok g
  | a :: rest =>
    match Shape.of a with
    | .operand => do
      let g ← g.operand a
      scan verb g rest
    | .divider => rest.foldlM Given.operand g
    | .shorts names => do
      let g ← g.shorts (some verb) names
      scan verb g rest
    | .long name value =>
      match switch? (some verb) name, valued? verb name, value with
      | some s, _, none => do
        let g ← g.switch (some verb) s
        scan verb g rest
      | none, some o, some v => do
        let g ← g.value v o
        scan verb g rest
      | none, some o, none =>
        match rest with
        | [] => .error .misuse
        | v :: rest =>
          if Shape.of v = .operand then do
            let g ← g.value v o
            scan verb g rest
          else .error .misuse
      | _, _, _ => .error .misuse

def Given.invocation (g : Given) (verb : Verb) : Except Stop Invocation :=
  match g.file with
  | none => .error .misuse
  | some file =>
    let unknown := g.metadata.getD .ignore
    match verb with
    | .play =>
      .ok (.play file unknown
        { prompt := g.prompt.getD "> "
          showUnavailable := !g.hideUnavailable
          resourceDir := g.resources
          dumpEnv := g.dumpEnv })
    | .check => .ok (.check file unknown)
    | .info => .ok (.info file)

/-- Reads what follows a call for help: nothing, or one topic. -/
def helpOn : List String → Stop
  | [] => .help none
  | ["help"] => .help none
  | [name] => ((Verb.ofName? name).map fun verb => .help (some verb)).getD .misuse
  | _ => .misuse

/-- Reads the arguments up to the command, and then those of the command. -/
def read (g : Given) : List String → Except Stop Invocation
  | [] => .error .misuse
  | a :: rest =>
    match Shape.of a with
    | .operand =>
      match Verb.ofName? a with
      | some verb => do
        let g ← scan verb {} rest
        g.invocation verb
      | none => .error (if a = "help" then helpOn rest else .misuse)
    | .shorts names => do
      let g ← g.shorts none names
      read g rest
    | .long name none =>
      match switch? none name with
      | some s => do
        let g ← g.switch none s
        read g rest
      | none => .error .misuse
    | _ => .error .misuse

/-! ## Running -/

structure Exit where
  code : Nat := 0
  out : String := ""
  err : String := ""
  deriving DecidableEq, Repr

def programName : String := "storytree"

def version : String := "0.1.0"

def versionText (verb : Option Verb) : String :=
  programName ++ (match verb with | some v => "-" ++ v.name | none => "") ++ " " ++ version ++ "\n"

def usage : String :=
  "Usage: " ++ programName ++ " [--verbose] play|check|info [options] FILE\n"

/-- How the program ends when its arguments name no command to run. -/
def Stop.exit : Stop → Exit
  | .misuse => { code := 2, err := usage }
  | .version verb => { out := versionText verb }
  | .help _ => { out := usage }

def exitOf (r : Report) : Exit :=
  match r.result with
  | .ok () => { out := r.out, err := r.err }
  | .error reason => { code := 1, out := r.out, err := r.err ++ "error: " ++ reason ++ "\n" }

def Invocation.run (files : Files) (color : Bool) (input : List UInt8) : Invocation → Report
  | .play file unknown config => Play.run files { unknownKeys := unknown } config color input file
  | .check file unknown => Check.run files { unknownKeys := unknown } file
  | .info file => Info.run files color file

def run (files : Files) (color : Bool) (input : List UInt8) (args : List String) : Exit :=
  match read {} args with
  | .error stop => stop.exit
  | .ok invocation => exitOf (invocation.run files color input)

end Gamebook.Command.Line
