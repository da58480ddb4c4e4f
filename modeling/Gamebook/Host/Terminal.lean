-- A host on a terminal. It reads answers line by line and shows the story on one stream and its
-- messages on another, so that the two never mix. Every line of the input is read once.
import Gamebook.Host
import Gamebook.Text.Blank
import Gamebook.Text.Numeral
import Gamebook.Text.Style

namespace Gamebook

/-! ## Lines of input -/

/-- The lines of a byte stream, each with its line feed; the last one may lack it. -/
def byteLines : List UInt8 → List (List UInt8)
  | [] => []
  | b :: bs =>
    if b = 10 then [b] :: byteLines bs
    else match byteLines bs with
      | [] => [[b]]
      | l :: ls => (b :: l) :: ls

/-- Nothing of the stream is lost. -/
theorem flatten_byteLines (bs : List UInt8) : (byteLines bs).flatten = bs := by
  induction bs with
  | nil => rfl
  | cons b bs ih =>
    simp only [byteLines]
    split
    · simp [ih]
    · split
      · rename_i h
        rw [h] at ih
        simp at ih
        simp [← ih]
      · rename_i h
        rw [h] at ih
        simpa using ih

/-- The text of a line without the blanks around it, if the line is text at all. -/
def lineText? (line : List UInt8) : Option String :=
  match Text.Utf8.decode line with
  | .ok s => some (String.ofList (Text.trim s.toList))
  | .error _ => none

/-! ## The state of a terminal -/

structure Terminal where
  lines : List (List UInt8)
  color : Bool := false
  /-- What listing the resource directory gives. -/
  directory : Except IoFailure (List (String × List UInt8)) := .error .notFound
  /-- The resources loaded so far. -/
  resources : Dict (List UInt8) := Dict.empty
  /-- Whether the story asked to be closed. -/
  closed : Bool := false
  out : String := ""
  err : String := ""

namespace Terminal

/-! ## Output -/

-- A stream is the text that was written to it, and every write is taken to succeed: a stream that
-- cannot be written to, which would be an error of the host, is left out.

def print (t : Terminal) (text : String) : Terminal := { t with out := t.out ++ text }

def println (t : Terminal) (text : String) : Terminal := t.print (text ++ "\n")

/-- A message goes to the other stream, after its mark. -/
def message (t : Terminal) (style : Text.Style) (mark text : String) : Terminal :=
  { t with err := t.err ++ style.paint t.color mark ++ " " ++ text ++ "\n" }

def warn (t : Terminal) (text : String) : Terminal :=
  t.message Text.Style.boldYellow "warning:" text

def error (t : Terminal) (text : String) : Terminal := t.message Text.Style.boldRed "error:" text

/-! ## Input -/

def notText : StoryError := .host (.io .notText)

/-- Shows a prompt and reads a line; nothing at the end of the input. -/
def readLine (t : Terminal) (prompt : String) : Except StoryError (Option String) × Terminal :=
  match t.lines with
  | [] => (.ok none, t.print prompt)
  | line :: rest =>
    let t := { t.print prompt with lines := rest }
    match lineText? line with
    | some text => (.ok (some text), t)
    | none => (.error notText, t)

def arrow : String := "> "

/-! ## Questions -/

/-- Reads lines until one is not empty. -/
def askFrom (t : Terminal) : (lines : List (List UInt8)) → Except StoryError String × Terminal
  | [] => (.error (.host .inputClosed), { t.print arrow with lines := [] })
  | line :: rest =>
    match lineText? line with
    | none => (.error notText, { t.print arrow with lines := rest })
    | some text =>
      if text = "" then askFrom (t.print arrow) rest
      else (.ok text, { t.print arrow with lines := rest })

def ask (t : Terminal) (question : String) : Except StoryError String × Terminal :=
  askFrom ((t.println "").println question) t.lines

/-! ## Choices -/

/-- The line of an option with its number. -/
def optionLine (color : Bool) (number : Nat) (o : PromptOption) : String :=
  let line := "  " ++ toString number ++ ") " ++ o.label
  match o.color with
  | none => line
  | some name =>
    (if o.whiteText then Text.Style.whiteOn name else Text.Style.foreground name).paint color line

def showOptions (t : Terminal) (number : Nat) : List PromptOption → Terminal
  | [] => t
  | o :: os => showOptions (t.println (optionLine t.color number o)) (number + 1) os

/-- The heading of a prompt with a title. -/
def heading (icon : Option Icon) (title : String) : String :=
  match icon with
  | some (.named name) => "[" ++ name ++ "] " ++ title
  | _ => title

def showPrompt (t : Terminal) (p : Prompt) : Terminal :=
  let t := t.println ""
  let t := match p.title with
    | some title => t.println (Text.Style.bold.paint t.color (heading p.icon title))
    | none => t
  let t := (t.println p.text).println ""
  let t := t.showOptions 1 p.options
  if p.cancellable then t.println (Text.Style.dimmed.paint t.color "  0) Cancel") else t

/-- What an answer means among `count` options. -/
def decide? (cancellable : Bool) (count : Nat) (answer : String) : Option Outcome :=
  match Text.numeral? answer with
  | some 0 => if cancellable then some .cancelled else none
  | some (n + 1) => if n < count then some (.chosen n) else none
  | none => none

/-- Reads lines until one decides the prompt; each of the others is warned of. -/
def chooseFrom (cancellable : Bool) (count : Nat) (t : Terminal) :
    (lines : List (List UInt8)) → Except StoryError Outcome × Terminal
  | [] =>
    (if cancellable then .ok .cancelled else .error (.host .inputClosed),
      { t.print arrow with lines := [] })
  | line :: rest =>
    match lineText? line with
    | none => (.error notText, { t.print arrow with lines := rest })
    | some text =>
      match decide? cancellable count text with
      | some outcome => (.ok outcome, { t.print arrow with lines := rest })
      | none =>
        chooseFrom cancellable count
          ((t.print arrow).warn ("enter a number between 1 and " ++ toString count)) rest

def choose (t : Terminal) (p : Prompt) : Except StoryError Outcome × Terminal :=
  chooseFrom p.cancellable p.options.length (t.showPrompt p) t.lines

/-! ## Resources and the end -/

/-- Loads every file of the resource directory; a directory that does not exist has none. -/
def load (t : Terminal) : Except StoryError Unit × Terminal :=
  match t.directory with
  | .ok files => (.ok (), { t with resources := t.resources.insertAll files })
  | .error .notFound => (.ok (), t)
  | .error failure => (.error (.host (.io failure)), t)

def fetch (t : Terminal) (name : String) : Except StoryError Resource :=
  match t.resources.get? name with
  | some bytes => .ok { name, bytes }
  | none => .error (.host (.resourceNotFound name))

/-- A terminal as a host with every capability. Closing the story aborts the session. -/
def host : Host Terminal where
  supports _ _ := true
  warn m t := t.warn m
  error m t := t.error m
  close t := (.error .aborted, { t with closed := true })
  ask q t := t.ask q
  choose p t := t.choose p
  fetch name t := (t.fetch name, t)
  load t := t.load

/-! ## What is written -/

/-- The terminal with more on its two streams. -/
def writes (t : Terminal) (out err : String) : Terminal :=
  { t with out := t.out ++ out, err := t.err ++ err }

theorem print_eq (t : Terminal) (text : String) : t.print text = t.writes text "" := by
  simp only [print, writes, String.append_empty]

theorem println_eq (t : Terminal) (text : String) : t.println text = t.writes (text ++ "\n") "" :=
  t.print_eq (text ++ "\n")

@[simp] theorem writes_nothing (t : Terminal) : t.writes "" "" = t := by
  simp only [writes, String.append_empty]

@[simp] theorem writes_writes (t : Terminal) (out err out' err' : String) :
    (t.writes out err).writes out' err' = t.writes (out ++ out') (err ++ err') := by
  simp only [writes, String.append_assoc]

@[simp] theorem writes_color (t : Terminal) (out err : String) :
    (t.writes out err).color = t.color := rfl

@[simp] theorem writes_lines (t : Terminal) (out err : String) :
    (t.writes out err).lines = t.lines := rfl

@[simp] theorem writes_closed (t : Terminal) (out err : String) :
    (t.writes out err).closed = t.closed := rfl

/-- A warning as it is written. -/
def warning (color : Bool) (text : String) : String :=
  (if color then "\x1b[1;33mwarning:\x1b[0m" else "warning:") ++ " " ++ text ++ "\n"

theorem warn_eq (t : Terminal) (text : String) :
    t.warn text = t.writes "" (warning t.color text) := by
  have hmark : Text.Style.boldYellow.paint t.color "warning:" =
      if t.color then "\x1b[1;33mwarning:\x1b[0m" else "warning:" := by
    cases t.color <;> decide
  simp only [warn, message, hmark, warning, writes, String.append_empty, String.append_assoc]

/-- The lines of some options, numbered from `number` on. -/
def menu (color : Bool) (number : Nat) (os : List PromptOption) : String :=
  String.join ((os.zipIdx number).map fun (o, n) => optionLine color n o ++ "\n")

/-- A prompt as it is written. -/
def page (color : Bool) (p : Prompt) : String :=
  let title := match p.title with
    | some title => Text.Style.bold.paint color (heading p.icon title) ++ "\n"
    | none => ""
  let cancel :=
    if p.cancellable then if color then "\x1b[2m  0) Cancel\x1b[0m\n" else "  0) Cancel\n" else ""
  "\n" ++ title ++ p.text ++ "\n\n" ++ menu color 1 p.options ++ cancel

theorem showOptions_eq (t : Terminal) (number : Nat) (os : List PromptOption) :
    t.showOptions number os = t.writes (menu t.color number os) "" := by
  induction os generalizing t number with
  | nil => exact t.writes_nothing.symm
  | cons o os ih =>
    rw [showOptions, ih, println_eq, writes_writes]
    simp only [menu, List.zipIdx_cons, List.map_cons, String.join_cons, writes_color,
      String.append_empty]

theorem showPrompt_eq (t : Terminal) (p : Prompt) :
    t.showPrompt p = t.writes (page t.color p) "" := by
  have hcancel : Text.Style.dimmed.paint t.color "  0) Cancel" ++ "\n" =
      if t.color then "\x1b[2m  0) Cancel\x1b[0m\n" else "  0) Cancel\n" := by
    cases t.color <;> decide
  unfold showPrompt page
  rw [← hcancel]
  rcases p.title with _ | title
  · cases p.cancellable <;> simp [println_eq, showOptions_eq, String.append_assoc]
  · cases p.cancellable <;> simp [println_eq, showOptions_eq, String.append_assoc]

/-! ## Lines are only taken -/

theorem askFrom_lines (t : Terminal) (ls : List (List UInt8)) :
    (askFrom t ls).2.lines <:+ ls := by
  induction ls generalizing t with
  | nil => exact List.suffix_rfl
  | cons l ls ih =>
    simp only [askFrom]
    split
    · exact List.suffix_cons l ls
    · split
      · exact (ih _).trans (List.suffix_cons l ls)
      · exact List.suffix_cons l ls

/-- A question that can read a line takes it. -/
theorem askFrom_cons_lines (t : Terminal) (l : List UInt8) (ls : List (List UInt8)) :
    (askFrom t (l :: ls)).2.lines <:+ ls := by
  simp only [askFrom]
  split
  · exact List.suffix_rfl
  · split
    · exact askFrom_lines _ ls
    · exact List.suffix_rfl

theorem chooseFrom_lines (cancellable : Bool) (count : Nat) (t : Terminal)
    (ls : List (List UInt8)) : (chooseFrom cancellable count t ls).2.lines <:+ ls := by
  induction ls generalizing t with
  | nil => exact List.suffix_rfl
  | cons l ls ih =>
    simp only [chooseFrom]
    split
    · exact List.suffix_cons l ls
    · split
      · exact List.suffix_cons l ls
      · exact (ih _).trans (List.suffix_cons l ls)

/-- A choice that can read a line takes it. -/
theorem chooseFrom_cons_lines (cancellable : Bool) (count : Nat) (t : Terminal) (l : List UInt8)
    (ls : List (List UInt8)) : (chooseFrom cancellable count t (l :: ls)).2.lines <:+ ls := by
  simp only [chooseFrom]
  split
  · exact List.suffix_rfl
  · split
    · exact List.suffix_rfl
    · exact chooseFrom_lines cancellable count _ ls

theorem readLine_lines (t : Terminal) (prompt : String) :
    (t.readLine prompt).2.lines <:+ t.lines := by
  unfold readLine
  split
  · exact List.suffix_rfl
  · rename_i line rest hl
    rw [hl]
    split <;> exact List.suffix_cons line rest

theorem load_lines (t : Terminal) : t.load.2.lines = t.lines := by
  unfold load
  split <;> rfl

/-- No request gives lines back to the input. -/
theorem answer_lines (r : Request) (t : Terminal) :
    (host.answer r t).2.lines <:+ t.lines := by
  cases r with
  | warn m => exact List.suffix_rfl
  | error m => exact List.suffix_rfl
  | close => exact List.suffix_rfl
  | ask q => exact askFrom_lines _ _
  | choose p => exact chooseFrom_lines _ _ _ _
  | fetch n => exact List.suffix_rfl
  | load =>
    have hload : (host.answer .load t).2.lines = t.lines := load_lines t
    exact hload ▸ List.suffix_rfl

/-! ## When a terminal is closed -/

theorem readLine_closed (t : Terminal) (prompt : String) :
    (t.readLine prompt).2.closed = t.closed := by
  unfold readLine
  split
  · rfl
  · split <;> rfl

theorem askFrom_closed (t : Terminal) (ls : List (List UInt8)) :
    (askFrom t ls).2.closed = t.closed := by
  induction ls generalizing t with
  | nil => rfl
  | cons l ls ih =>
    simp only [askFrom]
    split
    · rfl
    · split
      · exact ih (t.print arrow)
      · rfl

theorem chooseFrom_closed (cancellable : Bool) (count : Nat) (t : Terminal)
    (ls : List (List UInt8)) : (chooseFrom cancellable count t ls).2.closed = t.closed := by
  induction ls generalizing t with
  | nil => rfl
  | cons l ls ih =>
    simp only [chooseFrom]
    split
    · rfl
    · split
      · rfl
      · exact ih _

/-- A request closes the terminal if that is what it asks for, and in no other case. -/
theorem answer_closed (r : Request) (t : Terminal) :
    (host.answer r t).2.closed = true ↔ t.closed = true ∨ r = .close := by
  cases r with
  | warn m => simp [Host.answer, host, warn, message]
  | error m => simp [Host.answer, host, error, message]
  | close => simp [Host.answer, host]
  | ask q =>
    have hclosed : (host.answer (.ask q) t).2.closed = t.closed := askFrom_closed _ _
    simp [hclosed]
  | choose p =>
    have hclosed : (host.answer (.choose p) t).2.closed = (t.showPrompt p).closed :=
      chooseFrom_closed _ _ _ _
    simp [hclosed, showPrompt_eq]
  | fetch n => simp [Host.answer, host]
  | load =>
    have hclosed : (host.answer .load t).2.closed = t.closed := by
      simp only [Host.answer, host, load]
      split <;> rfl
    simp [hclosed]

/-! ## New terminals -/

/-- A terminal without input. -/
def blank (color : Bool) : Terminal := { lines := [], color }

def ofInput (input : List UInt8) (color : Bool)
    (directory : Except IoFailure (List (String × List UInt8))) : Terminal :=
  { lines := byteLines input, color, directory }

end Terminal

end Gamebook
