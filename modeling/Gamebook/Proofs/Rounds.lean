-- What happens in a game, beat by beat. Before the first round the resources are loaded, the story
-- is introduced and the reader is started; a round shows a view and, if there is something to pick,
-- reads one line itself. Every reader that a round begins with has a view, so a round can only fail
-- by what the host or a callback says, and by a node that is not there.
import Gamebook.Command.Play
import Gamebook.Proofs.Menus
import Gamebook.Proofs.ReaderStates
import Gamebook.Proofs.TerminalRuns

namespace Gamebook.Command.Play

section

variable {μ : Type} {story : Story μ} {c : Config} {r r' : Reader} {s s' : Game μ}

/-! ## Beats -/

/-- Something that a game does. -/
inductive Beat where
  | loads (outcome : Except StoryError Unit)
  | introduces
  /-- The reader is moved, and the callbacks of the story run that are called for it. -/
  | moves (m : Move) (calls : List Entry) (outcome : Except StoryError NodeView)
  /-- The view of a reader is shown, with its options. -/
  | draws (r : Reader)
  | ends
  | reads (answer : Except StoryError (Option String))
  | warns (message : String)

/-- Whether a line is read that is text. -/
def Beat.takesLine : Beat → Bool
  | .reads (.ok (some _)) => true
  | _ => false

/-! ## What is shown -/

/-- The game with more that was shown. -/
def showing (s : Game μ) (out err : String) : Game μ := { s with host := s.host.writes out err }

theorem showing_showing (s : Game μ) (out err out' err' : String) :
    showing (showing s out err) out' err' = showing s (out ++ out') (err ++ err') := by
  simp [showing]

/-- The title and the author of a story, as far as it has them. -/
def introduction (story : Story μ) (color : Bool) : String :=
  let title :=
    if story.title = "" then "" else Text.Style.bold.paint color story.title ++ "\n"
  let author :=
    if story.author = "" then ""
    else Text.Style.dimmed.paint color ("by " ++ story.author) ++ "\n"
  title ++ author

def introduced (story : Story μ) (s : Game μ) : Game μ :=
  showing s (introduction story s.host.color) ""

/-- A view with the options that are shown. -/
def screen (c : Config) (color : Bool) (view : NodeView) : String :=
  preface view ++ menuFrom color 1 ((numbered c view).map Prod.fst)

def drawn (c : Config) (s : Game μ) (view : NodeView) : Game μ :=
  showing s (screen c s.host.color view) ""

def theEnd (color : Bool) : String := if color then "\x1b[1mThe End\x1b[0m\n" else "The End\n"

def ended (s : Game μ) : Game μ := showing s (theEnd s.host.color) ""

theorem onTerminal_introduce (story : Story μ) (s : Game μ) :
    onTerminal s (introduce story) = introduced story s := by
  have hintroduce : introduce story s.host =
      s.host.writes (introduction story s.host.color) "" := by
    unfold introduce introduction
    by_cases htitle : story.title = ""
    · by_cases hauthor : story.author = "" <;> simp [htitle, hauthor, Terminal.println_eq]
    · by_cases hauthor : story.author = "" <;> simp [htitle, hauthor, Terminal.println_eq]
  rw [onTerminal, hintroduce]
  rfl

theorem onTerminal_render (c : Config) (s : Game μ) (view : NodeView) :
    (onTerminal s fun t => render c t view) = drawn c s view := by
  rw [onTerminal, render_eq, Terminal.print_eq]
  rfl

theorem onTerminal_theEnd (s : Game μ) :
    (onTerminal s fun t => t.println (Text.Style.bold.paint t.color "The End")) = ended s := by
  have htext : Text.Style.bold.paint s.host.color "The End" ++ "\n" = theEnd s.host.color := by
    cases s.host.color <;> decide
  rw [onTerminal, Terminal.println_eq, htext]
  rfl

theorem onTerminal_warn (s : Game μ) (message : String) :
    (onTerminal s fun t => t.warn message) =
      showing s "" (Terminal.warning s.host.color message) := by
  rw [onTerminal, Terminal.warn_eq]
  rfl

/-! ## Rounds -/

/-- Shows a view and reads an answer. -/
def asked (c : Config) (s : Game μ) (view : NodeView) :
    Except StoryError (Option String) × Game μ :=
  let out := (drawn c s view).host.readLine c.prompt
  (out.1, { drawn c s view with host := out.2 })

def Turn.game : Turn μ → Game μ
  | .over _ s => s
  | .next _ s => s

/-- How a round can go: its beats, and how the game is then. -/
inductive Round (story : Story μ) (c : Config) (r : Reader) (s : Game μ) :
    List Beat → Turn μ → Prop
  | ends {view : NodeView} (hv : r.view = some view) (hnone : shown c view = []) :
      Round story c r s [.draws r, .ends] (.over (.ok ()) (ended (drawn c s view)))
  | inputEnds {view : NodeView} {s' : Game μ} (hv : r.view = some view) (hsome : shown c view ≠ [])
      (hread : asked c s view = (.ok none, s')) :
      Round story c r s [.draws r, .reads (.ok none)] (.over (.ok ()) s')
  | readFails {view : NodeView} {e : StoryError} {s' : Game μ} (hv : r.view = some view)
      (hsome : shown c view ≠ []) (hread : asked c s view = (.error e, s')) :
      Round story c r s [.draws r, .reads (.error e)] (.over (.error e) s')
  | quits {view : NodeView} {answer : String} {s' : Game μ} (hv : r.view = some view)
      (hsome : shown c view ≠ []) (hread : asked c s view = (.ok (some answer), s'))
      (hquit : Quits answer) :
      Round story c r s [.draws r, .reads (.ok (some answer))] (.over (.ok ()) s')
  | refuses {view : NodeView} {answer message : String} {s' : Game μ} (hv : r.view = some view)
      (hsome : shown c view ≠ []) (hread : asked c s view = (.ok (some answer), s'))
      (hquit : ¬ Quits answer) (hpick : pick answer (shown c view) view = .error message) :
      Round story c r s [.draws r, .reads (.ok (some answer)), .warns message]
        (.next r (showing s' "" (Terminal.warning s'.host.color message)))
  | pressFails {view : NodeView} {answer : String} {k : Nat} {e : StoryError} {r' : Reader}
      {s' s'' : Game μ} (hv : r.view = some view) (hsome : shown c view ≠ [])
      (hread : asked c s view = (.ok (some answer), s')) (hquit : ¬ Quits answer)
      (hpick : pick answer (shown c view) view = .ok k)
      (hpress : r.move Terminal.host story s' (.press k) = (.error e, r', s'')) :
      Round story c r s
        [.draws r, .reads (.ok (some answer)),
          .moves (.press k) (r.calls Terminal.host story s' (.press k)) (.error e)]
        (.over (.error e) s'')
  | goesOn {view view' : NodeView} {answer : String} {k : Nat} {r' : Reader} {s' s'' : Game μ}
      (hv : r.view = some view) (hsome : shown c view ≠ [])
      (hread : asked c s view = (.ok (some answer), s')) (hquit : ¬ Quits answer)
      (hpick : pick answer (shown c view) view = .ok k)
      (hpress : r.move Terminal.host story s' (.press k) = (.ok view', r', s'')) :
      Round story c r s
        [.draws r, .reads (.ok (some answer)),
          .moves (.press k) (r.calls Terminal.host story s' (.press k)) (.ok view')]
        (.next r' s'')

theorem turn_of_none_shown {view : NodeView} (hv : r.view = some view)
    (hnone : shown c view = []) :
    turn story c r s = .over (.ok ()) (ended (drawn c s view)) := by
  unfold turn present
  simp only [hv, hnone, List.isEmpty_nil, if_true, onTerminal_render, onTerminal_theEnd]

theorem turn_of_shown {view : NodeView} (hv : r.view = some view) (hsome : shown c view ≠ []) :
    turn story c r s =
      match asked c s view with
      | (.error e, s') => .over (.error e) s'
      | (.ok answer, s') => respond story c r view answer s' := by
  have hshown : (shown c view).isEmpty = false := by simpa using hsome
  unfold turn present asked
  simp only [hv, hshown, Bool.false_eq_true, if_false, onTerminal_render]
  rcases (drawn c s view).host.readLine c.prompt with ⟨e | answer, t⟩
  · rfl
  · rfl

/-- Where there is a view, a turn is a round. -/
theorem round_of_view {view : NodeView} (hv : r.view = some view) :
    ∃ beats, Round story c r s beats (turn story c r s) := by
  by_cases hsome : shown c view = []
  · rw [turn_of_none_shown hv hsome]
    exact ⟨_, .ends hv hsome⟩
  rw [turn_of_shown hv hsome]
  rcases hread : asked c s view with ⟨e | _ | answer, s'⟩
  · exact ⟨_, .readFails hv hsome hread⟩
  · exact ⟨_, .inputEnds hv hsome hread⟩
  simp only [respond]
  by_cases hquit : Quits answer
  · simp only [isQuit_iff.mpr hquit, if_true]
    exact ⟨_, .quits hv hsome hread hquit⟩
  · simp only [isQuit_eq_false_iff.mpr hquit, Bool.false_eq_true, if_false]
    rcases hpick : pick answer (shown c view) view with message | k
    · simp only [onTerminal_warn]
      exact ⟨_, .refuses hv hsome hread hquit hpick⟩
    · simp only
      rcases hpress : r.press Terminal.host story s' k with ⟨e | view', r', s''⟩
      · exact ⟨_, .pressFails hv hsome hread hquit hpick hpress⟩
      · exact ⟨_, .goesOn hv hsome hread hquit hpick hpress⟩

/-- A round is what the turn does. -/
theorem Round.turn_eq {beats : List Beat} {t : Turn μ} (h : Round story c r s beats t) :
    turn story c r s = t := by
  cases h with
  | ends hv hnone => exact turn_of_none_shown hv hnone
  | inputEnds hv hsome hread =>
    rw [turn_of_shown hv hsome, hread]
    rfl
  | readFails hv hsome hread => rw [turn_of_shown hv hsome, hread]
  | quits hv hsome hread hquit =>
    rw [turn_of_shown hv hsome, hread]
    simp only [respond, isQuit_iff.mpr hquit, if_true]
  | refuses hv hsome hread hquit hpick =>
    rw [turn_of_shown hv hsome, hread]
    simp only [respond, isQuit_eq_false_iff.mpr hquit, hpick, Bool.false_eq_true, if_false,
      onTerminal_warn]
  | pressFails hv hsome hread hquit hpick hpress =>
    simp only [Reader.move] at hpress
    rw [turn_of_shown hv hsome, hread]
    simp only [respond, isQuit_eq_false_iff.mpr hquit, hpick, hpress, Bool.false_eq_true,
      if_false]
  | goesOn hv hsome hread hquit hpick hpress =>
    simp only [Reader.move] at hpress
    rw [turn_of_shown hv hsome, hread]
    simp only [respond, isQuit_eq_false_iff.mpr hquit, hpick, hpress, Bool.false_eq_true,
      if_false]

/-! ## Whole games -/

/-- The rounds from a reader on, each by its beats, and how the game ends. -/
inductive Rounds (story : Story μ) (c : Config) :
    Reader → Game μ → List (List Beat) → Except StoryError Unit × Game μ → Prop
  | last {r : Reader} {s s' : Game μ} {beats : List Beat} {outcome : Except StoryError Unit}
      (h : Round story c r s beats (.over outcome s')) : Rounds story c r s [beats] (outcome, s')
  | next {r r' : Reader} {s s' : Game μ} {beats : List Beat} {rounds : List (List Beat)}
      {out : Except StoryError Unit × Game μ} (h : Round story c r s beats (.next r' s'))
      (hs : Rounds story c r' s' rounds out) : Rounds story c r s (beats :: rounds) out

/-- What happens before the first round, and the reader that it begins with. -/
inductive Opening (story : Story μ) (s : Game μ) :
    List Beat → Except StoryError Reader × Game μ → Prop
  | loadFails {e : StoryError} {s' : Game μ}
      (hload : s.serve Terminal.host .load = (.error e, s')) :
      Opening story s [.loads (.error e)] (.error e, s')
  | startFails {e : StoryError} {r : Reader} {s₁ s₂ : Game μ}
      (hload : s.serve Terminal.host .load = (.ok (), s₁))
      (hstart : Reader.move Terminal.host story {} (introduced story s₁) .start =
        (.error e, r, s₂)) :
      Opening story s
        [.loads (.ok ()), .introduces,
          .moves .start (Reader.calls Terminal.host story {} (introduced story s₁) .start)
            (.error e)]
        (.error e, s₂)
  | starts {view : NodeView} {r : Reader} {s₁ s₂ : Game μ}
      (hload : s.serve Terminal.host .load = (.ok (), s₁))
      (hstart : Reader.move Terminal.host story {} (introduced story s₁) .start =
        (.ok view, r, s₂)) :
      Opening story s
        [.loads (.ok ()), .introduces,
          .moves .start (Reader.calls Terminal.host story {} (introduced story s₁) .start)
            (.ok view)]
        (.ok r, s₂)

/-- A whole game: what happens before the first round, the rounds, and how it ends. -/
inductive Goes (story : Story μ) (c : Config) (s : Game μ) :
    List Beat → List (List Beat) → Except StoryError Unit × Game μ → Prop
  | notBegun {opening : List Beat} {e : StoryError} {s' : Game μ}
      (h : Opening story s opening (.error e, s')) : Goes story c s opening [] (.error e, s')
  | played {opening : List Beat} {r : Reader} {s₁ : Game μ} {rounds : List (List Beat)}
      {out : Except StoryError Unit × Game μ} (h : Opening story s opening (.ok r, s₁))
      (hs : Rounds story c r s₁ rounds out) : Goes story c s opening rounds out

theorem opening_of_begin (story : Story μ) (s : Game μ) :
    ∃ opening, Opening story s opening (begin story s) := by
  unfold begin
  rcases hload : s.serve Terminal.host .load with ⟨e | ⟨⟩, s₁⟩
  · exact ⟨_, .loadFails hload⟩
  simp only
  rw [onTerminal_introduce]
  rcases hstart : Reader.start Terminal.host story {} (introduced story s₁)
    with ⟨e | view, r, s₂⟩
  · exact ⟨_, .startFails hload hstart⟩
  · exact ⟨_, .starts hload hstart⟩

theorem Opening.begin_eq {opening : List Beat} {out : Except StoryError Reader × Game μ}
    (h : Opening story s opening out) : begin story s = out := by
  cases h with
  | loadFails hload => simp only [begin, hload]
  | startFails hload hstart =>
    simp only [Reader.move] at hstart
    simp only [begin, hload, onTerminal_introduce, hstart]
  | starts hload hstart =>
    simp only [Reader.move] at hstart
    simp only [begin, hload, onTerminal_introduce, hstart]

theorem loop_of_over {outcome : Except StoryError Unit} (h : turn story c r s = .over outcome s') :
    loop story c r s = (outcome, s') := by
  rw [loop]
  split
  · rename_i hturn
    rw [h] at hturn
    cases hturn
    rfl
  · rename_i hturn
    rw [h] at hturn
    cases hturn

theorem loop_of_next (h : turn story c r s = .next r' s') :
    loop story c r s = loop story c r' s' := by
  rw [loop]
  split
  · rename_i hturn
    rw [h] at hturn
    cases hturn
  · rename_i hturn
    rw [h] at hturn
    cases hturn
    rfl

theorem Rounds.loop_eq {rounds : List (List Beat)} {out : Except StoryError Unit × Game μ}
    (h : Rounds story c r s rounds out) : loop story c r s = out := by
  induction h with
  | last h => exact loop_of_over h.turn_eq
  | next h _ ih => rw [loop_of_next h.turn_eq, ih]

theorem Goes.play_eq {opening : List Beat} {rounds : List (List Beat)}
    {out : Except StoryError Unit × Game μ} (h : Goes story c s opening rounds out) :
    play story c s = out := by
  unfold play
  cases h with
  | notBegun h => rw [h.begin_eq]
  | played h hs =>
    rw [h.begin_eq]
    exact hs.loop_eq

/-! ## Readers that are ready -/

/-- A reader that a round can begin with. -/
structure Ready (story : Story μ) (r : Reader) : Prop where
  reachable : r.Reachable Terminal.host story
  hasView : ∃ view, r.view = some view

/-- A move that succeeds leaves a view. -/
theorem ready_of_move (hr : r.Reachable Terminal.host story) {m : Move} {view : NodeView}
    (h : r.move Terminal.host story s m = (.ok view, r', s')) : Ready story r' := by
  have hmove := (Reader.calls_keep hr s m).2.2
  have hreachable := hr.move s m
  rw [h] at hmove hreachable
  exact ⟨hreachable, view, hmove.view_of_ok⟩

theorem Opening.ready {opening : List Beat} (h : Opening story s opening (.ok r, s')) :
    Ready story r := by
  cases h with
  | starts hload hstart => exact ready_of_move .new hstart

theorem Round.ready {beats : List Beat} (hr : Ready story r)
    (h : Round story c r s beats (.next r' s')) : Ready story r' := by
  cases h with
  | refuses hv hsome hread hquit hpick => exact hr
  | goesOn hv hsome hread hquit hpick hpress => exact ready_of_move hr.reachable hpress

/-- From a reader that is ready on, a game goes in rounds. -/
theorem rounds_of_loop (hr : Ready story r) (s : Game μ) :
    ∃ rounds, Rounds story c r s rounds (loop story c r s) := by
  induction r, s using loop.induct story c with
  | case1 r s outcome s' h =>
    obtain ⟨view, hv⟩ := hr.hasView
    have hround : ∃ beats, Round story c r s beats (turn story c r s) := round_of_view hv
    rw [h] at hround
    obtain ⟨beats, hround⟩ := hround
    rw [loop_of_over h]
    exact ⟨_, .last hround⟩
  | case2 r s r' s' h ih =>
    obtain ⟨view, hv⟩ := hr.hasView
    have hround : ∃ beats, Round story c r s beats (turn story c r s) := round_of_view hv
    rw [h] at hround
    obtain ⟨beats, hround⟩ := hround
    obtain ⟨rounds, hrounds⟩ := ih (hround.ready hr)
    rw [loop_of_next h]
    exact ⟨_, .next hround hrounds⟩

theorem goes_of_play (story : Story μ) (c : Config) (s : Game μ) :
    ∃ opening rounds, Goes story c s opening rounds (play story c s) := by
  obtain ⟨opening, hopening⟩ := opening_of_begin story s
  unfold play
  rcases hbegin : begin story s with ⟨e | r, s₁⟩
  · rw [hbegin] at hopening
    exact ⟨_, _, .notBegun hopening⟩
  · rw [hbegin] at hopening
    obtain ⟨rounds, hrounds⟩ := rounds_of_loop (c := c) hopening.ready s₁
    exact ⟨_, _, .played hopening hrounds⟩

/-! ## Lines -/

/-- Nothing before the first round gives lines back. -/
theorem lines_of_start {s₁ : Game μ} (hload : s.serve Terminal.host .load = (.ok (), s₁))
    {out : Except StoryError NodeView × Reader × Game μ}
    (hstart : Reader.move Terminal.host story {} (introduced story s₁) .start = out) :
    out.2.2.host.lines <:+ s.host.lines := by
  have hserve := kept_lines.serve s .load
  have hmove := kept_lines.move story {} (introduced story s₁) .start
  rw [hload] at hserve
  rw [hstart] at hmove
  exact hmove.trans hserve

theorem Opening.lines {opening : List Beat} {out : Except StoryError Reader × Game μ}
    (h : Opening story s opening out) : out.2.host.lines <:+ s.host.lines := by
  cases h with
  | loadFails hload =>
    have hserve := kept_lines.serve s .load
    rw [hload] at hserve
    exact hserve
  | startFails hload hstart => exact lines_of_start hload hstart
  | starts hload hstart => exact lines_of_start hload hstart

/-- There is a line for every round but the last. -/
theorem Rounds.length_le {rounds : List (List Beat)} {out : Except StoryError Unit × Game μ}
    (h : Rounds story c r s rounds out) : rounds.length ≤ s.host.lines.length + 1 := by
  induction h with
  | last h => simp
  | next h _ ih =>
    have := turn_lines h.turn_eq
    simp only [List.length_cons]
    omega

theorem Goes.length_le {opening : List Beat} {rounds : List (List Beat)}
    {out : Except StoryError Unit × Game μ} (h : Goes story c s opening rounds out) :
    rounds.length ≤ s.host.lines.length + 1 := by
  cases h with
  | notBegun h => simp
  | played h hs =>
    have hlines := h.lines.length_le
    have := hs.length_le
    simp only at hlines
    omega

/-! ## Presses -/

/-- What is shown stands in the view. -/
theorem lt_of_mem_shown {view : NodeView} {k : Nat} (h : k ∈ shown c view) :
    k < view.options.length := by
  obtain ⟨o, ho, -⟩ := mem_shown.mp h
  exact (List.getElem?_eq_some_iff.mp ho).1

/-- An option that can be pressed: it is in the view, it is shown, and it is available. -/
def Pressable (c : Config) (view : NodeView) (k : Nat) : Prop :=
  k ∈ shown c view ∧ ∃ o, view.options[k]? = some o ∧ o.available = true

theorem pressable_of_pick {view : NodeView} {answer : String} {k : Nat}
    (h : pick answer (shown c view) view = .ok k) : Pressable c view k := by
  cases pick_eq_iff.mp h with
  | @available n k o hn hbeside ha =>
    have ho := option_of_beside hbeside
    exact ⟨mem_shown.mpr ⟨o, ho, Or.inl ha⟩, o, ho, ha⟩

theorem Round.pressable {beats : List Beat} {t : Turn μ} (h : Round story c r s beats t) :
    ∃ view, r.view = some view ∧ beats.head? = some (.draws r) ∧
      ∀ k calls out, .moves (.press k) calls out ∈ beats → Pressable c view k := by
  cases h with
  | ends hv hnone => exact ⟨_, hv, rfl, by simp⟩
  | inputEnds hv hsome hread => exact ⟨_, hv, rfl, by simp⟩
  | readFails hv hsome hread => exact ⟨_, hv, rfl, by simp⟩
  | quits hv hsome hread hquit => exact ⟨_, hv, rfl, by simp⟩
  | refuses hv hsome hread hquit hpick => exact ⟨_, hv, rfl, by simp⟩
  | pressFails hv hsome hread hquit hpick hpress =>
    refine ⟨_, hv, rfl, ?_⟩
    intro k calls out hmem
    obtain ⟨rfl, -, -⟩ : k = _ ∧ _ := by simpa using hmem
    exact pressable_of_pick hpick
  | goesOn hv hsome hread hquit hpick hpress =>
    refine ⟨_, hv, rfl, ?_⟩
    intro k calls out hmem
    obtain ⟨rfl, -, -⟩ : k = _ ∧ _ := by simpa using hmem
    exact pressable_of_pick hpick

/-- A round reads at most one line itself, and exactly one if it is not the last. -/
theorem Round.takesLine {beats : List Beat} {t : Turn μ} (h : Round story c r s beats t) :
    beats.countP Beat.takesLine ≤ 1 ∧
      ∀ r' s', t = .next r' s' → beats.countP Beat.takesLine = 1 := by
  cases h <;> simp [Beat.takesLine, List.countP_cons]

/-! ## Failures -/

/-- Why a game can fail at a beat: the resources cannot be loaded, a line is not text, a callback
has raised the error, or a node is not there. -/
inductive Fails (story : Story μ) : Beat → StoryError → Prop
  | loads (failure : IoFailure) :
      Fails story (.loads (.error (.host (.io failure)))) (.host (.io failure))
  | reads :
      Fails story (.reads (.error (.host (.io .notText)))) (.host (.io .notText))
  | raised {m : Move} {calls : List Entry} {e : StoryError} (h : Raised calls e) :
      Fails story (.moves m calls (.error e)) e
  | missing {m : Move} {calls : List Entry} {id : String} (hn : story.node? id = none) :
      Fails story (.moves m calls (.error (.nodeNotFound id))) (.nodeNotFound id)

theorem load_fails {e : StoryError} (h : s.serve Terminal.host .load = (.error e, s')) :
    Fails story (.loads (.error e)) e := by
  rw [serve_eq] at h
  have hload : s.host.load.1 = .error e := congrArg Prod.fst h
  unfold Terminal.load at hload
  split at hload
  · cases hload
  · cases hload
  · cases hload
    exact .loads _

theorem read_fails {view : NodeView} {e : StoryError} (h : asked c s view = (.error e, s')) :
    Fails story (.reads (.error e)) e := by
  have hread : ((drawn c s view).host.readLine c.prompt).1 = .error e := congrArg Prod.fst h
  unfold Terminal.readLine at hread
  split at hread
  · cases hread
  · split at hread
    · cases hread
    · cases hread
      exact .reads

/-- A move that is offered fails by a callback or by a missing node. -/
theorem move_fails (hr : r.Reachable Terminal.host story) {m : Move} {e : StoryError}
    (hoffers : r.Offers m) (h : r.move Terminal.host story s m = (.error e, r', s')) :
    Fails story (.moves m (r.calls Terminal.host story s m) (.error e)) e := by
  have hmove := (Reader.calls_keep hr s m).2.2
  rw [h] at hmove
  rcases hmove.raised_or with hraised | ⟨k, rfl, hnone⟩ | ⟨k, v, rfl, hv, hk⟩ | ⟨id, rfl, hn⟩
  · exact .raised hraised
  · obtain ⟨view, hview, -⟩ := hoffers
    rw [hview] at hnone
    cases hnone
  · obtain ⟨view, hview, hlt⟩ := hoffers
    rw [hview] at hv
    cases hv
    omega
  · exact .missing hn

theorem Pressable.offers {view : NodeView} {k : Nat} (h : Pressable c view k)
    (hv : r.view = some view) : r.Offers (.press k) := ⟨view, hv, lt_of_mem_shown h.1⟩

theorem Opening.fails {opening : List Beat} {e : StoryError}
    (h : Opening story s opening (.error e, s')) :
    ∃ b, opening.getLast? = some b ∧ Fails story b e := by
  cases h with
  | loadFails hload => exact ⟨_, rfl, load_fails hload⟩
  | startFails hload hstart => exact ⟨_, rfl, move_fails .new trivial hstart⟩

theorem Round.fails (hr : Ready story r) {beats : List Beat} {e : StoryError}
    (h : Round story c r s beats (.over (.error e) s')) :
    ∃ b, beats.getLast? = some b ∧ Fails story b e := by
  cases h with
  | readFails hv hsome hread => exact ⟨_, rfl, read_fails hread⟩
  | pressFails hv hsome hread hquit hpick hpress =>
    have hoffers : r.Offers (.press _) := (pressable_of_pick hpick).offers hv
    exact ⟨_, rfl, move_fails hr.reachable hoffers hpress⟩

theorem Rounds.fails (hr : Ready story r) {rounds : List (List Beat)}
    {out : Except StoryError Unit × Game μ} {e : StoryError}
    (h : Rounds story c r s rounds out) (hout : out.1 = .error e) :
    ∃ b, rounds.flatten.getLast? = some b ∧ Fails story b e := by
  induction h with
  | last h =>
    cases hout
    simpa using h.fails hr
  | next h _ ih =>
    obtain ⟨b, hb, hfails⟩ := ih (h.ready hr) hout
    exact ⟨b, by simp [List.getLast?_append, hb], hfails⟩

/-- The last beat of a game that fails says why. -/
theorem Goes.fails {opening : List Beat} {rounds : List (List Beat)}
    {out : Except StoryError Unit × Game μ} {e : StoryError}
    (h : Goes story c s opening rounds out) (hout : out.1 = .error e) :
    ∃ b, (opening ++ rounds.flatten).getLast? = some b ∧ Fails story b e := by
  cases h with
  | notBegun h =>
    cases hout
    simpa using h.fails
  | played h hs =>
    obtain ⟨b, hb, hfails⟩ := hs.fails h.ready hout
    exact ⟨b, by simp [List.getLast?_append, hb], hfails⟩

/-! ## The law -/

/-- What every round of a game is like: it is of a reader that has a view; it reads at most one line
itself, and exactly one if another round comes after it; and it presses only what is pressable. -/
structure Orderly (c : Config) (beats : List Beat) (isLast : Prop) : Prop where
  ofView : ∃ r view, beats.head? = some (.draws r) ∧ r.view = some view ∧
    ∀ k calls out, .moves (.press k) calls out ∈ beats → Pressable c view k
  takesLine : beats.countP Beat.takesLine ≤ 1 ∧ (isLast ∨ beats.countP Beat.takesLine = 1)

theorem Round.orderly {beats : List Beat} {t : Turn μ} {isLast : Prop}
    (h : Round story c r s beats t) (hlast : isLast ∨ ∃ r' s', t = .next r' s') :
    Orderly c beats isLast := by
  obtain ⟨view, hv, hhead, hpress⟩ := h.pressable
  obtain ⟨hle, hone⟩ := h.takesLine
  refine ⟨⟨r, view, hhead, hv, hpress⟩, hle, ?_⟩
  rcases hlast with hlast | ⟨r', s', ht⟩
  · exact Or.inl hlast
  · exact Or.inr (hone r' s' ht)

theorem Rounds.orderly {rounds : List (List Beat)} {out : Except StoryError Unit × Game μ}
    (h : Rounds story c r s rounds out) :
    ∀ before beats after, rounds = before ++ beats :: after → Orderly c beats (after = []) := by
  induction h with
  | last h =>
    intro before beats after hrounds
    rcases before with _ | ⟨b, before⟩
    · cases hrounds
      exact h.orderly (Or.inl rfl)
    · simp at hrounds
  | next h _ ih =>
    intro before beats after hrounds
    rcases before with _ | ⟨b, before⟩
    · cases hrounds
      exact h.orderly (Or.inr ⟨_, _, rfl⟩)
    · exact ih before beats after (List.cons.inj hrounds).2

theorem Goes.orderly {opening : List Beat} {rounds : List (List Beat)}
    {out : Except StoryError Unit × Game μ} (h : Goes story c s opening rounds out) :
    ∀ before beats after, rounds = before ++ beats :: after → Orderly c beats (after = []) := by
  cases h with
  | notBegun h =>
    intro before beats after hrounds
    simp at hrounds
  | played h hs => exact hs.orderly

/-- A game ends, whatever the callbacks and the player do: it has at most one round more than there
are lines, since every round but the last reads one itself. Each round is of a view and presses
only what is pressable, so the reader never refuses a press. -/
theorem a_game_ends_and_presses_what_is_available (story : Story μ) (c : Config) (s : Game μ) :
    ∃ opening rounds, Goes story c s opening rounds (play story c s) ∧
      rounds.length ≤ s.host.lines.length + 1 ∧
      (∀ before beats after, rounds = before ++ beats :: after → Orderly c beats (after = [])) ∧
      ∀ e, (play story c s).1 = .error e → (e = .notStarted ∨ ∃ k, e = .optionNotVisible k) →
        ∃ m calls, (opening ++ rounds.flatten).getLast? = some (.moves m calls (.error e)) ∧
          Raised calls e := by
  obtain ⟨opening, rounds, hgoes⟩ := goes_of_play story c s
  refine ⟨opening, rounds, hgoes, hgoes.length_le, hgoes.orderly, ?_⟩
  intro e he hkind
  obtain ⟨b, hb, hfails⟩ := hgoes.fails he
  -- Neither the host nor a missing node has these errors.
  cases hfails with
  | loads failure => simp at hkind
  | reads => simp at hkind
  | raised hraised => exact ⟨_, _, hb, hraised⟩
  | missing hn => simp at hkind

end

end Gamebook.Command.Play
