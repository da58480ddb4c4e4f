-- Answers that are refused. A line that picks nothing has the view shown again and is warned of,
-- and the reader, the session and the callbacks are as before: the game goes on from there as it
-- would have gone without the line, since no callback sees what was shown or is still to be read.
import Gamebook.Proofs.Rounds

namespace Gamebook.Command.Play

section

variable {μ : Type} {story : Story μ} {c : Config} {r r' : Reader} {s s' : Game μ}
  {f : Terminal → Terminal} {K : List (List UInt8) → Prop}

/-! ## Rounds with another terminal -/

/-- What a turn comes to, with the terminal changed. -/
def Turn.onTerminal (f : Terminal → Terminal) : Turn μ → Turn μ
  | .over outcome s => .over outcome (Play.onTerminal s f)
  | .next r s => .next r (Play.onTerminal s f)

/-- What is shown depends on nothing but the color. -/
theorem showing_aside (hf : Terminal.Aside f) (out err : Bool → String) (s : Game μ) :
    showing (onTerminal s f) (out (onTerminal s f).host.color) (err (onTerminal s f).host.color) =
      onTerminal (showing s (out s.host.color) (err s.host.color)) f := by
  have hcolor : (onTerminal s f).host.color = s.host.color := hf.color s.host
  rw [hcolor]
  exact congrArg (fun t => { s with host := t }) (hf.writes s.host _ _)

theorem introduced_aside (hf : Terminal.Aside f) :
    introduced story (onTerminal s f) = onTerminal (introduced story s) f :=
  showing_aside hf (introduction story) (fun _ => "") s

theorem drawn_aside (hf : Terminal.Aside f) (view : NodeView) :
    drawn c (onTerminal s f) view = onTerminal (drawn c s view) f :=
  showing_aside hf (fun color => screen c color view) (fun _ => "") s

theorem ended_aside (hf : Terminal.Aside f) : ended (onTerminal s f) = onTerminal (ended s) f :=
  showing_aside hf theEnd (fun _ => "") s

theorem warned_aside (hf : Terminal.Aside f) (message : String) :
    showing (onTerminal s f) "" (Terminal.warning (onTerminal s f).host.color message) =
      onTerminal (showing s "" (Terminal.warning s.host.color message)) f :=
  showing_aside hf (fun _ => "") (fun color => Terminal.warning color message) s

theorem asked_unnoticed (hf : Terminal.Unnoticed f K) {view : NodeView}
    {answer : Except StoryError (Option String)} (h : asked c s view = (answer, s'))
    (hK : K s'.host.lines) :
    asked c (onTerminal s f) view = (answer, onTerminal s' f) := by
  cases h
  have hread := hf.readLine (drawn c s view).host c.prompt hK
  have hhost : (onTerminal (drawn c s view) f).host = f (drawn c s view).host := rfl
  unfold asked
  rw [drawn_aside hf.toAside, hhost, hread]
  rfl

theorem asked_lines {view : NodeView} {answer : Except StoryError (Option String)}
    (h : asked c s view = (answer, s')) : s'.host.lines <:+ s.host.lines := by
  cases h
  exact (drawn c s view).host.readLine_lines c.prompt

theorem pressed_unnoticed (hf : Terminal.Unnoticed f K) (hr : r.Reachable Terminal.host story)
    {m : Move} {out : Except StoryError NodeView × Reader × Game μ}
    (h : r.move Terminal.host story s m = out) (hK : K out.2.2.host.lines) :
    K s.host.lines ∧
      r.move Terminal.host story (onTerminal s f) m = (out.1, out.2.1, onTerminal out.2.2 f) ∧
      r.calls Terminal.host story (onTerminal s f) m = r.calls Terminal.host story s m := by
  subst h
  exact ⟨hf.back (kept_lines.move story r s m) hK, move_unnoticed hf r s m hK,
    calls_unnoticed hf hr s m hK⟩

/-- A round goes the same with a change that is not noticed. -/
theorem Round.unnoticed (hf : Terminal.Unnoticed f K) (hr : r.Reachable Terminal.host story)
    {beats : List Beat} {t : Turn μ} (h : Round story c r s beats t) (hK : K t.game.host.lines) :
    Round story c r (onTerminal s f) beats (t.onTerminal f) := by
  cases h with
  | ends hv hnone =>
    have hround : Round story c r (onTerminal s f) _ _ := .ends hv hnone
    rwa [drawn_aside hf.toAside, ended_aside hf.toAside] at hround
  | inputEnds hv hsome hread => exact .inputEnds hv hsome (asked_unnoticed hf hread hK)
  | readFails hv hsome hread => exact .readFails hv hsome (asked_unnoticed hf hread hK)
  | quits hv hsome hread hquit => exact .quits hv hsome (asked_unnoticed hf hread hK) hquit
  | @refuses view answer message s₁ hv hsome hread hquit hpick =>
    have hround : Round story c r (onTerminal s f) _ _ :=
      .refuses hv hsome (asked_unnoticed hf hread hK) hquit hpick
    rwa [warned_aside hf.toAside] at hround
  | pressFails hv hsome hread hquit hpick hpress =>
    obtain ⟨hleft, hpress', hcalls⟩ := pressed_unnoticed hf hr hpress hK
    have hround : Round story c r (onTerminal s f) _ _ :=
      .pressFails hv hsome (asked_unnoticed hf hread hleft) hquit hpick hpress'
    rwa [hcalls] at hround
  | goesOn hv hsome hread hquit hpick hpress =>
    obtain ⟨hleft, hpress', hcalls⟩ := pressed_unnoticed hf hr hpress hK
    have hround : Round story c r (onTerminal s f) _ _ :=
      .goesOn hv hsome (asked_unnoticed hf hread hleft) hquit hpick hpress'
    rwa [hcalls] at hround

/-- No round gives lines back to the input. -/
theorem Round.lines {beats : List Beat} (h : Round story c r s beats (.next r' s')) :
    s'.host.lines <:+ s.host.lines := by
  cases h with
  | refuses hv hsome hread hquit hpick =>
    have hlines := asked_lines hread
    exact hlines
  | @goesOn view view' answer k r' s₁ s₂ hv hsome hread hquit hpick hpress =>
    have hmove := kept_lines.move story r s₁ (.press k)
    rw [hpress] at hmove
    exact hmove.trans (asked_lines hread)

/-- The rounds of a game are the same with a change that is never noticed. -/
theorem Rounds.unnoticed (hf : Terminal.Unnoticed f K) (hK : ∀ ls, K ls) (hr : Ready story r)
    {rounds : List (List Beat)} {out : Except StoryError Unit × Game μ}
    (h : Rounds story c r s rounds out) :
    Rounds story c r (onTerminal s f) rounds (out.1, onTerminal out.2 f) := by
  induction h with
  | last h => exact .last (h.unnoticed hf hr.reachable (hK _))
  | next h _ ih => exact .next (h.unnoticed hf hr.reachable (hK _)) (ih (h.ready hr))

/-! ## Rounds on the way -/

/-- The rounds that lead from a reader and a game to others, at which another round begins. -/
inductive Leads (story : Story μ) (c : Config) :
    Reader → Game μ → List (List Beat) → Reader → Game μ → Prop
  | nil (r : Reader) (s : Game μ) : Leads story c r s [] r s
  | cons {r r' r'' : Reader} {s s' s'' : Game μ} {beats : List Beat} {rounds : List (List Beat)}
      (h : Round story c r s beats (.next r' s')) (hs : Leads story c r' s' rounds r'' s'') :
      Leads story c r s (beats :: rounds) r'' s''

theorem Leads.rounds {before after : List (List Beat)} {out : Except StoryError Unit × Game μ}
    (h : Leads story c r s before r' s') (hs : Rounds story c r' s' after out) :
    Rounds story c r s (before ++ after) out := by
  induction h with
  | nil r s => exact hs
  | cons h _ ih => exact .next h (ih hs)

theorem Leads.ready {rounds : List (List Beat)} (hr : Ready story r)
    (h : Leads story c r s rounds r' s') : Ready story r' := by
  induction h with
  | nil r s => exact hr
  | cons h _ ih => exact ih (h.ready hr)

theorem Leads.lines {rounds : List (List Beat)} (h : Leads story c r s rounds r' s') :
    s'.host.lines <:+ s.host.lines := by
  induction h with
  | nil r s => exact List.suffix_rfl
  | cons h _ ih => exact ih.trans h.lines

theorem Leads.unnoticed (hf : Terminal.Unnoticed f K) (hr : Ready story r)
    {rounds : List (List Beat)} (h : Leads story c r s rounds r' s') (hK : K s'.host.lines) :
    Leads story c r (onTerminal s f) rounds r' (onTerminal s' f) := by
  induction h with
  | nil r s => exact .nil r _
  | cons h hs ih =>
    -- What is left over in the end was left over by the first round.
    have hfirst := h.unnoticed hf hr.reachable (hf.back hs.lines hK)
    exact .cons hfirst (ih (h.ready hr) hK)

theorem Opening.unnoticed (hf : Terminal.Unnoticed f K) {opening : List Beat}
    (h : Opening story s opening (.ok r, s')) (hK : K s'.host.lines) :
    Opening story (onTerminal s f) opening (.ok r, onTerminal s' f) := by
  cases h with
  | @starts view r s₁ s₂ hload hstart =>
    obtain ⟨hleft, hstart', hcalls⟩ := pressed_unnoticed hf .new hstart hK
    have hload' := serve_unnoticed hf s .load
    rw [hload] at hload'
    rw [← introduced_aside hf.toAside] at hstart' hcalls
    have hopening : Opening story (onTerminal s f) _ _ := .starts (hload' hleft) hstart'
    rwa [hcalls] at hopening

/-! ## Refused lines -/

def answerOf (line : List UInt8) : String := (lineText? line).getD ""

/-- A line of text that neither quits nor picks an option of the view. -/
structure Refused (c : Config) (view : NodeView) (line : List UInt8) : Prop where
  isText : (lineText? line).isSome
  notQuit : ¬ Quits (answerOf line)
  notPick : ∀ k, pick (answerOf line) (shown c view) view ≠ .ok k

theorem refused_iff {view : NodeView} {line : List UInt8} :
    Refused c view line ↔ (lineText? line).isSome ∧ isQuit (answerOf line) = false ∧
      (pick (answerOf line) (shown c view) view).toOption = none := by
  constructor
  · intro h
    refine ⟨h.isText, isQuit_eq_false_iff.mpr h.notQuit, ?_⟩
    rcases hpick : pick (answerOf line) (shown c view) view with message | k
    · rfl
    · exact absurd hpick (h.notPick k)
  · rintro ⟨htext, hquit, hpick⟩
    refine ⟨htext, isQuit_eq_false_iff.mp hquit, ?_⟩
    intro k hk
    rw [hk] at hpick
    cases hpick

instance (c : Config) (view : NodeView) (line : List UInt8) : Decidable (Refused c view line) :=
  decidable_of_iff _ refused_iff.symm

/-- Why a line is refused. -/
def refusal (c : Config) (view : NodeView) (line : List UInt8) : String :=
  match pick (answerOf line) (shown c view) view with
  | .error message => message
  | .ok _ => ""

theorem Refused.pick_eq {view : NodeView} {line : List UInt8} (h : Refused c view line) :
    pick (answerOf line) (shown c view) view = .error (refusal c view line) := by
  unfold refusal
  rcases hpick : pick (answerOf line) (shown c view) view with message | k
  · rfl
  · exact absurd hpick (h.notPick k)

/-- The round in which a line is refused. -/
def retry (c : Config) (r : Reader) (view : NodeView) (line : List UInt8) : List Beat :=
  [.draws r, .reads (.ok (some (answerOf line))), .warns (refusal c view line)]

/-- What a view looks like, up to the answer. -/
def display (c : Config) (color : Bool) (view : NodeView) : String :=
  screen c color view ++ c.prompt

/-- The game with other lines to read. -/
def reading (s : Game μ) (lines : List (List UInt8)) : Game μ :=
  onTerminal s fun t => { t with lines := lines }

theorem showing_nothing (s : Game μ) : showing s "" "" = s := by
  simp [showing]

theorem reading_showing (s : Game μ) (out err : String) (lines : List (List UInt8)) :
    reading (showing s out err) lines = showing (reading s lines) out err := rfl

/-- A refused line is taken, and the view and a warning are shown. -/
theorem round_of_refused {view : NodeView} (hv : r.view = some view) (hsome : shown c view ≠ [])
    {line : List UInt8} (hline : Refused c view line) (s : Game μ) (rest : List (List UInt8)) :
    Round story c r (reading s (line :: rest)) (retry c r view line)
      (.next r (showing (reading s rest) (display c s.host.color view)
        (Terminal.warning s.host.color (refusal c view line)))) := by
  obtain ⟨answer, hanswer⟩ := Option.isSome_iff_exists.mp hline.isText
  have hof : answerOf line = answer := by simp [answerOf, hanswer]
  have hread : asked c (reading s (line :: rest)) view =
      (.ok (some answer), showing (reading s rest) (display c s.host.color view) "") := by
    simp [asked, drawn, showing, reading, onTerminal, Terminal.readLine, Terminal.print_eq,
      Terminal.writes, hanswer, display, String.append_assoc]
  have hnotQuit := hline.notQuit
  have hpick := hline.pick_eq
  rw [hof] at hnotQuit hpick
  have hround : Round story c r (reading s (line :: rest)) _ _ :=
    .refuses hv hsome hread hnotQuit hpick
  rw [showing_showing, String.append_empty, String.empty_append] at hround
  unfold retry
  rwa [hof]

/-- Refused lines are taken one after the other, and only show something. -/
theorem leads_of_refused {view : NodeView} (hv : r.view = some view) (hsome : shown c view ≠ [])
    {bad : List (List UInt8)} (hbad : ∀ line ∈ bad, Refused c view line) (s : Game μ)
    (rest : List (List UInt8)) :
    Leads story c r (reading s (bad ++ rest)) (bad.map (retry c r view)) r
      (showing (reading s rest)
        (String.join (List.replicate bad.length (display c s.host.color view)))
        (String.join
          (bad.map fun line => Terminal.warning s.host.color (refusal c view line)))) := by
  induction bad generalizing s with
  | nil =>
    rw [List.nil_append, List.map_nil, List.map_nil, List.length_nil, List.replicate_zero,
      String.join_nil, showing_nothing]
    exact .nil r _
  | cons line bad ih =>
    have hround : Round story c r _ _ _ :=
      round_of_refused hv hsome (hbad line (List.mem_cons_self ..)) s (bad ++ rest)
    have hrest := ih (fun l hl => hbad l (List.mem_cons_of_mem _ hl))
      (showing s (display c s.host.color view)
        (Terminal.warning s.host.color (refusal c view line)))
    have hshown := Leads.cons hround hrest
    rw [reading_showing, showing_showing] at hshown
    rw [List.length_cons, List.replicate_succ, List.map_cons, List.map_cons, String.join_cons,
      String.join_cons]
    exact hshown

/-! ## The law -/

/-- The game with nothing shown yet. -/
def cleared (s : Game μ) : Game μ := onTerminal s fun t => { t with out := "", err := "" }

theorem cleared_behind (s : Game μ) :
    onTerminal (cleared s) (Terminal.behind s.host.out s.host.err) = s := by
  simp [cleared, onTerminal, Terminal.behind]

theorem cleared_showing (s : Game μ) (out err : String) :
    onTerminal (cleared s) (Terminal.behind (s.host.out ++ out) (s.host.err ++ err)) =
      showing s out err := by
  simp [cleared, showing, onTerminal, Terminal.behind, Terminal.writes]

theorem reading_of_lines {before old : List (List UInt8)} (h : s.host.lines = before ++ old)
    (new : List (List UInt8)) :
    onTerminal s (Terminal.swapped old new) = reading s (before ++ new) :=
  congrArg (fun t => { s with host := t }) (Terminal.swapped_of_lines h new)

/-- The rounds up to a reader do not depend on the lines that are left over there. -/
theorem begun_reading {opening : List Beat} {r₀ : Reader} {s₀ : Game μ} {rounds : List (List Beat)}
    (hopening : Opening story s opening (.ok r₀, s₀)) (hleads : Leads story c r₀ s₀ rounds r s')
    {before old : List (List UInt8)} (hold : old ≠ []) (hs : s.host.lines = before ++ old)
    (hs' : s'.host.lines = old) (new : List (List UInt8)) :
    ∃ s₀', Opening story (reading s (before ++ new)) opening (.ok r₀, s₀') ∧
      Leads story c r₀ s₀' rounds r (reading s' new) := by
  have hf := Terminal.unnoticed_swapped hold new
  have hleft : old <:+ s'.host.lines := hs' ▸ List.suffix_rfl
  refine ⟨onTerminal s₀ (Terminal.swapped old new), ?_, ?_⟩
  · rw [← reading_of_lines hs]
    exact hopening.unnoticed hf (hleft.trans hleads.lines)
  · have hlines : s'.host.lines = [] ++ old := hs'
    have hreading := reading_of_lines hlines new
    rw [List.nil_append] at hreading
    rw [← hreading]
    exact hleads.unnoticed hf hopening.ready hleft

/-- Wherever a round of a game asks for an answer, lines that are refused there show the view again
and a warning each, and change nothing else: the rounds after them, with the callbacks, their
outcomes and the readers, the result and the session are those without the lines. The game up to
there is the same as well, if the lines are put into an input of which something is still left. -/
theorem refused_answers_only_show_the_view_again {opening : List Beat} {r₀ : Reader}
    {s₀ s₁ : Game μ} {rounds : List (List Beat)} {view : NodeView} {bad : List (List UInt8)}
    (hopening : Opening story s opening (.ok r₀, s₀)) (hleads : Leads story c r₀ s₀ rounds r s₁)
    (hv : r.view = some view) (hsome : shown c view ≠ [])
    (hbad : ∀ line ∈ bad, Refused c view line) (rest : List (List UInt8)) :
    let displays := String.join (List.replicate bad.length (display c s₁.host.color view))
    let warnings :=
      String.join (bad.map fun line => Terminal.warning s₁.host.color (refusal c view line))
    ∃ later outcome last,
      let calm := (outcome, onTerminal last (Terminal.behind s₁.host.out s₁.host.err))
      let pestered := (outcome,
        onTerminal last (Terminal.behind (s₁.host.out ++ displays) (s₁.host.err ++ warnings)))
      Rounds story c r (reading s₁ rest) later calm ∧
        Rounds story c r (reading s₁ (bad ++ rest)) (bad.map (retry c r view) ++ later) pestered ∧
        ∀ before next more, s.host.lines = before ++ next :: more → s₁.host.lines = next :: more →
          Goes story c (reading s (before ++ rest)) opening (rounds ++ later) calm ∧
          Goes story c (reading s (before ++ (bad ++ rest))) opening
            (rounds ++ (bad.map (retry c r view) ++ later)) pestered ∧
          play story c (reading s (before ++ rest)) = calm ∧
          play story c (reading s (before ++ (bad ++ rest))) = pestered := by
  intro displays warnings
  have hready : Ready story r := hleads.ready hopening.ready
  -- Both games go on from the same terminal, but for what it has shown before.
  obtain ⟨later, hlater⟩ := rounds_of_loop (c := c) hready (cleared (reading s₁ rest))
  have hcalm := hlater.unnoticed (Terminal.unnoticed_behind s₁.host.out s₁.host.err)
    (fun _ => trivial) hready
  have hshown := hlater.unnoticed
    (Terminal.unnoticed_behind (s₁.host.out ++ displays) (s₁.host.err ++ warnings))
    (fun _ => trivial) hready
  have hstill : onTerminal (cleared (reading s₁ rest))
      (Terminal.behind s₁.host.out s₁.host.err) = reading s₁ rest := cleared_behind _
  have hmore : onTerminal (cleared (reading s₁ rest))
      (Terminal.behind (s₁.host.out ++ displays) (s₁.host.err ++ warnings)) =
        showing (reading s₁ rest) displays warnings := cleared_showing _ _ _
  rw [hstill] at hcalm
  rw [hmore] at hshown
  have hpestered := (leads_of_refused hv hsome hbad s₁ rest).rounds hshown
  refine ⟨later, _, _, hcalm, hpestered, ?_⟩
  intro before next more hs hs₁
  have hgoes : ∀ {new after out}, Rounds story c r (reading s₁ new) after out →
      Goes story c (reading s (before ++ new)) opening (rounds ++ after) out := by
    intro new after out hrounds
    obtain ⟨s₀', hopening', hleads'⟩ :=
      begun_reading hopening hleads (List.cons_ne_nil next more) hs hs₁ new
    exact .played hopening' (hleads'.rounds hrounds)
  exact ⟨hgoes hcalm, hgoes hpestered, (hgoes hcalm).play_eq, (hgoes hpestered).play_eq⟩

/-- A line as a player types it. -/
def typed (text : String) : List UInt8 := text.toUTF8.data.toList ++ [10]

def hallGame (lines : List (List UInt8)) : Game Nat :=
  { env := .empty, memory := 0, host := { lines } }

/-- The reader of the hall, before and after the window is picked. -/
def hallReader : Reader := { current := some "hall", view := some hallView }

/-- After a first look out of the window, five answers are refused. -/
theorem a_locked_door_is_only_shown_again :
    let bad := [typed "", typed "Window", typed "0", typed "1", typed "18446744073709551616"]
    (∀ line ∈ bad, Refused {} hallView line) ∧
      ∃ outcome last out err displays warnings,
        play hall {} (hallGame [typed "2", typed "q"]) =
          (outcome, onTerminal last (Terminal.behind out err)) ∧
        play hall {} (hallGame (typed "2" :: (bad ++ [typed "q"]))) =
          (outcome,
            onTerminal last (Terminal.behind (out ++ displays) (err ++ warnings))) := by
  intro bad
  have hbad : ∀ line ∈ bad, Refused {} hallView line := by decide
  let s := hallGame [typed "2", typed "q"]
  let s₀ := (begin hall s).2
  let s₁ := (turn hall {} hallReader s₀).game
  obtain ⟨opening, hopening⟩ := opening_of_begin hall s
  have hbegin : begin hall s = (.ok hallReader, s₀) := by rfl
  rw [hbegin] at hopening
  have hround : ∃ beats, Round hall {} hallReader s₀ beats (turn hall {} hallReader s₀) :=
    round_of_view rfl
  have hturn : turn hall {} hallReader s₀ = .next hallReader s₁ := by rfl
  rw [hturn] at hround
  obtain ⟨beats, hround⟩ := hround
  obtain ⟨later, outcome, last, -, -, hplays⟩ :=
    refused_answers_only_show_the_view_again hopening (.cons hround (.nil _ _)) rfl (by decide)
      hbad [typed "q"]
  obtain ⟨-, -, hcalm, hpestered⟩ := hplays [typed "2"] (typed "q") [] rfl rfl
  exact ⟨hbad, outcome, last, _, _, _, _, hcalm, hpestered⟩

end

end Gamebook.Command.Play
