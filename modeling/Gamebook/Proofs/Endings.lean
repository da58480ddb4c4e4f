-- How a game ends. The first error that nobody looks at is the last thing to happen, from whatever
-- depth it comes: the parts of a script pass it on to the whole, a move to its round, a round to
-- the game. Only then it is decided what the player is told: an abort and a closed input are no
-- failures.
import Gamebook.Proofs.ChoiceLaws
import Gamebook.Proofs.Rounds

namespace Gamebook

/-! ## Errors that are passed on -/

namespace Script

section

variable {μ σ β : Type}

/-- Running a script comes, in another session, to running a part of it, with nothing around the
part but what goes on after it. -/
inductive Reaches (h : Host σ) (part : Script μ β) (s' : Session μ σ) :
    {α : Type} → Script μ α → Session μ σ → Prop
  | here : Reaches h part s' part s'
  | first {α γ : Type} {t : Script μ α} {s : Session μ σ} (ht : Reaches h part s' t s)
      (next : α → Script μ γ) : Reaches h part s' (t.bind next) s
  | next {α γ : Type} {t : Script μ α} {s s₁ : Session μ σ} {a : α} {next : α → Script μ γ}
      (ht : t.run h s = (.ok a, s₁)) (hnext : Reaches h part s' (next a) s₁) :
      Reaches h part s' (t.bind next) s

variable {h : Host σ} {part : Script μ β} {s s' s'' : Session μ σ}

/-- An error of the part is the error of the whole, and nothing happens after it. -/
theorem Reaches.passes {α : Type} {t : Script μ α} {e : StoryError}
    (ht : Reaches h part s' t s) (hpart : part.run h s' = (.error e, s'')) :
    t.run h s = (.error e, s'') := by
  induction ht with
  | here => exact hpart
  | first _ next ih => rw [run_bind, ih]
  | next ht _ ih =>
    rw [run_bind, ht]
    exact ih

end

end Script

namespace Choices

section

variable {μ σ β : Type} {h : Host σ} {s s' s'' : Session μ σ}

theorem reaches_action_of {key : Option Nat} (action : Script μ Unit)
    {before after : List (Option Nat × Script μ Unit)}
    (hbefore : InTurn h (boundTo key before) s (.ok ()) s') :
    Script.Reaches h action s' (runActions key (before ++ (key, action) :: after)) s := by
  induction before generalizing s with
  | nil =>
    cases hbefore
    rw [List.nil_append, runActions_cons_self]
    exact .first .here _
  | cons b before ih =>
    obtain ⟨k, earlier⟩ := b
    rw [List.cons_append]
    by_cases hk : k = key
    · subst hk
      rw [boundTo_cons_self] at hbefore
      rw [runActions_cons_self]
      cases hbefore with
      | cons ht hts => exact .next ht (ih hts)
    · rw [boundTo_cons_of_ne hk] at hbefore
      rw [runActions_cons_of_ne hk]
      exact ih hbefore

/-- What a request comes to, with nothing around it that could look at an error. -/
structure PassesOn (h : Host σ) (c : Choices μ β) : Prop where
  prompt : ∀ s, Script.Reaches h (.ask (.choose c.prompt)) s c.run s
  /-- The actions bound to the outcome, each after those before it. -/
  action : ∀ s s' s'' outcome before action after, c.present.run h s = (.ok outcome, s') →
    c.actions = before ++ (outcome.key, action) :: after →
    InTurn h (boundTo outcome.key before) s' (.ok ()) s'' → Script.Reaches h action s'' c.run s
  run : ∀ s, Script.Reaches h c.run s c.resolve s
  /-- The first yield bound to the outcome. -/
  yield : ∀ s s' outcome value, c.run.run h s = (.ok outcome, s') →
    (boundTo outcome.key c.yields).head? = some value → Script.Reaches h value s' c.resolve s

theorem passesOn (c : Choices μ β) : c.PassesOn h where
  prompt _ := .first (.first .here _) _
  action s s' s'' outcome before action after hpresent hactions hbefore := by
    have haction : Script.Reaches h action s'' (runActions outcome.key c.actions) s' := by
      rw [hactions]
      exact reaches_action_of action hbefore
    exact .next hpresent (.first haction _)
  run _ := .first .here _
  yield s s' outcome value hrun hyield := by
    rw [head?_boundTo] at hyield
    obtain ⟨⟨k, v⟩, hfind, rfl⟩ := Option.map_eq_some_iff.mp hyield
    refine .next hrun ?_
    rw [hfind]
    exact .here

end

end Choices

namespace Command.Play

section

variable {μ : Type} {story : Story μ} {c : Config} {r r' : Reader} {s s' s'' : Game μ}

/-! ## The last beat -/

/-- What a game comes to if nothing follows the beat. -/
def Beat.outcome : Beat → Except StoryError Unit
  | .loads (.error e) => .error e
  | .moves _ _ (.error e) => .error e
  | .reads (.error e) => .error e
  | _ => .ok ()

/-- Whether something can follow the beat: it has not failed, and it is not the end of the story. -/
def Beat.GoesOn (b : Beat) : Prop := b.outcome = .ok () ∧ b ≠ .ends

def Beat.drawn? : Beat → Option Reader
  | .draws r => some r
  | _ => none

/-- The reader whose view was shown last. -/
def lastDrawn (beats : List Beat) : Option Reader := (beats.filterMap Beat.drawn?).getLast?

theorem lastDrawn_append (as bs : List Beat) :
    lastDrawn (as ++ bs) = (lastDrawn bs).or (lastDrawn as) := by
  simp [lastDrawn, List.getLast?_append]

/-- How a move goes in a game that comes to a final session: only its callbacks run, none after the
first that fails, whose error is the move's; and nothing is done after a move that fails. -/
structure Moved (story : Story μ) (final : Game μ) (calls : List Entry)
    (outcome : Except StoryError NodeView) : Prop where
  played : ∃ s s', Played Terminal.host story s calls s' ∧ ∀ e, outcome = .error e → final = s'
  stops : ∀ before call e after, calls = before ++ ⟨call, .error e⟩ :: after →
    after = [] ∧ outcome = .error e

/-- How a game ends with its last beat. -/
structure Ending (story : Story μ) (c : Config) (before : List Beat) (last : Beat)
    (out : Except StoryError Unit × Game μ) : Prop where
  /-- Nothing has failed before, nor has the story ended. -/
  goesOn : ∀ b ∈ before, b.GoesOn
  /-- The game fails by what the last beat fails by, or it ends well. -/
  outcome : out.1 = last.outcome
  /-- The end is told where the view shown last has no option that is shown. -/
  ends : last = .ends ↔
    ∃ r view, lastDrawn (before ++ [last]) = some r ∧ r.view = some view ∧ shown c view = []
  moved : ∀ m calls outcome, .moves m calls outcome ∈ before ++ [last] →
    Moved story out.2 calls outcome

/-! ## How a game comes to its last beat -/

/-- Beats that a game goes on after. -/
structure Quiet (story : Story μ) (final : Game μ) (beats : List Beat) : Prop where
  goesOn : ∀ b ∈ beats, b.GoesOn
  moved : ∀ m calls outcome, .moves m calls outcome ∈ beats → Moved story final calls outcome

theorem Ending.behind {as before : List Beat} {last : Beat} {out : Except StoryError Unit × Game μ}
    (h : Ending story c before last out) (has : Quiet story out.2 as)
    (hdrawn : lastDrawn (before ++ [last]) = some r) :
    Ending story c (as ++ before) last out where
  goesOn b hb := (List.mem_append.mp hb).elim (has.goesOn b) (h.goesOn b)
  outcome := h.outcome
  ends := by
    rw [List.append_assoc, lastDrawn_append, hdrawn, h.ends, hdrawn]
    rfl
  moved m calls outcome hmem := by
    rw [List.append_assoc] at hmem
    exact (List.mem_append.mp hmem).elim (has.moved m calls outcome) (h.moved m calls outcome)

theorem moved_of_move (hr : r.Reachable Terminal.host story) {m : Move} {final : Game μ}
    {outcome : Except StoryError NodeView}
    (h : r.move Terminal.host story s m = (outcome, r', s'))
    (hfinal : ∀ e, outcome = .error e → final = s') :
    Moved story final (r.calls Terminal.host story s m) outcome := by
  obtain ⟨-, hplayed, hcalls⟩ := Reader.calls_keep hr s m
  rw [h] at hplayed hcalls
  refine ⟨⟨s, s', hplayed, hfinal⟩, ?_⟩
  intro before call e after hsplit
  exact hcalls.endsAtError.last hsplit

theorem Opening.quiet {opening : List Beat} (h : Opening story s opening (.ok r, s'))
    (final : Game μ) : Quiet story final opening := by
  cases h with
  | starts hload hstart =>
    refine ⟨by simp [Beat.GoesOn, Beat.outcome], ?_⟩
    intro m calls outcome hmem
    obtain ⟨rfl, rfl, rfl⟩ : m = _ ∧ calls = _ ∧ outcome = _ := by simpa using hmem
    exact moved_of_move .new hstart nofun

theorem Opening.ending {opening : List Beat} {e : StoryError}
    (h : Opening story s opening (.error e, s')) :
    ∃ before last, opening = before ++ [last] ∧ Ending story c before last (.error e, s') := by
  -- Nothing was shown yet.
  have hends : ∀ {beats : List Beat}, lastDrawn beats = none →
      ¬ ∃ r view, lastDrawn beats = some r ∧ r.view = some view ∧ shown c view = [] := by
    rintro beats hnone ⟨r, view, hr, -⟩
    cases hnone.symm.trans hr
  cases h with
  | loadFails hload =>
    exact ⟨[], _, rfl, ⟨by simp, rfl, iff_of_false nofun (hends rfl), by simp⟩⟩
  | startFails hload hstart =>
    refine ⟨[_, _], _, rfl, ⟨?_, rfl, iff_of_false nofun (hends rfl), ?_⟩⟩
    · simp [Beat.GoesOn, Beat.outcome]
    · intro m calls outcome hmem
      obtain ⟨rfl, rfl, rfl⟩ : m = _ ∧ calls = _ ∧ outcome = _ := by simpa using hmem
      exact moved_of_move .new hstart fun _ _ => rfl

theorem Round.lastDrawn_eq {beats : List Beat} {t : Turn μ} (h : Round story c r s beats t) :
    lastDrawn beats = some r := by
  cases h <;> rfl

theorem Round.quiet (hr : Ready story r) {beats : List Beat}
    (h : Round story c r s beats (.next r' s')) (final : Game μ) : Quiet story final beats := by
  cases h with
  | refuses hv hsome hread hquit hpick =>
    refine ⟨by simp [Beat.GoesOn, Beat.outcome], by simp⟩
  | goesOn hv hsome hread hquit hpick hpress =>
    refine ⟨by simp [Beat.GoesOn, Beat.outcome], ?_⟩
    intro m calls outcome hmem
    obtain ⟨rfl, rfl, rfl⟩ : m = _ ∧ calls = _ ∧ outcome = _ := by simpa using hmem
    exact moved_of_move hr.reachable hpress nofun

theorem Round.ending (hr : Ready story r) {beats : List Beat} {outcome : Except StoryError Unit}
    (h : Round story c r s beats (.over outcome s')) :
    ∃ before last, beats = before ++ [last] ∧ Ending story c before last (outcome, s') := by
  have hdrawn : lastDrawn beats = some r := h.lastDrawn_eq
  -- Where something is shown, the end of the story is not.
  have hends : ∀ {view : NodeView}, r.view = some view → shown c view ≠ [] →
      ¬ ∃ r' view', lastDrawn beats = some r' ∧ r'.view = some view' ∧ shown c view' = [] := by
    rintro view hv hsome ⟨r', view', hr', hv', hnone⟩
    cases hdrawn.symm.trans hr'
    cases hv.symm.trans hv'
    exact hsome hnone
  cases h with
  | ends hv hnone =>
    refine ⟨[_], _, rfl, ⟨?_, rfl, ?_, by simp⟩⟩
    · simp [Beat.GoesOn, Beat.outcome]
    · exact iff_of_true rfl ⟨r, _, hdrawn, hv, hnone⟩
  | inputEnds hv hsome hread =>
    refine ⟨[_], _, rfl, ⟨?_, rfl, iff_of_false nofun (hends hv hsome), by simp⟩⟩
    simp [Beat.GoesOn, Beat.outcome]
  | readFails hv hsome hread =>
    refine ⟨[_], _, rfl, ⟨?_, rfl, iff_of_false nofun (hends hv hsome), by simp⟩⟩
    simp [Beat.GoesOn, Beat.outcome]
  | quits hv hsome hread hquit =>
    refine ⟨[_], _, rfl, ⟨?_, rfl, iff_of_false nofun (hends hv hsome), by simp⟩⟩
    simp [Beat.GoesOn, Beat.outcome]
  | pressFails hv hsome hread hquit hpick hpress =>
    refine ⟨[_, _], _, rfl, ⟨?_, rfl, iff_of_false nofun (hends hv hsome), ?_⟩⟩
    · simp [Beat.GoesOn, Beat.outcome]
    · intro m calls outcome hmem
      obtain ⟨rfl, rfl, rfl⟩ : m = _ ∧ calls = _ ∧ outcome = _ := by simpa using hmem
      exact moved_of_move hr.reachable hpress fun _ _ => rfl

theorem Rounds.ending (hr : Ready story r) {rounds : List (List Beat)}
    {out : Except StoryError Unit × Game μ} (h : Rounds story c r s rounds out) :
    ∃ before last, rounds.flatten = before ++ [last] ∧ Ending story c before last out ∧
      ∃ r', lastDrawn (before ++ [last]) = some r' := by
  induction h with
  | last h =>
    obtain ⟨before, last, rfl, hending⟩ := h.ending hr
    exact ⟨before, last, by simp, hending, _, h.lastDrawn_eq⟩
  | next h hs ih =>
    obtain ⟨before, last, hbeats, hending, r', hdrawn⟩ := ih (h.ready hr)
    refine ⟨_ ++ before, last, ?_, hending.behind (h.quiet hr _) hdrawn, r', ?_⟩
    · rw [List.flatten_cons, hbeats, List.append_assoc]
    · rw [List.append_assoc, lastDrawn_append, hdrawn]
      rfl

theorem Goes.ending {opening : List Beat} {rounds : List (List Beat)}
    {out : Except StoryError Unit × Game μ} (h : Goes story c s opening rounds out) :
    ∃ before last, opening ++ rounds.flatten = before ++ [last] ∧
      Ending story c before last out := by
  cases h with
  | notBegun h => simpa using h.ending
  | played h hs =>
    obtain ⟨before, last, hbeats, hending, r', hdrawn⟩ := hs.ending h.ready
    refine ⟨opening ++ before, last, ?_, hending.behind (h.quiet _) hdrawn⟩
    rw [hbeats, List.append_assoc]

/-! ## Whether the story was closed -/

/-- The journal goes on with some new entries, and the terminal is closed if it was closed before
or one of them asks for it. -/
def Logged (s s' : Game μ) : Prop :=
  ∃ new, s'.journal = s.journal ++ new ∧
    (s'.host.closed = true ↔ s.host.closed = true ∨ .asked .close ∈ new)

theorem Logged.trans (h : Logged s s') (h' : Logged s' s'') : Logged s s'' := by
  obtain ⟨new, hjournal, hclosed⟩ := h
  obtain ⟨new', hjournal', hclosed'⟩ := h'
  refine ⟨new ++ new', by rw [hjournal', hjournal, List.append_assoc], ?_⟩
  rw [hclosed', hclosed, List.mem_append, or_assoc]

theorem logged_of_closed_eq (hjournal : s'.journal = s.journal)
    (hclosed : s'.host.closed = s.host.closed) : Logged s s' :=
  ⟨[], by simp [hjournal], by simp [hclosed]⟩

theorem kept_logged : Session.Kept Terminal.host (Logged (μ := μ)) where
  refl _ := logged_of_closed_eq rfl rfl
  trans := Logged.trans
  env _ _ := logged_of_closed_eq rfl rfl
  memory _ _ := logged_of_closed_eq rfl rfl
  note s n := ⟨[.noted n], rfl, by simp [Session.record]⟩
  serve s r := by
    rw [serve_eq]
    refine ⟨[.asked r], rfl, ?_⟩
    have hasked : .asked .close ∈ [Event.asked r] ↔ r = .close := by
      simp [eq_comm]
    rw [hasked]
    exact Terminal.answer_closed r s.host

theorem logged_showing (s : Game μ) (out err : String) : Logged s (showing s out err) :=
  logged_of_closed_eq rfl rfl

theorem logged_of_asked {view : NodeView} {answer : Except StoryError (Option String)}
    (h : asked c s view = (answer, s')) : Logged s s' := by
  have hdrawn : Logged s (drawn c s view) := logged_showing s _ _
  have hread : Logged (drawn c s view) (asked c s view).2 :=
    logged_of_closed_eq rfl (Terminal.readLine_closed _ _)
  rw [h] at hread
  exact hdrawn.trans hread

theorem logged_of_move {m : Move} {outcome : Except StoryError NodeView}
    (h : r.move Terminal.host story s m = (outcome, r', s')) : Logged s s' := by
  have hmove := kept_logged.move story r s m
  rwa [h] at hmove

theorem Opening.logged {opening : List Beat} {out : Except StoryError Reader × Game μ}
    (h : Opening story s opening out) : Logged s out.2 := by
  have hload := kept_logged.serve s .load
  cases h with
  | loadFails hl =>
    rw [hl] at hload
    exact hload
  | startFails hl hstart =>
    rw [hl] at hload
    exact (hload.trans (logged_showing _ _ _)).trans (logged_of_move hstart)
  | starts hl hstart =>
    rw [hl] at hload
    exact (hload.trans (logged_showing _ _ _)).trans (logged_of_move hstart)

theorem Round.logged {beats : List Beat} {t : Turn μ} (h : Round story c r s beats t) :
    Logged s t.game := by
  cases h with
  | ends hv hnone =>
    exact (logged_showing s _ _).trans (logged_showing _ _ _)
  | inputEnds hv hsome hread => exact logged_of_asked hread
  | readFails hv hsome hread => exact logged_of_asked hread
  | quits hv hsome hread hquit => exact logged_of_asked hread
  | refuses hv hsome hread hquit hpick =>
    exact (logged_of_asked hread).trans (logged_showing _ _ _)
  | pressFails hv hsome hread hquit hpick hpress =>
    exact (logged_of_asked hread).trans (logged_of_move hpress)
  | goesOn hv hsome hread hquit hpick hpress =>
    exact (logged_of_asked hread).trans (logged_of_move hpress)

theorem Rounds.logged {rounds : List (List Beat)} {out : Except StoryError Unit × Game μ}
    (h : Rounds story c r s rounds out) : Logged s out.2 := by
  induction h with
  | last h => exact h.logged
  | next h _ ih => exact Logged.trans h.logged ih

theorem Goes.logged {opening : List Beat} {rounds : List (List Beat)}
    {out : Except StoryError Unit × Game μ} (h : Goes story c s opening rounds out) :
    Logged s out.2 := by
  cases h with
  | notBegun h => exact h.logged
  | played h hs => exact h.logged.trans hs.logged

/-! ## What the player is told -/

/-- The game after the player was told that the story was closed. -/
def farewell (s : Game μ) : Game μ :=
  let text :=
    if s.host.color then "\x1b[2mThe story was closed.\x1b[0m\n" else "The story was closed.\n"
  showing s text ""

/-- The game after the environment was shown, if it is to be shown. -/
def dumped (c : Config) (s : Game μ) : Game μ :=
  if c.dumpEnv then showing s ((Value.object s.env.snapshot).indented ++ "\n") "" else s

/-- How a session ends whose game has come to an outcome: the environment is shown if it is to be
shown, and only the errors that are failures are told as such. -/
inductive Finishes (c : Config) (isClosed : Prop) (s : Game μ) :
    Except StoryError Unit → Except String Unit × Game μ → Prop
  | succeeds : Finishes c isClosed s (.ok ()) (.ok (), dumped c s)
  | closes (h : isClosed) : Finishes c isClosed s (.error .aborted) (.ok (), farewell (dumped c s))
  | aborts (h : ¬ isClosed) : Finishes c isClosed s (.error .aborted) (.ok (), dumped c s)
  | inputEnds : Finishes c isClosed s (.error (.host .inputClosed)) (.ok (), dumped c s)
  | fails {e : StoryError} (ha : e ≠ .aborted) (hi : e ≠ .host .inputClosed) :
      Finishes c isClosed s (.error e) (.error e.message, dumped c s)

theorem dump_eq (c : Config) (s : Game μ) : dump c s = dumped c s := by
  unfold dump dumped
  rw [onTerminal, Terminal.println_eq]
  rfl

theorem dumped_closed (c : Config) (s : Game μ) : (dumped c s).host.closed = s.host.closed := by
  unfold dumped
  split <;> rfl

theorem println_farewell (s : Game μ) :
    { s with host :=
        s.host.println (Text.Style.dimmed.paint s.host.color "The story was closed.") } =
      farewell s := by
  have htext : Text.Style.dimmed.paint s.host.color "The story was closed." ++ "\n" =
      if s.host.color then "\x1b[2mThe story was closed.\x1b[0m\n"
      else "The story was closed.\n" := by
    cases s.host.color <;> decide
  rw [Terminal.println_eq, htext]
  rfl

theorem finishes_of_conclude {isClosed : Prop} (h : s.host.closed = true ↔ isClosed)
    (outcome : Except StoryError Unit) : Finishes c isClosed s outcome (conclude c outcome s) := by
  have hclosed : (dumped c s).host.closed = true ↔ isClosed := by rw [dumped_closed, h]
  unfold conclude finish
  simp only [dump_eq]
  split
  · exact .succeeds
  · by_cases hc : isClosed
    · rw [if_pos (hclosed.mpr hc), println_farewell]
      exact .closes hc
    · rw [if_neg (mt hclosed.mp hc)]
      exact .aborts hc
  · exact .inputEnds
  · rename_i e ha hi
    exact .fails ha hi

/-! ## The law -/

/-- The first failure that nothing looks at ends a game, at once and with its own error: in a
script, where it passes through all that only goes on after it; in a move, whose other callbacks do
not run; and in the game, which does nothing more. The player is told of it unless it is an abort or
a closed input, and that the story was closed if the story has asked for that. -/
theorem the_first_failure_ends_a_game (story : Story μ) (c : Config) (s : Game μ) :
    (∃ opening rounds before last, Goes story c s opening rounds (play story c s) ∧
      opening ++ rounds.flatten = before ++ [last] ∧
      Ending story c before last (play story c s) ∧
      ∀ e, (play story c s).1 = .error e → Fails story last e) ∧
    (∀ {α β : Type} (part : Script μ β) (t : Script μ α) (s₁ s₂ s₃ : Game μ) (e : StoryError),
      Script.Reaches Terminal.host part s₂ t s₁ → part.run Terminal.host s₂ = (.error e, s₃) →
        t.run Terminal.host s₁ = (.error e, s₃)) ∧
    (∀ {β : Type} (choices : Choices μ β), choices.PassesOn Terminal.host) ∧
    ∃ new, (play story c s).2.journal = s.journal ++ new ∧
      Finishes c (s.host.closed = true ∨ .asked .close ∈ new) (play story c s).2
        (play story c s).1 (session story c s) := by
  obtain ⟨opening, rounds, hgoes⟩ := goes_of_play story c s
  obtain ⟨before, last, hbeats, hending⟩ := hgoes.ending
  obtain ⟨new, hjournal, hclosed⟩ := hgoes.logged
  refine ⟨⟨opening, rounds, before, last, hgoes, hbeats, hending, ?_⟩, ?_, ?_, ?_⟩
  · intro e he
    obtain ⟨b, hb, hfails⟩ := hgoes.fails he
    rw [hbeats, List.getLast?_concat] at hb
    cases hb
    exact hfails
  · intro α β part t s₁ s₂ s₃ e hreaches hpart
    exact hreaches.passes hpart
  · intro β choices
    exact choices.passesOn
  · exact ⟨new, hjournal, finishes_of_conclude hclosed _⟩

/-- A story that is closed before it has begun. -/
def closing : Story Unit where
  initial _ := (Script.ask .close).bind fun _ => .done "hall"

example :
    let out := session closing {} { env := .empty, memory := (), host := { lines := [] } }
    out.1 = .ok () ∧ out.2.host.out = "The story was closed.\n" := ⟨rfl, rfl⟩

end

end Command.Play

end Gamebook
