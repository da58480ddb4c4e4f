-- Calls of callbacks. A story that is watched writes each call down with its outcome and is the
-- same in every other respect; what is written down can be played again, callback by callback.
import Gamebook.Reader

namespace Gamebook

/-! ## Calls -/

/-- A callback of a story, by the place where it stands. -/
inductive Call where
  | initial
  | reached (node : String)
  | text (node : String)
  | visible (node : String) (option : Nat)
  | available (node : String) (option : Nat)
  | label (node : String) (option : Nat)
  | transition (node : String) (option : Nat)
  deriving DecidableEq

@[reducible] def Call.Answer : Call → Type
  | .initial => String
  | .reached _ => Unit
  | .text _ => String
  | .visible _ _ => Bool
  | .available _ _ => Bool
  | .label _ _ => String
  | .transition _ _ => Option String

/-- A call that was made, and how it ended. -/
structure Entry where
  call : Call
  outcome : Except StoryError call.Answer

section

variable {μ σ α β : Type}

def Story.option? (story : Story μ) (id : String) (i : Nat) : Option (StoryOption μ) :=
  (story.node? id).bind fun n => n.options[i]?

/-- The callback of a story that a call runs. -/
def Call.callback? (story : Story μ) : (c : Call) → Option (Producer μ c.Answer)
  | .initial => some story.initial
  | .reached id => (story.node? id).map fun n => n.reached
  | .text id => (story.node? id).map fun n => n.text
  | .visible id i => (story.option? id i).bind fun o => o.visible
  | .available id i => (story.option? id i).map fun o => o.available
  | .label id i => (story.option? id i).map fun o => o.label
  | .transition id i => (story.option? id i).map fun o => o.select

/-- From the first session to the second, exactly these callbacks ran, in this order and with
these outcomes. -/
inductive Played (h : Host σ) (story : Story μ) : Session μ σ → List Entry → Session μ σ → Prop
  | nil (s : Session μ σ) : Played h story s [] s
  | cons {s s' : Session μ σ} {c : Call} {f : Producer μ c.Answer} {es : List Entry} :
      c.callback? story = some f → Played h story ((f story.scope).run h s).2 es s' →
        Played h story s (⟨c, ((f story.scope).run h s).1⟩ :: es) s'

theorem Played.append {h : Host σ} {story : Story μ} {s s' s'' : Session μ σ} {es fs : List Entry}
    (h1 : Played h story s es s') (h2 : Played h story s' fs s'') :
    Played h story s (es ++ fs) s'' := by
  induction h1 with
  | nil s => exact h2
  | cons hf _ ih => exact .cons hf (ih h2)

/-! ## Watching -/

/-- The session with a list of calls beside its memory. -/
def Session.watch (s : Session μ σ) (es : List Entry) : Session (μ × List Entry) σ :=
  { env := s.env, memory := (s.memory, es), host := s.host, journal := s.journal }

/-- A script over the first part of a memory. -/
def Script.beside : Script μ α → Script (μ × List Entry) α
  | .done a => .done a
  | .fail e => .fail e
  | .readEnv next => .readEnv fun env => (next env).beside
  | .writeEnv env next => .writeEnv env next.beside
  | .readMemory next => .readMemory fun m => (next m.1).beside
  | .writeMemory m next => .readMemory fun old => .writeMemory (m, old.2) next.beside
  | .note n next => .note n next.beside
  | .supports c next => .supports c fun b => (next b).beside
  | .request r next => .request r fun a => (next a).beside

/-- A callback that still sees the story it was made for, and writes down how it ended. -/
def Call.watched (c : Call) (story : Story μ) (f : Producer μ c.Answer) :
    Producer (μ × List Entry) c.Answer := fun _ =>
  (f story.scope).beside.attempt.bind fun outcome =>
    .readMemory fun m => .writeMemory (m.1, m.2 ++ [⟨c, outcome⟩]) (.ofExcept outcome)

def StoryOption.watched (o : StoryOption μ) (story : Story μ) (id : String) (i : Nat) :
    StoryOption (μ × List Entry) where
  label := (Call.label id i).watched story o.label
  available := (Call.available id i).watched story o.available
  visible := o.visible.map ((Call.visible id i).watched story)
  select := (Call.transition id i).watched story o.select

def Node.watched (n : Node μ) (story : Story μ) : Node (μ × List Entry) where
  id := n.id
  text := (Call.text n.id).watched story n.text
  options := n.options.mapIdx fun i o => o.watched story n.id i
  reached := (Call.reached n.id).watched story n.reached

/-- The story with every callback watched. -/
def Story.watched (story : Story μ) : Story (μ × List Entry) where
  title := story.title
  author := story.author
  id := story.id
  nodes := story.nodes.map fun n => n.watched story
  initial := Call.initial.watched story story.initial

theorem Session.serve_watch (h : Host σ) (s : Session μ σ) (es : List Entry) (r : Request) :
    (s.watch es).serve h r = ((s.serve h r).1, (s.serve h r).2.watch es) := by
  have hhost : (s.watch es).host = s.host := rfl
  unfold Session.serve
  rw [hhost]
  rcases h.permits s.host r with e | ⟨⟩ <;> rfl

namespace Script

theorem run_beside (h : Host σ) (t : Script μ α) (s : Session μ σ) (es : List Entry) :
    t.beside.run h (s.watch es) = ((t.run h s).1, (t.run h s).2.watch es) := by
  induction t generalizing s with
  | done a => rfl
  | fail e => rfl
  | readEnv next ih => exact ih _ s
  | writeEnv env next ih => exact ih { s with env := env }
  | readMemory next ih => exact ih _ s
  | writeMemory m next ih => exact ih { s with memory := m }
  | note n next ih => exact ih (s.record (.noted n))
  | supports c next ih => exact ih _ s
  | request r next ih =>
    simp only [beside, run, Session.serve_watch]
    exact ih _ _

theorem run_attempt (h : Host σ) (t : Script μ α) (s : Session μ σ) :
    t.attempt.run h s = (.ok (t.run h s).1, (t.run h s).2) := by
  induction t generalizing s with
  | done a => rfl
  | fail e => rfl
  | readEnv next ih => exact ih _ s
  | writeEnv env next ih => exact ih _
  | readMemory next ih => exact ih _ s
  | writeMemory m next ih => exact ih _
  | note n next ih => exact ih _
  | supports c next ih => exact ih _ s
  | request r next ih => exact ih _ _

end Script

theorem Call.run_watched (h : Host σ) (c : Call) (story : Story μ) (f : Producer μ c.Answer)
    (scope : Scope (μ × List Entry)) (s : Session μ σ) (es : List Entry) :
    (c.watched story f scope).run h (s.watch es) =
      (((f story.scope).run h s).1,
        ((f story.scope).run h s).2.watch (es ++ [⟨c, ((f story.scope).run h s).1⟩])) := by
  unfold Call.watched
  rw [Script.run_bind, Script.run_attempt, Script.run_beside]
  simp only [Script.run, Script.run_ofExcept]
  rfl

/-! ## What a watched script writes down -/

/-- Watched, a script behaves as it does otherwise, and the calls it writes down are those that
were played; they and the outcome are in a relation. -/
def Script.Makes (h : Host σ) (story : Story μ) (watched : Script (μ × List Entry) α)
    (t : Script μ α) (R : List Entry → Except StoryError α → Prop) : Prop :=
  ∀ s es, ∃ fs, watched.run h (s.watch es) = ((t.run h s).1, (t.run h s).2.watch (es ++ fs)) ∧
    Played h story s fs (t.run h s).2 ∧ R fs (t.run h s).1

namespace Script

variable {h : Host σ} {story : Story μ}

theorem Makes.mono {w : Script (μ × List Entry) α} {t : Script μ α}
    {R Q : List Entry → Except StoryError α → Prop} (ht : Makes h story w t R)
    (hR : ∀ es out, R es out → Q es out) : Makes h story w t Q := by
  intro s es
  obtain ⟨fs, h1, h2, h3⟩ := ht s es
  exact ⟨fs, h1, h2, hR _ _ h3⟩

theorem makes_done (a : α) :
    Makes h story (.done a) (.done a) fun es out => es = [] ∧ out = .ok a := by
  intro s es
  exact ⟨[], by rw [List.append_nil]; rfl, .nil s, rfl, rfl⟩

theorem makes_call {c : Call} {f : Producer μ c.Answer} (hf : c.callback? story = some f)
    (scope : Scope (μ × List Entry)) :
    Makes h story (c.watched story f scope) (f story.scope) fun es out => es = [⟨c, out⟩] := by
  intro s es
  exact ⟨_, c.run_watched h story f scope s es, .cons hf (.nil _), rfl⟩

/-- The calls of one part and then those of another, which is left out after an error. -/
def Then (R : List Entry → Except StoryError α → Prop)
    (Q : α → List Entry → Except StoryError β → Prop) (es : List Entry)
    (out : Except StoryError β) : Prop :=
  (∃ e, R es (.error e) ∧ out = .error e) ∨
    ∃ fs a gs, es = fs ++ gs ∧ R fs (.ok a) ∧ Q a gs out

theorem makes_bind {w : Script (μ × List Entry) α} {t : Script μ α}
    {v : α → Script (μ × List Entry) β} {f : α → Script μ β}
    {R : List Entry → Except StoryError α → Prop}
    {Q : α → List Entry → Except StoryError β → Prop}
    (ht : Makes h story w t R) (hf : ∀ a, Makes h story (v a) (f a) (Q a)) :
    Makes h story (w.bind v) (t.bind f) (Then R Q) := by
  intro s es
  obtain ⟨fs, h1, h2, h3⟩ := ht s es
  rw [run_bind, run_bind, h1]
  rcases hr : t.run h s with ⟨e | a, s'⟩
  · rw [hr] at h2 h3
    exact ⟨fs, rfl, h2, Or.inl ⟨e, h3, rfl⟩⟩
  · rw [hr] at h2 h3
    obtain ⟨gs, h4, h5, h6⟩ := hf a s' (es ++ fs)
    refine ⟨fs ++ gs, ?_, h2.append h5, Or.inr ⟨fs, a, gs, rfl, h3, h6⟩⟩
    rw [← List.append_assoc]
    exact h4

end Script

end

end Gamebook
