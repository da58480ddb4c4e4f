-- The law of a choice. A request is put together part by part; the prompt is presented once, the
-- actions bound to the outcome run in the order they were added, and resolving the request goes on
-- with the first yield bound to the outcome.
import Gamebook.Choices
import Gamebook.Session

namespace Gamebook

variable {μ σ α β : Type}

/-! ## Requests by their parts -/

namespace Choices

/-- A call that adds to a request. Its key may be one that another request has given out. -/
inductive Part (μ β : Type) where
  | option (o : PromptOption)
  | choice (label : String)
  | on (key : Nat) (action : Script μ Unit)
  | onCancel (action : Script μ Unit)
  | yields (key : Nat) (value : Script μ β)
  | yieldIfCancelled (value : Script μ β)

def add (c : Choices μ β) : Part μ β → Choices μ β
  | .option o => (c.addOption o).2
  | .choice label => (c.choice label).2
  | .on key action => c.on (some key) action
  | .onCancel action => c.on none action
  | .yields key value => c.yielding (some key) value
  | .yieldIfCancelled value => c.yielding none value

/-- The request after some more calls. -/
def addAll (c : Choices μ β) (parts : List (Part μ β)) : Choices μ β := parts.foldl add c

namespace Part

def option? : Part μ β → Option PromptOption
  | .option o => some o
  | .choice label => some { label }
  | _ => none

/-- The action of a part, with what it is bound to. -/
def action? : Part μ β → Option (Option Nat × Script μ Unit)
  | .on key action => some (some key, action)
  | .onCancel action => some (none, action)
  | _ => none

/-- The yield of a part, with what it is bound to. -/
def yield? : Part μ β → Option (Option Nat × Script μ β)
  | .yields key value => some (some key, value)
  | .yieldIfCancelled value => some (none, value)
  | _ => none

end Part

/-- A request holds what the calls have added, in their order. -/
theorem addAll_eq (c : Choices μ β) (parts : List (Part μ β)) :
    c.addAll parts = { c with
      options := c.options ++ parts.filterMap Part.option?
      actions := c.actions ++ parts.filterMap Part.action?
      yields := c.yields ++ parts.filterMap Part.yield? } := by
  induction parts generalizing c with
  | nil => simp [addAll]
  | cons part parts ih =>
    have hstep : c.addAll (part :: parts) = (c.add part).addAll parts := rfl
    rw [hstep, ih]
    cases part <;>
      simp [add, addOption, choice, on, yielding, List.filterMap_cons, Part.option?, Part.action?,
        Part.yield?]

/-- What is bound to a key, in order. -/
def boundTo (key : Option Nat) (bindings : List (Option Nat × α)) : List α :=
  (bindings.filter fun b => b.1 = key).map Prod.snd

end Choices

/-! ## How a choice can go -/

/-- The scripts run one after the other, each of them once, up to the first error. -/
inductive InTurn (h : Host σ) :
    List (Script μ Unit) → Session μ σ → Except StoryError Unit → Session μ σ → Prop
  | nil (s : Session μ σ) : InTurn h [] s (.ok ()) s
  | fails {t : Script μ Unit} {s s' : Session μ σ} {e : StoryError} (ts : List (Script μ Unit))
      (ht : t.run h s = (.error e, s')) : InTurn h (t :: ts) s (.error e) s'
  | cons {t : Script μ Unit} {ts : List (Script μ Unit)} {s s' s'' : Session μ σ}
      {out : Except StoryError Unit} (ht : t.run h s = (.ok (), s'))
      (hts : InTurn h ts s' out s'') : InTurn h (t :: ts) s out s''

/-- The session after one prompt was presented. -/
def Session.prompted (s : Session μ σ) (h : Host σ) (p : Prompt) : Session μ σ :=
  { s.record (.asked (.choose p)) with host := (h.choose p s.host).2 }

def Prompt.Offers (p : Prompt) : Outcome → Prop
  | .chosen index => index < p.options.length
  | .cancelled => True

/-- An answer that the prompt has not offered is an error of the host. -/
def Prompt.accept (p : Prompt) : Except StoryError Outcome → Except StoryError Outcome
  | .error e => .error e
  | .ok (.chosen index) =>
    if index < p.options.length then .ok (.chosen index)
    else .error (.host (.invalidChoice index))
  | .ok .cancelled => .ok .cancelled

theorem Prompt.accept_offered {p : Prompt} {outcome : Outcome} (ho : p.Offers outcome) :
    p.accept (.ok outcome) = .ok outcome := by
  cases outcome with
  | chosen index => exact if_pos ho
  | cancelled => rfl

theorem Prompt.accept_notOffered {p : Prompt} {index : Nat} (ho : p.options.length ≤ index) :
    p.accept (.ok (.chosen index)) = .error (.host (.invalidChoice index)) :=
  if_neg (Nat.not_lt.mpr ho)

/-- How running and resolving a request end that presents a prompt and has these parts. -/
inductive Choices.Goes (h : Host σ) (p : Prompt) (parts : List (Part μ β)) (s : Session μ σ) :
    Except StoryError Outcome × Session μ σ → Except StoryError β × Session μ σ → Prop
  | unsupported (hc : h.supports s.host .choice = false) :
      Goes h p parts s (.error (.unsupported .choice), s) (.error (.unsupported .choice), s)
  | hostFails {e : StoryError} (hc : h.supports s.host .choice = true)
      (ha : (h.choose p s.host).1 = .error e) :
      Goes h p parts s (.error e, s.prompted h p) (.error e, s.prompted h p)
  | notOffered {index : Nat} (hc : h.supports s.host .choice = true)
      (ha : (h.choose p s.host).1 = .ok (.chosen index)) (ho : p.options.length ≤ index) :
      Goes h p parts s (.error (.host (.invalidChoice index)), s.prompted h p)
        (.error (.host (.invalidChoice index)), s.prompted h p)
  | actionFails {outcome : Outcome} {e : StoryError} {s' : Session μ σ}
      (hc : h.supports s.host .choice = true) (ha : (h.choose p s.host).1 = .ok outcome)
      (ho : p.Offers outcome)
      (hr : InTurn h (boundTo outcome.key (parts.filterMap Part.action?))
        (s.prompted h p) (.error e) s') :
      Goes h p parts s (.error e, s') (.error e, s')
  | yields {outcome : Outcome} {value : Script μ β} {s' : Session μ σ}
      (hc : h.supports s.host .choice = true) (ha : (h.choose p s.host).1 = .ok outcome)
      (ho : p.Offers outcome)
      (hr : InTurn h (boundTo outcome.key (parts.filterMap Part.action?))
        (s.prompted h p) (.ok ()) s')
      (hy : (boundTo outcome.key (parts.filterMap Part.yield?)).head? = some value) :
      Goes h p parts s (.ok outcome, s') (value.run h s')
  | chosenWithoutYield {index : Nat} {o : PromptOption} {s' : Session μ σ}
      (hc : h.supports s.host .choice = true)
      (ha : (h.choose p s.host).1 = .ok (.chosen index)) (ho : p.options[index]? = some o)
      (hr : InTurn h (boundTo (some index) (parts.filterMap Part.action?))
        (s.prompted h p) (.ok ()) s')
      (hy : boundTo (some index) (parts.filterMap Part.yield?) = []) :
      Goes h p parts s (.ok (.chosen index), s') (.error (.missingYield (some o.label)), s')
  | cancelledWithoutYield {s' : Session μ σ} (hc : h.supports s.host .choice = true)
      (ha : (h.choose p s.host).1 = .ok .cancelled)
      (hr : InTurn h (boundTo none (parts.filterMap Part.action?))
        (s.prompted h p) (.ok ()) s')
      (hy : boundTo none (parts.filterMap Part.yield?) = []) :
      Goes h p parts s (.ok .cancelled, s') (.error (.missingYield none), s')

/-! ## Running a request -/

namespace Choices

variable {h : Host σ}

theorem boundTo_cons_self (key : Option Nat) (a : α) (rest : List (Option Nat × α)) :
    boundTo key ((key, a) :: rest) = a :: boundTo key rest := by
  simp [boundTo]

theorem boundTo_cons_of_ne {k key : Option Nat} (hk : k ≠ key) (a : α)
    (rest : List (Option Nat × α)) : boundTo key ((k, a) :: rest) = boundTo key rest := by
  simp [boundTo, hk]

theorem head?_boundTo (key : Option Nat) (bindings : List (Option Nat × α)) :
    (boundTo key bindings).head? = (bindings.find? fun b => b.1 = key).map Prod.snd := by
  simp [boundTo]

theorem runActions_cons_self (key : Option Nat) (action : Script μ Unit)
    (rest : List (Option Nat × Script μ Unit)) :
    runActions key ((key, action) :: rest) = action.bind fun _ => runActions key rest := by
  simp [runActions]

theorem runActions_cons_of_ne {k key : Option Nat} (hk : k ≠ key) (action : Script μ Unit)
    (rest : List (Option Nat × Script μ Unit)) :
    runActions key ((k, action) :: rest) = runActions key rest := by
  simp [runActions, hk]

theorem runActions_inTurn (key : Option Nat) (bindings : List (Option Nat × Script μ Unit))
    (s : Session μ σ) :
    InTurn h (boundTo key bindings) s ((runActions key bindings).run h s).1
      ((runActions key bindings).run h s).2 := by
  induction bindings generalizing s with
  | nil => exact .nil s
  | cons b rest ih =>
    obtain ⟨k, action⟩ := b
    by_cases hk : k = key
    · subst hk
      rw [boundTo_cons_self, runActions_cons_self, Script.run_bind]
      rcases ha : action.run h s with ⟨e | ⟨⟩, s'⟩
      · exact .fails _ ha
      · exact .cons ha (ih s')
    · rw [boundTo_cons_of_ne hk, runActions_cons_of_ne hk]
      exact ih s

/-- A prompt reaches the host once, if the host takes prompts at all. -/
theorem run_present (c : Choices μ β) (s : Session μ σ) :
    c.present.run h s =
      if h.supports s.host .choice then
        (c.prompt.accept (h.choose c.prompt s.host).1, s.prompted h c.prompt)
      else (.error (.unsupported .choice), s) := by
  unfold present
  rw [Script.bind_eq, Script.run_bind, Script.run_ask]
  unfold Session.serve Host.permits
  by_cases hc : h.supports s.host .choice = true
  · simp only [Request.needs, hc, if_true, Host.answer]
    rcases (h.choose c.prompt s.host).1 with e | index | _
    · rfl
    · simp only [Prompt.accept]
      have hlen : c.prompt.options.length = c.options.length := rfl
      rw [hlen]
      split
      · rfl
      · rfl
    · rfl
  · simp only [Request.needs, hc]
    rfl

theorem run_run (c : Choices μ β) (s : Session μ σ) :
    c.run.run h s =
      match c.present.run h s with
      | (.error e, s') => (.error e, s')
      | (.ok outcome, s') =>
        match (runActions outcome.key c.actions).run h s' with
        | (.error e, s'') => (.error e, s'')
        | (.ok (), s'') => (.ok outcome, s'') := by
  unfold run
  rw [Script.bind_eq, Script.run_bind]
  rcases c.present.run h s with ⟨e | outcome, s'⟩
  · rfl
  · simp only [Script.bind_eq, Script.run_bind]
    rcases (runActions outcome.key c.actions).run h s' with ⟨e | ⟨⟩, s''⟩
    · rfl
    · rfl

/-- Resolving a request runs it first. -/
theorem run_resolve (c : Choices μ β) (s : Session μ σ) :
    c.resolve.run h s =
      match c.run.run h s with
      | (.error e, s') => (.error e, s')
      | (.ok outcome, s') =>
        match (boundTo outcome.key c.yields).head? with
        | some value => value.run h s'
        | none => (.error (.missingYield (c.labelOf outcome.key)), s') := by
  unfold resolve
  rw [Script.bind_eq, Script.run_bind]
  rcases c.run.run h s with ⟨e | outcome, s'⟩
  · rfl
  · simp only [head?_boundTo]
    split
    · rename_i hfind
      rw [hfind]
      rfl
    · rename_i hfind
      rw [hfind]
      rfl

/-- A request that holds the actions and the yields of some parts goes as the parts say. -/
theorem goes (h : Host σ) (s : Session μ σ) (c : Choices μ β) (parts : List (Part μ β))
    (hactions : c.actions = parts.filterMap Part.action?)
    (hyields : c.yields = parts.filterMap Part.yield?) :
    Goes h c.prompt parts s (c.run.run h s) (c.resolve.run h s) := by
  rw [run_resolve, run_run, run_present]
  rcases hc : h.supports s.host .choice with _ | _
  · exact .unsupported hc
  simp only [if_true]
  rcases ha : (h.choose c.prompt s.host).1 with e | outcome
  · exact .hostFails hc ha
  by_cases ho : c.prompt.Offers outcome
  · have hrun := runActions_inTurn (h := h) outcome.key c.actions (s.prompted h c.prompt)
    rw [Prompt.accept_offered ho]
    simp only
    rcases hout : (runActions outcome.key c.actions).run h (s.prompted h c.prompt)
      with ⟨e | ⟨⟩, s'⟩
    · rw [hout, hactions] at hrun
      exact .actionFails hc ha ho hrun
    rw [hout, hactions] at hrun
    simp only
    rcases hy : (boundTo outcome.key c.yields).head? with _ | value
    -- Without a yield, the option that was chosen names what is missing.
    · rw [hyields, List.head?_eq_none_iff] at hy
      cases outcome with
      | chosen index =>
        have hoption : c.options[index]? = some c.options[index] := List.getElem?_eq_getElem ho
        have hlabel : c.labelOf (Outcome.chosen index).key = some c.options[index].label := by
          simp [labelOf, Outcome.key, hoption]
        rw [hlabel]
        exact .chosenWithoutYield hc ha hoption hrun hy
      | cancelled => exact .cancelledWithoutYield hc ha hrun hy
    · rw [hyields] at hy
      exact .yields hc ha ho hrun hy
  · cases outcome with
    | chosen index =>
      have hle : c.prompt.options.length ≤ index := Nat.not_lt.mp ho
      rw [Prompt.accept_notOffered hle]
      exact .notOffered hc ha hle
    | cancelled => exact absurd trivial ho

end Choices

/-- However a request is put together and whatever the host answers: the prompt is presented once,
with the options in their order, and then exactly the actions bound to the outcome run, in theirs.
The first error ends the whole and comes out unchanged. Resolving does the same and goes on with
the first yield bound to the outcome, if there is one. A key stands for the option it came with. -/
theorem a_choice_runs_what_is_bound_to_its_outcome (h : Host σ) (s : Session μ σ) (text : String)
    (title : Option String) (icon : Option Icon) (cancellable : Bool)
    (parts : List (Choices.Part μ β)) :
    let blank : Choices μ β := { text, title, icon, cancellable }
    let c := blank.addAll parts
    let p : Prompt :=
      { text, title, icon, cancellable, options := parts.filterMap Choices.Part.option? }
    Choices.Goes h p parts s (c.run.run h s) (c.resolve.run h s) ∧
      ∀ before o after, parts = before ++ .option o :: after →
        p.options[((blank.addAll before).addOption o).1]? = some o := by
  intro blank c p
  have hc : c = { blank with
      options := p.options
      actions := parts.filterMap Choices.Part.action?
      yields := parts.filterMap Choices.Part.yield? } := by
    simp only [c, p, Choices.addAll_eq]
    rfl
  refine ⟨?_, ?_⟩
  · have hprompt : c.prompt = p := by
      rw [hc]
      rfl
    have hgoes := Choices.goes h s c parts (by rw [hc]) (by rw [hc])
    rwa [hprompt] at hgoes
  · intro before o after hparts
    simp [p, hparts, Choices.addAll_eq, Choices.addOption, blank, Choices.Part.option?]

end Gamebook
