-- Presses. A position of a view stands for the option whose label was produced for it, and a press
-- runs the transition of that option and of no other. Where the transition leads nowhere, the
-- press goes as if it led to the node of the view.
import Gamebook.Proofs.NodeStore
import Gamebook.Proofs.Visits
import Mathlib.Data.List.Induction

namespace Gamebook

section

variable {μ σ α β : Type} {h : Host σ} {story : Story μ} {r r' : Reader}

/-! ## Labels and transitions among the calls -/

/-- The option whose label a call has produced, and the label. -/
def Entry.labelled? : Entry → Option (String × Nat × String)
  | ⟨.label id i, .ok label⟩ => some (id, i, label)
  | _ => none

/-- The option whose transition a call has run. -/
def Entry.transition? : Entry → Option (String × Nat)
  | ⟨.transition id i, _⟩ => some (id, i)
  | _ => none

/-- The labels of a view, each with the option that it was produced for. -/
def NodeView.labels (v : NodeView) : List (String × Nat × String) :=
  v.options.map fun o => (v.node, o.index, o.label)

theorem OptionCalls.labelled {o : StoryOption μ} {id : String} {i : Nat} {es : List Entry}
    {view : Option OptionView} (hc : OptionCalls o id i es (.ok view)) :
    es.filterMap Entry.labelled? = view.toList.map fun v => (id, v.index, v.label) := by
  cases hc <;> rfl

theorem OptionsCalls.labelled {id : String} {i : Nat} {os : List (StoryOption μ)}
    {es : List Entry} {out : Except StoryError (List OptionView)}
    (hc : OptionsCalls id i os es out) :
    ∀ views, out = .ok views →
      es.filterMap Entry.labelled? = views.map fun v => (id, v.index, v.label) := by
  induction hc with
  | nil i =>
    intro views hout
    cases hout
    rfl
  | fails os hc =>
    intro views hout
    cases hout
  | @cons i o os es fs view out hc hs ih =>
    intro views hout
    rcases out with e | rest
    · cases hout
    cases hout
    rw [List.filterMap_append, List.map_append, hc.labelled, ih rest rfl]

theorem EnterCalls.labelled {id : String} {es : List Entry} {v : NodeView}
    (hc : EnterCalls story r id es (.ok v) r') : es.filterMap Entry.labelled? = v.labels := by
  cases hc with
  | shows hn text hs => exact hs.labelled _ rfl

/-- A move that shows a node has produced the labels of its view, in their order. -/
theorem MoveCalls.labelled {m : Move} {es : List Entry} {v : NodeView}
    (hc : MoveCalls story r m es (.ok v) r') : es.filterMap Entry.labelled? = v.labels := by
  cases hc with
  | enters ha he => cases ha <;> exact he.labelled

theorem OptionCalls.no_transition {o : StoryOption μ} {id : String} {i : Nat} {es : List Entry}
    {out : Except StoryError (Option OptionView)} (hc : OptionCalls o id i es out) :
    es.filterMap Entry.transition? = [] := by
  cases hc <;> rfl

theorem OptionsCalls.no_transition {id : String} {i : Nat} {os : List (StoryOption μ)}
    {es : List Entry} {out : Except StoryError (List OptionView)}
    (hc : OptionsCalls id i os es out) : es.filterMap Entry.transition? = [] :=
  hc.filterMap_eq_nil OptionCalls.no_transition

/-- To enter a node runs no transition. -/
theorem EnterCalls.no_transition {id : String} {es : List Entry}
    {out : Except StoryError NodeView} (hc : EnterCalls story r id es out r') :
    es.filterMap Entry.transition? = [] := by
  cases hc with
  | missing hn => rfl
  | reachedFails hn e => rfl
  | textFails hn e => rfl
  | optionFails hn text hs => exact hs.no_transition
  | shows hn text hs => exact hs.no_transition

/-- A node that is entered and shown is the node aimed at. -/
theorem EnterCalls.of_ok {id : String} {es : List Entry} {v : NodeView}
    (hc : EnterCalls story r id es (.ok v) r') :
    v.node = id ∧ r' = { current := some v.node, view := some v } := by
  cases hc with
  | shows hn text hs => exact ⟨rfl, rfl⟩

/-! ## Where a view comes from -/

namespace Reader

theorem after_append (past later : List (Session μ σ × Move)) :
    r.after h story (past ++ later) = (r.after h story past).after h story later := by
  induction past generalizing r with
  | nil => rfl
  | cons step past ih => exact ih

theorem entered_append (past later : List (Session μ σ × Move)) :
    r.entered h story (past ++ later) =
      r.entered h story past ++ (r.after h story past).entered h story later := by
  induction past generalizing r with
  | nil => rfl
  | cons step past ih =>
    rw [List.cons_append, entered, entered, ih, List.append_assoc]
    rfl

/-- A move that leaves a view has given it, or has entered no node and left the view it found. -/
theorem Arrives.given_or_kept {es : List Entry} {out : Except StoryError NodeView} {v : NodeView}
    (ha : r.Arrives es out r') (hv : r'.view = some v) :
    out = .ok v ∨ (r.view = some v ∧ es.filterMap Entry.entered? = []) := by
  cases ha with
  | stays hes e => exact Or.inr ⟨hv, hes⟩
  | breaks hes hb e => cases hv
  | shows hes hb =>
    cases hv
    exact Or.inl rfl

/-- The view of a reader was given by one of its moves, and no node was entered since. -/
theorem view_origin {v : NodeView} (past : List (Session μ σ × Move))
    (hv : (after h story {} past).view = some v) :
    ∃ before s m later, past = before ++ (s, m) :: later ∧
      let given := (after h story {} before).move h story s m
      given.1 = .ok v ∧ given.2.1.entered h story later = [] := by
  induction past using List.reverseRecOn with
  | nil => cases hv
  | append_singleton past step ih =>
    obtain ⟨s, m⟩ := step
    have hr : (after h story {} past).Reachable h story := reachable_after .new past
    rw [after_append] at hv
    rcases (calls_keep hr s m).2.2.arrives.given_or_kept hv with hgiven | ⟨hkept, hnone⟩
    · exact ⟨past, s, m, [], rfl, hgiven, rfl⟩
    · obtain ⟨before, s', m', later, rfl, hgiven, hlater⟩ := ih hkept
      refine ⟨before, s', m', later ++ [(s, m)], by simp, hgiven, ?_⟩
      rw [after_append] at hnone
      rw [entered_append, hlater, List.nil_append, entered, entered, List.append_nil]
      exact hnone

end Reader

/-! ## Stories with other transitions -/

/-- What becomes of the transitions of a node: the new one, from the id of the node and the old
one. -/
abbrev Route (μ : Type) := String → Producer μ (Option String) → Producer μ (Option String)

/-- No option leads anywhere. -/
def Route.still : Route μ := fun _ _ => Producer.constant none

/-- Where an option leads nowhere, it leads to its own node. -/
def Route.homing : Route μ := fun id select scope =>
  (select scope).bind fun next => .done (some (next.getD id))

theorem Route.run_homing (id : String) (select : Producer μ (Option String)) (scope : Scope μ)
    (s : Session μ σ) :
    (Route.homing id select scope).run h s =
      (((select scope).run h s).1.map fun next => some (next.getD id),
        ((select scope).run h s).2) := by
  unfold Route.homing
  rw [Script.run_bind]
  rcases (select scope).run h s with ⟨e | next, s₁⟩ <;> rfl

def StoryOption.rerouted (g : Route μ) (id : String) (o : StoryOption μ) : StoryOption μ :=
  { o with select := g id o.select }

theorem StoryOption.select_rerouted (g : Route μ) (id : String) (o : StoryOption μ) :
    (o.rerouted g id).select = g id o.select := rfl

def Node.rerouted (g : Route μ) (n : Node μ) : Node μ :=
  { n with options := n.options.map (StoryOption.rerouted g n.id) }

/-- The story with other transitions, and the same in every other respect. -/
def Story.rerouted (g : Route μ) (story : Story μ) : Story μ :=
  { story with nodes := story.nodes.map (Node.rerouted g) }

theorem Node.render_rerouted (g : Route μ) (n : Node μ) (scope : Scope μ) :
    (n.rerouted g).render scope = n.render scope := by
  have hoptions (os : List (StoryOption μ)) (i : Nat) :
      renderOptions scope i (os.map (StoryOption.rerouted g n.id)) =
        renderOptions scope i os := by
    induction os generalizing i with
    | nil => rfl
    | cons o os ih =>
      rw [List.map_cons, renderOptions, renderOptions, ih]
      rfl
  unfold render
  rw [← hoptions n.options 0]
  rfl

namespace Story

theorem node?_rerouted (g : Route μ) (id : String) :
    (story.rerouted g).node? id = (story.node? id).map (Node.rerouted g) := by
  rw [node?_eq_find?, node?_eq_find?]
  unfold rerouted
  simp only [List.find?_map]
  rfl

theorem option?_rerouted (g : Route μ) (id : String) (i : Nat) :
    (story.rerouted g).option? id i = (story.option? id i).map (StoryOption.rerouted g id) := by
  unfold option?
  rw [node?_rerouted]
  rcases hn : story.node? id with _ | n
  · rfl
  · obtain rfl := id_of_node? hn
    simp [Node.rerouted]

theorem contains_rerouted (g : Route μ) : (story.rerouted g).contains = story.contains := by
  funext id
  rw [← isSome_node?, ← isSome_node?, node?_rerouted, Option.isSome_map]

/-- The callbacks of a story cannot see its transitions. -/
theorem scopeAt_rerouted (g : Route μ) (depth : Nat) :
    (story.rerouted g).scopeAt depth = story.scopeAt depth := by
  have hids : (story.rerouted g).nodeIds = story.nodeIds := by
    simp [nodeIds, rerouted, Node.rerouted, Function.comp_def]
  have href : (fun id => ((story.rerouted g).node? id).map (·.id)) =
      fun id => (story.node? id).map (·.id) := by
    funext id
    rw [node?_rerouted, Option.map_map]
    rfl
  induction depth with
  | zero =>
    unfold scopeAt
    congr 1
    exact contains_rerouted g
  | succ depth ih =>
    unfold scopeAt
    congr 1
    · exact contains_rerouted g
    · funext id
      unfold require
      rw [node?_rerouted, ih]
      cases story.node? id <;> rfl
    · rw [ih]
      rfl

theorem scope_rerouted (g : Route μ) : (story.rerouted g).scope = story.scope :=
  scopeAt_rerouted g nestingLimit

end Story

/-- To enter a node asks nothing about the transitions. -/
theorem Reader.enter_rerouted (g : Route μ) (s : Session μ σ) (id : String) :
    r.enter h (story.rerouted g) s id = r.enter h story s id := by
  unfold enter Story.require
  rw [Story.node?_rerouted, Story.scope_rerouted]
  rcases story.node? id with _ | n
  · rfl
  · simp only [Option.map_some, Node.render_rerouted]
    rfl

/-! ## What is written down behind other calls -/

/-- The session with calls in front of those that were written down. -/
def Session.behind (es : List Entry) (s : Session (μ × List Entry) σ) :
    Session (μ × List Entry) σ :=
  { s with memory := (s.memory.1, es ++ s.memory.2) }

theorem Session.behind_watch (s : Session μ σ) (es fs : List Entry) :
    (s.watch fs).behind es = s.watch (es ++ fs) := rfl

/-- To a script it makes no difference what was written down before. -/
def Script.Blind (h : Host σ) (t : Script (μ × List Entry) α) : Prop :=
  ∀ s es, t.run h (s.behind es) = ((t.run h s).1, (t.run h s).2.behind es)

namespace Script

theorem blind_done (a : α) : (done a : Script (μ × List Entry) α).Blind h := by
  intro s es
  rfl

theorem Blind.bind {t : Script (μ × List Entry) α} {f : α → Script (μ × List Entry) β}
    (ht : t.Blind h) (hf : ∀ a, (f a).Blind h) : (t.bind f).Blind h := by
  intro s es
  rw [run_bind, run_bind, ht s es]
  rcases t.run h s with ⟨e | a, s₁⟩
  · rfl
  · exact hf a s₁ es

theorem blind_call (c : Call) (f : Producer μ c.Answer) (scope : Scope (μ × List Entry)) :
    (c.watched story f scope).Blind h := by
  intro s es
  obtain ⟨s, fs, rfl⟩ : ∃ (s' : Session μ σ) (fs : List Entry), s = s'.watch fs :=
    ⟨{ env := s.env, memory := s.memory.1, host := s.host, journal := s.journal },
      s.memory.2, rfl⟩
  rw [Session.behind_watch, c.run_watched, c.run_watched, Session.behind_watch, List.append_assoc]

end Script

open Script

theorem blind_option (o : StoryOption μ) (id : String) (i j : Nat)
    (scope : Scope (μ × List Entry)) : ((o.watched story id i).render scope j).Blind h := by
  have hlabel (a : Bool) : (((o.watched story id i).label scope).bind fun label =>
      .done (some ({ index := j, label, available := a } : OptionView))).Blind h :=
    (blind_call (.label id i) o.label scope).bind fun label => blind_done _
  rcases hx : o.visible with _ | f
  · have hw : (o.watched story id i).visible = none := by simp [StoryOption.watched, hx]
    rw [render_default hw]
    refine (blind_call (.available id i) o.available scope).bind fun b => ?_
    cases b
    · exact blind_done none
    · exact hlabel true
  · have hw : (o.watched story id i).visible = some ((Call.visible id i).watched story f) := by
      simp [StoryOption.watched, hx]
    rw [render_explicit hw]
    refine (blind_call (.visible id i) f scope).bind fun b => ?_
    cases b
    · exact blind_done none
    · exact (blind_call (.available id i) o.available scope).bind hlabel

theorem blind_options {os : List (StoryOption (μ × List Entry))} {scope : Scope (μ × List Entry)}
    (hos : ∀ o ∈ os, ∀ i, (o.render scope i).Blind h) (i : Nat) :
    (Node.renderOptions scope i os).Blind h := by
  induction os generalizing i with
  | nil => exact blind_done []
  | cons o os ih =>
    obtain ⟨ho, hos⟩ := List.forall_mem_cons.mp hos
    exact (ho i).bind fun view => (ih hos (i + 1)).bind fun views => blind_done _

theorem blind_node (n : Node μ) (scope : Scope (μ × List Entry)) :
    ((n.watched story).render scope).Blind h := by
  refine (blind_call (.text n.id) n.text scope).bind fun text => ?_
  refine (blind_options ?_ 0).bind fun options => blind_done _
  intro o ho i
  obtain ⟨j, hj, rfl⟩ := List.mem_mapIdx.mp ho
  exact blind_option n.options[j] n.id j i scope

namespace Reader

theorem enter_behind (s : Session (μ × List Entry) σ) (es : List Entry) (id : String) :
    r.enter h story.watched (s.behind es) id =
      ((r.enter h story.watched s id).1, (r.enter h story.watched s id).2.1,
        (r.enter h story.watched s id).2.2.behind es) := by
  unfold enter Story.require
  rw [node?_watched]
  rcases story.node? id with _ | n
  · rfl
  have hreached : ((n.watched story).reached story.watched.scope).Blind h :=
    blind_call (.reached n.id) n.reached story.watched.scope
  simp only [Option.map_some, hreached s es]
  rcases ((n.watched story).reached story.watched.scope).run h s with ⟨e | ⟨⟩, s₁⟩
  · rfl
  simp only [blind_node n story.watched.scope s₁ es]
  rcases ((n.watched story).render story.watched.scope).run h s₁ with ⟨e | view, s₂⟩
  · rfl
  · rfl

/-- The calls of entering a node, as the watched story writes them down. -/
def enterCalls (h : Host σ) (story : Story μ) (r : Reader) (s : Session μ σ) (id : String) :
    List Entry :=
  (r.enter h story.watched (s.watch []) id).2.2.memory.2

theorem enterCalls_keep (h : Host σ) (story : Story μ) (r : Reader) (s : Session μ σ)
    (id : String) :
    EnterCalls story r id (r.enterCalls h story s id) (r.enter h story s id).1
      (r.enter h story s id).2.1 := by
  have hkeeps : Keeps h story s [] _ _ _ := enter_keeps r s [] id
  obtain ⟨fs, hwatched, -, hcalls⟩ := hkeeps
  have hfs : r.enterCalls h story s id = fs := by
    unfold enterCalls
    rw [hwatched]
    rfl
  rw [hfs]
  exact hcalls

end Reader

/-- Watched, two stories that differ in their transitions alone differ there alone. -/
theorem Story.watched_rerouted (g : Route μ) :
    (story.rerouted g).watched.rerouted Route.still = story.watched.rerouted Route.still := by
  have hcall (c : Call) : c.watched (story.rerouted g) = c.watched story := by
    funext f
    unfold Call.watched
    rw [scope_rerouted]
  have hoption (id : String) (i : Nat) (o : StoryOption μ) :
      ((o.rerouted g id).watched (story.rerouted g) id i).rerouted Route.still id =
        (o.watched story id i).rerouted Route.still id := by
    simp only [StoryOption.watched, StoryOption.rerouted, hcall]
    rfl
  have hnode (n : Node μ) :
      ((n.rerouted g).watched (story.rerouted g)).rerouted Route.still =
        (n.watched story).rerouted Route.still := by
    have hoptions : ((n.rerouted g).watched (story.rerouted g)).options.map
        (StoryOption.rerouted Route.still n.id) =
          (n.watched story).options.map (StoryOption.rerouted Route.still n.id) := by
      apply List.ext_getElem?
      intro i
      simp only [Node.watched, Node.rerouted, List.getElem?_map, List.getElem?_mapIdx,
        Option.map_map]
      exact congrArg (Option.map · _) (funext fun o => hoption n.id i o)
    simp only [Node.rerouted, Node.watched, hcall] at hoptions ⊢
    rw [hoptions]
  refine eq_of_nodes ?_ rfl rfl rfl (congrFun (hcall .initial) story.initial)
  show ((story.nodes.map (Node.rerouted g)).map _).map _ = (story.nodes.map _).map _
  rw [List.map_map, List.map_map, List.map_map]
  exact congrArg (List.map · _) (funext hnode)

namespace Reader

theorem enterCalls_rerouted (g : Route μ) (s : Session μ σ) (id : String) :
    r.enterCalls h (story.rerouted g) s id = r.enterCalls h story s id := by
  unfold enterCalls
  rw [← enter_rerouted Route.still, Story.watched_rerouted, enter_rerouted]

theorem fits_rerouted (g : Route μ) (hr : r.Fits story) : r.Fits (story.rerouted g) := by
  intro view hv
  obtain ⟨n, hn, hlt⟩ := hr view hv
  refine ⟨n.rerouted g, by rw [Story.node?_rerouted, hn]; rfl, ?_⟩
  intro o ho
  simpa [Node.rerouted] using hlt o ho

/-! ## A press and its transition -/

/-- A press once its transition has ended, from the node of the view. -/
def onward (h : Host σ) (story : Story μ) (r : Reader) (here : String) :
    Except StoryError (Option String) × Session μ σ →
      Except StoryError NodeView × Reader × Session μ σ
  | (.error e, s) => (.error e, r, s)
  | (.ok next, s) => r.enter h story s (next.getD here)

/-- The calls of a press once its transition has ended. -/
def onwardCalls (h : Host σ) (story : Story μ) (r : Reader) (here : String) :
    Except StoryError (Option String) × Session μ σ → List Entry
  | (.error _, _) => []
  | (.ok next, s) => r.enterCalls h story s (next.getD here)

theorem onwardCalls_homing (here : String) (out : Except StoryError (Option String))
    (s : Session μ σ) :
    r.onwardCalls h (story.rerouted Route.homing) here
        (out.map fun next => some (next.getD here), s) =
      r.onwardCalls h story here (out, s) := by
  rcases out with e | next
  · rfl
  · exact enterCalls_rerouted Route.homing s (next.getD here)

theorem onwardCalls_no_transition (here : String)
    (out : Except StoryError (Option String) × Session μ σ) :
    (r.onwardCalls h story here out).filterMap Entry.transition? = [] := by
  rcases out with ⟨e | next, s⟩
  · rfl
  · exact (enterCalls_keep h story r s (next.getD here)).no_transition

section

variable {v : NodeView} {k : Nat} {o : OptionView} {option : StoryOption μ}

theorem press_eq (hr : r.Fits story) (hv : r.view = some v) (ho : v.options[k]? = some o)
    (hoption : story.option? v.node o.index = some option) (s : Session μ σ) :
    r.move h story s (.press k) =
      r.onward h story v.node ((option.select story.scope).run h s) := by
  obtain ⟨option', hoption', hpressed⟩ := pressed_of_fits hr hv ho
  rw [hoption] at hoption'
  cases hoption'
  simp only [move, press, hpressed]
  rcases (option.select story.scope).run h s with ⟨e | next, s₁⟩ <;> rfl

/-- The first call of a press is the transition of the option pressed. -/
theorem calls_press (hr : r.Fits story) (hv : r.view = some v) (ho : v.options[k]? = some o)
    (hoption : story.option? v.node o.index = some option) (s : Session μ σ) :
    r.calls h story s (.press k) =
      ⟨.transition v.node o.index, ((option.select story.scope).run h s).1⟩ ::
        r.onwardCalls h story v.node ((option.select story.scope).run h s) := by
  obtain ⟨option', hoption', hpressed⟩ := pressed_of_fits (fits_watched hr) hv ho
  rw [option?_watched hoption] at hoption'
  cases hoption'
  have hselect : ((option.watched story v.node o.index).select story.watched.scope).run h
      (s.watch []) = _ :=
    Call.run_watched h (.transition v.node o.index) story option.select story.watched.scope s []
  simp only [calls, move, press, hpressed, hselect]
  rcases (option.select story.scope).run h s with ⟨e | next, s₁⟩
  · rfl
  -- What is written down from here on stands behind the transition.
  · have hbehind : s₁.watch ([] ++ [⟨.transition v.node o.index, .ok next⟩]) =
        (s₁.watch []).behind [⟨.transition v.node o.index, .ok next⟩] := rfl
    simp only [hbehind, enter_behind]
    rfl

theorem arrives_of_press (hr : r.Fits story) (hv : r.view = some v)
    (ho : v.options[k]? = some o) (hoption : story.option? v.node o.index = some option)
    (s : Session μ σ) {next : Option String} {v' : NodeView}
    (hnext : ((option.select story.scope).run h s).1 = .ok next)
    (hok : (r.move h story s (.press k)).1 = .ok v') :
    v'.node = next.getD v.node ∧
      (r.move h story s (.press k)).2.1 = { current := some v'.node, view := some v' } := by
  rw [press_eq hr hv ho hoption s] at hok ⊢
  rcases hout : (option.select story.scope).run h s with ⟨e | next', s₁⟩
  · rw [hout] at hnext
    cases hnext
  · rw [hout] at hnext hok
    cases hnext
    have henter := enterCalls_keep h story r s₁ (next.getD v.node)
    rw [show (r.enter h story s₁ (next.getD v.node)).1 = .ok v' from hok] at henter
    exact henter.of_ok

end

/-! ## Leading home -/

theorem pressed_rerouted (g : Route μ) (k : Nat) :
    r.pressed (story.rerouted g) k =
      (r.pressed story k).map fun p => (p.1, p.2.rerouted g p.1) := by
  unfold pressed
  rcases r.view with _ | v
  · rfl
  simp only
  rcases v.options[k]? with _ | o
  · rfl
  simp only [Story.require, Story.node?_rerouted]
  rcases hn : story.node? v.node with _ | n
  · rfl
  have hoption : (n.rerouted g).options[o.index]? =
      n.options[o.index]?.map (StoryOption.rerouted g v.node) := by
    rw [← Story.id_of_node? hn]
    simp [Node.rerouted]
  simp only [Option.map_some, hoption]
  rcases n.options[o.index]? with _ | option <;> rfl

/-- A story moves as if what leads nowhere led home. -/
theorem move_homing (s : Session μ σ) (m : Move) :
    r.move h (story.rerouted Route.homing) s m = r.move h story s m := by
  cases m with
  | start =>
    have hinitial : (story.rerouted Route.homing).initial = story.initial := rfl
    simp only [move, start, hinitial, Story.scope_rerouted, enter_rerouted]
  | press k =>
    simp only [move, press, pressed_rerouted]
    rcases r.pressed story k with e | ⟨here, option⟩
    · rfl
    simp only [Except.map, StoryOption.select_rerouted, Route.run_homing, Story.scope_rerouted]
    rcases (option.select story.scope).run h s with ⟨e | next, s₁⟩
    · rfl
    · exact enter_rerouted Route.homing s₁ (next.getD here)

theorem after_homing (past : List (Session μ σ × Move)) :
    r.after h (story.rerouted Route.homing) past = r.after h story past := by
  induction past generalizing r with
  | nil => rfl
  | cons step past ih =>
    rw [after, after, move_homing]
    exact ih

end Reader

/-! ## The law -/

namespace Reader

/-- What a press of an option of the view comes to in a session, if the transition of the option
ends in `out`: the transition is run first and no other is, and where it leads nowhere the press
is the same as if it had led to the node of the view. -/
structure Presses (h : Host σ) (story : Story μ) (r : Reader) (v : NodeView) (k : Nat)
    (o : OptionView) (s : Session μ σ) (out : Except StoryError (Option String))
    (rest : List Entry) : Prop where
  calls : r.calls h story s (.press k) = ⟨.transition v.node o.index, out⟩ :: rest
  no_transition : rest.filterMap Entry.transition? = []
  arrives : ∀ next v', out = .ok next → (r.move h story s (.press k)).1 = .ok v' →
    v'.node = next.getD v.node ∧
      (r.move h story s (.press k)).2.1 = { current := some v'.node, view := some v' }
  homing_move : r.move h (story.rerouted .homing) s (.press k) = r.move h story s (.press k)
  homing_calls : r.calls h (story.rerouted .homing) s (.press k) =
    ⟨.transition v.node o.index, out.map fun next => some (next.getD v.node)⟩ :: rest

theorem presses {v : NodeView} {k : Nat} {o : OptionView} {option : StoryOption μ}
    (hr : r.Fits story) (hv : r.view = some v) (ho : v.options[k]? = some o)
    (hoption : story.option? v.node o.index = some option) (s : Session μ σ) :
    r.Presses h story v k o s ((option.select story.scope).run h s).1
      (r.onwardCalls h story v.node ((option.select story.scope).run h s)) where
  calls := calls_press hr hv ho hoption s
  no_transition := onwardCalls_no_transition _ _
  arrives _ _ hnext hok := arrives_of_press hr hv ho hoption s hnext hok
  homing_move := move_homing s (.press k)
  homing_calls := by
    have hhoming : (story.rerouted .homing).option? v.node o.index =
        some (option.rerouted .homing v.node) := by
      rw [Story.option?_rerouted, hoption]
      rfl
    rw [calls_press (fits_rerouted .homing hr) hv ho hhoming, StoryOption.select_rerouted,
      Route.run_homing, Story.scope_rerouted, onwardCalls_homing]

end Reader

/-- Whatever moves were made: the labels of a view were produced by the move that gave it, and a
press of a position runs the transition of the option whose label stands there. A press beyond the
view changes nothing. -/
theorem what_is_shown_is_what_is_pressed (h : Host σ) (story : Story μ)
    (past : List (Session μ σ × Move)) {v : NodeView}
    (hv : (Reader.after h story {} past).view = some v) :
    let r := Reader.after h story {} past
    (∃ before s m later, past = before ++ (s, m) :: later ∧
      let r₀ := Reader.after h story {} before
      (r₀.move h story s m).1 = .ok v ∧
        (r₀.calls h story s m).filterMap Entry.labelled? = v.labels ∧
          (r₀.move h story s m).2.1.entered h story later = []) ∧
      r = Reader.after h (story.rerouted .homing) {} past ∧
      (∀ k o, v.options[k]? = some o → ∃ option,
        story.option? v.node o.index = some option ∧
          ∀ s, ∃ rest, r.Presses h story v k o s ((option.select story.scope).run h s).1 rest) ∧
      ∀ k s, v.options.length ≤ k →
        r.move h story s (.press k) = (.error (.optionNotVisible k), r, s) := by
  intro r
  have hfits : r.Fits story := Reader.fits_of_reachable (Reader.reachable_after .new past)
  refine ⟨?_, (Reader.after_homing past).symm, ?_, ?_⟩
  · obtain ⟨before, s, m, later, hpast, hgiven, hlater⟩ := Reader.view_origin past hv
    refine ⟨before, s, m, later, hpast, hgiven, ?_, hlater⟩
    obtain ⟨-, -, hcalls⟩ := Reader.calls_keep (Reader.reachable_after .new before) s m
    rw [hgiven] at hcalls
    exact hcalls.labelled
  · intro k o ho
    obtain ⟨option, hoption, -⟩ := Reader.pressed_of_fits hfits hv ho
    exact ⟨option, hoption, fun s => ⟨_, Reader.presses hfits hv ho hoption s⟩⟩
  · intro k s hk
    exact Reader.press_out_of_range hv hk s

theorem the_window_behind_a_hidden_secret_is_pressed :
    let past := [(afterVisits 0, Move.start), (afterVisits 0, Move.press 7)]
    let r := Reader.after Host.headless hall {} past
    r.view = some hallView ∧
      hallView.labels = [("hall", 1, "Door"), ("hall", 2, "Window")] ∧
      (∃ rest, r.Presses Host.headless hall hallView 1 ⟨2, "Window", true⟩ (afterVisits 0)
        (.ok none) rest) ∧
      r.move Host.headless hall (afterVisits 0) (.press 2) =
        (.error (.optionNotVisible 2), r, afterVisits 0) := by
  intro past r
  obtain ⟨-, -, hpress, hbeyond⟩ :=
    what_is_shown_is_what_is_pressed Host.headless hall past (v := hallView) rfl
  obtain ⟨option, hoption, hruns⟩ := hpress 1 ⟨2, "Window", true⟩ rfl
  cases hoption
  exact ⟨rfl, rfl, hruns (afterVisits 0), hbeyond 2 (afterVisits 0) (by decide)⟩

end

end Gamebook
