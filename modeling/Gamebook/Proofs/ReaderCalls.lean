-- Which callbacks a reader runs, and in which order. A rendering asks each callback at most once:
-- the hook, the text, and then option by option, up to the first error. The calls of a move are
-- read off the watched story.
import Gamebook.Proofs.Calls
import Gamebook.Proofs.Moves

namespace Gamebook

section

variable {μ σ : Type}

/-- The calls that a move makes, as the watched story writes them down. -/
def Reader.calls (h : Host σ) (story : Story μ) (r : Reader) (s : Session μ σ) (m : Move) :
    List Entry :=
  (r.move h story.watched (s.watch []) m).2.2.memory.2

/-! ## The order of the calls -/

/-- The calls for the option at an index of a node, and what becomes of it. -/
inductive OptionCalls (o : StoryOption μ) (id : String) (i : Nat) :
    List Entry → Except StoryError (Option OptionView) → Prop
  | visibleFails (hx : o.hasExplicitVisibility = true) (e : StoryError) :
      OptionCalls o id i [⟨.visible id i, .error e⟩] (.error e)
  | invisible (hx : o.hasExplicitVisibility = true) :
      OptionCalls o id i [⟨.visible id i, .ok false⟩] (.ok none)
  | visibleAvailableFails (hx : o.hasExplicitVisibility = true) (e : StoryError) :
      OptionCalls o id i [⟨.visible id i, .ok true⟩, ⟨.available id i, .error e⟩] (.error e)
  | visibleLabelFails (hx : o.hasExplicitVisibility = true) (a : Bool) (e : StoryError) :
      OptionCalls o id i
        [⟨.visible id i, .ok true⟩, ⟨.available id i, .ok a⟩, ⟨.label id i, .error e⟩] (.error e)
  | visible (hx : o.hasExplicitVisibility = true) (a : Bool) (label : String) :
      OptionCalls o id i
        [⟨.visible id i, .ok true⟩, ⟨.available id i, .ok a⟩, ⟨.label id i, .ok label⟩]
        (.ok (some { index := i, label, available := a }))
  | availableFails (hx : o.hasExplicitVisibility = false) (e : StoryError) :
      OptionCalls o id i [⟨.available id i, .error e⟩] (.error e)
  | unavailable (hx : o.hasExplicitVisibility = false) :
      OptionCalls o id i [⟨.available id i, .ok false⟩] (.ok none)
  | availableLabelFails (hx : o.hasExplicitVisibility = false) (e : StoryError) :
      OptionCalls o id i [⟨.available id i, .ok true⟩, ⟨.label id i, .error e⟩] (.error e)
  | available (hx : o.hasExplicitVisibility = false) (label : String) :
      OptionCalls o id i [⟨.available id i, .ok true⟩, ⟨.label id i, .ok label⟩]
        (.ok (some { index := i, label, available := true }))

/-- The calls for options in order, the first of which has the given index. -/
inductive OptionsCalls (id : String) :
    Nat → List (StoryOption μ) → List Entry → Except StoryError (List OptionView) → Prop
  | nil (i : Nat) : OptionsCalls id i [] [] (.ok [])
  | fails {i : Nat} {o : StoryOption μ} {es : List Entry} {e : StoryError}
      (os : List (StoryOption μ)) (h : OptionCalls o id i es (.error e)) :
      OptionsCalls id i (o :: os) es (.error e)
  | cons {i : Nat} {o : StoryOption μ} {os : List (StoryOption μ)} {es fs : List Entry}
      {view : Option OptionView} {out : Except StoryError (List OptionView)}
      (h : OptionCalls o id i es (.ok view)) (hs : OptionsCalls id (i + 1) os fs out) :
      OptionsCalls id i (o :: os) (es ++ fs) (out.map (view.toList ++ ·))

/-- The calls of entering a node, the outcome, and where the reader is then. -/
inductive EnterCalls (story : Story μ) (r : Reader) (id : String) :
    List Entry → Except StoryError NodeView → Reader → Prop
  | missing (hn : story.node? id = none) :
      EnterCalls story r id [] (.error (.nodeNotFound id)) r
  | reachedFails {n : Node μ} (hn : story.node? id = some n) (e : StoryError) :
      EnterCalls story r id [⟨.reached id, .error e⟩] (.error e) r
  | textFails {n : Node μ} (hn : story.node? id = some n) (e : StoryError) :
      EnterCalls story r id [⟨.reached id, .ok ()⟩, ⟨.text id, .error e⟩] (.error e)
        { current := some id, view := none }
  | optionFails {n : Node μ} (hn : story.node? id = some n) (text : String) {es : List Entry}
      {e : StoryError} (hs : OptionsCalls id 0 n.options es (.error e)) :
      EnterCalls story r id (⟨.reached id, .ok ()⟩ :: ⟨.text id, .ok text⟩ :: es) (.error e)
        { current := some id, view := none }
  | shows {n : Node μ} (hn : story.node? id = some n) (text : String) {es : List Entry}
      {options : List OptionView} (hs : OptionsCalls id 0 n.options es (.ok options)) :
      EnterCalls story r id (⟨.reached id, .ok ()⟩ :: ⟨.text id, .ok text⟩ :: es)
        (.ok { node := id, text, options })
        { current := some id, view := some { node := id, text, options } }

/-- The first call of a move aims at a node: the initial one, or the one the pressed option leads
to, which is the node of the view if it leads nowhere. -/
inductive Aims (r : Reader) : Move → Entry → String → Prop
  | start (id : String) : Aims r .start ⟨.initial, .ok id⟩ id
  | press {k : Nat} {view : NodeView} {o : OptionView} (hv : r.view = some view)
      (ho : view.options[k]? = some o) (next : Option String) :
      Aims r (.press k) ⟨.transition view.node o.index, .ok next⟩ (next.getD view.node)

/-- The calls of a move, its outcome, and where the reader is then. -/
inductive MoveCalls (story : Story μ) (r : Reader) :
    Move → List Entry → Except StoryError NodeView → Reader → Prop
  | notStarted {k : Nat} (hv : r.view = none) :
      MoveCalls story r (.press k) [] (.error .notStarted) r
  | notVisible {k : Nat} {view : NodeView} (hv : r.view = some view)
      (hk : view.options.length ≤ k) :
      MoveCalls story r (.press k) [] (.error (.optionNotVisible k)) r
  | initialFails (e : StoryError) :
      MoveCalls story r .start [⟨.initial, .error e⟩] (.error e) r
  | transitionFails {k : Nat} {view : NodeView} {o : OptionView} (hv : r.view = some view)
      (ho : view.options[k]? = some o) (e : StoryError) :
      MoveCalls story r (.press k) [⟨.transition view.node o.index, .error e⟩] (.error e) r
  | enters {m : Move} {first : Entry} {id : String} {es : List Entry}
      {out : Except StoryError NodeView} {r' : Reader} (ha : Aims r m first id)
      (he : EnterCalls story r id es out r') : MoveCalls story r m (first :: es) out r'

/-! ## Rendering -/

variable {h : Host σ} {story : Story μ}

namespace Script

variable {α : Type}

/-- A call, and what follows it unless it fails. -/
def CallThen (c : Call) (Q : c.Answer → List Entry → Except StoryError α → Prop)
    (es : List Entry) (out : Except StoryError α) : Prop :=
  (∃ e, es = [⟨c, .error e⟩] ∧ out = .error e) ∨ ∃ a fs, es = ⟨c, .ok a⟩ :: fs ∧ Q a fs out

theorem makes_call_bind {c : Call} {f : Producer μ c.Answer} (hf : c.callback? story = some f)
    (scope : Scope (μ × List Entry)) {v : c.Answer → Script (μ × List Entry) α}
    {g : c.Answer → Script μ α} {Q : c.Answer → List Entry → Except StoryError α → Prop}
    (hv : ∀ a, Makes h story (v a) (g a) (Q a)) :
    Makes h story ((c.watched story f scope).bind v) ((f story.scope).bind g) (CallThen c Q) := by
  apply (makes_bind (makes_call hf scope) hv).mono
  rintro es out (⟨e, rfl, rfl⟩ | ⟨fs, a, gs, rfl, rfl, hQ⟩)
  · exact Or.inl ⟨e, rfl, rfl⟩
  · exact Or.inr ⟨a, gs, rfl, hQ⟩

end Script

open Script

theorem render_default {o : StoryOption μ} (hx : o.visible = none) (scope : Scope μ) (i : Nat) :
    o.render scope i = (o.available scope).bind fun b =>
      if b = true then (o.label scope).bind fun label =>
        .done (some { index := i, label, available := true }) else .done none := by
  simp [StoryOption.render, StoryOption.isVisible, StoryOption.hasExplicitVisibility, hx]

theorem render_explicit {o : StoryOption μ} {f : Producer μ Bool} (hx : o.visible = some f)
    (scope : Scope μ) (i : Nat) :
    o.render scope i = (f scope).bind fun b =>
      if b = true then (o.available scope).bind fun a => (o.label scope).bind fun label =>
        .done (some { index := i, label, available := a }) else .done none := by
  simp [StoryOption.render, StoryOption.isVisible, StoryOption.hasExplicitVisibility, hx]

/-- The label is asked for last. -/
theorem makes_label {o : StoryOption μ} {id : String} {i : Nat} (ho : story.option? id i = some o)
    (scope : Scope (μ × List Entry)) (a : Bool) :
    Makes h story
      (((o.watched story id i).label scope).bind fun label =>
        .done (some ({ index := i, label, available := a } : OptionView)))
      ((o.label story.scope).bind fun label => .done (some { index := i, label, available := a }))
      (CallThen (.label id i) fun label es out =>
        es = [] ∧ out = .ok (some { index := i, label, available := a })) := by
  have hl : (Call.label id i).callback? story = some o.label := by simp [Call.callback?, ho]
  exact makes_call_bind hl scope fun label => makes_done _

theorem makes_option {o : StoryOption μ} {id : String} {i : Nat} (ho : story.option? id i = some o)
    (scope : Scope (μ × List Entry)) :
    Makes h story ((o.watched story id i).render scope i) (o.render story.scope i)
      (OptionCalls o id i) := by
  have ha : (Call.available id i).callback? story = some o.available := by
    simp [Call.callback?, ho]
  rcases hx : o.visible with _ | f
  · have hd : o.hasExplicitVisibility = false := by simp [StoryOption.hasExplicitVisibility, hx]
    have hw : (o.watched story id i).visible = none := by simp [StoryOption.watched, hx]
    rw [render_default hx, render_default hw]
    apply (makes_call_bind ha scope
      (Q := fun b => if b = true then CallThen (.label id i) fun label es out =>
          es = [] ∧ out = .ok (some { index := i, label, available := true })
        else fun es out => es = [] ∧ out = .ok none) ?_).mono
    · rintro es out (⟨e, rfl, rfl⟩ | ⟨b, fs, rfl, hb⟩)
      · exact .availableFails hd e
      · cases b
        · obtain ⟨rfl, rfl⟩ := hb
          exact .unavailable hd
        · rcases hb with ⟨e, rfl, rfl⟩ | ⟨label, gs, rfl, rfl, rfl⟩
          · exact .availableLabelFails hd e
          · exact .available hd label
    · intro b
      cases b
      · exact makes_done none
      · exact makes_label ho scope true
  -- With a visibility of its own, the option is asked for its availability as well.
  · have hd : o.hasExplicitVisibility = true := by simp [StoryOption.hasExplicitVisibility, hx]
    have hw : (o.watched story id i).visible = some ((Call.visible id i).watched story f) := by
      simp [StoryOption.watched, hx]
    have hv : (Call.visible id i).callback? story = some f := by simp [Call.callback?, ho, hx]
    rw [render_explicit hx, render_explicit hw]
    apply (makes_call_bind hv scope
      (Q := fun b => if b = true then CallThen (.available id i) fun a =>
          CallThen (.label id i) fun label es out =>
            es = [] ∧ out = .ok (some { index := i, label, available := a })
        else fun es out => es = [] ∧ out = .ok none) ?_).mono
    · rintro es out (⟨e, rfl, rfl⟩ | ⟨b, fs, rfl, hb⟩)
      · exact .visibleFails hd e
      · cases b
        · obtain ⟨rfl, rfl⟩ := hb
          exact .invisible hd
        · rcases hb with ⟨e, rfl, rfl⟩ | ⟨a, gs, rfl, ⟨e, rfl, rfl⟩ | ⟨label, gs, rfl, rfl, rfl⟩⟩
          · exact .visibleAvailableFails hd e
          · exact .visibleLabelFails hd a e
          · exact .visible hd a label
    · intro b
      cases b
      · exact makes_done none
      · exact makes_call_bind ha scope fun a => makes_label ho scope a

/-- The options from an index on are rendered in order, up to the first error. -/
theorem makes_options {id : String} (scope : Scope (μ × List Entry)) {i : Nat}
    {os : List (StoryOption μ)} (ho : ∀ j o, os[j]? = some o → story.option? id (i + j) = some o) :
    Makes h story
      (Node.renderOptions scope i (os.mapIdx fun j o => o.watched story id (i + j)))
      (Node.renderOptions story.scope i os) (OptionsCalls id i os) := by
  induction os generalizing i with
  | nil =>
    apply (makes_done []).mono
    rintro es out ⟨rfl, rfl⟩
    exact .nil i
  | cons o os ih =>
    have hnext : (fun j (o : StoryOption μ) => o.watched story id (i + (j + 1))) =
        fun j o => o.watched story id (i + 1 + j) := by
      funext j o
      rw [Nat.add_comm j 1, Nat.add_assoc]
    have hrest : Makes h story
        (Node.renderOptions scope (i + 1) (os.mapIdx fun j o => o.watched story id (i + 1 + j)))
        (Node.renderOptions story.scope (i + 1) os) (OptionsCalls id (i + 1) os) := by
      apply ih
      intro j o' hj
      rw [Nat.add_assoc, Nat.add_comm 1 j]
      exact ho (j + 1) o' hj
    simp only [List.mapIdx_cons, Nat.add_zero, hnext, Node.renderOptions, bind_eq, pure_eq]
    apply (makes_bind (makes_option (ho 0 o rfl) scope) fun view =>
      makes_bind hrest fun views => makes_done (view.toList ++ views)).mono
    rintro es out (⟨e, he, rfl⟩ | ⟨fs, view, gs, rfl, hf, hg⟩)
    · exact .fails os he
    · rcases hg with ⟨e, he, rfl⟩ | ⟨gs, views, _, rfl, hg, rfl, rfl⟩
      · exact .cons hf he
      · rw [List.append_nil]
        exact .cons hf hg

theorem node?_watched (story : Story μ) (id : String) :
    story.watched.node? id = (story.node? id).map fun n => n.watched story := by
  rw [Story.node?_eq_find?, Story.node?_eq_find?]
  unfold Story.watched
  simp only [List.find?_map]
  rfl

theorem makes_node {n : Node μ} {id : String} (hn : story.node? id = some n)
    (scope : Scope (μ × List Entry)) :
    Makes h story ((n.watched story).render scope) (n.render story.scope)
      (CallThen (.text id) fun text es out => ∃ views, OptionsCalls id 0 n.options es views ∧
        out = views.map fun options => { node := id, text, options }) := by
  have ht : (Call.text id).callback? story = some n.text := by simp [Call.callback?, hn]
  have ho : ∀ j o, n.options[j]? = some o → story.option? id (0 + j) = some o := by
    intro j o hj
    simp [Story.option?, hn, hj]
  obtain rfl := Story.id_of_node? hn
  have hw : (n.watched story).options =
      n.options.mapIdx fun j o => o.watched story n.id (0 + j) := by
    simp [Node.watched]
  unfold Node.render
  rw [hw]
  refine makes_call_bind ht scope fun text => ?_
  apply (makes_bind (makes_options scope ho) fun options => makes_done _).mono
  rintro es out (⟨e, he, rfl⟩ | ⟨fs, views, _, rfl, hf, rfl, rfl⟩)
  · exact ⟨_, he, rfl⟩
  · rw [List.append_nil]
    exact ⟨_, hf, rfl⟩

/-! ## Entering and moving -/

namespace Reader

/-- Watched, a reader does what it does otherwise, and the calls it makes are in order. -/
def Keeps (h : Host σ) (story : Story μ) (s : Session μ σ) (es : List Entry)
    (watched : Except StoryError NodeView × Reader × Session (μ × List Entry) σ)
    (out : Except StoryError NodeView × Reader × Session μ σ)
    (R : List Entry → Except StoryError NodeView → Reader → Prop) : Prop :=
  ∃ fs, watched = (out.1, out.2.1, out.2.2.watch (es ++ fs)) ∧ Played h story s fs out.2.2 ∧
    R fs out.1 out.2.1

theorem enter_keeps (r : Reader) (s : Session μ σ) (es : List Entry) (id : String) :
    Keeps h story s es (r.enter h story.watched (s.watch es) id) (r.enter h story s id)
      (EnterCalls story r id) := by
  unfold enter Story.require
  rw [node?_watched]
  rcases hn : story.node? id with _ | n
  · exact ⟨[], by rw [List.append_nil]; rfl, .nil s, .missing hn⟩
  have hreached : (Call.reached id).callback? story = some n.reached := by
    simp [Call.callback?, hn]
  have hw : (n.watched story).reached = (Call.reached id).watched story n.reached := by
    rw [← Story.id_of_node? hn]
    rfl
  obtain ⟨fs, h1, h2, rfl⟩ := makes_call (h := h) hreached story.watched.scope s es
  simp only [Option.map_some, hw, h1]
  rcases hr : (n.reached story.scope).run h s with ⟨e | ⟨⟩, s1⟩
  · rw [hr] at h2
    exact ⟨_, rfl, h2, .reachedFails hn e⟩
  rw [hr] at h2
  obtain ⟨gs, h3, h4, h5⟩ := makes_node (h := h) hn story.watched.scope s1
    (es ++ [⟨.reached id, .ok ()⟩])
  simp only [h3]
  rcases hv : (n.render story.scope).run h s1 with ⟨e | view, s2⟩
  · rw [hv] at h4 h5
    refine ⟨_, by rw [List.append_assoc], h2.append h4, ?_⟩
    rcases h5 with ⟨e', rfl, he⟩ | ⟨text, ts, rfl, views, hs, he⟩
    · cases he
      exact .textFails hn e
    · rcases views with e' | options
      · cases he
        exact .optionFails hn text hs
      · cases he
  · rw [hv] at h4 h5
    refine ⟨_, by rw [List.append_assoc], h2.append h4, ?_⟩
    rcases h5 with ⟨e', rfl, he⟩ | ⟨text, ts, rfl, views, hs, he⟩
    · cases he
    · rcases views with e' | options
      · cases he
      · cases he
        exact .shows hn text hs

/-- Every option of the view stands in the story. -/
def Fits (story : Story μ) (r : Reader) : Prop :=
  ∀ view, r.view = some view →
    ∃ n, story.node? view.node = some n ∧ ∀ o ∈ view.options, o.index < n.options.length

theorem pressed_of_fits {r : Reader} (hr : r.Fits story) {view : NodeView} {k : Nat}
    {o : OptionView} (hv : r.view = some view) (ho : view.options[k]? = some o) :
    ∃ option, story.option? view.node o.index = some option ∧
      r.pressed story k = .ok (view.node, option) := by
  obtain ⟨n, hn, hlt⟩ := hr view hv
  have hi := hlt o (List.mem_of_getElem? ho)
  refine ⟨n.options[o.index], ?_, ?_⟩
  · simp [Story.option?, hn, hi]
  · simp [pressed, hv, ho, Story.require, hn, hi]

theorem fits_watched {r : Reader} (hr : r.Fits story) : r.Fits story.watched := by
  intro view hv
  obtain ⟨n, hn, hlt⟩ := hr view hv
  refine ⟨n.watched story, by rw [node?_watched, hn]; rfl, ?_⟩
  intro o ho
  simpa [Node.watched] using hlt o ho

theorem option?_watched {id : String} {i : Nat} {o : StoryOption μ}
    (ho : story.option? id i = some o) :
    story.watched.option? id i = some (o.watched story id i) := by
  unfold Story.option? at ho ⊢
  obtain ⟨n, hn, hi⟩ := Option.bind_eq_some_iff.mp ho
  rw [node?_watched, hn]
  obtain rfl := Story.id_of_node? hn
  simp [Node.watched, hi]

/-- A call that went well, and the node it aims at. -/
theorem Keeps.after_call {r : Reader} {s : Session μ σ} {es : List Entry} {c : Call}
    {f : Producer μ c.Answer} {a : c.Answer} {s1 : Session μ σ} {m : Move} {id : String}
    (hf : c.callback? story = some f) (hrun : (f story.scope).run h s = (.ok a, s1))
    (ha : Aims r m ⟨c, .ok a⟩ id) :
    Keeps h story s es (r.enter h story.watched (s1.watch (es ++ [⟨c, .ok a⟩])) id)
      (r.enter h story s1 id) (MoveCalls story r m) := by
  have hk : Keeps h story s1 (es ++ [⟨c, .ok a⟩]) _ _ _ :=
    enter_keeps r s1 (es ++ [⟨c, .ok a⟩]) id
  obtain ⟨fs, h1, h2, h3⟩ := hk
  refine ⟨⟨c, .ok a⟩ :: fs, by rw [h1, List.append_assoc]; rfl, ?_, .enters ha h3⟩
  have hp : Played h story s (⟨c, ((f story.scope).run h s).1⟩ :: fs) _ := .cons hf (by rwa [hrun])
  rwa [hrun] at hp

theorem move_keeps {r : Reader} (hr : r.Fits story) (s : Session μ σ) (es : List Entry)
    (m : Move) :
    Keeps h story s es (r.move h story.watched (s.watch es) m) (r.move h story s m)
      (MoveCalls story r m) := by
  cases m with
  | start =>
    have hcall : Call.initial.callback? story = some story.initial := rfl
    obtain ⟨fs, h1, h2, rfl⟩ := makes_call (h := h) hcall story.watched.scope s es
    have hw : story.watched.initial = Call.initial.watched story story.initial := rfl
    simp only [move, start, hw, h1]
    rcases hi : (story.initial story.scope).run h s with ⟨e | id, s1⟩
    · rw [hi] at h2
      exact ⟨_, rfl, h2, .initialFails e⟩
    · exact Keeps.after_call hcall hi (.start id)
  | press k =>
    simp only [move, press]
    rcases hv : r.view with _ | view
    · exact ⟨[], by simp [pressed, hv], by simp [pressed, hv, Played.nil], by
        simpa [pressed, hv] using MoveCalls.notStarted hv⟩
    rcases ho : view.options[k]? with _ | o
    · have hk : view.options.length ≤ k := List.getElem?_eq_none_iff.mp ho
      exact ⟨[], by simp [pressed, hv, ho], by simp [pressed, hv, ho, Played.nil], by
        simpa [pressed, hv, ho] using MoveCalls.notVisible hv hk⟩
    -- The option pressed is the same one in both stories, but for being watched.
    obtain ⟨option, hop, hpressed⟩ := pressed_of_fits hr hv ho
    obtain ⟨option', hop', hpressed'⟩ := pressed_of_fits (fits_watched hr) hv ho
    rw [option?_watched hop] at hop'
    cases hop'
    have hcall : (Call.transition view.node o.index).callback? story = some option.select := by
      simp [Call.callback?, hop]
    obtain ⟨fs, h1, h2, rfl⟩ := makes_call (h := h) hcall story.watched.scope s es
    have hw : (option.watched story view.node o.index).select =
        (Call.transition view.node o.index).watched story option.select := rfl
    simp only [hpressed, hpressed', hw, h1]
    rcases hs : (option.select story.scope).run h s with ⟨e | next, s1⟩
    · rw [hs] at h2
      exact ⟨_, rfl, h2, .transitionFails hv ho e⟩
    · exact Keeps.after_call hcall hs (.press hv ho next)

end Reader

end

end Gamebook
