-- Visits. A move enters no node and leaves the reader as it was, or it enters one node, and then
-- the reader is there, with a view of it if it could be rendered. So the view and the current node
-- of a reader are those of its last visit; a press goes by the view, and takes a reader whose last
-- visit was broken off for one that has not been started.
import Gamebook.Proofs.ReaderStates

namespace Gamebook

section

variable {μ σ : Type} {h : Host σ} {story : Story μ} {r r' : Reader}

/-! ## What a move comes to -/

/-- Where no call has failed, no rendering was broken off. -/
theorem EndsAtError.broken?_eq_none {α : Type} {es : List Entry} {a : α}
    (he : EndsAtError es (.ok a)) : broken? es = none := by
  rcases List.eq_nil_or_concat es with rfl | ⟨before, ⟨c, e | answer⟩, hes⟩
  · rfl
  · rw [List.concat_eq_append] at hes
    exact absurd (he.last hes).2 (by simp)
  · rw [hes, List.concat_eq_append, broken?_append]
    cases c <;> rfl

/-- What the calls of a move and its outcome say about the reader after it. -/
inductive Reader.Arrives (r : Reader) :
    List Entry → Except StoryError NodeView → Reader → Prop
  | stays {es : List Entry} (hes : es.filterMap Entry.entered? = []) (e : StoryError) :
      Arrives r es (.error e) r
  | breaks {es : List Entry} {id : String} (hes : es.filterMap Entry.entered? = [id])
      (hb : broken? es = some id) (e : StoryError) :
      Arrives r es (.error e) { current := some id, view := none }
  | shows {es : List Entry} {v : NodeView} (hes : es.filterMap Entry.entered? = [v.node])
      (hb : broken? es = none) :
      Arrives r es (.ok v) { current := some v.node, view := some v }

theorem EnterCalls.arrives {id : String} {es : List Entry} {out : Except StoryError NodeView}
    (hc : EnterCalls story r id es out r') : r.Arrives es out r' := by
  have hends := hc.endsAtError
  cases hc with
  | missing hn => exact .stays rfl _
  | reachedFails hn e => exact .stays rfl e
  | textFails hn e => exact .breaks rfl rfl e
  | @optionFails n hn text es e hs =>
    refine .breaks (hs.enters_once text) ?_ e
    obtain ⟨fs, c, i, rfl, hc⟩ := hs.last_of_error rfl
    rw [← List.cons_append, ← List.cons_append, broken?_append]
    rcases hc with rfl | rfl | rfl <;> rfl
  | shows hn text hs => exact .shows (hs.enters_once text) hends.broken?_eq_none

/-- The call that aims at a node neither enters it nor renders it. -/
theorem Aims.arrives {m : Move} {first : Entry} {id : String} {es : List Entry}
    {out : Except StoryError NodeView} (ha : Aims r m first id) (he : r.Arrives es out r') :
    r.Arrives (first :: es) out r' := by
  have hentered : (first :: es).filterMap Entry.entered? = es.filterMap Entry.entered? := by
    cases ha <;> rfl
  have hbroken : broken? (first :: es) = broken? es := by
    cases es with
    | nil => cases ha <;> rfl
    | cons entry es => simp [broken?]
  cases he with
  | stays hes e => exact .stays (hentered.trans hes) e
  | breaks hes hb e => exact .breaks (hentered.trans hes) (hbroken.trans hb) e
  | shows hes hb => exact .shows (hentered.trans hes) (hbroken.trans hb)

theorem MoveCalls.arrives {m : Move} {es : List Entry} {out : Except StoryError NodeView}
    (hc : MoveCalls story r m es out r') : r.Arrives es out r' := by
  cases hc with
  | notStarted hv => exact .stays rfl _
  | notVisible hv hk => exact .stays rfl _
  | initialFails e => exact .stays rfl e
  | transitionFails hv ho e => exact .stays rfl e
  | enters ha he => exact ha.arrives he.arrives

/-! ## Visits -/

/-- A visit to a node: its hook has passed, and its rendering was completed or broken off. -/
structure Visit where
  node : String
  rendered : Bool
  deriving DecidableEq

/-- The visits among the calls of a move. -/
def visitsOf (es : List Entry) : List Visit :=
  (es.filterMap Entry.entered?).map fun id => { node := id, rendered := (broken? es).isNone }

/-- The visits that moves have made, in order. -/
def Reader.visits (h : Host σ) (story : Story μ) (r : Reader) :
    List (Session μ σ × Move) → List Visit
  | [] => []
  | (s, m) :: past =>
    visitsOf (r.calls h story s m) ++ (r.move h story s m).2.1.visits h story past

theorem Reader.visits_nodes (past : List (Session μ σ × Move)) :
    (r.visits h story past).map Visit.node = r.entered h story past := by
  induction past generalizing r with
  | nil => rfl
  | cons step past ih =>
    have hnodes (es : List Entry) :
        (visitsOf es).map Visit.node = es.filterMap Entry.entered? := by
      simp [visitsOf, Function.comp_def]
    simp only [visits, entered, List.map_append, hnodes, ih]

theorem Reader.Arrives.view_isSome {es : List Entry} {out : Except StoryError NodeView}
    (ha : r.Arrives es out r') :
    r'.view.isSome = ((visitsOf es).getLast?.map Visit.rendered).getD r.view.isSome := by
  cases ha with
  | stays hes e => simp [visitsOf, hes]
  | breaks hes hb e => simp [visitsOf, hes, hb]
  | shows hes hb => simp [visitsOf, hes, hb]

/-- After some moves there is a view exactly if the last visit was completed. -/
theorem Reader.view_isSome_after (hr : r.Reachable h story) (past : List (Session μ σ × Move)) :
    (r.after h story past).view.isSome =
      ((r.visits h story past).getLast?.map Visit.rendered).getD r.view.isSome := by
  induction past generalizing r with
  | nil => rfl
  | cons step past ih =>
    obtain ⟨s, m⟩ := step
    have hmove := (calls_keep hr s m).2.2.arrives.view_isSome
    simp only [after, visits, ih (hr.move s m), hmove, List.getLast?_append]
    rcases ((r.move h story s m).2.1.visits h story past).getLast? with _ | visit
    · rfl
    · rfl

/-! ## Errors that no callback raises -/

/-- In no session does a script of the callback end in the error. -/
def Producer.Spares {α : Type} (h : Host σ) (scope : Scope μ) (e : StoryError)
    (f : Producer μ α) : Prop :=
  ∀ s : Session μ σ, ((f scope).run h s).1 ≠ .error e

/-- No callback of the story ever ends in the error. -/
def Story.Spares (h : Host σ) (story : Story μ) (e : StoryError) : Prop :=
  ∀ (c : Call) (f : Producer μ c.Answer), c.callback? story = some f → f.Spares h story.scope e

theorem Producer.spares_constant {α : Type} {scope : Scope μ} {e : StoryError} (a : α) :
    (Producer.constant a).Spares h scope e := by
  intro s
  simp [constant, Script.run]

theorem Producer.spares_requireNode (id : String) :
    (Producer.requireNode id).Spares h story.scope .notStarted := by
  intro s
  rw [requireNode, Story.scope_requireNode, Script.run_ofExcept]
  split
  · simp
  · simp

/-- The callbacks of an option spare an error, one by one. -/
structure StoryOption.Spares (h : Host σ) (scope : Scope μ) (e : StoryError)
    (o : StoryOption μ) : Prop where
  label : o.label.Spares h scope e
  available : o.available.Spares h scope e
  visible : ∀ f, o.visible = some f → f.Spares h scope e
  select : o.select.Spares h scope e

/-- Whoever looks at the nodes and their options one by one has looked at every callback. -/
theorem Story.spares_of_nodes {e : StoryError} (hinitial : story.initial.Spares h story.scope e)
    (hnodes : ∀ n ∈ story.nodes, n.reached.Spares h story.scope e ∧
      n.text.Spares h story.scope e ∧ ∀ o ∈ n.options, o.Spares h story.scope e) :
    story.Spares h e := by
  have hnode {id : String} {n : Node μ} (hn : story.node? id = some n) :=
    hnodes n (mem_of_node? hn)
  have hoption {id : String} {i : Nat} {o : StoryOption μ} (ho : story.option? id i = some o) :
      o.Spares h story.scope e := by
    obtain ⟨n, hn, hi⟩ := Option.bind_eq_some_iff.mp ho
    exact (hnode hn).2.2 o (List.mem_of_getElem? hi)
  intro c f hf
  cases c with
  | initial =>
    cases hf
    exact hinitial
  | reached id =>
    obtain ⟨n, hn, rfl⟩ := Option.map_eq_some_iff.mp hf
    exact (hnode hn).1
  | text id =>
    obtain ⟨n, hn, rfl⟩ := Option.map_eq_some_iff.mp hf
    exact (hnode hn).2.1
  | visible id i =>
    obtain ⟨o, ho, hv⟩ := Option.bind_eq_some_iff.mp hf
    exact (hoption ho).visible f hv
  | available id i =>
    obtain ⟨o, ho, rfl⟩ := Option.map_eq_some_iff.mp hf
    exact (hoption ho).available
  | label id i =>
    obtain ⟨o, ho, rfl⟩ := Option.map_eq_some_iff.mp hf
    exact (hoption ho).label
  | transition id i =>
    obtain ⟨o, ho, rfl⟩ := Option.map_eq_some_iff.mp hf
    exact (hoption ho).select

theorem Played.not_mem_of_spares {e : StoryError} (hspares : story.Spares h e)
    {s s' : Session μ σ} {es : List Entry} (hp : Played h story s es s') (c : Call) :
    (⟨c, .error e⟩ : Entry) ∉ es := by
  induction hp with
  | nil s => simp
  | cons hf _ ih =>
    intro hmem
    rcases List.mem_cons.mp hmem with heq | hmem
    · obtain ⟨rfl, hout⟩ := Entry.mk.inj heq
      exact hspares _ _ hf _ (eq_of_heq hout).symm
    · exact ih hmem

/-! ## Presses that find no view or no option -/

namespace Reader

theorem press_of_no_view (hv : r.view = none) (s : Session μ σ) (k : Nat) :
    r.move h story s (.press k) = (.error .notStarted, r, s) := by
  simp [move, press, pressed, hv]

theorem press_out_of_range {v : NodeView} {k : Nat} (hv : r.view = some v)
    (hk : v.options.length ≤ k) (s : Session μ σ) :
    r.move h story s (.press k) = (.error (.optionNotVisible k), r, s) := by
  simp [move, press, pressed, hv, List.getElem?_eq_none hk]

/-- If no callback says that nothing was started, a press says so for want of a view. -/
theorem press_notStarted_iff (hr : r.Reachable h story) (hspares : story.Spares h .notStarted)
    (s : Session μ σ) (k : Nat) :
    (r.move h story s (.press k)).1 = .error .notStarted ↔ r.view = none := by
  constructor
  · intro he
    obtain ⟨-, hplayed, hmove⟩ := calls_keep hr s (.press k)
    rw [he] at hmove
    rcases hmove.raised_or with ⟨before, c, hes⟩ | ⟨k', -, hv⟩ | ⟨k', v, hm, hv, hk⟩ | ⟨id, hid, -⟩
    · have hmem : (⟨c, .error .notStarted⟩ : Entry) ∈ r.calls h story s (.press k) := by
        simp [hes]
      exact absurd hmem (hplayed.not_mem_of_spares hspares c)
    · exact hv
    · cases hm
      rw [press_out_of_range hv hk] at he
      cases he
    · cases hid
  · intro hv
    rw [press_of_no_view hv]

/-- A reader is not started as long as it has made no visit. -/
theorem isStarted_after (past : List (Session μ σ × Move)) :
    (after h story {} past).isStarted = false ↔ visits h story {} past = [] := by
  have hcurrent : (after h story {} past).current =
      (entered h story {} past).getLast?.or none := current_after .new past
  rw [Option.or_none, ← visits_nodes] at hcurrent
  simp [isStarted, hcurrent]

end Reader

/-! ## The law -/

/-- In a story whose callbacks never say so themselves, a press says that nothing was started when
no node was ever visited, and also when the last visit was broken off, although the reader is
started then. In every other state it does not say so. -/
theorem a_press_takes_a_broken_visit_for_no_start (h : Host σ) (story : Story μ)
    (hspares : story.Spares h .notStarted) (past : List (Session μ σ × Move)) :
    let r := Reader.after h story {} past
    let visits := Reader.visits h story {} past
    visits.map Visit.node = Reader.entered h story {} past ∧
      (r.isStarted = false ↔ visits = []) ∧
      ∀ s k, (r.move h story s (.press k)).1 = .error .notStarted ↔
        r.isStarted = false ∨ ∃ id, visits.getLast? = some { node := id, rendered := false } := by
  intro r visits
  have hr : r.Reachable h story := Reader.reachable_after .new past
  have hview : r.view.isSome = (visits.getLast?.map Visit.rendered).getD false :=
    Reader.view_isSome_after .new past
  have hstarted : r.isStarted = false ↔ visits = [] := Reader.isStarted_after past
  refine ⟨Reader.visits_nodes past, hstarted, ?_⟩
  intro s k
  have hnone : r.view = none ↔ r.view.isSome = false := by simp
  rw [Reader.press_notStarted_iff hr hspares s k, hstarted, hnone, hview]
  rcases hlast : visits.getLast? with _ | ⟨id, rendered⟩
  · simp [List.getLast?_eq_none_iff.mp hlast]
  · have hne : visits ≠ [] := by
      intro hnil
      simp [hnil] at hlast
    simp [hne]

theorem brittle_spares : brittle.Spares Host.headless .notStarted := by
  apply Story.spares_of_nodes
  · exact Producer.spares_requireNode "1"
  intro n hn
  obtain rfl := List.mem_singleton.mp hn
  refine ⟨Producer.spares_constant (), ?_, ?_⟩
  · intro s
    simp [Script.run]
  intro o ho
  simp only [List.mem_cons, List.not_mem_nil, or_false] at ho
  rcases ho with rfl | rfl
  · refine ⟨Producer.spares_constant _, Producer.spares_constant _, ?_,
      Producer.spares_constant _⟩
    intro f hf
    cases hf
    exact Producer.spares_constant true
  · refine ⟨Producer.spares_constant _, ?_, by simp [StoryOption.labeled],
      Producer.spares_constant _⟩
    intro s
    simp only [Script.run]
    split
    · simp [Script.run]
    · simp [Script.run]

theorem a_broken_second_visit_is_taken_for_no_start :
    let past := [(afterVisits 0, Move.start), (afterVisits 1, Move.start)]
    let r := Reader.after Host.headless brittle {} past
    brittle.Spares Host.headless .notStarted ∧
      Reader.visits Host.headless brittle {} past = [⟨"1", true⟩, ⟨"1", false⟩] ∧
      r.isStarted = true ∧
      (r.move Host.headless brittle (afterVisits 2) (.press 0)).1 = .error .notStarted := by
  intro past r
  obtain ⟨-, -, hpress⟩ :=
    a_press_takes_a_broken_visit_for_no_start Host.headless brittle brittle_spares past
  exact ⟨brittle_spares, rfl, rfl, (hpress (afterVisits 2) 0).mpr (Or.inr ⟨"1", rfl⟩)⟩

/-- A story of one node that has no text to show. -/
def wordless : Story Nat where
  nodes := [{ id := "1", text := fun _ => .fail (.failed "bad text") }]
  initial := Producer.requireNode "1"

theorem wordless_spares : wordless.Spares Host.headless .notStarted := by
  apply Story.spares_of_nodes
  · exact Producer.spares_requireNode "1"
  intro n hn
  obtain rfl := List.mem_singleton.mp hn
  refine ⟨Producer.spares_constant (), ?_, by simp⟩
  intro s
  simp [Script.run]

/-- It is not so that a press says that nothing was started exactly if the reader is not started. -/
theorem a_started_reader_may_be_told_to_start :
    ¬ ∀ (story : Story Nat) (past : List (Session Nat Unit × Move)) (s : Session Nat Unit)
      (k : Nat), story.Spares Host.headless .notStarted →
        let r := Reader.after Host.headless story {} past
        ((r.move Host.headless story s (.press k)).1 = .error .notStarted ↔
          r.isStarted = false) := by
  intro hall
  have hpress := hall wordless [(afterVisits 0, .start)] (afterVisits 0) 0 wordless_spares
  exact absurd (hpress.mp rfl) (by decide)

end

end Gamebook
