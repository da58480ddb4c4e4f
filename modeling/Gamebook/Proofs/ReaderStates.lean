-- The states of a reader. Its current node and its view are two fields that are set at different
-- points of a move, and pressing looks the node and the option up again; whatever moves were made,
-- the two agree with each other and with the story, so that the second look-up always succeeds.
import Gamebook.Proofs.ReaderLaws

namespace Gamebook

section

variable {μ σ : Type} {h : Host σ} {story : Story μ}

/-! ## Histories -/

/-- The node that a call has entered: one whose hook has passed. -/
def Entry.entered? : Entry → Option String
  | ⟨.reached id, .ok ()⟩ => some id
  | _ => none

namespace Reader

/-- The reader after some moves, each of them in a session of its own. -/
def after (h : Host σ) (story : Story μ) (r : Reader) : List (Session μ σ × Move) → Reader
  | [] => r
  | (s, m) :: past => (r.move h story s m).2.1.after h story past

/-- The nodes that moves have entered, in order. -/
def entered (h : Host σ) (story : Story μ) (r : Reader) : List (Session μ σ × Move) → List String
  | [] => []
  | (s, m) :: past =>
    (r.calls h story s m).filterMap Entry.entered? ++
      (r.move h story s m).2.1.entered h story past

theorem reachable_after {r : Reader} (hr : r.Reachable h story)
    (past : List (Session μ σ × Move)) : (r.after h story past).Reachable h story := by
  induction past generalizing r with
  | nil => exact hr
  | cons step past ih => exact ih (hr.move step.1 step.2)

end Reader

/-! ## Views of a node -/

/-- What is shown of a node: options of its own in their order, and as available each of those
whose visibility follows availability. -/
structure NodeView.Shows (v : NodeView) (n : Node μ) : Prop where
  ascending : v.options.Pairwise fun o o' => o.index < o'.index
  stands : ∀ o ∈ v.options, ∃ option, n.options[o.index]? = some option ∧
    (option.hasExplicitVisibility = false → o.available = true)

theorem OptionsCalls.ascending {id : String} {i : Nat} {os : List (StoryOption μ)}
    {es : List Entry} {out : Except StoryError (List OptionView)}
    (hc : OptionsCalls id i os es out) :
    ∀ views, out = .ok views → views.Pairwise fun v v' => v.index < v'.index := by
  induction hc with
  | nil i =>
    intro views hout
    cases hout
    exact .nil
  | fails os h =>
    intro views hout
    cases hout
  | @cons i o os es fs view out hv hs ih =>
    intro views hout
    rcases out with e | rest
    · cases hout
    cases hout
    rw [List.pairwise_append]
    refine ⟨?_, ih rest rfl, ?_⟩
    · rcases view with _ | v
      · exact .nil
      · exact List.pairwise_singleton _ v
    -- The options rendered later have larger indices than the one rendered first.
    · intro v hm v' hm'
      rw [Option.mem_toList] at hm
      cases hm
      have := (hs.stands rest rfl v' hm').1
      rw [hv.index_eq]
      omega

theorem OptionsCalls.shows {n : Node μ} {id : String} {es : List Entry} {options : List OptionView}
    (hc : OptionsCalls id 0 n.options es (.ok options)) (text : String) :
    ({ node := id, text, options } : NodeView).Shows n where
  ascending := hc.ascending options rfl
  stands o ho := (hc.stands options rfl o ho).2

/-! ## What holds of a reader -/

/-- The view of a reader is of its current node, and both are of the story. -/
structure Reader.Coherent (story : Story μ) (r : Reader) : Prop where
  view_current : ∀ v, r.view = some v → r.current = some v.node
  current_stands : ∀ id, r.current = some id → ∃ n, story.node? id = some n
  view_shows : ∀ v, r.view = some v → ∃ n, story.node? v.node = some n ∧ v.Shows n

theorem EnterCalls.coherent {r r' : Reader} {id : String} {es : List Entry}
    {out : Except StoryError NodeView} (hr : r.Coherent story)
    (hc : EnterCalls story r id es out r') : r'.Coherent story := by
  cases hc with
  | missing hn => exact hr
  | reachedFails hn e => exact hr
  | textFails hn e => exact ⟨by simp, by simpa using ⟨_, hn⟩, by simp⟩
  | optionFails hn text hs => exact ⟨by simp, by simpa using ⟨_, hn⟩, by simp⟩
  | shows hn text hs =>
    exact ⟨by simp, by simpa using ⟨_, hn⟩, by simpa using ⟨_, hn, hs.shows text⟩⟩

theorem MoveCalls.coherent {r r' : Reader} {m : Move} {es : List Entry}
    {out : Except StoryError NodeView} (hr : r.Coherent story)
    (hc : MoveCalls story r m es out r') : r'.Coherent story := by
  cases hc with
  | notStarted hv => exact hr
  | notVisible hv hk => exact hr
  | initialFails e => exact hr
  | transitionFails hv ho e => exact hr
  | enters ha he => exact he.coherent hr

theorem MoveCalls.view_of_ok {r r' : Reader} {m : Move} {es : List Entry} {view : NodeView}
    (hc : MoveCalls story r m es (.ok view) r') : r'.view = some view := by
  cases hc with
  | enters ha he =>
    cases he
    rfl

namespace Reader

theorem coherent_new (story : Story μ) : ({} : Reader).Coherent story :=
  ⟨by simp, by simp, by simp⟩

theorem Coherent.after {r : Reader} (hc : r.Coherent story) (hr : r.Reachable h story)
    (past : List (Session μ σ × Move)) : (r.after h story past).Coherent story := by
  induction past generalizing r with
  | nil => exact hc
  | cons step past ih =>
    have hmove := (calls_keep hr step.1 step.2).2.2
    exact ih (hmove.coherent hc) (hr.move step.1 step.2)

end Reader

/-! ## The node entered last -/

theorem OptionCalls.enters_nothing {o : StoryOption μ} {id : String} {i : Nat} {es : List Entry}
    {out : Except StoryError (Option OptionView)} (hc : OptionCalls o id i es out) :
    es.filterMap Entry.entered? = [] := by
  cases hc <;> rfl

/-- What no call for a single option tells, the calls for options do not tell. -/
theorem OptionsCalls.filterMap_eq_nil {β : Type} {f : Entry → Option β} {id : String}
    (hf : ∀ {o : StoryOption μ} {i : Nat} {es : List Entry}
      {out : Except StoryError (Option OptionView)},
      OptionCalls o id i es out → es.filterMap f = [])
    {i : Nat} {os : List (StoryOption μ)} {es : List Entry}
    {out : Except StoryError (List OptionView)} (hc : OptionsCalls id i os es out) :
    es.filterMap f = [] := by
  induction hc with
  | nil i => rfl
  | fails os h => exact hf h
  | cons h _ ih => rw [List.filterMap_append, hf h, ih, List.append_nil]

theorem OptionsCalls.enters_nothing {id : String} {i : Nat} {os : List (StoryOption μ)}
    {es : List Entry} {out : Except StoryError (List OptionView)}
    (hc : OptionsCalls id i os es out) : es.filterMap Entry.entered? = [] :=
  hc.filterMap_eq_nil OptionCalls.enters_nothing

/-- A node that is rendered was entered once, when its hook passed. -/
theorem OptionsCalls.enters_once {id : String} {i : Nat} {os : List (StoryOption μ)}
    {es : List Entry} {out : Except StoryError (List OptionView)}
    (hc : OptionsCalls id i os es out) (text : String) :
    (⟨.reached id, .ok ()⟩ :: ⟨.text id, .ok text⟩ :: es).filterMap Entry.entered? = [id] := by
  have := congrArg (id :: ·) hc.enters_nothing
  exact this

theorem EnterCalls.current_eq {r r' : Reader} {id : String} {es : List Entry}
    {out : Except StoryError NodeView} (hc : EnterCalls story r id es out r') :
    r'.current = (es.filterMap Entry.entered?).getLast?.or r.current := by
  cases hc with
  | missing hn => rfl
  | reachedFails hn e => rfl
  | textFails hn e => rfl
  | optionFails hn text hs =>
    rw [hs.enters_once text]
    rfl
  | shows hn text hs =>
    rw [hs.enters_once text]
    rfl

/-- After a move the reader is at the node it has entered, or where it was if it entered none. -/
theorem MoveCalls.current_eq {r r' : Reader} {m : Move} {es : List Entry}
    {out : Except StoryError NodeView} (hc : MoveCalls story r m es out r') :
    r'.current = (es.filterMap Entry.entered?).getLast?.or r.current := by
  cases hc with
  | notStarted hv => rfl
  | notVisible hv hk => rfl
  | initialFails e => rfl
  | transitionFails hv ho e => rfl
  | enters ha he =>
    -- The callback that aims at a node does not enter it.
    cases ha with
    | start id => exact he.current_eq
    | press hv ho next => exact he.current_eq

theorem Reader.current_after {r : Reader} (hr : r.Reachable h story)
    (past : List (Session μ σ × Move)) :
    (r.after h story past).current = (r.entered h story past).getLast?.or r.current := by
  induction past generalizing r with
  | nil => rfl
  | cons step past ih =>
    have hmove := (calls_keep hr step.1 step.2).2.2
    have := ih (hr.move step.1 step.2)
    rw [hmove.current_eq] at this
    simp only [after, entered, this, List.getLast?_append, Option.or_assoc]

/-! ## The law -/

/-- The error is the outcome of a callback, the last one to run. -/
def Raised (es : List Entry) (e : StoryError) : Prop := ∃ before c, es = before ++ [⟨c, .error e⟩]

/-- A failed move that no callback has failed finds no view, no option at the position, or no node
of the id aimed at. -/
theorem MoveCalls.raised_or {r r' : Reader} {m : Move} {es : List Entry} {e : StoryError}
    (hc : MoveCalls story r m es (.error e) r') :
    Raised es e ∨ (∃ k, m = .press k ∧ r.view = none) ∨
      (∃ k v, m = .press k ∧ r.view = some v ∧ v.options.length ≤ k) ∨
        ∃ id, e = .nodeNotFound id ∧ story.node? id = none := by
  rcases hc.of_error with ⟨hf, -⟩ | ⟨id, hf, -⟩
  · cases hf with
    | @noView k hv => exact Or.inr (Or.inl ⟨k, rfl, hv⟩)
    | @outOfRange k v hv hk => exact Or.inr (Or.inr (Or.inl ⟨k, v, rfl, hv, hk⟩))
    | initial e => exact Or.inl ⟨[], _, rfl⟩
    | transition hv ho e => exact Or.inl ⟨[], _, rfl⟩
    | @noTarget m first id ha hn => exact Or.inr (Or.inr (Or.inr ⟨id, rfl, hn⟩))
    | reached ha e => exact Or.inl ⟨[_], _, rfl⟩
  · cases hf with
    | text ha e => exact Or.inl ⟨[_, _], _, rfl⟩
    | option ha text es hc e => exact Or.inl ⟨_ :: _ :: _ :: es, _, rfl⟩

/-- What a position of the view stands for is found again, and only a callback can say otherwise. -/
theorem Reader.Coherent.press {r : Reader} (hc : r.Coherent story) (hr : r.Reachable h story)
    {v : NodeView} {k : Nat} (hv : r.view = some v) (hk : k < v.options.length) :
    (∃ o option, v.options[k]? = some o ∧ story.option? v.node o.index = some option ∧
      r.pressed story k = .ok (v.node, option)) ∧
    ∀ s e, (r.move h story s (.press k)).1 = .error e →
      (e = .nodeNotFound v.node ∨ ∃ i, e = .optionNotVisible i) →
        Raised (r.calls h story s (.press k)) e := by
  have ho : v.options[k]? = some v.options[k] := List.getElem?_eq_getElem hk
  obtain ⟨option, hoption, hpressed⟩ := pressed_of_fits (fits_of_reachable hr) hv ho
  refine ⟨⟨_, option, ho, hoption, hpressed⟩, ?_⟩
  intro s e he hkind
  have hmove := (calls_keep hr s (.press k)).2.2
  rw [he] at hmove
  rcases hmove.raised_or with h1 | ⟨k', hm, hnone⟩ | ⟨k', v', hm, hv', hk'⟩ | ⟨id, rfl, hn⟩
  · exact h1
  · rw [hv] at hnone
    cases hnone
  · cases hm
    rw [hv] at hv'
    cases hv'
    omega
  · obtain ⟨n, hnode, -⟩ := hc.view_shows v hv
    rcases hkind with hid | ⟨i, hi⟩
    · cases hid
      rw [hn] at hnode
      cases hnode
    · cases hi

/-- Whatever moves were made, in whatever sessions and with whatever outcomes: the reader stands at
the node that it entered last, which is of the story; a view is of that node, with options of its
own in their order; and pressing a position of the view finds its option again. -/
theorem a_reader_shows_what_stands_in_its_story (h : Host σ) (story : Story μ)
    (past : List (Session μ σ × Move)) :
    let r := Reader.after h story {} past
    let entered := Reader.entered h story {} past
    r.current = entered.getLast? ∧
      (entered = [] → r.isStarted = false ∧ r.view = none) ∧
      (∀ id, r.current = some id →
        ∃ n ∈ story.nodes, n.id = id ∧ r.currentNode story = some n) ∧
      (∀ v, r.view = some v →
        r.current = some v.node ∧ ∃ n, story.node? v.node = some n ∧ v.Shows n) ∧
      ∀ v k, r.view = some v → k < v.options.length →
        (∃ o option, v.options[k]? = some o ∧ story.option? v.node o.index = some option ∧
          r.pressed story k = .ok (v.node, option)) ∧
        ∀ s e, (r.move h story s (.press k)).1 = .error e →
          (e = .nodeNotFound v.node ∨ ∃ i, e = .optionNotVisible i) →
            Raised (r.calls h story s (.press k)) e := by
  intro r entered
  have hr : r.Reachable h story := Reader.reachable_after .new past
  have hc : r.Coherent story := (Reader.coherent_new story).after .new past
  have hcurrent : r.current = entered.getLast? := by
    rw [Reader.current_after .new past]
    exact Option.or_none
  refine ⟨hcurrent, ?_, ?_, ?_, ?_⟩
  · intro hnone
    have hstart : r.current = none := by rw [hcurrent, hnone]; rfl
    refine ⟨by simp [Reader.isStarted, hstart], ?_⟩
    rcases hv : r.view with _ | v
    · rfl
    · have := hc.view_current v hv
      rw [hstart] at this
      cases this
  · intro id hid
    obtain ⟨n, hn⟩ := hc.current_stands id hid
    refine ⟨n, Story.mem_of_node? hn, Story.id_of_node? hn, ?_⟩
    simp [Reader.currentNode, hid, hn]
  · intro v hv
    exact ⟨hc.view_current v hv, hc.view_shows v hv⟩
  · intro v k hv hk
    exact hc.press hr hv hk

/-- A hall with a secret that is hidden, a door that is locked, and a window. -/
def hall : Story Nat where
  nodes := [{
    id := "hall"
    text := Producer.constant "A hall."
    options := [
      { StoryOption.labeled "Secret" with visible := some (Producer.constant false) },
      { StoryOption.labeled "Door" with
        visible := some (Producer.constant true), available := Producer.constant false },
      StoryOption.labeled "Window"] }]
  initial := Producer.requireNode "hall"

def hallView : NodeView where
  node := "hall"
  text := "A hall."
  options := [⟨1, "Door", false⟩, ⟨2, "Window", true⟩]

theorem a_hidden_secret_shifts_the_positions :
    let past := [(afterVisits 0, Move.start), (afterVisits 0, Move.press 7)]
    let r := Reader.after Host.headless hall {} past
    r.current = (Reader.entered Host.headless hall {} past).getLast? ∧
      r.current = some "hall" ∧ r.view = some hallView ∧
      (∃ n, hall.node? "hall" = some n ∧ hallView.Shows n) ∧
      ∃ o option, hallView.options[1]? = some o ∧ o.index = 2 ∧
        hall.option? "hall" o.index = some option ∧ r.pressed hall 1 = .ok ("hall", option) := by
  intro past r
  obtain ⟨h1, -, -, h2, h3⟩ := a_reader_shows_what_stands_in_its_story Host.headless hall past
  have hv : r.view = some hallView := by rfl
  obtain ⟨hcurrent, hshows⟩ := h2 hallView hv
  obtain ⟨⟨o, option, ho, hoption, hpressed⟩, -⟩ := h3 hallView 1 hv (by decide)
  refine ⟨h1, hcurrent, hv, hshows, o, option, ho, ?_, hoption, hpressed⟩
  cases ho
  rfl

end

end Gamebook
