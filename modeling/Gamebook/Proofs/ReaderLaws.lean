-- The laws of a reader, for every story, every state it can come to and every move: each callback
-- runs at most once and in order, an error ends the move and comes out unchanged, and a move that
-- fails leaves the reader as it was or at its new node without a view.
import Gamebook.Proofs.ReaderCalls

namespace Gamebook

section

variable {μ σ : Type} {h : Host σ} {story : Story μ}

/-! ## The options of a view -/

theorem OptionCalls.index_eq {o : StoryOption μ} {id : String} {i : Nat} {es : List Entry}
    {view : OptionView} (hc : OptionCalls o id i es (.ok (some view))) : view.index = i := by
  cases hc <;> rfl

theorem OptionCalls.available_eq {o : StoryOption μ} {id : String} {i : Nat} {es : List Entry}
    {view : OptionView} (hc : OptionCalls o id i es (.ok (some view)))
    (hx : o.hasExplicitVisibility = false) : view.available = true := by
  cases hc with
  | visible hx' a label =>
    rw [hx] at hx'
    cases hx'
  | available hx' label => rfl

/-- Rendering from an index on gives views of the options from there on. -/
theorem OptionsCalls.stands {id : String} {i : Nat} {os : List (StoryOption μ)} {es : List Entry}
    {out : Except StoryError (List OptionView)} (hc : OptionsCalls id i os es out) :
    ∀ views, out = .ok views → ∀ v ∈ views, i ≤ v.index ∧
      ∃ o, os[v.index - i]? = some o ∧ (o.hasExplicitVisibility = false → v.available = true) := by
  induction hc with
  | nil i =>
    intro views hout
    cases hout
    simp
  | fails os h =>
    intro views hout
    cases hout
  | @cons i o os es fs view out hv hs ih =>
    intro views hout v hm
    rcases out with e | rest
    · cases hout
    cases hout
    rcases List.mem_append.mp hm with hm | hm
    · rw [Option.mem_toList] at hm
      cases hm
      refine ⟨Nat.le_of_eq hv.index_eq.symm, o, ?_, hv.available_eq⟩
      simp [hv.index_eq]
    · obtain ⟨hle, o', ho, ha⟩ := ih rest rfl v hm
      have hpos : v.index - i = v.index - (i + 1) + 1 := by omega
      refine ⟨by omega, o', ?_, ha⟩
      rw [hpos, List.getElem?_cons_succ]
      exact ho

namespace Reader

theorem fits_of_enter {r r' : Reader} {id : String} {es : List Entry}
    {out : Except StoryError NodeView} (hr : r.Fits story) (hc : EnterCalls story r id es out r') :
    r'.Fits story := by
  cases hc with
  | missing hn => exact hr
  | reachedFails hn e => exact hr
  | textFails hn e =>
    intro view hv
    cases hv
  | optionFails hn text hs =>
    intro view hv
    cases hv
  | @shows n hn text es options hs =>
    intro view hv
    cases hv
    refine ⟨n, hn, ?_⟩
    intro o ho
    obtain ⟨-, option, hoption, -⟩ := hs.stands options rfl o ho
    simpa using (List.getElem?_eq_some_iff.mp hoption).1

theorem fits_of_move {r r' : Reader} {m : Move} {es : List Entry}
    {out : Except StoryError NodeView} (hr : r.Fits story) (hc : MoveCalls story r m es out r') :
    r'.Fits story := by
  cases hc with
  | notStarted hv => exact hr
  | notVisible hv hk => exact hr
  | initialFails e => exact hr
  | transitionFails hv ho e => exact hr
  | enters ha he => exact fits_of_enter hr he

/-- Whatever happened to a reader, the options of its view stand in the story. -/
theorem fits_of_reachable {r : Reader} (hr : Reachable h story r) : r.Fits story := by
  induction hr with
  | new =>
    intro view hv
    cases hv
  | move s m _ ih =>
    obtain ⟨fs, _, _, hc⟩ := move_keeps (h := h) ih s [] m
    exact fits_of_move ih hc

/-- The calls of a move are what the watched story writes down. -/
theorem calls_keep {r : Reader} (hr : Reachable h story r) (s : Session μ σ) (m : Move) :
    r.move h story.watched (s.watch []) m =
        ((r.move h story s m).1, (r.move h story s m).2.1,
          (r.move h story s m).2.2.watch (r.calls h story s m)) ∧
      Played h story s (r.calls h story s m) (r.move h story s m).2.2 ∧
      MoveCalls story r m (r.calls h story s m) (r.move h story s m).1
        (r.move h story s m).2.1 := by
  obtain ⟨fs, h1, h2, h3⟩ := move_keeps (h := h) (fits_of_reachable hr) s [] m
  have hfs : r.calls h story s m = fs := by
    unfold calls
    rw [h1]
    rfl
  rw [hfs]
  exact ⟨h1, h2, h3⟩

end Reader

/-! ## The first error is the last call -/

/-- No call comes after one that failed, and the outcome is its error. -/
def EndsAtError {α : Type} : List Entry → Except StoryError α → Prop
  | [], _ => True
  | ⟨_, .error e⟩ :: es, out => es = [] ∧ out = .error e
  | ⟨_, .ok _⟩ :: es, out => EndsAtError es out

theorem EndsAtError.map {α β : Type} {es : List Entry} {out : Except StoryError α} (f : α → β)
    (he : EndsAtError es out) : EndsAtError es (out.map f) := by
  induction es with
  | nil => trivial
  | cons entry es ih =>
    obtain ⟨c, e | a⟩ := entry
    · obtain ⟨h1, rfl⟩ := he
      exact ⟨h1, rfl⟩
    · exact ih he

theorem EndsAtError.append {α β : Type} {es fs : List Entry} {a : α} {out : Except StoryError β}
    (he : EndsAtError es (.ok a : Except StoryError α)) (hf : EndsAtError fs out) :
    EndsAtError (es ++ fs) out := by
  induction es with
  | nil => exact hf
  | cons entry es ih =>
    obtain ⟨c, e | a⟩ := entry
    · exact absurd he.2 (by simp)
    · exact ih he

theorem EndsAtError.last {α : Type} {es : List Entry} {out : Except StoryError α}
    (he : EndsAtError es out) {before after : List Entry} {c : Call} {e : StoryError}
    (hes : es = before ++ ⟨c, .error e⟩ :: after) : after = [] ∧ out = .error e := by
  induction before generalizing es with
  | nil =>
    subst hes
    exact he
  | cons entry before ih =>
    subst hes
    obtain ⟨c', e' | a⟩ := entry
    · exact absurd he.1 (by simp)
    · have hrest : EndsAtError (before ++ ⟨c, .error e⟩ :: after) out := he
      exact ih hrest rfl

theorem OptionCalls.endsAtError {o : StoryOption μ} {id : String} {i : Nat} {es : List Entry}
    {out : Except StoryError (Option OptionView)} (hc : OptionCalls o id i es out) :
    EndsAtError es out := by
  cases hc <;> simp [EndsAtError]

theorem OptionsCalls.endsAtError {id : String} {i : Nat} {os : List (StoryOption μ)}
    {es : List Entry} {out : Except StoryError (List OptionView)}
    (hc : OptionsCalls id i os es out) : EndsAtError es out := by
  induction hc with
  | nil i => trivial
  | fails os h =>
    have := h.endsAtError.map Option.toList
    exact this
  | cons h _ ih => exact h.endsAtError.append (ih.map _)

theorem EnterCalls.endsAtError {r r' : Reader} {id : String} {es : List Entry}
    {out : Except StoryError NodeView} (hc : EnterCalls story r id es out r') :
    EndsAtError es out := by
  cases hc with
  | missing hn => trivial
  | reachedFails hn e => exact ⟨rfl, rfl⟩
  | textFails hn e => exact ⟨rfl, rfl⟩
  | optionFails hn text hs =>
    exact hs.endsAtError.map fun options => ({ node := id, text, options } : NodeView)
  | @shows n hn text es options hs =>
    exact hs.endsAtError.map fun options => ({ node := id, text, options } : NodeView)

theorem MoveCalls.endsAtError {r r' : Reader} {m : Move} {es : List Entry}
    {out : Except StoryError NodeView} (hc : MoveCalls story r m es out r') :
    EndsAtError es out := by
  cases hc with
  | notStarted hv => trivial
  | notVisible hv hk => trivial
  | initialFails e => exact ⟨rfl, rfl⟩
  | transitionFails hv ho e => exact ⟨rfl, rfl⟩
  | enters ha he =>
    cases ha with
    | start id => exact he.endsAtError
    | press hv ho next => exact he.endsAtError

/-- The callbacks that a move runs are those of its node, each once and in order; watching them
changes nothing, and playing them again leads to the same session. The first error ends the move
and is its outcome. -/
theorem each_callback_runs_once_and_in_order {r : Reader} (hr : r.Reachable h story)
    (s : Session μ σ) (m : Move) :
    let out := r.move h story s m
    let es := r.calls h story s m
    r.move h story.watched (s.watch []) m = (out.1, out.2.1, out.2.2.watch es) ∧
      Played h story s es out.2.2 ∧ MoveCalls story r m es out.1 out.2.1 ∧
      ∀ before c e after, es = before ++ ⟨c, .error e⟩ :: after →
        after = [] ∧ out.1 = .error e := by
  obtain ⟨h1, h2, h3⟩ := Reader.calls_keep hr s m
  refine ⟨h1, h2, h3, ?_⟩
  intro before c e after hes
  exact h3.endsAtError.last hes

/-- A node whose text counts the visits, with an option that is in sight but not available, and
one whose availability breaks from the second visit on. -/
def brittle : Story Nat where
  nodes := [{
    id := "1"
    text := fun _ => .readMemory fun visits => .writeMemory (visits + 1) (.done "Hello")
    options := [
      { StoryOption.labeled "Push" with
        visible := some (Producer.constant true), available := Producer.constant false },
      { StoryOption.labeled "Rest" with
        available := fun _ => .readMemory fun visits =>
          if visits < 2 then .done true else .fail .aborted }] }]
  initial := Producer.requireNode "1"

/-- A session where nobody is asked, after some visits. -/
def afterVisits (visits : Nat) : Session Nat Unit := { env := .empty, memory := visits, host := () }

/-- The reader after the first visit. -/
def visitor : Reader where
  current := some "1"
  view := some {
    node := "1", text := "Hello"
    options := [⟨0, "Push", false⟩, ⟨1, "Rest", true⟩] }

theorem visitor_reachable : visitor.Reachable Host.headless brittle :=
  .move (afterVisits 0) .start .new

theorem a_second_visit_breaks_at_its_last_option :
    let es : List Entry :=
      [⟨.initial, .ok "1"⟩, ⟨.reached "1", .ok ()⟩, ⟨.text "1", .ok "Hello"⟩,
        ⟨.visible "1" 0, .ok true⟩, ⟨.available "1" 0, .ok false⟩, ⟨.label "1" 0, .ok "Push"⟩,
        ⟨.available "1" 1, .error .aborted⟩]
    Played Host.headless brittle (afterVisits 1) es (afterVisits 2) ∧
      MoveCalls brittle visitor .start es (.error .aborted) { current := some "1", view := none } ∧
      (visitor.move Host.headless brittle (afterVisits 1) .start).1 = .error .aborted := by
  intro es
  obtain ⟨-, h1, h2, h3⟩ :=
    each_callback_runs_once_and_in_order visitor_reachable (afterVisits 1) .start
  exact ⟨h1, h2, (h3 es.dropLast (.available "1" 1) .aborted [] rfl).2⟩

/-! ## Where a failed move leaves the reader -/

/-- The failures before anything of the node aimed at is rendered: of the view, of the position, of
the callback that aims, of the target, of its hook. -/
inductive FailsOutside (story : Story μ) (r : Reader) : Move → List Entry → StoryError → Prop
  | noView {k : Nat} (hv : r.view = none) : FailsOutside story r (.press k) [] .notStarted
  | outOfRange {k : Nat} {view : NodeView} (hv : r.view = some view)
      (hk : view.options.length ≤ k) :
      FailsOutside story r (.press k) [] (.optionNotVisible k)
  | initial (e : StoryError) : FailsOutside story r .start [⟨.initial, .error e⟩] e
  | transition {k : Nat} {view : NodeView} {o : OptionView} (hv : r.view = some view)
      (ho : view.options[k]? = some o) (e : StoryError) :
      FailsOutside story r (.press k) [⟨.transition view.node o.index, .error e⟩] e
  | noTarget {m : Move} {first : Entry} {id : String} (ha : Aims r m first id)
      (hn : story.node? id = none) : FailsOutside story r m [first] (.nodeNotFound id)
  | reached {m : Move} {first : Entry} {id : String} (ha : Aims r m first id) (e : StoryError) :
      FailsOutside story r m [first, ⟨.reached id, .error e⟩] e

/-- The failures while a node is rendered: of its text, or of a callback of one of its options. -/
inductive FailsInside (r : Reader) : Move → String → List Entry → StoryError → Prop
  | text {m : Move} {first : Entry} {id : String} (ha : Aims r m first id) (e : StoryError) :
      FailsInside r m id [first, ⟨.reached id, .ok ()⟩, ⟨.text id, .error e⟩] e
  | option {m : Move} {first : Entry} {id : String} (ha : Aims r m first id) (text : String)
      (es : List Entry) {c : Call} {i : Nat}
      (hc : c = .visible id i ∨ c = .available id i ∨ c = .label id i) (e : StoryError) :
      FailsInside r m id
        (first :: ⟨.reached id, .ok ()⟩ :: ⟨.text id, .ok text⟩ :: es ++ [⟨c, .error e⟩]) e

/-- The node whose rendering an entry breaks off. -/
def Entry.broken? : Entry → Option String
  | ⟨.text id, .error _⟩ => some id
  | ⟨.visible id _, .error _⟩ => some id
  | ⟨.available id _, .error _⟩ => some id
  | ⟨.label id _, .error _⟩ => some id
  | _ => none

/-- The node whose rendering is broken off by the last of some entries. -/
def broken? (es : List Entry) : Option String := es.getLast?.bind Entry.broken?

theorem broken?_append (es : List Entry) (entry : Entry) :
    broken? (es ++ [entry]) = entry.broken? := by
  simp [broken?]

theorem FailsOutside.broken?_eq {r : Reader} {m : Move} {es : List Entry} {e : StoryError}
    (hf : FailsOutside story r m es e) : broken? es = none := by
  cases hf with
  | noView hv => rfl
  | outOfRange hv hk => rfl
  | initial e => rfl
  | transition hv ho e => rfl
  | noTarget ha hn => cases ha <;> rfl
  | reached ha e => rfl

theorem FailsInside.broken?_eq {r : Reader} {m : Move} {id : String} {es : List Entry}
    {e : StoryError} (hf : FailsInside r m id es e) : broken? es = some id := by
  cases hf with
  | text ha e => rfl
  | option ha text es hc e =>
    rw [broken?_append]
    rcases hc with rfl | rfl | rfl <;> rfl

theorem OptionCalls.last_of_error {o : StoryOption μ} {id : String} {i : Nat} {es : List Entry}
    {e : StoryError} (hc : OptionCalls o id i es (.error e)) :
    ∃ fs c j, es = fs ++ [⟨c, .error e⟩] ∧
      (c = .visible id j ∨ c = .available id j ∨ c = .label id j) := by
  cases hc with
  | visibleFails hx e => exact ⟨[], _, i, rfl, by simp⟩
  | visibleAvailableFails hx e => exact ⟨[_], _, i, rfl, by simp⟩
  | visibleLabelFails hx a e => exact ⟨[_, _], _, i, rfl, by simp⟩
  | availableFails hx e => exact ⟨[], _, i, rfl, by simp⟩
  | availableLabelFails hx e => exact ⟨[_], _, i, rfl, by simp⟩

theorem OptionsCalls.last_of_error {id : String} {i : Nat} {os : List (StoryOption μ)}
    {es : List Entry} {out : Except StoryError (List OptionView)} {e : StoryError}
    (hc : OptionsCalls id i os es out) (hout : out = .error e) :
    ∃ fs c j, es = fs ++ [⟨c, .error e⟩] ∧
      (c = .visible id j ∨ c = .available id j ∨ c = .label id j) := by
  induction hc with
  | nil i => cases hout
  | fails os h =>
    cases hout
    exact h.last_of_error
  | @cons i o os es fs view out h _ ih =>
    rcases out with e' | views
    · cases hout
      obtain ⟨gs, c, j, rfl, hj⟩ := ih rfl
      exact ⟨es ++ gs, c, j, by rw [List.append_assoc], hj⟩
    · cases hout

/-- A failed move is one of the two kinds, and each kind has its own state after it. -/
theorem MoveCalls.of_error {r r' : Reader} {m : Move} {es : List Entry} {e : StoryError}
    (hc : MoveCalls story r m es (.error e) r') :
    (FailsOutside story r m es e ∧ r' = r) ∨
      ∃ id, FailsInside r m id es e ∧ r' = { current := some id, view := none } := by
  cases hc with
  | notStarted hv => exact Or.inl ⟨.noView hv, rfl⟩
  | notVisible hv hk => exact Or.inl ⟨.outOfRange hv hk, rfl⟩
  | initialFails e => exact Or.inl ⟨.initial e, rfl⟩
  | transitionFails hv ho e => exact Or.inl ⟨.transition hv ho e, rfl⟩
  | @enters _ first id es _ _ ha he =>
    cases he with
    | missing hn => exact Or.inl ⟨.noTarget ha hn, rfl⟩
    | reachedFails hn e => exact Or.inl ⟨.reached ha e, rfl⟩
    | textFails hn e => exact Or.inr ⟨id, .text ha e, rfl⟩
    | optionFails hn text hs =>
      obtain ⟨fs, c, j, rfl, hj⟩ := hs.last_of_error rfl
      exact Or.inr ⟨id, .option ha text fs hj e, rfl⟩

/-- A move that fails before the rendering leaves the reader as it was; one that fails in the
rendering leaves it at its new node without a view. There is no third kind. -/
theorem a_failed_move_leaves_one_of_two_states {r : Reader} (hr : r.Reachable h story)
    (s : Session μ σ) (m : Move) {e : StoryError} (he : (r.move h story s m).1 = .error e) :
    let es := r.calls h story s m
    let after := (r.move h story s m).2.1
    (FailsOutside story r m es e → after = r) ∧
      (∀ id, FailsInside r m id es e → after = { current := some id, view := none }) ∧
      (FailsOutside story r m es e ∨ ∃ id, FailsInside r m id es e) := by
  obtain ⟨-, -, hc⟩ := Reader.calls_keep hr s m
  rw [he] at hc
  rcases hc.of_error with ⟨hf, hafter⟩ | ⟨id, hf, hafter⟩
  -- The last call tells the two kinds apart.
  · refine ⟨fun _ => hafter, ?_, Or.inl hf⟩
    intro id hin
    have := hf.broken?_eq.symm.trans hin.broken?_eq
    cases this
  · refine ⟨?_, ?_, Or.inr ⟨id, hf⟩⟩
    · intro hout
      have := hout.broken?_eq.symm.trans hf.broken?_eq
      cases this
    · intro id' hin
      have hid := hf.broken?_eq.symm.trans hin.broken?_eq
      cases hid
      exact hafter

theorem a_broken_option_clears_the_view_and_a_wrong_position_does_not :
    (visitor.move Host.headless brittle (afterVisits 1) .start).2.1 =
        { current := some "1", view := none } ∧
      (visitor.move Host.headless brittle (afterVisits 1) (.press 2)).2.1 = visitor := by
  obtain ⟨-, h1, -⟩ := a_failed_move_leaves_one_of_two_states visitor_reachable (afterVisits 1)
    .start (e := .aborted) rfl
  obtain ⟨h2, -, -⟩ := a_failed_move_leaves_one_of_two_states visitor_reachable (afterVisits 1)
    (.press 2) (e := .optionNotVisible 2) rfl
  refine ⟨h1 "1" ?_, h2 ?_⟩
  · exact .option (.start "1") "Hello" [_, _, _] (Or.inr (Or.inl rfl)) .aborted
  · exact .outOfRange rfl (by decide)

end

end Gamebook
