-- Walks of a reader through a story that was read from a source. Its callbacks are constant or look
-- one node up, so a move arrives at the passage that its link names, or fails with the name and
-- changes nothing. Without dangling links and with a start that resolves, no walk ever fails.
import Gamebook.Command.Check
import Gamebook.Proofs.Links
import Gamebook.Proofs.Moves

namespace Gamebook.Source

/-! ## The view of a passage -/

/-- A passage as it is shown: its text and all its options, each available. -/
def Passage.view (q : Passage) : NodeView where
  node := q.id
  text := q.body
  options := q.options.mapIdx fun i option => { index := i, label := option.1, available := true }

section

variable {μ σ : Type}

theorem renderOptions_written (scope : Scope μ) (i : Nat) (options : List (String × String)) :
    Node.renderOptions scope i (options.map fun (label, target) => writtenOption label target) =
      .done (options.mapIdx fun j option =>
        { index := i + j, label := option.1, available := true }) := by
  induction options generalizing i with
  | nil => rfl
  | cons option options ih =>
    have hone : (writtenOption option.1 option.2 : StoryOption μ).render scope i =
        .done (some { index := i, label := option.1, available := true }) := rfl
    have hnext : (fun j (option : String × String) =>
        ({ index := i + (j + 1), label := option.1, available := true } : OptionView)) =
          fun j option => { index := i + 1 + j, label := option.1, available := true } := by
      funext j option
      rw [Nat.add_comm j 1, Nat.add_assoc]
    rw [List.map_cons, List.mapIdx_cons, hnext]
    unfold Node.renderOptions
    rw [hone, ih]
    rfl

theorem Passage.render_node (q : Passage) (scope : Scope μ) :
    (q.node : Node μ).render scope = .done q.view := by
  have ho := renderOptions_written scope 0 q.options
  simp only [Nat.zero_add] at ho
  unfold Node.render Passage.node Passage.view
  simp only [ho]
  rfl

theorem Outline.story_node? (o : Outline) (id : String) :
    (o.story : Story μ).node? id = (o.passage? id).map Passage.node := by
  rw [Story.node?_eq_find?]
  unfold Outline.story Outline.passage?
  rw [List.find?_map]
  rfl

theorem Outline.story_contains (o : Outline) (id : String) :
    (o.story : Story μ).contains id = o.declares id := by
  rw [← Story.isSome_node?, Outline.story_node?, Option.isSome_map, Outline.passage?_isSome]

/-! ## Arrivals -/

/-- Arriving at a node: the reader shows its passage, or does not move if there is none. -/
def Outline.arrival (o : Outline) (r : Reader) (s : Session μ σ) (id : String) :
    Except StoryError NodeView × Reader × Session μ σ :=
  match o.passage? id with
  | some q => (.ok q.view, { current := some id, view := some q.view }, s)
  | none => (.error (.nodeNotFound id), r, s)

variable {h : Host σ}

theorem Outline.enter_eq (o : Outline) (r : Reader) (s : Session μ σ) (id : String) :
    r.enter h o.story s id = o.arrival r s id := by
  unfold Reader.enter Story.require Outline.arrival
  rw [Outline.story_node?]
  rcases o.passage? id with _ | q
  · rfl
  · simp only [Option.map_some, Passage.render_node]
    rfl

/-- Whoever looks the node up before entering it comes to the same. -/
theorem Outline.enter_of_requireNode (o : Outline) (r : Reader) (s : Session μ σ) (id : String) :
    (match (Producer.requireNode id (o.story : Story μ).scope).run h s with
      | (.error e, s) => (.error e, r, s)
      | (.ok id, s) => r.enter h o.story s id) = o.arrival r s id := by
  unfold Producer.requireNode
  rw [Story.scope_requireNode, Outline.story_contains, ← Outline.passage?_isSome]
  rcases hq : o.passage? id with _ | q
  · simp [Script.ofExcept, Script.run, Outline.arrival, hq]
  · simp [Script.ofExcept, Script.run, Outline.enter_eq]

theorem Outline.press_eq {o : Outline} {r : Reader} {q : Passage} {k : Nat}
    {option : String × String} (hv : r.view = some q.view) (hq : o.passage? q.id = some q)
    (hk : q.options[k]? = some option) (s : Session μ σ) :
    r.press h o.story s k = o.arrival r s option.2 := by
  have hview : q.view.options[k]? =
      some { index := k, label := option.1, available := true } := by
    simp [Passage.view, hk]
  have hnode : (q.node : Node μ).options[k]? = some (writtenOption option.1 option.2) := by
    simp [Passage.node, hk]
  have hpressed : r.pressed (o.story : Story μ) k =
      .ok (q.id, writtenOption option.1 option.2) := by
    have hid : q.view.node = q.id := rfl
    unfold Reader.pressed Story.require
    simp only [hv, hview, hid, Outline.story_node?, hq, Option.map_some, hnode]
  rw [← Outline.enter_of_requireNode (h := h)]
  unfold Reader.press
  rw [hpressed]
  have hselect : (writtenOption option.1 option.2 : StoryOption μ).select =
      fun scope => (Producer.requireNode option.2 scope).bind fun id => .done (some id) := rfl
  simp only [hselect, Script.run_bind]
  rcases (Producer.requireNode option.2 (o.story : Story μ).scope).run h s with ⟨e | id, s'⟩
  · rfl
  · rfl

/-! ## Walks -/

namespace Parsed

/-- The node that a move leads to from a node: the start, or the target of the link pressed. -/
def next? (p : Parsed) (here : Option String) : Move → Option String
  | .start => some p.outline.start
  | .press k => here.bind fun id => (p.linksFrom id)[k]?.map Link.target

/-- The nodes that moves lead to, one after the other. -/
def walk (p : Parsed) (here : Option String) : List Move → List String
  | [] => []
  | m :: ms =>
    match p.next? here m with
    | none => []
    | some id => id :: p.walk (some id) ms

/-- The initial node resolves, in a session of some kind. -/
def Resolves (p : Parsed) : Prop :=
  ∃ (μ σ : Type) (h : Host σ) (s : Session μ σ) (id : String),
    (((p.outline.story : Story μ).initial (p.outline.story : Story μ).scope).run h s).1 = .ok id

/-- A reader shows the passage of a node, or nothing before the first one. -/
def Shows (p : Parsed) (r : Reader) : Option String → Prop
  | none => r.view = none
  | some id => ∃ q, p.outline.passage? id = some q ∧ r.view = some q.view

/-- A move has arrived at a node: its outcome is the view of the passage there, and the reader
shows it. -/
def Arrived (p : Parsed) (after : Except StoryError NodeView × Reader) (id : String) : Prop :=
  ∃ q, p.outline.passage? id = some q ∧
    after = (.ok q.view, { current := some id, view := some q.view })

variable {p : Parsed} {r : Reader} {here : Option String} {m : Move} {id : String}

theorem Resolves.declares (hp : p.Resolves) : p.outline.declares p.outline.start = true := by
  obtain ⟨μ, σ, h, s, id, hrun⟩ := hp
  by_contra hne
  have hfound : (p.outline.story : Story μ).scope.requireNode p.outline.start =
      .error (.nodeNotFound p.outline.start) := by
    rw [Story.scope_requireNode, Outline.story_contains]
    simp [hne]
  have hinitial : (p.outline.story : Story μ).initial = Producer.requireNode p.outline.start := rfl
  rw [hinitial] at hrun
  simp [Producer.requireNode, hfound, Script.ofExcept, Script.run] at hrun

/-- Without dangling links every move leads to a node that is declared. -/
theorem declares_next (clean : p.danglingLinks = []) (hp : p.Resolves)
    (hm : p.next? here m = some id) : p.outline.declares id = true := by
  cases m with
  | start =>
    cases hm
    exact hp.declares
  | press k =>
    obtain ⟨origin, -, hl⟩ := Option.bind_eq_some_iff.mp hm
    obtain ⟨l, hk, rfl⟩ := Option.map_eq_some_iff.mp hl
    have hmem : l ∈ p.links := List.mem_of_mem_filter (List.mem_of_getElem? hk)
    unfold danglingLinks at clean
    rw [List.filter_eq_nil_iff] at clean
    simpa using clean l hmem

theorem WellFormed.option_of_link (hp : p.WellFormed) {q : Passage}
    (hq : p.outline.passage? id = some q) (k : Nat) :
    q.options[k]? = (p.linksFrom id)[k]?.map fun l => (l.label, l.target) := by
  rw [← hp.linksFrom_eq hq, List.getElem?_map]

/-- A reader offers the moves that lead to somewhere. -/
theorem Shows.offers_iff (hp : p.WellFormed) (hr : p.Shows r here) :
    r.Offers m ↔ ∃ id, p.next? here m = some id := by
  cases m with
  | start => exact ⟨fun _ => ⟨_, rfl⟩, fun _ => trivial⟩
  | press k =>
    unfold Reader.Offers next?
    cases here with
    | none =>
      have hv : r.view = none := hr
      simp [hv]
    | some here =>
      obtain ⟨q, hq, hv⟩ := hr
      have hlen : q.view.options.length = (p.linksFrom here).length := by
        have hmap := congrArg List.length (hp.linksFrom_eq hq)
        rw [List.length_map] at hmap
        simp [Passage.view, hmap]
      simp [hv, hlen, ← Option.isSome_iff_exists]

/-- Where a move leads to, there it arrives. -/
theorem Shows.move_eq (hp : p.WellFormed) (hr : p.Shows r here) (hm : p.next? here m = some id)
    (s : Session μ σ) : r.move h p.outline.story s m = p.outline.arrival r s id := by
  cases m with
  | start =>
    cases hm
    exact p.outline.enter_of_requireNode r s p.outline.start
  | press k =>
    obtain ⟨origin, hhere, hl⟩ := Option.bind_eq_some_iff.mp hm
    obtain ⟨l, hk, rfl⟩ := Option.map_eq_some_iff.mp hl
    subst hhere
    obtain ⟨q, hq, hv⟩ := hr
    obtain rfl := Outline.id_of_passage? hq
    have ho := hp.option_of_link hq k
    rw [hk] at ho
    exact Outline.press_eq hv hq ho s

theorem shows_new (p : Parsed) : p.Shows {} none := rfl

theorem shows_of_passage? {q : Passage} (hq : p.outline.passage? id = some q) :
    p.Shows { current := some id, view := some q.view } (some id) := ⟨q, hq, rfl⟩

theorem shows_arrival (hr : p.Shows r here) (s : Session μ σ) (id : String) :
    ∃ here, p.Shows (p.outline.arrival r s id).2.1 here := by
  unfold Outline.arrival
  rcases hq : p.outline.passage? id with _ | q
  · exact ⟨here, hr⟩
  · exact ⟨some id, shows_of_passage? hq⟩

/-- Whatever a reader went through, it shows a passage of the source or nothing. -/
theorem shows_of_reachable (hp : p.WellFormed)
    (hr : r.Reachable h (p.outline.story : Story μ)) : ∃ here, p.Shows r here := by
  induction hr with
  | new => exact ⟨none, shows_new p⟩
  | @move r s m _ ih =>
    obtain ⟨here, ih⟩ := ih
    by_cases hm : r.Offers m
    · obtain ⟨id, hm⟩ := (ih.offers_iff hp).mp hm
      rw [ih.move_eq hp hm]
      exact shows_arrival ih s id
    · rw [Reader.move_of_not_offers hm]
      exact ⟨here, ih⟩

/-- Each move of a legal run comes to the next node of the walk. -/
theorem trail_of_legal (hp : p.WellFormed) (clean : p.danglingLinks = []) (hs : p.Resolves)
    (hr : p.Shows r here) (s : Session μ σ) (ms : List Move)
    (hl : r.Legal h (p.outline.story : Story μ) s ms) :
    List.Forall₂ p.Arrived (r.trail h (p.outline.story : Story μ) s ms) (p.walk here ms) := by
  -- The reader and the walk stand at the same node before every move.
  induction ms generalizing r here s with
  | nil => exact .nil
  | cons m ms ih =>
    obtain ⟨hm, hl⟩ := hl
    obtain ⟨id, hm⟩ := (hr.offers_iff hp).mp hm
    have hd := declares_next clean hs hm
    rw [← Outline.passage?_isSome, Option.isSome_iff_exists] at hd
    obtain ⟨q, hq⟩ := hd
    have hmove : r.move h (p.outline.story : Story μ) s m =
        (.ok q.view, { current := some id, view := some q.view }, s) := by
      rw [hr.move_eq hp hm]
      unfold Outline.arrival
      rw [hq]
    unfold Reader.trail walk
    simp only [hm, hmove] at hl ⊢
    exact .cons ⟨q, hq, rfl⟩ (ih (shows_of_passage? hq) s hl)

end Parsed

/-- Where no link is dangling and the initial node resolves, every move that is offered goes well,
in any session: the reader follows the links from the start, and shows each passage with all its
options. Pressing an option whose link is dangling fails with its target and changes nothing,
whatever has happened before. -/
theorem a_story_that_checks_clean_never_fails {c : Config} {source : String} {p : Parsed}
    (hp : parse c source = .ok p) (h : Host σ) :
    let story : Story μ := p.outline.story
    (p.danglingLinks = [] → p.Resolves → ∀ (s : Session μ σ) (ms : List Move),
      Reader.Legal h story {} s ms →
        List.Forall₂ p.Arrived (Reader.trail h story {} s ms) (p.walk none ms)) ∧
      ∀ r : Reader, r.Reachable h story →
        ∀ (s : Session μ σ) (k : Nat) (view : NodeView) (l : Link),
          r.view = some view → (p.linksFrom view.node)[k]? = some l → l ∈ p.danglingLinks →
            r.move h story s (.press k) = (.error (.nodeNotFound l.target), r, s) := by
  have hw := parse_wellFormed hp
  refine ⟨?_, ?_⟩
  · intro clean hs s ms hl
    exact Parsed.trail_of_legal hw clean hs (Parsed.shows_new p) s ms hl
  · intro r hr s k view l hv hl hd
    obtain ⟨here, hshows⟩ := Parsed.shows_of_reachable hw hr
    -- The view tells which passage is shown, so the link pressed is one of its own.
    have hm : p.next? (some view.node) (.press k) = some l.target := by
      simp [Parsed.next?, hl]
    have hhere : here = some view.node := by
      cases here with
      | none =>
        have hnone : r.view = none := hshows
        rw [hnone] at hv
        cases hv
      | some id =>
        obtain ⟨q, hq, hv'⟩ := hshows
        rw [hv'] at hv
        cases hv
        rw [← Outline.id_of_passage? hq]
        rfl
    have hmissing : p.outline.passage? l.target = none := by
      rw [← Option.not_isSome_iff_eq_none, Outline.passage?_isSome]
      simpa using (List.mem_filter.mp hd).2
    rw [hhere] at hshows
    rw [hshows.move_eq hw hm]
    unfold Outline.arrival
    rw [hmissing]

end

open Command (emptySession)

def lostSource : String := "[1]\n\x7bGo\x7d 2"

/-- A node that leads to one that is missing. -/
def lost : Parsed where
  outline := { passages := [{ id := "1", options := [("Go", "2")] }] }
  links := [⟨"1", "Go", "2", 2, ⟨4, 10⟩⟩]
  diagnostics := []

theorem a_round_trip_never_fails_and_a_lost_target_is_named :
    (roundTrip.danglingLinks = [] ∧ roundTrip.Resolves ∧
      Reader.Legal Host.headless (roundTrip.outline.story : Story Unit) {} emptySession
        [.start, .press 0, .press 0] ∧
      List.Forall₂ roundTrip.Arrived
        (Reader.trail Host.headless (roundTrip.outline.story : Story Unit) {} emptySession
          [.start, .press 0, .press 0])
        ["1", "2", "1"]) ∧
      ∃ r : Reader, r.Reachable Host.headless (lost.outline.story : Story Unit) ∧
        r.view.map NodeView.node = some "1" ∧
        r.move Host.headless (lost.outline.story : Story Unit) emptySession (.press 0) =
          (.error (.nodeNotFound "2"), r, emptySession) := by
  have hlost : parse {} lostSource = .ok lost := by rfl
  obtain ⟨h1, -⟩ := a_story_that_checks_clean_never_fails (μ := Unit) roundTrip_parse Host.headless
  obtain ⟨-, h2⟩ := a_story_that_checks_clean_never_fails (μ := Unit) hlost Host.headless
  refine ⟨?_, ?_⟩
  · have clean : roundTrip.danglingLinks = [] := by decide
    have hs : roundTrip.Resolves := ⟨Unit, Unit, Host.headless, emptySession, "1", rfl⟩
    have hl : Reader.Legal Host.headless (roundTrip.outline.story : Story Unit) {} emptySession
        [.start, .press 0, .press 0] :=
      ⟨trivial, ⟨_, rfl, by decide⟩, ⟨_, rfl, by decide⟩, trivial⟩
    exact ⟨clean, hs, hl, h1 clean hs emptySession _ hl⟩
  · have hr := Reader.Reachable.move emptySession .start
      (.new : Reader.Reachable Host.headless (lost.outline.story : Story Unit) {})
    refine ⟨_, hr, rfl, ?_⟩
    exact h2 _ hr emptySession 0 _ ⟨"1", "Go", "2", 2, ⟨4, 10⟩⟩ rfl rfl (by decide)

end Gamebook.Source
