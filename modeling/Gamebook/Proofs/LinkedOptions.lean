-- The links of a source beside the options of its nodes. Each link is an option of the node it
-- comes from, and the other way round, both in the same order: so what can be told from the links
-- alone, such as which options lead nowhere, is true of the options.
import Gamebook.Proofs.Positions
import Gamebook.Proofs.Walks
import Mathlib.Algebra.GroupWithZero.Nat
import Mathlib.Data.List.Forall2

namespace Gamebook

variable {μ α : Type}

/-- In every session the script ends like this, and changes nothing. -/
def Script.Always (t : Script μ α) (outcome : Except StoryError α) : Prop :=
  ∀ (σ : Type) (h : Host σ) (s : Session μ σ), t.run h s = (outcome, s)

theorem Script.always_ofExcept (outcome : Except StoryError α) :
    (ofExcept outcome : Script μ α).Always outcome := fun _ h s => run_ofExcept h outcome s

/-- The options of the nodes, one node after the other. -/
def Story.allOptions (story : Story μ) : List (StoryOption μ) :=
  story.nodes.flatMap fun n => n.options

namespace Source

/-! ## One link and one option -/

/-- The option has the label of the link and leads to its target, if the story has that node. It
can always be seen and selected, whatever the scope of the story. -/
structure Follows (story : Story μ) (k : Link) (o : StoryOption μ) : Prop where
  label : ∀ depth, (o.label (story.scopeAt depth)).Always (.ok k.label)
  available : ∀ depth, (o.available (story.scopeAt depth)).Always (.ok true)
  visible : ∀ depth, (o.isVisible (story.scopeAt depth)).Always (.ok true)
  select : ∀ depth, (o.select (story.scopeAt depth)).Always
    (if story.contains k.target then .ok (some k.target) else .error (.nodeNotFound k.target))

/-- The option that a link is written as. -/
def Link.option (k : Link) : StoryOption μ := writtenOption k.label k.target

theorem Outline.follows (o : Outline) (k : Link) : Follows (o.story : Story μ) k k.option where
  label _ := Script.always_ofExcept (.ok k.label)
  available _ := Script.always_ofExcept (.ok true)
  visible _ := Script.always_ofExcept (.ok true)
  select depth := by
    have hselect : (k.option : StoryOption μ).select (o.story.scopeAt depth) =
        (Script.ofExcept ((o.story.scopeAt depth).requireNode k.target)).bind fun id =>
          .done (some id) := rfl
    rw [hselect, Story.scopeAt_requireNode]
    split
    · exact Script.always_ofExcept (.ok (some k.target))
    · exact Script.always_ofExcept (.error (.nodeNotFound k.target))

theorem Outline.select_isOk (o : Outline) (k : Link) {σ : Type} (h : Host σ) (s : Session μ σ) :
    (((k.option : StoryOption μ).select o.story.scope).run h s).1.isOk = o.declares k.target := by
  have hrun := (o.follows k).select Story.nestingLimit σ h s
  have hscope : (o.story : Story μ).scopeAt Story.nestingLimit = o.story.scope := rfl
  rw [hscope] at hrun
  rw [hrun, ← Outline.story_contains (μ := μ)]
  split
  · rename_i hfound
    exact hfound.symm
  · rename_i hmissing
    exact (Bool.eq_false_iff.mpr hmissing).symm

/-! ## All links and all options -/

theorem Passage.node_options (q : Passage) :
    (q.node : Node μ).options = q.edges.map fun e => writtenOption e.2.1 e.2.2 := by
  simp [Passage.node, Passage.edges, Function.comp_def]

namespace Parsed.WellFormed

variable {p : Parsed}

/-- The links in their order are written as the options in theirs. -/
theorem allOptions_eq (hp : p.WellFormed) :
    (p.outline.story : Story μ).allOptions = p.links.map Link.option := by
  have hnodes : (p.outline.story : Story μ).allOptions =
      (p.outline.passages.flatMap Passage.edges).map fun e => writtenOption e.2.1 e.2.2 := by
    simp [Story.allOptions, Outline.story, List.flatMap_map, List.map_flatMap,
      Passage.node_options]
  rw [hnodes, ← hp.edges, List.map_map]
  rfl

theorem options_eq (hp : p.WellFormed) {n : Node μ} (hn : n ∈ (p.outline.story : Story μ).nodes) :
    n.options = (p.linksFrom n.id).map Link.option := by
  obtain ⟨q, hq, rfl⟩ := List.mem_map.mp hn
  have hpairs : (q.node : Node μ).options =
      q.options.map fun option => writtenOption option.1 option.2 := rfl
  rw [hpairs, ← hp.linksFrom_of_mem hq, List.map_map]
  rfl

theorem origin_declared (hp : p.WellFormed) {k : Link} (hk : k ∈ p.links) :
    p.outline.declares k.origin = true := by
  have hedge : k.edge ∈ p.outline.passages.flatMap Passage.edges := by
    rw [← hp.edges]
    exact List.mem_map_of_mem hk
  obtain ⟨q, hq, he⟩ := List.mem_flatMap.mp hedge
  obtain ⟨option, -, he⟩ := List.mem_map.mp he
  have horigin : q.id = k.origin := congrArg Prod.fst he
  rw [Outline.declares_iff, ← horigin]
  exact List.mem_map_of_mem hq

end Parsed.WellFormed

theorem follows_all (o : Outline) (ks : List Link) :
    List.Forall₂ (Follows (o.story : Story μ)) ks (ks.map Link.option) := by
  rw [List.forall₂_map_right_iff, List.forall₂_same]
  exact fun k _ => o.follows k

/-! ## The law -/

/-- The links and the options of the nodes are the same, in the same order: of the whole source,
and of each node. So there are as many of the ones as of the others, and the dangling links are
those whose option cannot be selected, from the top of the source to the bottom. -/
theorem the_links_are_the_options {c : Config} {source : String} {p : Parsed}
    (hp : parse c source = .ok p) :
    let story : Story μ := p.outline.story
    (∀ k ∈ p.links, story.contains k.origin = true) ∧
    (∀ n ∈ story.nodes, List.Forall₂ (Follows story) (p.linksFrom n.id) n.options) ∧
    List.Forall₂ (Follows story) p.links story.allOptions ∧
    p.links.length = (story.nodes.map fun n => n.options.length).sum ∧
    (p.links.map Link.line).Pairwise (· < ·) ∧
    ∀ (σ : Type) (h : Host σ) (s : Session μ σ),
      p.danglingLinks = ((p.links.zip story.allOptions).filter fun (_, o) =>
        !((o.select story.scope).run h s).1.isOk).map Prod.fst := by
  intro story
  have hw := parse_wellFormed hp
  have hall : story.allOptions = p.links.map Link.option := hw.allOptions_eq
  refine ⟨?_, ?_, ?_, ?_, links_ascending hp, ?_⟩
  · intro k hk
    rw [Outline.story_contains]
    exact hw.origin_declared hk
  · intro n hn
    rw [hw.options_eq hn]
    exact follows_all p.outline _
  · rw [hall]
    exact follows_all p.outline _
  · have hlength := congrArg List.length hall
    rw [List.length_map, Story.allOptions, List.length_flatMap] at hlength
    exact hlength.symm
  · intro σ h s
    have hpairs : p.links.zip story.allOptions = p.links.map fun k => (k, k.option) := by
      rw [hall]
      simpa using List.zip_map' (f := id) (g := Link.option) (l := p.links)
    have hselect : ∀ k : Link, (((k.option : StoryOption μ).select story.scope).run h s).1.isOk =
        p.outline.declares k.target := fun k => p.outline.select_isOk k h s
    rw [hpairs, List.filter_map, List.map_map]
    simp [Parsed.danglingLinks, Function.comp_def, hselect]

open Command (emptySession)

def crossroadsSource : String := "[1]\n\x7bGo\x7d 2\n\x7bLost\x7d 9\n[2]\n\x7bGo\x7d 1"

/-- Two nodes that lead to each other, one of them also to nowhere. -/
def crossroads : Parsed where
  outline := { passages :=
    [{ id := "1", options := [("Go", "2"), ("Lost", "9")] },
     { id := "2", options := [("Go", "1")] }] }
  links := [⟨"1", "Go", "2", 2, ⟨4, 10⟩⟩, ⟨"1", "Lost", "9", 3, ⟨11, 19⟩⟩,
    ⟨"2", "Go", "1", 5, ⟨24, 30⟩⟩]
  diagnostics := []

theorem a_crossroads_loses_one_of_three_options :
    parse {} crossroadsSource = .ok crossroads ∧
      List.Forall₂ (Follows (crossroads.outline.story : Story Unit))
        [⟨"2", "Go", "1", 5, ⟨24, 30⟩⟩] [writtenOption "Go" "1"] ∧
      ((crossroads.links.zip (crossroads.outline.story : Story Unit).allOptions).filter
        fun (_, o) => !((o.select (crossroads.outline.story : Story Unit).scope).run
          Host.headless emptySession).1.isOk).map Prod.fst = [⟨"1", "Lost", "9", 3, ⟨11, 19⟩⟩] := by
  have hread : parse {} crossroadsSource = .ok crossroads := by rfl
  obtain ⟨-, hnodes, -, -, -, hdangling⟩ := the_links_are_the_options (μ := Unit) hread
  refine ⟨hread, ?_, ?_⟩
  · have hback := hnodes (crossroads.outline.passages[1]).node (by simp [Outline.story, crossroads])
    exact hback
  · rw [← hdangling Unit Host.headless emptySession]
    rfl

end Source

end Gamebook
