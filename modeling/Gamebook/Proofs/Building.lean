-- Building stories call by call. A call fetches, reads, refines and enters one story; the first of
-- these stages to fail is how the call ends, and then the stories built before stand as they were.
-- A call that ends well adds one story behind them. Its id is compared as the refinement left it,
-- with the ids that the others have by then, and never again: what callers do to a story once it
-- is built decides whether the ids that are handed over differ.
import Gamebook.Builder
import Gamebook.Proofs.Encoding
import Gamebook.Proofs.Faults

namespace Gamebook

variable {μ σ : Type}

/-! ## Calls -/

/-- What a story is made of before it is refined. -/
inductive Origin where
  | scratch
  | text (source : String)
  | resource (name : String)

/-- A call that is to build a story. -/
structure BuildCall (μ : Type) where
  origin : Origin
  init : Refinement μ

namespace BuildCall

/-- Makes a call: how it ends, and the builder and the session that it leaves. -/
def run (h : Host σ) (b : Builder μ) (s : Session μ σ) (c : BuildCall μ) :
    Except StoryError (Story μ) × Builder μ × Session μ σ :=
  match c.origin with
  | .scratch => b.story h c.init s
  | .text source => b.importText h source c.init s
  | .resource name => b.importResource h name c.init s

/-! ## Stages -/

/-- A session once the host was asked for a resource. -/
def fetched (s : Session μ σ) (name : String) (host : σ) : Session μ σ :=
  { s.record (.asked (.fetch name)) with host }

/-- The stages before a story is refined: the story that they give, or the first failure. -/
inductive Drafts (h : Host σ) (config : Source.Config) :
    Session μ σ → Origin → Except StoryError (Story μ) → Session μ σ → Prop
  | blank {s : Session μ σ} : Drafts h config s .scratch (.ok Story.empty) s
  | read {s : Session μ σ} {source : String} {p : Source.Parsed}
      (hp : Source.parse config source = .ok p) :
      Drafts h config s (.text source) (.ok p.outline.story) s
  /-- A fault that is an error of stories is that error. -/
  | faulty {s : Session μ σ} {source : String} {line : Nat} {span : Source.Span} {e : StoryError}
      (hp : Source.parse config source = .error (.story line span e)) :
      Drafts h config s (.text source) (.error e) s
  | unknown {s : Session μ σ} {source : String} {line : Nat} {span : Source.Span} {key : String}
      (hp : Source.parse config source = .error (.unknownKey line span key)) :
      Drafts h config s (.text source)
        (.error (.invalid ("line " ++ toString line ++ ": "
          ++ ("unknown metadata key " ++ StoryError.inQuotes key)))) s
  | incapable {s : Session μ σ} {name : String} (hc : h.supports s.host .resources = false) :
      Drafts h config s (.resource name) (.error (.unsupported .resources)) s
  | unfetched {s : Session μ σ} {name : String} {e : StoryError} {host : σ}
      (hc : h.supports s.host .resources = true) (hf : h.fetch name s.host = (.error e, host)) :
      Drafts h config s (.resource name) (.error e) (fetched s name host)
  | notText {s : Session μ σ} {name : String} {resource : Resource} {host : σ}
      {fault : Text.Utf8.Fault} (hc : h.supports s.host .resources = true)
      (hf : h.fetch name s.host = (.ok resource, host))
      (hb : ∀ text : String, resource.bytes ≠ text.toUTF8.data.toList)
      (hfault : Text.Utf8.decode resource.bytes = .error fault) :
      Drafts h config s (.resource name) (.error (.host (.io (.notUtf8 fault))))
        (fetched s name host)
  /-- The bytes of a text are read as that text. -/
  | text {s s' : Session μ σ} {name : String} {resource : Resource} {host : σ} {text : String}
      {draft : Except StoryError (Story μ)} (hc : h.supports s.host .resources = true)
      (hf : h.fetch name s.host = (.ok resource, host))
      (hb : resource.bytes = text.toUTF8.data.toList)
      (hd : Drafts h config (fetched s name host) (.text text) draft s') :
      Drafts h config s (.resource name) draft s'

/-- The stages before a story is entered. -/
inductive Refines (h : Host σ) (config : Source.Config) (s : Session μ σ) (c : BuildCall μ) :
    Except StoryError (Story μ) → Session μ σ → Prop
  | undrafted {e : StoryError} {s' : Session μ σ} (hd : Drafts h config s c.origin (.error e) s') :
      Refines h config s c (.error e) s'
  | refined {draft : Story μ} {s' s'' : Session μ σ} {result : Except StoryError (Story μ)}
      (hd : Drafts h config s c.origin (.ok draft) s')
      (hi : (c.init draft).run h s' = (result, s'')) :
      Refines h config s c result s''

/-- All stages. Whether an id is taken is asked of the stories as they are now. -/
inductive Builds (h : Host σ) (b : Builder μ) (s : Session μ σ) (c : BuildCall μ) :
    Except StoryError (Story μ) × Builder μ × Session μ σ → Prop
  | failed {e : StoryError} {s' : Session μ σ} (hr : c.Refines h b.config s (.error e) s') :
      Builds h b s c (.error e, b, s')
  | taken {made : Story μ} {s' : Session μ σ} (hr : c.Refines h b.config s (.ok made) s')
      (htaken : ∃ other ∈ b.built, other.id = made.id) :
      Builds h b s c (.error (.duplicateStory made.id), b, s')
  | built {made : Story μ} {s' : Session μ σ} (hr : c.Refines h b.config s (.ok made) s')
      (hnew : ∀ other ∈ b.built, other.id ≠ made.id) :
      Builds h b s c (.ok made, { b with built := b.built ++ [made] }, s')

/-! ## A call goes through its stages -/

section

variable {h : Host σ} {b : Builder μ} {s : Session μ σ} {c : BuildCall μ}

theorem serve_fetch_incapable (name : String) (hc : h.supports s.host .resources = false) :
    s.serve h (.fetch name) = (.error (.unsupported .resources), s) := by
  simp [Session.serve, Host.permits, Request.needs, hc]

theorem serve_fetch (name : String) (hc : h.supports s.host .resources = true) :
    s.serve h (.fetch name) =
      ((h.fetch name s.host).1, fetched s name (h.fetch name s.host).2) := by
  simp [Session.serve, Host.permits, Request.needs, hc, Host.answer, fetched]

/-- A resource that is a text builds what the text builds. -/
theorem importResource_text {name : String} {resource : Resource} {text : String}
    (init : Refinement μ) (hc : h.supports s.host .resources = true)
    (hf : (h.fetch name s.host).1 = .ok resource)
    (hb : resource.bytes = text.toUTF8.data.toList) :
    b.importResource h name init s =
      b.importText h text init (fetched s name (h.fetch name s.host).2) := by
  unfold Builder.importResource
  rw [serve_fetch name hc, hf]
  dsimp only
  rw [Text.Utf8.decode_eq_ok.mpr hb]

theorem drafts_text (h : Host σ) (config : Source.Config) (s : Session μ σ) (source : String) :
    ∃ draft, Drafts h config s (.text source) draft s := by
  rcases hp : Source.parse config source with e | p
  · cases e with
    | io failure => rcases Source.parse_error_cases hp with ⟨l, -, hl⟩ | ⟨l, -, hl⟩ <;> cases hl
    | story line span e => exact ⟨_, .faulty hp⟩
    | unknownKey line span key => exact ⟨_, .unknown hp⟩
  · exact ⟨_, .read hp⟩

/-- The stages give a story, or one of them fails. -/
theorem drafts_some (h : Host σ) (config : Source.Config) (s : Session μ σ) (origin : Origin) :
    ∃ draft s', Drafts h config s origin draft s' := by
  cases origin with
  | scratch => exact ⟨_, _, .blank⟩
  | text source =>
    obtain ⟨draft, hd⟩ := drafts_text h config s source
    exact ⟨draft, s, hd⟩
  | resource name =>
    rcases hc : h.supports s.host .resources with _ | _
    · exact ⟨_, _, .incapable hc⟩
    rcases hf : h.fetch name s.host with ⟨e | resource, host⟩
    · exact ⟨_, _, .unfetched hc hf⟩
    rcases hread : Text.Utf8.decode resource.bytes with fault | text
    · have hb := Text.Utf8.decode_eq_error.mp ⟨fault, hread⟩
      exact ⟨_, _, .notText hc hf hb hread⟩
    · have hb := Text.Utf8.decode_eq_ok.mp hread
      obtain ⟨draft, hd⟩ := drafts_text h config (fetched s name host) text
      exact ⟨draft, _, .text hc hf hb hd⟩

/-- A call that has come as far as a draft, or has failed on the way. -/
def refineDraft (h : Host σ) (b : Builder μ) (c : BuildCall μ) (s : Session μ σ) :
    Except StoryError (Story μ) → Except StoryError (Story μ) × Builder μ × Session μ σ
  | .error e => (.error e, b, s)
  | .ok draft => b.refine h draft c.init s

theorem run_of_drafts {draft : Except StoryError (Story μ)} {s' : Session μ σ}
    (hd : Drafts h b.config s c.origin draft s') : c.run h b s = c.refineDraft h b s' draft := by
  obtain ⟨origin, init⟩ := c
  replace hd : Drafts h b.config s origin draft s' := hd
  induction hd with
  | blank => rfl
  | read hp | faulty hp | unknown hp => simp only [run, Builder.importText, hp]; rfl
  | incapable hc => simp only [run, Builder.importResource, serve_fetch_incapable _ hc]; rfl
  | unfetched hc hf => simp only [run, Builder.importResource, serve_fetch _ hc, hf]; rfl
  | notText hc hf hb hfault =>
    simp only [run, Builder.importResource, serve_fetch _ hc, hf, hfault]
    rfl
  | text hc hf hb _ ih =>
    have htext := importResource_text (b := b) init hc (congrArg Prod.fst hf) hb
    rw [hf] at htext
    exact htext.trans ih

/-- A call that has come as far as a story to be entered, or has failed on the way. -/
def enter (b : Builder μ) (s : Session μ σ) :
    Except StoryError (Story μ) → Except StoryError (Story μ) × Builder μ × Session μ σ
  | .error e => (.error e, b, s)
  | .ok made =>
    match b.register made with
    | .error e => (.error e, b, s)
    | .ok b => (.ok made, b, s)

theorem run_of_refines {result : Except StoryError (Story μ)} {s' : Session μ σ}
    (hr : c.Refines h b.config s result s') : c.run h b s = enter b s' result := by
  cases hr with
  | undrafted hd => exact run_of_drafts hd
  | @refined draft _ _ _ hd hi =>
    rw [run_of_drafts hd, refineDraft, Builder.refine, hi]
    cases result <;> rfl

theorem refines_some (h : Host σ) (config : Source.Config) (s : Session μ σ) (c : BuildCall μ) :
    ∃ result s', c.Refines h config s result s' := by
  obtain ⟨draft, s', hd⟩ := drafts_some h config s c.origin
  cases draft with
  | error e => exact ⟨_, _, .undrafted hd⟩
  | ok draft => exact ⟨_, _, .refined hd rfl⟩

theorem register_taken {made : Story μ} (h : ∃ other ∈ b.built, other.id = made.id) :
    b.register made = .error (.duplicateStory made.id) := by
  simpa [Builder.register] using h

theorem register_new {made : Story μ} (h : ∀ other ∈ b.built, other.id ≠ made.id) :
    b.register made = .ok { b with built := b.built ++ [made] } := by
  simpa [Builder.register] using h

theorem enter_builds {result : Except StoryError (Story μ)} {s' : Session μ σ}
    (hr : c.Refines h b.config s result s') : c.Builds h b s (enter b s' result) := by
  cases result with
  | error e => exact .failed hr
  | ok made =>
    by_cases htaken : ∃ other ∈ b.built, other.id = made.id
    · rw [enter, register_taken htaken]
      exact .taken hr htaken
    · have hnew : ∀ other ∈ b.built, other.id ≠ made.id := by simpa using htaken
      rw [enter, register_new hnew]
      exact .built hr hnew

theorem run_builds (h : Host σ) (b : Builder μ) (s : Session μ σ) (c : BuildCall μ) :
    c.Builds h b s (c.run h b s) := by
  obtain ⟨result, s', hr⟩ := refines_some h b.config s c
  rw [run_of_refines hr]
  exact enter_builds hr

theorem Builds.run_eq {ending : Except StoryError (Story μ) × Builder μ × Session μ σ}
    (hb : c.Builds h b s ending) : c.run h b s = ending := by
  cases hb with
  | failed hr => exact run_of_refines hr
  | taken hr htaken => rw [run_of_refines hr, enter, register_taken htaken]
  | built hr hnew => rw [run_of_refines hr, enter, register_new hnew]

theorem run_eq_iff (ending : Except StoryError (Story μ) × Builder μ × Session μ σ) :
    c.run h b s = ending ↔ c.Builds h b s ending := by
  constructor
  · rintro rfl
    exact run_builds h b s c
  · exact Builds.run_eq

theorem builder_of_error {e : StoryError} (he : (c.run h b s).1 = .error e) :
    (c.run h b s).2.1 = b := by
  have hrun := run_builds h b s c
  generalize c.run h b s = ending at hrun he
  cases hrun with
  | failed | taken => rfl
  | built => cases he

theorem builder_of_ok {made : Story μ} (hok : (c.run h b s).1 = .ok made) :
    (c.run h b s).2.1 = { b with built := b.built ++ [made] } ∧
      ∀ other ∈ b.built, other.id ≠ made.id := by
  have hrun := run_builds h b s c
  generalize c.run h b s = ending at hrun hok
  cases hrun with
  | failed | taken => cases hok
  | built hr hnew => cases hok; exact ⟨rfl, hnew⟩

/-! ## Taken ids -/

/-- The host refuses a resource with an error, or a refinement ends in it. -/
inductive Raises (h : Host σ) (config : Source.Config) (s : Session μ σ) (c : BuildCall μ)
    (e : StoryError) : Prop
  | fetching {name : String} (ho : c.origin = .resource name)
      (hc : h.supports s.host .resources = true) (hf : (h.fetch name s.host).1 = .error e) :
      Raises h config s c e
  | refining {draft : Story μ} {s' : Session μ σ} (hd : Drafts h config s c.origin (.ok draft) s')
      (hi : ((c.init draft).run h s').1 = .error e) : Raises h config s c e

theorem Raises.refines {config : Source.Config} {e : StoryError} (hr : c.Raises h config s e) :
    ∃ s', c.Refines h config s (.error e) s' := by
  cases hr with
  | @fetching name ho hc hf =>
    refine ⟨fetched s name (h.fetch name s.host).2, .undrafted ?_⟩
    rw [ho]
    exact .unfetched hc (Prod.ext hf rfl)
  | refining hd hi => exact ⟨_, .refined hd (Prod.ext hi rfl)⟩

/-- No stage of the builder's own takes an id for taken. -/
theorem Refines.raises {config : Source.Config} {id : String} {s' : Session μ σ}
    (hr : c.Refines h config s (.error (.duplicateStory id)) s') :
    c.Raises h config s (.duplicateStory id) := by
  have hparse : ∀ {source line span}, Source.parse config source ≠
      .error (.story line span (.duplicateStory id)) := by
    intro source line span hp
    rcases Source.parse_error_cases hp with ⟨l, -, hl⟩ | ⟨l, -, hl⟩ <;> cases hl
  cases hr with
  | undrafted hd =>
    generalize ho : c.origin = origin at hd
    cases hd with
    | faulty hp => exact absurd hp hparse
    | unfetched hc hf => exact .fetching ho hc (congrArg Prod.fst hf)
    | text _ _ _ hd =>
      cases hd with
      | faulty hp => exact absurd hp hparse
  | refined hd hi => exact .refining hd (congrArg Prod.fst hi)

theorem run_duplicateStory_iff (id : String) :
    (c.run h b s).1 = .error (.duplicateStory id) ↔
      c.Raises h b.config s (.duplicateStory id) ∨
        ∃ made s', c.Refines h b.config s (.ok made) s' ∧ made.id = id ∧
          ∃ other ∈ b.built, other.id = id := by
  constructor
  · intro hend
    generalize hrun : c.run h b s = ending at hend
    rw [run_eq_iff] at hrun
    cases hrun with
    | failed hr => cases hend; exact Or.inl hr.raises
    | taken hr htaken => cases hend; exact Or.inr ⟨_, _, hr, rfl, htaken⟩
    | built => cases hend
  · rintro (hr | ⟨made, s', hr, rfl, htaken⟩)
    · obtain ⟨s', hr⟩ := hr.refines
      rw [(Builds.failed hr).run_eq]
    · rw [(Builds.taken hr htaken).run_eq]

end

end BuildCall

/-! ## Turns -/

/-- A call in the session that it meets, and what its caller then does to the story that it has
built, until the next call. -/
structure Turn (μ σ : Type) where
  session : Session μ σ
  call : BuildCall μ
  edit : Story μ → Story μ

namespace Turn

/-- The story that a turn leaves behind the others, if its call ends well. -/
def story? (h : Host σ) (b : Builder μ) (t : Turn μ σ) : Option (Story μ) :=
  match (t.call.run h b t.session).1 with
  | .ok made => some (t.edit made)
  | .error _ => none

def run (h : Host σ) (b : Builder μ) (t : Turn μ σ) : Builder μ :=
  let left := (t.call.run h b t.session).2.1
  match (t.call.run h b t.session).1 with
  | .ok _ => left.edit (left.built.length - 1) t.edit
  | .error _ => left

theorem run_eq (h : Host σ) (b : Builder μ) (t : Turn μ σ) :
    t.run h b = { b with built := b.built ++ (t.story? h b).toList } := by
  unfold run story?
  cases hend : (t.call.run h b t.session).1 with
  | error e => simp [BuildCall.builder_of_error hend]
  | ok made => simp [(BuildCall.builder_of_ok hend).1, Builder.edit, List.modify_eq_take_drop]

end Turn

namespace Builder

/-- The builder after some turns. -/
def after (h : Host σ) (b : Builder μ) (turns : List (Turn μ σ)) : Builder μ :=
  turns.foldl (Turn.run h) b

/-- The stories that some turns leave, in order. -/
def added (h : Host σ) (b : Builder μ) : List (Turn μ σ) → List (Story μ)
  | [] => []
  | t :: turns => (t.story? h b).toList ++ added h (t.run h b) turns

theorem after_eq (h : Host σ) (b : Builder μ) (turns : List (Turn μ σ)) :
    b.after h turns = { b with built := b.built ++ b.added h turns } := by
  induction turns generalizing b with
  | nil => simp [after, added]
  | cons t turns ih =>
    have hturns : (t.run h b).after h turns = b.after h (t :: turns) := rfl
    rw [← hturns, ih, added, t.run_eq]
    simp

end Builder

/-- What a call does to a builder, whatever was built before. It goes through its stages in order:
if one of them fails then its error is how the call ends, and the builder stays as it was; otherwise
one story joins the others, which stay. The call fails with a taken id exactly if it comes as far as
comparing ids and a story has that id by then, unless the host or the refinement says so itself. A
resource that is a text builds what the text builds. Over any turns the stories stand in the order
in which they were built, each as its caller left it. -/
theorem a_call_builds_one_story_or_none (h : Host σ) (b : Builder μ) :
    (∀ (s : Session μ σ) (c : BuildCall μ),
      (∀ ending, c.run h b s = ending ↔ c.Builds h b s ending) ∧
      (∀ e, (c.run h b s).1 = .error e → (c.run h b s).2.1 = b) ∧
      (∀ made, (c.run h b s).1 = .ok made →
        (c.run h b s).2.1 = { b with built := b.built ++ [made] }) ∧
      ∀ id, (c.run h b s).1 = .error (.duplicateStory id) ↔
        c.Raises h b.config s (.duplicateStory id) ∨
          ∃ made s', c.Refines h b.config s (.ok made) s' ∧ made.id = id ∧
            ∃ other ∈ b.built, other.id = id) ∧
    (∀ (s : Session μ σ) (name : String) (resource : Resource) (text : String)
        (init : Refinement μ),
      h.supports s.host .resources = true → (h.fetch name s.host).1 = .ok resource →
        resource.bytes = text.toUTF8.data.toList →
          b.importResource h name init s =
            b.importText h text init (BuildCall.fetched s name (h.fetch name s.host).2)) ∧
    ∀ turns, b.after h turns = { b with built := b.built ++ b.added h turns } := by
  refine ⟨fun s c => ⟨BuildCall.run_eq_iff, ?_, ?_, BuildCall.run_duplicateStory_iff⟩, ?_,
    b.after_eq h⟩
  · exact fun e => BuildCall.builder_of_error
  · exact fun made hok => (BuildCall.builder_of_ok hok).1
  · exact fun s name resource text init => BuildCall.importResource_text init

/-- A host that has one resource, a short story. -/
def shelf : Host Unit :=
  { Host.headless with
    supports := fun _ c => c = .resources
    fetch := fun name s =>
      if name = "intro" then (.ok ⟨name, "[1]\nHi.".toUTF8.data.toList⟩, s)
      else (.error (.host (.resourceNotFound name)), s) }

def shelfSession : Session Unit Unit := { env := Environment.empty, memory := (), host := () }

/-- The story of the shelf is built like its text. Once it is built, a story from scratch does not
join it, since neither has been given an id. -/
theorem the_shelf_builds_one_story :
    let keep : Refinement Unit := .done
    let b : Builder Unit := {}
    let fetched := BuildCall.fetched shelfSession "intro" ()
    b.importResource shelf "intro" keep shelfSession =
        b.importText shelf "[1]\nHi." keep fetched ∧
      ((b.importText shelf "[1]\nHi." keep fetched).2.1.built.map (·.nodeIds)) = [["1"]] ∧
      let b' := (b.importText shelf "[1]\nHi." keep fetched).2.1
      (BuildCall.run shelf b' shelfSession ⟨.scratch, keep⟩).2.1 = b' := by
  intro keep b fetched
  refine ⟨?_, by rfl, ?_⟩
  · exact (a_call_builds_one_story_or_none shelf b).2.1 shelfSession "intro"
      ⟨"intro", "[1]\nHi.".toUTF8.data.toList⟩ "[1]\nHi." keep (by decide) rfl rfl
  · intro b'
    exact ((a_call_builds_one_story_or_none shelf b').1 shelfSession ⟨.scratch, keep⟩).2.1
      (.duplicateStory "") rfl

/-! ## The ids of the stories handed over -/

namespace Builder

variable {h : Host σ} {b : Builder μ}

def ids (b : Builder μ) : List String := b.finish.map (·.id)

/-- A turn leaves its story under an id that a story before it has. Its call has compared the ids,
so it is the edit that has given the story this id. -/
def Repeats (h : Host σ) (b : Builder μ) (t : Turn μ σ) : Prop :=
  ∃ story ∈ t.story? h b, story.id ∈ b.ids

theorem after_append_singleton (turns : List (Turn μ σ)) (t : Turn μ σ) :
    b.after h (turns ++ [t]) = t.run h (b.after h turns) := List.foldl_append ..

theorem ids_run (t : Turn μ σ) : (t.run h b).ids = b.ids ++ (t.story? h b).toList.map (·.id) := by
  rw [ids, finish, t.run_eq, List.map_append]
  rfl

/-- A turn keeps the ids apart unless it repeats one. -/
theorem nodup_ids_run (t : Turn μ σ) :
    (t.run h b).ids.Nodup ↔ b.ids.Nodup ∧ ¬ Repeats h b t := by
  rw [ids_run, Repeats]
  cases t.story? h b with
  | none => simp
  | some story =>
    simp only [Option.toList_some, List.map_singleton, Option.mem_some_iff, exists_eq_left']
    rw [← List.concat_eq_append, List.nodup_concat, and_comm]

theorem nodup_ids_after (hb : b.ids.Nodup) (turns : List (Turn μ σ)) :
    (b.after h turns).ids.Nodup ↔
      ∀ before t rest, turns = before ++ t :: rest → ¬ Repeats h (b.after h before) t := by
  induction turns using List.reverseRecOn with
  | nil => simpa [after] using hb
  | append_singleton turns t ih =>
    rw [after_append_singleton, nodup_ids_run, ih]
    constructor
    · rintro ⟨hturns, ht⟩ before u rest hsplit
      rcases List.eq_nil_or_concat rest with rfl | ⟨rest, v, rfl⟩
      · obtain ⟨rfl, hu⟩ := List.append_inj' hsplit rfl
        cases hu
        exact ht
      · rw [List.concat_eq_append, ← List.cons_append, ← List.append_assoc] at hsplit
        exact hturns before u rest (List.append_inj' hsplit rfl).1
    · intro hall
      refine ⟨fun before u rest hsplit => ?_, hall turns t [] rfl⟩
      exact hall before u (rest ++ [t]) (by simp [hsplit])

/-- A caller that leaves the ids alone repeats none. -/
theorem not_repeats {t : Turn μ σ} (hedit : ∀ story, (t.edit story).id = story.id) :
    ¬ Repeats h b t := by
  rintro ⟨story, hstory, hid⟩
  unfold Turn.story? at hstory
  split at hstory
  · next made hmade =>
    cases hstory
    rw [hedit] at hid
    obtain ⟨other, hother, hsame⟩ := List.mem_map.mp hid
    exact (BuildCall.builder_of_ok hmade).2 other hother hsame
  · cases hstory

end Builder

/-- The stories that are handed over have ids that differ exactly if no caller, once its story was
built, gave it an id that an earlier story had; so they do if callers leave ids alone. Nothing
compares the ids again when the stories are handed over, be it by a builder or in one go. -/
theorem built_ids_differ_unless_an_edit_repeats_one (h : Host σ) (config : Source.Config)
    (turns : List (Turn μ σ)) :
    let b : Builder μ := { config }
    ((b.after h turns).ids.Nodup ↔
      ∀ before t rest, turns = before ++ t :: rest → ¬ Builder.Repeats h (b.after h before) t) ∧
    ((∀ t ∈ turns, ∀ story, (t.edit story).id = story.id) → (b.after h turns).ids.Nodup) ∧
    ∀ s : Session μ σ, buildStories (fun b s => (.ok (), b.after h turns, s)) s =
      (.ok (({} : Builder μ).after h turns).finish, s) := by
  intro b
  have hturns := b.nodup_ids_after (h := h) List.nodup_nil turns
  refine ⟨hturns, fun hedits => ?_, fun s => rfl⟩
  rw [hturns]
  rintro before t rest rfl
  exact Builder.not_repeats (hedits t (by simp))

/-- A story is built under an id, in the session of the shelf. -/
def shelfTurn (id : String) (edit : Story Unit → Story Unit) : Turn Unit Unit where
  session := shelfSession
  call := { origin := .scratch, init := fun story => .done { story with id } }
  edit := edit

/-- Two stories under two ids keep them. -/
theorem two_stories_keep_their_ids :
    let turns := [shelfTurn "a" fun story => story, shelfTurn "b" fun story => story]
    (({} : Builder Unit).after shelf turns).ids = ["a", "b"] ∧
      (({} : Builder Unit).after shelf turns).ids.Nodup := by
  intro turns
  refine ⟨by rfl, ?_⟩
  have hkept := (built_ids_differ_unless_an_edit_repeats_one shelf {} turns).2.1
  exact hkept (by simp [turns, shelfTurn])

/-- Two stories are built under two ids, and then the second is given the id of the first. -/
theorem not_all_built_ids_differ :
    ¬ ∀ (config : Source.Config) (turns : List (Turn Unit Unit)),
      (({ config } : Builder Unit).after shelf turns).ids.Nodup := by
  intro hall
  let turns :=
    [shelfTurn "a" fun story => story, shelfTurn "b" fun story => { story with id := "a" }]
  have hids : (({} : Builder Unit).after shelf turns).ids = ["a", "a"] := by rfl
  have hnodup := hall {} turns
  rw [hids] at hnodup
  exact absurd hnodup (by decide)

end Gamebook
