-- The builder: collects the stories of a session. A story is built from scratch or from a source,
-- then refined by a script, and joins the others if no story built before has its id. A call that
-- fails leaves the stories built so far as they are.
import Gamebook.Choices
import Gamebook.Session
import Gamebook.Source.Parser

namespace Gamebook

/-- What refines a new story before it joins the others. -/
abbrev Refinement (μ : Type) := Story μ → Script μ (Story μ)

structure Builder (μ : Type) where
  config : Source.Config := {}
  built : List (Story μ) := []

namespace Builder

variable {μ σ : Type}

/-! ## Stories -/

/-- Adds a story, unless a story built before has its id now. -/
def register (b : Builder μ) (story : Story μ) : Except StoryError (Builder μ) :=
  if b.built.any (·.id = story.id) then .error (.duplicateStory story.id)
  else .ok { b with built := b.built ++ [story] }

def refine (h : Host σ) (b : Builder μ) (story : Story μ) (init : Refinement μ) (s : Session μ σ) :
    Except StoryError (Story μ) × Builder μ × Session μ σ :=
  match (init story).run h s with
  | (.error e, s) => (.error e, b, s)
  | (.ok story, s) =>
    match b.register story with
    | .error e => (.error e, b, s)
    | .ok b => (.ok story, b, s)

def story (h : Host σ) (b : Builder μ) (init : Refinement μ) (s : Session μ σ) :
    Except StoryError (Story μ) × Builder μ × Session μ σ :=
  b.refine h Story.empty init s

def importText (h : Host σ) (b : Builder μ) (source : String) (init : Refinement μ)
    (s : Session μ σ) : Except StoryError (Story μ) × Builder μ × Session μ σ :=
  match Source.parse b.config source with
  | .error e => (.error e.toStoryError, b, s)
  | .ok parsed => b.refine h parsed.outline.story init s

/-- Builds a story from a source that is a resource of the host. -/
def importResource (h : Host σ) (b : Builder μ) (name : String) (init : Refinement μ)
    (s : Session μ σ) : Except StoryError (Story μ) × Builder μ × Session μ σ :=
  match s.serve h (.fetch name) with
  | (.error e, s) => (.error e, b, s)
  | (.ok resource, s) =>
    match Text.Utf8.decode resource.bytes with
    | .error fault => (.error (.host (.io (.notUtf8 fault))), b, s)
    | .ok source => b.importText h source init s

/-- Changes a story that was built, in whatever way. -/
def edit (b : Builder μ) (position : Nat) (f : Story μ → Story μ) : Builder μ :=
  { b with built := b.built.modify position f }

def finish (b : Builder μ) : List (Story μ) := b.built

/-! ## Other calls -/

def forceFail : Script μ Unit :=
  .fail (.invalid "the story was forced to crash by calling force_fail()")

/-- The text that warns of explicit content. -/
def contentWarning (contents : List String) : String :=
  "This story contains explicit content that is not appropriate for people under legal age.\n"
    ++ "By choosing \"Continue\", you confirm that you are of legal age and willing to read this "
    ++ "content."
    ++ (if contents.isEmpty then "" else "\n\nPotentially problematic content includes:")
    ++ String.join (contents.map ("\n- " ++ ·))

/-- The prompt that warns of explicit content. Its first option closes the story. -/
def contentGate (contents : List String) : Choices μ Unit :=
  { text := contentWarning contents
    title := some "NSFW Warning"
    icon := some (.named "do-not-disturb")
    options :=
      [{ label := "Exit", color := some "red", whiteText := true }, { label := "Continue" }]
    actions := [(some 0, Script.ask .close)] }

/-- Has the player confirm that explicit content is accepted. -/
def warnNsfw (contents : List String) : Script μ Unit := do
  let _ ← (contentGate contents).run
  return ()

end Builder

/-! ## Building in one go -/

/-- A sequence of calls on a builder. -/
abbrev BuildPlan (μ σ : Type) :=
  Builder μ → Session μ σ → Except StoryError Unit × Builder μ × Session μ σ

/-- Runs a plan on a new builder and gives the stories it built. -/
def buildStories {μ σ : Type} (plan : BuildPlan μ σ) (s : Session μ σ) :
    Except StoryError (List (Story μ)) × Session μ σ :=
  match plan {} s with
  | (.ok (), b, s) => (.ok b.finish, s)
  | (.error e, _, s) => (.error e, s)

end Gamebook
