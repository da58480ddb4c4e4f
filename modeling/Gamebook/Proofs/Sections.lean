-- The reading of a source by its sections. The header ends at the first marker without an equals
-- sign; from there on each marker opens a section that runs to the next one. The one pass over the
-- lines gives exactly the story and the links of this reading.
import Gamebook.Proofs.SourceTexts
import Mathlib.Data.List.DropRight

namespace Gamebook.Source

/-! ## The reading -/

/-- The first marker without an equals sign ends the header. -/
def EndsHeader (t : List Char) : Prop := IsMarker t ∧ '=' ∉ t

instance : DecidablePred EndsHeader := fun _ => inferInstanceAs (Decidable (_ ∧ _))

def headerOf (ts : List (List Char)) : List (List Char) := ts.takeWhile fun t => ¬ EndsHeader t

def storyTexts (ts : List (List Char)) : List (List Char) := ts.dropWhile fun t => ¬ EndsHeader t

/-- The id of a marker and the texts that follow it. -/
structure Section where
  id : List Char
  texts : List (List Char)

/-- Every marker opens a section, which runs to the next marker. -/
def sectionsOf : List (List Char) → List Section
  | [] => []
  | t :: ts =>
    if IsMarker t then ⟨markerId t, ts.takeWhile fun t => ¬ IsMarker t⟩ :: sectionsOf ts
    else sectionsOf ts

namespace Section

/-- Labels and targets of the option lines, in order. -/
def options (s : Section) : List (List Char × List Char) :=
  (s.texts.filter fun t => IsOption t).map fun t => (optionLabel t, optionTarget t)

/-- The other lines without the empty ones at either end, joined by line feeds. -/
def body (s : Section) : List Char :=
  ['\n'].intercalate
    (((s.texts.filter fun t => ¬ IsOption t).dropWhile List.isEmpty).rdropWhile List.isEmpty)

def node {μ : Type} (s : Section) : Node μ where
  id := String.ofList s.id
  text := Producer.constant (String.ofList s.body)
  options := s.options.map fun (label, target) =>
    writtenOption (String.ofList label) (String.ofList target)

/-- Origin, label and target of each option. -/
def edges (s : Section) : List (String × String × String) :=
  s.options.map fun (label, target) =>
    (String.ofList s.id, String.ofList label, String.ofList target)

end Section

def IsSettingOf (key : String) (t : List Char) : Prop := '=' ∈ t ∧ settingKey t = key.toList

instance (key : String) : DecidablePred (IsSettingOf key) :=
  fun _ => inferInstanceAs (Decidable (_ ∧ _))

/-- The value of the last setting of a key. -/
def lastSetting (key : String) (ts : List (List Char)) (default : String) : String :=
  ((ts.filter fun t => IsSettingOf key t).getLast?.map fun t =>
    String.ofList (settingValue t)).getD default

/-- The story that texts tell. -/
def readStory {μ : Type} (ts : List (List Char)) : Story μ where
  title := lastSetting "title" (headerOf ts) ""
  author := lastSetting "author" (headerOf ts) ""
  id := ""
  nodes := (sectionsOf (storyTexts ts)).map Section.node
  initial := Producer.requireNode (lastSetting "initialNode" (headerOf ts) "1")

def Link.edge (l : Link) : String × String × String := (l.origin, l.label, l.target)

def readEdges (ts : List (List Char)) : List (String × String × String) :=
  (sectionsOf (storyTexts ts)).flatMap Section.edges

/-! ## What the pass has read -/

theorem lastSetting_cons (key : String) (t : List Char) (ts : List (List Char)) (d : String) :
    lastSetting key (t :: ts) d = lastSetting key ts (lastSetting key [t] d) := by
  unfold lastSetting
  by_cases h : IsSettingOf key t
  · simp only [List.filter_cons, h, decide_true, if_true, List.getLast?_cons]
    rcases (ts.filter fun t => decide (IsSettingOf key t)).getLast? with _ | x <;> rfl
  · simp [h]

theorem lastSetting_singleton (key : String) (t : List Char) (d : String) :
    lastSetting key [t] d = if IsSettingOf key t then String.ofList (settingValue t) else d := by
  unfold lastSetting
  split <;> rename_i h <;> simp [h]

theorem headerOf_cons {t : List Char} (h : ¬ EndsHeader t) (ts : List (List Char)) :
    headerOf (t :: ts) = t :: headerOf ts := by
  simp [headerOf, h]

theorem storyTexts_cons {t : List Char} (h : ¬ EndsHeader t) (ts : List (List Char)) :
    storyTexts (t :: ts) = storyTexts ts := by
  simp [storyTexts, h]

/-- The labels and targets of the options among some texts. -/
def pairsOf (ts : List (List Char)) : List (String × String) :=
  (ts.filter fun t => IsOption t).map fun t =>
    (String.ofList (optionLabel t), String.ofList (optionTarget t))

theorem pairsOf_append (ts us : List (List Char)) :
    pairsOf (ts ++ us) = pairsOf ts ++ pairsOf us := by
  simp [pairsOf]

/-- A passage with more texts. -/
def Passage.extendedBy (p : Passage) (ts : List (List Char)) : Passage where
  id := p.id
  lines := p.lines ++ ts.filter fun t => ¬ IsOption t
  options := p.options ++ pairsOf ts

@[simp] theorem Passage.extendedBy_nil (p : Passage) : p.extendedBy [] = p := by
  simp [Passage.extendedBy, pairsOf]

theorem Passage.extendedBy_append (p : Passage) (ts us : List (List Char)) :
    (p.extendedBy ts).extendedBy us = p.extendedBy (ts ++ us) := by
  simp [Passage.extendedBy, pairsOf_append]

def Section.passage (s : Section) : Passage :=
  ({ id := String.ofList s.id } : Passage).extendedBy s.texts

/-- An outline after more texts, where no passage is open. -/
def Outline.extendedBy (o : Outline) (ts : List (List Char)) : Outline where
  title := lastSetting "title" (headerOf ts) o.title
  author := lastSetting "author" (headerOf ts) o.author
  start := lastSetting "initialNode" (headerOf ts) o.start
  passages := o.passages ++ (sectionsOf (storyTexts ts)).map Section.passage

/-- An outline after one more text of the header. -/
def Outline.afterHeaderText (o : Outline) (t : List Char) : Outline :=
  { o with
    title := lastSetting "title" [t] o.title
    author := lastSetting "author" [t] o.author
    start := lastSetting "initialNode" [t] o.start }

theorem Outline.extendedBy_header (o : Outline) {t : List Char} (h : ¬ EndsHeader t)
    (ts : List (List Char)) : o.extendedBy (t :: ts) = (o.afterHeaderText t).extendedBy ts := by
  simp only [Outline.extendedBy, Outline.afterHeaderText, headerOf_cons h, storyTexts_cons h,
    lastSetting_cons _ t (headerOf ts)]

/-- A text that is no setting says nothing in the header. -/
theorem Outline.afterHeaderText_of_not_mem (o : Outline) {t : List Char} (h : '=' ∉ t) :
    o.afterHeaderText t = o := by
  simp [Outline.afterHeaderText, lastSetting_singleton, IsSettingOf, h]

namespace Progress

variable {u : UnknownKeys} {s s' : Progress} {l : Line}

theorem extend_eq (s : Progress) (p : Passage) (l : Line) :
    (s.extend p l).outline = s.outline ∧
      (s.extend p l).current = some (p.extendedBy [l.text]) ∧
      (s.extend p l).links.map Link.edge =
        s.links.map Link.edge ++ (pairsOf [l.text]).map (p.id, ·) := by
  unfold extend
  rw [option?_eq]
  by_cases ho : IsOption l.text
  · simp [Passage.extendedBy, pairsOf, ho, Link.edge]
  · simp [Passage.extendedBy, pairsOf, ho]

theorem setting_ok {t : List Char} (he : '=' ∈ t)
    (h : s.setting u l (settingKey t) (settingValue t) = .ok s') :
    s'.current = s.current ∧ s'.links = s.links ∧ s'.outline = s.outline.afterHeaderText t := by
  simp only [Outline.afterHeaderText, lastSetting_singleton, IsSettingOf, he, true_and]
  unfold setting at h
  split at h
  · rename_i hk
    cases h
    rw [hk]
    exact ⟨rfl, rfl, rfl⟩
  · split at h
    · rename_i hk
      cases h
      rw [hk]
      exact ⟨rfl, rfl, rfl⟩
    · split at h
      · rename_i hk
        cases h
        rw [hk]
        exact ⟨rfl, rfl, rfl⟩
      · rename_i h1 h2 h3
        simp only [if_neg h1, if_neg h2, if_neg h3]
        split at h
        · cases h
          exact ⟨rfl, rfl, rfl⟩
        · cases h
          exact ⟨rfl, rfl, rfl⟩
        · cases h

/-- From an open passage on, the texts up to the next marker go to that passage and the others to
the sections of their own. -/
theorem run_open {p : Passage} {ls : List Line} {r : Progress} {n : Nat} {sp : Span}
    (hs : s.current = some p) (hr : run u s ls = .ok r) (hc : r.close n sp = .ok s') :
    s'.outline = { s.outline with
        passages := s.outline.passages ++
          p.extendedBy ((textsIn ls).takeWhile fun t => ¬ IsMarker t) ::
            (sectionsOf (textsIn ls)).map Section.passage } ∧
      s'.links.map Link.edge = s.links.map Link.edge ++
        (pairsOf ((textsIn ls).takeWhile fun t => ¬ IsMarker t)).map (p.id, ·) ++
          (sectionsOf (textsIn ls)).flatMap Section.edges := by
  -- For every open passage at once: a marker opens another one, and a text makes it longer.
  induction ls generalizing s p with
  | nil =>
    cases hr
    rw [close_ok hc, hs]
    simp [sectionsOf, pairsOf]
  | cons l ls ih =>
    obtain ⟨t, ht, hr⟩ := run_cons_ok hr
    cases ht with
    | comment h =>
      rw [textsIn_comment h]
      exact ih hs hr
    | setting h hnone =>
      rw [hs] at hnone
      cases hnone
    | dropped h hnone =>
      rw [hs] at hnone
      cases hnone
    | marker h _ hm hclose =>
      obtain ⟨h1, h2⟩ := ih rfl hr
      rw [h1, h2, close_ok hclose, hs, textsIn_cons h]
      simp [sectionsOf, hm, Section.passage, Section.edges, Section.options, pairsOf]
    | @extend q h hq hm =>
      rw [hs] at hq
      cases hq
      obtain ⟨e1, e2, e3⟩ := extend_eq s p l
      obtain ⟨h1, h2⟩ := ih e2 hr
      have htake : (l.text :: textsIn ls).takeWhile (fun t => ¬ IsMarker t) =
          [l.text] ++ (textsIn ls).takeWhile fun t => ¬ IsMarker t := by
        simp [hm]
      rw [h1, h2, e1, e3, textsIn_cons h, Passage.extendedBy_append, htake, pairsOf_append]
      simp [sectionsOf, hm, Passage.extendedBy]

/-- Where no passage is open, the header is read first. -/
theorem run_closed {ls : List Line} {r : Progress} {n : Nat} {sp : Span}
    (hs : s.current = none) (hr : run u s ls = .ok r) (hc : r.close n sp = .ok s') :
    s'.outline = s.outline.extendedBy (textsIn ls) ∧
      s'.links.map Link.edge = s.links.map Link.edge ++ readEdges (textsIn ls) := by
  -- Until a marker ends the header, after which `run_open` has the rest.
  induction ls generalizing s with
  | nil =>
    cases hr
    rw [close_ok hc, hs]
    simp [Outline.extendedBy, readEdges, storyTexts, headerOf, sectionsOf, lastSetting]
  | cons l ls ih =>
    obtain ⟨t, ht, hr⟩ := run_cons_ok hr
    cases ht with
    | comment h =>
      rw [textsIn_comment h]
      exact ih hs hr
    | setting h _ he hk =>
      obtain ⟨e1, e2, e3⟩ := setting_ok he hk
      obtain ⟨h1, h2⟩ := ih (e1.trans hs) hr
      have hne : ¬ EndsHeader l.text := fun hend => hend.2 he
      rw [h1, h2, e2, e3, textsIn_cons h, Outline.extendedBy_header _ hne, readEdges, readEdges,
        storyTexts_cons hne]
      exact ⟨rfl, rfl⟩
    | marker h hplain hm hclose =>
      obtain ⟨h1, h2⟩ := run_open rfl hr hc
      have hend : EndsHeader l.text := ⟨hm, hplain hs⟩
      rw [h1, h2, close_ok hclose, hs, textsIn_cons h]
      simp [Outline.extendedBy, readEdges, storyTexts, headerOf, hend, sectionsOf, hm,
        lastSetting, Section.passage, Section.edges, Section.options, pairsOf]
    | extend h hsome =>
      rw [hs] at hsome
      cases hsome
    | dropped h _ he hm =>
      obtain ⟨h1, h2⟩ := ih hs hr
      have hne : ¬ EndsHeader l.text := fun hend => hm hend.1
      rw [h1, h2, textsIn_cons h, Outline.extendedBy_header _ hne,
        Outline.afterHeaderText_of_not_mem _ he, readEdges, readEdges, storyTexts_cons hne]
      exact ⟨rfl, rfl⟩

end Progress

/-! ## The law -/

theorem join_eq_intercalate (ps : List (List Char)) :
    Text.join '\n' ps = ['\n'].intercalate ps := by
  induction ps with
  | nil => rfl
  | cons p ps ih =>
    rcases ps with _ | ⟨q, qs⟩
    · simp [Text.join, List.intercalate]
    · simp only [Text.join, ih]
      simp [List.intercalate]

theorem Section.passage_node {μ : Type} (s : Section) : (s.passage.node : Node μ) = s.node := by
  have hb : s.passage.body = String.ofList s.body := by
    unfold Passage.body
    rw [join_eq_intercalate]
    simp [Section.passage, Passage.extendedBy, Section.body, dropEmptyEnds, List.rdropWhile]
  unfold Passage.node Section.node
  rw [hb]
  simp [Section.passage, Passage.extendedBy, pairsOf, Section.options]

theorem parse_ok {c : Config} {source : String} {p : Parsed} (h : parse c source = .ok p) :
    p.outline = ({} : Outline).extendedBy (textsOf source.toList) ∧
      p.links.map Link.edge = readEdges (textsOf source.toList) := by
  obtain ⟨r, s, n, sp, hr, hc, ho, hl⟩ := run_of_parse h
  rw [ho, hl, ← textsIn_linesOf]
  exact Progress.run_closed rfl hr hc

/-- The story of an outline that was read from texts alone. -/
theorem story_extendedBy {μ : Type} (ts : List (List Char)) :
    ((({} : Outline).extendedBy ts).story : Story μ) = readStory ts := by
  have hnodes : ((sectionsOf (storyTexts ts)).map Section.passage).map Passage.node =
      (sectionsOf (storyTexts ts)).map (Section.node (μ := μ)) := by
    rw [List.map_map]
    exact List.map_congr_left fun s _ => s.passage_node
  unfold Outline.story readStory
  simp only [Outline.extendedBy, List.nil_append]
  rw [hnodes]
  rfl

/-- A source that can be read tells the story of its sections, and has its links. Both depend on
the trimmed lines without the comments alone, whatever the configuration. -/
theorem a_source_is_read_by_its_sections {μ : Type} {c : Config} {source : String} {p : Parsed}
    (h : parse c source = .ok p) :
    (p.outline.story : Story μ) = readStory (textsOf source.toList) ∧
      p.links.map Link.edge = readEdges (textsOf source.toList) ∧
      ∀ (c' : Config) (source' : String) (p' : Parsed), parse c' source' = .ok p' →
        textsOf source'.toList = textsOf source.toList →
          (p'.outline.story : Story μ) = p.outline.story ∧
            p'.links.map Link.edge = p.links.map Link.edge := by
  obtain ⟨h1, h2⟩ := parse_ok h
  refine ⟨by rw [h1, story_extendedBy], h2, ?_⟩
  intro c' source' p' h' hts
  obtain ⟨h3, h4⟩ := parse_ok h'
  rw [h1, h2, h3, h4, hts]
  exact ⟨rfl, rfl⟩

def roundTripSource : String := "title = Demo\n[1]\nHello\n\x7bGo\x7d 2\n\n[2]\nBye\n\x7bBack\x7d 1"

/-- Two nodes that lead to each other. -/
def roundTrip : Parsed where
  outline := { title := "Demo", passages :=
    [{ id := "1", lines := ["Hello".toList, []], options := [("Go", "2")] },
      { id := "2", lines := ["Bye".toList], options := [("Back", "1")] }] }
  links := [⟨"1", "Go", "2", 4, ⟨23, 29⟩⟩, ⟨"2", "Back", "1", 8, ⟨39, 47⟩⟩]
  diagnostics := []

theorem roundTrip_parse : parse {} roundTripSource = .ok roundTrip := by rfl

/-- The same texts among blanks and a comment. -/
def spacedSource : String :=
  " title = Demo\n[1] \n// no\nHello\n\x7bGo\x7d 2\n \n[2]\nBye\n\x7bBack\x7d 1"

/-- Only the places of the links differ. -/
def spacedRoundTrip : Parsed :=
  { roundTrip with links := [⟨"1", "Go", "2", 5, ⟨31, 37⟩⟩, ⟨"2", "Back", "1", 9, ⟨48, 56⟩⟩] }

theorem a_spaced_round_trip_tells_the_same_story :
    parse {} roundTripSource = .ok roundTrip ∧
      (roundTrip.outline.story : Story Unit) = readStory (textsOf roundTripSource.toList) ∧
      roundTrip.links.map Link.edge = readEdges (textsOf roundTripSource.toList) ∧
      parse { unknownKeys := .reject } spacedSource = .ok spacedRoundTrip ∧
      (spacedRoundTrip.outline.story : Story Unit) = roundTrip.outline.story ∧
      spacedRoundTrip.links.map Link.edge = roundTrip.links.map Link.edge := by
  have hp : parse { unknownKeys := .reject } spacedSource = .ok spacedRoundTrip := by rfl
  have ht : textsOf spacedSource.toList = textsOf roundTripSource.toList := by decide
  obtain ⟨h1, h2, h3⟩ := a_source_is_read_by_its_sections (μ := Unit) roundTrip_parse
  obtain ⟨h4, h5⟩ := h3 _ _ _ hp ht
  exact ⟨roundTrip_parse, h1, h2, hp, h4, h5⟩

end Gamebook.Source
