-- The places that the reading of a source records. Lines are numbered one by one and their bytes
-- are counted on the way, so the bytes of a recorded span are exactly the line that its number
-- counts. Links and warnings are recorded as their lines come, each further down than the one
-- before.
import Gamebook.Proofs.Joined

namespace Gamebook.Source

/-! ## Exact places -/

/-- The bytes of the span are the line of that number: from character to character, up to the line
feed, and nothing trimmed. -/
structure ExactAt (source : String) (number : Nat) (span : Span) : Prop where
  numbered : 1 ≤ number
  ordered : span.start ≤ span.stop
  start : String.Pos.Raw.IsValid source ⟨span.start⟩
  stop : String.Pos.Raw.IsValid source ⟨span.stop⟩
  line : ∃ raw, (source.toList.splitOn '\n')[number - 1]? = some raw ∧
    source.toByteArray.extract span.start span.stop = (String.ofList raw).toByteArray

theorem pieces_eq_splitOn (cs : List Char) : Text.pieces '\n' cs = cs.splitOn '\n' := by
  have hsplit := List.splitOn_intercalate '\n'
    (fun p (hp : p ∈ Text.pieces '\n' cs) => Text.not_mem_of_mem_pieces hp)
    (Text.pieces_ne_nil '\n' cs)
  rw [← join_eq_intercalate, Text.join_pieces] at hsplit
  exact hsplit.symm

theorem byteSize_ofList (cs : List Char) :
    (String.ofList cs).toByteArray.size = Text.byteSize cs := by
  induction cs with
  | nil => rfl
  | cons c cs ih =>
    have hone : (String.ofList [c]).toByteArray.size = c.utf8Size := String.utf8ByteSize_singleton
    have hcons : String.ofList (c :: cs) = String.ofList [c] ++ String.ofList cs := by
      rw [← String.ofList_append]
      rfl
    rw [hcons, String.toByteArray_append, ByteArray.size_append, hone, ih]
    rfl

theorem linesFrom_number (number offset : Nat) (ps : List (List Char)) :
    (linesFrom number offset ps).map Line.number = List.range' number ps.length := by
  induction ps generalizing number offset with
  | nil => rfl
  | cons p ps ih => simp [linesFrom, ih, List.range'_succ]

theorem linesFrom_raw (number offset : Nat) (ps : List (List Char)) :
    (linesFrom number offset ps).map Line.raw = ps := by
  induction ps generalizing number offset with
  | nil => rfl
  | cons p ps ih => simp [linesFrom, ih]

/-- The number of a line says which piece of the source it is. -/
theorem piece_of_number {source : List Char} {l : Line} (hl : l ∈ linesOf source) :
    (source.splitOn '\n')[l.number - 1]? = some l.raw := by
  obtain ⟨k, hk, rfl⟩ := List.getElem_of_mem hl
  have hlen : k < (Text.pieces '\n' source).length := by
    unfold linesOf at hk
    rwa [linesFrom_length] at hk
  have hnumber : ((linesOf source).map Line.number)[k]? = some (k + 1) := by
    unfold linesOf
    rw [linesFrom_number]
    simp [hlen, Nat.add_comm]
  have hraw : ((linesOf source).map Line.raw)[k]? = (Text.pieces '\n' source)[k]? := by
    unfold linesOf
    rw [linesFrom_raw]
  rw [List.getElem?_map, List.getElem?_eq_getElem hk] at hnumber hraw
  rw [← pieces_eq_splitOn, Option.some.inj hnumber, Nat.add_sub_cancel, ← hraw]
  rfl

/-- What stands between two parts of a text is what their bytes leave. -/
theorem extract_between (a b c : String) :
    (a ++ b ++ c).toByteArray.extract a.toByteArray.size
      (a.toByteArray.size + b.toByteArray.size) = b.toByteArray := by
  have hstart := ByteArray.extract_append_size_add (a := a.toByteArray)
    (b := b.toByteArray ++ c.toByteArray) (i := 0) (j := b.toByteArray.size)
  rw [Nat.add_zero, ByteArray.extract_append_eq_left rfl] at hstart
  rw [String.append_assoc, String.toByteArray_append, String.toByteArray_append]
  exact hstart

theorem exact_of_line {source : String} {l : Line} (hl : l ∈ linesOf source.toList) :
    ExactAt source l.number l.span := by
  obtain ⟨before, after, hsource, -, -, -, hnumber, hspan⟩ := linesOf_stands _ l hl
  have htext : source = String.ofList before ++ String.ofList l.raw ++ String.ofList after := by
    rw [← String.ofList_append, ← String.ofList_append, ← hsource, String.ofList_toList]
  have hbefore := byteSize_ofList before
  have hraw := byteSize_ofList l.raw
  rw [hspan]
  refine ⟨by omega, Nat.le_add_right _ _, ?_, ?_, l.raw, piece_of_number hl, ?_⟩
  · rw [String.Pos.Raw.isValid_iff_exists_append]
    refine ⟨String.ofList before, String.ofList l.raw ++ String.ofList after, ?_, ?_⟩
    · rw [← String.append_assoc]
      exact htext
    · rw [← hbefore]
      rfl
  · rw [String.Pos.Raw.isValid_iff_exists_append]
    refine ⟨String.ofList before ++ String.ofList l.raw, String.ofList after, htext, ?_⟩
    rw [← hbefore, ← hraw, ← ByteArray.size_append, ← String.toByteArray_append]
    rfl
  · have hbetween := extract_between (String.ofList before) (String.ofList l.raw)
      (String.ofList after)
    rw [← htext, hbefore, hraw] at hbetween
    exact hbetween

/-- Lines stand one below the other. -/
theorem linesOf_ascending (source : List Char) :
    ((linesOf source).map Line.number).Pairwise (· < ·) := by
  unfold linesOf
  rw [linesFrom_number]
  exact List.pairwise_lt_range' 1

theorem ascending_of_sublist {source : List Char} {ls : List Line}
    (h : ls.Sublist (linesOf source)) : (ls.map Line.number).Pairwise (· < ·) :=
  (linesOf_ascending source).sublist (h.map Line.number)

/-! ## The places of links -/

def Line.place (l : Line) : Nat × Span := (l.number, l.span)

def Link.place (l : Link) : Nat × Span := (l.line, l.span)

/-- The options from the end of the header on. -/
def optionLines (ls : List Line) : List Line := (storyLines ls).filter fun l => IsOption l.text

theorem IsOption.ne_nil {t : List Char} (h : IsOption t) : t ≠ [] := by
  rintro rfl
  cases h.1

theorem IsOption.not_comment {t : List Char} (h : IsOption t) : isComment t = false := by
  unfold isComment
  split
  · have := h.1
    cases this
  · rfl

theorem IsOption.not_marker {t : List Char} (h : IsOption t) : ¬ IsMarker t := by
  intro hm
  have := hm.1.symm.trans h.1
  cases this

theorem optionLines_sublist (ls : List Line) : (optionLines ls).Sublist ls :=
  List.filter_sublist.trans (List.dropWhile_sublist _)

theorem optionLines_cons {l : Line} (h : ¬ EndsHeader l.text) (ls : List Line) :
    optionLines (l :: ls) = optionLines ls := by
  simp [optionLines, storyLines, h]

namespace Progress

variable {u : UnknownKeys} {s t : Progress} {l : Line} {ls : List Line}

/-- A line of an open passage adds a link if it is an option. -/
theorem goOn_places (s : Progress) (p : Passage) (l : Line) :
    (s.goOn p l).links.map Link.place =
      s.links.map Link.place ++ ([l].filter fun l => IsOption l.text).map Line.place := by
  unfold goOn
  by_cases ho : IsOption l.text
  · rw [if_neg (by simp [ho.not_comment]), if_neg ho.not_marker]
    simp [extend, option?_eq, ho, Link.place, Line.place]
  · have hextend : (s.extend p l).links = s.links := by simp [extend, option?_eq, ho]
    split
    · simp [ho]
    · split
      · simp [ho, opened]
      · simp [ho, hextend]

theorem run_places_open (hs : s.current.isSome) (h : run u s ls = .ok t) :
    t.links.map Link.place =
      s.links.map Link.place ++ (ls.filter fun l => IsOption l.text).map Line.place := by
  induction ls generalizing s with
  | nil =>
    cases h
    simp
  | cons l ls ih =>
    obtain ⟨p, hp⟩ := Option.isSome_iff_exists.mp hs
    obtain ⟨r, htook, hrun⟩ := run_cons_ok h
    have hr : r = s.goOn p l := htook.of_open hp
    have hopen : r.current.isSome := by
      rw [hr]
      exact goOn_isSome hp l
    have hfilter : (l :: ls).filter (fun l => decide (IsOption l.text)) =
        [l].filter (fun l => IsOption l.text) ++ ls.filter fun l => IsOption l.text :=
      List.filter_append [l] ls
    rw [ih hopen hrun, hr, goOn_places, hfilter, List.map_append, List.append_assoc]

/-- The links are recorded at the options of the story, in order. -/
theorem run_places (hs : s.current = none) (h : run u s ls = .ok t) :
    t.links.map Link.place = s.links.map Link.place ++ (optionLines ls).map Line.place := by
  -- Until a marker ends the header, after which `run_places_open` has the rest.
  induction ls generalizing s with
  | nil =>
    cases h
    simp [optionLines, storyLines]
  | cons l ls ih =>
    obtain ⟨r, htook, hrun⟩ := run_cons_ok h
    cases htook with
    | comment hcom =>
      have hne : ¬ EndsHeader l.text := fun hend => by
        rw [hend.1.not_comment] at hcom
        cases hcom
      rw [ih hs hrun, optionLines_cons hne]
    | setting _ _ he hk =>
      obtain ⟨hcurrent, hlinks, -⟩ := setting_ok he hk
      rw [ih (hcurrent.trans hs) hrun, hlinks, optionLines_cons fun hend => hend.2 he]
    | marker _ hplain hm hclose =>
      have hend : EndsHeader l.text := ⟨hm, hplain hs⟩
      have hnot : ¬ IsOption l.text := fun ho => ho.not_marker hm
      rw [run_places_open rfl hrun, close_ok hclose]
      simp [optionLines, storyLines, hend, hnot]
    | extend _ hsome =>
      rw [hs] at hsome
      cases hsome
    | dropped _ _ _ hm =>
      rw [ih hs hrun, optionLines_cons fun hend => hm hend.1]

end Progress

section

variable {c : Config} {source : String} {p : Parsed}

/-- The links stand at the options of the source, in order. -/
theorem parse_places (h : parse c source = .ok p) :
    p.links.map Link.place = (optionLines (linesOf source.toList)).map Line.place := by
  obtain ⟨r, s, n, sp, hrun, hclose, -, hlinks⟩ := run_of_parse h
  rw [hlinks, Progress.close_ok hclose]
  exact Progress.run_places rfl hrun

theorem line_of_place (h : parse c source = .ok p) {k : Link} (hk : k ∈ p.links) :
    ∃ l ∈ linesOf source.toList, IsOption l.text ∧ k.line = l.number ∧ k.span = l.span := by
  have hmem : k.place ∈ (optionLines (linesOf source.toList)).map Line.place := by
    rw [← parse_places h]
    exact List.mem_map_of_mem hk
  obtain ⟨l, hl, hplace⟩ := List.mem_map.mp hmem
  obtain ⟨hnumber, hspan⟩ := Prod.mk.inj hplace
  have ho : IsOption l.text := by simpa using (List.mem_filter.mp hl).2
  exact ⟨l, (optionLines_sublist _).mem hl, ho, hnumber.symm, hspan.symm⟩

theorem links_ascending (h : parse c source = .ok p) :
    (p.links.map Link.line).Pairwise (· < ·) := by
  have hlines : p.links.map Link.line = (optionLines (linesOf source.toList)).map Line.number := by
    simpa [Link.place, Line.place, Function.comp_def] using
      congrArg (List.map Prod.fst) (parse_places h)
  rw [hlines]
  exact ascending_of_sublist (optionLines_sublist _)

/-! ## The places of warnings -/

theorem headerLines_sublist (ls : List Line) : (headerLines ls).Sublist ls :=
  List.filter_sublist.trans (List.takeWhile_sublist _)

/-- The warnings of a source: those of its settings, and after them those of its links. -/
theorem parse_diagnostics (h : parse c source = .ok p) :
    p.diagnostics = keyWarnings c.unknownKeys (headerLines (linesOf source.toList)) ++
      if c.warnDangling then p.danglingLinks.map danglingWarning else [] := by
  have hn : ((markerLines (linesOf source.toList)).map Line.id).Nodup := by
    rw [parse_markers h]
    exact (parse_wellFormed h).ids_nodup
  obtain ⟨p', hp', hall⟩ := parse_reads (parse_keysAccepted h) hn
  rw [h] at hp'
  cases hp'
  exact hall

theorem line_of_keyWarning {u : UnknownKeys} {ls : List Line} {d : Diagnostic}
    (h : d ∈ keyWarnings u ls) :
    ∃ l ∈ ls, IsUnknownSetting l.text ∧ d = keyWarning l := by
  unfold keyWarnings at h
  split at h
  · obtain ⟨l, hl, rfl⟩ := List.mem_map.mp h
    obtain ⟨hl, hunknown⟩ := List.mem_filter.mp hl
    exact ⟨l, hl, by simpa using hunknown, rfl⟩
  · cases h

theorem keyWarnings_ascending (u : UnknownKeys) {ls : List Line}
    (h : ls.Sublist (linesOf source.toList)) :
    ((keyWarnings u ls).map Diagnostic.line).Pairwise (· < ·) := by
  unfold keyWarnings
  split
  · rw [List.map_map]
    exact ascending_of_sublist (List.filter_sublist.trans h)
  · exact List.Pairwise.nil

/-- Every warning is of a line, which is not blank. -/
theorem line_of_warning (h : parse c source = .ok p) {d : Diagnostic} (hd : d ∈ p.diagnostics) :
    ∃ l ∈ linesOf source.toList, l.text ≠ [] ∧ d.line = l.number ∧ d.span = l.span := by
  rw [parse_diagnostics h] at hd
  rcases List.mem_append.mp hd with hd | hd
  · obtain ⟨l, hl, hunknown, rfl⟩ := line_of_keyWarning hd
    exact ⟨l, mem_of_mem_headerLines hl, hunknown.ne_nil, rfl, rfl⟩
  · split at hd
    · obtain ⟨k, hk, rfl⟩ := List.mem_map.mp hd
      obtain ⟨l, hl, hoption, hplace⟩ := line_of_place h (List.mem_of_mem_filter hk)
      exact ⟨l, hl, hoption.ne_nil, hplace⟩
    · cases hd

theorem danglingWarnings_ascending (h : parse c source = .ok p) :
    ((p.danglingLinks.map danglingWarning).map Diagnostic.line).Pairwise (· < ·) := by
  rw [List.map_map]
  exact (links_ascending h).sublist (List.filter_sublist.map _)

end

/-! ## The law -/

/-- Every place that is recorded is exact: of each link and each diagnostic of a source that is
read, and of the error of one that is not. The links stand one below the other, and so do the
warnings of settings and, after those, the warnings of links. -/
theorem every_recorded_place_is_exact (c : Config) (source : String) :
    (∀ p, parse c source = .ok p →
      (∀ k ∈ p.links, ExactAt source k.line k.span) ∧
      (∀ d ∈ p.diagnostics, ExactAt source d.line d.span) ∧
      (p.links.map Link.line).Pairwise (· < ·) ∧
      ∃ settings dangling, p.diagnostics = settings ++ dangling ∧
        settings = keyWarnings c.unknownKeys (headerLines (linesOf source.toList)) ∧
        dangling = (if c.warnDangling then p.danglingLinks.map danglingWarning else []) ∧
        (settings.map Diagnostic.line).Pairwise (· < ·) ∧
        (dangling.map Diagnostic.line).Pairwise (· < ·)) ∧
    ∀ e, parse c source = .error e →
      ∃ d, e.diagnostic? = some d ∧ ExactAt source d.line d.span := by
  refine ⟨?_, ?_⟩
  · intro p hp
    refine ⟨?_, ?_, links_ascending hp, _, _, parse_diagnostics hp, rfl, rfl,
      keyWarnings_ascending _ (headerLines_sublist _), ?_⟩
    · intro k hk
      obtain ⟨l, hl, -, hline, hspan⟩ := line_of_place hp hk
      rw [hline, hspan]
      exact exact_of_line hl
    · intro d hd
      obtain ⟨l, hl, -, hline, hspan⟩ := line_of_warning hp hd
      rw [hline, hspan]
      exact exact_of_line hl
    · split
      · exact danglingWarnings_ascending hp
      · exact List.Pairwise.nil
  · intro e he
    obtain ⟨l, hl, d, hd, hline, hspan⟩ := place_of_parse_error he
    refine ⟨d, hd, ?_⟩
    rw [hline, hspan]
    exact exact_of_line hl

/-- Lines that end in a carriage return, one with a character of two bytes and one indented. -/
def taleSource : String :=
  "genre = Märchen\r\n// [0]\r\n[1]\r\nHallo\r\n\x7bGeh\x7d 2\r\n \x7bBleib\x7d 1\n"

def tale : Parsed where
  outline := { passages :=
    [{ id := "1", lines := ["Hallo".toList, []], options := [("Geh", "2"), ("Bleib", "1")] }] }
  links := [⟨"1", "Geh", "2", 5, ⟨38, 46⟩⟩, ⟨"1", "Bleib", "1", 6, ⟨47, 57⟩⟩]
  diagnostics :=
    [{ severity := .warning, span := ⟨0, 17⟩, line := 1
       message := "unknown metadata key \"genre\"", label := some "ignored" },
     { severity := .warning, span := ⟨38, 46⟩, line := 5
       message := "option \"Geh\" leads to undeclared node \"2\""
       label := some "selecting this option will fail" }]

theorem a_tale_with_carriage_returns_has_exact_places :
    (parse { unknownKeys := .warn, warnDangling := true } taleSource = .ok tale ∧
      ExactAt taleSource 1 ⟨0, 17⟩ ∧ ExactAt taleSource 5 ⟨38, 46⟩ ∧
      ExactAt taleSource 6 ⟨47, 57⟩) ∧
      parse { unknownKeys := .reject } taleSource = .error (.unknownKey 1 ⟨0, 17⟩ "genre") ∧
      ∃ d, (ParseError.unknownKey 1 ⟨0, 17⟩ "genre").diagnostic? = some d ∧
        ExactAt taleSource d.line d.span := by
  have hread : parse { unknownKeys := .warn, warnDangling := true } taleSource = .ok tale := by rfl
  have hstop : parse { unknownKeys := .reject } taleSource =
      .error (.unknownKey 1 ⟨0, 17⟩ "genre") := by rfl
  obtain ⟨h1, -⟩ :=
    every_recorded_place_is_exact { unknownKeys := .warn, warnDangling := true } taleSource
  obtain ⟨-, h2⟩ := every_recorded_place_is_exact { unknownKeys := .reject } taleSource
  obtain ⟨hlinks, hwarnings, -⟩ := h1 tale hread
  refine ⟨⟨hread, ?_, ?_, ?_⟩, hstop, h2 _ hstop⟩
  · exact hwarnings tale.diagnostics[0] (by simp [tale])
  · exact hlinks tale.links[0] (by simp [tale])
  · exact hlinks tale.links[1] (by simp [tale])

end Gamebook.Source
