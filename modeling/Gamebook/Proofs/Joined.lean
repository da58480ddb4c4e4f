-- Two sources one behind the other. Where the second begins with a marker, it is read as it is
-- read alone: the first keeps its metadata, its passages and its links, and the second adds its
-- own, whose links stand further down. Only an id that both declare makes the reading fail.
import Gamebook.Proofs.Faults

namespace Gamebook.Source

/-! ## Places further down -/

/-- How many lines and bytes stand before a source. -/
structure Shift where
  lines : Nat
  bytes : Nat

/-- A source and the line feed behind it. -/
def Shift.past (source : List Char) : Shift :=
  ⟨(linesOf source).length, Text.byteSize source + 1⟩

def Span.moved (d : Shift) (s : Span) : Span := ⟨s.start + d.bytes, s.stop + d.bytes⟩

def Line.moved (d : Shift) (l : Line) : Line :=
  { l with number := l.number + d.lines, span := l.span.moved d }

def Link.moved (d : Shift) (l : Link) : Link :=
  { l with line := l.line + d.lines, span := l.span.moved d }

@[simp] theorem Line.moved_text (d : Shift) (l : Line) : (l.moved d).text = l.text := rfl

@[simp] theorem Line.moved_id (d : Shift) (l : Line) : (l.moved d).id = l.id := rfl

theorem Line.id_comp_moved (d : Shift) : Line.id ∘ Line.moved d = Line.id := rfl

theorem linesFrom_length (number offset : Nat) (ps : List (List Char)) :
    (linesFrom number offset ps).length = ps.length := by
  induction ps generalizing number offset with
  | nil => rfl
  | cons p ps ih => simp [linesFrom, ih]

/-- Lines behind others begin where those end, one line feed further on. -/
theorem linesFrom_append (number offset : Nat) {ps : List (List Char)} (hne : ps ≠ [])
    (qs : List (List Char)) :
    linesFrom number offset (ps ++ qs) =
      linesFrom number offset ps ++
        linesFrom (number + ps.length) (offset + Text.byteSize (Text.join '\n' ps) + 1) qs := by
  induction ps generalizing number offset with
  | nil => exact absurd rfl hne
  | cons p ps ih =>
    rcases ps with _ | ⟨q, rest⟩
    · rfl
    have hnumber : number + 1 + (q :: rest).length = number + (p :: q :: rest).length := by
      simp only [List.length_cons]
      omega
    have hoffset : offset + Text.byteSize p + 1 + Text.byteSize (Text.join '\n' (q :: rest)) =
        offset + Text.byteSize (Text.join '\n' (p :: q :: rest)) := by
      have hfeed : ('\n' : Char).utf8Size = 1 := by decide
      have hjoin : Text.join '\n' (p :: q :: rest) = p ++ '\n' :: Text.join '\n' (q :: rest) := rfl
      rw [hjoin, Text.byteSize_append, Text.byteSize, hfeed]
      omega
    rw [List.cons_append, linesFrom, ih _ _ (List.cons_ne_nil _ _), hnumber, hoffset]
    rfl

theorem linesFrom_moved (d : Shift) (number offset : Nat) (ps : List (List Char)) :
    linesFrom (number + d.lines) (offset + d.bytes) ps =
      (linesFrom number offset ps).map (Line.moved d) := by
  induction ps generalizing number offset with
  | nil => rfl
  | cons p ps ih =>
    simp only [linesFrom, List.map_cons, ← ih]
    have hnumber : number + d.lines + 1 = number + 1 + d.lines := by omega
    have hoffset : offset + d.bytes + Text.byteSize p = offset + Text.byteSize p + d.bytes := by
      omega
    have hnext : offset + Text.byteSize p + d.bytes + 1 =
        offset + Text.byteSize p + 1 + d.bytes := by omega
    rw [hnumber, hoffset, hnext]
    rfl

/-- Behind a line feed the lines of a source only move down. -/
theorem linesOf_append (a b : List Char) :
    linesOf (a ++ '\n' :: b) = linesOf a ++ (linesOf b).map (Line.moved (Shift.past a)) := by
  unfold linesOf
  rw [Text.pieces_append_sep, linesFrom_append _ _ (Text.pieces_ne_nil _ _), Text.join_pieces,
    Nat.add_assoc 0, ← linesFrom_moved]
  unfold Shift.past linesOf
  rw [linesFrom_length]

/-! ## The seam -/

section Seam

variable {u : UnknownKeys} {d : Shift} {ls ms : List Line}

/-- The first line ends the header. -/
def BeginsWithMarker (ls : List Line) : Prop := ∃ l rest, ls = l :: rest ∧ EndsHeader l.text

theorem BeginsWithMarker.moved (d : Shift) (h : BeginsWithMarker ms) :
    BeginsWithMarker (ms.map (Line.moved d)) := by
  obtain ⟨l, rest, rfl, hl⟩ := h
  exact ⟨l.moved d, rest.map (Line.moved d), rfl, hl⟩

theorem headerLines_append (h : BeginsWithMarker ms) (ls : List Line) :
    headerLines (ls ++ ms) = headerLines ls := by
  obtain ⟨l, rest, rfl, hl⟩ := h
  unfold headerLines
  rw [List.takeWhile_append]
  split
  · rename_i hall
    have hls := (List.takeWhile_prefix _).eq_of_length hall
    rw [hls]
    simp [hl]
  · rfl

theorem storyLines_append (h : BeginsWithMarker ms) (ls : List Line) :
    storyLines (ls ++ ms) = storyLines ls ++ ms := by
  obtain ⟨l, rest, rfl, hl⟩ := h
  unfold storyLines
  rw [List.dropWhile_append]
  split
  · rename_i hempty
    rw [List.isEmpty_iff.mp hempty]
    simp [hl]
  · rfl

theorem markerLines_append (h : BeginsWithMarker ms) (ls : List Line) :
    markerLines (ls ++ ms) = markerLines ls ++ markerLines ms := by
  have hall : storyLines ms = ms := storyLines_append h []
  unfold markerLines
  rw [storyLines_append h, List.filter_append, hall]

theorem markerLines_moved (d : Shift) (ls : List Line) :
    markerLines (ls.map (Line.moved d)) = (markerLines ls).map (Line.moved d) := by
  unfold markerLines storyLines
  rw [List.dropWhile_map, List.filter_map]
  rfl

end Seam

/-! ## Reading on -/

namespace Progress

variable {u : UnknownKeys} {d : Shift} {base s t r : Progress} {l : Line} {ls : List Line}

/-- A marker completes the passage that is open and opens its own. -/
def opened (s : Progress) (id : String) : Progress :=
  { s with
    outline := { s.outline with passages := s.outline.passages ++ s.current.toList }
    current := some { id } }

/-- What a line makes of an open passage. -/
def goOn (s : Progress) (p : Passage) (l : Line) : Progress :=
  if isComment l.text then s else if IsMarker l.text then s.opened l.id else s.extend p l

/-- What was read of a source, behind another one that has been read. -/
def behind (d : Shift) (base s : Progress) : Progress where
  outline := { base.outline with passages := base.outline.passages ++ s.outline.passages }
  current := s.current
  links := base.links ++ s.links.map (Link.moved d)
  warnings := base.warnings

theorem Took.of_marker (hm : EndsHeader l.text) (h : Took u s l t) : t = s.opened l.id := by
  cases h with
  | comment h =>
    rw [hm.1.not_comment] at h
    cases h
  | setting _ _ he => exact absurd he hm.2
  | marker _ _ _ hc =>
    rw [close_ok hc]
    rfl
  | extend _ _ hne => exact absurd hm.1 hne
  | dropped _ _ _ hne => exact absurd hm.1 hne

theorem Took.of_open {p : Passage} (hs : s.current = some p) (h : Took u s l t) :
    t = s.goOn p l := by
  unfold goOn
  cases h with
  | comment h => rw [if_pos h]
  | setting _ hnone =>
    rw [hs] at hnone
    cases hnone
  | marker hcom _ hm hc =>
    rw [if_neg (by simp [hcom]), if_pos hm, close_ok hc]
    rfl
  | extend hcom hq hm =>
    rw [hs] at hq
    cases hq
    rw [if_neg (by simp [hcom]), if_neg hm]
  | dropped _ hnone =>
    rw [hs] at hnone
    cases hnone

theorem goOn_isSome {p : Passage} (hs : s.current = some p) (l : Line) :
    (s.goOn p l).current.isSome := by
  unfold goOn
  split
  · rw [hs]
    rfl
  · split
    · rfl
    · exact (extend_taken hs l).1

theorem opened_behind (d : Shift) (base s : Progress) (id : String) :
    (behind d base s).opened id = behind d base (s.opened id) := by
  simp [opened, behind]

theorem extend_behind (d : Shift) (base s : Progress) (p : Passage) (l : Line) :
    (behind d base s).extend p (l.moved d) = behind d base (s.extend p l) := by
  unfold extend
  rw [Line.moved_text]
  split
  · simp [behind, Link.moved, Line.moved]
  · rfl

theorem goOn_behind (d : Shift) (base s : Progress) (p : Passage) (l : Line) :
    (behind d base s).goOn p (l.moved d) = behind d base (s.goOn p l) := by
  unfold goOn
  rw [Line.moved_text, Line.moved_id, opened_behind, extend_behind]
  split
  · rfl
  · split
    · rfl
    · rfl

/-- Behind another source the lines are read as they are read alone. -/
theorem run_behind (hs : s.current.isSome) (ht : run u s ls = .ok t)
    (hr : run u (behind d base s) (ls.map (Line.moved d)) = .ok r) : r = behind d base t := by
  induction ls generalizing s with
  | nil =>
    cases ht
    cases hr
    rfl
  | cons l ls ih =>
    obtain ⟨p, hp⟩ := Option.isSome_iff_exists.mp hs
    obtain ⟨t', htook, ht⟩ := run_cons_ok ht
    obtain ⟨r', hrook, hr⟩ := run_cons_ok hr
    have ht' : t' = s.goOn p l := htook.of_open hp
    have hr' : r' = (behind d base s).goOn p (l.moved d) := hrook.of_open hp
    rw [goOn_behind, ← ht'] at hr'
    subst hr'
    refine ih ?_ ht hr
    rw [ht']
    exact goOn_isSome hp l

end Progress

/-! ## Two sources -/

theorem joined_lines (a b : String) :
    linesOf (a ++ "\n" ++ b).toList =
      linesOf a.toList ++ (linesOf b.toList).map (Line.moved (Shift.past a.toList)) := by
  rw [← linesOf_append]
  simp

section Joined

variable {c : Config} {a b : String} {pa pb p : Parsed}

theorem parse_keysAccepted (h : parse c a = .ok pa) :
    KeysAccepted c.unknownKeys (linesOf a.toList) := by
  by_contra hkeys
  obtain ⟨hu, l, hl⟩ := exists_of_not_keysAccepted hkeys
  rw [parse_rejects hu hl] at h
  cases h

theorem parse_markers (h : parse c a = .ok pa) :
    (markerLines (linesOf a.toList)).map Line.id = pa.outline.ids := by
  rw [markerLines_ids, textsIn_linesOf, (parse_ok h).1]

theorem joined_keysAccepted (ha : parse c a = .ok pa)
    (hfirst : BeginsWithMarker (linesOf b.toList)) :
    KeysAccepted c.unknownKeys (linesOf (a ++ "\n" ++ b).toList) := by
  unfold KeysAccepted
  rw [joined_lines, headerLines_append (hfirst.moved _)]
  exact parse_keysAccepted ha

theorem joined_markers (hfirst : BeginsWithMarker (linesOf b.toList)) :
    markerLines (linesOf (a ++ "\n" ++ b).toList) =
      markerLines (linesOf a.toList) ++
        (markerLines (linesOf b.toList)).map (Line.moved (Shift.past a.toList)) := by
  rw [joined_lines, markerLines_append (hfirst.moved _), markerLines_moved]

/-- What is read of the two is what is read of each. -/
theorem joined_ok (ha : parse c a = .ok pa) (hb : parse c b = .ok pb)
    (hfirst : BeginsWithMarker (linesOf b.toList)) (h : parse c (a ++ "\n" ++ b) = .ok p) :
    p.outline = { pa.outline with passages := pa.outline.passages ++ pb.outline.passages } ∧
      p.links = pa.links ++ pb.links.map (Link.moved (Shift.past a.toList)) := by
  obtain ⟨ra, sa, na, spa, hra, hca, hoa, hla⟩ := run_of_parse ha
  obtain ⟨rb, sb, nb, spb, hrb, hcb, hob, hlb⟩ := run_of_parse hb
  obtain ⟨r, s, n, sp, hr, hc, ho, hl⟩ := run_of_parse h
  obtain ⟨m, rest, hlines, hm⟩ := hfirst
  rw [joined_lines, Progress.run_append hra, hlines, List.map_cons] at hr
  rw [hlines] at hrb
  obtain ⟨tb, htookb, hrb⟩ := Progress.run_cons_ok hrb
  obtain ⟨t, htook, hr⟩ := Progress.run_cons_ok hr
  have htb : tb = Progress.opened {} m.id := htookb.of_marker hm
  have ht : t = ra.opened m.id := htook.of_marker (l := m.moved _) hm
  -- The marker closes the last passage of the first source, as its end does.
  have hseam : t = Progress.behind (Shift.past a.toList) sa tb := by
    rw [ht, htb, Progress.close_ok hca]
    simp [Progress.opened, Progress.behind]
  rw [hseam] at hr
  have hopen : tb.current.isSome := by
    rw [htb]
    rfl
  have hbehind := Progress.run_behind hopen hrb hr
  rw [ho, hl, hoa, hla, hob, hlb, Progress.close_ok hc, hbehind, Progress.close_ok hcb]
  simp [Progress.behind]

/-- Without an id in common the two are read. -/
theorem joined_reads (ha : parse c a = .ok pa) (hb : parse c b = .ok pb)
    (hfirst : BeginsWithMarker (linesOf b.toList))
    (hids : ∀ id ∈ pb.outline.ids, id ∉ pa.outline.ids) :
    ∃ p, parse c (a ++ "\n" ++ b) = .ok p := by
  have hn : ((markerLines (linesOf (a ++ "\n" ++ b).toList)).map Line.id).Nodup := by
    rw [joined_markers hfirst, List.map_append, List.map_map, Line.id_comp_moved,
      parse_markers ha, parse_markers hb]
    refine (parse_wellFormed ha).ids_nodup.append (parse_wellFormed hb).ids_nodup ?_
    intro id hida hidb
    exact hids id hidb hida
  obtain ⟨p, hp, -⟩ := parse_reads (joined_keysAccepted ha hfirst) hn
  exact ⟨p, hp⟩

/-- The first marker of the second source whose id the first one declares ends the reading. -/
theorem joined_repeats (ha : parse c a = .ok pa) (hb : parse c b = .ok pb)
    (hfirst : BeginsWithMarker (linesOf b.toList)) {l : Line}
    (hl : (markerLines (linesOf b.toList)).find? (fun l => pa.outline.declares l.id) = some l) :
    parse c (a ++ "\n" ++ b) =
      .error (.story (l.number + (Shift.past a.toList).lines)
        (l.span.moved (Shift.past a.toList)) (.duplicateNode l.id)) := by
  obtain ⟨hid, before, after, hsplit, hbefore⟩ := List.find?_eq_some_iff_append.mp hl
  rw [Outline.declares_iff] at hid
  have hidsb : (before.map Line.id).Nodup := by
    have hn := (parse_wellFormed hb).ids_nodup
    rw [← parse_markers hb, hsplit, List.map_append] at hn
    exact (List.nodup_append.mp hn).1
  have hrepeat : FirstRepeat (markerLines (linesOf (a ++ "\n" ++ b).toList))
      (l.moved (Shift.past a.toList)) := by
    refine ⟨markerLines (linesOf a.toList) ++ before.map (Line.moved (Shift.past a.toList)),
      after.map (Line.moved (Shift.past a.toList)), ?_, ?_, ?_⟩
    · rw [joined_markers hfirst, hsplit]
      simp
    · rw [List.map_append, parse_markers ha]
      exact List.mem_append_left _ hid
    · rw [List.map_append, List.map_map, Line.id_comp_moved, parse_markers ha]
      refine (parse_wellFormed ha).ids_nodup.append hidsb ?_
      intro id hida hidb
      obtain ⟨m, hm, rfl⟩ := List.mem_map.mp hidb
      have hfree := hbefore m hm
      rw [Bool.not_eq_true', ← Bool.not_eq_true, Outline.declares_iff] at hfree
      exact hfree hida
  exact parse_repeats (joined_keysAccepted ha hfirst) hrepeat

end Joined

/-! ## The law -/

theorem head?_pieces (sep : Char) (cs : List Char) :
    (Text.pieces sep cs).head? = some (cs.takeWhile (· ≠ sep)) := by
  induction cs with
  | nil => rfl
  | cons c cs ih =>
    by_cases hc : c = sep
    · simp [Text.pieces, hc]
    · cases hp : Text.pieces sep cs with
      | nil => exact absurd hp (Text.pieces_ne_nil sep cs)
      | cons p ps =>
        rw [hp, List.head?_cons, Option.some.injEq] at ih
        simp [Text.pieces, hc, hp, ih]

theorem beginsWithMarker_of_first {source : List Char}
    (h : EndsHeader (Text.trim (source.takeWhile (· ≠ '\n')))) :
    BeginsWithMarker (linesOf source) := by
  obtain ⟨rest, hpieces⟩ := List.head?_eq_some_iff.mp (head?_pieces '\n' source)
  unfold linesOf
  rw [hpieces]
  exact ⟨_, _, rfl, h⟩

/-- A source that begins with a marker can stand behind any other. The two together fail exactly
where they declare the same id, at the first marker to repeat one, and otherwise give what each of
them gives, with the metadata of the first and the links of the second further down. -/
theorem a_source_goes_on_with_another {μ : Type} {c : Config} {a b : String} {pa pb : Parsed}
    (ha : parse c a = .ok pa) (hb : parse c b = .ok pb)
    (hfirst : EndsHeader (Text.trim (b.toList.takeWhile (· ≠ '\n')))) :
    ((∃ e, parse c (a ++ "\n" ++ b) = .error e) ↔
      ∃ id ∈ pb.outline.ids, id ∈ pa.outline.ids) ∧
    ((∃ id ∈ pb.outline.ids, id ∈ pa.outline.ids) →
      ∃ l, (markerLines (linesOf b.toList)).find? (fun l => pa.outline.declares l.id) = some l ∧
        parse c (a ++ "\n" ++ b) =
          .error (.story (l.number + (linesOf a.toList).length)
            ⟨l.span.start + (Text.byteSize a.toList + 1),
              l.span.stop + (Text.byteSize a.toList + 1)⟩ (.duplicateNode l.id))) ∧
    ((∀ id ∈ pb.outline.ids, id ∉ pa.outline.ids) →
      ∃ p, parse c (a ++ "\n" ++ b) = .ok p ∧
        p.outline = { pa.outline with passages := pa.outline.passages ++ pb.outline.passages } ∧
        (p.outline.story : Story μ) =
          { (pa.outline.story : Story μ) with
            nodes := (pa.outline.story : Story μ).nodes ++ pb.outline.story.nodes } ∧
        p.links = pa.links ++ pb.links.map (fun l =>
          { l with
            line := l.line + (linesOf a.toList).length
            span := ⟨l.span.start + (Text.byteSize a.toList + 1),
              l.span.stop + (Text.byteSize a.toList + 1)⟩ }) ∧
        p.danglingLinks = p.links.filter fun l =>
          !pa.outline.declares l.target && !pb.outline.declares l.target) := by
  have hbegins := beginsWithMarker_of_first hfirst
  have hfails : (∃ id ∈ pb.outline.ids, id ∈ pa.outline.ids) →
      ∃ l, (markerLines (linesOf b.toList)).find? (fun l => pa.outline.declares l.id) = some l := by
    rintro ⟨id, hidb, hida⟩
    rw [← parse_markers hb] at hidb
    obtain ⟨l, hl, rfl⟩ := List.mem_map.mp hidb
    rw [← Option.isSome_iff_exists, List.find?_isSome]
    exact ⟨l, hl, (Outline.declares_iff _ _).mpr hida⟩
  refine ⟨⟨?_, ?_⟩, ?_, ?_⟩
  · rintro ⟨e, he⟩
    by_contra hids
    push Not at hids
    obtain ⟨p, hp⟩ := joined_reads ha hb hbegins hids
    rw [hp] at he
    cases he
  · intro hids
    obtain ⟨l, hl⟩ := hfails hids
    exact ⟨_, joined_repeats ha hb hbegins hl⟩
  · intro hids
    obtain ⟨l, hl⟩ := hfails hids
    exact ⟨l, hl, joined_repeats ha hb hbegins hl⟩
  · intro hids
    obtain ⟨p, hp⟩ := joined_reads ha hb hbegins hids
    obtain ⟨houtline, hlinks⟩ := joined_ok ha hb hbegins hp
    refine ⟨p, hp, houtline, ?_, hlinks, ?_⟩
    · rw [houtline]
      unfold Outline.story
      simp only
      rw [List.map_append]
    · unfold Parsed.danglingLinks
      congr 1
      funext l
      rw [houtline]
      simp [Outline.declares, Outline.ids]

/-- Links back into the round trip and to nowhere. -/
def sequelSource : String := " [3] \nAllé\n\x7bHome\x7d 1\n\x7bLost\x7d 9"

def sequel : Parsed where
  outline := { passages :=
    [{ id := "3", lines := ["Allé".toList], options := [("Home", "1"), ("Lost", "9")] }] }
  links := [⟨"3", "Home", "1", 3, ⟨12, 20⟩⟩, ⟨"3", "Lost", "9", 4, ⟨21, 29⟩⟩]
  diagnostics := []

/-- Declares a node of the round trip again. -/
def remakeSource : String := "[3]\n[2]\n[1]"

def remake : Parsed where
  outline := { passages := [{ id := "3" }, { id := "2" }, { id := "1" }] }
  links := []
  diagnostics := []

theorem a_round_trip_has_a_sequel_and_no_remake :
    parse {} roundTripSource = .ok roundTrip ∧ parse {} sequelSource = .ok sequel ∧
      EndsHeader (Text.trim (sequelSource.toList.takeWhile (· ≠ '\n'))) ∧
      (∃ p, parse {} (roundTripSource ++ "\n" ++ sequelSource) = .ok p ∧
        p.outline.title = "Demo" ∧ p.outline.ids = ["1", "2", "3"] ∧
        p.links = roundTrip.links ++
          [⟨"3", "Home", "1", 11, ⟨60, 68⟩⟩, ⟨"3", "Lost", "9", 12, ⟨69, 77⟩⟩] ∧
        p.danglingLinks = [⟨"3", "Lost", "9", 12, ⟨69, 77⟩⟩]) ∧
      parse {} remakeSource = .ok remake ∧
      EndsHeader (Text.trim (remakeSource.toList.takeWhile (· ≠ '\n'))) ∧
      parse {} (roundTripSource ++ "\n" ++ remakeSource) =
        .error (.story 10 ⟨52, 55⟩ (.duplicateNode "2")) := by
  have hsequel : parse {} sequelSource = .ok sequel := by rfl
  have hremake : parse {} remakeSource = .ok remake := by rfl
  have hfirst : EndsHeader (Text.trim (sequelSource.toList.takeWhile (· ≠ '\n'))) := by decide
  have hfirst' : EndsHeader (Text.trim (remakeSource.toList.takeWhile (· ≠ '\n'))) := by decide
  obtain ⟨-, -, hreads⟩ :=
    a_source_goes_on_with_another (μ := Unit) roundTrip_parse hsequel hfirst
  obtain ⟨-, hfails, -⟩ :=
    a_source_goes_on_with_another (μ := Unit) roundTrip_parse hremake hfirst'
  refine ⟨roundTrip_parse, hsequel, hfirst, ?_, hremake, hfirst', ?_⟩
  · obtain ⟨p, hp, houtline, -, hlinks, hdangling⟩ := hreads (by decide)
    refine ⟨p, hp, ?_, ?_, ?_, ?_⟩
    · rw [houtline]
      rfl
    · rw [houtline]
      rfl
    · rw [hlinks]
      rfl
    · rw [hdangling, hlinks]
      rfl
  · obtain ⟨l, hl, herror⟩ := hfails (by decide)
    have hmarker : (markerLines (linesOf remakeSource.toList)).find?
        (fun l => roundTrip.outline.declares l.id) = some ⟨2, ⟨4, 7⟩, "[2]".toList⟩ := by rfl
    rw [hmarker] at hl
    cases hl
    exact herror

end Gamebook.Source
