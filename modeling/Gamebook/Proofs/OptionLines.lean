-- Option lines. Of all the ways in which the pattern of an option line may read a line, the one
-- tried first ends the label at the first closing brace that leaves it not empty and takes all that
-- follows behind the blanks for the target. A line is read as an option exactly where the pattern
-- matches it, with the label and the target of the match, and stays text where it does not.
import Gamebook.Proofs.Patterns
import Gamebook.Proofs.Sections

namespace Gamebook.Source

open Text (Pattern Way)

/-! ## The pattern -/

/-- Blanks and then the end of the text: `\s*$`. -/
def endPattern : Pattern := .seq (.many true .blank) .stop

/-- Blanks and then the target, up to the blanks at the end: `\s*(.+?)\s*$`. -/
def targetPattern : Pattern := .seq (.many true .blank) (.seq .fewest endPattern)

/-- The end of a label and then a target: `\}\s*(.+?)\s*$`. -/
def closePattern : Pattern := .seq (.one (.exactly '}')) targetPattern

/-- A label in braces and then a target: `^\{(.+?)\}\s*(.+?)\s*$`. -/
def optionPattern : Pattern :=
  .seq .start (.seq (.one (.exactly '{')) (.seq .fewest closePattern))

/-- A line that begins with a label in braces: the first closing brace that leaves the label not
empty ends it. -/
structure Braced (t label rest : List Char) : Prop where
  eq : t = '{' :: (label ++ '}' :: rest)
  label_ne : label ≠ []
  first : '}' ∉ label.tail

theorem Braced.unique {t label rest label' rest' : List Char} (h : Braced t label rest)
    (h' : Braced t label' rest') : label = label' ∧ rest = rest' := by
  obtain ⟨c, l, rfl⟩ := List.exists_cons_of_ne_nil h.label_ne
  obtain ⟨c', l', rfl⟩ := List.exists_cons_of_ne_nil h'.label_ne
  have heq := h.eq.symm.trans h'.eq
  simp only [List.cons_append, List.cons.injEq, true_and] at heq
  have hcut : Text.cut '}' (l ++ '}' :: rest) = some (l, rest) :=
    Text.cut_eq_some_iff.mpr ⟨rfl, h.first⟩
  have hcut' : Text.cut '}' (l ++ '}' :: rest) = some (l', rest') :=
    Text.cut_eq_some_iff.mpr ⟨heq.2, h'.first⟩
  obtain ⟨rfl, rfl⟩ := Prod.mk.inj (Option.some.inj (hcut.symm.trans hcut'))
  exact ⟨by rw [heq.1], rfl⟩

/-- A line ends as what stands behind the braces does. -/
theorem Braced.getLast? {t label rest : List Char} (h : Braced t label rest) (hne : rest ≠ []) :
    t.getLast? = rest.getLast? := by
  have hsplit : t = ('{' :: (label ++ ['}'])) ++ rest := by
    rw [h.eq]
    simp
  rw [hsplit, List.getLast?_append_of_ne_nil _ hne]

/-- A line is read as an option by its braces. -/
theorem option?_eq_some_iff {t label target : List Char} :
    option? t = some (label, target) ↔
      ∃ rest, Braced t label rest ∧ target = Text.trimLeft rest ∧ target ≠ [] := by
  constructor
  · intro h
    unfold option? at h
    split at h
    · rename_i c r
      split at h
      · cases h
      · rename_i l rest hcut
        obtain ⟨rfl, hfirst⟩ := Text.cut_eq_some_iff.mp hcut
        split at h
        · cases h
        · rename_i hne
          obtain ⟨rfl, rfl⟩ := Prod.mk.inj (Option.some.inj h)
          exact ⟨rest, ⟨rfl, List.cons_ne_nil _ _, hfirst⟩, rfl, fun hnil => hne hnil⟩
    · cases h
  · rintro ⟨rest, ⟨rfl, hne, hfirst⟩, rfl, htarget⟩
    obtain ⟨c, l, rfl⟩ := List.exists_cons_of_ne_nil hne
    have hcut : Text.cut '}' (l ++ '}' :: rest) = some (l, rest) :=
      Text.cut_eq_some_iff.mpr ⟨rfl, hfirst⟩
    simp only [List.cons_append, option?, hcut]

/-! ## Where the pattern matches -/

theorem blank_of_endPattern {b : Bool} {t : List Char} {w : Way} (h : endPattern.Reads b t w) :
    ∀ c ∈ t, Text.isBlank c = true := by
  obtain ⟨r, u, _, rfl, hr, _, hstop⟩ := h.many_seq
  obtain rfl : u = [] := hstop.1
  rwa [List.append_nil]

theorem ways_endPattern {t : List Char} (hne : t ≠ [])
    (hlast : ∀ c ∈ t.getLast?, Text.isBlank c = false) : endPattern.ways false t = [] := by
  refine List.eq_nil_iff_forall_not_mem.mpr fun w hw => ?_
  have hblank := blank_of_endPattern (Pattern.mem_ways.mp hw)
  have hmem := List.getLast?_eq_some_getLast hne
  have := (hlast _ hmem).symm.trans (hblank _ (List.getLast_mem hne))
  cases this

/-- A target is not empty. -/
theorem ne_nil_of_targetPattern {b : Bool} {t : List Char} {w : Way}
    (h : targetPattern.Reads b t w) : t ≠ [] := by
  obtain ⟨b, u, _, rfl, -, _, htarget⟩ := h.many_seq
  obtain ⟨c, r, _, _, rfl, -⟩ := htarget.fewest_seq
  exact List.append_ne_nil_of_right_ne_nil b (List.cons_ne_nil _ _)

/-- Behind the braces the pattern takes all but the blanks at the front for the target. -/
theorem head?_targetPattern {t : List Char} (hne : t ≠ []) (hline : '\n' ∉ t)
    (hlast : ∀ c ∈ t.getLast?, Text.isBlank c = false) :
    (targetPattern.ways false t).head? =
      some { read := t, rest := [], groups := [Text.trimLeft t] } := by
  obtain ⟨hm, hmlast⟩ := Text.getLast?_trimLeft hne hlast
  obtain ⟨b, ht, hb⟩ := Text.trimLeft_split t
  have hhead := Text.head?_trimLeft t
  generalize Text.trimLeft t = m at hm hmlast ht hhead ⊢
  subst ht
  have hmline : '\n' ∉ m := fun hmem => hline (List.mem_append_right b hmem)
  -- Wherever the target might end before its end, a character that is not blank is still to come.
  have hskip : ∀ r₁ c r₂, m = r₁ ++ c :: r₂ → r₁ ≠ [] →
      endPattern.ways false (c :: r₂ ++ []) = [] := by
    intro r₁ c r₂ hsplit _
    rw [List.append_nil]
    refine ways_endPattern (List.cons_ne_nil _ _) ?_
    rwa [← hmlast, hsplit, List.getLast?_append_of_ne_nil _ (List.cons_ne_nil _ _)] at hlast
  have htarget : ((Pattern.seq .fewest endPattern).ways false m).head? =
      some { read := m, rest := [], groups := [m] } := by
    have hfewest := Pattern.head?_fewest_seq (u := []) (w := .idle []) hm hmline hskip rfl
    simpa [Way.idle] using hfewest
  refine Text.head?_manyWays_greedy hb hhead ?_
  rw [List.head?_map, Bool.false_and, htarget]
  rfl

/-- A line that begins with a label in braces is matched with that label. -/
theorem captures?_of_braced {t label rest : List Char} (h : Braced t label rest) (hne : rest ≠ [])
    (hline : '\n' ∉ t) (hlast : ∀ c ∈ t.getLast?, Text.isBlank c = false) :
    optionPattern.captures? t = some [label, Text.trimLeft rest] := by
  have hrestLast : ∀ c ∈ rest.getLast?, Text.isBlank c = false := h.getLast? hne ▸ hlast
  obtain ⟨rfl, hlabel, hfirst⟩ := h
  have hlabelLine : '\n' ∉ label := by
    intro hmem
    exact hline (by simp [hmem])
  have hrestLine : '\n' ∉ rest := by
    intro hmem
    exact hline (by simp [hmem])
  have hclose : (closePattern.ways false ('}' :: rest)).head? =
      some { read := '}' :: rest, rest := [], groups := [Text.trimLeft rest] } := by
    rw [closePattern, Pattern.ways_one_seq (by decide), List.head?_map,
      head?_targetPattern hne hrestLine hrestLast]
    rfl
  -- Before the brace that ends the label, no character of it is a closing brace.
  have hskip : ∀ r₁ c r₂, label = r₁ ++ c :: r₂ → r₁ ≠ [] →
      closePattern.ways false (c :: r₂ ++ '}' :: rest) = [] := by
    intro r₁ c r₂ hsplit hr₁
    have hc : c ≠ '}' := by
      rintro rfl
      obtain ⟨d, r₁, rfl⟩ := List.exists_cons_of_ne_nil hr₁
      rw [hsplit, List.cons_append, List.tail_cons] at hfirst
      exact hfirst (by simp)
    have hholds : (Text.CharClass.exactly '}').holds c = false := decide_eq_false hc
    exact Pattern.ways_one_seq_of_not hholds _ _ _
  have hlabelled := Pattern.head?_fewest_seq hlabel hlabelLine hskip hclose
  unfold Pattern.captures? optionPattern
  rw [Pattern.first?_start_seq, Pattern.ways_one_seq (by decide), List.head?_map, hlabelled]
  rfl

/-- The first closing brace stands before any other one, so there is as much behind it. -/
theorem exists_first_brace {u : List Char} (hu : u ≠ []) (r : List Char) :
    ∃ l rest, r ++ '}' :: u = l ++ '}' :: rest ∧ '}' ∉ l ∧ rest ≠ [] := by
  by_cases hr : '}' ∈ r
  · obtain ⟨l, r', rfl, hl⟩ := List.eq_append_cons_of_mem hr
    exact ⟨l, r' ++ '}' :: u, by simp, hl, by simp⟩
  · exact ⟨r, u, rfl, hr, hu⟩

/-- A line that the pattern can read in some way has a label in braces and something behind it. -/
theorem braced_of_reads {t : List Char} {w : Way} (h : optionPattern.Reads true t w) :
    ∃ label rest, Braced t label rest ∧ rest ≠ [] := by
  obtain ⟨_, _, ⟨-, rfl⟩, hopen, -⟩ := h
  obtain ⟨c, t₁, _, ht, hc, hlabel⟩ := hopen.one_seq
  obtain ⟨d, r, t₂, _, rfl, hclose⟩ := hlabel.fewest_seq
  obtain ⟨e, u, _, rfl, he, htarget⟩ := hclose.one_seq
  obtain rfl : c = '{' := of_decide_eq_true hc
  obtain rfl : e = '}' := of_decide_eq_true he
  obtain ⟨l, rest, hsplit, hl, hrest⟩ := exists_first_brace (ne_nil_of_targetPattern htarget) r
  refine ⟨d :: l, rest, ⟨?_, List.cons_ne_nil _ _, hl⟩, hrest⟩
  rw [hsplit] at ht
  exact ht

/-- The match of a line, and whether there is one. -/
theorem captures?_eq_some_iff {t : List Char} {groups : List (List Char)} (hline : '\n' ∉ t)
    (hlast : ∀ c ∈ t.getLast?, Text.isBlank c = false) :
    optionPattern.captures? t = some groups ↔
      ∃ label rest, Braced t label rest ∧ rest ≠ [] ∧ groups = [label, Text.trimLeft rest] := by
  constructor
  · intro h
    have hread : ∃ w, optionPattern.Reads true t w := by
      unfold Pattern.captures? optionPattern at h
      rw [Pattern.first?_start_seq] at h
      obtain ⟨w, hw, -⟩ := Option.map_eq_some_iff.mp h
      refine ⟨w, .idle t, w, ⟨rfl, rfl⟩, ?_, rfl⟩
      exact Pattern.mem_ways.mp (List.mem_of_mem_head? hw)
    obtain ⟨w, hw⟩ := hread
    obtain ⟨label, rest, hb, hne⟩ := braced_of_reads hw
    rw [captures?_of_braced hb hne hline hlast] at h
    exact ⟨label, rest, hb, hne, (Option.some.inj h).symm⟩
  · rintro ⟨label, rest, hb, hne, rfl⟩
    exact captures?_of_braced hb hne hline hlast

/-! ## Sections by the matches of their lines -/

/-- Label and target of a line, as the groups of the match have them. -/
def matched? (t : List Char) : Option (List Char × List Char) :=
  match optionPattern.captures? t with
  | some [label, target] => some (label, target)
  | _ => none

/-- The passage of a section: what the pattern matches is an option, and all else is text. -/
def Section.matched (s : Section) : Passage where
  id := String.ofList s.id
  lines := s.texts.filter fun t => (optionPattern.captures? t).isNone
  options := s.texts.filterMap fun t => (matched? t).map fun (label, target) =>
    (String.ofList label, String.ofList target)

/-- A line is read as the pattern matches it. -/
theorem captures?_eq {t : List Char} (hline : '\n' ∉ t)
    (hlast : ∀ c ∈ t.getLast?, Text.isBlank c = false) :
    optionPattern.captures? t = (option? t).map fun (label, target) => [label, target] := by
  rcases ho : option? t with _ | ⟨label, target⟩
  · refine Option.eq_none_iff_forall_ne_some.mpr fun groups hg => ?_
    obtain ⟨label, rest, hb, hne, -⟩ := (captures?_eq_some_iff hline hlast).mp hg
    have htarget := (Text.getLast?_trimLeft hne (hb.getLast? hne ▸ hlast)).1
    have hsome := option?_eq_some_iff.mpr ⟨rest, hb, rfl, htarget⟩
    rw [ho] at hsome
    cases hsome
  · obtain ⟨rest, hb, rfl, hne⟩ := option?_eq_some_iff.mp ho
    have hrest : rest ≠ [] := by
      rintro rfl
      exact hne rfl
    exact captures?_of_braced hb hrest hline hlast

theorem matched?_eq {t : List Char} (hline : '\n' ∉ t)
    (hlast : ∀ c ∈ t.getLast?, Text.isBlank c = false) : matched? t = option? t := by
  unfold matched?
  rw [captures?_eq hline hlast]
  rcases option? t with _ | ⟨label, target⟩ <;> rfl

theorem mem_textsOf {source t : List Char} (h : t ∈ textsOf source) :
    '\n' ∉ t ∧ Text.trim t = t := by
  obtain ⟨p, hp, rfl⟩ := List.mem_map.mp (List.mem_filter.mp h).1
  refine ⟨?_, Text.trim_trim p⟩
  have hsub : (Text.trim p).Sublist p := (Text.trimRight_sublist _).trans (Text.trimLeft_sublist p)
  exact fun hmem => Text.not_mem_of_mem_pieces hp (hsub.subset hmem)

theorem mem_of_mem_section {ts : List (List Char)} {s : Section} (hs : s ∈ sectionsOf ts) :
    ∀ t ∈ s.texts, t ∈ ts := by
  induction ts with
  | nil => cases hs
  | cons u us ih =>
    have hrest : s ∈ sectionsOf us → ∀ t ∈ s.texts, t ∈ u :: us :=
      fun hs t ht => List.mem_cons_of_mem u (ih hs t ht)
    rw [sectionsOf] at hs
    split at hs
    · rcases List.mem_cons.mp hs with rfl | hs
      · intro t ht
        exact List.mem_cons_of_mem u ((List.takeWhile_sublist _).subset ht)
      · exact hrest hs
    · exact hrest hs

theorem pairsOf_eq (ts : List (List Char)) :
    pairsOf ts = ts.filterMap fun t => (option? t).map fun (label, target) =>
      (String.ofList label, String.ofList target) := by
  induction ts with
  | nil => rfl
  | cons t ts ih =>
    have hcons : pairsOf (t :: ts) = pairsOf [t] ++ pairsOf ts := pairsOf_append [t] ts
    rw [hcons, ih, List.filterMap_cons, option?_eq]
    by_cases ho : IsOption t
    · simp [pairsOf, ho]
    · simp [pairsOf, ho]

/-- The passages of a source are its sections as the pattern matches their lines. -/
theorem passage_eq_matched {s : Section}
    (hs : ∀ t ∈ s.texts, '\n' ∉ t ∧ ∀ c ∈ t.getLast?, Text.isBlank c = false) :
    s.passage = s.matched := by
  have hlines : (s.texts.filter fun t => ¬ IsOption t) =
      s.texts.filter fun t => (optionPattern.captures? t).isNone := by
    refine List.filter_congr fun t ht => ?_
    rw [captures?_eq (hs t ht).1 (hs t ht).2, option?_eq]
    by_cases ho : IsOption t
    · simp [ho]
    · simp [ho]
  have hoptions : pairsOf s.texts = s.matched.options := by
    rw [pairsOf_eq]
    refine List.filterMap_congr fun t ht => ?_
    rw [matched?_eq (hs t ht).1 (hs t ht).2]
  unfold Section.passage Passage.extendedBy
  rw [hlines, hoptions]
  rfl

/-! ## The law -/

theorem line_of_section {source : String} {s : Section}
    (hs : s ∈ sectionsOf (storyTexts (textsOf source.toList))) :
    ∀ t ∈ s.texts, '\n' ∉ t ∧ Text.trim t = t := by
  intro t ht
  exact mem_textsOf ((List.dropWhile_sublist _).subset (mem_of_mem_section hs t ht))

/-- The target of a match is not empty and has no blanks at its ends. -/
theorem Braced.target {t label rest : List Char} (h : Braced t label rest) (hne : rest ≠ [])
    (htrim : Text.trim t = t) :
    Text.trimLeft rest ≠ [] ∧ Text.trim (Text.trimLeft rest) = Text.trimLeft rest := by
  have hlast := ((Text.trim_eq_self_iff t).mp htrim).2
  rw [h.getLast? hne] at hlast
  obtain ⟨htarget, heq⟩ := Text.getLast?_trimLeft hne hlast
  exact ⟨htarget, (Text.trim_eq_self_iff _).mpr ⟨Text.head?_trimLeft rest, heq ▸ hlast⟩⟩

/-- The target of an option of a section has no blanks at its ends. -/
theorem target_of_edge {source : String} {s : Section} {edge : String × String × String}
    (hs : s ∈ sectionsOf (storyTexts (textsOf source.toList))) (he : edge ∈ s.edges) :
    edge.2.2.toList ≠ [] ∧ Text.trim edge.2.2.toList = edge.2.2.toList := by
  obtain ⟨_, ho, rfl⟩ := List.mem_map.mp he
  obtain ⟨t, ht, rfl⟩ := List.mem_map.mp ho
  obtain ⟨hmem, hoption⟩ := List.mem_filter.mp ht
  have hread : option? t = some (optionLabel t, optionTarget t) := by
    rw [option?_eq, if_pos (of_decide_eq_true hoption)]
  obtain ⟨rest, hb, htarget, hne⟩ := option?_eq_some_iff.mp hread
  have hrest : rest ≠ [] := by
    rintro rfl
    exact hne htarget
  rw [String.toList_ofList, htarget]
  exact hb.target hrest (line_of_section hs t hmem).2

/-- Of a trimmed line the pattern has a match exactly where a label in braces begins it and does
not end it, and then the label is the text in the braces, and the target, which is trimmed and not
empty, what stands behind them. Each section of a source is read by these matches: no target
of a link begins or ends with a blank, and a line that its braces end stays text. -/
theorem an_option_line_is_what_the_pattern_matches :
    (∀ t : List Char, '\n' ∉ t → Text.trim t = t →
      (∀ groups, optionPattern.captures? t = some groups ↔
        ∃ label rest, Braced t label rest ∧ rest ≠ [] ∧ groups = [label, Text.trimLeft rest]) ∧
      ∀ label rest, Braced t label rest → rest ≠ [] →
        Text.trimLeft rest ≠ [] ∧ Text.trim (Text.trimLeft rest) = Text.trimLeft rest) ∧
      ∀ (c : Config) (source : String) (p : Parsed), parse c source = .ok p →
        let sections := sectionsOf (storyTexts (textsOf source.toList))
        p.outline.passages = sections.map Section.matched ∧
          (∀ link ∈ p.links, link.target.toList ≠ [] ∧
            Text.trim link.target.toList = link.target.toList) ∧
          ∀ s ∈ sections, ∀ t ∈ s.texts, ∀ label, Braced t label [] → t ∈ s.matched.lines := by
  refine ⟨?_, ?_⟩
  · intro t hline htrim
    have hlast := ((Text.trim_eq_self_iff t).mp htrim).2
    exact ⟨fun groups => captures?_eq_some_iff hline hlast,
      fun label rest hb hne => hb.target hne htrim⟩
  · intro c source p hp sections
    have hlines {s : Section} (hs : s ∈ sections) :
        ∀ t ∈ s.texts, '\n' ∉ t ∧ ∀ c ∈ t.getLast?, Text.isBlank c = false := by
      intro t ht
      obtain ⟨hline, htrim⟩ := line_of_section hs t ht
      exact ⟨hline, ((Text.trim_eq_self_iff t).mp htrim).2⟩
    obtain ⟨houtline, hlinks⟩ := parse_ok hp
    refine ⟨?_, ?_, ?_⟩
    · rw [houtline]
      exact List.map_congr_left fun s hs => passage_eq_matched (hlines hs)
    · intro link hlink
      have hedge : link.edge ∈ readEdges (textsOf source.toList) :=
        hlinks ▸ List.mem_map_of_mem hlink
      obtain ⟨s, hs, he⟩ := List.mem_flatMap.mp hedge
      exact target_of_edge hs he
    · intro s hs t ht label hb
      refine List.mem_filter.mpr ⟨ht, Option.isNone_iff_eq_none.mpr ?_⟩
      refine Option.eq_none_iff_forall_ne_some.mpr fun groups hg => ?_
      obtain ⟨hline, hlast⟩ := hlines hs t ht
      obtain ⟨label', rest, hb', hne, -⟩ := (captures?_eq_some_iff hline hlast).mp hg
      exact hne (hb.unique hb').2.symm

/-- Braces in labels and targets, and a line that its braces end. -/
def bracesSource : String := "[1]\n\x7b\x7d\x7d \u3000x\n\x7ba\x7d\x7d\n\x7ba\x7d"

def bracesRead : Parsed where
  outline := { passages :=
    [{ id := "1", lines := ["\x7ba\x7d".toList], options := [("\x7d", "x"), ("a", "\x7d")] }] }
  links := [⟨"1", "\x7d", "x", 2, ⟨4, 12⟩⟩, ⟨"1", "a", "\x7d", 3, ⟨13, 17⟩⟩]
  diagnostics := []

theorem bracesSource_parse : parse {} bracesSource = .ok bracesRead := by rfl

/-- Its label is a closing brace, and its target stands behind two blanks. -/
def braceLine : List Char := ['{', '}', '}', ' ', '\u3000', 'x']

def bracesSection : Section where
  id := ['1']
  texts := [braceLine, ['{', 'a', '}', '}'], ['{', 'a', '}']]

theorem bracesSection_mem :
    bracesSection ∈ sectionsOf (storyTexts (textsOf bracesSource.toList)) := by
  have hsections : sectionsOf (storyTexts (textsOf bracesSource.toList)) = [bracesSection] := by rfl
  rw [hsections]
  exact List.mem_singleton_self _

theorem a_closing_brace_is_a_label_and_ends_no_option :
    '\n' ∉ braceLine ∧ Text.trim braceLine = braceLine ∧
      optionPattern.captures? braceLine = some [['}'], ['x']] ∧
      parse {} bracesSource = .ok bracesRead ∧
      bracesRead.outline.passages =
        (sectionsOf (storyTexts (textsOf bracesSource.toList))).map Section.matched ∧
      (∀ link ∈ bracesRead.links, link.target.toList ≠ [] ∧
        Text.trim link.target.toList = link.target.toList) ∧
      ['{', 'a', '}'] ∈ bracesSection.matched.lines := by
  have hline : '\n' ∉ braceLine := by decide
  have htrim : Text.trim braceLine = braceLine := by decide
  have hlabel : Braced braceLine ['}'] [' ', '\u3000', 'x'] := ⟨rfl, by decide, by decide⟩
  have htext : Braced ['{', 'a', '}'] ['a'] [] := ⟨rfl, by decide, by decide⟩
  obtain ⟨hmatch, -⟩ := an_option_line_is_what_the_pattern_matches.1 braceLine hline htrim
  obtain ⟨hpassages, htargets, hlines⟩ :=
    an_option_line_is_what_the_pattern_matches.2 {} bracesSource bracesRead bracesSource_parse
  refine ⟨hline, htrim, ?_, bracesSource_parse, hpassages, htargets, ?_⟩
  · exact (hmatch _).mpr ⟨_, _, hlabel, by decide, rfl⟩
  · exact hlines _ bracesSection_mem _ (by decide) _ htext

end Gamebook.Source
