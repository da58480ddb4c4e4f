-- Where the report of a diagnostic points. The drawing begins a new line after every line end it
-- knows, the source only after a line feed; and a span counts bytes, which the drawing takes for
-- characters. So the line that a report names is that of its diagnostic, moved down by the line
-- ends before it that the source does not have and by those that its bytes run past.
import Gamebook.Proofs.Positions
import Gamebook.Source.Report

namespace Gamebook.Source

/-! ## The lines of diagnostics -/

/-- Reading the source gives the diagnostic: as a warning, or as the error that ends it. -/
def Diagnosed (c : Config) (source : String) (d : Diagnostic) : Prop :=
  (∃ p, parse c source = .ok p ∧ d ∈ p.diagnostics) ∨
    ∃ e, parse c source = .error e ∧ e.diagnostic? = some d

/-- Every diagnostic is of a line, which is not blank. -/
theorem line_of_diagnostic {c : Config} {source : String} {d : Diagnostic}
    (hd : Diagnosed c source d) :
    ∃ l ∈ linesOf source.toList, l.text ≠ [] ∧ d.line = l.number ∧ d.span = l.span := by
  rcases hd with ⟨p, hp, hd⟩ | ⟨e, he, hd⟩
  · exact line_of_warning hp hd
  · obtain ⟨l, hl, hne, d', hd', hplace⟩ := line_of_parse_error he
    rw [hd] at hd'
    cases hd'
    exact ⟨l, hl, hne, hplace⟩

namespace Report

/-! ## The lines of the drawing -/

/-- The characters after which the drawing begins a new line. -/
def lineEnds : List Char := ['\r', '\n', '\x0b', '\x0c', '\u0085', '\u2028', '\u2029']

theorem isLineEnd_eq (c : Char) : isLineEnd c = lineEnds.contains c := by
  rw [Bool.eq_iff_iff]
  simp [isLineEnd, lineEnds, or_assoc]

/-- Whether a character closes a line of the drawing: a line end does, but for a carriage return
before a line feed. -/
def closes (c : Char) (rest : List Char) : Bool :=
  lineEnds.contains c && !(c = '\r' && rest.head? = some '\n')

/-- How many lines of the drawing are closed within the first characters of a text. -/
def closedWithin : Nat → List Char → Nat
  | 0, _ => 0
  | _ + 1, [] => 0
  | k + 1, c :: cs => (if closes c cs then 1 else 0) + closedWithin k cs

theorem closes_feed (rest : List Char) : closes '\n' rest = true := rfl

theorem placeFrom_of_lt {position offset : Nat} (h : position < offset) (number : Nat)
    (ls : List (List Char)) : placeFrom position number offset ls = none := by
  induction ls generalizing number offset with
  | nil => rfl
  | cons l ls ih =>
    have hnext : position < offset + l.length := by omega
    have hnot : ¬ offset ≤ position := by omega
    simp only [placeFrom, ih hnext, hnot, if_false]

theorem cutLines_eq_nil_iff (cs : List Char) : cutLines cs = [] ↔ cs = [] := by
  fun_cases cutLines cs <;> simp_all

theorem placeFrom_of_some {position number offset : Nat} {l : List Char} {ls : List (List Char)}
    {p : Place} (h : placeFrom position (number + 1) (offset + l.length) ls = some p) :
    placeFrom position number offset (l :: ls) = some p := by
  simp only [placeFrom, h]

theorem placeFrom_of_none {position number offset : Nat} {l : List Char} {ls : List (List Char)}
    (h : placeFrom position (number + 1) (offset + l.length) ls = none) (hle : offset ≤ position) :
    placeFrom position number offset (l :: ls) = some { number, offset, text := l } := by
  simp only [placeFrom, h, hle, if_true]

/-- The lines are those of a text: the line at a position has as many lines before it as are closed
there, and the end of the text belongs to the last line. -/
def Placed (cs : List Char) (ls : List (List Char)) : Prop :=
  ∀ k number offset, k ≤ cs.length → ∃ p, placeFrom (offset + k) number offset ls = some p ∧
    p.number = number + closedWithin (min k (cs.length - 1)) cs

/-- A line that is closed at its end stands in front of the lines of a text. -/
theorem placed_closed {l cs : List Char} {ls : List (List Char)} (hl : l ≠ [])
    (hopen : ∀ j < l.length, closedWithin j (l ++ cs) = 0)
    (hclosed : ∀ j, closedWithin (l.length + j) (l ++ cs) = 1 + closedWithin j cs)
    (hrest : cs = [] ∧ ls = [] ∨ cs ≠ [] ∧ Placed cs ls) : Placed (l ++ cs) (l :: ls) := by
  have hpos : 0 < l.length := List.length_pos_iff.mpr hl
  intro k number offset hk
  rw [List.length_append] at hk ⊢
  rcases hrest with ⟨rfl, rfl⟩ | ⟨hne, hrest⟩
  · refine ⟨_, placeFrom_of_none rfl (by omega), ?_⟩
    rw [hopen _ (by simp; omega)]
    rfl
  have hcs : 0 < cs.length := List.length_pos_iff.mpr hne
  rcases Nat.lt_or_ge k l.length with hlt | hge
  · have hnone := placeFrom_of_lt (show offset + k < offset + l.length by omega) (number + 1) ls
    have hmin : min k (l.length + cs.length - 1) = k := by omega
    refine ⟨_, placeFrom_of_none hnone (by omega), ?_⟩
    rw [hmin, hopen k hlt]
    rfl
  · obtain ⟨j, rfl⟩ := Nat.exists_eq_add_of_le hge
    obtain ⟨p, hp, hnumber⟩ := hrest j (number + 1) (offset + l.length) (by omega)
    rw [Nat.add_assoc offset] at hp
    have hmin : min (l.length + j) (l.length + cs.length - 1) =
        l.length + min j (cs.length - 1) := by omega
    refine ⟨p, placeFrom_of_some hp, ?_⟩
    rw [hmin, hclosed, hnumber]
    omega

/-- A character that closes nothing belongs to the first line of a text. -/
theorem placed_open {c : Char} {l cs : List Char} {ls : List (List Char)} (hne : cs ≠ [])
    (hopen : closes c cs = false) (h : Placed cs (l :: ls)) :
    Placed (c :: cs) ((c :: l) :: ls) := by
  have hpos : 0 < cs.length := List.length_pos_iff.mpr hne
  intro k number offset hk
  rcases k with _ | k
  · have hbehind : offset + 0 < offset + (c :: l).length := by simp
    refine ⟨_, placeFrom_of_none (placeFrom_of_lt hbehind (number + 1) ls) (by omega), ?_⟩
    rw [Nat.zero_min]
    rfl
  obtain ⟨p, hp, hnumber⟩ := h k number (offset + 1) (by simpa using hk)
  have hmin : min (k + 1) ((c :: cs).length - 1) = min k (cs.length - 1) + 1 := by
    simp only [List.length_cons]
    omega
  have hsame : closedWithin (min (k + 1) ((c :: cs).length - 1)) (c :: cs) =
      closedWithin (min k (cs.length - 1)) cs := by
    rw [hmin]
    simp [closedWithin, hopen]
  have hposition : offset + 1 + k = offset + (k + 1) := by omega
  have hbehind : offset + 1 + l.length = offset + (c :: l).length := by
    simp only [List.length_cons]
    omega
  rw [hposition, placeFrom, hbehind] at hp
  rw [hsame, ← hnumber]
  rcases hlater : placeFrom (offset + (k + 1)) (number + 1) (offset + (c :: l).length) ls with _ | q
  · have hle : offset + 1 ≤ offset + (k + 1) := by omega
    simp only [hlater, hle, if_true, Option.some.injEq] at hp
    refine ⟨_, placeFrom_of_none hlater (by omega), ?_⟩
    rw [← hp]
  · rw [hlater] at hp
    cases hp
    exact ⟨p, placeFrom_of_some hlater, rfl⟩

theorem closes_of_end {c : Char} {cs : List Char} (hend : isLineEnd c = true)
    (hpair : ∀ rest, c = '\r' → cs ≠ '\n' :: rest) : closes c cs = true := by
  unfold closes
  rw [← isLineEnd_eq, hend, Bool.true_and, Bool.not_eq_true', Bool.and_eq_false_iff]
  by_cases hreturn : c = '\r'
  · refine Or.inr (decide_eq_false ?_)
    intro hfeed
    obtain ⟨rest, hcs⟩ := List.head?_eq_some_iff.mp hfeed
    exact hpair rest hreturn hcs
  · exact Or.inl (decide_eq_false hreturn)

theorem placed_cutLines {cs : List Char} (hne : cs ≠ []) : Placed cs (cutLines cs) := by
  have hrest : ∀ {cs}, (cs ≠ [] → Placed cs (cutLines cs)) →
      cs = [] ∧ cutLines cs = [] ∨ cs ≠ [] ∧ Placed cs (cutLines cs) := by
    intro cs h
    by_cases hnil : cs = []
    · exact Or.inl ⟨hnil, (cutLines_eq_nil_iff cs).mpr hnil⟩
    · exact Or.inr ⟨hnil, h hnil⟩
  induction cs using cutLines.induct with
  | case1 => exact absurd rfl hne
  | case2 cs ih =>
    have hopen : ∀ j < 2, closedWithin j ('\r' :: '\n' :: cs) = 0 := by
      intro j hj
      rcases j with _ | _ | j
      · rfl
      · rfl
      · omega
    have hclosed : ∀ j, closedWithin (2 + j) ('\r' :: '\n' :: cs) = 1 + closedWithin j cs := by
      intro j
      rw [Nat.add_comm 2 j]
      show 0 + (1 + closedWithin j cs) = _
      omega
    exact placed_closed (l := ['\r', '\n']) (by simp) hopen hclosed (hrest ih)
  | case3 c cs hpair hend ih =>
    have hc : closes c cs = true := closes_of_end hend hpair
    have hopen : ∀ j < 1, closedWithin j (c :: cs) = 0 := by
      intro j hj
      rw [Nat.lt_one_iff.mp hj]
      rfl
    have hclosed : ∀ j, closedWithin (1 + j) (c :: cs) = 1 + closedWithin j cs := by
      intro j
      simp [Nat.add_comm 1 j, closedWithin, hc]
    rw [cutLines.eq_3 c cs hpair, if_pos hend]
    exact placed_closed (l := [c]) (by simp) hopen hclosed (hrest ih)
  | case4 c cs hpair hend hnil ih =>
    rw [cutLines_eq_nil_iff] at hnil
    subst hnil
    rw [cutLines.eq_3 c [] hpair, if_neg hend]
    intro k number offset hk
    have hmin : min k ([c].length - 1) = 0 := by simp
    rw [hmin]
    exact ⟨_, placeFrom_of_none rfl (by omega), rfl⟩
  | case5 c cs hpair hend l ls hcut ih =>
    have hcs : cs ≠ [] := by
      rintro rfl
      cases hcut
    have hopen : closes c cs = false := by
      unfold closes
      rw [← isLineEnd_eq, Bool.eq_false_iff.mpr hend, Bool.false_and]
    rw [cutLines.eq_3 c cs hpair, if_neg hend, hcut]
    rw [hcut] at ih
    exact placed_open hcs hopen (ih hcs)

theorem place?_eq {cs : List Char} (hne : cs ≠ []) {position : Nat} (hp : position ≤ cs.length) :
    ∃ p, place? cs position = some p ∧
      p.number = 1 + closedWithin (min position (cs.length - 1)) cs := by
  obtain ⟨p, hplace, hnumber⟩ := placed_cutLines hne position 1 0 hp
  rw [Nat.zero_add] at hplace
  refine ⟨p, ?_, hnumber⟩
  unfold place? drawnLines
  rw [if_neg (by omega), if_neg hne, hplace]

theorem place?_of_lt {cs : List Char} {position : Nat} (h : cs.length < position) :
    place? cs position = none := if_pos h

/-! ## Line ends of the drawing and of the source -/

/-- The lines of the drawing that a text closes without a line feed. -/
def strayEnds : List Char → Nat
  | [] => 0
  | c :: cs => (if closes c cs ∧ c ≠ '\n' then 1 else 0) + strayEnds cs

/-- The text of the first lines of a source, each with its line feed. -/
def firstLines : Nat → List Char → List Char
  | 0, _ => []
  | _ + 1, [] => []
  | k + 1, c :: cs => c :: if c = '\n' then firstLines k cs else firstLines (k + 1) cs

/-- What the bytes of a text count more than its characters. -/
def extraBytes (cs : List Char) : Nat := Text.byteSize cs - cs.length

/-- The lines of the drawing that are closed where one goes on for so many characters, but not past
the end. -/
def passed (k : Nat) (cs : List Char) : Nat := closedWithin (min k (cs.length - 1)) cs

/-- Behind a line feed, or at the start, a text closes its own lines. -/
theorem closedWithin_append {before : List Char}
    (hb : before = [] ∨ before.getLast? = some '\n') (k : Nat) (rest : List Char) :
    closedWithin (before.length + k) (before ++ rest) =
      before.count '\n' + strayEnds before + closedWithin k rest := by
  induction before with
  | nil => simp [strayEnds]
  | cons c cs ih =>
    have hlast := hb.resolve_left (by simp)
    have hlength : (c :: cs).length + k = cs.length + k + 1 := by
      simp only [List.length_cons]
      omega
    rw [hlength, List.cons_append, closedWithin, strayEnds, List.count_cons]
    rcases cs with _ | ⟨d, cs⟩
    · have hc : c = '\n' := by simpa using hlast
      subst hc
      simp [closes_feed, strayEnds]
    · have hcs : (d :: cs).getLast? = some '\n' := by rwa [List.getLast?_cons_cons] at hlast
      have hhead : closes c (d :: cs ++ rest) = closes c (d :: cs) := rfl
      rw [ih (Or.inr hcs), hhead]
      by_cases hc : c = '\n'
      · subst hc
        simp [closes_feed]
        omega
      · simp [hc]
        omega

theorem firstLines_eq {before rest : List Char}
    (hb : before = [] ∨ before.getLast? = some '\n') :
    firstLines (before.count '\n') (before ++ rest) = before := by
  induction before with
  | nil => simp [firstLines]
  | cons c cs ih =>
    have hlast := hb.resolve_left (by simp)
    rcases cs with _ | ⟨d, cs⟩
    · have hc : c = '\n' := by simpa using hlast
      subst hc
      simp [firstLines]
    · have hcs : (d :: cs).getLast? = some '\n' := by rwa [List.getLast?_cons_cons] at hlast
      have hrest := ih (Or.inr hcs)
      by_cases hc : c = '\n'
      · subst hc
        rw [List.count_cons_self, List.cons_append, firstLines, if_pos rfl, hrest]
      · have hmem : 0 < (d :: cs).count '\n' := List.count_pos_iff.mpr (List.mem_of_getLast? hcs)
        obtain ⟨k, hk⟩ := Nat.exists_eq_succ_of_ne_zero hmem.ne'
        rw [hk] at hrest
        rw [List.count_cons_of_ne hc, hk, List.cons_append, firstLines, if_neg hc, hrest]

theorem byteSize_eq (cs : List Char) : Text.byteSize cs = cs.length + extraBytes cs := by
  have := length_le_byteSize cs
  unfold extraBytes
  omega

theorem extraBytes_of_ascii {cs : List Char} (h : ∀ c ∈ cs, c.toNat < 128) :
    extraBytes cs = 0 := by
  induction cs with
  | nil => rfl
  | cons c cs ih =>
    have hc : c.utf8Size = 1 := Char.utf8Size_eq_one_iff.mpr (Nat.le_of_lt_succ (h c (by simp)))
    have hrest := ih fun d hd => h d (List.mem_cons_of_mem _ hd)
    have := byteSize_eq cs
    simp only [extraBytes, Text.byteSize, List.length_cons, hc]
    omega

/-! ## What a report says -/

/-- The line of a report that says where. -/
def placeLine (width : Nat) (file : String) (line column : Nat) : String :=
  spaces width ++ frame "╭" ++ frame "─" ++ frame "[" ++ " " ++ file ++ ":" ++ toString line ++ ":"
    ++ toString column ++ " " ++ frame "]" ++ "\n"

/-- A report of a diagnostic goes on after its headline with a place in the given line. -/
def Names (report : String) (d : Diagnostic) (file : String) (line : Nat) : Prop :=
  ∃ width column rest, report = headline d ++ placeLine width file line column ++ rest

theorem renderAll_singleton (source file : String) (d : Diagnostic) :
    renderAll source file [d] = render source file d := by
  simp [renderAll, String.join]

theorem names_of_extent {source file : String} {d : Diagnostic} {e : Extent}
    (h : Extent.ofSpan? source.toList d.span = some e) :
    Names (renderAll source file [d]) d file e.first.number := by
  refine ⟨e.digits + 2, d.span.start - e.first.offset + 1,
    spaces (e.digits + 2) ++ frame "│" ++ "\n" ++ drawing d e ++ footer e, ?_⟩
  rw [renderAll_singleton, render, h]
  simp only [header, placeLine, String.append_assoc]

theorem headline_of_no_extent {source : String} (file : String) {d : Diagnostic}
    (h : Extent.ofSpan? source.toList d.span = none) :
    renderAll source file [d] = headline d := by
  rw [renderAll_singleton, render, h]

theorem placeLine_toList (width : Nat) (file : String) (line column : Nat) :
    (placeLine width file line column).toList = List.replicate width ' ' ++ '\x1b' ::
      ((frame "╭" ++ frame "─" ++ frame "[" ++ " " ++ file ++ ":").toList.tail ++
        ((toString line).toList ++ ':' ::
          (toString column ++ " " ++ frame "]" ++ "\n").toList)) := by
  simp [placeLine, spaces, frame, tinted]

theorem colon_notMem (n : Nat) : ':' ∉ (toString n).toList := by
  intro h
  rw [Nat.toString_eq_ofList_toDigits, String.toList_ofList] at h
  have := Nat.isDigit_of_mem_toDigits (by omega) (by omega) h
  cases this

theorem eq_of_digits {m n : Nat} (h : (toString m).toList = (toString n).toList) : m = n := by
  simp only [Nat.toString_eq_ofList_toDigits, String.toList_ofList] at h
  rw [← Nat.ofDigitChars_toDigits (b := 10) (n := m) (by omega) (by omega), h,
    Nat.ofDigitChars_toDigits (by omega) (by omega)]

/-- What stands before the first occurrence of a character is the same in equal texts. -/
theorem eq_of_append_cons {sep : Char} {a b r s : List Char} (ha : sep ∉ a) (hb : sep ∉ b)
    (h : a ++ sep :: r = b ++ sep :: s) : a = b ∧ r = s := by
  have hcut : Text.cut sep (a ++ sep :: r) = some (a, r) := Text.cut_eq_some_iff.mpr ⟨rfl, ha⟩
  rw [h, Text.cut_eq_some_iff.mpr ⟨rfl, hb⟩] at hcut
  cases hcut
  exact ⟨rfl, rfl⟩

/-- A headline alone names no line. -/
theorem not_names_headline (d : Diagnostic) (file : String) (line : Nat) :
    ¬ Names (headline d) d file line := by
  rintro ⟨width, column, rest, h⟩
  have hlist := congrArg String.toList h
  rw [String.toList_append, String.toList_append, List.append_assoc, placeLine_toList] at hlist
  simp at hlist

/-- A report names one line. -/
theorem Names.unique {report file : String} {d : Diagnostic} {line line' : Nat}
    (h : Names report d file line) (h' : Names report d file line') : line = line' := by
  obtain ⟨width, column, rest, rfl⟩ := h
  obtain ⟨width', column', rest', h⟩ := h'
  have hlist := congrArg String.toList h
  rw [String.toList_append, String.toList_append, String.toList_append, String.toList_append,
    placeLine_toList, placeLine_toList] at hlist
  simp only [List.append_assoc, List.cons_append, List.append_cancel_left_eq] at hlist
  -- The pads are of blanks, the numbers of digits: each ends at the same character.
  have hescape : ∀ n, '\x1b' ∉ List.replicate n ' ' := fun n h => by
    cases (List.mem_replicate.mp h).2
  obtain ⟨-, hframed⟩ := eq_of_append_cons (hescape _) (hescape _) hlist
  rw [List.append_cancel_left_eq] at hframed
  obtain ⟨hdigits, -⟩ := eq_of_append_cons (colon_notMem _) (colon_notMem _) hframed
  exact eq_of_digits hdigits

/-! ## Where a diagnostic is drawn -/

/-- The source before the line of a diagnostic. -/
def before (source : String) (d : Diagnostic) : List Char :=
  firstLines (d.line - 1) source.toList

/-- The source from the line of a diagnostic on. -/
def fromLine (source : String) (d : Diagnostic) : List Char :=
  source.toList.drop (before source d).length

/-- How many lines too far down a diagnostic is drawn: for each line of the drawing that the source
does not count, and for each that the extra bytes before the diagnostic lead past. -/
def drift (source : String) (d : Diagnostic) : Nat :=
  strayEnds (before source d) + passed (extraBytes (before source d)) (fromLine source d)

/-- As many bytes as there are before the end of the diagnosed line, the source has characters; the
last of them may be one that is missing. -/
def Fits (source : String) (d : Diagnostic) : Prop :=
  Text.byteSize (before source d) + Text.byteSize ((fromLine source d).takeWhile (· ≠ '\n')) ≤
    source.toList.length + 1

instance (source : String) (d : Diagnostic) : Decidable (Fits source d) :=
  inferInstanceAs (Decidable (_ ≤ _))

theorem ofSpan?_of_lt {cs : List Char} {span : Span} (hspan : span.start < span.stop)
    (h : cs.length + 1 < span.stop) : Extent.ofSpan? cs span = none := by
  have hlast : place? cs (span.stop - 1) = none := place?_of_lt (by omega)
  simp [Extent.ofSpan?, hspan, hlast]

theorem ofSpan?_of_le {cs : List Char} {span : Span} (hne : cs ≠ [])
    (hspan : span.start < span.stop) (h : span.stop ≤ cs.length + 1) :
    ∃ e, Extent.ofSpan? cs span = some e ∧
      e.first.number = 1 + closedWithin (min span.start (cs.length - 1)) cs := by
  obtain ⟨first, hfirst, hnumber⟩ := place?_eq hne (show span.start ≤ cs.length by omega)
  obtain ⟨last, hlast, -⟩ := place?_eq hne (show span.stop - 1 ≤ cs.length by omega)
  refine ⟨{ first, last }, ?_, hnumber⟩
  simp [Extent.ofSpan?, hspan, hfirst, hlast]

theorem takeWhile_line {raw after : List Char} (hraw : '\n' ∉ raw)
    (hafter : after = [] ∨ after.head? = some '\n') :
    (raw ++ after).takeWhile (· ≠ '\n') = raw := by
  have hall : ∀ c ∈ raw, decide (c ≠ '\n') = true := by
    intro c hc
    simp only [decide_eq_true_eq]
    rintro rfl
    exact hraw hc
  rw [List.takeWhile_append_of_pos hall]
  rcases hafter with rfl | hafter
  · simp
  · obtain ⟨r, rfl⟩ := List.head?_eq_some_iff.mp hafter
    simp

/-- A diagnosed line has a character, and its span is its place in bytes. -/
theorem place_of_diagnostic {c : Config} {source : String} {d : Diagnostic}
    (hd : Diagnosed c source d) :
    ∃ raw after, source.toList = before source d ++ raw ++ after ∧ raw ≠ [] ∧
      raw = (fromLine source d).takeWhile (· ≠ '\n') ∧ fromLine source d = raw ++ after ∧
      (before source d = [] ∨ (before source d).getLast? = some '\n') ∧
      d.line = (before source d).count '\n' + 1 ∧
      d.span = ⟨Text.byteSize (before source d),
        Text.byteSize (before source d) + Text.byteSize raw⟩ := by
  obtain ⟨l, hl, hne, hline, hspan⟩ := line_of_diagnostic hd
  obtain ⟨b, after, hsource, hraw, hb, hafter, hnumber, hplace⟩ := linesOf_stands _ l hl
  have hbefore : before source d = b := by
    unfold before
    rw [hline, hnumber, Nat.add_sub_cancel, hsource, List.append_assoc, firstLines_eq hb]
  have hfrom : fromLine source d = l.raw ++ after := by
    unfold fromLine
    rw [hbefore, hsource, List.append_assoc, List.drop_left]
  refine ⟨l.raw, after, ?_, ?_, ?_, hfrom, ?_, ?_, ?_⟩
  · rw [hbefore, hsource]
  · intro hblank
    exact hne (by simp [Line.text, hblank, Text.trim, Text.trimLeft, Text.trimRight])
  · rw [hfrom, takeWhile_line hraw hafter]
  · rwa [hbefore]
  · rw [hbefore, hline, hnumber]
  · rw [hbefore, hspan, hplace]

theorem extent_of_diagnostic {c : Config} {source : String} {d : Diagnostic}
    (hd : Diagnosed c source d) (hfits : Fits source d) :
    ∃ e, Extent.ofSpan? source.toList d.span = some e ∧
      e.first.number = d.line + drift source d := by
  obtain ⟨raw, after, hsource, hne, hraw, hfrom, hb, hline, hspan⟩ := place_of_diagnostic hd
  have hraws : 0 < raw.length := List.length_pos_iff.mpr hne
  have hbytes := length_le_byteSize raw
  have hstop : d.span.stop ≤ source.toList.length + 1 := by
    rw [hspan, hraw]
    exact hfits
  have hstart : d.span.start < d.span.stop := by
    rw [hspan]
    show Text.byteSize _ < Text.byteSize _ + Text.byteSize raw
    omega
  have hsourceNe : source.toList ≠ [] := by
    rw [hsource]
    simp [hne]
  obtain ⟨e, he, hnumber⟩ := ofSpan?_of_le hsourceNe hstart hstop
  refine ⟨e, he, ?_⟩
  have hsplit : source.toList = before source d ++ fromLine source d := by
    rw [hfrom, hsource, List.append_assoc]
  have hlength : source.toList.length = (before source d).length + (fromLine source d).length := by
    rw [← List.length_append, ← hsplit]
  have hrest : 0 < (fromLine source d).length := by
    rw [hfrom, List.length_append]
    omega
  have hposition : min d.span.start (source.toList.length - 1) = (before source d).length +
      min (extraBytes (before source d)) ((fromLine source d).length - 1) := by
    rw [hspan, byteSize_eq]
    show min ((before source d).length + extraBytes _) _ = _
    omega
  calc e.first.number
      = 1 + closedWithin ((before source d).length +
          min (extraBytes (before source d)) ((fromLine source d).length - 1))
          (before source d ++ fromLine source d) := by rw [hnumber, hposition, ← hsplit]
    _ = 1 + ((before source d).count '\n' + drift source d) := by
        rw [closedWithin_append hb, drift, passed, Nat.add_assoc]
    _ = d.line + drift source d := by omega

/-! ## The line a report names -/

theorem named_of_fits {c : Config} {source : String} {d : Diagnostic} (hd : Diagnosed c source d)
    (file : String) (hfits : Fits source d) :
    Names (renderAll source file [d]) d file (d.line + drift source d) := by
  obtain ⟨e, he, hnumber⟩ := extent_of_diagnostic hd hfits
  rw [← hnumber]
  exact names_of_extent he

theorem headline_of_not_fits {c : Config} {source : String} {d : Diagnostic}
    (hd : Diagnosed c source d) (file : String) (hfits : ¬ Fits source d) :
    renderAll source file [d] = headline d := by
  obtain ⟨raw, after, -, hne, hraw, -, -, -, hspan⟩ := place_of_diagnostic hd
  have hraws : 0 < raw.length := List.length_pos_iff.mpr hne
  have hbytes := length_le_byteSize raw
  unfold Fits at hfits
  rw [← hraw] at hfits
  refine headline_of_no_extent file (ofSpan?_of_lt ?_ ?_)
  · rw [hspan]
    show Text.byteSize _ < Text.byteSize _ + Text.byteSize raw
    omega
  · rw [hspan]
    show _ < Text.byteSize _ + Text.byteSize raw
    omega

/-- In plain text every byte is a character. -/
theorem fits_of_ascii {c : Config} {source : String} {d : Diagnostic} (hd : Diagnosed c source d)
    (hascii : ∀ c ∈ source.toList, c.toNat < 128) :
    Fits source d ∧ extraBytes (before source d) = 0 := by
  obtain ⟨raw, after, hsource, -, hraw, -⟩ := place_of_diagnostic hd
  have hbefore : extraBytes (before source d) = 0 := by
    refine extraBytes_of_ascii fun c hc => hascii c ?_
    simp [hsource, hc]
  have hline : extraBytes raw = 0 := by
    refine extraBytes_of_ascii fun c hc => hascii c ?_
    simp [hsource, hc]
  refine ⟨?_, hbefore⟩
  unfold Fits
  rw [← hraw, byteSize_eq, hbefore, byteSize_eq, hline, hsource]
  simp only [List.length_append]
  omega

/-- The report of a diagnostic that fits names its line, moved down by the drift; the report of one
that does not fit is its headline. So the right line is named where both causes are missing, as in
plain text whose lines end at line feeds only. -/
theorem a_report_names_its_line_moved_down {c : Config} {source : String} {d : Diagnostic}
    (hd : Diagnosed c source d) (file : String) :
    (Fits source d →
      Names (renderAll source file [d]) d file (d.line + drift source d)) ∧
    (¬ Fits source d → renderAll source file [d] = headline d) ∧
    (Names (renderAll source file [d]) d file d.line ↔ Fits source d ∧ drift source d = 0) ∧
    ((∀ c ∈ source.toList, c.toNat < 128) → strayEnds (before source d) = 0 →
      Names (renderAll source file [d]) d file d.line) := by
  have hright : Names (renderAll source file [d]) d file d.line ↔
      Fits source d ∧ drift source d = 0 := by
    constructor
    · intro hnames
      by_cases hfits : Fits source d
      · have := hnames.unique (named_of_fits hd file hfits)
        exact ⟨hfits, by omega⟩
      · rw [headline_of_not_fits hd file hfits] at hnames
        exact absurd hnames (not_names_headline d file d.line)
    · rintro ⟨hfits, hdrift⟩
      have := named_of_fits hd file hfits
      rwa [hdrift] at this
  refine ⟨named_of_fits hd file, headline_of_not_fits hd file, hright, ?_⟩
  intro hascii hstray
  obtain ⟨hfits, hextra⟩ := fits_of_ascii hd hascii
  refine hright.mpr ⟨hfits, ?_⟩
  unfold drift passed
  rw [hstray, hextra, Nat.zero_min]
  rfl

/-- Ten bytes more than characters stand before its second line. -/
def caveSource : String :=
  "title = 洞窟の物語\ngenre=x\n[the entrance of the cave]\nDark.\n"

def genreWarning : Diagnostic where
  severity := .warning
  span := ⟨24, 31⟩
  line := 2
  message := "unknown metadata key \"genre\""
  label := some "ignored"

theorem genreWarning_diagnosed : Diagnosed { unknownKeys := .warn } caveSource genreWarning :=
  Or.inl ⟨_, rfl, by decide⟩

theorem a_warning_of_the_second_line_names_the_third :
    Diagnosed { unknownKeys := .warn } caveSource genreWarning ∧ Fits caveSource genreWarning ∧
      Names (renderAll caveSource "story.txt" [genreWarning]) genreWarning "story.txt" 3 := by
  have hfits : Fits caveSource genreWarning := by decide
  obtain ⟨hnames, -⟩ := a_report_names_its_line_moved_down genreWarning_diagnosed "story.txt"
  exact ⟨genreWarning_diagnosed, hfits, hnames hfits⟩

theorem not_every_report_names_its_line :
    ¬ ∀ (c : Config) (source file : String) (d : Diagnostic), Diagnosed c source d →
      Names (renderAll source file [d]) d file d.line := by
  intro hall
  have hsecond := hall _ caveSource "story.txt" genreWarning genreWarning_diagnosed
  have hthird := named_of_fits genreWarning_diagnosed "story.txt" (by decide)
  have hlines := hsecond.unique hthird
  revert hlines
  decide

end Report

end Gamebook.Source
