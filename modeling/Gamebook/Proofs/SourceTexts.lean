-- What a source is read from: its trimmed lines without the comments. Whether such a text is a
-- marker, a setting or an option shows in its characters alone, and each kind of line is taken in
-- by a rule of its own.
import Gamebook.Source.Parser

namespace Gamebook.Source

/-! ## The texts of a source -/

/-- The trimmed lines of a source, without those that begin with two slashes. -/
def textsOf (source : List Char) : List (List Char) :=
  ((Text.pieces '\n' source).map Text.trim).filter fun t => ¬ ['/', '/'] <+: t

/-- The texts of some of its lines. -/
def textsIn (ls : List Line) : List (List Char) := (ls.map Line.text).filter fun t => !isComment t

theorem isComment_iff (t : List Char) : isComment t = true ↔ ['/', '/'] <+: t := by
  unfold isComment
  split
  · simp
  · rename_i hne
    constructor
    · intro h
      cases h
    · rintro ⟨r, hr⟩
      exact absurd hr.symm (hne r)

theorem linesFrom_text (number offset : Nat) (ps : List (List Char)) :
    (linesFrom number offset ps).map Line.text = ps.map Text.trim := by
  induction ps generalizing number offset with
  | nil => rfl
  | cons p ps ih =>
    simp only [linesFrom, List.map_cons, ih]
    rfl

theorem textsIn_linesOf (source : List Char) : textsIn (linesOf source) = textsOf source := by
  have hkept : ∀ t, (!isComment t) = decide (¬ ['/', '/'] <+: t) := by
    intro t
    rw [Bool.eq_iff_iff]
    simp [← isComment_iff]
  unfold textsIn textsOf linesOf
  rw [linesFrom_text]
  simp only [hkept]

@[simp] theorem textsIn_nil : textsIn [] = [] := rfl

theorem textsIn_comment {l : Line} (h : isComment l.text = true) (ls : List Line) :
    textsIn (l :: ls) = textsIn ls := by
  simp [textsIn, h]

theorem textsIn_cons {l : Line} (h : isComment l.text = false) (ls : List Line) :
    textsIn (l :: ls) = l.text :: textsIn ls := by
  simp [textsIn, h]

/-! ## The places of lines -/

/-- Where a line stands in a source: between line feeds or the ends, counted in line feeds and in
bytes. -/
def Line.StandsIn (l : Line) (source : List Char) : Prop :=
  ∃ before after, source = before ++ l.raw ++ after ∧ '\n' ∉ l.raw ∧
    (before = [] ∨ before.getLast? = some '\n') ∧ (after = [] ∨ after.head? = some '\n') ∧
    l.number = before.count '\n' + 1 ∧
    l.span = ⟨Text.byteSize before, Text.byteSize before + Text.byteSize l.raw⟩

theorem linesFrom_stands (before : List Char) {ps : List (List Char)}
    (hps : ∀ p ∈ ps, '\n' ∉ p) (hbefore : before = [] ∨ before.getLast? = some '\n') :
    ∀ l ∈ linesFrom (before.count '\n' + 1) (Text.byteSize before) ps,
      l.StandsIn (before ++ Text.join '\n' ps) := by
  -- Each line stands behind the ones before it, which only makes longer what is before the rest.
  induction ps generalizing before with
  | nil =>
    intro l hl
    cases hl
  | cons p ps ih =>
    have hp : '\n' ∉ p := hps p (by simp)
    intro l hl
    rcases List.mem_cons.mp hl with rfl | hl
    · rcases ps with _ | ⟨q, qs⟩
      · exact ⟨before, [], by simp [Text.join], hp, hbefore, Or.inl rfl, rfl, rfl⟩
      · exact ⟨before, '\n' :: Text.join '\n' (q :: qs), by simp [Text.join], hp, hbefore,
          Or.inr rfl, rfl, rfl⟩
    · rcases ps with _ | ⟨q, qs⟩
      · cases hl
      have hcount : (before ++ p ++ ['\n']).count '\n' = before.count '\n' + 1 := by
        simp [List.count_append, List.count_eq_zero.mpr hp]
      have hsize : Text.byteSize (before ++ p ++ ['\n']) =
          Text.byteSize before + Text.byteSize p + 1 := by
        rw [Text.byteSize_append, Text.byteSize_append]
        rfl
      have hrest := ih (before ++ p ++ ['\n']) (fun q hq => hps q (List.mem_cons_of_mem _ hq))
        (Or.inr (by simp)) l
      rw [hcount, hsize] at hrest
      have hsource : before ++ Text.join '\n' (p :: q :: qs) =
          before ++ p ++ ['\n'] ++ Text.join '\n' (q :: qs) := by simp [Text.join]
      rw [hsource]
      exact hrest hl

/-- Every line has the number and the bytes of its place. -/
theorem linesOf_stands (source : List Char) : ∀ l ∈ linesOf source, l.StandsIn source := by
  have hpieces : ∀ p ∈ Text.pieces '\n' source, '\n' ∉ p :=
    fun p hp => Text.not_mem_of_mem_pieces hp
  have hlines := linesFrom_stands [] hpieces (Or.inl rfl)
  rwa [Text.join_pieces] at hlines

/-! ## Markers, settings and options by their characters -/

/-- A marker begins with an opening bracket, ends with a closing one and has at least three
bytes. -/
def IsMarker (t : List Char) : Prop :=
  t.head? = some '[' ∧ t.getLast? = some ']' ∧ 3 ≤ Text.byteSize t

instance : DecidablePred IsMarker := fun _ => inferInstanceAs (Decidable (_ ∧ _))

/-- What stands strictly between the outer brackets of a marker. -/
def markerId (t : List Char) : List Char := t.tail.dropLast

theorem length_le_byteSize (t : List Char) : t.length ≤ Text.byteSize t := by
  induction t with
  | nil => exact Nat.le_refl _
  | cons c t ih =>
    have := c.utf8Size_pos
    simp only [List.length_cons, Text.byteSize]
    omega

theorem marker?_eq (t : List Char) :
    marker? t = if IsMarker t then some (markerId t) else none := by
  rcases t with _ | ⟨c, r⟩
  · rfl
  by_cases hc : c = '['
  · subst hc
    have hiff : (r.getLast? = some ']' ∧ 2 ≤ r.length) ↔ IsMarker ('[' :: r) := by
      unfold IsMarker
      rcases r with _ | ⟨d, _ | ⟨e, r⟩⟩
      · simp
      · simp only [List.getLast?_singleton, Option.some.injEq, List.length_singleton,
          List.head?_cons, List.getLast?_cons_cons, true_and]
        constructor
        · intro h
          omega
        · rintro ⟨rfl, h⟩
          exact absurd h (by decide)
      · have hlen := length_le_byteSize ('[' :: d :: e :: r)
        simp only [List.length_cons] at hlen ⊢
        simp only [List.head?_cons, List.getLast?_cons_cons, true_and]
        constructor
        · rintro ⟨h, _⟩
          exact ⟨h, by omega⟩
        · rintro ⟨h, _⟩
          exact ⟨h, by omega⟩
    simp only [marker?, hiff]
    rfl
  -- Nothing but a bracket begins a marker.
  · have hne : ¬ IsMarker (c :: r) := fun h => hc (by simpa using h.1)
    rw [if_neg hne]
    unfold marker?
    split
    · rename_i h
      cases h
      exact absurd rfl hc
    · rfl

theorem cut_eq (sep : Char) (t : List Char) :
    Text.cut sep t =
      if sep ∈ t then some (t.takeWhile (· ≠ sep), (t.dropWhile (· ≠ sep)).tail) else none := by
  induction t with
  | nil => rfl
  | cons c t ih =>
    by_cases hc : c = sep
    · simp [Text.cut, hc]
    · have hc' : sep ≠ c := Ne.symm hc
      simp only [Text.cut, if_neg hc, ih, List.mem_cons, hc', false_or]
      split <;> simp [hc]

/-- The key of a setting: what stands before its first equals sign, trimmed. -/
def settingKey (t : List Char) : List Char := Text.trim (t.takeWhile (· ≠ '='))

/-- The value of a setting: what stands after its first equals sign, trimmed. -/
def settingValue (t : List Char) : List Char := Text.trim (t.dropWhile (· ≠ '=')).tail

theorem setting?_eq (t : List Char) :
    setting? t = if '=' ∈ t then some (settingKey t, settingValue t) else none := by
  unfold setting?
  rw [cut_eq]
  split <;> rfl

/-- The label of an option: what stands between its opening brace and the first closing one that
leaves it not empty. -/
def optionLabel (t : List Char) : List Char := (t.drop 1).take 1 ++ (t.drop 2).takeWhile (· ≠ '}')

/-- The target of an option: what stands after its label, without the blanks before it. -/
def optionTarget (t : List Char) : List Char :=
  Text.trimLeft ((t.drop 2).dropWhile (· ≠ '}')).tail

/-- An option begins with an opening brace, closes it after one character or more, and has a
target. -/
def IsOption (t : List Char) : Prop :=
  t.head? = some '{' ∧ '}' ∈ t.drop 2 ∧ optionTarget t ≠ []

instance : DecidablePred IsOption := fun _ => inferInstanceAs (Decidable (_ ∧ _))

theorem option?_eq (t : List Char) :
    option? t = if IsOption t then some (optionLabel t, optionTarget t) else none := by
  rcases t with _ | ⟨c, _ | ⟨d, r⟩⟩
  · rfl
  · have hne : ¬ IsOption [c] := by simp [IsOption]
    rw [if_neg hne]
    unfold option?
    split
    · rename_i h
      cases h
    · rfl
  by_cases hc : c = '{'
  · subst hc
    unfold option? IsOption optionTarget optionLabel
    simp only [cut_eq, List.head?_cons, List.drop_succ_cons, List.drop_zero, true_and]
    by_cases hm : '}' ∈ r
    · simp only [hm, if_true, true_and]
      split
      · rename_i h
        rw [if_neg fun hne => hne h]
      · rename_i h
        rw [if_pos h]
        rfl
    · simp [hm]
  · have hne : ¬ IsOption (c :: d :: r) := fun h => hc (by simpa using h.1)
    rw [if_neg hne]
    unfold option?
    split
    · rename_i h
      cases h
      exact absurd rfl hc
    · rfl

/-! ## The rule of each kind of line -/

namespace Progress

variable {u : UnknownKeys} {s s' : Progress} {l : Line}

theorem step_comment (h : isComment l.text = true) : step u s l = .ok s := by
  simp [step, h]

theorem step_setting (h : isComment l.text = false) (hs : s.current = none)
    (he : '=' ∈ l.text) :
    step u s l = s.setting u l (settingKey l.text) (settingValue l.text) := by
  simp [step, h, hs, setting?_eq, he]

theorem step_marker (h : isComment l.text = false) (hs : s.current = none → '=' ∉ l.text)
    (hm : IsMarker l.text) :
    step u s l =
      (s.close l.number l.span).bind fun s => s.start l (String.ofList (markerId l.text)) := by
  have hm' : marker? l.text = some (markerId l.text) := by rw [marker?_eq, if_pos hm]
  rcases hc : s.current with _ | p
  · simp only [step, h, hc, setting?_eq, if_neg (hs hc), hm', Bool.false_eq_true, if_false]
    rfl
  · simp only [step, h, hc, hm', Bool.false_eq_true, if_false]
    rfl

theorem step_extend {p : Passage} (h : isComment l.text = false) (hs : s.current = some p)
    (hm : ¬ IsMarker l.text) : step u s l = .ok (s.extend p l) := by
  have hm' : marker? l.text = none := by rw [marker?_eq, if_neg hm]
  simp [step, h, hs, hm']

theorem step_dropped (h : isComment l.text = false) (hs : s.current = none) (he : '=' ∉ l.text)
    (hm : ¬ IsMarker l.text) : step u s l = .ok s := by
  have hm' : marker? l.text = none := by rw [marker?_eq, if_neg hm]
  simp [step, h, hs, setting?_eq, he, hm']

/-- What is closed joins the complete passages, and nothing else changes. -/
theorem close_ok {n : Nat} {sp : Span} (h : s.close n sp = .ok s') :
    s' = { s with
      outline := { s.outline with passages := s.outline.passages ++ s.current.toList }
      current := none } := by
  unfold close at h
  rcases hc : s.current with _ | p
  · rw [hc] at h
    cases h
    rcases s with ⟨o, current, links, warnings⟩
    cases hc
    simp
  · rw [hc] at h
    simp only [Outline.insert] at h
    split at h
    · rename_i o ho
      split at ho
      · cases ho
      · cases ho
        cases h
        rfl
    · cases h

theorem start_ok {id : String} (h : s.start l id = .ok s') :
    s' = { s with current := some { id } } := by
  unfold start at h
  split at h
  · cases h
  · cases h
    rfl

/-- What a line leads to, by its kind. -/
inductive Took (u : UnknownKeys) (s : Progress) (l : Line) : Progress → Prop
  | comment (h : isComment l.text = true) : Took u s l s
  | setting {s' : Progress} (h : isComment l.text = false) (hs : s.current = none)
      (he : '=' ∈ l.text)
      (hk : s.setting u l (settingKey l.text) (settingValue l.text) = .ok s') : Took u s l s'
  | marker {t : Progress} (h : isComment l.text = false) (hs : s.current = none → '=' ∉ l.text)
      (hm : IsMarker l.text) (hc : s.close l.number l.span = .ok t) :
      Took u s l { t with current := some { id := String.ofList (markerId l.text) } }
  | extend {p : Passage} (h : isComment l.text = false) (hs : s.current = some p)
      (hm : ¬ IsMarker l.text) : Took u s l (s.extend p l)
  | dropped (h : isComment l.text = false) (hs : s.current = none) (he : '=' ∉ l.text)
      (hm : ¬ IsMarker l.text) : Took u s l s

theorem took_of_step (hk : step u s l = .ok s') : Took u s l s' := by
  by_cases hcom : isComment l.text = true
  · rw [step_comment hcom] at hk
    cases hk
    exact .comment hcom
  rw [Bool.not_eq_true] at hcom
  by_cases hset : s.current = none ∧ '=' ∈ l.text
  · rw [step_setting hcom hset.1 hset.2] at hk
    exact .setting hcom hset.1 hset.2 hk
  have hplain : s.current = none → '=' ∉ l.text := fun hs he => hset ⟨hs, he⟩
  by_cases hm : IsMarker l.text
  · rw [step_marker hcom hplain hm] at hk
    rcases hc : s.close l.number l.span with e | t
    · rw [hc] at hk
      cases hk
    · rw [hc] at hk
      rw [start_ok hk]
      exact .marker hcom hplain hm hc
  rcases hs : s.current with _ | p
  · rw [step_dropped hcom hs (hplain hs) hm] at hk
    cases hk
    exact .dropped hcom hs (hplain hs) hm
  · rw [step_extend hcom hs hm] at hk
    cases hk
    exact .extend hcom hs hm

theorem run_cons_ok {ls : List Line} (h : run u s (l :: ls) = .ok s') :
    ∃ t, Took u s l t ∧ run u t ls = .ok s' := by
  unfold run at h
  rw [List.foldlM_cons] at h
  rcases ht : step u s l with e | t
  · rw [ht] at h
    cases h
  · rw [ht] at h
    exact ⟨t, took_of_step ht, h⟩

end Progress

/-- What is read is what the pass has gathered once the last passage is closed. -/
theorem run_of_parse {c : Config} {source : String} {p : Parsed} (h : parse c source = .ok p) :
    ∃ r s n sp, Progress.run c.unknownKeys {} (linesOf source.toList) = .ok r ∧
      r.close n sp = .ok s ∧ p.outline = s.outline ∧ p.links = s.links := by
  unfold parse at h
  rcases hr : Progress.run c.unknownKeys {} (linesOf source.toList) with e | r
  · rw [hr] at h
    cases h
  rw [hr] at h
  rcases hc : r.close 0 ⟨Text.byteSize source.toList, Text.byteSize source.toList⟩ with e | s
  · simp only [bind, Except.bind, hc] at h
    cases h
  simp only [bind, Except.bind, hc] at h
  cases h
  refine ⟨r, s, _, _, rfl, hc, ?_⟩
  unfold Parsed.warned
  split
  · exact ⟨rfl, rfl⟩
  · exact ⟨rfl, rfl⟩

end Gamebook.Source
