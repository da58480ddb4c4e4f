-- Writing an outline down. The settings come first, then each passage: its marker, its lines of
-- text and its options. What is written reads back as the outline it was, whatever characters
-- stand in it, as long as no line of text could be read as something else.
import Gamebook.Proofs.Faults
import Gamebook.Session

namespace Gamebook.Source

/-! ## The source of an outline -/

def settingLine (key value : String) : List Char := key.toList ++ ' ' :: '=' :: ' ' :: value.toList

def markerLine (id : String) : List Char := '[' :: (id.toList ++ [']'])

/-- The line of a label and a target. -/
def optionLine (o : String × String) : List Char := '{' :: (o.1.toList ++ '}' :: ' ' :: o.2.toList)

def Passage.written (p : Passage) : List (List Char) :=
  markerLine p.id :: (p.lines ++ p.options.map optionLine)

def Outline.settings (o : Outline) : List (String × String) :=
  [("title", o.title), ("author", o.author), ("initialNode", o.start)]

def Outline.written (o : Outline) : List (List Char) :=
  o.settings.map (fun s => settingLine s.1 s.2) ++ o.passages.flatMap Passage.written

def Outline.source (o : Outline) : String := String.ofList (Text.join '\n' o.written)

/-! ## What can be written -/

/-- A text that is a line as it stands. -/
def IsLine (t : List Char) : Prop := Text.trim t = t ∧ '\n' ∉ t

instance : DecidablePred IsLine := fun _ => inferInstanceAs (Decidable (_ ∧ _))

/-- A line that is no comment, marker or option. -/
def IsBodyLine (t : List Char) : Prop :=
  IsLine t ∧ ¬ ['/', '/'] <+: t ∧ ¬ IsMarker t ∧ ¬ IsOption t

instance : DecidablePred IsBodyLine := fun _ => inferInstanceAs (Decidable (_ ∧ _))

structure Passage.Writable (p : Passage) : Prop where
  id_ne : p.id.toList ≠ []
  id_line : '\n' ∉ p.id.toList
  lines : ∀ t ∈ p.lines, IsBodyLine t
  first_ne : p.lines.head? ≠ some []
  last_ne : p.lines.getLast? ≠ some []
  labels : ∀ o ∈ p.options, o.1.toList ≠ [] ∧ '\n' ∉ o.1.toList ∧ '}' ∉ o.1.toList.tail
  targets : ∀ o ∈ p.options, o.2.toList ≠ [] ∧ IsLine o.2.toList

instance (p : Passage) : Decidable p.Writable :=
  decidable_of_iff (p.id.toList ≠ [] ∧ '\n' ∉ p.id.toList ∧ (∀ t ∈ p.lines, IsBodyLine t) ∧
    p.lines.head? ≠ some [] ∧ p.lines.getLast? ≠ some [] ∧
    (∀ o ∈ p.options, o.1.toList ≠ [] ∧ '\n' ∉ o.1.toList ∧ '}' ∉ o.1.toList.tail) ∧
    ∀ o ∈ p.options, o.2.toList ≠ [] ∧ IsLine o.2.toList)
    ⟨fun ⟨h1, h2, h3, h4, h5, h6, h7⟩ => ⟨h1, h2, h3, h4, h5, h6, h7⟩,
      fun ⟨h1, h2, h3, h4, h5, h6, h7⟩ => ⟨h1, h2, h3, h4, h5, h6, h7⟩⟩

structure Outline.Writable (o : Outline) : Prop where
  settings : ∀ s ∈ o.settings, IsLine s.2.toList
  ids_nodup : o.ids.Nodup
  /-- The first marker must end the header. -/
  first_plain : ∀ p ∈ o.passages.head?, '=' ∉ p.id.toList
  passages : ∀ p ∈ o.passages, p.Writable

/-! ## Settings -/

theorem takeWhile_ne_append {sep : Char} {a : List Char} (h : sep ∉ a) (b : List Char) :
    (a ++ sep :: b).takeWhile (· ≠ sep) = a := by
  induction a with
  | nil => simp
  | cons c a ih =>
    rw [List.mem_cons, not_or] at h
    simpa [Ne.symm h.1] using ih h.2

theorem dropWhile_ne_append {sep : Char} {a : List Char} (h : sep ∉ a) (b : List Char) :
    (a ++ sep :: b).dropWhile (· ≠ sep) = sep :: b := by
  induction a with
  | nil => simp
  | cons c a ih =>
    rw [List.mem_cons, not_or] at h
    simpa [Ne.symm h.1] using ih h.2

theorem known_key : ∀ key ∈ knownKeys, '=' ∉ key.toList ∧ '\n' ∉ key.toList ∧
    Text.trim (key.toList ++ [' ']) = key.toList ∧
    Text.trim (settingLine key "") = key.toList ++ [' ', '='] ∧
    ∃ c ∈ key.toList.head?, Text.isBlank c = false ∧ c ≠ '/' := by
  intro key hkey
  simp only [knownKeys, List.mem_cons, List.not_mem_nil, or_false] at hkey
  rcases hkey with rfl | rfl | rfl
  · exact ⟨by decide, by decide, by decide, by decide, 't', rfl, by decide, by decide⟩
  · exact ⟨by decide, by decide, by decide, by decide, 'a', rfl, by decide, by decide⟩
  · exact ⟨by decide, by decide, by decide, by decide, 'i', rfl, by decide, by decide⟩

theorem getLast?_settingLine (key : String) {value : String} (hne : value.toList ≠ []) :
    (settingLine key value).getLast? = value.toList.getLast? := by
  have hsplit : settingLine key value = (key.toList ++ [' ', '=', ' ']) ++ value.toList := by
    simp [settingLine]
  rw [hsplit, List.getLast?_append_of_ne_nil _ hne]

/-- Only the blank before an empty value is lost. -/
theorem trim_settingLine {key value : String} (hkey : key ∈ knownKeys)
    (hvalue : IsLine value.toList) :
    ∃ v, Text.trim (settingLine key value) = key.toList ++ ' ' :: '=' :: v ∧
      Text.trim v = value.toList := by
  obtain ⟨-, -, -, hempty, c, hc, hblank, -⟩ := known_key key hkey
  by_cases hne : value.toList = []
  · obtain rfl : value = "" := String.toList_eq_nil_iff.mp hne
    exact ⟨[], hempty, rfl⟩
  · refine ⟨' ' :: value.toList, ?_, ?_⟩
    · refine (Text.trim_eq_self_iff _).mpr ⟨?_, ?_⟩
      · simp [settingLine, Option.mem_def.mp hc, hblank]
      · rw [getLast?_settingLine key hne]
        exact ((Text.trim_eq_self_iff _).mp hvalue.1).2
    · calc Text.trim (' ' :: value.toList) = Text.trim value.toList := rfl
        _ = value.toList := hvalue.1

/-- A written setting is read as it was meant. -/
theorem settingLine_reads {key value : String} (hkey : key ∈ knownKeys)
    (hvalue : IsLine value.toList) :
    '=' ∈ Text.trim (settingLine key value) ∧
      settingKey (Text.trim (settingLine key value)) = key.toList ∧
      settingValue (Text.trim (settingLine key value)) = value.toList := by
  obtain ⟨hplain, -, htrim, -, -⟩ := known_key key hkey
  obtain ⟨v, ht, hv⟩ := trim_settingLine hkey hvalue
  have hcut : key.toList ++ ' ' :: '=' :: v = (key.toList ++ [' ']) ++ '=' :: v := by simp
  have hkeyPlain : '=' ∉ key.toList ++ [' '] := by simp [hplain]
  rw [ht, hcut]
  refine ⟨by simp, ?_, ?_⟩
  · unfold settingKey
    rw [takeWhile_ne_append hkeyPlain, htrim]
  · unfold settingValue
    rw [dropWhile_ne_append hkeyPlain]
    exact hv

theorem settingLine_not_comment {key value : String} (hkey : key ∈ knownKeys)
    (hvalue : IsLine value.toList) : ¬ ['/', '/'] <+: Text.trim (settingLine key value) := by
  obtain ⟨-, -, -, -, c, hc, -, hslash⟩ := known_key key hkey
  obtain ⟨v, ht, -⟩ := trim_settingLine hkey hvalue
  obtain ⟨r, hr⟩ := List.head?_eq_some_iff.mp hc
  rw [ht, hr]
  simp [Ne.symm hslash]

/-- A written setting sets its own key, and leaves the others as they are. -/
theorem lastSetting_settingLine {key value : String} (hkey : key ∈ knownKeys)
    (hvalue : IsLine value.toList) (k d : String) :
    lastSetting k [Text.trim (settingLine key value)] d = if key = k then value else d := by
  obtain ⟨he, hk, hv⟩ := settingLine_reads hkey hvalue
  have hiff : IsSettingOf k (Text.trim (settingLine key value)) ↔ key = k := by
    unfold IsSettingOf
    rw [hk, String.toList_inj]
    exact and_iff_right he
  rw [lastSetting_singleton, hv, String.ofList_toList]
  simp only [hiff]

/-! ## Markers and options -/

theorem markerLine_reads {id : String} (hne : id.toList ≠ []) :
    IsMarker (markerLine id) ∧ markerId (markerLine id) = id.toList := by
  have hsize : 3 ≤ (markerLine id).length := by
    have := List.length_pos_iff.mpr hne
    simp only [markerLine, List.length_cons, List.length_append, List.length_nil]
    omega
  refine ⟨⟨rfl, ?_, hsize.trans (length_le_byteSize _)⟩, ?_⟩
  · rw [markerLine, ← List.cons_append, List.getLast?_append_of_ne_nil _ (by simp)]
    rfl
  · simp [markerId, markerLine]

theorem optionLine_reads {o : String × String} (hlabel : o.1.toList ≠ [])
    (hbrace : '}' ∉ o.1.toList.tail) (hne : o.2.toList ≠ []) (htarget : IsLine o.2.toList) :
    IsOption (optionLine o) ∧ optionLabel (optionLine o) = o.1.toList ∧
      optionTarget (optionLine o) = o.2.toList := by
  obtain ⟨c, label, hc⟩ := List.exists_cons_of_ne_nil hlabel
  rw [hc, List.tail_cons] at hbrace
  rw [hc]
  have hline : optionLine o = '{' :: c :: (label ++ '}' :: ' ' :: o.2.toList) := by
    rw [optionLine, hc]
    rfl
  -- The first character of the label is skipped, so that only a later brace could end it.
  have hdrop : (optionLine o).drop 2 = label ++ '}' :: ' ' :: o.2.toList := by
    rw [hline]
    rfl
  have hread : optionTarget (optionLine o) = o.2.toList := by
    unfold optionTarget
    rw [hdrop, dropWhile_ne_append hbrace]
    calc Text.trimLeft (' ' :: o.2.toList) = Text.trimLeft o.2.toList := rfl
      _ = o.2.toList :=
        (Text.trimLeft_eq_self_iff _).mpr ((Text.trim_eq_self_iff _).mp htarget.1).1
  refine ⟨⟨rfl, ?_, ?_⟩, ?_, hread⟩
  · rw [hdrop]
    simp
  · rw [hread]
    exact hne
  · unfold optionLabel
    rw [hdrop, takeWhile_ne_append hbrace, hline]
    rfl

/-- The line of an option is neither trimmed nor cut, and is nothing but an option. -/
theorem optionLine_text {o : String × String} (hlabel : '\n' ∉ o.1.toList)
    (hne : o.2.toList ≠ []) (htarget : IsLine o.2.toList) :
    IsLine (optionLine o) ∧ ¬ ['/', '/'] <+: optionLine o ∧ ¬ IsMarker (optionLine o) := by
  have hlast : (optionLine o).getLast? = o.2.toList.getLast? := by
    have hsplit : optionLine o = ('{' :: (o.1.toList ++ ['}', ' '])) ++ o.2.toList := by
      simp [optionLine]
    rw [hsplit, List.getLast?_append_of_ne_nil _ hne]
  refine ⟨⟨(Text.trim_eq_self_iff _).mpr ⟨?_, ?_⟩, ?_⟩, ?_, ?_⟩
  · intro c hc
    cases hc
    decide
  · rw [hlast]
    exact ((Text.trim_eq_self_iff _).mp htarget.1).2
  · simp [optionLine, hlabel, htarget.2]
  · simp [optionLine]
  · intro hm
    have hhead := hm.1
    simp [optionLine] at hhead

theorem markerLine_text {id : String} (hid : '\n' ∉ id.toList) (hne : id.toList ≠ []) :
    IsLine (markerLine id) ∧ ¬ ['/', '/'] <+: markerLine id := by
  have hlast := (markerLine_reads hne).1.2.1
  refine ⟨⟨(Text.trim_eq_self_iff _).mpr ⟨?_, ?_⟩, ?_⟩, ?_⟩
  · intro c hc
    cases hc
    decide
  · rw [hlast]
    intro c hc
    cases hc
    decide
  · simp [markerLine, hid]
  · simp [markerLine]

/-! ## The texts of a written outline -/

theorem head?_written (ps : List Passage) :
    (ps.flatMap Passage.written).head? = ps.head?.map fun p => markerLine p.id := by
  rcases ps with _ | ⟨p, ps⟩ <;> rfl

theorem header_append {hs ts : List (List Char)} (h : ∀ t ∈ hs, ¬ EndsHeader t)
    (hts : ∀ t ∈ ts.head?, EndsHeader t) :
    headerOf (hs ++ ts) = hs ∧ storyTexts (hs ++ ts) = ts := by
  induction hs with
  | nil =>
    rcases ts with _ | ⟨t, ts⟩
    · exact ⟨rfl, rfl⟩
    · have hend := hts t rfl
      simp [headerOf, storyTexts, hend]
  | cons t hs ih =>
    rw [List.forall_mem_cons] at h
    obtain ⟨h1, h2⟩ := ih h.2
    rw [List.cons_append, headerOf_cons h.1, storyTexts_cons h.1, h1, h2]
    exact ⟨rfl, rfl⟩

namespace Passage.Writable

variable {p : Passage}

/-- The lines between the marker of a passage and the next one are no markers. -/
theorem not_isMarker (hp : p.Writable) :
    ∀ t ∈ p.lines ++ p.options.map optionLine, ¬ IsMarker t := by
  intro t ht
  rcases List.mem_append.mp ht with ht | ht
  · exact (hp.lines t ht).2.2.1
  · obtain ⟨o, ho, rfl⟩ := List.mem_map.mp ht
    exact (optionLine_text (hp.labels o ho).2.1 (hp.targets o ho).1 (hp.targets o ho).2).2.2

/-- Every line is read as it is written. -/
theorem text (hp : p.Writable) : ∀ t ∈ p.written, IsLine t ∧ ¬ ['/', '/'] <+: t := by
  intro t ht
  rcases List.mem_cons.mp ht with rfl | ht
  · exact markerLine_text hp.id_line hp.id_ne
  · rcases List.mem_append.mp ht with ht | ht
    · exact ⟨(hp.lines t ht).1, (hp.lines t ht).2.1⟩
    · obtain ⟨o, ho, rfl⟩ := List.mem_map.mp ht
      obtain ⟨hline, hcomment, -⟩ :=
        optionLine_text (hp.labels o ho).2.1 (hp.targets o ho).1 (hp.targets o ho).2
      exact ⟨hline, hcomment⟩

end Passage.Writable

namespace Outline.Writable

variable {o : Outline}

theorem story_text (ho : o.Writable) :
    ∀ t ∈ o.passages.flatMap Passage.written, IsLine t ∧ ¬ ['/', '/'] <+: t := by
  intro t ht
  obtain ⟨p, hp, ht⟩ := List.mem_flatMap.mp ht
  exact (ho.passages p hp).text t ht

theorem key_of_settings {s : String × String} (hs : s ∈ o.settings) : s.1 ∈ knownKeys := by
  have hkeys : o.settings.map Prod.fst = knownKeys := rfl
  rw [← hkeys]
  exact List.mem_map_of_mem hs

theorem pieces_source (ho : o.Writable) : Text.pieces '\n' o.source.toList = o.written := by
  unfold Outline.source
  rw [String.toList_ofList]
  refine Text.pieces_join (by simp [Outline.written, Outline.settings]) ?_
  intro t ht
  rcases List.mem_append.mp ht with ht | ht
  · obtain ⟨s, hs, rfl⟩ := List.mem_map.mp ht
    obtain ⟨-, hkey, -⟩ := known_key s.1 (key_of_settings hs)
    have hvalue := (ho.settings s hs).2
    simp [settingLine, hkey, hvalue]
  · exact (ho.story_text t ht).1.2

/-- The texts are the trimmed settings and then the passages as they are written. -/
theorem textsOf_source (ho : o.Writable) :
    textsOf o.source.toList =
      o.settings.map (fun s => Text.trim (settingLine s.1 s.2)) ++
        o.passages.flatMap Passage.written := by
  have htrim : (o.passages.flatMap Passage.written).map Text.trim =
      o.passages.flatMap Passage.written := by
    rw [List.map_congr_left fun t ht => (ho.story_text t ht).1.1, List.map_id']
  unfold textsOf
  rw [ho.pieces_source, Outline.written, List.map_append, List.map_map, htrim]
  refine List.filter_eq_self.mpr ?_
  intro t ht
  rw [decide_eq_true_eq]
  rcases List.mem_append.mp ht with ht | ht
  · obtain ⟨s, hs, rfl⟩ := List.mem_map.mp ht
    exact settingLine_not_comment (key_of_settings hs) (ho.settings s hs)
  · exact (ho.story_text t ht).2

/-- The story begins with a marker that ends the header. -/
theorem endsHeader_head (ho : o.Writable) :
    ∀ t ∈ (o.passages.flatMap Passage.written).head?, EndsHeader t := by
  rw [head?_written]
  intro t ht
  obtain ⟨p, hp, rfl⟩ := Option.map_eq_some_iff.mp ht
  have hplain := ho.first_plain p hp
  refine ⟨(markerLine_reads (ho.passages p (List.mem_of_mem_head? hp)).id_ne).1, ?_⟩
  simp [markerLine, hplain]

/-- The header holds the settings, and the story the passages. -/
theorem header_and_story (ho : o.Writable) :
    headerOf (textsOf o.source.toList) =
        o.settings.map (fun s => Text.trim (settingLine s.1 s.2)) ∧
      storyTexts (textsOf o.source.toList) = o.passages.flatMap Passage.written := by
  rw [ho.textsOf_source]
  refine header_append ?_ ho.endsHeader_head
  intro t ht hend
  obtain ⟨s, hs, rfl⟩ := List.mem_map.mp ht
  exact hend.2 (settingLine_reads (key_of_settings hs) (ho.settings s hs)).1

/-- No setting is unknown. -/
theorem known (ho : o.Writable) :
    ∀ t ∈ headerOf (textsOf o.source.toList), ¬ IsUnknownSetting t := by
  intro t ht hunknown
  rw [ho.header_and_story.1] at ht
  obtain ⟨s, hs, rfl⟩ := List.mem_map.mp ht
  have hkey := key_of_settings hs
  exact hunknown.2 s.1 hkey (settingLine_reads hkey (ho.settings s hs)).2.1

end Outline.Writable

/-! ## The passages that are read -/

theorem sectionsOf_append {ts : List (List Char)} (h : ∀ t ∈ ts, ¬ IsMarker t)
    (us : List (List Char)) : sectionsOf (ts ++ us) = sectionsOf us := by
  induction ts with
  | nil => rfl
  | cons t ts ih =>
    rw [List.forall_mem_cons] at h
    rw [List.cons_append, sectionsOf, if_neg h.1]
    exact ih h.2

/-- A section runs to the next marker. -/
theorem takeWhile_section {ts us : List (List Char)} (h : ∀ t ∈ ts, ¬ IsMarker t)
    (hus : ∀ t ∈ us.head?, IsMarker t) : (ts ++ us).takeWhile (fun t => ¬ IsMarker t) = ts := by
  rw [List.takeWhile_append_of_pos (by simpa using h)]
  rcases us with _ | ⟨u, us⟩
  · simp
  · simp [hus u rfl]

/-- Each marker that is written opens a section with what is written of its passage. -/
theorem sectionsOf_written {ps : List Passage} (h : ∀ p ∈ ps, p.Writable) :
    sectionsOf (ps.flatMap Passage.written) =
      ps.map fun p => ⟨p.id.toList, p.lines ++ p.options.map optionLine⟩ := by
  induction ps with
  | nil => rfl
  | cons p ps ih =>
    rw [List.forall_mem_cons] at h
    obtain ⟨hp, hps⟩ := h
    obtain ⟨hm, hid⟩ := markerLine_reads hp.id_ne
    have hnext : ∀ t ∈ (ps.flatMap Passage.written).head?, IsMarker t := by
      rw [head?_written]
      intro t ht
      obtain ⟨q, hq, rfl⟩ := Option.map_eq_some_iff.mp ht
      exact (markerLine_reads (hps q (List.mem_of_mem_head? hq)).id_ne).1
    rw [List.flatMap_cons, Passage.written, List.cons_append, sectionsOf, if_pos hm,
      takeWhile_section hp.not_isMarker hnext, hid, sectionsOf_append hp.not_isMarker, ih hps]
    rfl

theorem pairsOf_lines {ts : List (List Char)} (h : ∀ t ∈ ts, ¬ IsOption t) : pairsOf ts = [] := by
  rw [pairsOf, List.filter_eq_nil_iff.mpr (by simpa using h), List.map_nil]

/-- The options that are written are those that are read. -/
theorem pairsOf_optionLines {os : List (String × String)}
    (h : ∀ o ∈ os, IsOption (optionLine o) ∧ optionLabel (optionLine o) = o.1.toList ∧
      optionTarget (optionLine o) = o.2.toList) : pairsOf (os.map optionLine) = os := by
  induction os with
  | nil => rfl
  | cons o os ih =>
    rw [List.forall_mem_cons] at h
    obtain ⟨⟨ho, hlabel, htarget⟩, hos⟩ := h
    have hone : pairsOf [optionLine o] = [o] := by
      simp [pairsOf, ho, hlabel, htarget]
    calc pairsOf ([optionLine o] ++ os.map optionLine)
        = pairsOf [optionLine o] ++ pairsOf (os.map optionLine) := pairsOf_append ..
      _ = o :: os := by rw [hone, ih hos]; rfl

/-- The passage of the section is the one that was written. -/
theorem Passage.Writable.extendedBy {p : Passage} (hp : p.Writable) :
    ({ id := p.id } : Passage).extendedBy (p.lines ++ p.options.map optionLine) = p := by
  have hlines : ∀ t ∈ p.lines, ¬ IsOption t := fun t ht => (hp.lines t ht).2.2.2
  have hoptions : ∀ o ∈ p.options, IsOption (optionLine o) ∧
      optionLabel (optionLine o) = o.1.toList ∧ optionTarget (optionLine o) = o.2.toList :=
    fun o ho => optionLine_reads (hp.labels o ho).1 (hp.labels o ho).2.2 (hp.targets o ho).1
      (hp.targets o ho).2
  have hkept : (p.lines ++ p.options.map optionLine).filter (fun t => ¬ IsOption t) =
      p.lines := by
    rw [List.filter_append, List.filter_eq_self.mpr, List.filter_eq_nil_iff.mpr, List.append_nil]
    · intro t ht
      obtain ⟨o, ho, rfl⟩ := List.mem_map.mp ht
      simp [(hoptions o ho).1]
    · intro t ht
      simp [hlines t ht]
  unfold Passage.extendedBy
  rw [hkept, pairsOf_append, pairsOf_lines hlines, pairsOf_optionLines hoptions]
  rfl

/-! ## The law -/

/-- What is written is read as it was, by the texts. -/
theorem Outline.Writable.extendedBy {o : Outline} (ho : o.Writable) :
    ({} : Outline).extendedBy (textsOf o.source.toList) = o := by
  obtain ⟨hheader, hstory⟩ := ho.header_and_story
  have hpassages : (sectionsOf (storyTexts (textsOf o.source.toList))).map Section.passage =
      o.passages := by
    rw [hstory, sectionsOf_written ho.passages, List.map_map]
    calc o.passages.map _ = o.passages.map id := by
          refine List.map_congr_left fun p hp => ?_
          simp only [Function.comp_apply, Section.passage, String.ofList_toList]
          exact (ho.passages p hp).extendedBy
      _ = o.passages := List.map_id _
  have hlast : ∀ key d, lastSetting key (headerOf (textsOf o.source.toList)) d =
      if "initialNode" = key then o.start else if "author" = key then o.author
      else if "title" = key then o.title else d := by
    intro key d
    rw [hheader]
    have ht := ho.settings ("title", o.title) (by simp [Outline.settings])
    have ha := ho.settings ("author", o.author) (by simp [Outline.settings])
    have hi := ho.settings ("initialNode", o.start) (by simp [Outline.settings])
    simp only [Outline.settings, List.map_cons, List.map_nil, lastSetting_cons _ _ (_ :: _),
      lastSetting_settingLine (by decide : "title" ∈ knownKeys) ht,
      lastSetting_settingLine (by decide : "author" ∈ knownKeys) ha,
      lastSetting_settingLine (by decide : "initialNode" ∈ knownKeys) hi]
  unfold Outline.extendedBy
  rw [hpassages, hlast, hlast, hlast]
  simp

theorem dropWhile_isEmpty {ts : List (List Char)} (h : ts.head? ≠ some []) :
    ts.dropWhile List.isEmpty = ts := by
  rcases ts with _ | ⟨_ | ⟨c, t⟩, ts⟩
  · rfl
  · exact absurd rfl h
  · rfl

/-- Without empty lines at its ends, a passage has all its lines as its body. -/
theorem Passage.Writable.node {μ : Type} {p : Passage} (hp : p.Writable) :
    (p.node : Node μ) =
      { id := p.id
        text := Producer.constant (String.ofList (Text.join '\n' p.lines))
        options := p.options.map fun o => writtenOption o.1 o.2 } := by
  have hlast : p.lines.reverse.head? ≠ some [] := by
    rw [List.head?_reverse]
    exact hp.last_ne
  have hends : dropEmptyEnds p.lines = p.lines := by
    rw [dropEmptyEnds, dropWhile_isEmpty hp.first_ne, dropWhile_isEmpty hlast,
      List.reverse_reverse]
  rw [Passage.node, Passage.body, hends]

/-- The node to start at is found exactly when it is declared. -/
theorem Outline.initial_run {μ σ : Type} (o : Outline) (h : Host σ) (s : Session μ σ) :
    ((o.story : Story μ).initial o.story.scope).run h s =
      (if o.start ∈ o.ids then .ok o.start else .error (.nodeNotFound o.start), s) := by
  have hfound : (o.story : Story μ).contains o.start = true ↔ o.start ∈ o.ids := by
    rw [Story.contains_iff, Outline.story_nodeIds]
  show (Producer.requireNode o.start (o.story : Story μ).scope).run h s = _
  rw [Producer.requireNode, Script.run_ofExcept, Story.scope_requireNode]
  simp only [hfound]

/-- Under every configuration an outline that can be written reads back as it was, and nothing but
options without a target is warned of. -/
theorem a_written_outline_reads_back {μ σ : Type} {o : Outline} (ho : o.Writable) (c : Config) :
    ∃ p, parse c o.source = .ok p ∧
      p.diagnostics = (if c.warnDangling then p.danglingLinks.map danglingWarning else []) ∧
      p.outline = o ∧
      (p.outline.story : Story μ) =
        { title := o.title
          author := o.author
          nodes := o.passages.map fun q =>
            { id := q.id
              text := Producer.constant (String.ofList (Text.join '\n' q.lines))
              options := q.options.map fun e => writtenOption e.1 e.2 }
          initial := Producer.requireNode o.start } ∧
      ∀ (h : Host σ) (s : Session μ σ),
        ((p.outline.story : Story μ).initial p.outline.story.scope).run h s = (.ok o.start, s) ↔
          o.start ∈ o.ids := by
  have hn : (({} : Outline).extendedBy (textsOf o.source.toList)).ids.Nodup := by
    rw [ho.extendedBy]
    exact ho.ids_nodup
  obtain ⟨p, hp, houtline, hd⟩ := parse_of_texts c ho.known hn
  rw [ho.extendedBy] at houtline
  refine ⟨p, hp, hd, houtline, ?_, ?_⟩
  · rw [houtline, Outline.story, List.map_congr_left fun q hq => (ho.passages q hq).node]
  · intro h s
    rw [houtline, Outline.initial_run]
    by_cases hstart : o.start ∈ o.ids
    · simp [hstart]
    · simp [hstart]

/-- Nearly every line of it looks like one of another kind. -/
def disguised : Outline where
  title := "a = b"
  author := ""
  start := "[=]"
  passages :=
    [{ id := "]"
       lines := ["title = c".toList, [], "\x7bno target\x7d".toList, "[]".toList]
       options := [("\x7d go ", "[=]"), (" ", "\x7bthere\x7d")] },
     { id := "[=]" }]

theorem disguised_reads_back :
    disguised.Writable ∧
      disguised.source = "title = a = b\nauthor = \ninitialNode = [=]\n[]]\ntitle = c\n\n" ++
        "\x7bno target\x7d\n[]\n\x7b\x7d go \x7d [=]\n\x7b \x7d \x7bthere\x7d\n[[=]]" ∧
      ∃ p, parse { unknownKeys := .reject, warnDangling := true } disguised.source = .ok p ∧
        p.outline = disguised := by
  have hwritable : disguised.Writable :=
    ⟨by decide, by decide, by decide, by decide⟩
  obtain ⟨p, hp, -, houtline, -, -⟩ := a_written_outline_reads_back (μ := Unit) (σ := Unit)
    hwritable { unknownKeys := .reject, warnDangling := true }
  exact ⟨hwritable, by rfl, p, hp, houtline⟩

end Gamebook.Source
