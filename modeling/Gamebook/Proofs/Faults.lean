-- Where the reading of a source fails. The first fault decides: an unknown key of the header where
-- those are rejected, or else the first marker that repeats an id. Without a fault every source is
-- read. A passage joins the others only once it is closed, but its id was free when it was opened
-- and has been taken since, so nothing ever fails there.
import Gamebook.Proofs.Links

namespace Gamebook.Source

/-! ## The lines that can be at fault -/

/-- The keys that have a meaning. -/
def knownKeys : List String := ["title", "author", "initialNode"]

/-- A setting whose key has no meaning. -/
def IsUnknownSetting (t : List Char) : Prop :=
  '=' ∈ t ∧ ∀ key ∈ knownKeys, settingKey t ≠ key.toList

instance : DecidablePred IsUnknownSetting := fun _ => inferInstanceAs (Decidable (_ ∧ _))

theorem isUnknownSetting_iff (t : List Char) :
    IsUnknownSetting t ↔ '=' ∈ t ∧ settingKey t ≠ "title".toList ∧
      settingKey t ≠ "author".toList ∧ settingKey t ≠ "initialNode".toList := by
  simp only [IsUnknownSetting, knownKeys, List.mem_cons, List.not_mem_nil, or_false,
    forall_eq_or_imp, forall_eq]

/-- The lines that are no comments. -/
def keptLines (ls : List Line) : List Line := ls.filter fun l => !isComment l.text

/-- The header runs up to the first marker without an equals sign. -/
def headerLines (ls : List Line) : List Line :=
  keptLines (ls.takeWhile fun l => ¬ EndsHeader l.text)

/-- The lines from the end of the header on. -/
def storyLines (ls : List Line) : List Line := ls.dropWhile fun l => ¬ EndsHeader l.text

/-- No setting of the header is to be rejected. -/
def KeysAccepted (u : UnknownKeys) (ls : List Line) : Prop :=
  u = .reject → ∀ l ∈ headerLines ls, ¬ IsUnknownSetting l.text

/-- The markers from the end of the header on. -/
def markerLines (ls : List Line) : List Line := (storyLines ls).filter fun l => IsMarker l.text

/-- The id of a marker line. -/
def Line.id (l : Line) : String := String.ofList (markerId l.text)

/-- The first line to repeat the id of an earlier one. -/
def FirstRepeat (ls : List Line) (l : Line) : Prop :=
  ∃ before after, ls = before ++ l :: after ∧ l.id ∈ before.map Line.id ∧
    (before.map Line.id).Nodup

theorem mem_of_mem_headerLines {ls : List Line} {l : Line} (h : l ∈ headerLines ls) : l ∈ ls :=
  (List.takeWhile_sublist _).mem (List.mem_filter.mp h).1

theorem mem_of_mem_markerLines {ls : List Line} {l : Line} (h : l ∈ markerLines ls) : l ∈ ls :=
  (List.dropWhile_sublist _).mem (List.mem_filter.mp h).1

theorem FirstRepeat.mem {ls : List Line} {l : Line} (h : FirstRepeat ls l) : l ∈ ls := by
  obtain ⟨before, after, rfl, -⟩ := h
  simp

/-- A setting to be rejected has a first one. -/
theorem exists_of_not_keysAccepted {u : UnknownKeys} {ls : List Line}
    (h : ¬ KeysAccepted u ls) :
    u = .reject ∧ ∃ l, (headerLines ls).find? (fun l => IsUnknownSetting l.text) = some l := by
  unfold KeysAccepted at h
  push Not at h
  obtain ⟨hu, l, hl, hunknown⟩ := h
  have hsome : ((headerLines ls).find? fun l => IsUnknownSetting l.text).isSome := by
    rw [List.find?_isSome]
    exact ⟨l, hl, by simpa using hunknown⟩
  exact ⟨hu, Option.isSome_iff_exists.mp hsome⟩

theorem IsMarker.ne_nil {t : List Char} (h : IsMarker t) : t ≠ [] :=
  List.ne_nil_of_mem (List.mem_of_head? h.1)

theorem IsUnknownSetting.ne_nil {t : List Char} (h : IsUnknownSetting t) : t ≠ [] :=
  List.ne_nil_of_mem h.1

theorem IsMarker.not_comment {t : List Char} (h : IsMarker t) : isComment t = false := by
  unfold isComment
  split
  · have := h.1
    cases this
  · rfl

/-- The warning of a setting that is ignored. -/
def keyWarning (l : Line) : Diagnostic where
  severity := .warning
  span := l.span
  line := l.number
  message := ParseError.unknownKeyText (String.ofList (settingKey l.text))
  label := some "ignored"

/-- The warnings of the settings among some lines. -/
def keyWarnings (u : UnknownKeys) (ls : List Line) : List Diagnostic :=
  if u = .warn then (ls.filter fun l => IsUnknownSetting l.text).map keyWarning else []

theorem keyWarnings_append (u : UnknownKeys) (ls ms : List Line) :
    keyWarnings u (ls ++ ms) = keyWarnings u ls ++ keyWarnings u ms := by
  unfold keyWarnings
  split
  · simp
  · rfl

theorem keyWarnings_of_known {u : UnknownKeys} {l : Line} (h : ¬ IsUnknownSetting l.text) :
    keyWarnings u [l] = [] := by
  simp [keyWarnings, h]

/-! ## The header -/

namespace Progress

variable {u : UnknownKeys} {s s' t : Progress} {l : Line} {ls ms : List Line}

/-- The ids that are taken: those of the complete passages and of the open one. -/
def taken (s : Progress) : List String := s.outline.ids ++ s.current.toList.map Passage.id

theorem run_cons (h : step u s l = .ok t) (ls : List Line) : run u s (l :: ls) = run u t ls := by
  unfold run
  rw [List.foldlM_cons, h]
  rfl

theorem run_append (h : run u s ls = .ok t) (ms : List Line) :
    run u s (ls ++ ms) = run u t ms := by
  unfold run at h ⊢
  rw [List.foldlM_append, h]
  rfl

theorem run_stops {e : ParseError} (h : step u s l = .error e) (ls : List Line) :
    run u s (l :: ls) = .error e := by
  unfold run
  rw [List.foldlM_cons, h]
  rfl

theorem setting_rejected (h : IsUnknownSetting l.text) (value : List Char) :
    s.setting .reject l (settingKey l.text) value =
      .error (.unknownKey l.number l.span (String.ofList (settingKey l.text))) := by
  obtain ⟨-, h1, h2, h3⟩ := (isUnknownSetting_iff _).mp h
  simp only [setting, h1, h2, h3, if_false]

/-- A setting that is not rejected takes no id. -/
theorem setting_taken (h : u = .reject → ¬ IsUnknownSetting l.text) (he : '=' ∈ l.text) :
    ∃ t, s.setting u l (settingKey l.text) (settingValue l.text) = .ok t ∧
      t.current = s.current ∧ t.taken = s.taken ∧ t.warnings = s.warnings ++ keyWarnings u [l] := by
  by_cases hu : IsUnknownSetting l.text
  · obtain ⟨-, h1, h2, h3⟩ := (isUnknownSetting_iff _).mp hu
    simp only [setting, h1, h2, h3, if_false]
    cases u with
    | ignore => exact ⟨s, rfl, rfl, rfl, by simp [keyWarnings]⟩
    | warn => exact ⟨_, rfl, rfl, rfl, by simp [keyWarnings, hu, keyWarning]⟩
    | reject => exact absurd hu (h rfl)
  · rw [keyWarnings_of_known hu, List.append_nil]
    unfold setting
    split
    · exact ⟨_, rfl, rfl, rfl, rfl⟩
    · split
      · exact ⟨_, rfl, rfl, rfl, rfl⟩
      · split
        · exact ⟨_, rfl, rfl, rfl, rfl⟩
        · rename_i h1 h2 h3
          exact absurd ((isUnknownSetting_iff _).mpr ⟨he, h1, h2, h3⟩) hu

/-- A header without keys to reject is read, and opens no passage. -/
theorem run_header (hs : s.current = none) (hend : ∀ l ∈ ls, ¬ EndsHeader l.text)
    (hkeys : u = .reject → ∀ l ∈ keptLines ls, ¬ IsUnknownSetting l.text) :
    ∃ t, run u s ls = .ok t ∧ t.current = none ∧ t.taken = s.taken ∧
      t.warnings = s.warnings ++ keyWarnings u (keptLines ls) := by
  induction ls generalizing s with
  | nil => exact ⟨s, rfl, hs, rfl, by simp [keptLines, keyWarnings]⟩
  | cons l ls ih =>
    have hend' : ∀ l ∈ ls, ¬ EndsHeader l.text := fun l hl => hend l (List.mem_cons_of_mem _ hl)
    by_cases hcom : isComment l.text = true
    · have hkept : keptLines (l :: ls) = keptLines ls := by simp [keptLines, hcom]
      rw [hkept] at hkeys ⊢
      rw [run_cons (step_comment hcom)]
      exact ih hs hend' hkeys
    rw [Bool.not_eq_true] at hcom
    have hkept : keptLines (l :: ls) = [l] ++ keptLines ls := by simp [keptLines, hcom]
    rw [hkept] at hkeys
    have hkeys' : u = .reject → ∀ l ∈ keptLines ls, ¬ IsUnknownSetting l.text :=
      fun hu l hl => hkeys hu l (List.mem_append_right _ hl)
    rw [hkept, keyWarnings_append]
    by_cases he : '=' ∈ l.text
    · have hl : u = .reject → ¬ IsUnknownSetting l.text := fun hu => hkeys hu l (by simp)
      obtain ⟨t, ht, hc, htaken, hw⟩ := setting_taken (s := s) hl he
      obtain ⟨t', hrun, hc', htaken', hw'⟩ := ih (hc.trans hs) hend' hkeys'
      rw [← step_setting hcom hs he] at ht
      rw [run_cons ht]
      exact ⟨t', hrun, hc', htaken'.trans htaken, by rw [hw', hw, List.append_assoc]⟩
    · have hm : ¬ IsMarker l.text := fun hm => hend l (by simp) ⟨hm, he⟩
      have hknown : ¬ IsUnknownSetting l.text := fun h => he h.1
      rw [run_cons (step_dropped hcom hs he hm), keyWarnings_of_known hknown]
      exact ih hs hend' hkeys'

/-! ## The passages -/

/-- The open passage can join the complete ones: its id was free. -/
theorem insert_current {p : Passage} (hn : s.taken.Nodup) (hp : s.current = some p) :
    s.outline.insert p = .ok { s.outline with passages := s.outline.passages ++ [p] } := by
  unfold taken at hn
  rw [hp] at hn
  have hfree : ¬ s.outline.declares p.id = true := by
    rw [Outline.declares_iff]
    intro hmem
    exact List.disjoint_of_nodup_append hn hmem (by simp)
  exact if_neg hfree

theorem close_taken (hn : s.taken.Nodup) (n : Nat) (sp : Span) :
    ∃ t, s.close n sp = .ok t ∧ t.current = none ∧ t.taken = s.taken ∧ t.warnings = s.warnings := by
  unfold close
  rcases hc : s.current with _ | p
  · exact ⟨s, rfl, hc, rfl, rfl⟩
  · simp only [insert_current hn hc]
    exact ⟨_, rfl, rfl, by simp [taken, hc, Outline.ids], rfl⟩

theorem extend_taken {p : Passage} (hs : s.current = some p) (l : Line) :
    (s.extend p l).current.isSome ∧ (s.extend p l).taken = s.taken ∧
      (s.extend p l).warnings = s.warnings := by
  obtain ⟨ho, hc, -⟩ := extend_eq s p l
  have htaken : (s.extend p l).taken = s.taken := by
    simp [taken, ho, hc, hs, Passage.extendedBy]
  have hw : (s.extend p l).warnings = s.warnings := by
    unfold extend
    split
    · rfl
    · rfl
  exact ⟨by rw [hc]; rfl, htaken, hw⟩

theorem start_eq (hs : s.current = none) (l : Line) (id : String) :
    s.start l id =
      if id ∈ s.taken then .error (.story l.number l.span (.duplicateNode id))
      else .ok { s with current := some { id } } := by
  have htaken : s.taken = s.outline.ids := by simp [taken, hs]
  unfold start
  rw [htaken]
  simp only [Outline.declares_iff]

/-- A marker opens a passage if its id is free, and repeats the id if it is taken. -/
theorem step_marker_taken (hplain : s.current = none → '=' ∉ l.text) (hm : IsMarker l.text)
    (hn : s.taken.Nodup) :
    (l.id ∈ s.taken ∧
      step u s l = .error (.story l.number l.span (.duplicateNode l.id))) ∨
    (l.id ∉ s.taken ∧ ∃ t, step u s l = .ok t ∧ t.current.isSome ∧
      t.taken = s.taken ++ [l.id] ∧ t.warnings = s.warnings) := by
  obtain ⟨t, ht, hc, htaken, hw⟩ := close_taken hn l.number l.span
  have hstep : step u s l = t.start l l.id := by
    rw [step_marker hm.not_comment hplain hm, ht]
    rfl
  rw [hstep, start_eq hc, htaken]
  by_cases hid : l.id ∈ s.taken
  · exact Or.inl ⟨hid, if_pos hid⟩
  · refine Or.inr ⟨hid, _, if_neg hid, rfl, ?_, hw⟩
    rw [← htaken]
    simp [taken, hc]

/-- Where a passage is open, a marker may have an equals sign. -/
theorem plain_of_open (hs : s.current.isSome) : s.current = none → '=' ∉ l.text := by
  intro hnone
  rw [hnone] at hs
  cases hs

/-- From an open passage on, markers with free ids are read, and take them. -/
theorem run_passages (hs : s.current.isSome)
    (hn : (s.taken ++ (ls.filter fun l => IsMarker l.text).map Line.id).Nodup) :
    ∃ t, run u s ls = .ok t ∧ t.current.isSome ∧
      t.taken = s.taken ++ (ls.filter fun l => IsMarker l.text).map Line.id ∧
      t.warnings = s.warnings := by
  induction ls generalizing s with
  | nil => exact ⟨s, rfl, hs, by simp, rfl⟩
  | cons l ls ih =>
    by_cases hm : IsMarker l.text
    · have hids : ((l :: ls).filter fun l => IsMarker l.text).map Line.id =
          [l.id] ++ (ls.filter fun l => IsMarker l.text).map Line.id := by simp [hm]
      rw [hids, ← List.append_assoc] at hn ⊢
      have hfree := (List.nodup_append.mp hn).1
      have hold := (List.nodup_append.mp hfree).1
      rcases step_marker_taken (u := u) (plain_of_open hs) hm hold with
        ⟨hid, -⟩ | ⟨-, t, ht, hc, htaken, hw⟩
      · exact absurd (List.mem_singleton_self l.id) (List.disjoint_of_nodup_append hfree hid)
      · rw [← htaken] at hn ⊢
        rw [run_cons ht, ← hw]
        exact ih hc hn
    · have hids : (l :: ls).filter (fun l => IsMarker l.text) =
          ls.filter fun l => IsMarker l.text := by simp [hm]
      rw [hids] at hn ⊢
      by_cases hcom : isComment l.text = true
      · rw [run_cons (step_comment hcom)]
        exact ih hs hn
      · rw [Bool.not_eq_true] at hcom
        obtain ⟨p, hp⟩ := Option.isSome_iff_exists.mp hs
        obtain ⟨hc, htaken, hw⟩ := extend_taken hp l
        rw [run_cons (step_extend hcom hp hm), ← htaken, ← hw]
        rw [← htaken] at hn
        exact ih hc hn

/-- From an open passage on, the first marker whose id is taken ends the reading. -/
theorem run_repeat {before after : List Line} (hs : s.current.isSome)
    (hl : (ls.filter fun l => IsMarker l.text) = before ++ l :: after)
    (hn : (s.taken ++ before.map Line.id).Nodup) (hid : l.id ∈ s.taken ++ before.map Line.id) :
    run u s ls = .error (.story l.number l.span (.duplicateNode l.id)) := by
  obtain ⟨read, rest, rfl, rfl, hrest⟩ := List.filter_eq_append_iff.mp hl
  obtain ⟨texts, rest, rfl, htexts, hm, -⟩ := List.filter_eq_cons_iff.mp hrest
  have hids : ((read ++ texts).filter fun l => IsMarker l.text) =
      read.filter fun l => IsMarker l.text := by
    rw [List.filter_append, List.filter_eq_nil_iff.mpr htexts, List.append_nil]
  rw [← hids] at hn hid
  obtain ⟨t, ht, hc, htaken, -⟩ := run_passages (u := u) hs hn
  rw [← htaken] at hn hid
  rw [← List.append_assoc, run_append ht]
  rcases step_marker_taken (u := u) (plain_of_open hc) (by simpa using hm) hn with
    ⟨-, hstep⟩ | ⟨hfree, -⟩
  · exact run_stops hstep rest
  · exact absurd hid hfree

/-! ## Whole sources -/

/-- Nothing is taken before the end of a header without keys to reject. -/
theorem run_to_story (hkeys : KeysAccepted u ls) :
    ∃ t, t.taken = [] ∧ t.warnings = keyWarnings u (headerLines ls) ∧
      run u {} ls = run u t (storyLines ls) := by
  have hend : ∀ l ∈ ls.takeWhile fun l => ¬ EndsHeader l.text, ¬ EndsHeader l.text := by
    intro l hl
    simpa using List.mem_takeWhile_imp hl
  obtain ⟨t, ht, -, htaken, hw⟩ := run_header (s := {}) rfl hend hkeys
  refine ⟨t, htaken, hw, ?_⟩
  have hsplit : (ls.takeWhile fun l => ¬ EndsHeader l.text) ++ storyLines ls = ls :=
    List.takeWhile_append_dropWhile
  rw [← run_append ht, hsplit]

/-- The story begins with a marker without an equals sign. -/
theorem storyLines_cons {rest : List Line} (h : storyLines ls = l :: rest) :
    EndsHeader l.text := by
  have hhead := List.head?_dropWhile_not (fun l : Line => decide (¬ EndsHeader l.text)) ls
  unfold storyLines at h
  rw [h] at hhead
  simpa using hhead

/-- The first marker opens a passage, and its id is taken. -/
theorem step_opens (htaken : s.taken = []) (hl : EndsHeader l.text) :
    ∃ t, step u s l = .ok t ∧ t.current.isSome ∧ t.taken = [l.id] ∧ t.warnings = s.warnings := by
  have hn : s.taken.Nodup := by simp [htaken]
  rcases step_marker_taken (u := u) (fun _ => hl.2) hl.1 hn with ⟨hid, -⟩ | ⟨-, t, ht, hc, h, hw⟩
  · rw [htaken] at hid
    cases hid
  · rw [htaken] at h
    exact ⟨t, ht, hc, h, hw⟩

/-- Without a fault all lines are read, and each marker takes its id. -/
theorem run_reads (hkeys : KeysAccepted u ls)
    (hn : ((markerLines ls).map Line.id).Nodup) :
    ∃ t, run u {} ls = .ok t ∧ t.taken = (markerLines ls).map Line.id ∧
      t.warnings = keyWarnings u (headerLines ls) := by
  obtain ⟨s, htaken, hw, hrun⟩ := run_to_story hkeys
  rw [hrun, ← hw]
  unfold markerLines at hn ⊢
  rcases hstory : storyLines ls with _ | ⟨l, rest⟩
  · exact ⟨s, rfl, htaken, rfl⟩
  · have hl := storyLines_cons hstory
    obtain ⟨t, ht, hopen, hid, hw'⟩ := step_opens (u := u) htaken hl
    have hids : ((l :: rest).filter fun l => IsMarker l.text).map Line.id =
        t.taken ++ (rest.filter fun l => IsMarker l.text).map Line.id := by
      simp [hl.1, hid]
    rw [hstory, hids] at hn
    obtain ⟨r, hr, -, htaken', hw''⟩ := run_passages (u := u) hopen hn
    rw [run_cons ht, hids]
    exact ⟨r, hr, htaken', hw''.trans hw'⟩

/-- Without a key to reject, the first marker that repeats an id ends the reading. -/
theorem run_repeats (hkeys : KeysAccepted u ls)
    (hl : FirstRepeat (markerLines ls) l) :
    run u {} ls = .error (.story l.number l.span (.duplicateNode l.id)) := by
  obtain ⟨s, htaken, -, hrun⟩ := run_to_story hkeys
  obtain ⟨before, after, hsplit, hid, hn⟩ := hl
  rw [hrun]
  unfold markerLines at hsplit
  rcases hstory : storyLines ls with _ | ⟨m, rest⟩
  · rw [hstory] at hsplit
    simp at hsplit
  · have hm := storyLines_cons hstory
    obtain ⟨t, ht, hopen, htook, -⟩ := step_opens (u := u) htaken hm
    rw [hstory, List.filter_cons_of_pos (by simpa using hm.1)] at hsplit
    -- What repeats an id is not the first marker, which opened a passage.
    rcases before with _ | ⟨b, before⟩
    · cases hid
    · rw [List.cons_append] at hsplit
      obtain ⟨rfl, hrest⟩ := List.cons.inj hsplit
      rw [run_cons ht]
      have hids : (m :: before).map Line.id = t.taken ++ before.map Line.id := by simp [htook]
      rw [hids] at hn hid
      exact run_repeat hopen hrest hn hid

/-- The first setting whose key is to be rejected ends the reading. -/
theorem run_rejects (hl : (headerLines ls).find? (fun l => IsUnknownSetting l.text) = some l) :
    run .reject {} ls =
      .error (.unknownKey l.number l.span (String.ofList (settingKey l.text))) := by
  unfold headerLines keptLines at hl
  rw [List.find?_filter, List.find?_eq_some_iff_append] at hl
  obtain ⟨hl, before, after, hsplit, hbefore⟩ := hl
  simp only [Bool.not_eq_true', decide_eq_true_eq] at hl
  obtain ⟨hcom, hunknown⟩ := hl
  have hmem : ∀ m ∈ before, m ∈ ls.takeWhile fun l => ¬ EndsHeader l.text := by
    intro m hm
    rw [hsplit]
    exact List.mem_append_left _ hm
  have hend : ∀ m ∈ before, ¬ EndsHeader m.text := by
    intro m hm
    simpa using List.mem_takeWhile_imp (hmem m hm)
  have hkeys : UnknownKeys.reject = .reject →
      ∀ m ∈ keptLines before, ¬ IsUnknownSetting m.text := by
    intro _ m hm
    obtain ⟨hm, hkept⟩ := List.mem_filter.mp hm
    have := hbefore m hm
    simp_all
  obtain ⟨t, ht, hc, -, -⟩ := run_header (s := {}) rfl hend hkeys
  have hstory : ls = before ++ l :: (after ++ storyLines ls) := by
    calc ls = (ls.takeWhile fun l => ¬ EndsHeader l.text) ++ storyLines ls :=
          List.takeWhile_append_dropWhile.symm
      _ = before ++ l :: (after ++ storyLines ls) := by rw [hsplit, List.append_assoc]; rfl
  have hstep : step .reject t l =
      .error (.unknownKey l.number l.span (String.ofList (settingKey l.text))) := by
    rw [step_setting hcom hc hunknown.1, setting_rejected hunknown]
  rw [hstory, run_append ht]
  exact run_stops hstep _

/-- No line makes two ids the same. -/
theorem step_nodup (hn : s.taken.Nodup) (hk : step u s l = .ok t) : t.taken.Nodup := by
  cases took_of_step hk with
  | comment h => exact hn
  | setting h hs he hset =>
    obtain ⟨hc, -, ho⟩ := setting_ok he hset
    have htaken : t.taken = s.taken := by
      simp [taken, hc, ho, Outline.ids, Outline.afterHeaderText]
    rw [htaken]
    exact hn
  | marker h hplain hm hclose =>
    rcases step_marker_taken (u := u) hplain hm hn with ⟨-, hstep⟩ | ⟨hid, r, hstep, -, htaken, -⟩
    · rw [hk] at hstep
      cases hstep
    · rw [hk] at hstep
      cases hstep
      rw [htaken, ← List.concat_eq_append]
      exact List.Nodup.concat hid hn
  | extend h hs hm =>
    rw [(extend_taken hs l).2.1]
    exact hn
  | dropped h hs he hm => exact hn

theorem run_nodup (hn : s.taken.Nodup) (h : run u s ls = .ok t) : t.taken.Nodup := by
  induction ls generalizing s with
  | nil =>
    cases h
    exact hn
  | cons l ls ih =>
    rcases hk : step u s l with e | r
    · rw [run_stops hk] at h
      cases h
    · rw [run_cons hk] at h
      exact ih (step_nodup hn hk) h

end Progress

/-! ## What becomes of a source -/

theorem FirstRepeat.not_nodup {ls : List Line} {l : Line} (h : FirstRepeat ls l) :
    ¬ (ls.map Line.id).Nodup := by
  obtain ⟨before, after, rfl, hid, -⟩ := h
  rw [List.map_append, List.map_cons]
  intro hn
  exact List.disjoint_of_nodup_append hn hid (by simp)

/-- Lines with distinct ids have none that repeats one, and all others have a first one. -/
theorem repeats_or_nodup (ls : List Line) :
    (∃ l, FirstRepeat ls l) ∨ (ls.map Line.id).Nodup := by
  induction ls using List.reverseRecOn with
  | nil => exact Or.inr List.nodup_nil
  | append_singleton ls l ih =>
    rcases ih with ⟨m, before, after, rfl, hid, hn⟩ | hn
    · exact Or.inl ⟨m, before, after ++ [l], by simp, hid, hn⟩
    · by_cases hid : l.id ∈ ls.map Line.id
      · exact Or.inl ⟨l, ls, [], rfl, hid, hn⟩
      · refine Or.inr ?_
        rw [List.map_append, List.map_singleton, ← List.concat_eq_append]
        exact List.Nodup.concat hid hn

theorem parse_stops {c : Config} {source : String} {e : ParseError}
    (h : Progress.run c.unknownKeys {} (linesOf source.toList) = .error e) :
    parse c source = .error e := by
  unfold parse
  rw [h]
  rfl

theorem parse_rejects {c : Config} {source : String} {l : Line} (hu : c.unknownKeys = .reject)
    (hl : (headerLines (linesOf source.toList)).find? (fun l => IsUnknownSetting l.text) = some l) :
    parse c source = .error (.unknownKey l.number l.span (String.ofList (settingKey l.text))) := by
  have hrun := Progress.run_rejects hl
  rw [← hu] at hrun
  exact parse_stops hrun

theorem parse_repeats {c : Config} {source : String} {l : Line}
    (hkeys : KeysAccepted c.unknownKeys (linesOf source.toList))
    (hl : FirstRepeat (markerLines (linesOf source.toList)) l) :
    parse c source = .error (.story l.number l.span (.duplicateNode l.id)) :=
  parse_stops (Progress.run_repeats hkeys hl)

/-- Without a fault a source is read, and all warnings are of ignored settings and of links. -/
theorem parse_reads {c : Config} {source : String}
    (hkeys : KeysAccepted c.unknownKeys (linesOf source.toList))
    (hn : ((markerLines (linesOf source.toList)).map Line.id).Nodup) :
    ∃ p, parse c source = .ok p ∧
      p.diagnostics = keyWarnings c.unknownKeys (headerLines (linesOf source.toList)) ++
        if c.warnDangling then p.danglingLinks.map danglingWarning else [] := by
  obtain ⟨s, hs, htaken, hw⟩ := Progress.run_reads hkeys hn
  rw [← htaken] at hn
  obtain ⟨t, ht, -, -, hw'⟩ := Progress.close_taken hn 0
    ⟨Text.byteSize source.toList, Text.byteSize source.toList⟩
  rw [← hw, ← hw']
  refine ⟨Parsed.warned c { outline := t.outline, links := t.links, diagnostics := t.warnings },
    ?_, ?_⟩
  · unfold parse
    simp only [hs, bind, Except.bind, ht]
    rfl
  · unfold Parsed.warned
    split
    · rfl
    · simp

/-! ## The same by the texts -/

theorem headerLines_text (ls : List Line) :
    (headerLines ls).map Line.text = headerOf (textsIn ls) := by
  induction ls with
  | nil => rfl
  | cons l ls ih =>
    unfold headerLines keptLines headerOf at ih ⊢
    by_cases hend : EndsHeader l.text
    · rw [textsIn_cons hend.1.not_comment]
      simp [hend]
    · rcases hcom : isComment l.text with _ | _
      · rw [textsIn_cons hcom]
        simpa [hend, hcom] using ih
      · rw [textsIn_comment hcom]
        simpa [hend, hcom] using ih

theorem storyLines_text (ls : List Line) :
    textsIn (storyLines ls) = storyTexts (textsIn ls) := by
  induction ls with
  | nil => rfl
  | cons l ls ih =>
    unfold storyLines storyTexts at ih ⊢
    by_cases hend : EndsHeader l.text
    · rw [textsIn_cons hend.1.not_comment]
      simp [hend, textsIn_cons hend.1.not_comment]
    · rcases hcom : isComment l.text with _ | _
      · rw [textsIn_cons hcom]
        simpa [hend] using ih
      · rw [textsIn_comment hcom]
        simpa [hend] using ih

theorem markers_sections (ls : List Line) :
    (ls.filter fun l => IsMarker l.text).map Line.id =
      (sectionsOf (textsIn ls)).map fun s => String.ofList s.id := by
  induction ls with
  | nil => rfl
  | cons l ls ih =>
    by_cases hm : IsMarker l.text
    · rw [textsIn_cons hm.not_comment]
      simp [hm, sectionsOf, ih, Line.id]
    · rcases hcom : isComment l.text with _ | _
      · rw [textsIn_cons hcom]
        simpa [hm, sectionsOf] using ih
      · rw [textsIn_comment hcom]
        simpa [hm] using ih

/-- The ids of the markers are those of the passages that are read. -/
theorem markerLines_ids (ls : List Line) :
    (markerLines ls).map Line.id = (({} : Outline).extendedBy (textsIn ls)).ids := by
  unfold markerLines
  rw [markers_sections, storyLines_text]
  simp [Outline.ids, Outline.extendedBy, Section.passage, Passage.extendedBy]

/-- Texts without unknown settings and repeated ids are read, and nothing is ignored. -/
theorem parse_of_texts (c : Config) {source : String}
    (hkeys : ∀ t ∈ headerOf (textsOf source.toList), ¬ IsUnknownSetting t)
    (hn : (({} : Outline).extendedBy (textsOf source.toList)).ids.Nodup) :
    ∃ p, parse c source = .ok p ∧
      p.outline = ({} : Outline).extendedBy (textsOf source.toList) ∧
      p.diagnostics = if c.warnDangling then p.danglingLinks.map danglingWarning else [] := by
  rw [← textsIn_linesOf] at hkeys hn
  rw [← markerLines_ids] at hn
  have hknown : ∀ l ∈ headerLines (linesOf source.toList), ¬ IsUnknownSetting l.text := by
    intro l hl
    apply hkeys
    rw [← headerLines_text]
    exact List.mem_map_of_mem hl
  obtain ⟨p, hp, hd⟩ := parse_reads (c := c) (fun _ => hknown) hn
  have hsilent : keyWarnings c.unknownKeys (headerLines (linesOf source.toList)) = [] := by
    unfold keyWarnings
    rw [List.filter_eq_nil_iff.mpr (by simpa using hknown)]
    simp
  rw [hsilent, List.nil_append] at hd
  exact ⟨p, hp, (parse_ok hp).1, hd⟩

/-! ## The law -/

/-- An error is that of the first setting to be rejected or of the first marker to repeat an id. -/
theorem parse_error_cases {c : Config} {source : String} {e : ParseError}
    (h : parse c source = .error e) :
    (∃ l, (headerLines (linesOf source.toList)).find? (fun l => IsUnknownSetting l.text) = some l ∧
      e = .unknownKey l.number l.span (String.ofList (settingKey l.text))) ∨
    ∃ l, FirstRepeat (markerLines (linesOf source.toList)) l ∧
      e = .story l.number l.span (.duplicateNode l.id) := by
  by_cases hkeys : KeysAccepted c.unknownKeys (linesOf source.toList)
  · rcases repeats_or_nodup (markerLines (linesOf source.toList)) with ⟨l, hl⟩ | hn
    · rw [parse_repeats hkeys hl] at h
      exact Or.inr ⟨l, hl, (Except.error.inj h).symm⟩
    · obtain ⟨p, hp, -⟩ := parse_reads hkeys hn
      rw [hp] at h
      cases h
  · obtain ⟨hu, l, hl⟩ := exists_of_not_keysAccepted hkeys
    rw [parse_rejects hu hl] at h
    exact Or.inl ⟨l, hl, (Except.error.inj h).symm⟩

/-- Every error is at the place of a line, which is not blank. -/
theorem line_of_parse_error {c : Config} {source : String} {e : ParseError}
    (h : parse c source = .error e) :
    ∃ l ∈ linesOf source.toList, l.text ≠ [] ∧ ∃ d, e.diagnostic? = some d ∧ d.line = l.number ∧
      d.span = l.span := by
  rcases parse_error_cases h with ⟨l, hl, rfl⟩ | ⟨l, hl, rfl⟩
  · have hunknown : IsUnknownSetting l.text := by simpa using List.find?_some hl
    exact ⟨l, mem_of_mem_headerLines (List.mem_of_find?_eq_some hl), hunknown.ne_nil, _, rfl, rfl,
      rfl⟩
  · have hm : IsMarker l.text := by simpa using (List.mem_filter.mp hl.mem).2
    exact ⟨l, mem_of_mem_markerLines hl.mem, hm.ne_nil, _, rfl, rfl, rfl⟩

theorem place_of_parse_error {c : Config} {source : String} {e : ParseError}
    (h : parse c source = .error e) :
    ∃ l ∈ linesOf source.toList, ∃ d, e.diagnostic? = some d ∧ d.line = l.number ∧
      d.span = l.span := by
  obtain ⟨l, hl, -, hplace⟩ := line_of_parse_error h
  exact ⟨l, hl, hplace⟩

/-- The first setting to be rejected is the error; without one the first marker to repeat an id is
it, and without either the source is read. Nothing fails where passages are completed, so every
error is at the place of its line. -/
theorem a_source_fails_at_its_first_fault (c : Config) (source : String) :
    (∀ l, c.unknownKeys = .reject →
      (headerLines (linesOf source.toList)).find? (fun l => IsUnknownSetting l.text) = some l →
        parse c source =
          .error (.unknownKey l.number l.span (String.ofList (settingKey l.text)))) ∧
    (KeysAccepted c.unknownKeys (linesOf source.toList) →
      (∀ l, FirstRepeat (markerLines (linesOf source.toList)) l →
        parse c source = .error (.story l.number l.span (.duplicateNode l.id))) ∧
      ((∀ l, ¬ FirstRepeat (markerLines (linesOf source.toList)) l) →
        ∃ p, parse c source = .ok p)) ∧
    (∀ ls s p, ls <+: linesOf source.toList → Progress.run c.unknownKeys {} ls = .ok s →
      s.current = some p → ∃ o, s.outline.insert p = .ok o) ∧
    (∀ e, parse c source = .error e → ∃ d, e.diagnostic? = some d ∧ 1 ≤ d.line ∧
      ∃ l ∈ linesOf source.toList, d.line = l.number ∧ d.span = l.span) ∧
    ∀ l ∈ linesOf source.toList, l.StandsIn source.toList := by
  refine ⟨fun l hu hl => parse_rejects hu hl, ?_, ?_, ?_, linesOf_stands _⟩
  · refine fun hkeys => ⟨fun l hl => parse_repeats hkeys hl, fun hnone => ?_⟩
    have hn := (repeats_or_nodup _).resolve_left fun ⟨l, hl⟩ => hnone l hl
    obtain ⟨p, hp, -⟩ := parse_reads hkeys hn
    exact ⟨p, hp⟩
  · intro ls s p _ hs hp
    have hstart : ({} : Progress).taken.Nodup := List.nodup_nil
    exact ⟨_, Progress.insert_current (Progress.run_nodup hstart hs) hp⟩
  · intro e he
    obtain ⟨l, hl, d, hd, hline, hspan⟩ := place_of_parse_error he
    obtain ⟨_, _, -, -, -, -, hnumber, -⟩ := linesOf_stands _ l hl
    exact ⟨d, hd, by omega, l, hl, hline, hspan⟩

/-- A marker with an equals sign is a setting of the header, and no marker of the story. -/
def faultySource : String := "// tile = x\ntitle = T\n[a=b]\ntile = X\n[1]\nx = y\n[1]\n[2]\n[1]"

theorem the_first_fault_depends_on_the_rejected_keys :
    parse { unknownKeys := .reject } faultySource =
        .error (.unknownKey 3 ⟨22, 27⟩ "[a") ∧
      parse { unknownKeys := .warn } faultySource =
        .error (.story 7 ⟨47, 50⟩ (.duplicateNode "1")) ∧
      ∃ p, parse { unknownKeys := .reject, warnDangling := true } roundTripSource = .ok p := by
  obtain ⟨h1, -⟩ := a_source_fails_at_its_first_fault { unknownKeys := .reject } faultySource
  obtain ⟨-, h2, -⟩ := a_source_fails_at_its_first_fault { unknownKeys := .warn } faultySource
  obtain ⟨-, h3, -⟩ := a_source_fails_at_its_first_fault
    { unknownKeys := .reject, warnDangling := true } roundTripSource
  have hrepeat : FirstRepeat (markerLines (linesOf faultySource.toList))
      ⟨7, ⟨47, 50⟩, "[1]".toList⟩ :=
    ⟨[⟨5, ⟨37, 40⟩, "[1]".toList⟩],
      [⟨8, ⟨51, 54⟩, "[2]".toList⟩, ⟨9, ⟨55, 58⟩, "[1]".toList⟩], by rfl, by decide, by decide⟩
  refine ⟨h1 ⟨3, ⟨22, 27⟩, "[a=b]".toList⟩ rfl (by rfl), ?_, ?_⟩
  · exact (h2 fun hu => nomatch hu).1 _ hrepeat
  · refine (h3 ?_).2 ?_
    · intro _
      decide
    · intro l hl
      exact hl.not_nodup (by decide)

end Gamebook.Source
