-- Which markers declare a node. From the end of the header on every marker does, whatever its id is
-- made of. Before it a marker has an equals sign, and is taken for a setting of a key that has no
-- meaning: its node is lost, with what is written below it up to the end of the header.
import Gamebook.Proofs.Positions

namespace Gamebook.Source

/-! ## Markers of the header -/

/-- The lines of a source that are markers. -/
def allMarkers (ls : List Line) : List Line := ls.filter fun l => IsMarker l.text

/-- The markers before the end of the header. -/
def headerMarkers (ls : List Line) : List Line := (headerLines ls).filter fun l => IsMarker l.text

/-- A marker is no comment, so none is left out. -/
theorem markers_keptLines (ls : List Line) :
    (keptLines ls).filter (fun l => IsMarker l.text) = allMarkers ls := by
  unfold keptLines allMarkers
  rw [List.filter_filter]
  apply List.filter_congr
  intro l _
  by_cases hm : IsMarker l.text
  · simp [hm, hm.not_comment]
  · simp [hm]

theorem allMarkers_eq (ls : List Line) : allMarkers ls = headerMarkers ls ++ markerLines ls := by
  calc allMarkers ls
      = allMarkers (ls.takeWhile (fun l => ¬ EndsHeader l.text) ++ storyLines ls) := by
        rw [storyLines, List.takeWhile_append_dropWhile]
    _ = allMarkers (ls.takeWhile fun l => ¬ EndsHeader l.text) ++ markerLines ls :=
        List.filter_append ..
    _ = headerMarkers ls ++ markerLines ls := by
        rw [headerMarkers, headerLines, markers_keptLines]

/-- The key that a marker is taken for has its bracket, as no key with a meaning has. -/
theorem IsMarker.isUnknownSetting {t : List Char} (hm : IsMarker t) (he : '=' ∈ t) :
    IsUnknownSetting t := by
  obtain ⟨r, rfl⟩ := List.head?_eq_some_iff.mp hm.1
  have hbracket : '[' ∈ settingKey ('[' :: r) := Text.mem_trim (by simp) (by decide)
  refine ⟨he, fun key hkey heq => ?_⟩
  rw [heq] at hbracket
  have hplain : ∀ key ∈ knownKeys, '[' ∉ key.toList := by decide
  exact hplain key hkey hbracket

/-- Only an equals sign keeps a marker from ending the header. -/
theorem unknown_of_headerMarker {ls : List Line} {l : Line} (h : l ∈ headerMarkers ls) :
    IsUnknownSetting l.text := by
  unfold headerMarkers headerLines at h
  rw [markers_keptLines] at h
  obtain ⟨hheader, hm⟩ := List.mem_filter.mp h
  have hm : IsMarker l.text := by simpa using hm
  have hopen : ¬ EndsHeader l.text := by simpa using List.mem_takeWhile_imp hheader
  exact hm.isUnknownSetting (not_not.mp fun he => hopen ⟨hm, he⟩)

/-- The marker that ends the header has no equals sign. -/
theorem head_markerLines {ls : List Line} {l : Line} (h : (markerLines ls).head? = some l) :
    '=' ∉ l.text := by
  unfold markerLines at h
  rcases hstory : storyLines ls with _ | ⟨first, rest⟩
  · simp [hstory] at h
  · have hends := Progress.storyLines_cons hstory
    rw [hstory, List.filter_cons_of_pos (by simpa using hends.1)] at h
    cases h
    exact hends.2

/-- The first marker tells whether the header has any. -/
theorem headerMarkers_eq_nil_iff (ls : List Line) :
    headerMarkers ls = [] ↔ ∀ l, (allMarkers ls).head? = some l → '=' ∉ l.text := by
  rw [allMarkers_eq]
  constructor
  · intro hnone l hl
    rw [hnone, List.nil_append] at hl
    exact head_markerLines hl
  · intro hfirst
    rcases hmarkers : headerMarkers ls with _ | ⟨l, rest⟩
    · rfl
    · have hl : l ∈ headerMarkers ls := by simp [hmarkers]
      exact absurd (unknown_of_headerMarker hl).1 (hfirst l (by simp [hmarkers]))

/-- Where settings without a meaning are rejected, a source that is read has none. -/
theorem headerMarkers_of_reject {c : Config} {source : String} {p : Parsed}
    (h : parse c source = .ok p) (hu : c.unknownKeys = .reject) :
    headerMarkers (linesOf source.toList) = [] := by
  rw [List.eq_nil_iff_forall_not_mem]
  intro l hl
  exact parse_keysAccepted h hu l (List.mem_of_mem_filter hl) (unknown_of_headerMarker hl)

theorem warned_of_headerMarker {c : Config} {source : String} {p : Parsed} {l : Line}
    (h : parse c source = .ok p) (hu : c.unknownKeys = .warn)
    (hl : l ∈ headerMarkers (linesOf source.toList)) : keyWarning l ∈ p.diagnostics := by
  rw [parse_diagnostics h, keyWarnings, if_pos hu]
  refine List.mem_append_left _ (List.mem_map_of_mem ?_)
  exact List.mem_filter.mpr
    ⟨List.mem_of_mem_filter hl, by simpa using unknown_of_headerMarker hl⟩

/-! ## The law -/

/-- The nodes are the markers from the end of the header on, in their order. A marker before it is
a setting without a meaning, and is warned of where such settings are. So all markers declare their
nodes exactly when the first one has no equals sign, and always where such settings are rejected. -/
theorem the_markers_behind_the_header_declare_the_nodes {μ : Type} {c : Config} {source : String}
    {p : Parsed} (h : parse c source = .ok p) :
    let ls := linesOf source.toList
    let declared := (p.outline.story : Story μ).nodeIds
    declared = (markerLines ls).map Line.id ∧
      allMarkers ls = headerMarkers ls ++ markerLines ls ∧
      (∀ l ∈ allMarkers ls, isComment l.text = false) ∧
      (∀ l ∈ headerMarkers ls, IsUnknownSetting l.text ∧
        (c.unknownKeys = .warn → keyWarning l ∈ p.diagnostics)) ∧
      (declared = (allMarkers ls).map Line.id ↔
        ∀ l, (allMarkers ls).head? = some l → '=' ∉ l.text) ∧
      (c.unknownKeys = .reject → declared = (allMarkers ls).map Line.id) := by
  intro ls declared
  have hdeclared : declared = (markerLines ls).map Line.id := by
    rw [parse_markers h]
    exact p.outline.story_nodeIds
  -- The markers of the header are all that is missing.
  have hall : declared = (allMarkers ls).map Line.id ↔ headerMarkers ls = [] := by
    rw [hdeclared, allMarkers_eq, List.map_append, List.self_eq_append_left, List.map_eq_nil_iff]
  refine ⟨hdeclared, allMarkers_eq ls, ?_, ?_, hall.trans (headerMarkers_eq_nil_iff ls), ?_⟩
  · intro l hl
    have hm : IsMarker l.text := by simpa using (List.mem_filter.mp hl).2
    exact hm.not_comment
  · exact fun l hl => ⟨unknown_of_headerMarker hl, fun hu => warned_of_headerMarker h hu hl⟩
  · exact fun hu => hall.mpr (headerMarkers_of_reject h hu)

/-- Its first and its last marker have an equals sign. -/
def equalsSource : String := "[a=b]\nDark.\n[1]\nLight.\n[c=d]"

def equalsParsed : Parsed where
  outline := { passages := [{ id := "1", lines := ["Light.".toList] }, { id := "c=d" }] }
  links := []
  diagnostics := [keyWarning ⟨1, ⟨0, 5⟩, "[a=b]".toList⟩]

theorem equalsSource_parse : parse { unknownKeys := .warn } equalsSource = .ok equalsParsed := by
  rfl

theorem a_first_marker_with_an_equals_sign_is_lost :
    parse { unknownKeys := .warn } equalsSource = .ok equalsParsed ∧
      (equalsParsed.outline.story : Story Unit).nodeIds = ["1", "c=d"] ∧
      (allMarkers (linesOf equalsSource.toList)).map Line.id = ["a=b", "1", "c=d"] ∧
      keyWarning ⟨1, ⟨0, 5⟩, "[a=b]".toList⟩ ∈ equalsParsed.diagnostics := by
  obtain ⟨hdeclared, hsplit, -, hheader, -⟩ :=
    the_markers_behind_the_header_declare_the_nodes (μ := Unit) equalsSource_parse
  have hlost : headerMarkers (linesOf equalsSource.toList) = [⟨1, ⟨0, 5⟩, "[a=b]".toList⟩] := by
    rfl
  refine ⟨equalsSource_parse, hdeclared, ?_, ?_⟩
  · rw [hsplit]
    rfl
  · exact (hheader _ (by simp [hlost])).2 rfl

theorem not_every_marker_declares_a_node :
    ¬ ∀ (c : Config) (source : String) (p : Parsed), parse c source = .ok p →
      (p.outline.story : Story Unit).nodeIds =
        (allMarkers (linesOf source.toList)).map Line.id := by
  intro hall
  have hids := hall _ equalsSource equalsParsed equalsSource_parse
  revert hids
  decide

end Gamebook.Source
