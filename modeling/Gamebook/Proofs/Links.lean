-- The links of a parsed source. No two passages of one source have the same id, and the links are
-- the options of the passages in order; so the links from a passage are its own options.
import Gamebook.Proofs.Sections
import Mathlib.Data.List.Nodup

namespace Gamebook.Source

/-! ## Distinct ids -/

theorem Outline.declares_iff (o : Outline) (id : String) : o.declares id = true ↔ id ∈ o.ids := by
  simp [Outline.declares]

theorem Outline.insert_distinct {o o' : Outline} {q : Passage} (hn : o.ids.Nodup)
    (h : o.insert q = .ok o') : o'.ids.Nodup := by
  unfold Outline.insert at h
  split at h
  · cases h
  · rename_i hfree
    cases h
    rw [Outline.declares_iff] at hfree
    have hids : (o.passages ++ [q]).map Passage.id = o.ids.concat q.id := by
      simp [Outline.ids]
    unfold Outline.ids
    rw [hids]
    exact List.Nodup.concat hfree hn

namespace Progress

variable {u : UnknownKeys} {s s' : Progress} {l : Line}

theorem close_distinct {n : Nat} {sp : Span} (hn : s.outline.ids.Nodup)
    (h : s.close n sp = .ok s') : s'.outline.ids.Nodup := by
  unfold close at h
  rcases hc : s.current with _ | q
  · rw [hc] at h
    cases h
    exact hn
  · rw [hc] at h
    rcases hi : s.outline.insert q with e | o
    · simp only [hi] at h
      cases h
    · simp only [hi] at h
      cases h
      exact Outline.insert_distinct hn hi

/-- Only what closes a passage adds an id. -/
theorem took_distinct (hn : s.outline.ids.Nodup) (ht : Took u s l s') :
    s'.outline.ids.Nodup := by
  cases ht with
  | comment h => exact hn
  | setting h hs he hk =>
    obtain ⟨-, -, ho⟩ := setting_ok he hk
    rw [ho]
    exact hn
  | marker h hs hm hc =>
    have := close_distinct hn hc
    exact this
  | extend h hs hm =>
    rw [(extend_eq s _ l).1]
    exact hn
  | dropped h hs he hm => exact hn

theorem run_distinct {ls : List Line} (hn : s.outline.ids.Nodup) (h : run u s ls = .ok s') :
    s'.outline.ids.Nodup := by
  induction ls generalizing s with
  | nil =>
    cases h
    exact hn
  | cons l ls ih =>
    obtain ⟨t, ht, h⟩ := run_cons_ok h
    exact ih (took_distinct hn ht) h

end Progress

/-! ## The links of an origin -/

def Passage.edges (q : Passage) : List (String × String × String) := q.options.map (q.id, ·)

/-- What every source that can be read has: distinct ids, and the options as its links. -/
structure Parsed.WellFormed (p : Parsed) : Prop where
  ids_nodup : p.outline.ids.Nodup
  edges : p.links.map Link.edge = p.outline.passages.flatMap Passage.edges

theorem Section.passage_edges (s : Section) : s.passage.edges = s.edges := by
  simp [Section.passage, Passage.edges, Passage.extendedBy, pairsOf, Section.edges,
    Section.options]

theorem parse_wellFormed {c : Config} {source : String} {p : Parsed}
    (h : parse c source = .ok p) : p.WellFormed := by
  obtain ⟨h1, h2⟩ := parse_ok h
  obtain ⟨r, s, n, sp, hr, hc, ho, -⟩ := run_of_parse h
  refine ⟨?_, ?_⟩
  · have hstart : ({} : Progress).outline.ids.Nodup := List.nodup_nil
    rw [ho]
    exact Progress.close_distinct (Progress.run_distinct hstart hr) hc
  · rw [h1, h2]
    simp [readEdges, Outline.extendedBy, List.flatMap_map, Section.passage_edges]

def Outline.passage? (o : Outline) (id : String) : Option Passage :=
  o.passages.find? fun q => q.id = id

def Parsed.linksFrom (p : Parsed) (id : String) : List Link :=
  p.links.filter fun l => l.origin = id

theorem Outline.id_of_passage? {o : Outline} {id : String} {q : Passage}
    (hq : o.passage? id = some q) : q.id = id := by
  unfold Outline.passage? at hq
  simpa using List.find?_some hq

theorem Outline.passage?_isSome (o : Outline) (id : String) :
    (o.passage? id).isSome = o.declares id := by
  rw [Bool.eq_iff_iff, Outline.declares_iff]
  unfold Outline.passage? Outline.ids
  simp [List.find?_isSome]

theorem edges_of_origin {qs : List Passage} (hn : (qs.map Passage.id).Nodup) {q : Passage}
    (hq : q ∈ qs) : ((qs.flatMap Passage.edges).filter fun e => e.1 = q.id) = q.edges := by
  have hown : ∀ q : Passage, (q.edges.filter fun e => e.1 = q.id) = q.edges := by
    intro q
    unfold Passage.edges
    rw [List.filter_map]
    simp [Function.comp_def]
  have hother : ∀ (q : Passage) id, q.id ≠ id → (q.edges.filter fun e => e.1 = id) = [] := by
    intro q id hne
    unfold Passage.edges
    rw [List.filter_map]
    simp [Function.comp_def, hne]
  induction qs with
  | nil => cases hq
  | cons a qs ih =>
    rw [List.map_cons, List.nodup_cons] at hn
    obtain ⟨ha, hn⟩ := hn
    rw [List.flatMap_cons, List.filter_append]
    -- Either all edges of the first passage are kept and no others, or none of them.
    rcases List.mem_cons.mp hq with rfl | hq
    · have hrest : ((qs.flatMap Passage.edges).filter fun e => e.1 = q.id) = [] := by
        rw [List.filter_flatMap, List.flatMap_eq_nil_iff]
        intro b hb
        apply hother
        intro hid
        exact ha (hid ▸ List.mem_map_of_mem hb)
      rw [hown, hrest, List.append_nil]
    · have hne : a.id ≠ q.id := fun hid => ha (hid ▸ List.mem_map_of_mem hq)
      rw [hother a q.id hne, List.nil_append]
      exact ih hn hq

/-- Labels and targets of the links from a passage are its options. -/
theorem Parsed.WellFormed.linksFrom_of_mem {p : Parsed} (hp : p.WellFormed) {q : Passage}
    (hq : q ∈ p.outline.passages) :
    (p.linksFrom q.id).map (fun l => (l.label, l.target)) = q.options := by
  have hlinks : (p.linksFrom q.id).map Link.edge = q.edges := by
    rw [← edges_of_origin hp.ids_nodup hq, ← hp.edges, List.filter_map]
    rfl
  have := congrArg (List.map Prod.snd) hlinks
  simpa [Passage.edges, Link.edge, Function.comp_def] using this

theorem Parsed.WellFormed.linksFrom_eq {p : Parsed} (hp : p.WellFormed) {id : String}
    {q : Passage} (hq : p.outline.passage? id = some q) :
    (p.linksFrom id).map (fun l => (l.label, l.target)) = q.options := by
  obtain rfl := Outline.id_of_passage? hq
  exact hp.linksFrom_of_mem (List.mem_of_find?_eq_some hq)

end Gamebook.Source
