-- Bindings of a text. Each binding is put around the text as it is bound so far; when the text is
-- produced, the text itself comes first and then the values in the order in which they were bound,
-- each of them once, and every value takes the place of its key in what the ones before it left.
import Gamebook.Proofs.Occurrences
import Gamebook.Session
import Gamebook.Story.Node
import Mathlib.Data.List.Induction

namespace Gamebook

variable {μ σ α : Type} {h : Host σ}

/-! ## Scripts in turn -/

/-- The scripts run one after the other, each of them once, up to the first error; without one,
this is what they gave. -/
inductive Gathers (h : Host σ) :
    List (Script μ α) → Session μ σ → Except StoryError (List α) → Session μ σ → Prop
  | nil (s : Session μ σ) : Gathers h [] s (.ok []) s
  | fails {t : Script μ α} {s s' : Session μ σ} {e : StoryError} (ts : List (Script μ α))
      (ht : t.run h s = (.error e, s')) : Gathers h (t :: ts) s (.error e) s'
  | cons {t : Script μ α} {ts : List (Script μ α)} {a : α} {s s' s'' : Session μ σ}
      {out : Except StoryError (List α)} (ht : t.run h s = (.ok a, s'))
      (hts : Gathers h ts s' out s'') : Gathers h (t :: ts) s (out.map (a :: ·)) s''

namespace Gathers

variable {ts us : List (Script μ α)} {s s' s'' : Session μ σ}

/-- After an error nothing more runs. -/
theorem append_of_error {out : Except StoryError (List α)} {e : StoryError}
    (hts : Gathers h ts s out s') (hout : out = .error e) (us : List (Script μ α)) :
    Gathers h (ts ++ us) s (.error e) s' := by
  induction hts with
  | nil s => cases hout
  | fails ts ht =>
    cases hout
    exact .fails (ts ++ us) ht
  | @cons t ts a s s' s'' out ht _ ih =>
    rcases out with e' | as
    · cases hout
      exact .cons ht (ih rfl)
    · cases hout

theorem append_of_ok {out gathered : Except StoryError (List α)} {as : List α}
    (hts : Gathers h ts s out s') (hout : out = .ok as) (hus : Gathers h us s' gathered s'') :
    Gathers h (ts ++ us) s (gathered.map (as ++ ·)) s'' := by
  induction hts generalizing as with
  | nil s =>
    cases hout
    rcases gathered with e | bs
    · exact hus
    · exact hus
  | fails ts ht => cases hout
  | @cons t ts a s s' s₁ out ht _ ih =>
    rcases out with e | rest
    · cases hout
    · cases hout
      have hrest := Gathers.cons ht (ih rfl hus)
      rcases gathered with e | bs
      · exact hrest
      · exact hrest

end Gathers

/-! ## Binding -/

/-- A key and the producer of what takes its place. -/
structure Binding (μ : Type) where
  key : String
  value : Producer μ String

/-- The scene with some more bindings, which were added in their order. -/
def Scene.bindAll (scene : Scene μ) (bs : List (Binding μ)) : Scene μ :=
  bs.foldl (fun scene b => scene.bind b.key b.value) scene

/-- The text with one piece after the other in the place of its key. -/
def fill (text : String) (pieces : List (String × String)) : String :=
  pieces.foldl (fun text piece => Text.replaceAll text piece.1 piece.2) text

/-- How the production of a text with some keys ends, by what was gathered for it: the text first
and then a piece for each key. -/
inductive Filled (keys : List String) :
    Except StoryError (List String) → Except StoryError String → Prop
  | fails (e : StoryError) : Filled keys (.error e) (.error e)
  | fills (text : String) {pieces : List String} (hlen : pieces.length = keys.length) :
      Filled keys (.ok (text :: pieces)) (.ok (fill text (keys.zip pieces)))

namespace Scene

theorem bindAll_append_singleton (scene : Scene μ) (bs : List (Binding μ)) (b : Binding μ) :
    scene.bindAll (bs ++ [b]) = (scene.bindAll bs).bind b.key b.value := by
  rw [bindAll, List.foldl_append]
  rfl

/-- Bindings change nothing but the text. -/
theorem bindAll_eq (scene : Scene μ) (bs : List (Binding μ)) :
    scene.bindAll bs = scene.setText (scene.bindAll bs).text := by
  induction bs using List.reverseRecOn with
  | nil => rfl
  | append_singleton bs b ih =>
    rw [bindAll_append_singleton, ih]
    rfl

/-- A binding has the text bound so far produced, and then its value. -/
theorem run_text_bind (scene : Scene μ) (key : String) (value : Producer μ String)
    (scope : Scope μ) (s : Session μ σ) :
    ((scene.bind key value).text scope).run h s =
      match (scene.text scope).run h s with
      | (.error e, s') => (.error e, s')
      | (.ok text, s') =>
        match (value scope).run h s' with
        | (.error e, s'') => (.error e, s'')
        | (.ok piece, s'') => (.ok (Text.replaceAll text key piece), s'') := by
  have htext : (scene.bind key value).text scope =
      (scene.text scope).bind fun text =>
        (value scope).bind fun piece => .done (Text.replaceAll text key piece) := rfl
  rw [htext, Script.run_bind]
  rcases (scene.text scope).run h s with ⟨e | text, s'⟩
  · rfl
  · simp only [Script.run_bind]
    rcases (value scope).run h s' with ⟨e | piece, s''⟩ <;> rfl

end Scene

theorem fill_append_singleton (text key piece : String) {keys pieces : List String}
    (hlen : pieces.length = keys.length) :
    fill text ((keys ++ [key]).zip (pieces ++ [piece])) =
      Text.replaceAll (fill text (keys.zip pieces)) key piece := by
  rw [List.zip_append hlen.symm, fill, List.foldl_append]
  rfl

/-- The producers of a bound text: first the text itself, then the values. -/
def Scene.producers (scene : Scene μ) (bs : List (Binding μ)) : List (Producer μ String) :=
  scene.text :: bs.map Binding.value

/-- What is gathered fills the text. -/
theorem Scene.text_bindAll {scene : Scene μ} {bs : List (Binding μ)} {scope : Scope μ}
    {s s' : Session μ σ} {result : Except StoryError String}
    (hrun : ((scene.bindAll bs).text scope).run h s = (result, s')) :
    ∃ out, Gathers h ((scene.producers bs).map fun f => f scope) s out s' ∧
      Filled (bs.map Binding.key) out result := by
  -- From the last binding, which is the outermost one and runs when all others are done.
  induction bs using List.reverseRecOn generalizing result s' with
  | nil =>
    rcases result with e | text
    · exact ⟨.error e, .fails [] hrun, .fails e⟩
    · exact ⟨.ok [text], .cons hrun (.nil s'), .fills text rfl⟩
  | append_singleton bs b ih =>
    have hlist : (scene.producers (bs ++ [b])).map (fun f => f scope) =
        (scene.producers bs).map (fun f => f scope) ++ [b.value scope] := by
      simp [producers]
    have hkeys : (bs ++ [b]).map Binding.key = bs.map Binding.key ++ [b.key] := by simp
    rw [bindAll_append_singleton, run_text_bind] at hrun
    rw [hlist, hkeys]
    rcases htext : ((scene.bindAll bs).text scope).run h s with ⟨e | text, s₁⟩
    · obtain ⟨out, hgather, hfilled⟩ := ih htext
      rw [htext] at hrun
      cases hrun
      cases hfilled
      exact ⟨.error e, hgather.append_of_error rfl _, .fails e⟩
    · obtain ⟨out, hgather, hfilled⟩ := ih htext
      rw [htext] at hrun
      cases hfilled with
      | @fills first pieces hlen =>
        rcases hvalue : (b.value scope).run h s₁ with ⟨e | piece, s₂⟩
        · simp only [hvalue] at hrun
          cases hrun
          exact ⟨.error e, hgather.append_of_ok rfl (.fails [] hvalue), .fails e⟩
        · have hall : (pieces ++ [piece]).length = (bs.map Binding.key ++ [b.key]).length := by
            rw [List.length_append, List.length_append, hlen]
            rfl
          simp only [hvalue, ← fill_append_singleton first b.key piece hlen] at hrun
          cases hrun
          exact ⟨_, hgather.append_of_ok rfl (.cons hvalue (.nil _)), .fills first hall⟩

/-- However many bindings a text has: to produce it runs the text and then the values in the order
in which they were bound, each once and whether or not its key is there, up to the first error,
which comes out unchanged. Without an error every value takes the place of its key in turn, where
the key is found in what the earlier values left and not in the value itself. A new text or body
is the text from then on, with none of the bindings. -/
theorem bindings_fill_a_text_in_turn (h : Host σ) (scene : Scene μ) (bs : List (Binding μ))
    (scope : Scope μ) (s : Session μ σ) :
    let bound := scene.bindAll bs
    let produced := (bound.text scope).run h s
    (∃ out, Gathers h ((scene.producers bs).map fun f => f scope) s out produced.2 ∧
        Filled (bs.map Binding.key) out produced.1) ∧
      (∀ text key value result : String,
        result = Text.replaceAll text key value ↔
          Text.Replaced value.toList key.toList text.toList result.toList) ∧
      (∀ text, bound.setText text = scene.setText text ∧ (bound.setText text).text = text) ∧
      ∀ body, bound.setBody body = scene.setBody body ∧
        (bound.setBody body).text = fun _ => .done body := by
  intro bound produced
  have hbound : bound = scene.setText bound.text := scene.bindAll_eq bs
  refine ⟨Scene.text_bindAll rfl, ?_, ?_, ?_⟩
  · intro text key value result
    rw [Text.replaced_iff, ← String.toList_inj, Text.replaceAll, String.toList_ofList]
  · intro text
    refine ⟨?_, rfl⟩
    rw [hbound]
    rfl
  · intro body
    refine ⟨?_, rfl⟩
    rw [hbound]
    rfl

end Gamebook
