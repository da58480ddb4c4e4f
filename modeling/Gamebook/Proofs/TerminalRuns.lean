-- Runs on a terminal. A script sees neither what was shown before nor the lines that it leaves
-- unread, so a change of either goes through the run unnoticed: the outcome is the same, and the
-- terminal after it is changed in the same way.
import Gamebook.Command.Play.Progress
import Gamebook.Proofs.ReaderLaws

namespace Gamebook

namespace Terminal

/-! ## Changes that are not noticed -/

/-- A change of a terminal that leaves its color and does not care for what is written after it. -/
structure Aside (f : Terminal → Terminal) : Prop where
  color : ∀ t, (f t).color = t.color
  writes : ∀ t out err, (f t).writes out err = f (t.writes out err)

namespace Aside

variable {f : Terminal → Terminal}

theorem print (hf : Aside f) (t : Terminal) (text : String) :
    (f t).print text = f (t.print text) := by
  rw [print_eq, print_eq, hf.writes]

theorem warn (hf : Aside f) (t : Terminal) (text : String) :
    (f t).warn text = f (t.warn text) := by
  rw [warn_eq, warn_eq, hf.color, hf.writes]

theorem showPrompt (hf : Aside f) (t : Terminal) (p : Prompt) :
    (f t).showPrompt p = f (t.showPrompt p) := by
  rw [showPrompt_eq, showPrompt_eq, hf.color, hf.writes]

end Aside

/-- A change of a terminal that requests do not notice, where the lines left over are as
supposed. -/
structure Unnoticed (f : Terminal → Terminal) (K : List (List UInt8) → Prop) : Prop
    extends Aside f where
  back : ∀ {ls ms}, ls <:+ ms → K ls → K ms
  readLine : ∀ t prompt, K (t.readLine prompt).2.lines →
    (f t).readLine prompt = ((t.readLine prompt).1, f (t.readLine prompt).2)
  answer : ∀ r t, K (host.answer r t).2.lines →
    host.answer r (f t) = ((host.answer r t).1, f (host.answer r t).2)

/-! ## What was shown before -/

/-- The terminal with something shown before all that it has shown. -/
def behind (out err : String) (t : Terminal) : Terminal :=
  { t with out := out ++ t.out, err := err ++ t.err }

theorem aside_behind (out err : String) : Aside (behind out err) where
  color _ := rfl
  writes t out' err' := by simp only [behind, Terminal.writes, String.append_assoc]

section

variable (out err : String) (t : Terminal)

theorem print_behind (text : String) :
    (t.behind out err).print text = (t.print text).behind out err :=
  (aside_behind out err).print t text

theorem warn_behind (text : String) :
    (t.behind out err).warn text = (t.warn text).behind out err :=
  (aside_behind out err).warn t text

theorem askFrom_behind (ls : List (List UInt8)) :
    askFrom (t.behind out err) ls = ((askFrom t ls).1, (askFrom t ls).2.behind out err) := by
  induction ls generalizing t with
  | nil => simp only [askFrom, print_behind]; rfl
  | cons l ls ih =>
    simp only [askFrom, print_behind]
    split
    · rfl
    · split
      · exact ih _
      · rfl

theorem chooseFrom_behind (cancellable : Bool) (count : Nat) (ls : List (List UInt8)) :
    chooseFrom cancellable count (t.behind out err) ls =
      ((chooseFrom cancellable count t ls).1,
        (chooseFrom cancellable count t ls).2.behind out err) := by
  induction ls generalizing t with
  | nil => simp only [chooseFrom, print_behind]; rfl
  | cons l ls ih =>
    simp only [chooseFrom, print_behind, warn_behind]
    split
    · rfl
    · split
      · rfl
      · exact ih _

theorem answer_behind (r : Request) :
    host.answer r (t.behind out err) =
      ((host.answer r t).1, (host.answer r t).2.behind out err) := by
  cases r with
  | warn m => exact congrArg (Prod.mk _) (warn_behind out err t m)
  | error m => simp only [Host.answer, host, error, message, behind, String.append_assoc]
  | close => rfl
  | ask q =>
    simp only [Host.answer, host, ask, println, print_behind]
    exact askFrom_behind out err _ _
  | choose p =>
    have hshown := (aside_behind out err).showPrompt t p
    simp only [Host.answer, host, choose, hshown]
    exact chooseFrom_behind out err _ _ _ _
  | fetch n => rfl
  | load =>
    have hdirectory : (t.behind out err).directory = t.directory := rfl
    simp only [Host.answer, host, load, hdirectory]
    rcases t.directory with failure | files
    · cases failure <;> rfl
    · rfl

end

/-- What was shown before is not noticed at all. -/
theorem unnoticed_behind (out err : String) : Unnoticed (behind out err) fun _ => True where
  toAside := aside_behind out err
  back _ h := h
  readLine t prompt _ := by
    unfold readLine
    rw [print_behind]
    have hlines : (t.behind out err).lines = t.lines := rfl
    rw [hlines]
    split
    · rfl
    · split <;> rfl
  answer r t _ := answer_behind out err t r

/-! ## What is still to be read -/

/-- The terminal with other lines at the end of its input. -/
def swapped (old new : List (List UInt8)) (t : Terminal) : Terminal :=
  { t with lines := t.lines.take (t.lines.length - old.length) ++ new }

theorem swapped_of_lines {t : Terminal} {before old : List (List UInt8)}
    (h : t.lines = before ++ old) (new : List (List UInt8)) :
    t.swapped old new = { t with lines := before ++ new } := by
  simp [swapped, h]

theorem aside_swapped (old new : List (List UInt8)) : Aside (swapped old new) where
  color _ := rfl
  writes _ _ _ := rfl

theorem not_suffix_of_cons {l : List UInt8} {ls ms : List (List UInt8)} (h : ms <:+ ls) :
    ¬ l :: ls <:+ ms := by
  intro hcons
  have := (hcons.trans h).length_le
  rw [List.length_cons] at this
  omega

section

variable {old : List (List UInt8)} (hold : old ≠ []) (new : List (List UInt8))

include hold

/-- A question that leaves the end of the input unread does not look at it. -/
theorem askFrom_swapped (t : Terminal) {before : List (List UInt8)}
    (h : old <:+ (askFrom t (before ++ old)).2.lines) (lines : List (List UInt8)) :
    askFrom { t with lines := lines } (before ++ new) =
      ((askFrom t (before ++ old)).1, swapped old new (askFrom t (before ++ old)).2) := by
  induction before generalizing t lines with
  | nil =>
    obtain ⟨l, ls, rfl⟩ := List.exists_cons_of_ne_nil hold
    exact absurd h (not_suffix_of_cons (askFrom_cons_lines t l ls))
  | cons l before ih =>
    simp only [List.cons_append, askFrom] at h ⊢
    split
    · rw [swapped_of_lines rfl]
      rfl
    · rename_i text htext
      simp only [htext] at h
      split
      · rename_i hblank
        rw [if_pos hblank] at h
        exact ih (t.print arrow) h lines
      · rw [swapped_of_lines rfl]
        rfl

/-- A choice that leaves the end of the input unread does not look at it. -/
theorem chooseFrom_swapped (cancellable : Bool) (count : Nat) (t : Terminal)
    {before : List (List UInt8)}
    (h : old <:+ (chooseFrom cancellable count t (before ++ old)).2.lines)
    (lines : List (List UInt8)) :
    chooseFrom cancellable count { t with lines := lines } (before ++ new) =
      ((chooseFrom cancellable count t (before ++ old)).1,
        swapped old new (chooseFrom cancellable count t (before ++ old)).2) := by
  induction before generalizing t lines with
  | nil =>
    obtain ⟨l, ls, rfl⟩ := List.exists_cons_of_ne_nil hold
    exact absurd h (not_suffix_of_cons (chooseFrom_cons_lines cancellable count t l ls))
  | cons l before ih =>
    simp only [List.cons_append, chooseFrom] at h ⊢
    split
    · rw [swapped_of_lines rfl]
      rfl
    · rename_i text htext
      simp only [htext] at h
      split
      · rw [swapped_of_lines rfl]
        rfl
      · rename_i hundecided
        simp only [hundecided] at h
        exact ih _ h lines

theorem readLine_swapped (t : Terminal) (prompt : String)
    (h : old <:+ (t.readLine prompt).2.lines) :
    (t.swapped old new).readLine prompt =
      ((t.readLine prompt).1, (t.readLine prompt).2.swapped old new) := by
  obtain ⟨before, hlines⟩ := h.trans (readLine_lines t prompt)
  rcases before with _ | ⟨l, before⟩
  · obtain ⟨l, ls, rfl⟩ := List.exists_cons_of_ne_nil hold
    simp only [readLine, ← hlines, List.nil_append] at h
    split at h <;> exact absurd h (not_suffix_of_cons List.suffix_rfl)
  · rw [swapped_of_lines hlines.symm]
    simp only [readLine, ← hlines, List.cons_append]
    split
    · rw [swapped_of_lines rfl]
      rfl
    · rw [swapped_of_lines rfl]
      rfl

theorem answer_swapped (r : Request) (t : Terminal) (h : old <:+ (host.answer r t).2.lines) :
    host.answer r (t.swapped old new) =
      ((host.answer r t).1, (host.answer r t).2.swapped old new) := by
  obtain ⟨before, hlines⟩ := h.trans (answer_lines r t)
  cases r with
  | warn m => rfl
  | error m => rfl
  | close => rfl
  | ask q =>
    simp only [Host.answer, host, ask, ← hlines] at h ⊢
    rw [swapped_of_lines hlines.symm]
    exact askFrom_swapped hold new _ h _
  | choose p =>
    have hshown := (aside_swapped old new).showPrompt t p
    have hafter : (t.showPrompt p).lines = before ++ old := by
      rw [showPrompt_eq, writes_lines, ← hlines]
    simp only [Host.answer, host, choose, ← hlines, hshown] at h ⊢
    rw [swapped_of_lines hafter, swapped_of_lines hlines.symm]
    exact chooseFrom_swapped hold new _ _ _ h _
  | fetch n => rfl
  | load =>
    have hdirectory : (t.swapped old new).directory = t.directory := rfl
    simp only [Host.answer, host, load, hdirectory]
    rcases t.directory with failure | files
    · cases failure <;> rfl
    · rfl

/-- Lines that are left over are not noticed. -/
theorem unnoticed_swapped : Unnoticed (swapped old new) fun ls => old <:+ ls where
  toAside := aside_swapped old new
  back hs h := h.trans hs
  readLine t prompt h := readLine_swapped hold new t prompt h
  answer r t h := answer_swapped hold new r t h

end

end Terminal

namespace Command.Play

/-! ## Games -/

section

variable {μ α : Type} {f : Terminal → Terminal} {K : List (List UInt8) → Prop} {story : Story μ}

theorem serve_unnoticed (hf : Terminal.Unnoticed f K) (s : Game μ) (r : Request)
    (h : K (s.serve Terminal.host r).2.host.lines) :
    (onTerminal s f).serve Terminal.host r =
      ((s.serve Terminal.host r).1, onTerminal (s.serve Terminal.host r).2 f) := by
  rw [serve_eq] at h ⊢
  rw [serve_eq]
  have hhost : (onTerminal s f).host = f s.host := rfl
  rw [hhost, hf.answer r s.host h]
  rfl

theorem run_unnoticed (hf : Terminal.Unnoticed f K) (t : Script μ α) (s : Game μ)
    (h : K (t.run Terminal.host s).2.host.lines) :
    t.run Terminal.host (onTerminal s f) =
      ((t.run Terminal.host s).1, onTerminal (t.run Terminal.host s).2 f) := by
  induction t generalizing s with
  | done a => rfl
  | fail e => rfl
  | readEnv next ih => exact ih s.env s h
  | writeEnv env next ih => exact ih { s with env := env } h
  | readMemory next ih => exact ih s.memory s h
  | writeMemory m next ih => exact ih { s with memory := m } h
  | note n next ih => exact ih (s.record (.noted n)) h
  | supports c next ih => exact ih true s h
  | request r next ih =>
    -- What is left over at the end was left over by the request.
    have hserve : K (s.serve Terminal.host r).2.host.lines :=
      hf.back (kept_lines.run (next _) (s.serve Terminal.host r).2) h
    simp only [Script.run, serve_unnoticed hf s r hserve]
    exact ih _ _ h

theorem enter_unnoticed (hf : Terminal.Unnoticed f K) (r : Reader) (s : Game μ) (id : String)
    (h : K (r.enter Terminal.host story s id).2.2.host.lines) :
    r.enter Terminal.host story (onTerminal s f) id =
      ((r.enter Terminal.host story s id).1, (r.enter Terminal.host story s id).2.1,
        onTerminal (r.enter Terminal.host story s id).2.2 f) := by
  unfold Reader.enter at h ⊢
  rcases hn : story.require id with e | n
  · rfl
  have hreached := run_unnoticed hf (n.reached story.scope) s
  simp only [hn] at h ⊢
  rcases hr : (n.reached story.scope).run Terminal.host s with ⟨e | ⟨⟩, s₁⟩
  · rw [hr] at h hreached
    rw [hreached h]
  have hrender := run_unnoticed hf (n.render story.scope) s₁
  have hlines := kept_lines.run (n.render story.scope) s₁
  simp only [hr] at h hreached ⊢
  rcases hv : (n.render story.scope).run Terminal.host s₁ with ⟨e | view, s₂⟩
  · simp only [hv] at h hrender hlines
    rw [hreached (hf.back hlines h)]
    simp only [hrender h]
  · simp only [hv] at h hrender hlines
    rw [hreached (hf.back hlines h)]
    simp only [hrender h]

theorem move_unnoticed (hf : Terminal.Unnoticed f K) (r : Reader) (s : Game μ) (m : Move)
    (h : K (r.move Terminal.host story s m).2.2.host.lines) :
    r.move Terminal.host story (onTerminal s f) m =
      ((r.move Terminal.host story s m).1, (r.move Terminal.host story s m).2.1,
        onTerminal (r.move Terminal.host story s m).2.2 f) := by
  cases m with
  | start =>
    simp only [Reader.move, Reader.start] at h ⊢
    have hinitial := run_unnoticed hf (story.initial story.scope) s
    rcases hi : (story.initial story.scope).run Terminal.host s with ⟨e | id, s₁⟩
    · rw [hi] at h hinitial
      rw [hinitial h]
    · simp only [hi] at h hinitial ⊢
      rw [hinitial (hf.back (kept_lines.enter story r s₁ id) h)]
      exact enter_unnoticed hf r s₁ id h
  | press k =>
    simp only [Reader.move, Reader.press] at h ⊢
    rcases hp : r.pressed story k with e | ⟨here, option⟩
    · rfl
    have hselect := run_unnoticed hf (option.select story.scope) s
    simp only [hp] at h ⊢
    rcases hs : (option.select story.scope).run Terminal.host s with ⟨e | next, s₁⟩
    · rw [hs] at h hselect
      rw [hselect h]
    · simp only [hs] at h hselect ⊢
      rw [hselect (hf.back (kept_lines.enter story r s₁ _) h)]
      exact enter_unnoticed hf r s₁ _ h

/-- The callbacks that a move runs are the same, and so are their outcomes. -/
theorem calls_unnoticed (hf : Terminal.Unnoticed f K) {r : Reader}
    (hr : r.Reachable Terminal.host story) (s : Game μ) (m : Move)
    (h : K (r.move Terminal.host story s m).2.2.host.lines) :
    r.calls Terminal.host story (onTerminal s f) m = r.calls Terminal.host story s m := by
  have hwatched : K (r.move Terminal.host story.watched (s.watch []) m).2.2.host.lines := by
    rw [(Reader.calls_keep hr s m).1]
    exact h
  have hmove := move_unnoticed hf r (s.watch []) m hwatched
  have hwatch : (onTerminal s f).watch [] = onTerminal (s.watch []) f := rfl
  unfold Reader.calls
  rw [hwatch, hmove]
  rfl

end

end Command.Play

end Gamebook
