-- The law of the content gate. The player is asked once, and whatever is not an error counts as
-- consent: to go on, but also to dismiss the prompt, and to exit where the host returns from
-- closing. A host that keeps its word, as a terminal does, passes nobody but those who go on.
import Gamebook.Builder
import Gamebook.Host.Scripted
import Gamebook.Proofs.Prompts

namespace Gamebook

variable {μ σ : Type} {h : Host σ}

/-! ## How the gate can go -/

namespace Builder

/-- What the player is asked about explicit content. -/
def gatePrompt (contents : List String) : Prompt where
  cancellable := false
  icon := some (.named "do-not-disturb")
  title := some "NSFW Warning"
  text := contentWarning contents
  options := [{ label := "Exit", color := some "red", whiteText := true }, { label := "Continue" }]

/-- How the gate ends in a session, for each answer of the host to the prompt. -/
inductive GateGoes (h : Host σ) (p : Prompt) (s : Session μ σ) :
    Except StoryError Unit × Session μ σ → Prop
  | unsupported (hc : h.supports s.host .choice = false) :
      GateGoes h p s (.error (.unsupported .choice), s)
  | hostFails {e : StoryError} (hc : h.supports s.host .choice = true)
      (ha : (h.choose p s.host).1 = .error e) : GateGoes h p s (.error e, s.prompted h p)
  | notOffered {index : Nat} (hc : h.supports s.host .choice = true)
      (ha : (h.choose p s.host).1 = .ok (.chosen index)) (ho : p.options.length ≤ index) :
      GateGoes h p s (.error (.host (.invalidChoice index)), s.prompted h p)
  | exits (hc : h.supports s.host .choice = true)
      (ha : (h.choose p s.host).1 = .ok (.chosen 0)) :
      GateGoes h p s ((s.prompted h p).serve h .close)
  | continues (hc : h.supports s.host .choice = true)
      (ha : (h.choose p s.host).1 = .ok (.chosen 1)) : GateGoes h p s (.ok (), s.prompted h p)
  | dismissed (hc : h.supports s.host .choice = true)
      (ha : (h.choose p s.host).1 = .ok .cancelled) : GateGoes h p s (.ok (), s.prompted h p)

/-- The outcome of the request is thrown away. -/
theorem run_warnNsfw (contents : List String) (s : Session μ σ) :
    (warnNsfw contents).run h s =
      (((contentGate contents).run.run h s).1.map fun _ => (),
        ((contentGate contents).run.run h s).2) := by
  unfold warnNsfw
  rw [Script.bind_eq, Script.run_bind]
  rcases (contentGate contents).run.run h s with ⟨e | outcome, s₁⟩ <;> rfl

/-- Closing is the one action of the gate, and it is bound to the first option. -/
theorem run_gate_actions (contents : List String) (s : Session μ σ) :
    (Choices.runActions (some 0) (contentGate contents : Choices μ Unit).actions).run h s =
      s.serve h .close := by
  have hactions : (contentGate contents : Choices μ Unit).actions =
      [(some 0, Script.ask .close)] := rfl
  rw [hactions, Choices.runActions_cons_self, Script.run_bind, Script.run_ask]
  rcases s.serve h .close with ⟨e | ⟨⟩, s₁⟩ <;> rfl

theorem warnNsfw_goes (contents : List String) (s : Session μ σ) :
    GateGoes h (gatePrompt contents) s ((warnNsfw contents).run h s) := by
  have hprompt : (contentGate contents : Choices μ Unit).prompt = gatePrompt contents := rfl
  rw [run_warnNsfw, Choices.run_run, Choices.run_present, hprompt]
  rcases hc : h.supports s.host .choice with _ | _
  · exact .unsupported hc
  simp only [if_true]
  rcases ha : (h.choose (gatePrompt contents) s.host).1 with e | ⟨index⟩ | _
  · exact .hostFails hc ha
  · rcases index with _ | _ | index
    · have hexits := GateGoes.exits hc ha
      have haccept : (gatePrompt contents).accept (.ok (.chosen 0)) = .ok (.chosen 0) := rfl
      simp only [haccept, Outcome.key, run_gate_actions]
      rcases hs : (s.prompted h (gatePrompt contents)).serve h .close with ⟨e | ⟨⟩, s₁⟩
      · rwa [hs] at hexits
      · rwa [hs] at hexits
    · exact .continues hc ha
    · exact .notOffered hc ha (by simp [gatePrompt])
  · exact .dismissed hc ha

/-- The host answers a prompt in a way that the gate takes for consent. -/
def Passes (h : Host σ) (p : Prompt) (t : σ) : Prop :=
  (h.choose p t).1 = .ok (.chosen 1) ∨ (h.choose p t).1 = .ok .cancelled ∨
    ((h.choose p t).1 = .ok (.chosen 0) ∧ (h.close (h.choose p t).2).1 = .ok ())

theorem GateGoes.ok_iff {contents : List String} {s : Session μ σ}
    {out : Except StoryError Unit × Session μ σ} (hg : GateGoes h (gatePrompt contents) s out) :
    out.1 = .ok () ↔
      h.supports s.host .choice = true ∧ Passes h (gatePrompt contents) s.host := by
  unfold Passes
  cases hg with
  | unsupported hc => simp [hc]
  | hostFails hc ha => simp [ha]
  | @notOffered index hc ha ho =>
    have hle : 2 ≤ index := ho
    have hexit : index ≠ 0 := by omega
    have hcontinue : index ≠ 1 := by omega
    simp [ha, hexit, hcontinue]
  | exits hc ha =>
    have hserve : ((s.prompted h (gatePrompt contents)).serve h .close).1 =
        (h.close (h.choose (gatePrompt contents) s.host).2).1 := rfl
    simp [hc, ha, hserve]
  | continues hc ha => simp [hc, ha]
  | dismissed hc ha => simp [hc, ha]

end Builder

/-! ## Hosts that keep their word -/

/-- A host that dismisses only what may be dismissed, and that does not return from closing. -/
structure Host.KeepsWord (h : Host σ) : Prop where
  dismisses : ∀ p t, p.cancellable = false → (h.choose p t).1 ≠ .ok .cancelled
  closes : ∀ t, (h.close t).1 ≠ .ok ()

theorem Terminal.host_keepsWord : Terminal.host.KeepsWord where
  dismisses := by
    intro p t hp hcancelled
    obtain ⟨taken, hgoes⟩ := put_goes t (.choose p)
    generalize hout : t.put (.choose p) = out at hgoes
    have hreply : out.1 = .ok .cancelled := (congrArg Prod.fst hout).symm.trans hcancelled
    cases hgoes with
    | settled hlines hpassed hline =>
      obtain rfl := hreply
      cases hline with
      | taken hread htake => exact absurd htake.2 (by simp [hp])
    | ends hpassed => simp [Query.atEnd, hp] at hreply
  closes := by
    intro t hok
    cases hok

namespace Builder

/-- Where the host keeps its word, nobody passes but those who go on. -/
theorem continues_of_keepsWord (hword : h.KeepsWord) {contents : List String} {s : Session μ σ}
    (hok : ((warnNsfw contents).run h s).1 = .ok ()) :
    (h.choose (gatePrompt contents) s.host).1 = .ok (.chosen 1) := by
  obtain ⟨-, hgo | hdismiss | ⟨-, hclose⟩⟩ := (warnNsfw_goes contents s).ok_iff.mp hok
  · exact hgo
  · exact absurd hdismiss (hword.dismisses _ _ rfl)
  · exact absurd hclose (hword.closes _)

theorem a_terminal_passes_those_who_go_on (contents : List String) (s : Session μ Terminal)
    (hok : ((warnNsfw contents).run Terminal.host s).1 = .ok ()) :
    (s.host.choose (gatePrompt contents)).1 = .ok (.chosen 1) :=
  continues_of_keepsWord Terminal.host_keepsWord hok

/-! ## The law -/

/-- For every host, every list of contents and every session: the player is asked once to exit or
to continue, and may not dismiss the question. The gate opens for a host that answers with
Continue, but also for one that dismisses the question nonetheless, and for one that answers with
Exit and returns from closing. For every other answer it fails. -/
theorem whatever_is_no_error_opens_the_gate (h : Host σ) (contents : List String)
    (s : Session μ σ) :
    let p := gatePrompt contents
    let out := (warnNsfw contents).run h s
    p.cancellable = false ∧ p.options.map PromptOption.label = ["Exit", "Continue"] ∧
      GateGoes h p s out ∧
      (out.1 = .ok () ↔ h.supports s.host .choice = true ∧ Passes h p s.host) :=
  ⟨rfl, rfl, warnNsfw_goes contents s, (warnNsfw_goes contents s).ok_iff⟩

/-- A session of a player who wants to leave, with a host that returns from closing. -/
def leaving : Session Unit Scripted where
  env := .empty
  memory := ()
  host := { capabilities := [.choice], answers := [.ok (.chosen 0)], closing := .ok () }

/-- It is not so that the gate opens for nobody but those who go on. -/
theorem an_exit_may_be_taken_for_consent :
    ¬ ∀ (h : Host Scripted) (contents : List String) (s : Session Unit Scripted),
      ((warnNsfw contents).run h s).1 = .ok () →
        (h.choose (gatePrompt contents) s.host).1 = .ok (.chosen 1) := by
  intro hall
  have hcontinue := hall Scripted.host ["gore"] leaving rfl
  cases hcontinue

end Builder

end Gamebook
