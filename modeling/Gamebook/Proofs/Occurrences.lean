-- Occurrences of a key in a text. They are taken from the left, each as soon as it is there and
-- behind the one before it, and so they part the text into pieces. A text in which a value has
-- taken the place of the key is these pieces with the value between them.
import Gamebook.Text.Substitution
import Mathlib.Data.List.Infix

namespace Gamebook.Text

/-! ## The first occurrence -/

/-- A text with what stands before and behind the first occurrence of a key. -/
structure FirstAt (key text before after : List Char) : Prop where
  eq : text = before ++ (key ++ after)
  first : ∀ a b, text = a ++ (key ++ b) → before.length ≤ a.length

theorem firstAt_front {key text : List Char} (h : key <+: text) :
    ∃ after, FirstAt key text [] after := by
  obtain ⟨after, rfl⟩ := h
  exact ⟨after, rfl, fun a b _ => Nat.zero_le _⟩

/-- Where the key does not stand at the front, a character more only moves its first occurrence. -/
theorem FirstAt.cons {key text before after : List Char} {c : Char} (hc : ¬ key <+: c :: text)
    (h : FirstAt key text before after) : FirstAt key (c :: text) (c :: before) after := by
  refine ⟨by rw [h.eq, List.cons_append], ?_⟩
  intro a b hab
  rcases a with _ | ⟨d, a⟩
  · exact absurd ⟨b, hab.symm⟩ hc
  · obtain ⟨rfl, htext⟩ := List.cons.inj hab
    exact Nat.succ_le_succ (h.first a b htext)

theorem exists_firstAt {key text : List Char} (h : key <:+: text) :
    ∃ before after, FirstAt key text before after := by
  induction text with
  | nil =>
    obtain rfl := List.infix_nil.mp h
    obtain ⟨after, hfirst⟩ := firstAt_front (List.prefix_refl [])
    exact ⟨[], after, hfirst⟩
  | cons c text ih =>
    by_cases hc : key <+: c :: text
    · obtain ⟨after, hfirst⟩ := firstAt_front hc
      exact ⟨[], after, hfirst⟩
    · have hrest : key <:+: text := (List.infix_cons_iff.mp h).resolve_left hc
      obtain ⟨before, after, hfirst⟩ := ih hrest
      exact ⟨c :: before, after, hfirst.cons hc⟩

/-! ## The pieces between the occurrences -/

/-- The pieces of a text between the occurrences of a key, each the first one behind the one
before it. -/
inductive Parted (key : List Char) : List Char → List (List Char) → Prop
  | last {text : List Char} (h : ¬ key <:+: text) : Parted key text [text]
  | next {text before after : List Char} {ps : List (List Char)}
      (h : FirstAt key text before after) (hps : Parted key after ps) :
      Parted key text (before :: ps)

theorem Parted.ne_nil {key text : List Char} {ps : List (List Char)} (h : Parted key text ps) :
    ps ≠ [] := by
  cases h <;> exact List.cons_ne_nil _ _

theorem exists_parted {key : List Char} (hkey : key ≠ []) (text : List Char) :
    ∃ ps, Parted key text ps := by
  -- What stands behind an occurrence is shorter, because the key is not empty.
  induction hn : text.length using Nat.strong_induction_on generalizing text with
  | h n ih =>
    by_cases hin : key <:+: text
    · obtain ⟨before, after, hfirst⟩ := exists_firstAt hin
      have hlt : after.length < n := by
        have hpos := List.length_pos_iff.mpr hkey
        rw [← hn, hfirst.eq, List.length_append, List.length_append]
        omega
      obtain ⟨ps, hps⟩ := ih after.length hlt after rfl
      exact ⟨before :: ps, .next hfirst hps⟩
    · exact ⟨[text], .last hin⟩

/-! ## Replacing -/

/-- What a text becomes when a value takes the place of a key. The empty key stands before every
character and at the end. -/
inductive Replaced (value : List Char) : List Char → List Char → List Char → Prop
  | everywhere (text : List Char) :
      Replaced value [] text (text.flatMap (fun c => value ++ [c]) ++ value)
  | between {key text : List Char} {ps : List (List Char)} (hkey : key ≠ [])
      (hps : Parted key text ps) : Replaced value key text (value.intercalate ps)

theorem substituteFrom_skip (key value : List Char) (n : Nat) (text : List Char) :
    substituteFrom key value n text = substituteFrom key value 0 (text.drop n) := by
  induction n generalizing text with
  | zero => rfl
  | succ n ih =>
    rcases text with _ | ⟨c, text⟩
    · rfl
    · rw [substituteFrom, ih, List.drop_succ_cons]

theorem substituteFrom_found {key : List Char} (hkey : key ≠ []) (value after : List Char) :
    substituteFrom key value 0 (key ++ after) = value ++ substituteFrom key value 0 after := by
  obtain ⟨k, key, rfl⟩ := List.exists_cons_of_ne_nil hkey
  rw [List.cons_append, substituteFrom, if_pos (by simp), substituteFrom_skip]
  simp

theorem substituteFrom_passed {key text : List Char} {c : Char} (h : ¬ key <+: c :: text)
    (value : List Char) :
    substituteFrom key value 0 (c :: text) = c :: substituteFrom key value 0 text := by
  rw [substituteFrom, if_neg (by rwa [List.isPrefixOf_iff_prefix])]

/-- Up to the first occurrence a text stays as it is. -/
theorem substituteFrom_of_firstAt {key text before after : List Char} (hkey : key ≠ [])
    (h : FirstAt key text before after) (value : List Char) :
    substituteFrom key value 0 text = before ++ (value ++ substituteFrom key value 0 after) := by
  induction before generalizing text with
  | nil =>
    rw [h.eq]
    exact substituteFrom_found hkey value after
  | cons c before ih =>
    have htext : text = c :: (before ++ (key ++ after)) := h.eq
    subst htext
    have hc : ¬ key <+: c :: (before ++ (key ++ after)) := by
      rintro ⟨b, hb⟩
      have := h.first [] b hb.symm
      simp at this
    have hrest : FirstAt key (before ++ (key ++ after)) before after := by
      refine ⟨rfl, fun a b hab => ?_⟩
      have := h.first (c :: a) b (by rw [hab, List.cons_append])
      simpa using this
    rw [substituteFrom_passed hc, ih hrest, List.cons_append]

theorem substituteFrom_absent {key text : List Char} (h : ¬ key <:+: text)
    (value : List Char) : substituteFrom key value 0 text = text := by
  induction text with
  | nil => rfl
  | cons c text ih =>
    have hc : ¬ key <+: c :: text := fun hpre => h hpre.isInfix
    have hrest : ¬ key <:+: text := fun hin => h (List.infix_cons hin)
    rw [substituteFrom_passed hc, ih hrest]

theorem substituteFrom_of_parted {key text : List Char} {ps : List (List Char)} (hkey : key ≠ [])
    (h : Parted key text ps) (value : List Char) :
    substituteFrom key value 0 text = value.intercalate ps := by
  induction h with
  | last hno => rw [substituteFrom_absent hno, List.intercalate_singleton]
  | next hfirst hps ih =>
    rw [substituteFrom_of_firstAt hkey hfirst, ih, List.intercalate_cons_of_ne_nil hps.ne_nil,
      List.append_assoc]

/-- There is one text that a text becomes, and it is the one that is computed. -/
theorem replaced_iff {key value text result : List Char} :
    Replaced value key text result ↔ result = substitute key value text := by
  unfold substitute
  by_cases hkey : key = []
  · subst hkey
    rw [if_pos rfl]
    constructor
    · rintro (_ | ⟨hne, _⟩)
      · rfl
      · exact absurd rfl hne
    · rintro rfl
      exact .everywhere text
  · rw [if_neg hkey]
    constructor
    · rintro (_ | ⟨_, hps⟩)
      · exact absurd rfl hkey
      · exact (substituteFrom_of_parted hkey hps value).symm
    · rintro rfl
      obtain ⟨ps, hps⟩ := exists_parted hkey text
      rw [substituteFrom_of_parted hkey hps]
      exact .between hkey hps

/-- What was put in is not searched again, and occurrences do not overlap. -/
example : replaceAll "aaaaa" "aa" "a" = "aaa" := by decide

end Gamebook.Text
