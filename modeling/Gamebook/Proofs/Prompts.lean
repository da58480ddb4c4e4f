-- Prompts on a terminal. Reading a line, asking a question and presenting a choice share one stream
-- of lines: each takes the next lines up to the one that settles it, or all that are left. Which
-- line settles a query is said of the text of the line, which is what its bytes spell.
import Gamebook.Host.Terminal
import Gamebook.Proofs.ChoiceLaws
import Gamebook.Proofs.Encoding

namespace Gamebook

/-! ## The lines of an input -/

/-- An input cut into lines: a line feed is the last byte of its line, and every line but the last
has one. -/
structure InLines (input : List UInt8) (ls : List (List UInt8)) : Prop where
  all : ls.flatten = input
  single : ∀ l ∈ ls, l ≠ [] ∧ 10 ∉ l.dropLast
  ended : ∀ l ∈ ls.dropLast, l.getLast? = some 10

/-- A line feed is nowhere but at the end of a line. -/
theorem byteLines_single (input : List UInt8) :
    ∀ l ∈ byteLines input, l ≠ [] ∧ 10 ∉ l.dropLast := by
  induction input with
  | nil => simp [byteLines]
  | cons b bs ih =>
    simp only [byteLines]
    split
    · simpa using ih
    · rename_i hb
      split
      · simp
      · rename_i l ls hls
        rw [hls, List.forall_mem_cons] at ih
        obtain ⟨⟨hne, hfeed⟩, ih⟩ := ih
        refine List.forall_mem_cons.mpr ⟨⟨List.cons_ne_nil b l, ?_⟩, ih⟩
        rw [List.dropLast_cons_of_ne_nil hne, List.mem_cons]
        exact not_or.mpr ⟨fun h => hb h.symm, hfeed⟩

theorem byteLines_ended (input : List UInt8) :
    ∀ l ∈ (byteLines input).dropLast, l.getLast? = some 10 := by
  induction input with
  | nil => simp [byteLines]
  | cons b bs ih =>
    simp only [byteLines]
    split
    · rename_i hb
      rcases hbs : byteLines bs with _ | ⟨l, ls⟩
      · simp
      · rw [List.dropLast_cons_of_ne_nil (List.cons_ne_nil l ls), List.forall_mem_cons]
        exact ⟨by simp [hb], hbs ▸ ih⟩
    -- The byte goes in front of the next line, which keeps its end.
    · rcases hbs : byteLines bs with _ | ⟨l, _ | ⟨m, ls⟩⟩
      · simp
      · simp
      · simp only [hbs, List.dropLast_cons_of_ne_nil (List.cons_ne_nil m ls),
          List.forall_mem_cons] at ih ⊢
        have hne : l ≠ [] := by
          rintro rfl
          cases ih.1
        exact ⟨by rw [List.getLast?_cons_of_ne_nil hne]; exact ih.1, ih.2⟩

theorem inLines_byteLines (input : List UInt8) : InLines input (byteLines input) :=
  ⟨flatten_byteLines input, byteLines_single input, byteLines_ended input⟩

/-! ## The text of a line -/

/-- The bytes of a line spell a text, which is the given one with blanks around it. -/
def LineReads (line : List UInt8) (text : String) : Prop :=
  ∃ s : String, line = s.toUTF8.data.toList ∧ String.ofList (Text.trim s.toList) = text

theorem lineText?_eq_some {line : List UInt8} {text : String} :
    lineText? line = some text ↔ LineReads line text := by
  simp only [LineReads, ← Text.Utf8.decode_eq_ok]
  unfold lineText?
  split
  · rename_i s hs
    simp [hs]
  · rename_i fault hfault
    simp [hfault]

theorem lineText?_eq_none {line : List UInt8} :
    lineText? line = none ↔ ∀ s : String, line ≠ s.toUTF8.data.toList := by
  rw [← Text.Utf8.decode_eq_error]
  unfold lineText?
  split
  · rename_i s hs
    simp [hs]
  · rename_i fault hfault
    simp [hfault]

namespace Terminal

/-! ## Queries -/

/-- What a terminal may be asked for that reads lines. -/
inductive Query where
  | line (prompt : String)
  | ask (question : String)
  | choose (prompt : Prompt)

namespace Query

@[reducible] def Reply : Query → Type
  | .line _ => Option String
  | .ask _ => String
  | .choose _ => Outcome

/-- Whether a query takes a text for its reply. -/
def Takes : (q : Query) → (text : String) → q.Reply → Prop
  | .line _, text, reply => reply = some text
  | .ask _, text, reply => reply = text ∧ text ≠ ""
  | .choose p, text, .chosen k => Text.Spells text (k + 1) ∧ k < p.options.length
  | .choose p, text, .cancelled => Text.Spells text 0 ∧ p.cancellable = true

/-- A line that ends a query: its text is taken, or it is no text. -/
inductive Settles (q : Query) (line : List UInt8) : Except StoryError q.Reply → Prop
  | taken {text : String} {reply : q.Reply} (hread : LineReads line text)
      (htake : q.Takes text reply) : Settles q line (.ok reply)
  | notText (h : ∀ s : String, line ≠ s.toUTF8.data.toList) :
      Settles q line (.error (.host (.io .notText)))

/-- A line that is read in vain. -/
def Passes (q : Query) (line : List UInt8) : Prop := ∀ reply, ¬ q.Settles line reply

/-- The reply at the end of the input. -/
def atEnd : (q : Query) → Except StoryError q.Reply
  | .line _ => .ok none
  | .ask _ => .error (.host .inputClosed)
  | .choose p => if p.cancellable then .ok .cancelled else .error (.host .inputClosed)

/-! ## What is shown -/

/-- What is shown once. -/
def opening (color : Bool) : Query → String
  | .line _ => ""
  | .ask question => "\n" ++ question ++ "\n"
  | .choose p => page color p

/-- What is shown before each line is read. -/
def mark : Query → String
  | .line prompt => prompt
  | .ask _ => "> "
  | .choose _ => "> "

/-- The message for a line that is read in vain. -/
def rejection (color : Bool) : Query → String
  | .choose p => warning color ("enter a number between 1 and " ++ toString p.options.length)
  | _ => ""

end Query

/-- The terminal after some lines were read in vain. -/
def tried (t : Terminal) (q : Query) (n : Nat) : Terminal :=
  t.writes (String.join (List.replicate n q.mark))
    (String.join (List.replicate n (q.rejection t.color)))

/-- The terminal after a query for which `n` lines were read in vain. -/
def after (t : Terminal) (q : Query) (n : Nat) (rest : List (List UInt8)) : Terminal :=
  { ((t.writes (q.opening t.color) "").tried q n).writes q.mark "" with lines := rest }

/-! ## How a query goes -/

def put (t : Terminal) : (q : Query) → Except StoryError q.Reply × Terminal
  | .line prompt => t.readLine prompt
  | .ask question => t.ask question
  | .choose p => t.choose p

/-- How a query can go: the lines that it takes from the input, its reply, and the terminal then. -/
inductive Goes (t : Terminal) (q : Query) :
    (taken : List (List UInt8)) → Except StoryError q.Reply × Terminal → Prop
  | settled {passed rest : List (List UInt8)} {line : List UInt8}
      {reply : Except StoryError q.Reply}
      (hlines : t.lines = passed ++ line :: rest) (hpassed : ∀ l ∈ passed, q.Passes l)
      (hline : q.Settles line reply) :
      Goes t q (passed ++ [line]) (reply, t.after q passed.length rest)
  | ends (hpassed : ∀ l ∈ t.lines, q.Passes l) :
      Goes t q t.lines (q.atEnd, t.after q t.lines.length [])

/-! ## Reading for a query -/

/-- What a query takes a text for. -/
def Query.taken? : (q : Query) → String → Option q.Reply
  | .line _, text => some (some text)
  | .ask _, text => if text = "" then none else some text
  | .choose p, text => decide? p.cancellable p.options.length text

theorem Query.taken?_eq_some {q : Query} {text : String} {reply : q.Reply} :
    q.taken? text = some reply ↔ q.Takes text reply := by
  cases q with
  | line prompt => simp [taken?, Takes, eq_comm]
  | ask question => simp [taken?, Takes, eq_comm, and_comm]
  | choose p =>
    rcases hn : Text.numeral? text with _ | _ | n
    · cases reply <;> simp [taken?, decide?, Takes, ← Text.numeral?_eq_some, hn]
    · cases reply <;> simp [taken?, decide?, Takes, ← Text.numeral?_eq_some, hn]
    · cases reply with
      | chosen k =>
        simp only [taken?, decide?, Takes, ← Text.numeral?_eq_some, hn,
          Option.ite_none_right_eq_some, Option.some.injEq, Outcome.chosen.injEq,
          Nat.add_right_cancel_iff]
        constructor
        · rintro ⟨hlt, rfl⟩
          exact ⟨rfl, hlt⟩
        · rintro ⟨rfl, hlt⟩
          exact ⟨hlt, rfl⟩
      | cancelled => simp [taken?, decide?, Takes, ← Text.numeral?_eq_some, hn]

/-- How a line settles a query, if it does. -/
def Query.settled? (q : Query) (line : List UInt8) : Option (Except StoryError q.Reply) :=
  match lineText? line with
  | none => some (.error notText)
  | some text => (q.taken? text).map .ok

theorem Query.settled?_eq_some {q : Query} {line : List UInt8}
    {reply : Except StoryError q.Reply} :
    q.settled? line = some reply ↔ q.Settles line reply := by
  unfold settled?
  split
  · rename_i hnone
    rw [Option.some.injEq]
    constructor
    · rintro rfl
      exact .notText (lineText?_eq_none.mp hnone)
    · rintro (⟨hread, -⟩ | -)
      · rw [lineText?_eq_some.mpr hread] at hnone
        cases hnone
      · rfl
  · rename_i text htext
    rw [Option.map_eq_some_iff]
    constructor
    · rintro ⟨r, hr, rfl⟩
      exact .taken (lineText?_eq_some.mp htext) (taken?_eq_some.mp hr)
    · rintro (⟨hread, htake⟩ | hnone)
      · rw [lineText?_eq_some.mpr hread, Option.some.injEq] at htext
        exact ⟨_, taken?_eq_some.mpr (htext ▸ htake), rfl⟩
      · rw [lineText?_eq_none.mpr hnone] at htext
        cases htext

theorem Query.settled?_eq_none {q : Query} {line : List UInt8} :
    q.settled? line = none ↔ q.Passes line := by
  simp only [Query.Passes, ← settled?_eq_some, Option.eq_none_iff_forall_ne_some, ne_eq]

/-- Reads lines for a query that was shown. -/
def reading (t : Terminal) (q : Query) (ls : List (List UInt8)) :
    Except StoryError q.Reply × Terminal :=
  match q with
  | .line prompt => { t with lines := ls }.readLine prompt
  | .ask _ => askFrom t ls
  | .choose p => chooseFrom p.cancellable p.options.length t ls

variable {t : Terminal} {q : Query}

theorem put_eq (t : Terminal) (q : Query) :
    t.put q = (t.writes (q.opening t.color) "").reading q t.lines := by
  cases q with
  | line prompt =>
    rw [Query.opening, writes_nothing]
    rfl
  | ask question =>
    have hopened : (t.println "").println question = t.writes ("\n" ++ question ++ "\n") "" := by
      rw [println_eq, println_eq, writes_writes, String.empty_append, String.append_empty,
        String.append_assoc]
    rw [put, ask, hopened]
    rfl
  | choose p =>
    rw [put, choose, showPrompt_eq]
    rfl

theorem reading_nil (t : Terminal) (q : Query) :
    t.reading q [] = (q.atEnd, { t.writes q.mark "" with lines := [] }) := by
  rw [← print_eq]
  cases q <;> rfl

theorem reading_settled {line : List UInt8} {reply : Except StoryError q.Reply}
    (h : q.settled? line = some reply) (rest : List (List UInt8)) :
    t.reading q (line :: rest) = (reply, { t.writes q.mark "" with lines := rest }) := by
  rw [← print_eq]
  unfold Query.settled? at h
  rcases hl : lineText? line with _ | text
  · rw [hl] at h
    cases h
    cases q <;> simp only [reading, readLine, askFrom, chooseFrom, hl] <;> rfl
  · simp only [hl, Option.map_eq_some_iff] at h
    obtain ⟨r, hr, rfl⟩ := h
    cases q with
    | line prompt =>
      cases hr
      simp only [reading, readLine, hl]
      rfl
    | ask question =>
      simp only [Query.taken?, Option.ite_none_left_eq_some, Option.some.injEq] at hr
      obtain ⟨hne, rfl⟩ := hr
      simp only [reading, askFrom, hl, if_neg hne]
      rfl
    | choose p =>
      simp only [Query.taken?] at hr
      simp only [reading, chooseFrom, hl, hr]
      rfl

theorem tried_one (t : Terminal) (q : Query) :
    t.tried q 1 = t.writes q.mark (q.rejection t.color) := by
  simp [tried]

theorem tried_succ (t : Terminal) (q : Query) (n : Nat) :
    (t.tried q 1).tried q n = t.tried q (n + 1) := by
  simp [tried, List.replicate_succ]

theorem reading_passed {line : List UInt8} (h : q.settled? line = none) (rest : List (List UInt8)) :
    t.reading q (line :: rest) = (t.tried q 1).reading q rest := by
  unfold Query.settled? at h
  rcases hl : lineText? line with _ | text
  · rw [hl] at h
    cases h
  · simp only [hl, Option.map_eq_none_iff] at h
    cases q with
    | line prompt => cases h
    | ask question =>
      simp only [Query.taken?, ite_eq_left_iff, reduceCtorEq, imp_false, not_not] at h
      simp only [reading, askFrom, hl, if_pos h]
      rw [tried_one, print_eq]
      rfl
    | choose p =>
      simp only [Query.taken?] at h
      simp only [reading, chooseFrom, hl, h]
      rw [tried_one, warn_eq, print_eq, writes_writes, String.append_empty, String.empty_append]
      rfl

/-- All lines that are read in vain at once. -/
theorem reading_append {passed : List (List UInt8)} (h : ∀ l ∈ passed, q.settled? l = none)
    (rest : List (List UInt8)) :
    t.reading q (passed ++ rest) = (t.tried q passed.length).reading q rest := by
  induction passed generalizing t with
  | nil => simp [tried]
  | cons l passed ih =>
    obtain ⟨hl, hpassed⟩ := List.forall_mem_cons.mp h
    rw [List.cons_append, reading_passed hl, ih hpassed, tried_succ, List.length_cons]

/-- A query that goes some way is put with that outcome. -/
theorem Goes.put_eq {taken : List (List UInt8)} {out : Except StoryError q.Reply × Terminal}
    (h : Goes t q taken out) : t.put q = out := by
  cases h with
  | settled hlines hpassed hline =>
    have hnone := fun l hl => Query.settled?_eq_none.mpr (hpassed l hl)
    rw [Terminal.put_eq, hlines, reading_append hnone,
      reading_settled (Query.settled?_eq_some.mpr hline)]
    rfl
  | ends hpassed =>
    have hnone := fun l hl => Query.settled?_eq_none.mpr (hpassed l hl)
    have hall := reading_append (t := t.writes (q.opening t.color) "") hnone []
    rw [List.append_nil] at hall
    rw [Terminal.put_eq, hall, reading_nil]
    rfl

/-- Every query goes some way: a line settles it, or the input ends. -/
theorem put_goes (t : Terminal) (q : Query) : ∃ taken, Goes t q taken (t.put q) := by
  have hgoes : ∃ taken out, Goes t q taken out := by
    rcases hfound : t.lines.findSome? q.settled? with _ | reply
    · rw [List.findSome?_eq_none_iff] at hfound
      exact ⟨_, _, .ends fun l hl => Query.settled?_eq_none.mp (hfound l hl)⟩
    · obtain ⟨passed, line, rest, hlines, hline, hpassed⟩ :=
        List.findSome?_eq_some_iff.mp hfound
      exact ⟨_, _, .settled hlines (fun l hl => Query.settled?_eq_none.mp (hpassed l hl))
        (Query.settled?_eq_some.mp hline)⟩
  obtain ⟨taken, out, h⟩ := hgoes
  exact ⟨taken, h.put_eq ▸ h⟩

theorem Goes.lines_eq {taken : List (List UInt8)} {out : Except StoryError q.Reply × Terminal}
    (h : Goes t q taken out) : t.lines = taken ++ out.2.lines := by
  cases h with
  | settled hlines _ _ => rw [hlines, List.append_assoc]; rfl
  | ends _ => exact (List.append_nil _).symm

/-! ## Dialogues -/

/-- Puts queries one after the other. -/
def putAll (t : Terminal) :
    List Query → List ((q : Query) × Except StoryError q.Reply) × Terminal
  | [] => ([], t)
  | q :: qs => (⟨q, (t.put q).1⟩ :: ((t.put q).2.putAll qs).1, ((t.put q).2.putAll qs).2)

/-- How queries can go one after the other, with the lines that each of them takes. -/
inductive Dialogue : Terminal → List Query → List (List (List UInt8)) →
    List ((q : Query) × Except StoryError q.Reply) × Terminal → Prop
  | nil (t : Terminal) : Dialogue t [] [] ([], t)
  | cons {t t' last : Terminal} {q : Query} {qs : List Query} {taken : List (List UInt8)}
      {takens : List (List (List UInt8))} {reply : Except StoryError q.Reply}
      {replies : List ((q : Query) × Except StoryError q.Reply)}
      (hq : Goes t q taken (reply, t')) (hqs : Dialogue t' qs takens (replies, last)) :
      Dialogue t (q :: qs) (taken :: takens) (⟨q, reply⟩ :: replies, last)

theorem putAll_dialogue (t : Terminal) (qs : List Query) :
    ∃ takens, Dialogue t qs takens (t.putAll qs) := by
  induction qs generalizing t with
  | nil => exact ⟨[], .nil t⟩
  | cons q qs ih =>
    obtain ⟨taken, hq⟩ := put_goes t q
    obtain ⟨takens, hqs⟩ := ih (t.put q).2
    exact ⟨taken :: takens, .cons hq hqs⟩

theorem Dialogue.lines_eq {qs : List Query} {takens : List (List (List UInt8))}
    {out : List ((q : Query) × Except StoryError q.Reply) × Terminal}
    (h : Dialogue t qs takens out) : t.lines = takens.flatten ++ out.2.lines := by
  induction h with
  | nil t => rfl
  | cons hq hqs ih => rw [hq.lines_eq, ih, List.flatten_cons, List.append_assoc]

/-! ## Requests -/

/-- Only what was offered is chosen, and there are two errors. -/
theorem choose_reply (t : Terminal) (p : Prompt) :
    (∃ outcome, (t.choose p).1 = .ok outcome ∧ p.Offers outcome) ∨
      (t.choose p).1 = .error (.host (.io .notText)) ∨
      (t.choose p).1 = .error (.host .inputClosed) := by
  obtain ⟨taken, hgoes⟩ := put_goes t (.choose p)
  generalize hout : t.put (.choose p) = out at hgoes
  have hreply : (t.choose p).1 = out.1 := congrArg Prod.fst hout
  rw [hreply]
  cases hgoes with
  | settled _ _ hline =>
    cases hline with
    | @taken text reply hread htake =>
      cases reply with
      | chosen k => exact .inl ⟨.chosen k, rfl, htake.2⟩
      | cancelled => exact .inl ⟨.cancelled, rfl, trivial⟩
    | notText _ => exact .inr (.inl rfl)
  | ends _ =>
    simp only [Query.atEnd]
    split
    · exact .inl ⟨.cancelled, rfl, trivial⟩
    · exact .inr (.inr rfl)

variable {μ β : Type}

theorem run_present (c : Choices μ β) (s : Session μ Terminal) :
    c.present.run host s = ((s.host.choose c.prompt).1, s.prompted host c.prompt) := by
  have haccept : c.prompt.accept (s.host.choose c.prompt).1 = (s.host.choose c.prompt).1 := by
    rcases choose_reply s.host c.prompt with ⟨outcome, hreply, hoffers⟩ | hreply | hreply
    · rw [hreply, Prompt.accept_offered hoffers]
    · rw [hreply]
      rfl
    · rw [hreply]
      rfl
  rw [Choices.run_present]
  exact congrArg (·, s.prompted host c.prompt) haccept

/-- The input of a terminal is cut into lines, and whatever is put to the terminal takes the next
of them: those that it passes over, and the one that settles it, or all that are left. So every
line is read for one query, in the order of the input. A request of a story that is presented on a
terminal has the reply of the terminal, which is never an option that was not offered. -/
theorem every_line_is_read_for_one_prompt (input : List UInt8) (color : Bool)
    (directory : Except IoFailure (List (String × List UInt8))) (t : Terminal)
    (queries : List Query) (c : Choices μ β) (s : Session μ Terminal) :
    InLines input (ofInput input color directory).lines ∧
      (∃ takens, Dialogue t queries takens (t.putAll queries) ∧
        t.lines = takens.flatten ++ (t.putAll queries).2.lines) ∧
      c.present.run host s = ((s.host.choose c.prompt).1, s.prompted host c.prompt) ∧
      ∀ k, (c.present.run host s).1 ≠ .error (.host (.invalidChoice k)) := by
  obtain ⟨takens, hdialogue⟩ := putAll_dialogue t queries
  refine ⟨inLines_byteLines input, ⟨takens, hdialogue, hdialogue.lines_eq⟩, run_present c s, ?_⟩
  intro k hk
  rw [run_present] at hk
  rcases choose_reply s.host c.prompt with ⟨outcome, hreply, -⟩ | hreply | hreply
  · rw [hreply] at hk
    cases hk
  · rw [hreply] at hk
    cases hk
  · rw [hreply] at hk
    cases hk

/-- Two doors to pick from. -/
def doors : Prompt :=
  { cancellable := false, icon := none, title := none, text := "Which door?"
    options := [{ label := "Red" }, { label := "Blue" }] }

example :
    let t := ofInput [55, 10, 48, 10, 43, 48, 50, 10, 255, 10, 32, 10, 65, 100, 97] false (.ok [])
    let out := t.putAll [.choose doors, .line "", .ask "Name?", .choose doors]
    out.1 = [⟨.choose doors, .ok (.chosen 1)⟩, ⟨.line "", .error (.host (.io .notText))⟩,
        ⟨.ask "Name?", .ok "Ada"⟩, ⟨.choose doors, .error (.host .inputClosed)⟩] ∧
      out.2.lines = [] ∧
      out.2.err =
        String.join (List.replicate 2 "warning: enter a number between 1 and 2\n") := by
  refine ⟨rfl, rfl, ?_⟩
  decide

end Terminal

end Gamebook
