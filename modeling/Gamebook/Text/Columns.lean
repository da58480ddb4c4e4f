-- The columns that a text takes in a table. Some characters join those that follow them: letters
-- into ligatures, pictures into one picture, and a variation selector changes the character before
-- it. So a text is measured from its end, and each character is given what stands to its right.
import Gamebook.Text.Emoji
import Gamebook.Text.Glyph

namespace Gamebook.Text

/-! ## Letters that join -/

def isAlef (c : Char) : Bool :=
  inRanges [(0x0622, 0x0623), (0x0625, 0x0625), (0x0627, 0x0627), (0x0671, 0x0673),
    (0x0675, 0x0675), (0x0773, 0x0774), (0x0870, 0x0882)] c

def isLam (c : Char) : Bool :=
  inRanges [(0x0644, 0x0644), (0x06b5, 0x06b8), (0x076a, 0x076a), (0x08a6, 0x08a6),
    (0x08c7, 0x08c7)] c

/-- The Khmer letters that a coeng puts below the letter before them. -/
def takesCoeng (c : Char) : Bool :=
  inRanges [(0x1780, 0x1782), (0x1784, 0x1787), (0x1789, 0x178c), (0x178e, 0x1793),
    (0x1795, 0x1798), (0x179b, 0x179d), (0x17a0, 0x17a0), (0x17a2, 0x17a2), (0x17a7, 0x17a7),
    (0x17ab, 0x17ac), (0x17af, 0x17af)] c

/-- The Tifinagh consonants, which join in pairs. -/
def isTifinagh (c : Char) : Bool := inRanges [(0x2d31, 0x2d65), (0x2d6f, 0x2d6f)] c

/-- The Lisu tones that stand before a closing tone. -/
def isOpeningTone (c : Char) : Bool := 0xa4f8 ≤ c.toNat && c.toNat ≤ 0xa4fb

def isClosingTone (c : Char) : Bool := 0xa4fc ≤ c.toNat && c.toNat ≤ 0xa4fd

/-- The quotation marks that a selector can make wide. -/
def isCurlyQuote (c : Char) : Bool :=
  c = '\u2018' || c = '\u2019' || c = '\u201c' || c = '\u201d'

/-! ## What stands to the right -/

/-- What the characters to the right offer to join with. Some of it is met only after a joiner. -/
inductive Ahead where
  | nothing
  | lineFeed
  | tone
  /-- Letters of a flag: one, or more than one. -/
  | regional (several : Bool)
  | picture
  /-- A joiner and then a picture, with the frame of a key before them or not. -/
  | joined (framed : Bool)
  /-- So many letters of flags before a joiner and a picture. -/
  | joinedRegional (count : Nat)
  /-- So many tag letters before the end of the tags. -/
  | tagLetters (count : Nat)
  /-- So many tag digits before tag letters. -/
  | tagDigits (count : Nat)
  | alef
  | lamed (joined : Bool)
  | coengLetter
  | buginese (joined : Bool)
  /-- The sound i and the letter it joins with. -/
  | bugineseVowel
  | tifinagh (joined : Bool)
  /-- The sign that joins consonants, and a consonant. -/
  | tifinaghSign
  | closingTone
  | orkhon (joined : Bool)
  | kiratE
  | kiratAi
  deriving DecidableEq, Repr

namespace Ahead

/-- What a character offers to the one on its left. -/
def of (c : Char) : Ahead :=
  if c = '\n' then .lineFeed
  else if c = '\u05dc' then .lamed false
  else if isAlef c then .alef
  else if takesCoeng c then .coengLetter
  else if c = '\u1a10' then .buginese false
  else if isTifinagh c then .tifinagh false
  else if isClosingTone c then .closingTone
  else if c.toNat = 0x10c03 then .orkhon false
  else if c.toNat = 0x16d67 then .kiratE
  else if c.toNat = 0x16d68 then .kiratAi
  else if isRegional c then .regional false
  else if isTone c then .tone
  else if isPicture c then .picture
  else .nothing

/-- Whether letters are offered, which join across selectors. -/
def isLetter : Ahead → Bool
  | .alef | .lamed _ | .coengLetter | .buginese _ | .bugineseVowel | .tifinagh _ | .tifinaghSign
  | .closingTone | .orkhon _ => true
  | _ => false

/-- Whether pictures wait behind a joiner. -/
def isJoined : Ahead → Bool
  | .joined _ => true
  | _ => false

/-- What is offered after a joiner, for letters that do not mind one. -/
def pastJoiner : Ahead → Ahead
  | .lamed _ => .lamed true
  | .buginese _ => .buginese true
  | .tifinagh _ => .tifinagh true
  | .orkhon _ => .orkhon true
  | a => a

end Ahead

/-- The width of a character that joins what is ahead, and what is ahead of the next one. A width
below zero takes back a column that was counted for the right. -/
def join? (c : Char) : Ahead → Option (Int × Ahead)
  | .nothing => none
  | .lineFeed => if c = '\r' then some (0, .nothing) else none
  | .tone =>
    if isTonable c then some (0, .picture)
    else if c = joiner then some (0, .joined false) else none
  | .regional several =>
    if isRegional c then some (1, .regional true)
    else if several && c = joiner then some (0, .joined false) else none
  | .picture => if c = joiner then some (0, .joined false) else none
  | .joined true => none
  | .joined false =>
    if c = keycap then some (0, .joined true)
    else if isRegional c then some (1, .joinedRegional 1)
    else if isTone c then some (0, .tone)
    else if c = tagEnd then some (0, .tagLetters 0)
    else if isPicture c then some (0, .picture) else none
  | .joinedRegional n =>
    if isRegional c then some (if n % 2 = 1 then -1 else 3, .joinedRegional (n + 1))
    else if 1 < n && c = joiner then some (0, .joined false) else none
  | .tagLetters n =>
    if isTagLetter c && n < 6 then some (0, .tagLetters (n + 1))
    else if isTagDigit c && n < 5 then some (0, .tagDigits 1)
    else if 3 ≤ n && c = taggedFlag then some (0, .picture) else none
  | .tagDigits n =>
    if isTagDigit c && n < 3 then some (0, .tagDigits (n + 1))
    else if n = 3 && c = taggedFlag then some (0, .picture) else none
  | .alef =>
    if isLam c then some (0, .nothing)
    else if isTransparent c then some (0, .alef) else none
  | .lamed j => if j && c = '\u05d0' then some (0, .nothing) else none
  | .coengLetter => if c = '\u17d2' then some (-1, .nothing) else none
  | .buginese j => if j && c = '\u1a17' then some (0, .bugineseVowel) else none
  | .bugineseVowel => if c = '\u1a15' then some (0, .nothing) else none
  | .tifinagh j =>
    if c = '\u2d7f' then some (1, .tifinaghSign)
    else if j && isTifinagh c then some (0, .nothing) else none
  | .tifinaghSign => if isTifinagh c then some (-1, .nothing) else none
  | .closingTone => if isOpeningTone c then some (0, .nothing) else none
  | .orkhon j => if j && c.toNat = 0x10c32 then some (0, .nothing) else none
  | .kiratE =>
    if c.toNat = 0x16d63 then some (0, .nothing)
    else if c.toNat = 0x16d67 then some (0, .kiratAi)
    else if c.toNat = 0x16d68 then some (1, .kiratE)
    else if c.toNat = 0x16d69 then some (0, .nothing) else none
  | .kiratAi => if c.toNat = 0x16d63 then some (0, .nothing) else none

/-! ## Selectors -/

/-- What a selector makes of the character before it. -/
inductive Selector where
  | picture | text | wide
  deriving DecidableEq, Repr

def Selector.of? (c : Char) : Option Selector :=
  if c = '\ufe0f' then some .picture
  else if c = '\ufe0e' then some .text
  else if c = '\ufe01' then some .wide
  else none

/-- What stands to the right of a character: whether a picture selector is the first thing, which
other selectors come before anything else, and what the characters after them offer. -/
structure Context where
  picture : Bool := false
  text : Bool := false
  wide : Bool := false
  ahead : Ahead := .nothing
  deriving DecidableEq, Repr

namespace Context

/-- The context to the left of a selector. Letters can be joined across selectors, and so several
selectors before letters are all remembered; pictures that wait behind a joiner can be joined
across a picture selector alone. Nothing else is remembered. -/
def select (x : Context) : Selector → Context
  | .picture =>
    if x.ahead.isLetter || x.ahead.isJoined then { x with picture := true }
    else { picture := true }
  | .text => if x.ahead.isLetter then { x with text := true } else { text := true }
  | .wide => if x.ahead.isLetter then { x with wide := true } else { wide := true }

/-- The context of a character that the picture selector to its right does not apply to. -/
def unpictured (x : Context) : Context :=
  if !x.picture then x
  else if x.ahead.isLetter then { x with picture := false }
  else {}

end Context

/-! ## Measuring -/

/-- The width of a character to which no selector applies, given what is ahead of it, and the
context of the next one to the left. -/
def measure (c : Char) (ahead : Ahead) : Int × Context :=
  let across := ahead.isLetter && ahead ≠ .alef
  if across && c = joiner then (0, { ahead := ahead.pastJoiner })
  else if across && isUnseenMark c then (0, { ahead })
  else
    match join? c ahead with
    | some (w, a) => (w, { ahead := a })
    | none => (glyphWidth c, { ahead := .of c })

/-- One character of the scan from the right. What a selector makes a picture joins the pictures
that wait behind a joiner, and takes no column of its own then. -/
def columnStep (c : Char) (x : Context) : Int × Context :=
  if x.picture && isSelectable c then
    (if x.ahead.isJoined then 0 else 2, { ahead := .picture })
  else
    let x := x.unpictured
    match Selector.of? c with
    | some s => (0, x.select s)
    | none =>
      if x.text && isTextable c then (1, {})
      else if x.wide && isCurlyQuote c then (2, {})
      else measure c x.ahead

def columns (s : String) : Nat :=
  (s.toList.foldr (fun c (total, x) =>
    let (w, x) := columnStep c x
    (total + w, x)) ((0 : Int), ({} : Context))).1.toNat

example : columns "" = 0 ∧ columns "a\u0301\u6f22" = 3 := by decide +kernel
-- A lam and an alef are one letter, a heart is a picture before a selector, and a family is one.
example : columns "\u0644\u0627" = 1 ∧ columns "\u2764" = 1 ∧ columns "\u2764\ufe0f" = 2 := by
  decide +kernel
example : columns "\u201c\ufe01" = 2 ∧ columns "\u201c\ufe0f\ufe01\u1780" = 3 := by decide +kernel
example : columns "👨‍👩‍👧" = 2 ∧ columns "👍🏽" = 2 := by decide +kernel

end Gamebook.Text
