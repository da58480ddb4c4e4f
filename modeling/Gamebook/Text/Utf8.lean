-- Reading bytes as UTF-8. A byte string is cut into units: characters, and bad stretches that no
-- character can begin with. Strict reading reports the first bad stretch and where it starts;
-- lenient reading puts one replacement character for each.
namespace Gamebook.Text.Utf8

/-! ## Units -/

/-- A unit of a byte string. A bad stretch has the length of the longest part that could still
begin a character, at least one byte; a cut one ends the input where more bytes were due. -/
inductive Item where
  | char (c : Char)
  | bad (length : Nat)
  | truncated
  deriving DecidableEq, Repr

/-- For a byte that begins a longer character: how many bytes follow, and the range of the
first of them. -/
def lead (b : UInt8) : Option (Nat × UInt8 × UInt8) :=
  if 0xc2 ≤ b && b ≤ 0xdf then some (1, 0x80, 0xbf)
  else if b = 0xe0 then some (2, 0xa0, 0xbf)
  else if b = 0xed then some (2, 0x80, 0x9f)
  else if 0xe1 ≤ b && b ≤ 0xef then some (2, 0x80, 0xbf)
  else if b = 0xf0 then some (3, 0x90, 0xbf)
  else if 0xf1 ≤ b && b ≤ 0xf3 then some (3, 0x80, 0xbf)
  else if b = 0xf4 then some (3, 0x80, 0x8f)
  else none

/-- Reads `due` more bytes, the first within `lo` and `hi`, after `taken` bytes with the value
`code`. Gives the unit and how many bytes it has beyond the first. -/
def follow (code taken : Nat) : (due : Nat) → (lo hi : UInt8) → List UInt8 → Item × Nat
  | 0, _, _, _ => (.char (Char.ofNat code), taken - 1)
  | _ + 1, _, _, [] => (.truncated, taken - 1)
  | due + 1, lo, hi, b :: bs =>
    if lo ≤ b && b ≤ hi then follow (64 * code + (b.toNat - 0x80)) (taken + 1) due 0x80 0xbf bs
    else (.bad taken, taken - 1)

/-- The unit at the front of `b :: bs`, and how many bytes of `bs` belong to it. -/
def front (b : UInt8) (bs : List UInt8) : Item × Nat :=
  if b < 0x80 then (.char (Char.ofNat b.toNat), 0)
  else match lead b with
    | none => (.bad 1, 0)
    | some (due, lo, hi) =>
      let code :=
        if due = 1 then b.toNat - 0xc0 else if due = 2 then b.toNat - 0xe0 else b.toNat - 0xf0
      follow code 1 due lo hi bs

/-- The units of a byte string after its first `skip` bytes. -/
def unitsFrom : (skip : Nat) → List UInt8 → List Item
  | _, [] => []
  | skip + 1, _ :: bs => unitsFrom skip bs
  | 0, b :: bs => (front b bs).1 :: unitsFrom (front b bs).2 bs

def units (bs : List UInt8) : List Item := unitsFrom 0 bs

/-! ## Strict reading -/

/-- Why bytes are not UTF-8: a bad stretch of `length` bytes at `index`, or input that ends
inside the character at `index`. -/
inductive Fault where
  | invalid (length index : Nat)
  | incomplete (index : Nat)
  deriving DecidableEq, Repr

def Fault.message : Fault → String
  | .invalid length index => s!"invalid utf-8 sequence of {length} bytes from index {index}"
  | .incomplete index => s!"incomplete utf-8 byte sequence from index {index}"

/-- The characters of the units, which begin at byte `index`. -/
def charsFrom (index : Nat) : List Item → Except Fault (List Char)
  | [] => .ok []
  | .char c :: ps => (charsFrom (index + c.utf8Size) ps).map (c :: ·)
  | .bad length :: _ => .error (.invalid length index)
  | .truncated :: _ => .error (.incomplete index)

/-- The text that the bytes spell, or the first place where they spell none. -/
def decode (bs : List UInt8) : Except Fault String :=
  (charsFrom 0 (units bs)).map String.ofList

/-! ## Lenient reading -/

/-- The character that stands for bytes that are none. -/
def replacement : Char := '\ufffd'

def Item.shown : Item → Char
  | .char c => c
  | _ => replacement

/-- The text that the bytes spell, a replacement character for each bad stretch. -/
def decodeLenient (bs : List UInt8) : String := String.ofList ((units bs).map Item.shown)

/-! ## Writing -/

def encode (s : String) : List UInt8 := s.toUTF8.toList

example : decode [0xf0, 0x9f, 0x98, 0x80, 0x41] = .ok "😀A" := by rfl
example : decode [0x61, 0xe2, 0x82] = .error (.incomplete 1) := by rfl
example : decode [0xe2, 0x82, 0x41] = .error (.invalid 2 0) := by rfl
example : decodeLenient [0xff, 0x41, 0xf0, 0x90] = "\ufffdA\ufffd" := by rfl

end Gamebook.Text.Utf8
