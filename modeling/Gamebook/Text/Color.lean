-- Colors by name. A name is one of the sixteen colors of a terminal, or red, green and blue in
-- hexadecimal, which stands for the nearest of the sixteen.
namespace Gamebook.Text

/-! ## The palette -/

/-- A mixture of red, green and blue, each from 0 to 255. -/
structure Rgb where
  red : Nat
  green : Nat
  blue : Nat
  deriving DecidableEq, Repr

/-- The square of the distance of two mixtures. -/
def Rgb.distance (a b : Rgb) : Nat :=
  let square := fun (m n : Nat) =>
    let apart := m - n + (n - m)
    apart * apart
  square a.red b.red + square a.green b.green + square a.blue b.blue

/-- A color of a terminal: its foreground code and how it looks. -/
structure Shade where
  code : Nat
  look : Rgb
  deriving DecidableEq, Repr

namespace Shade

def black : Shade := ⟨30, ⟨0, 0, 0⟩⟩
def red : Shade := ⟨31, ⟨205, 0, 0⟩⟩
def green : Shade := ⟨32, ⟨0, 205, 0⟩⟩
def yellow : Shade := ⟨33, ⟨205, 205, 0⟩⟩
def blue : Shade := ⟨34, ⟨0, 0, 238⟩⟩
def magenta : Shade := ⟨35, ⟨205, 0, 205⟩⟩
def cyan : Shade := ⟨36, ⟨0, 205, 205⟩⟩
def white : Shade := ⟨37, ⟨229, 229, 229⟩⟩
def brightBlack : Shade := ⟨90, ⟨127, 127, 127⟩⟩
def brightRed : Shade := ⟨91, ⟨255, 0, 0⟩⟩
def brightGreen : Shade := ⟨92, ⟨0, 255, 0⟩⟩
def brightYellow : Shade := ⟨93, ⟨255, 255, 0⟩⟩
def brightBlue : Shade := ⟨94, ⟨92, 92, 255⟩⟩
def brightMagenta : Shade := ⟨95, ⟨255, 0, 255⟩⟩
def brightCyan : Shade := ⟨96, ⟨0, 255, 255⟩⟩
def brightWhite : Shade := ⟨97, ⟨255, 255, 255⟩⟩

/-- The shade that looks most like a mixture, of several the first. -/
def nearest (c : Rgb) : Shade :=
  [red, green, yellow, blue, magenta, cyan, white, brightBlack, brightRed, brightGreen,
    brightYellow, brightBlue, brightMagenta, brightCyan, brightWhite].foldl
    (fun best s => if c.distance s.look < c.distance best.look then s else best) black

/-! ## Names -/

/-- The lower-case form of a color name. Besides A to Z, the Kelvin sign is a capital k. -/
def lowered (name : String) : List Char :=
  name.toList.map fun c => if c = '\u212a' then 'k' else c.toLower

def hexDigit? (c : Char) : Option Nat :=
  if '0' ≤ c ∧ c ≤ '9' then some (c.toNat - '0'.toNat)
  else if 'a' ≤ c ∧ c ≤ 'f' then some (c.toNat - 'a'.toNat + 10)
  else none

/-- One part of a mixture: two digits, or a plus sign and one. -/
def part? (a b : Char) : Option Nat := do
  let low ← hexDigit? b
  if a = '+' then return low
  return 16 * (← hexDigit? a) + low

/-- A mixture in two digits for each part, or in one digit that stands for two. -/
def mixture? : List Char → Option Rgb
  | [a, b, c, d, e, f] => do return ⟨← part? a b, ← part? c d, ← part? e f⟩
  | [a, b, c] => do return ⟨17 * (← hexDigit? a), 17 * (← hexDigit? b), 17 * (← hexDigit? c)⟩
  | _ => none

def ofLowered? : List Char → Option Shade
  | '#' :: digits => (mixture? digits).map nearest
  | name =>
    match String.ofList name with
    | "black" => some black
    | "red" => some red
    | "green" => some green
    | "yellow" => some yellow
    | "blue" => some blue
    | "magenta" => some magenta
    | "purple" => some magenta
    | "cyan" => some cyan
    | "white" => some white
    | "bright black" => some brightBlack
    | "bright red" => some brightRed
    | "bright green" => some brightGreen
    | "bright yellow" => some brightYellow
    | "bright blue" => some brightBlue
    | "bright magenta" => some brightMagenta
    | "bright cyan" => some brightCyan
    | "bright white" => some brightWhite
    | _ => none

/-- The shade of a name in any case; a name that is not known is white. -/
def ofName (name : String) : Shade := (ofLowered? (lowered name)).getD white

example : ofName "Red" = red ∧ ofName "chartreuse" = white := by decide +kernel
example : ofName "#FfD700" = brightYellow ∧ ofName "#abc" = white := by decide +kernel
example : ofName "#+f+f+f" = black ∧ ofName "#+12" = white := by decide +kernel

end Shade

end Gamebook.Text
