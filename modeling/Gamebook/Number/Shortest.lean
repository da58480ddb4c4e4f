-- The text of a floating-point number: the fewest decimal digits that read back as it, and of
-- those the nearest. A number between 10^-5 and 10^16 is written out around a point, every other
-- one with an exponent and its sign.
import Gamebook.Number.Binary64

namespace Gamebook.Binary64

/-! ## The interval that reads back -/

/-- The numbers that read back as a finite positive number, in units of `2 ^ (scale - 1076)`:
from `low` to `high`, whose ends belong to it when the significand is even. -/
structure Interval where
  low : Nat
  middle : Nat
  high : Nat
  closed : Bool
  scale : Nat

/-- The gap below a power of two is half as wide as the one above it. -/
def interval (x : Binary64) : Interval :=
  let m := x.significand
  { low := if x.fraction = 0 && 1 < x.exponentField then 4 * m - 1 else 4 * m - 2
    middle := 4 * m
    high := 4 * m + 2
    closed := m % 2 = 0
    scale := x.scale }

/-- A decimal grid laid over the interval: `d` steps of it stand at `d * step` where a value `v`
of the interval stands at `v * unit`. The step is ten to the power `power - 400`. -/
structure Grid where
  step : Nat
  unit : Nat

def Interval.grid (i : Interval) (power : Nat) : Grid :=
  { step := Nat.pow 10 (power - 400) * Nat.pow 2 (1076 - i.scale)
    unit := Nat.pow 10 (400 - power) * Nat.pow 2 (i.scale - 1076) }

/-- Whether `d` steps of the grid read back as the number. -/
def Interval.holds (i : Interval) (g : Grid) (d : Nat) : Bool :=
  if i.closed then i.low * g.unit ≤ d * g.step && d * g.step ≤ i.high * g.unit
  else i.low * g.unit < d * g.step && d * g.step < i.high * g.unit

/-- The point of the grid that reads back as the number, the nearer one if both neighbours of
the number do, and the even one of two as near. -/
def Interval.onGrid (i : Interval) (g : Grid) : Option Nat :=
  let v := i.middle * g.unit
  let d := v / g.step
  let below := i.holds g d
  let above := i.holds g (d + 1)
  if below && above then
    let twice := 2 * (v - d * g.step)
    if twice < g.step then some d
    else if g.step < twice then some (d + 1)
    else if d % 2 = 0 then some d else some (d + 1)
  else if below then some d
  else if above then some (d + 1)
  else none

/-! ## The fewest digits -/

/-- The largest `p` with `10 ^ (p - 400)` not above the number. -/
def Interval.leading (i : Interval) : Nat :=
  ((List.range 800).reverse.find? fun p =>
    (i.grid p).step ≤ i.middle * (i.grid p).unit).getD 0

/-- Tries ever finer grids, from the power `power` down. -/
def Interval.shortest (i : Interval) : (tries power : Nat) → Nat × Nat
  | 0, power => (i.middle * (i.grid power).unit / (i.grid power).step, power)
  | tries + 1, power =>
    match i.onGrid (i.grid power) with
    | some d => (d, power)
    | none => i.shortest tries (power - 1)

/-- A decimal number: `digits · 10 ^ (power - 400)`, the digits without trailing zeros. -/
structure Decimal where
  digits : List Char
  power : Nat

def stripZeros : (digits : List Char) → Nat → Decimal
  | digits, power =>
    let kept := (digits.reverse.dropWhile (· = '0')).reverse
    ⟨kept, power + (digits.length - kept.length)⟩

/-- The shortest decimal of a finite positive number. -/
def decimal (x : Binary64) : Decimal :=
  let i := x.interval
  let (d, power) := i.shortest 17 i.leading
  stripZeros (Nat.toDigits 10 d) power

/-! ## Layout -/

/-- Lays a decimal out. `point` is where the point stands, counted from the first digit and
moved up by 400. -/
def Decimal.layout (d : Decimal) : List Char :=
  let n := d.digits.length
  let point := d.power + n
  let zeros := fun k => List.replicate k '0'
  if 400 < point && point ≤ 416 then
    if n ≤ point - 400 then d.digits ++ zeros (point - 400 - n) ++ ['.', '0']
    else d.digits.take (point - 400) ++ ['.'] ++ d.digits.drop (point - 400)
  else if 395 < point && point ≤ 400 then ['0', '.'] ++ zeros (400 - point) ++ d.digits
  else
    let exponent : Int := (point : Int) - 401
    let mantissa := if n = 1 then d.digits else d.digits.take 1 ++ ['.'] ++ d.digits.drop 1
    let sign := if exponent < 0 then '-' else '+'
    mantissa ++ ['e', sign] ++ Nat.toDigits 10 exponent.natAbs

def text (x : Binary64) : String :=
  let sign := if x.negative then ['-'] else []
  let magnitude := if x.isZero then ['0', '.', '0'] else x.decimal.layout
  String.ofList (sign ++ magnitude)

example : (text ⟨0x4415af1d78b58c40⟩, text ⟨0x3bc79ca10c924223⟩) = ("1e+20", "1e-20") := by
  decide +kernel

end Gamebook.Binary64
