/-!
The shortest decimal that reads back as a given binary floating-point number. Everything is exact
arithmetic on naturals: the number lies at `centre / scale`, the reals that round to it form an
interval around it, and grids of 1, 2, ... significant digits are tried until a point falls in.
-/

namespace ParcelDesk.Decimal

/-- A decimal number `coefficient * 10 ^ exponent`. -/
structure Scientific where
  coefficient : Nat
  exponent : Int
deriving DecidableEq, Repr

/-- Which of two grid points at equal distance is taken. -/
inductive Tie
  | even
  | up
deriving DecidableEq, Repr

/-- A positive finite binary number `mantissa * 2 ^ exponent`. The flag says that the next smaller
number is only half as far away as the next larger one. -/
structure Binary where
  mantissa : Nat
  exponent : Int
  closeBelow : Bool
deriving Repr

/-- Reads the bits of a positive finite double. -/
def Binary.ofBits (bits : Nat) : Binary :=
  let fraction : Nat := bits % 0x10000000000000
  let biased : Nat := bits / 0x10000000000000 % 0x800
  if biased = 0 then ⟨fraction, -1074, false⟩
  else ⟨0x10000000000000 + fraction, (biased : Int) - 1075, fraction = 0 && 1 < biased⟩

/-- The reals that round to a number, as numerators over one denominator. -/
structure Interval where
  low : Nat
  centre : Nat
  high : Nat
  scale : Nat
  closed : Bool
deriving Repr

def Binary.interval (b : Binary) : Interval :=
  let unit := Nat.pow 2 b.exponent.toNat
  let scale := 4 * Nat.pow 2 (-b.exponent).toNat
  let below := if b.closeBelow then 1 else 2
  ⟨(4 * b.mantissa - below) * unit, 4 * b.mantissa * unit, (4 * b.mantissa + 2) * unit, scale,
    b.mantissa % 2 = 0⟩

/-- The point `k * 10 ^ e` of a grid lies in the interval. -/
def Interval.holds (i : Interval) (k : Nat) (e : Int) : Bool :=
  let point := k * Nat.pow 10 e.toNat * i.scale
  let ten := Nat.pow 10 (-e).toNat
  if i.closed then i.low * ten ≤ point && point ≤ i.high * ten
  else i.low * ten < point && point < i.high * ten

/-- The better point of the grid of step `10 ^ e`, if one of the two next to the centre fits. -/
def Interval.onGrid (i : Interval) (tie : Tie) (e : Int) : Option Nat :=
  let num := i.centre * Nat.pow 10 (-e).toNat
  let den := i.scale * Nat.pow 10 e.toNat
  let k := num / den
  let rest := 2 * (num % den)
  let below := i.holds k e
  let above := i.holds (k + 1) e
  if below && above then
    if rest < den then some k
    else if den < rest then some (k + 1)
    else if tie = .even && k % 2 = 0 then some k
    else some (k + 1)
  else if below then some k
  else if above then some (k + 1)
  else none

/-- The number of decimal places before the point: the least `e` with `num / den < 10 ^ e`,
searched downwards from an upper bound. -/
def magnitudeFrom (num den : Nat) (e : Int) : Nat → Int
  | 0 => e
  | fuel + 1 =>
    let lower := e - 1
    if num * Nat.pow 10 (-lower).toNat < den * Nat.pow 10 lower.toNat then magnitudeFrom num den lower fuel
    else e

/-- An upper bound on the places before the point is read off the binary exponent. -/
def magnitude (num den : Nat) : Int :=
  let guess : Int := ((num.log2 : Int) - den.log2 + 1) * 30103 / 100000 + 2
  magnitudeFrom num den guess 8

/-- The first grid that holds a point, from one significant digit on. -/
def Interval.shortestFrom (i : Interval) (tie : Tie) (e : Int) : Nat → Scientific
  | 0 => ⟨0, 0⟩
  | fuel + 1 =>
    match i.onGrid tie e with
    | some k => if k % 10 = 0 then ⟨k / 10, e + 1⟩ else ⟨k, e⟩
    | none => i.shortestFrom tie (e - 1) fuel

/-- The shortest decimal that reads back as the positive finite number with these bits. -/
def shortest (tie : Tie) (bits : Nat) : Scientific :=
  let i := (Binary.ofBits bits).interval
  i.shortestFrom tie (magnitude i.centre i.scale - 1) 20

end ParcelDesk.Decimal
