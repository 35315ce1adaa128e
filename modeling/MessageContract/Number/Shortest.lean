import MessageContract.Number.Binary64

/-!
The shortest decimal that names a double. A decimal names a double if it lies
in the interval of numbers that round to it. For one digit, two digits and so
on up to seventeen, the two neighbours of the double on that decimal grid are
tried; the first grid with a neighbour inside the interval gives the digits,
the nearer neighbour if both are inside.
-/

namespace MessageContract.Binary64

/-- Digits without trailing zeros, read as `0.d₁d₂… * 10 ^ point`. -/
structure Decimal where
  digits : List Nat
  point : Int
deriving Repr, DecidableEq

/-- The interval that rounds to a magnitude, over a common denominator. -/
structure Interval where
  low : Nat
  value : Nat
  high : Nat
  den : Nat
  closed : Bool

/-- Halfway to the neighbouring doubles; the step below a power of two is half
as wide. The ends belong to the interval if the significand is even. -/
def interval (magnitude : Nat) : Interval :=
  let m := significandOf magnitude
  let scale := scaleOf magnitude
  let below := if m = Nat.pow 2 52 ∧ 0 < scale then 1 else 2
  let (up, den) := if scale < 1074 then (1, 4 * Nat.pow 2 (1074 - scale))
    else (Nat.pow 2 (scale - 1074), 4)
  { low := (4 * m - below) * up, value := 4 * m * up, high := (4 * m + 2) * up, den,
    closed := m % 2 == 0 }

/-- The number `d * 10 ^ exponent` lies in the interval. -/
def Interval.holds (i : Interval) (d : Nat) (exponent : Int) : Bool :=
  let x := d * Nat.pow 10 exponent.toNat * i.den
  let scale := Nat.pow 10 (-exponent).toNat
  if i.closed then i.low * scale ≤ x && x ≤ i.high * scale
  else i.low * scale < x && x < i.high * scale

/-- Position of the first digit: `10 ^ (point - 1) ≤ value < 10 ^ point`. The
search starts from a bound on the digits and goes down. -/
def pointOf (num den : Nat) : Nat → Int → Int
  | 0, point => point
  | fuel + 1, point =>
      if den * Nat.pow 10 (point - 1).toNat ≤ num * Nat.pow 10 (1 - point).toNat then point
      else pointOf num den fuel (point - 1)

def digitsOf (n : Nat) : List Nat :=
  (Nat.toDigits 10 n).map fun c => c.toNat - '0'.toNat

def dropTrailingZeros (ds : List Nat) : List Nat :=
  (ds.reverse.dropWhile (· == 0)).reverse

/-- Reads `d` as the first `count` digits after position `point`, where a carry
may have made it one digit longer. -/
def Decimal.ofCandidate (d count : Nat) (point : Int) : Decimal :=
  let ds := digitsOf d
  { digits := dropTrailingZeros ds, point := point + (ds.length - count : Nat) }

/-- The neighbour on the grid of `count` digits that names the double, if any.
Of two equally near neighbours the even one is taken. -/
def Interval.onGrid? (i : Interval) (point : Int) (count : Nat) : Option Decimal :=
  let exponent := point - count
  let num := i.value * Nat.pow 10 (-exponent).toNat
  let den := i.den * Nat.pow 10 exponent.toNat
  let d := num / den
  let twice := 2 * (num % den)
  let lowIn := i.holds d exponent
  let highIn := i.holds (d + 1) exponent
  let lowNearer := twice < den || (twice == den && d % 2 == 0)
  if lowIn && (lowNearer || !highIn) then some (.ofCandidate d count point)
  else if highIn then some (.ofCandidate (d + 1) count point)
  else none

def Interval.firstGrid (i : Interval) (point : Int) : (fuel count : Nat) → Decimal
  | 0, count => .ofCandidate (i.value * Nat.pow 10 (count - point).toNat / i.den) count point
  | fuel + 1, count =>
      match i.onGrid? point count with
      | some d => d
      | none => i.firstGrid point fuel (count + 1)

/-- The shortest decimal that names a nonzero magnitude. -/
def shortest (magnitude : Nat) : Decimal :=
  let i := interval magnitude
  i.firstGrid (pointOf i.value i.den 640 310) 17 1

end MessageContract.Binary64
