/-!
Finite double precision numbers, held as the exact number they denote. All
rounding is one function on natural numbers, `roundRatio`: to the nearest
double, ties to the even one. A decimal is read in the customary two steps,
first the digits and then one scaling by a power of ten, each of them rounded;
the result can therefore differ in the last place from the double nearest to
the decimal.
-/

namespace MessageContract

/-- A finite double: its sign and the other 63 bits of its encoding, which
order the magnitudes. -/
structure Binary64 where
  negative : Bool
  magnitude : Nat
  finite : magnitude < 2047 * Nat.pow 2 52 := by decide
deriving DecidableEq

namespace Binary64

def zero : Binary64 where
  negative := false
  magnitude := 0

def one : Binary64 where
  negative := false
  magnitude := 1023 * Nat.pow 2 52

def neg (x : Binary64) : Binary64 :=
  { x with negative := !x.negative }

/-- The integer that the double multiplies by a power of two. -/
def significandOf (magnitude : Nat) : Nat :=
  if magnitude < Nat.pow 2 52 then magnitude else magnitude % Nat.pow 2 52 + Nat.pow 2 52

/-- The power of two of `significandOf`, counted from the least one, -1074. -/
def scaleOf (magnitude : Nat) : Nat :=
  magnitude / Nat.pow 2 52 - 1

/-- Numerator and denominator of the number that a magnitude denotes. -/
def ratioOf (magnitude : Nat) : Nat × Nat :=
  if scaleOf magnitude < 1074 then
    (significandOf magnitude, Nat.pow 2 (1074 - scaleOf magnitude))
  else (significandOf magnitude * Nat.pow 2 (scaleOf magnitude - 1074), 1)

/-- The integer nearest to a quotient, the even one of two equally near. -/
def nearestEven (num den : Nat) : Nat :=
  let q := num / den
  let twice := 2 * (num % den)
  if twice < den || (twice == den && q % 2 == 0) then q else q + 1

/-- The magnitude nearest to a quotient, as if there were no greatest double. -/
def roundRatio (num den : Nat) : Nat :=
  if num = 0 then 0
  else
    -- The quotient lies in [2 ^ k, 2 ^ (k + 1)) for k = `high` or `high - 1`.
    let high : Int := (num.log2 : Int) - den.log2
    let atLeast (k : Int) : Bool :=
      if 0 ≤ k then den * Nat.pow 2 k.toNat ≤ num else den ≤ num * Nat.pow 2 (-k).toNat
    let k := if atLeast high then high else high - 1
    let scale := (k - 52 + 1074).toNat
    let m :=
      if scale < 1074 then nearestEven (num * Nat.pow 2 (1074 - scale)) den
      else nearestEven num (den * Nat.pow 2 (scale - 1074))
    scale * Nat.pow 2 52 + m

def ofMagnitude? (negative : Bool) (magnitude : Nat) : Option Binary64 :=
  if h : magnitude < 2047 * Nat.pow 2 52 then some { negative, magnitude, finite := h } else none

/-- The double nearest to an integer, unless it is too great. -/
def ofInt? (n : Int) : Option Binary64 :=
  ofMagnitude? (n < 0) (roundRatio n.natAbs 1)

/-- Multiplies a magnitude by the double nearest to a power of ten. -/
def timesPower (magnitude exponent : Nat) : Nat :=
  let (n, d) := ratioOf magnitude
  let (p, q) := ratioOf (roundRatio (Nat.pow 10 exponent) 1)
  roundRatio (n * p) (d * q)

/-- Divides a magnitude by the double nearest to a power of ten. -/
def overPower (magnitude exponent : Nat) : Nat :=
  let (n, d) := ratioOf magnitude
  let (p, q) := ratioOf (roundRatio (Nat.pow 10 exponent) 1)
  roundRatio (n * q) (d * p)

/-- Reads `significand * 10 ^ exponent`; `none` if that exceeds every double.
The powers of ten go up to 10 ^ 308, so a smaller scale takes two divisions. -/
def ofDecimal? (negative : Bool) (significand : Nat) (exponent : Int) : Option Binary64 :=
  let m := roundRatio significand 1
  if 308 < exponent then if m = 0 then ofMagnitude? negative 0 else none
  else if 0 ≤ exponent then ofMagnitude? negative (timesPower m exponent.toNat)
  else if -308 ≤ exponent then ofMagnitude? negative (overPower m (-exponent).toNat)
  else if -616 ≤ exponent then
    ofMagnitude? negative (overPower (overPower m 308) (-exponent - 308).toNat)
  else ofMagnitude? negative 0

/-- Equal as numbers: the two zeros are equal. -/
def same (x y : Binary64) : Bool :=
  x == y || (x.magnitude == 0 && y.magnitude == 0)

end Binary64

end MessageContract
