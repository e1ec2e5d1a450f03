import VehicleDamage.Number.Binary32

/-!
Length and bearing of a vector in the plane. Both are computed in binary64, and the result there is rounded to
binary32.
-/

namespace VehicleDamage

attribute [local instance (high)] instPowNat

/-- The greatest `r` with `r * r ≤ n`, found bit by bit from the top. -/
def floorSqrt (n : Nat) : Nat :=
  go (n.log2 / 2 + 1) 0
where
  go : Nat → Nat → Nat
    | 0, root => root
    | bit + 1, root =>
      let next := root + 2 ^ bit
      go bit (if next * next ≤ n then next else root)

namespace Binary32

open BinaryFormat (double)

/-- The square root in binary64, of quanta and in quanta. The root is taken to half a quantum; what it leaves out
counts as one more quarter, which lies on the same side of every rounding boundary. -/
def doubleSqrt (quanta : Nat) : Nat :=
  let square := 4 * quanta * double.unit
  let root := floorSqrt square
  double.round (2 * root + (if root * root = square then 0 else 1)) 4

/-- The length of the vector `(x, y)`. In binary64 the squares are exact, their sum and its root are rounded. -/
def hypot : Binary32 → Binary32 → Binary32
  | infinite _, _ => infinite false
  | _, infinite _ => infinite false
  | finite _ a, finite _ b =>
    let square := a.toDouble * a.toDouble + b.toDouble * b.toDouble
    ofDouble false (doubleSqrt (double.round square double.unit))
  | _, _ => nan

/-- One, in the fixed point numbers that `arctangent` sums its series in. -/
def seriesUnit : Nat := 2 ^ (160 : Nat)

/-- A quarter turn in those fixed point numbers. -/
def seriesQuarter : Nat := 2295721403524109460692402599871655564227077512209

/-- Euler's series for the arctangent of `a / b ≤ 1`, without its leading factor `a b / (a² + b²)`:
each term is `2n / (2n + 1) * a² / (a² + b²)`, at most half, of the one before. -/
def eulerSeries (a b : Nat) : Nat :=
  go 1 160 seriesUnit seriesUnit
where
  go : Nat → Nat → Nat → Nat → Nat
    | _, 0, _, sum => sum
    | n, count + 1, term, sum =>
      let next := term * (2 * n) * (a * a) / ((2 * n + 1) * (a * a + b * b))
      go (n + 1) count next (sum + next)

/-- The arctangent of `a / b` in radians, as a quotient. -/
def arctangent (a b : Nat) : Nat × Nat :=
  let square := a * a + b * b
  if a ≤ b then (a * b * eulerSeries a b, square * seriesUnit)
  else (seriesQuarter * square - a * b * eulerSeries b a, square * seriesUnit)

/-- The angle in radians between the second axis and the vector `(x, y)` folded into the first quadrant. -/
def foldedAngle : Binary32 → Binary32 → Binary32
  | finite _ a, finite _ b =>
    if a.quanta = 0 then zero
    else
      let angle := arctangent a.quanta b.quanta
      ofDouble false (double.round (angle.1 * double.unit) angle.2)
  | _, _ => nan

/-- Degrees in a radian. -/
def degreesPerRadian : Binary32 :=
  ofQuotient false (15019745 * BinaryFormat.single.unit) (2 ^ (18 : Nat))

def toDegrees (x : Binary32) : Binary32 :=
  x * degreesPerRadian

end Binary32

end VehicleDamage
