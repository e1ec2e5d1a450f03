import VehicleDamage.Number.Decimal

/-!
The fewest digits that read back as the same binary number. A count of quanta of 2^-q is exactly the decimal
`quanta * 5^q * 10^-q`, so candidates are cut off the front of that decimal.
-/

namespace VehicleDamage

attribute [local instance (high)] instPowNat

namespace BinaryFormat

/-- The magnitude, in quanta, that a decimal reads as. -/
def read (f : BinaryFormat) (d : Decimal) : Nat :=
  f.round (d.quotient.1 * f.unit) d.quotient.2

/-- The exact decimal digits of a magnitude; their exponent is `-f.quantum`. -/
def exactDigits (f : BinaryFormat) (quanta : Nat) : Nat :=
  quanta * 5 ^ f.quantum

end BinaryFormat

namespace Decimal

/-- The digits without zeros at the end. -/
def trimZeros (d : Decimal) : Decimal :=
  go (digitCount d.digits) d
where
  go : Nat → Decimal → Decimal
    | 0, d => d
    | n + 1, d =>
      if d.digits ≠ 0 ∧ d.digits % 10 = 0 then go n ⟨d.negative, d.digits / 10, d.exponent + 1⟩ else d

/-- Which of two equally near candidates is taken. -/
inductive Tie where
  | up
  | even
deriving DecidableEq

/-- The neighbours of `quanta` on the grid that drops `dropped` exact digits, the nearer one first. -/
def neighbours (f : BinaryFormat) (tie : Tie) (quanta dropped : Nat) : List Decimal :=
  let grid := 10 ^ dropped
  let below := f.exactDigits quanta / grid
  let rest := f.exactDigits quanta % grid
  let exponent : Int := (dropped : Int) - f.quantum
  let low : Decimal := ⟨false, below, exponent⟩
  let high : Decimal := ⟨false, below + 1, exponent⟩
  let lowFirst : Bool := match tie with
    | .up => decide (2 * rest < grid)
    | .even => decide (2 * rest < grid ∨ (2 * rest = grid ∧ below % 2 = 0))
  if lowFirst then [low, high] else [high, low]

/-- The shortest decimal that reads as `quanta`, and of those the nearest. -/
def shortest (f : BinaryFormat) (tie : Tie) (quanta : Nat) : Decimal :=
  if quanta = 0 then ⟨false, 0, 0⟩
  else
    let count := digitCount (f.exactDigits quanta)
    let found := (List.range count).findSome? fun n =>
      (neighbours f tie quanta (count - (n + 1))).find? fun d => f.read d == quanta
    (found.getD ⟨false, f.exactDigits quanta, -(f.quantum : Int)⟩).trimZeros

/-- Digits with a point among them and no exponent; whole numbers have no point. -/
def plainText (d : Decimal) : String :=
  let ds := Nat.toDigits 10 d.digits
  let sign := if d.negative then "-" else ""
  match d.exponent with
  | .ofNat e => sign ++ String.ofList (if d.digits = 0 then ds else ds ++ List.replicate e '0')
  | .negSucc e =>
    let padded := List.replicate (e + 2 - ds.length) '0' ++ ds
    let whole := padded.length - (e + 1)
    sign ++ String.ofList (padded.take whole ++ '.' :: padded.drop whole)

/-- Which leading exponents a document writes without an exponent mark. -/
structure PlainRange where
  lowest : Int
  highest : Int

/-- A number of a document: plain with at least one place, or with a signed exponent. -/
def documentText (range : PlainRange) (d : Decimal) : String :=
  let leading : Int := d.magnitude - 1
  if d.digits = 0 ∨ (range.lowest ≤ leading ∧ leading ≤ range.highest) then
    if d.exponent < 0 then d.plainText else d.plainText ++ ".0"
  else
    let sign := if d.negative then "-" else ""
    let mantissa := match Nat.toDigits 10 d.digits with
      | first :: [] => [first]
      | first :: more => first :: '.' :: more
      | [] => []
    let mark := if leading < 0 then "e-" else "e+"
    sign ++ String.ofList mantissa ++ mark ++ toString leading.natAbs

/-- Two places, a half going to the even neighbour. -/
def hundredths (f : BinaryFormat) (negative : Bool) (quanta : Nat) : String :=
  plainHundredths negative (roundHalfEven (quanta * 100) f.unit)
where
  plainHundredths (negative : Bool) (n : Nat) : String :=
    let digits := Nat.toDigits 10 n
    let padded := List.replicate (3 - digits.length) '0' ++ digits
    let whole := padded.length - 2
    (if negative then "-" else "") ++ String.ofList (padded.take whole ++ '.' :: padded.drop whole)

end Decimal

namespace Binary32

/-- The shortest digits, never with an exponent: `0.3`, `1`, `-0`, or a word. -/
def toText : Binary32 → String
  | nan => "NaN"
  | infinite negative => if negative then "-inf" else "inf"
  | finite negative a => (withSign negative (Decimal.shortest .single .up a.quanta)).plainText
where
  withSign (negative : Bool) (d : Decimal) : Decimal :=
    ⟨negative, d.digits, d.exponent⟩

/-- Two places, as listings show severities. -/
def toHundredths : Binary32 → String
  | nan => "NaN"
  | infinite negative => if negative then "-inf" else "inf"
  | finite negative a => Decimal.hundredths .single negative a.quanta

end Binary32

end VehicleDamage
