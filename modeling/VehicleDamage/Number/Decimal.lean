import VehicleDamage.Number.Binary32

/-!
Decimal numbers and the literals that denote a binary32 number.
-/

namespace VehicleDamage

attribute [local instance (high)] instPowNat

/-- The number `digits * 10 ^ exponent`, or its negative. -/
structure Decimal where
  negative : Bool
  digits : Nat
  exponent : Int
deriving DecidableEq, Repr

/-- The value of a run of decimal digits. -/
def digitsValue (cs : List Char) : Nat :=
  cs.foldl (fun n c => 10 * n + (c.toNat - '0'.toNat)) 0

/-- How many decimal digits a number has; zero has none. -/
def digitCount (n : Nat) : Nat :=
  if n = 0 then 0 else (Nat.toDigits 10 n).length

namespace Decimal

/-- The quotient of naturals that a decimal's magnitude is. -/
def quotient (d : Decimal) : Nat × Nat :=
  match d.exponent with
  | .ofNat e => (d.digits * 10 ^ e, 1)
  | .negSucc e => (d.digits, 10 ^ (e + 1))

/-- The position of the leading digit: the magnitude lies below `10 ^ d.magnitude`. -/
def magnitude (d : Decimal) : Int :=
  digitCount d.digits + d.exponent

/-- The nearest binary32 number. Magnitudes past 10^60 or below 10^-60 are settled without computing them. -/
def toBinary32 (d : Decimal) : Binary32 :=
  if d.digits = 0 ∨ d.magnitude < -60 then .signedZero d.negative
  else if d.magnitude > 60 then .infinite d.negative
  else .ofQuotient d.negative (d.quotient.1 * BinaryFormat.single.unit) d.quotient.2

end Decimal

namespace Binary32

/-- The words that stand for numbers no digits can write. -/
def word? (negative : Bool) (cs : List Char) : Option Binary32 :=
  let lower := cs.map Char.toLower
  if lower = "inf".toList ∨ lower = "infinity".toList then some (.infinite negative)
  else if lower = "nan".toList then some .nan
  else none

/-- An exponent's digits after the mark, with an optional sign. -/
def exponent? (cs : List Char) : Option Int :=
  let magnitude (ds : List Char) : Option Nat :=
    if ds.isEmpty || !ds.all Char.isDigit then none else some (digitsValue ds)
  match cs with
  | '-' :: ds => (magnitude ds).map fun n => -(n : Int)
  | '+' :: ds => (magnitude ds).map fun n => (n : Int)
  | ds => (magnitude ds).map fun n => (n : Int)

/-- Digits around an optional point, at least one of them, and an optional exponent. -/
def unsigned? (negative : Bool) (cs : List Char) : Option Decimal :=
  let whole := cs.takeWhile Char.isDigit
  let afterWhole := cs.dropWhile Char.isDigit
  let (fraction, rest) :=
    match afterWhole with
    | '.' :: r => (r.takeWhile Char.isDigit, r.dropWhile Char.isDigit)
    | r => ([], r)
  if whole.isEmpty && fraction.isEmpty then none
  else
    let shift : Int := -(fraction.length : Int)
    match rest with
    | [] => some ⟨negative, digitsValue (whole ++ fraction), shift⟩
    | mark :: r =>
      if mark = 'e' ∨ mark = 'E' then
        (exponent? r).map fun e => ⟨negative, digitsValue (whole ++ fraction), shift + e⟩
      else none

/-- Read a literal: an optional sign, then a word or a decimal. -/
def ofLiteral? (text : String) : Option Binary32 :=
  let body (negative : Bool) (cs : List Char) : Option Binary32 :=
    (word? negative cs).orElse fun _ => (unsigned? negative cs).map Decimal.toBinary32
  match text.toList with
  | '-' :: cs => body true cs
  | '+' :: cs => body false cs
  | cs => body false cs

end Binary32

end VehicleDamage
