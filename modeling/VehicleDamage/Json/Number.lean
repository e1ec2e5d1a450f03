import VehicleDamage.Json.Reader
import VehicleDamage.Number.Shortest

/-!
Numbers of a JSON text. Whole numbers of 64 bits stay whole; all others are binary64 numbers, made of the
digits that fit into 64 bits by one multiplication or division by a power of ten.
-/

namespace VehicleDamage.Json

open BinaryFormat (double)

attribute [local instance (high)] instPowNat

/-- The magnitude of a finite binary64 number, in quanta of 2^-1074, with a sign. -/
structure Double where
  negative : Bool
  quanta : Nat
deriving DecidableEq, Repr

inductive Number where
  | natural (n : Nat)
  | negative (n : Nat)
  | double (x : Double)
deriving DecidableEq, Repr

/-- Documents write numbers up to 10^13 (binary32) or 10^16 (binary64) without an exponent. -/
def singleRange : Decimal.PlainRange := ⟨-6, 12⟩

def doubleRange : Decimal.PlainRange := ⟨-5, 15⟩

def Double.text (x : Double) : String :=
  let d := Decimal.shortest .double .even x.quanta
  Decimal.documentText doubleRange ⟨x.negative, d.digits, d.exponent⟩

/-- A whole number is rounded once, any other a second time after its rounding to binary64. -/
def Number.toBinary32 : Number → Binary32
  | natural n => .ofNat n
  | negative n => .ofInt (-(n : Int))
  | double x => .ofDouble x.negative x.quanta

def Number.found : Number → Found
  | natural n => .integer n
  | negative n => .integer (-(n : Int))
  | double x => .float x.text

/-- The binary64 number nearest to a power of ten. -/
def powerOfTen (n : Nat) : Nat :=
  double.round (10 ^ n) 1

/-- Divide quanta by a power of ten, by 10^308 as often as it takes. -/
def divideByPower (quanta n : Nat) : Nat :=
  if n ≤ 308 then double.round quanta (powerOfTen n)
  else if quanta = 0 then 0
  else divideByPower (double.round quanta (powerOfTen 308)) (n - 308)
termination_by n

/-- The quanta of `significand * 10 ^ exponent`, or `none` beyond the range of binary64. -/
def doubleQuanta? (significand : Nat) (exponent : Int) : Option Nat :=
  let whole := double.round (significand * double.unit) 1
  match exponent with
  | .ofNat n =>
    if n ≤ 308 then
      let product := double.round (whole * powerOfTen n) 1
      if product < double.limit then some product else none
    else if whole = 0 then some 0 else none
  | .negSucc n => some (divideByPower whole (n + 1))

/-- Take digits into a significand while it fits into 64 bits; how many were taken, and what is left. -/
def takeSignificand (significand count : Nat) : List Char → Nat × Nat × List Char
  | [] => (significand, count, [])
  | c :: cs =>
    let next := 10 * significand + (c.toNat - '0'.toNat)
    if c.isDigit ∧ next < UInt64.size then takeSignificand next (count + 1) cs
    else (significand, count, c :: cs)

namespace Reader

def significandFrom (significand : Nat) : Reader (Nat × Nat) := do
  let cursor ← get
  let (value, count, rest) := takeSignificand significand 0 cursor.rest
  set (⟨rest, cursor.offset + count⟩ : Cursor)
  return (value, count)

def makeDouble (negative : Bool) (significand : Nat) (exponent : Int) : Reader Number :=
  match doubleQuanta? significand exponent with
  | some quanta => return .double ⟨negative, quanta⟩
  | none => failHere .numberOutOfRange

/-- Digits of an exponent while it fits into 31 bits. -/
def takeExponent (exponent count : Nat) : List Char → Nat × Nat × List Char
  | [] => (exponent, count, [])
  | c :: cs =>
    let next := 10 * exponent + (c.toNat - '0'.toNat)
    if c.isDigit ∧ next < 2 ^ (31 : Nat) then takeExponent next (count + 1) cs
    else (exponent, count, c :: cs)

/-- An exponent from its mark on. One too large for 31 bits is out of range as soon as that shows, unless the
number is zero or the exponent negative: then the number is zero. -/
def withExponent (negative : Bool) (significand : Nat) (exponent : Int) : Reader Number := do
  advance
  let sign ← peek
  if sign = some '+' ∨ sign = some '-' then advance
  match ← peek with
  | none => failHere .endInValue
  | some c => if !c.isDigit then failAfter 1 .invalidNumber
  let cursor ← get
  let (value, count, rest) := takeExponent 0 0 cursor.rest
  set (⟨rest, cursor.offset + count⟩ : Cursor)
  if ← isDigitNext then
    if significand ≠ 0 ∧ sign ≠ some '-' then failAfter 1 .numberOutOfRange
    else
      let _ ← takeAscii Char.isDigit
      return .double ⟨negative, 0⟩
  else makeDouble negative significand (if sign = some '-' then exponent - value else exponent + value)

def isExponentMark (c : Option Char) : Bool :=
  c == some 'e' || c == some 'E'

/-- A fraction from its point on. Digits beyond 64 bits do not count. -/
def withFraction (negative : Bool) (whole : Nat) (exponent : Int) : Reader Number := do
  advance
  let (significand, count) ← significandFrom whole
  if ← isDigitNext then
    let _ ← takeAscii Char.isDigit
  else if count = 0 then
    failAtPeeked (if (← peek).isNone then .endInValue else .invalidNumber)
  let shifted := exponent - count
  if isExponentMark (← peek) then withExponent negative significand shifted
  else makeDouble negative significand shifted

/-- What follows the whole digits. -/
def afterWhole (negative : Bool) (significand : Nat) : Reader Number := do
  let next ← peek
  if next = some '.' then withFraction negative significand 0
  else if isExponentMark next then withExponent negative significand 0
  else if !negative then return .natural significand
  else if significand ≠ 0 ∧ significand ≤ 2 ^ (63 : Nat) then return .negative significand
  else return .double ⟨true, double.round (significand * double.unit) 1⟩

/-- A number after its minus sign, if it has one. Whole digits beyond 64 bits only scale the number. -/
def number (negative : Bool) : Reader Number := do
  match ← peek with
  | none => failHere .endInValue
  | some first =>
    if first = '0' then
      advance
      if ← isDigitNext then failAtPeeked .invalidNumber else afterWhole negative 0
    else if first.isDigit then
      let (significand, _) ← significandFrom 0
      if ← isDigitNext then
        let dropped ← takeAscii Char.isDigit
        let next ← peek
        if next = some '.' then withFraction negative significand dropped.length
        else if isExponentMark next then withExponent negative significand dropped.length
        else makeDouble negative significand dropped.length
      else afterWhole negative significand
    else failAfter 1 .invalidNumber

end Reader

end VehicleDamage.Json
