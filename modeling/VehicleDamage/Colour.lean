import VehicleDamage.Number.Shortest
import VehicleDamage.Text.Blank
import VehicleDamage.Text.Hexadecimal

/-!
Colours, how they are written, and the scale from one to another.
-/

namespace VehicleDamage

structure Colour where
  red : UInt8
  green : UInt8
  blue : UInt8
deriving DecidableEq, Repr

namespace Colour

open Text

def black : Colour := ⟨0, 0, 0⟩

/-- Three hexadecimal digits, each standing for itself twice, or six. -/
def ofHex? (cs : List Char) : Option Colour :=
  match cs.mapM hexValue? with
  | some [r, g, b] => some ⟨UInt8.ofNat (17 * r), UInt8.ofNat (17 * g), UInt8.ofNat (17 * b)⟩
  | some [r, r', g, g', b, b'] =>
    some ⟨UInt8.ofNat (16 * r + r'), UInt8.ofNat (16 * g + g'), UInt8.ofNat (16 * b + b')⟩
  | _ => none

/-- A channel in decimal: an optional plus sign and digits worth at most 255. -/
def channel? (cs : List Char) : Option UInt8 :=
  let digits := match cs with
    | '+' :: ds => ds
    | ds => ds
  if digits.isEmpty || !digits.all Char.isDigit then none
  else if digitsValue digits ≤ 255 then some (UInt8.ofNat (digitsValue digits))
  else none

/-- The text between `rgb(` and the closing bracket at its end. -/
def arguments? (cs : List Char) : Option (List Char) :=
  match cs with
  | 'r' :: 'g' :: 'b' :: '(' :: inner =>
    match inner.reverse with
    | ')' :: reversed => some reversed.reverse
    | _ => none
  | _ => none

/-- Read `#rgb`, `#rrggbb` or `rgb(r, g, b)`. -/
def parse? (text : String) : Option Colour :=
  match trim text.toList with
  | '#' :: hex => ofHex? hex
  | cs => do
    let inner ← arguments? (cs.map Char.toLower)
    match (splitWhere (· == ',') inner).map fun field => channel? (trim field) with
    | [some r, some g, some b] => some ⟨r, g, b⟩
    | _ => none

def hexPair (channel : UInt8) : List Char :=
  let digits := Nat.toDigits 16 channel.toNat
  List.replicate (2 - digits.length) '0' ++ digits

def toHex (c : Colour) : String :=
  String.ofList ('#' :: hexPair c.red ++ hexPair c.green ++ hexPair c.blue)

/-- A share of the way from one end to the other; a NaN is no way at all. -/
def share (t : Binary32) : Binary32 :=
  if t.isNaN then .zero else t.clamp .zero .one

def mixChannel (source target : UInt8) (t : Binary32) : UInt8 :=
  let from32 := Binary32.ofNat source.toNat
  let value := from32 + (Binary32.ofNat target.toNat - from32) * t
  (value.roundToInteger.clamp .zero (.ofNat 255)).toByte

/-- The colour a share of the way from `source` to `target`. -/
def mix (source target : Colour) (t : Binary32) : Colour :=
  ⟨mixChannel source.red target.red (share t), mixChannel source.green target.green (share t),
    mixChannel source.blue target.blue (share t)⟩

end Colour

/-- The opacity a share of the way from `source` to `target`, to three decimals. -/
def mixOpacity (source target t : Binary32) : Binary32 :=
  let value := (source + (target - source) * Colour.share t).clamp .zero .one
  (value * .ofNat 1000).roundToInteger / .ofNat 1000

end VehicleDamage
