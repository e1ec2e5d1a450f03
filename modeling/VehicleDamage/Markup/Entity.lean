import VehicleDamage.Text.Blank
import VehicleDamage.Text.Hexadecimal
import VehicleDamage.Text.Quoted

/-!
Character references in attribute values: `&lt;`, `&#60;`, `&#x3c;`.
-/

namespace VehicleDamage.Markup

open Text

/-- Why a value's references cannot be resolved. Positions are bytes of the value. -/
inductive EntityFault where
  | unknown (start stop : Nat) (name : String)
  | unterminated (start stop : Nat)
  | null (start stop : Nat)
  | longHexadecimal
  | longDecimal
  | notHexadecimal (symbol : Char)
  | notDecimal (symbol : Char)
  | notCodePoint (code : Nat)
deriving DecidableEq, Repr

def EntityFault.message : EntityFault → String
  | unknown start stop name =>
    s!"Error while escaping character at range {start}..{stop}: Unrecognized escape symbol: " ++ quoted name
  | unterminated start stop =>
    s!"Error while escaping character at range {start}..{stop}: Cannot find ';' after '&'"
  | null start stop =>
    s!"Error while escaping character at range {start}..{stop}: Null character entity not allowed"
  | longHexadecimal => "Cannot convert hexadecimal to utf8"
  | longDecimal => "Cannot convert decimal to utf8"
  | notHexadecimal symbol => s!"'{symbol}' is not a valid hexadecimal character"
  | notDecimal symbol => s!"'{symbol}' is not a valid decimal character"
  | notCodePoint code => s!"'{code}' is not a valid codepoint"

/-- The first byte of a character, as a character. -/
def leadByte (c : Char) : Char :=
  let n := c.toNat
  if n < 0x80 then c
  else if n < 0x800 then Char.ofNat (0xc0 + n / 0x40)
  else if n < 0x10000 then Char.ofNat (0xe0 + n / 0x1000)
  else Char.ofNat (0xf0 + n / 0x40000)

def hexCode (code : Nat) : List Char → Except EntityFault Nat
  | [] => .ok code
  | c :: cs => match hexValue? c with
    | some d => hexCode (16 * code + d) cs
    | none => .error (.notHexadecimal (leadByte c))

def decimalCode (code : Nat) : List Char → Except EntityFault Nat
  | [] => .ok code
  | c :: cs =>
    if c.isDigit then decimalCode (10 * code + (c.toNat - '0'.toNat)) cs
    else .error (.notDecimal (leadByte c))

/-- The code point that the digits after `#` give; `x` announces hexadecimal ones. -/
def codePoint (digits : List Char) : Except EntityFault Nat :=
  match digits with
  | 'x' :: hex => if byteLength hex > 6 then .error .longHexadecimal else hexCode 0 hex
  | ds => if byteLength ds > 7 then .error .longDecimal else decimalCode 0 ds

def namedEntity? (name : List Char) : Option Char :=
  [("lt", '<'), ("gt", '>'), ("amp", '&'), ("apos", '\''), ("quot", '"')].lookup (String.ofList name)

/-- The character a reference stands for; its `&` is byte `start` of the value. -/
def entity (start : Nat) (name : List Char) : Except EntityFault Char :=
  let stop := start + 1 + byteLength name
  match name with
  | '#' :: digits => do
    let code ← codePoint digits
    if code = 0 then .error (.null start stop)
    else if code.isValidChar then .ok (Char.ofNat code)
    else .error (.notCodePoint code)
  | _ => match namedEntity? name with
    | some c => .ok c
    | none => .error (.unknown (start + 1) stop (String.ofList name))

/-- Resolve the pieces that follow the ampersands of a value of `total` bytes, the first ampersand being byte
`start`. Each piece has to hold the semicolon that ends its reference. -/
def resolvePieces (total start : Nat) : List (List Char) → Except EntityFault (List Char)
  | [] => .ok []
  | piece :: more => match splitOnce? (· == ';') piece with
    | none => .error (.unterminated start total)
    | some (name, after) => do
      let c ← entity start name
      let rest ← resolvePieces total (start + 1 + byteLength piece) more
      return c :: after ++ rest

/-- A value with its references resolved. -/
def unescape (value : List Char) : Except EntityFault (List Char) :=
  match splitWhere (· == '&') value with
  | [] => .ok []
  | first :: pieces => do
    let rest ← resolvePieces (byteLength value) (byteLength first) pieces
    return first ++ rest

end VehicleDamage.Markup
