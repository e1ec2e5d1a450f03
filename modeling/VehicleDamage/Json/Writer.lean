import VehicleDamage.Json.Number
import VehicleDamage.SortedMap

/-!
Compact JSON.
-/

namespace VehicleDamage.Json

/-- Quotes, backslashes and control characters are escaped, and nothing else. -/
def escapeChar (c : Char) : List Char :=
  if c = '"' then ['\\', '"']
  else if c = '\\' then ['\\', '\\']
  else if c = '\x08' then ['\\', 'b']
  else if c = '\t' then ['\\', 't']
  else if c = '\n' then ['\\', 'n']
  else if c = '\x0c' then ['\\', 'f']
  else if c = '\r' then ['\\', 'r']
  else if c.toNat < 0x20 then
    "\\u00".toList ++ [Nat.digitChar (c.toNat / 16), Nat.digitChar (c.toNat % 16)]
  else [c]

def writeText (s : String) : List Char :=
  '"' :: s.toList.flatMap escapeChar ++ ['"']

/-- Shortest digits; numbers that JSON has no form for are null. -/
def writeBinary32 : Binary32 → List Char
  | .finite negative a =>
    let d := Decimal.shortest .single .even a.quanta
    (Decimal.documentText singleRange ⟨negative, d.digits, d.exponent⟩).toList
  | _ => "null".toList

def writeNatural (n : Nat) : List Char :=
  Nat.toDigits 10 n

/-- Members in the order given; a value is text already. -/
def writeObject (members : List (String × List Char)) : List Char :=
  '\x7b' :: (List.intercalate [','] (members.map fun m => writeText m.1 ++ ':' :: m.2)) ++ ['\x7d']

def writeMap {α : Type} (write : α → List Char) (m : SortedMap α) : List Char :=
  writeObject (m.entries.map fun e => (e.1, write e.2))

end VehicleDamage.Json
