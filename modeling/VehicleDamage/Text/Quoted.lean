import VehicleDamage.Text.Case
import VehicleDamage.Text.PrintTable

/-!
Text quoted for a message: what cannot be seen, or would end the quotation, is written by an escape.
-/

namespace VehicleDamage.Text

def isPrintable (c : Char) : Bool :=
  !inRanges unprintableRanges c && !inRanges combiningRanges c && !inRanges fillerRanges c

/-- The code point in braces. -/
def codeEscape (c : Char) : List Char :=
  "\\u\x7b".toList ++ Nat.toDigits 16 c.toNat ++ ['\x7d']

/-- Single quotes stand for themselves. -/
def quoteChar (c : Char) : List Char :=
  if c = '\x00' then ['\\', '0']
  else if c = '\t' then ['\\', 't']
  else if c = '\r' then ['\\', 'r']
  else if c = '\n' then ['\\', 'n']
  else if c = '\\' ∨ c = '"' then ['\\', c]
  else if c.toNat < 127 ∧ 32 ≤ c.toNat then [c]
  else if isPrintable c then [c]
  else codeEscape c

def quoted (text : String) : String :=
  "\"" ++ String.ofList (text.toList.flatMap quoteChar) ++ "\""

end VehicleDamage.Text
