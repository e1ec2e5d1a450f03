import VehicleDamage.Json.Reader

/-!
Values that are passed over: fields nobody asks for. Their syntax is checked, but not the range of numbers, nor
surrogates, nor how deep they nest.
-/

namespace VehicleDamage.Json.Reader

def skipDigits : Reader Unit := do
  let _ ← takeAscii Char.isDigit

def skipExponent : Reader Unit := do
  advance
  let sign ← peek
  if sign = some '+' ∨ sign = some '-' then advance
  if ← isDigitNext then skipDigits else failAtPeeked .invalidNumber

def skipTail : Reader Unit := do
  let next ← peek
  if next = some '.' then
    advance
    if ← isDigitNext then skipDigits else failAtPeeked .invalidNumber
    let mark ← peek
    if mark = some 'e' ∨ mark = some 'E' then skipExponent
  else if next = some 'e' ∨ next = some 'E' then skipExponent

/-- A number after its minus sign, if it has one. -/
def skipNumber : Reader Unit := do
  if (← peek) = some '0' then
    advance
    if ← isDigitNext then failAtPeeked .invalidNumber
    skipTail
  else if ← isDigitNext then
    skipDigits
    skipTail
  else failAtPeeked .invalidNumber

def skipText : Reader Unit := do
  let _ ← restOfText false

/-- A key and its colon. -/
def skipKey : Reader Unit := do
  match ← peekToken with
  | some '"' => advance
  | some _ => failAtPeeked .keyNotString
  | none => failAtPeeked .endInObject
  skipText
  match ← peekToken with
  | some ':' => advance
  | some _ => failAtPeeked .expectedColon
  | none => failAtPeeked .endInObject

/-- The brackets of a container. -/
inductive Bracket where
  | square
  | curly
deriving DecidableEq

def Bracket.close : Bracket → Char
  | square => ']'
  | curly => '\x7d'

/-- A value that holds no other. -/
def skipScalar (first : Char) : Reader Unit := do
  if first = 'n' then advance; word "ull".toList
  else if first = 't' then advance; word "rue".toList
  else if first = 'f' then advance; word "alse".toList
  else if first = '-' then advance; skipNumber
  else if first.isDigit then skipNumber
  else if first = '"' then advance; skipText
  else failAtPeeked .expectedValue

mutual

def skipValueWithin : Nat → Reader Unit
  | 0 => failHere .endInValue
  | fuel + 1 => do
    match ← peekToken with
    | none => failAtPeeked .endInValue
    | some '[' =>
      advance
      skipItemsWithin fuel .square true
    | some '\x7b' =>
      advance
      skipItemsWithin fuel .curly true
    | some first => skipScalar first

/-- What a container still holds, up to its closing bracket. -/
def skipItemsWithin : Nat → Bracket → Bool → Reader Unit
  | 0, _, _ => failHere .endInValue
  | fuel + 1, bracket, first => do
    match ← peekToken with
    | none => failAtPeeked (if bracket = .square then .endInList else .endInObject)
    | some c =>
      if c = bracket.close then advance
      else
        if !first then
          if c = ',' then advance
          else failAtPeeked (if bracket = .square then .expectedCommaOrBracket else .expectedCommaOrBrace)
        if bracket = .curly then skipKey
        skipValueWithin fuel
        skipItemsWithin fuel bracket false

end

/-- Pass over a value. Every second step reads a character, so twice the text's length is fuel enough. -/
def skipValue : Reader Unit := do
  skipValueWithin (2 * (← get).rest.length + 2)

end VehicleDamage.Json.Reader
