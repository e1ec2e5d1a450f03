import VehicleDamage.Text.Quoted

/-!
What can be wrong with a JSON text, and where.
-/

namespace VehicleDamage.Json

open Text

/-- A value met where another was expected. -/
inductive Found where
  | null
  | boolean (b : Bool)
  | integer (i : Int)
  | float (digits : String)
  | text (s : String)
  | sequence
  | map
  | bareVariant
deriving DecidableEq, Repr

def Found.description : Found → String
  | null => "null"
  | boolean b => s!"boolean `{b}`"
  | integer i => s!"integer `{i}`"
  | float digits => s!"floating point `{digits}`"
  | text s => "string " ++ quoted s
  | sequence => "sequence"
  | map => "map"
  | bareVariant => "unit variant"

inductive Cause where
  | endInValue
  | endInObject
  | endInList
  | endInString
  | expectedValue
  | expectedIdent
  | expectedColon
  | expectedCommaOrBrace
  | expectedCommaOrBracket
  | keyNotString
  | trailingComma
  | trailingCharacters
  | invalidNumber
  | numberOutOfRange
  | invalidEscape
  | loneSurrogate
  | endOfHexEscape
  | controlCharacter
  | wrongType (found : Found) (expected : String)
  | wrongValue (found : Found) (expected : String)
  | wrongLength (length : Nat) (expected : String)
  | unknownVariant (name : String) (known : List String)
  | missingField (name : String)
  | duplicateField (name : String)
deriving DecidableEq, Repr

def Cause.message : Cause → String
  | endInValue => "EOF while parsing a value"
  | endInObject => "EOF while parsing an object"
  | endInList => "EOF while parsing a list"
  | endInString => "EOF while parsing a string"
  | expectedValue => "expected value"
  | expectedIdent => "expected ident"
  | expectedColon => "expected `:`"
  | expectedCommaOrBrace => "expected `,` or `\x7d`"
  | expectedCommaOrBracket => "expected `,` or `]`"
  | keyNotString => "key must be a string"
  | trailingComma => "trailing comma"
  | trailingCharacters => "trailing characters"
  | invalidNumber => "invalid number"
  | numberOutOfRange => "number out of range"
  | invalidEscape => "invalid escape"
  | loneSurrogate => "lone leading surrogate in hex escape"
  | endOfHexEscape => "unexpected end of hex escape"
  | controlCharacter => "control character (\\u0000-\\u001F) found while parsing a string"
  | wrongType found expected => s!"invalid type: {found.description}, expected {expected}"
  | wrongValue found expected => s!"invalid value: {found.description}, expected {expected}"
  | wrongLength length expected => s!"invalid length {length}, expected {expected}"
  | unknownVariant name known =>
    s!"unknown variant `{name}`, expected " ++ " or ".intercalate (known.map fun k => s!"`{k}`")
  | missingField name => s!"missing field `{name}`"
  | duplicateField name => s!"duplicate field `{name}`"

/-- A reading position: what is left of the text, and how many bytes precede it. -/
structure Cursor where
  rest : List Char
  offset : Nat
deriving DecidableEq, Repr

/-- Faults of a record as a whole are placed by the container that holds them, once it has looked for its
closing bracket from where the fault was found. -/
inductive Place where
  | at (offset : Nat)
  | pending (cursor : Cursor)
deriving DecidableEq, Repr

structure Fault where
  cause : Cause
  place : Place
deriving DecidableEq, Repr

/-- A fault with its line, counted from 1, and the bytes that precede it in that line. -/
structure Error where
  cause : Cause
  line : Nat
  column : Nat
deriving DecidableEq, Repr

def Error.message (e : Error) : String :=
  e.cause.message ++ s!" at line {e.line} column {e.column}"

/-- Line and column reached after `offset` bytes. -/
def lineColumn (line column : Nat) : Nat → List Char → Nat × Nat
  | 0, _ => (line, column)
  | offset, [] => (line, column + offset)
  | offset + 1, c :: cs =>
    if c = '\n' then lineColumn (line + 1) 0 offset cs
    else if c.utf8Size ≤ offset + 1 then lineColumn line (column + c.utf8Size) (offset + 1 - c.utf8Size) cs
    else (line, column + offset + 1)

def Fault.locate (text : List Char) (f : Fault) : Error :=
  let offset := match f.place with
    | .at offset => offset
    | .pending cursor => cursor.offset
  let place := lineColumn 1 0 offset text
  ⟨f.cause, place.1, place.2⟩

end VehicleDamage.Json
