import VehicleDamage.Json.Number
import VehicleDamage.Json.Skip
import VehicleDamage.SortedMap

/-!
Reading values of known shape. A record is an object with named fields, or an array of them in order.
-/

namespace VehicleDamage.Json

variable {α : Type}

/-- One field of a record: reading it gives the change it makes to the record. -/
structure Field (α : Type) where
  name : String
  isRequired : Bool
  read : Reader (α → α)

/-- A record by its name and fields; `base` holds what fields that are left out are worth. -/
structure Record (α : Type) where
  name : String
  base : α
  fields : List (Field α)

/-- One way to write a choice: a bare name, or a name with a value. -/
inductive Variant (α : Type) where
  | bare (value : α)
  | holding (read : Reader α)

def Record.description (r : Record α) : String :=
  "struct " ++ r.name

def Record.sizeDescription (r : Record α) : String :=
  r.description ++ s!" with {r.fields.length} elements"

namespace Reader

/-- Read a value of another type than expected, for its description. Containers are not entered. -/
def failWrongType (expected : String) : Reader α := do
  let fail (found : Found) : Reader α := failHere (.wrongType found expected)
  match ← peek with
  | some 'n' =>
    advance
    word "ull".toList
    fail .null
  | some 't' =>
    advance
    word "rue".toList
    fail (.boolean true)
  | some 'f' =>
    advance
    word "alse".toList
    fail (.boolean false)
  | some '-' =>
    advance
    fail (← number true).found
  | some '"' =>
    advance
    fail (.text (← restOfText true))
  | some '[' => fail .sequence
  | some '\x7b' => fail .map
  | some c => if c.isDigit then fail (← number false).found else failAtPeeked .expectedValue
  | none => failAtPeeked .expectedValue

/-- The first character of a value. -/
def valueStart : Reader Char := do
  match ← peekToken with
  | some c => return c
  | none => failAtPeeked .endInValue

def textOf (expected : String) : Reader String := do
  if (← valueStart) = '"' then
    advance
    restOfText true
  else failWrongType expected

def text : Reader String :=
  textOf "a string"

def boolean : Reader Bool := do
  let first ← valueStart
  if first = 't' then
    advance
    word "rue".toList
    return true
  else if first = 'f' then
    advance
    word "alse".toList
    return false
  else failWrongType "a boolean"

/-- A number, when one begins here. -/
def numberOf (expected : String) : Reader Number := do
  let first ← valueStart
  if first = '-' then
    advance
    number true
  else if first.isDigit then number false
  else failWrongType expected

def binary32 : Reader Binary32 := do
  return (← numberOf "f32").toBinary32

/-- A whole number of 64 bits; `expected` names its kind. -/
def natural (expected : String) : Reader Nat := do
  match ← numberOf expected with
  | .natural n => return n
  | .negative n => failHere (.wrongValue (.integer (-(n : Int))) expected)
  | .double x => failHere (.wrongType (.float x.text) expected)

def null : Reader Unit := do
  if (← valueStart) = 'n' then
    advance
    word "ull".toList
  else failWrongType "unit"

def optional (read : Reader α) : Reader (Option α) := do
  if (← peekToken) = some 'n' then
    advance
    word "ull".toList
    return none
  else return some (← read)

def colon : Reader Unit := do
  match ← peekToken with
  | some ':' => advance
  | some _ => failAtPeeked .expectedColon
  | none => failAtPeeked .endInObject

/-- Whether another element of an array follows; its comma is passed over. -/
def hasElement (first : Bool) : Reader Bool := do
  match ← peekToken with
  | none => failAtPeeked .endInList
  | some c =>
    if c = ']' then return false
    else if first then return true
    else if c = ',' then
      advance
      match ← peekToken with
      | some ']' => failAtPeeked .trailingComma
      | some _ => return true
      | none => failAtPeeked .endInValue
    else failAtPeeked .expectedCommaOrBracket

/-- Whether another key of an object follows; its comma and opening quote are passed over. -/
def hasKey (first : Bool) : Reader Bool := do
  match ← peekToken with
  | none => failAtPeeked .endInObject
  | some c =>
    if c = '\x7d' then return false
    else if first then
      if c = '"' then
        advance
        return true
      else failAtPeeked .keyNotString
    else if c = ',' then
      advance
      match ← peekToken with
      | some '"' =>
        advance
        return true
      | some '\x7d' => failAtPeeked .trailingComma
      | some _ => failAtPeeked .keyNotString
      | none => failAtPeeked .endInValue
    else failAtPeeked .expectedCommaOrBrace

def closeArray : Reader Unit := do
  match ← peekToken with
  | some ']' => advance
  | some ',' =>
    advance
    if (← peekToken) = some ']' then failAtPeeked .trailingComma else failAtPeeked .trailingCharacters
  | some _ => failAtPeeked .trailingCharacters
  | none => failAtPeeked .endInList

def closeObject : Reader Unit := do
  match ← peekToken with
  | some '\x7d' => advance
  | some ',' => failAtPeeked .trailingComma
  | some _ => failAtPeeked .trailingCharacters
  | none => failAtPeeked .endInObject

/-- How far a look for the closing bracket gets: past blanks and the bracket, and within an array past a comma
with the blanks after it. -/
def closingReach (bracket : Bracket) (cursor : Cursor) : Nat :=
  let skipBlanks (c : Cursor) : Cursor :=
    ⟨c.rest.dropWhile isBlank, c.offset + (c.rest.takeWhile isBlank).length⟩
  let here := skipBlanks cursor
  match here.rest with
  | [] => here.offset
  | c :: after =>
    if c = bracket.close then here.offset + 1
    else if c = ',' ∧ bracket = .square then (skipBlanks ⟨after, here.offset + 1⟩).offset
    else here.offset

/-- Place the faults of a container as a whole. -/
def placing (bracket : Bracket) (body : Reader α) : Reader α := fun cursor =>
  match body cursor with
  | .error ⟨cause, .pending stopped⟩ => .error ⟨cause, .at (closingReach bracket stopped)⟩
  | result => result

/-- The elements of an array, without its opening bracket. -/
def elementsWithin (read : Reader α) : Nat → Bool → Reader (List α)
  | 0, _ => failHere .endInList
  | fuel + 1, first => do
    if ← hasElement first then
      let a ← read
      return a :: (← elementsWithin read fuel false)
    else return []

def list (read : Reader α) : Reader (List α) := do
  if (← valueStart) = '[' then
    advance
    placing .square do
      let items ← elementsWithin read ((← get).rest.length + 1) true
      closeArray
      return items
  else failWrongType "a sequence"

def entriesWithin (read : Reader α) : Nat → Bool → Reader (List (String × α))
  | 0, _ => failHere .endInObject
  | fuel + 1, first => do
    if ← hasKey first then
      let key ← restOfText true
      colon
      let value ← read
      return (key, value) :: (← entriesWithin read fuel false)
    else return []

/-- An object with any keys; of a key given twice the later value counts. -/
def map (read : Reader α) : Reader (SortedMap α) := do
  if (← valueStart) = '\x7b' then
    advance
    placing .curly do
      let entries ← entriesWithin read ((← get).rest.length + 1) true
      closeObject
      return .ofList entries
  else failWrongType "a map"

/-- The fields of a record given as an array. -/
def orderedFields (r : Record α) (index : Nat) (first : Bool) (value : α) : List (Field α) → Reader α
  | [] => return value
  | f :: more => do
    if ← hasElement first then
      let change ← f.read
      orderedFields r (index + 1) false (change value) more
    else if f.isRequired then failPending (.wrongLength index r.sizeDescription)
    else orderedFields r (index + 1) first value more

/-- The fields of a record given as an object, with the names of those met. -/
def namedFieldsWithin (r : Record α) : Nat → Bool → List String → α → Reader (List String × α)
  | 0, _, _, _ => failHere .endInObject
  | fuel + 1, first, seen, value => do
    if ← hasKey first then
      let key ← restOfText true
      match r.fields.find? (·.name == key) with
      | none =>
        colon
        skipValue
        namedFieldsWithin r fuel false seen value
      | some f =>
        if seen.contains key then failPending (.duplicateField key)
        else
          colon
          let change ← f.read
          namedFieldsWithin r fuel false (key :: seen) (change value)
    else return (seen, value)

def record (r : Record α) : Reader α := do
  let first ← valueStart
  if first = '[' then
    advance
    placing .square do
      let value ← orderedFields r 0 true r.base r.fields
      closeArray
      return value
  else if first = '\x7b' then
    advance
    placing .curly do
      let (seen, value) ← namedFieldsWithin r ((← get).rest.length + 1) true [] r.base
      match r.fields.find? fun f => f.isRequired && !seen.contains f.name with
      | some f => failPending (.missingField f.name)
      | none =>
        closeObject
        return value
  else failWrongType r.description

/-- The rest of a variant's name, after its opening quote. -/
def variantName (variants : List (String × Variant α)) : Reader (Variant α) := do
  let name ← restOfText true
  match variants.lookup name with
  | some variant => return variant
  | none => failHere (.unknownVariant name (variants.map (·.1)))

/-- A choice: a bare name, or an object whose one key is the name. -/
def choice (variants : List (String × Variant α)) : Reader α := do
  let first ← valueStart
  if first = '"' then
    advance
    match ← variantName variants with
    | .bare value => return value
    | .holding _ => failPending (.wrongType .bareVariant "newtype variant")
  else if first = '\x7b' then
    advance
    if ← hasKey true then
      let variant ← variantName variants
      colon
      let value ← match variant with
        | .bare value => do
          null
          pure value
        | .holding read => read
      match ← peekToken with
      | some '\x7d' =>
        advance
        return value
      | some _ => failHere .expectedValue
      | none => failHere .endInObject
    else failAtPeeked .expectedValue
  else failAtPeeked .expectedValue

/-- A whole text: one value with nothing but blanks around it. -/
def document (read : Reader α) : Reader α := do
  let value ← read
  if (← peekToken).isSome then failAtPeeked .trailingCharacters
  return value

end Reader

/-- Read a text that is one value. -/
def read (reader : Reader α) (text : List Char) : Except Error α :=
  match (Reader.document reader) ⟨text, 0⟩ with
  | .ok (value, _) => .ok value
  | .error fault => .error (fault.locate text)

end VehicleDamage.Json
