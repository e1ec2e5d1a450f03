import VehicleDamage.Text.Blank

/-!
The declarations of an inline style, `property:value` joined by semicolons.
-/

namespace VehicleDamage.Style

open Text

structure Declaration where
  property : String
  value : String
deriving DecidableEq, Repr

abbrev Declarations := List Declaration

/-- One declaration; a piece without a colon or with a blank property declares nothing. -/
def Declaration.parse? (piece : List Char) : Option Declaration :=
  match splitOnce? (· == ':') piece with
  | none => none
  | some (property, value) =>
    if (trim property).isEmpty then none
    else some ⟨String.ofList (trim property), String.ofList (trim value)⟩

def Declaration.isNamed (d : Declaration) (property : String) : Bool :=
  eqIgnoreCase d.property.toList property.toList

def Declaration.text (d : Declaration) : String :=
  d.property ++ ":" ++ d.value

namespace Declarations

def parse (style : String) : Declarations :=
  (splitWhere (· == ';') style.toList).filterMap Declaration.parse?

def text (ds : Declarations) : String :=
  ";".intercalate (ds.map Declaration.text)

/-- The first value declared for a property. -/
def get? (ds : Declarations) (property : String) : Option String :=
  (ds.find? (·.isNamed property)).map (·.value)

/-- Replace the first value of a property where it stands, or declare it at the end. -/
def set (ds : Declarations) (property value : String) : Declarations :=
  match ds with
  | [] => [⟨property, value⟩]
  | d :: more =>
    if d.isNamed property then ⟨d.property, value⟩ :: more
    else d :: set more property value

end Declarations

end VehicleDamage.Style
