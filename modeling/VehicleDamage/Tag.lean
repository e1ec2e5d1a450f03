import VehicleDamage.Text.Blank
import VehicleDamage.Text.Case

/-!
Zone tags as people write them, and their one normal form.
-/

namespace VehicleDamage.Tag

open Text

/-- Underscores and blanks become hyphens; a hyphen at the front or after another is left out. The flag says
whether a hyphen would be left out here. -/
def foldSeparators (skip : Bool) : List Char → List Char
  | [] => []
  | c :: cs =>
    if c = '-' ∨ c = '_' ∨ isBlank c then
      if skip then foldSeparators true cs else '-' :: foldSeparators true cs
    else c :: foldSeparators false cs

/-- British spelling. -/
def spellTyre : List Char → List Char
  | 't' :: 'i' :: 'r' :: 'e' :: cs => 't' :: 'y' :: 'r' :: 'e' :: spellTyre cs
  | c :: cs => c :: spellTyre cs
  | [] => []

def normalizeChars (cs : List Char) : List Char :=
  spellTyre (dropEnd (· == '-') (foldSeparators true (lower (trim cs))))

/-- The form under which tags and zone identifiers are compared. -/
def normalize (tag : String) : String :=
  String.ofList (normalizeChars tag.toList)

end VehicleDamage.Tag
