import VehicleDamage.Text.Blank

/-!
Which elements of a template count as zones.
-/

namespace VehicleDamage

open Text

/-- An element is a zone by an attribute of its own or by one of its classes. -/
structure Markers where
  classes : List String
  zoneAttribute : String
deriving DecidableEq, Repr

namespace Markers

/-- The zones of the reference template, in document order. -/
def referenceZones : List String :=
  ["front-bumper", "left-skirt", "rear-bumper", "left-rear-tyre", "left-front-tyre", "right-front-tyre",
    "right-rear-tyre", "right-skirt"]

def standard : Markers :=
  ⟨referenceZones, "data-zone"⟩

/-- The first class of a `class` attribute that names a zone, whatever the case of its ASCII letters. -/
def matchClass? (m : Markers) (classAttribute : String) : Option String :=
  ((words classAttribute.toList).find? fun token =>
    m.classes.any fun known => eqIgnoreCase known.toList token).map String.ofList

end Markers

end VehicleDamage
