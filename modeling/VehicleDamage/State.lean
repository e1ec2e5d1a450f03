import VehicleDamage.Overlay
import VehicleDamage.Report

/-!
The damage of one vehicle.
-/

namespace VehicleDamage

/-- Severities of one vehicle's zones, bound to a catalog. The revision counts mutations. It is a natural number: a
counter of 64 bits shows the same until `2 ^ 64` mutations have been made, and no call makes more than one. -/
structure State where
  catalog : Catalog
  severities : SortedMap Binary32
  revision : Nat
deriving DecidableEq

inductive StateFault where
  | unknownZone (zone : String)
  | nonFiniteSeverity (value : Binary32)
deriving DecidableEq

def StateFault.message : StateFault → String
  | unknownZone zone => s!"zone '{zone}' is not part of the catalog"
  | nonFiniteSeverity value => s!"severity value {value.toText} is not a finite number"

/-- The severity after a report of `value` where it was `current`. -/
def ApplyMode.update (mode : ApplyMode) (current value : Binary32) : Binary32 :=
  match mode with
  | absolute => clampSeverity value
  | delta => clampSeverity (current + value)

namespace State

def new (catalog : Catalog) : State :=
  ⟨catalog, .empty, 0⟩

def snapshot (s : State) : Snapshot :=
  ⟨s.revision, s.severities⟩

/-- What is recorded for a zone; nothing is zero. -/
def recorded (severities : SortedMap Binary32) (zone : String) : Binary32 :=
  (severities.get? zone).getD .zero

def get (s : State) (zone : String) : Except StateFault Binary32 :=
  if s.catalog.contains zone then .ok (recorded s.severities zone) else .error (.unknownZone zone)

/-- Update zones one after another; their new severities, and the map with all of them. -/
def updateAll (value : Binary32) (mode : ApplyMode) (severities : SortedMap Binary32) :
    List String → List Binary32 × SortedMap Binary32
  | [] => ([], severities)
  | zone :: more =>
    let next := mode.update (recorded severities zone) value
    let rest := updateAll value mode (severities.insert zone next) more
    (next :: rest.1, rest.2)

/-- Apply a value to every listed zone as one mutation. Value and zones are checked before anything changes. -/
def applyAll (s : State) (zones : List String) (value : Binary32) (mode : ApplyMode) :
    Except StateFault (List Binary32 × State) :=
  if !value.isFinite then .error (.nonFiniteSeverity value)
  else match zones.find? fun zone => !s.catalog.contains zone with
    | some zone => .error (.unknownZone zone)
    | none =>
      let (updated, severities) := updateAll value mode s.severities zones
      .ok (updated, { s with severities, revision := s.revision + 1 })

/-- Back to no damage. -/
def reset (s : State) : State :=
  { s with severities := .empty, revision := s.revision + 1 }

/-- Bind to another catalog; severities of zones it does not have are dropped. -/
def rebind (s : State) (catalog : Catalog) : State :=
  ⟨catalog, s.severities.filterKeys catalog.contains, s.revision + 1⟩

/-- How many severities a catalog would drop. -/
def droppedBy (s : State) (catalog : Catalog) : Nat :=
  s.severities.size - (s.severities.filterKeys catalog.contains).size

end State

end VehicleDamage
