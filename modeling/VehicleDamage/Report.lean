import VehicleDamage.Number.Shortest

/-!
Damage reports: what happened to which vehicle, and where it says the damage landed.
-/

namespace VehicleDamage

/-- How a reported value combines with the severity a zone has. -/
inductive ApplyMode where
  | absolute
  | delta
deriving DecidableEq, Repr

def ApplyMode.name : ApplyMode → String
  | absolute => "absolute"
  | delta => "delta"

/-- A point of collision seen from the vehicle: `x` to its right, `y` up, `z` to the front. -/
structure ImpactVector where
  x : Binary32
  y : Binary32
  z : Binary32
deriving DecidableEq

def ImpactVector.isFinite (v : ImpactVector) : Bool :=
  v.x.isFinite && v.y.isFinite && v.z.isFinite

inductive ZoneSource where
  | tag (tag : String)
  | impact (vector : ImpactVector)
deriving DecidableEq

def ZoneSource.description : ZoneSource → String
  | .tag name => s!"tag '{name}'"
  | .impact v => s!"impact ({v.x.toText}, {v.y.toText}, {v.z.toText})"

structure Report where
  vehicle : String
  source : ZoneSource
  value : Binary32
  mode : ApplyMode
deriving DecidableEq

end VehicleDamage
