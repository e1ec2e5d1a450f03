import VehicleDamage.Proofs.Severities

/-!
Severities updated in place: every zone is checked, then the zones are updated one after another, each reading what is
stored by then. The zones are all updated as one mutation, or nothing is stored.
-/

namespace VehicleDamage

/-- Work on a state that is stored. What has been stored when the work fails stays stored. -/
abbrev InPlace (α : Type) : Type :=
  ExceptT StateFault (StateM State) α

namespace InPlace

def ensureKnown (zone : String) : InPlace Unit := do
  unless (← get).catalog.contains zone do
    throw (.unknownZone zone)

/-- Store the new severity of a zone. -/
def updateZone (value : Binary32) (mode : ApplyMode) (zone : String) : InPlace Binary32 := do
  let s ← get
  let next := mode.update (State.recorded s.severities zone) value
  set { s with severities := s.severities.insert zone next }
  return next

/-- Apply a value to every listed zone; gives their new severities. -/
def applyAll (zones : List String) (value : Binary32) (mode : ApplyMode) : InPlace (List Binary32) := do
  unless value.isFinite do
    throw (.nonFiniteSeverity value)
  zones.forM ensureKnown
  let updated ← zones.mapM (updateZone value mode)
  modify fun s => { s with revision := s.revision + 1 }
  return updated

variable {α β : Type}

/-- The result of some work, and the state that is stored after it. -/
def perform (work : InPlace α) (s : State) : Except StateFault α × State :=
  (work.run.run s).run

/-- What is stored after a change that gives a new state if it does not fail. -/
def settled (s : State) : Except StateFault (α × State) → Except StateFault α × State
  | .ok (a, next) => (.ok a, next)
  | .error fault => (.error fault, s)

variable {s : State} {zones : List String} {value : Binary32} {mode : ApplyMode}

end InPlace

end VehicleDamage
