import VehicleDamage.Config
import VehicleDamage.Number.Plane
import VehicleDamage.Report
import VehicleDamage.Template.Catalog

/-!
From the source of a report to the zones it means.
-/

namespace VehicleDamage

/-- How an impact's bearing is classed, from the nearer end of the vehicle to its side. -/
inductive ImpactClass where
  | bumper
  | tyreThenBumper
  | tyreThenSkirt
  | skirt
deriving DecidableEq, Repr

namespace ImpactVector

/-- The length of the vector along the ground. -/
def planarMagnitude (v : ImpactVector) : Binary32 :=
  v.x.hypot v.z

/-- Degrees off the long axis of the vehicle. -/
def bearing (v : ImpactVector) : Binary32 :=
  (v.x.foldedAngle v.z).toDegrees

/-- The cones bound the classes; between them the bearing decides which panel the corner shares. -/
def classify (c : ImpactConfig) (v : ImpactVector) : ImpactClass :=
  if v.bearing.lt c.bumperDegrees then .bumper
  else if c.skirtDegrees.lt v.bearing then .skirt
  else if v.bearing.lt ((c.bumperDegrees + c.skirtDegrees) / .ofNat 2) then .tyreThenBumper
  else .tyreThenSkirt

def endName (v : ImpactVector) : String :=
  if Binary32.zero.le v.z then "front" else "rear"

def sideName (v : ImpactVector) : String :=
  if Binary32.zero.le v.x then "right" else "left"

end ImpactVector

/-- The zones of a class, for one side and one end of the vehicle. -/
def ImpactClass.zoneNames (side fore : String) : ImpactClass → List String
  | bumper => [fore ++ "-bumper"]
  | tyreThenBumper => [s!"{side}-{fore}-tyre", fore ++ "-bumper"]
  | tyreThenSkirt => [s!"{side}-{fore}-tyre", side ++ "-skirt"]
  | skirt => [side ++ "-skirt"]

/-- Resolves sources against one catalog. `aliases` maps normal forms to zones of the catalog. -/
structure Resolver where
  catalog : Catalog
  aliases : SortedMap (List String)
  impact : ImpactConfig
deriving DecidableEq

namespace Resolver

/-- The catalog's zone with a normal form. No two zones of a loaded catalog have the same, so the search finds what a
map from normal forms does. -/
def zoneNamed? (catalog : Catalog) (normal : String) : Option String :=
  catalog.ids.find? fun id => Tag.normalize id == normal

/-- The zones an alias stands for: targets that name a zone, each once, in the order listed. -/
def aliasZones (catalog : Catalog) (targets : List String) : List String :=
  targets.foldl (fun zones target => match zoneNamed? catalog (Tag.normalize target) with
    | some zone => if zones.contains zone then zones else zones ++ [zone]
    | none => zones) []

/-- Aliases that normalise alike are one; the last that stands for a zone counts. -/
def resolvedAliases (catalog : Catalog) (aliases : SortedMap (List String)) : SortedMap (List String) :=
  aliases.entries.foldl (fun table entry =>
    let zones := aliasZones catalog entry.2
    if zones.isEmpty then table else table.insert (Tag.normalize entry.1) zones) .empty

def ofCatalog (catalog : Catalog) (aliases : SortedMap (List String)) (impact : ImpactConfig) : Resolver :=
  ⟨catalog, resolvedAliases catalog aliases, impact⟩

/-- The zones a tag means. A zone's own name outranks an alias. -/
def resolveTag (r : Resolver) (tag : String) : List String :=
  let normal := Tag.normalize tag
  if normal.isEmpty then []
  else match zoneNamed? r.catalog normal with
    | some zone => [zone]
    | none => ((r.aliases.get? normal).getD []).filter r.catalog.contains

/-- The zones an impact hits. -/
def resolveImpact (r : Resolver) (v : ImpactVector) : List String :=
  if !v.isFinite || v.planarMagnitude.lt r.impact.threshold then []
  else ((v.classify r.impact).zoneNames v.sideName v.endName).filterMap (zoneNamed? r.catalog)

def resolve (r : Resolver) : ZoneSource → List String
  | .tag tag => r.resolveTag tag
  | .impact v => r.resolveImpact v

end Resolver

end VehicleDamage
