import VehicleDamage.Json.Record
import VehicleDamage.Style.ZoneStyle
import VehicleDamage.Template.Markers

/-!
The configuration document. Every section and every field of it may be left out.
-/

namespace VehicleDamage

open Json

/-- What happens to a report whose source names no zone. -/
inductive UnknownTagPolicy where
  | drop
  | reject
deriving DecidableEq, Repr

def UnknownTagPolicy.title : UnknownTagPolicy → String
  | drop => "Drop"
  | reject => "Reject"

/-- The settings that tell where an impact lands, as given. -/
structure ImpactConfig where
  bumperCone : Binary32
  skirtCone : Binary32
  minMagnitude : Binary32
deriving DecidableEq

namespace ImpactConfig

def rightAngle : Binary32 := .ofNat 90

/-- Bearings below this many degrees hit a bumper. -/
def bumperDegrees (c : ImpactConfig) : Binary32 :=
  c.bumperCone.clamp .zero rightAngle

/-- Bearings past this many degrees hit a skirt; never less than the bumper's. -/
def skirtDegrees (c : ImpactConfig) : Binary32 :=
  c.skirtCone.clamp c.bumperDegrees rightAngle

/-- Shorter impacts hit nothing. -/
def threshold (c : ImpactConfig) : Binary32 :=
  c.minMagnitude.atLeastZero

end ImpactConfig

/-- The look of full damage, as given. -/
structure PaletteConfig where
  damageFill : String
  damageOpacity : Binary32
deriving DecidableEq

/-- A fill that is no colour falls back to the standard one, an opacity that is no finite number to one. -/
def PaletteConfig.palette (c : PaletteConfig) : Palette :=
  { fill := (Colour.parse? c.damageFill).getD Palette.standard.fill
    opacity := if c.damageOpacity.isFinite then c.damageOpacity.clamp .zero .one else .one }

structure Config where
  requireRegistration : Bool
  unknownTags : UnknownTagPolicy
  markers : Markers
  aliases : SortedMap (List String)
  impact : ImpactConfig
  palette : PaletteConfig
  workers : Nat
  templatePath : Option String
deriving DecidableEq

namespace Config

def standardAliases : SortedMap (List String) :=
  .ofList [
    ("front", ["front-bumper"]),
    ("nose", ["front-bumper"]),
    ("rear", ["rear-bumper"]),
    ("back", ["rear-bumper"]),
    ("tail", ["rear-bumper"]),
    ("left", ["left-skirt"]),
    ("left-side", ["left-skirt"]),
    ("right", ["right-skirt"]),
    ("right-side", ["right-skirt"]),
    ("fl", ["left-front-tyre"]),
    ("fr", ["right-front-tyre"]),
    ("rl", ["left-rear-tyre"]),
    ("rr", ["right-rear-tyre"]),
    ("front-left-tyre", ["left-front-tyre"]),
    ("front-right-tyre", ["right-front-tyre"]),
    ("rear-left-tyre", ["left-rear-tyre"]),
    ("rear-right-tyre", ["right-rear-tyre"]),
    ("front-tyres", ["left-front-tyre", "right-front-tyre"]),
    ("rear-tyres", ["left-rear-tyre", "right-rear-tyre"]),
    ("left-tyres", ["left-front-tyre", "left-rear-tyre"]),
    ("right-tyres", ["right-front-tyre", "right-rear-tyre"]),
    ("tyres", ["left-front-tyre", "right-front-tyre", "left-rear-tyre", "right-rear-tyre"])]

/-- The settings of an empty document. -/
def standard : Config where
  requireRegistration := false
  unknownTags := .drop
  markers := .standard
  aliases := standardAliases
  impact := ⟨.ofNat 30, .ofNat 60, (Decimal.mk false 5 (-2)).toBinary32⟩
  palette := ⟨"#b71c1c", .one⟩
  workers := 2
  templatePath := none

/-- At least one worker serves the queue. -/
def workerCount (c : Config) : Nat :=
  max c.workers 1

def registrationShape : Record Bool where
  name := "RegistrationConfig"
  base := standard.requireRegistration
  fields := [⟨"require_registration", false, do let b ← Reader.boolean; return fun _ => b⟩]

def unknownTagsShape : Record UnknownTagPolicy where
  name := "UnknownTagConfig"
  base := standard.unknownTags
  fields := [⟨"policy", false, do
    let policy ← Reader.choice [("drop", .bare .drop), ("reject", .bare .reject)]
    return fun _ => policy⟩]

def markersShape : Record Markers where
  name := "MarkerConfig"
  base := standard.markers
  fields := [
    ⟨"zone_classes", false, do let classes ← Reader.list Reader.text; return fun m => { m with classes }⟩,
    ⟨"zone_attribute", false, do let zoneAttribute ← Reader.text; return fun m => { m with zoneAttribute }⟩]

def impactShape : Record ImpactConfig where
  name := "ImpactConfig"
  base := standard.impact
  fields := [
    ⟨"bumper_cone_degrees", false, do let bumperCone ← Reader.binary32; return fun c => { c with bumperCone }⟩,
    ⟨"skirt_cone_degrees", false, do let skirtCone ← Reader.binary32; return fun c => { c with skirtCone }⟩,
    ⟨"min_magnitude", false, do let minMagnitude ← Reader.binary32; return fun c => { c with minMagnitude }⟩]

def paletteShape : Record PaletteConfig where
  name := "PaletteConfig"
  base := standard.palette
  fields := [
    ⟨"damage_fill", false, do let damageFill ← Reader.text; return fun c => { c with damageFill }⟩,
    ⟨"damage_opacity", false, do let damageOpacity ← Reader.binary32; return fun c => { c with damageOpacity }⟩]

def ingestShape : Record Nat where
  name := "IngestConfig"
  base := standard.workers
  fields := [⟨"workers", false, do let n ← Reader.natural "usize"; return fun _ => n⟩]

def shape : Record Config where
  name := "DamageZoneConfig"
  base := standard
  fields := [
    ⟨"registration", false, do
      let requireRegistration ← Reader.record registrationShape
      return fun c => { c with requireRegistration }⟩,
    ⟨"unknown_tags", false, do
      let unknownTags ← Reader.record unknownTagsShape
      return fun c => { c with unknownTags }⟩,
    ⟨"markers", false, do let markers ← Reader.record markersShape; return fun c => { c with markers }⟩,
    ⟨"aliases", false, do let aliases ← Reader.map (Reader.list Reader.text); return fun c => { c with aliases }⟩,
    ⟨"impact", false, do let impact ← Reader.record impactShape; return fun c => { c with impact }⟩,
    ⟨"palette", false, do let palette ← Reader.record paletteShape; return fun c => { c with palette }⟩,
    ⟨"ingest", false, do let workers ← Reader.record ingestShape; return fun c => { c with workers }⟩,
    ⟨"template_path", false, do
      let templatePath ← Reader.optional (Reader.textOf "path string")
      return fun c => { c with templatePath }⟩]

def parse (text : String) : Except Json.Error Config :=
  Json.read (Reader.record shape) text.toList

end Config

end VehicleDamage
