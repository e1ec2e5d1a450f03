import VehicleDamage.Json.Record
import VehicleDamage.Json.Writer
import VehicleDamage.Overlay
import VehicleDamage.Report

/-!
Reports, snapshots and zone summaries as JSON.
-/

namespace VehicleDamage

open Json

/-! ### Reports -/

def ApplyMode.reader : Reader ApplyMode :=
  Reader.choice [("absolute", .bare .absolute), ("delta", .bare .delta)]

def ImpactVector.shape : Record ImpactVector where
  name := "ImpactVector"
  base := ⟨.zero, .zero, .zero⟩
  fields := [
    ⟨"x", true, do let x ← Reader.binary32; return fun v => { v with x }⟩,
    ⟨"y", true, do let y ← Reader.binary32; return fun v => { v with y }⟩,
    ⟨"z", true, do let z ← Reader.binary32; return fun v => { v with z }⟩]

def ZoneSource.reader : Reader ZoneSource :=
  Reader.choice [
    ("tag", .holding (ZoneSource.tag <$> Reader.text)),
    ("impact", .holding (ZoneSource.impact <$> Reader.record ImpactVector.shape))]

/-- A report's fields. One without a mode is a delta. -/
def Report.shape : Record Report where
  name := "DamageEvent"
  base := ⟨"", .tag "", .zero, .delta⟩
  fields := [
    ⟨"vehicle", true, do let vehicle ← Reader.text; return fun r => { r with vehicle }⟩,
    ⟨"source", true, do let source ← ZoneSource.reader; return fun r => { r with source }⟩,
    ⟨"value", true, do let value ← Reader.binary32; return fun r => { r with value }⟩,
    ⟨"mode", false, do let mode ← ApplyMode.reader; return fun r => { r with mode }⟩]

def ImpactVector.write (v : ImpactVector) : List Char :=
  writeObject [("x", writeBinary32 v.x), ("y", writeBinary32 v.y), ("z", writeBinary32 v.z)]

def ZoneSource.write : ZoneSource → List Char
  | .tag name => writeObject [("tag", writeText name)]
  | .impact v => writeObject [("impact", v.write)]

def Report.write (r : Report) : List Char :=
  writeObject [("vehicle", writeText r.vehicle), ("source", r.source.write), ("value", writeBinary32 r.value),
    ("mode", writeText r.mode.name)]

/-- Why a report cannot be decoded. -/
inductive DecodeFault where
  | malformed (error : Json.Error)
  | malformedLine (line : Nat) (error : Json.Error)
  | nonFiniteValue (value : Binary32)
deriving DecidableEq

def DecodeFault.message : DecodeFault → String
  | malformed error => "malformed event json: " ++ error.message
  | malformedLine line error => s!"event json on line {line}: " ++ error.message
  | nonFiniteValue value => s!"event value {value.toText} is not a finite number"

namespace Report

/-- Only a finite value can be applied. -/
def validate (r : Report) : Except DecodeFault Report :=
  if r.value.isFinite then .ok r else .error (.nonFiniteValue r.value)

def decodeChars (cs : List Char) (refuse : Json.Error → DecodeFault) : Except DecodeFault Report :=
  match Json.read (Reader.record shape) (Text.trim cs) with
  | .error error => .error (refuse error)
  | .ok r => r.validate

/-- Decode one record. -/
def decode (text : String) : Except DecodeFault Report :=
  decodeChars text.toList .malformed

/-- Decode a record on each line that is not blank; a bad record leaves the others alone. -/
def decodeLines (text : String) : List (Except DecodeFault Report) :=
  (Text.lines text.toList).zipIdx.filterMap fun (line, index) =>
    if (Text.trim line).isEmpty then none else some (decodeChars line (.malformedLine (index + 1)))

def encode (r : Report) : String :=
  String.ofList r.write

end Report

/-! ### Snapshots and summaries -/

def Snapshot.shape : Record Snapshot where
  name := "DamageSnapshot"
  base := ⟨0, .empty⟩
  fields := [
    ⟨"revision", true, do let revision ← Reader.natural "u64"; return fun s => { s with revision }⟩,
    ⟨"severities", true, do let severities ← Reader.map Reader.binary32; return fun s => { s with severities }⟩]

def Snapshot.decode (text : String) : Except Json.Error Snapshot :=
  Json.read (Reader.record shape) text.toList

def Snapshot.encode (s : Snapshot) : String :=
  String.ofList (writeObject
    [("revision", writeNatural s.revision), ("severities", writeMap writeBinary32 s.severities)])

def ZoneSummary.shape : Record ZoneSummary where
  name := "ZoneStyleSummary"
  base := ⟨"", .zero, "", .zero⟩
  fields := [
    ⟨"zone", true, do let zone ← Reader.text; return fun s => { s with zone }⟩,
    ⟨"severity", true, do let severity ← Reader.binary32; return fun s => { s with severity }⟩,
    ⟨"fill", true, do let fill ← Reader.text; return fun s => { s with fill }⟩,
    ⟨"opacity", true, do let opacity ← Reader.binary32; return fun s => { s with opacity }⟩]

def ZoneSummary.decode (text : String) : Except Json.Error ZoneSummary :=
  Json.read (Reader.record shape) text.toList

def ZoneSummary.encode (s : ZoneSummary) : String :=
  String.ofList (writeObject
    [("zone", writeText s.zone), ("severity", writeBinary32 s.severity), ("fill", writeText s.fill),
      ("opacity", writeBinary32 s.opacity)])

end VehicleDamage
