import VehicleDamage.Note
import VehicleDamage.Resolver

/-!
All tracked vehicles over one catalog. A report is recorded in two sections: the first looks the vehicle up and
applies the report to it; only for a vehicle that is not tracked a second one creates it.
-/

namespace VehicleDamage

structure Options where
  requireRegistration : Bool
  unknownTags : UnknownTagPolicy
  aliases : SortedMap (List String)
  impact : ImpactConfig
  palette : Palette
deriving DecidableEq

def Config.options (c : Config) : Options :=
  ⟨c.requireRegistration, c.unknownTags, c.aliases, c.impact, c.palette.palette⟩

structure Service where
  resolver : Resolver
  vehicles : SortedMap State
  options : Options
deriving DecidableEq

/-- A recorded report: the revision after it and the zones it changed, none when it was dropped. -/
structure Outcome where
  revision : Nat
  zones : List String
deriving DecidableEq

def Outcome.isDropped (o : Outcome) : Bool :=
  o.zones.isEmpty

/-- How a new catalog differs from the one before, and what that did to the vehicles. -/
structure ReloadReport where
  added : List String
  removed : List String
  vehiclesRebound : Nat
  entriesDropped : Nat
deriving DecidableEq

def ReloadReport.note (r : ReloadReport) : Note :=
  .catalogReloaded r.added.length r.removed.length r.vehiclesRebound r.entriesDropped

namespace Service

def new (catalog : Catalog) (options : Options) : Service :=
  ⟨.ofCatalog catalog options.aliases options.impact, .empty, options⟩

def catalog (s : Service) : Catalog :=
  s.resolver.catalog

def isTracked (s : Service) (vehicle : String) : Bool :=
  s.vehicles.contains vehicle

/-- The tracked vehicles in the order of their bytes. -/
def tracked (s : Service) : List String :=
  s.vehicles.keys

def withVehicle (s : Service) (vehicle : String) (state : State) : Service :=
  { s with vehicles := s.vehicles.insert vehicle state }

/-- Start tracking; a vehicle that is tracked already keeps its state. -/
def register (s : Service) (vehicle : String) : Bool × Service :=
  if s.isTracked vehicle then (false, s) else (true, s.withVehicle vehicle (.new s.catalog))

/-- Stop tracking; gives the last snapshot. -/
def evict (s : Service) (vehicle : String) : Option Snapshot × Service :=
  match s.vehicles.get? vehicle with
  | none => (none, s)
  | some state => (some state.snapshot, { s with vehicles := s.vehicles.erase vehicle })

def state (s : Service) (vehicle : String) : Except ServiceFault State :=
  match s.vehicles.get? vehicle with
  | none => .error (.notTracked vehicle)
  | some state => .ok state

/-! ### Recording -/

/-- Apply a report's value to a state, for the revision reached. -/
def applyTo (state : State) (zones : List String) (report : Report) : Except ServiceFault (Nat × State) :=
  match state.applyAll zones report.value report.mode with
  | .error fault => .error (.state fault)
  | .ok (_, next) => .ok (next.revision, next)

/-- Apply a report to a vehicle that is tracked in `state`. -/
def applyTracked (s : Service) (state : State) (zones : List String) (report : Report) :
    Except ServiceFault Outcome × Service :=
  match applyTo state zones report with
  | .error fault => (.error fault, s)
  | .ok (revision, next) => (.ok ⟨revision, zones⟩, s.withVehicle report.vehicle next)

/-- What the first section of recording comes to: an end, or zones for a vehicle that is not tracked. -/
inductive Phase where
  | finished (result : Except ServiceFault Outcome) (service : Service)
  | create (zones : List String) (catalog : Catalog)

/-- A report whose source names no zone. -/
def unresolved (s : Service) (report : Report) : Except ServiceFault Outcome :=
  match s.options.unknownTags with
  | .reject => .error (.unresolved report.vehicle report.source)
  | .drop => .ok ⟨((s.vehicles.get? report.vehicle).map (·.revision)).getD 0, []⟩

def beginRecord (s : Service) (report : Report) : Phase :=
  let found := s.vehicles.get? report.vehicle
  if found.isNone && s.options.requireRegistration then .finished (.error (.notTracked report.vehicle)) s
  else
    let zones := s.resolver.resolve report.source
    if zones.isEmpty then .finished (s.unresolved report) s
    else match found with
      | some state =>
        let (result, next) := s.applyTracked state zones report
        .finished result next
      | none => .create zones s.catalog

/-- The second section. The vehicle may have been created since the first. -/
def finishRecord (s : Service) (zones : List String) (catalog : Catalog) (report : Report) :
    Except ServiceFault Outcome × Service :=
  s.applyTracked ((s.vehicles.get? report.vehicle).getD (.new catalog)) zones report

/-- Resolve and apply one report. A report that changes nothing creates no vehicle. -/
def record (s : Service) (report : Report) : Except ServiceFault Outcome × Service :=
  match s.beginRecord report with
  | .finished result next => (result, next)
  | .create zones catalog => s.finishRecord zones catalog report

/-- What is noted while a report is recorded. -/
def recordNotes (s : Service) (report : Report) : List Note :=
  if !s.isTracked report.vehicle && s.options.requireRegistration then []
  else if (s.resolver.resolve report.source).isEmpty then [.unresolvedSource report.vehicle report.source]
  else []

/-! ### Reading -/

def severity (s : Service) (vehicle zone : String) : Except ServiceFault Binary32 :=
  match s.state vehicle with
  | .error fault => .error fault
  | .ok state => match state.get zone with
    | .error fault => .error (.state fault)
    | .ok severity => .ok severity

def snapshot (s : Service) (vehicle : String) : Except ServiceFault Snapshot :=
  (s.state vehicle).map State.snapshot

def overlay (s : Service) (vehicle : String) : Except ServiceFault Overlay :=
  (s.snapshot vehicle).map (Overlay.render s.options.palette s.catalog)

def overlays (s : Service) (vehicles : List String) : List (String × Except ServiceFault Overlay) :=
  vehicles.map fun vehicle => (vehicle, s.overlay vehicle)

/-! ### Resetting and reloading -/

/-- Back to no damage; gives the revision reached. -/
def reset (s : Service) (vehicle : String) : Except ServiceFault Nat × Service :=
  match s.state vehicle with
  | .error fault => (.error fault, s)
  | .ok state => (.ok state.reset.revision, s.withVehicle vehicle state.reset)

/-- What a new catalog will change. -/
def reloadReport (s : Service) (catalog : Catalog) : ReloadReport :=
  { added := catalog.ids.filter fun id => !s.catalog.contains id
    removed := s.catalog.ids.filter fun id => !catalog.contains id
    vehiclesRebound := s.vehicles.size
    entriesDropped := s.vehicles.entries.foldr (fun e dropped => e.2.droppedBy catalog + dropped) 0 }

/-- Put a new catalog in place and bind every vehicle to it. -/
def reload (s : Service) (catalog : Catalog) : Service :=
  { s with
    resolver := .ofCatalog catalog s.options.aliases s.options.impact
    vehicles := s.vehicles.mapValues fun state => state.rebind catalog }

end Service

end VehicleDamage
