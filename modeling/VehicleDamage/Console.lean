import VehicleDamage.Command
import VehicleDamage.Ingest
import VehicleDamage.Loading

/-!
The operator's console: commands carried out on a service, and templates read anew. The console touches no file;
an overlay that is to be written is part of the reply.
-/

namespace VehicleDamage

/-- A service, the markers that its templates are read with, and how many workers serve its reports. -/
structure Console where
  service : Service
  markers : Markers
  workers : Nat
deriving DecidableEq

inductive ConsoleFault where
  | command (fault : CommandFault)
  | unwritable (path : String)
deriving DecidableEq

def ConsoleFault.message : ConsoleFault → String
  | command fault => fault.message
  | unwritable path => s!"Failed to write overlay to {path}"

/-- An overlay for a file, and what is noted once it is there. -/
structure Writing where
  path : String
  document : String
  note : Note
deriving DecidableEq

/-- What a command leaves behind. -/
structure Reply where
  printed : List String
  notes : List Note
  writing : Option Writing
  stats : Stats
deriving DecidableEq

/-- A reply of printed lines alone. -/
def Reply.printing (lines : List String) : Reply :=
  ⟨lines, [], none, ⟨0, 0, 0⟩⟩

/-- A reply of one note alone. -/
def Reply.noting (note : Note) : Reply :=
  ⟨[], [note], none, ⟨0, 0, 0⟩⟩

/-- The notes of a reply whose file, if it has one, has been written or not. -/
def Reply.settle (r : Reply) (written : Except PathFault Unit) : Except ConsoleFault (List Note) :=
  match r.writing, written with
  | none, _ => .ok r.notes
  | some w, .ok () => .ok (r.notes ++ [w.note])
  | some w, .error _ => .error (.unwritable w.path)

/-- Write the file of a reply into a directory. -/
def Reply.save (r : Reply) (d : Directory) : Except ConsoleFault (List Note) × Directory :=
  match r.writing with
  | none => (r.settle (.ok ()), d)
  | some w => match d.write w.path w.document with
    | .ok next => (r.settle (.ok ()), next)
    | .error fault => (r.settle (.error fault), d)

namespace Console

def start (config : Config) (catalog : Catalog) (workers : Nat) : Console :=
  ⟨.new catalog config.options, config.markers, workers⟩

/-! ### Commands -/

/-- Severities above zero, for the status listing. -/
def damagedZones (s : Snapshot) : List (String × Binary32) :=
  s.severities.entries.filter fun e => Binary32.zero.lt e.2

def statusHead (s : Service) : String :=
  s!"zones: {s.catalog.zones.length} require_registration={s.options.requireRegistration} "
    ++ s!"unknown_tags={s.options.unknownTags.title}"

def statusLine (vehicle : String) (s : Snapshot) : String :=
  let damaged := (damagedZones s).map fun e => e.1 ++ "=" ++ e.2.toHundredths
  s!"{vehicle} rev={s.revision} [" ++ " ".intercalate damaged ++ "]"

/-- A line about the service, then one for each vehicle. -/
def statusLines (s : Service) : List String :=
  statusHead s :: s.vehicles.entries.map fun e => statusLine e.1 e.2.snapshot

/-- An overlay is printed, or handed out for a file. -/
def renderReply (s : Service) (vehicle : String) (path : Option String) : Reply :=
  match s.overlay vehicle, path with
  | .error fault, _ => .noting (.renderFailed fault)
  | .ok overlay, none => .printing [overlay.document]
  | .ok overlay, some path =>
    ⟨[], [], some ⟨path, overlay.document, .overlayWritten vehicle overlay.revision path⟩, ⟨0, 0, 0⟩⟩

/-- Carry out a command on a service. A report goes through queues of its own, which are emptied at once. -/
def execute (workers : Nat) (s : Service) : Command → Reply × Service
  | .register vehicle =>
    let (created, next) := s.register vehicle
    (.noting (.registered vehicle created), next)
  | .record report =>
    let p := s.ingest workers [report]
    (⟨[], p.notes, none, p.stats⟩, p.service)
  | .reset vehicle => match s.reset vehicle with
    | (.ok revision, next) => (.noting (.reset vehicle revision), next)
    | (.error fault, next) => (.noting (.resetFailed fault), next)
  | .evict vehicle => match s.evict vehicle with
    | (some last, next) => (.noting (.evicted vehicle last.revision), next)
    | (none, next) => (.noting (.evictedNothing vehicle), next)
  | .render vehicle path => (renderReply s vehicle path, s)
  | .status => (.printing (statusLines s), s)

/-- Read a line and carry it out. -/
def interpret (c : Console) (line : String) : Except CommandFault Reply × Console :=
  match Command.parse line with
  | .error fault => (.error fault, c)
  | .ok command =>
    let (reply, service) := execute c.workers c.service command
    (.ok reply, { c with service })

/-! ### Templates -/

/-- Take up the template of a file. One that cannot be had or used changes nothing. -/
def reload (c : Console) (path : String) (content : Except PathFault String) : List Note × Console :=
  match Catalog.ofFile c.markers path content with
  | .error fault => ([.reloadRejected path fault.message], c)
  | .ok catalog =>
    let report := c.service.reloadReport catalog
    ([report.note, .templateReloaded path report.added.length report.removed.length],
      { c with service := c.service.reload catalog })

end Console

end VehicleDamage
