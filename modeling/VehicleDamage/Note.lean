import VehicleDamage.State

/-!
What the program reports about its own doings, as far as it is for an operator: the events of the levels INFO and WARN.
Events of the levels DEBUG and TRACE are left out (a vehicle registered or evicted, a report applied, an alias without
its target, a catalog loaded, queues started and stopped), and so is the one of the level ERROR, that a worker of the
queues has panicked.
-/

namespace VehicleDamage

inductive ServiceFault where
  | notTracked (vehicle : String)
  | unresolved (vehicle : String) (source : ZoneSource)
  | state (fault : StateFault)
deriving DecidableEq

def ServiceFault.message : ServiceFault → String
  | notTracked vehicle => s!"vehicle {vehicle} is not tracked"
  | unresolved vehicle source => s!"{source.description} for vehicle {vehicle} does not name a known zone"
  | state fault => fault.message

/-- Something worth noting in the log. -/
inductive Note where
  | unresolvedSource (vehicle : String) (source : ZoneSource)
  | catalogReloaded (added removed vehicles entriesDropped : Nat)
  | reportFailed (shard : Nat) (vehicle : String) (fault : ServiceFault)
  | registered (vehicle : String) (created : Bool)
  | reset (vehicle : String) (revision : Nat)
  | resetFailed (fault : ServiceFault)
  | evicted (vehicle : String) (revision : Nat)
  | evictedNothing (vehicle : String)
  | renderFailed (fault : ServiceFault)
  | overlayWritten (vehicle : String) (revision : Nat) (path : String)
  | templateReloaded (path : String) (added removed : Nat)
  | reloadRejected (path error : String)
  | configLoaded (path : String)
  | configFailed (path error : String)
  | configBuiltin
  | catalogReady (zones : Nat) (template : String)
  | watchIgnored
  | invalidCommand (input error : String)
  | shuttingDown (applied dropped failed : Nat)
deriving DecidableEq

inductive Level where
  | info
  | warn
deriving DecidableEq

def Level.name : Level → String
  | info => "INFO"
  | warn => "WARN"

/-- The value of a field of a log line. -/
inductive Detail where
  | text (s : String)
  | number (n : Nat)
  | flag (b : Bool)

def Detail.line : Detail → String
  | .text s => s
  | .number n => toString n
  | .flag b => toString b

namespace Note

def level : Note → Level
  | unresolvedSource .. | reportFailed .. | resetFailed .. | evictedNothing .. | renderFailed ..
  | reloadRejected .. | configFailed .. | watchIgnored | invalidCommand .. => .warn
  | _ => .info

/-- The part of the program a note comes from. -/
def target : Note → String
  | unresolvedSource .. | catalogReloaded .. => "damage_zones::service"
  | reportFailed .. => "damage_zones::ingest"
  | configLoaded .. | configFailed .. | configBuiltin => "damage_zones::config"
  | _ => "damage_zones::console"

def message : Note → String
  | unresolvedSource .. => "event.dropped=unresolved_tag"
  | catalogReloaded .. => "catalog.reloaded"
  | reportFailed .. => "event.failed"
  | registered .. => "command.applied=register"
  | reset .. => "command.applied=reset"
  | resetFailed .. => "reset failed"
  | evicted .. => "command.applied=evict"
  | evictedNothing .. => "evict: vehicle not tracked"
  | renderFailed .. => "render failed"
  | overlayWritten .. => "overlay written"
  | templateReloaded .. => "template reloaded"
  | reloadRejected .. => "template reload rejected; keeping current catalog"
  | configLoaded .. => "damage_zone_config.loaded=file"
  | configFailed .. => "damage_zone_config.load_failed"
  | configBuiltin => "damage_zone_config.loaded=builtin"
  | catalogReady .. => "catalog ready"
  | watchIgnored => "--watch ignored: no template path configured"
  | invalidCommand .. => "invalid command"
  | shuttingDown .. => "console shutting down"

def details : Note → List (String × Detail)
  | unresolvedSource vehicle source => [("vehicle", .text vehicle), ("source", .text source.description)]
  | catalogReloaded added removed vehicles entriesDropped =>
    [("added", .number added), ("removed", .number removed), ("vehicles", .number vehicles),
      ("entries_dropped", .number entriesDropped)]
  | reportFailed shard vehicle fault =>
    [("shard", .number shard), ("vehicle", .text vehicle), ("error", .text fault.message)]
  | registered vehicle created => [("vehicle", .text vehicle), ("created", .flag created)]
  | reset vehicle revision => [("vehicle", .text vehicle), ("revision", .number revision)]
  | resetFailed fault => [("error", .text fault.message)]
  | evicted vehicle revision => [("vehicle", .text vehicle), ("revision", .number revision)]
  | evictedNothing vehicle => [("vehicle", .text vehicle)]
  | renderFailed fault => [("error", .text fault.message)]
  | overlayWritten vehicle revision path =>
    [("vehicle", .text vehicle), ("revision", .number revision), ("path", .text path)]
  | templateReloaded path added removed =>
    [("path", .text path), ("added", .number added), ("removed", .number removed)]
  | reloadRejected path error => [("path", .text path), ("error", .text error)]
  | configLoaded path => [("path", .text path)]
  | configFailed path error => [("path", .text path), ("error", .text error)]
  | configBuiltin => []
  | catalogReady zones template => [("zones", .number zones), ("template", .text template)]
  | watchIgnored => []
  | invalidCommand input error => [("input", .text input), ("error", .text error)]
  | shuttingDown applied dropped failed =>
    [("applied", .number applied), ("dropped", .number dropped), ("failed", .number failed)]

/-- A note on one line, its details after the message. -/
def line (n : Note) : String :=
  let details := n.details.map fun d => s!" {d.1}={d.2.line}"
  s!"{n.level.name} {n.target}: {n.message}" ++ String.join details

end Note

end VehicleDamage
