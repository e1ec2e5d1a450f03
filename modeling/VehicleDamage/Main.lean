import VehicleDamage.Console

/-!
The console as a program. Commands are read from standard input; notes go to standard error.
-/

namespace VehicleDamage

structure Arguments where
  config : Option String := none
  template : Option String := none
  watch : Bool := false
  workers : Option Nat := none

namespace Arguments

def usage : String :=
  "usage: [--config PATH] [--template PATH] [--watch] [--workers COUNT]"

/-- Options in any order; of one given twice the later value counts. -/
def parse (known : Arguments) : List String → Except String Arguments
  | [] => .ok known
  | "--watch" :: more => parse { known with watch := true } more
  | "--config" :: path :: more => parse { known with config := some path } more
  | "--template" :: path :: more => parse { known with template := some path } more
  | "--workers" :: count :: more =>
    if count.isEmpty || !count.toList.all Char.isDigit then .error s!"invalid worker count: {count}"
    else parse { known with workers := some (digitsValue count.toList) } more
  | argument :: _ => .error s!"unexpected argument: {argument}"

end Arguments

def readFile (path : String) : IO (Except PathFault String) := do
  match ← (IO.FS.readFile path).toBaseIO with
  | .ok text => return .ok text
  | .error (.noFileOrDirectory ..) => return .error .notFound
  | .error error => return .error (.other (toString error))

def writeFile (path text : String) : IO (Except PathFault Unit) := do
  match ← (IO.FS.writeFile path text).toBaseIO with
  | .ok _ => return .ok ()
  | .error error => return .error (.other (toString error))

def log (notes : List Note) : IO Unit :=
  notes.forM fun note => IO.eprintln note.line

/-- The variable that names the settings when no option does. -/
def configVariable : String := "DAMAGE_ZONE_CONFIG_PATH"

def loadConfig (arguments : Arguments) : IO Config := do
  match arguments.config, ← IO.getEnv configVariable with
  | some path, _ => match Config.ofFile path (← readFile path) with
    | .ok config => return config
    | .error fault => throw (IO.userError s!"Failed to load config at {path}: {fault.message}")
  | none, some path =>
    let (config, _, notes) := Config.load path (← readFile path)
    log notes
    return config
  | none, none =>
    log [.configBuiltin]
    return .standard

def loadCatalog (config : Config) : IO Catalog := do
  let content ← readFile (config.templatePath.getD "")
  match Catalog.ofConfig config fun _ => content with
  | .ok catalog => return catalog
  | .error fault => throw (IO.userError s!"Failed to load zone catalog: {fault.message}")

/-- The template that is watched, and its text when it was last looked at. -/
structure Watched where
  path : String
  text : Option String

def Watched.look (w : Watched) (c : Console) : IO (Watched × Console) := do
  let content ← readFile w.path
  if content.toOption = w.text then return (w, c)
  let (notes, next) := c.reload w.path content
  log notes
  return (⟨w.path, content.toOption⟩, next)

/-- Print what a reply holds and write its file. -/
def deliver (reply : Reply) : IO Unit := do
  reply.printed.forM IO.println
  let written ← match reply.writing with
    | none => pure (.ok ())
    | some w => writeFile w.path w.document
  match reply.settle written with
  | .ok notes => log notes
  | .error fault => throw (IO.userError fault.message)

/-- Carry out one line; gives the counts of the queues that served it. -/
def runLine (c : Console) (line : String) : IO (Stats × Console) := do
  let (result, next) := c.interpret line
  match result with
  | .ok reply =>
    deliver reply
    return (reply.stats, next)
  | .error .empty => return (⟨0, 0, 0⟩, next)
  | .error fault =>
    log [.invalidCommand (String.ofList (Text.trim line.toList)) fault.message]
    return (⟨0, 0, 0⟩, next)

partial def serve (input : IO.FS.Stream) (watched : Option Watched) (stats : Stats) (c : Console) : IO Stats := do
  let line ← input.getLine
  if line.isEmpty then return stats
  let (watched, c) ← match watched with
    | none => pure (none, c)
    | some w => do
      let (w, c) ← w.look c
      pure (some w, c)
  let (counted, c) ← runLine c line
  serve input watched (stats.add counted) c

def watchedTemplate (arguments : Arguments) (config : Config) : IO (Option Watched) := do
  match arguments.watch, config.templatePath with
  | false, _ => return none
  | true, some path => return some ⟨path, (← readFile path).toOption⟩
  | true, none =>
    log [.watchIgnored]
    return none

def run (arguments : Arguments) : IO Unit := do
  let config ← loadConfig arguments
  let config := { config with templatePath := arguments.template.or config.templatePath }
  let catalog ← loadCatalog config
  log [.catalogReady catalog.zones.length (config.templatePath.getD "reference")]
  let watched ← watchedTemplate arguments config
  let console := Console.start config catalog (arguments.workers.getD config.workerCount)
  let stats ← serve (← IO.getStdin) watched ⟨0, 0, 0⟩ console
  log [.shuttingDown stats.applied stats.dropped stats.failed]

end VehicleDamage

open VehicleDamage in
def main (arguments : List String) : IO UInt32 := do
  match Arguments.parse {} arguments with
  | .error message =>
    IO.eprintln s!"{message}\n{Arguments.usage}"
    return 2
  | .ok arguments =>
    try
      run arguments
      return 0
    catch error =>
      IO.eprintln (toString error)
      return 1
