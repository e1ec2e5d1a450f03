import VehicleDamage.ReportFormat

/-!
The operator's commands, one to a line.
-/

namespace VehicleDamage

open Text

inductive Command where
  | register (vehicle : String)
  | record (report : Report)
  | reset (vehicle : String)
  | evict (vehicle : String)
  | render (vehicle : String) (path : Option String)
  | status
deriving DecidableEq

/-- Why a line is no command. -/
inductive CommandFault where
  | empty
  | unknownCommand (verb : String)
  | missingArgument (name : String)
  | invalidFloat (value context : String)
  | invalidReport (fault : DecodeFault)
deriving DecidableEq

def CommandFault.message : CommandFault → String
  | empty => "empty command"
  | unknownCommand verb => s!"unknown command: {verb}"
  | missingArgument name => s!"missing argument: {name}"
  | invalidFloat value context => s!"invalid float '{value}' for {context}: invalid float literal"
  | invalidReport fault => "invalid event record: " ++ fault.message

namespace Command

/-- What a verb asks for. -/
inductive Verb where
  | register
  | damage
  | set
  | impact
  | event
  | reset
  | evict
  | render
  | status
deriving DecidableEq

def verbs : List (String × Verb) :=
  [("register", .register), ("track", .register), ("damage", .damage), ("hit", .damage), ("set", .set),
    ("impact", .impact), ("event", .event), ("reset", .reset), ("repair", .reset), ("evict", .evict),
    ("untrack", .evict), ("render", .render), ("status", .status)]

/-- The amount of a report that names none. -/
def defaultAmount : String := "0.1"

def float (context value : String) : Except CommandFault Binary32 :=
  match Binary32.ofLiteral? value with
  | some x => .ok x
  | none => .error (.invalidFloat value context)

/-- The next argument and those after it. -/
def argument (name : String) : List String → Except CommandFault (String × List String)
  | [] => .error (.missingArgument name)
  | first :: more => .ok (first, more)

def vehicleOnly (make : String → Command) (arguments : List String) : Except CommandFault Command := do
  let (vehicle, _) ← argument "vehicle" arguments
  return make vehicle

def parseDamage (arguments : List String) : Except CommandFault Command := do
  let (vehicle, arguments) ← argument "vehicle" arguments
  let (zone, arguments) ← argument "zone" arguments
  let amount ← float "damage amount" (arguments.head?.getD defaultAmount)
  return .record ⟨vehicle, .tag zone, amount, .delta⟩

def parseSet (arguments : List String) : Except CommandFault Command := do
  let (vehicle, arguments) ← argument "vehicle" arguments
  let (zone, arguments) ← argument "zone" arguments
  let (value, _) ← argument "value" arguments
  let value ← float "set value" value
  return .record ⟨vehicle, .tag zone, value, .absolute⟩

def parseImpact (arguments : List String) : Except CommandFault Command := do
  let (vehicle, arguments) ← argument "vehicle" arguments
  let (x, arguments) ← argument "x" arguments
  let x ← float "impact x" x
  let (y, arguments) ← argument "y" arguments
  let y ← float "impact y" y
  let (z, arguments) ← argument "z" arguments
  let z ← float "impact z" z
  let amount ← float "impact amount" (arguments.head?.getD defaultAmount)
  return .record ⟨vehicle, .impact ⟨x, y, z⟩, amount, .delta⟩

def parseEvent (rest : List Char) : Except CommandFault Command :=
  if rest.isEmpty then .error (.missingArgument "json")
  else match Report.decode (String.ofList rest) with
    | .ok report => .ok (.record report)
    | .error fault => .error (.invalidReport fault)

def parseRender (arguments : List String) : Except CommandFault Command := do
  let (vehicle, arguments) ← argument "vehicle" arguments
  return .render vehicle arguments.head?

def Verb.parse (verb : Verb) (rest : List Char) : Except CommandFault Command :=
  let arguments := (words rest).map String.ofList
  match verb with
  | register => vehicleOnly .register arguments
  | damage => parseDamage arguments
  | set => parseSet arguments
  | impact => parseImpact arguments
  | event => parseEvent rest
  | reset => vehicleOnly .reset arguments
  | evict => vehicleOnly .evict arguments
  | render => parseRender arguments
  | status => .ok .status

/-- A trimmed line as its verb, in lower case, and the rest of it. -/
def splitVerb (line : List Char) : List Char × List Char :=
  match splitOnce? isBlank line with
  | some (verb, rest) => (verb.map Char.toLower, trim rest)
  | none => (line.map Char.toLower, [])

/-- Read one line. Arguments past those a command takes are passed over. -/
def parse (line : String) : Except CommandFault Command :=
  let trimmed := trim line.toList
  if trimmed.isEmpty then .error .empty
  else
    let (name, rest) := splitVerb trimmed
    match verbs.lookup (String.ofList name) with
    | some verb => verb.parse rest
    | none => .error (.unknownCommand (String.ofList name))

end Command

end VehicleDamage
