import VehicleDamage.Console

/-!
A console at work: lines and templates reach it one after another, its overlays are written into a directory, and
templates are read from there. Others may save and remove files in between.
-/

namespace VehicleDamage

/-- What reaches a session: a line, that a template is to be read anew, or what others do to a file. -/
inductive Input where
  | line (text : String)
  | template (path : String)
  | saved (name text : String)
  | removed (name : String)
deriving DecidableEq

/-- What can be seen of one input being dealt with. -/
structure Seen where
  result : Except ConsoleFault Unit
  printed : List String
  notes : List Note
  written : Option Writing
  stats : Stats

/-- What can be seen where nothing is printed or written. -/
def Seen.noting (result : Except ConsoleFault Unit) (notes : List Note) : Seen :=
  ⟨result, [], notes, none, ⟨0, 0, 0⟩⟩

/-- What can be seen of a reply whose file has been written or not; the notes only when nothing failed. -/
def Reply.seen (r : Reply) : Except ConsoleFault (List Note) → Seen
  | .ok notes => ⟨.ok (), r.printed, notes, r.writing, r.stats⟩
  | .error fault => ⟨.error fault, r.printed, [], none, r.stats⟩

/-- A console and the directory it works in. -/
structure Session where
  console : Console
  files : Directory

namespace Session

/-- Deal with one input. -/
def step (s : Session) : Input → Seen × Session
  | .line text => match s.console.interpret text with
    | (.error fault, console) => (.noting (.error (.command fault)) [], { s with console })
    | (.ok reply, console) => (reply.seen (reply.save s.files).1, ⟨console, (reply.save s.files).2⟩)
  | .template path =>
    let (notes, console) := s.console.reload path (s.files.read path)
    (.noting (.ok ()) notes, { s with console })
  | .saved name text => (.noting (.ok ()) [], { s with files := s.files.insert name text })
  | .removed name => (.noting (.ok ()) [], { s with files := s.files.erase name })

/-- Deal with inputs one after another. -/
def run (s : Session) : List Input → List Seen × Session
  | [] => ([], s)
  | input :: more =>
    let (seen, next) := s.step input
    let (rest, last) := next.run more
    (seen :: rest, last)

end Session

end VehicleDamage
