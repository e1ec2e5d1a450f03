import VehicleDamage.SortedMap
import VehicleDamage.Text.Blank

/-!
A directory of files, without directories in it, and the paths that are looked up from there.
-/

namespace VehicleDamage

open Text

abbrev Directory := SortedMap String

/-- Why a path gives no file. -/
inductive PathFault where
  | notFound
  | notDirectory
  | isDirectory
  | nameTooLong
  | nulByte
  | other (description : String)
deriving DecidableEq, Repr

def PathFault.message : PathFault → String
  | notFound => "No such file or directory (os error 2)"
  | notDirectory => "Not a directory (os error 20)"
  | isDirectory => "Is a directory (os error 21)"
  | nameTooLong => "File name too long (os error 36)"
  | nulByte => "file name contained an unexpected NUL byte"
  | other description => description

namespace Directory

/-- A name that stays at the place reached or goes up from it. -/
def isStep (name : String) : Bool :=
  name = "" || name = "." || name = ".."

/-- A way that leaves the directory. Outside of it only the directories above are known. -/
def leave (names : List String) : Except PathFault String :=
  if names.all isStep then .error .isDirectory else .error .notFound

/-- Follow the names of a path from the directory to a file of it. The first name that does not stay in place
decides: only its being the last leads to a file. -/
def follow (d : Directory) : List String → Except PathFault String
  | [] => .error .isDirectory
  | name :: more =>
    if name = "" ∨ name = "." then d.follow more
    else if name = ".." then leave more
    else if name.utf8ByteSize > 255 then .error .nameTooLong
    else if more.isEmpty then .ok name
    else if d.contains name then .error .notDirectory
    else .error .notFound

/-- The file a path leads to. -/
def locate (d : Directory) (path : String) : Except PathFault String :=
  let names := (splitWhere (· == '/') path.toList).map String.ofList
  if path.toList.contains '\x00' then .error .nulByte
  else if path.isEmpty then .error .notFound
  else if path.utf8ByteSize > 4095 then .error .nameTooLong
  else if path.toList.head? = some '/' then leave names
  else d.follow names

/-- The text of the file a path leads to. -/
def read (d : Directory) (path : String) : Except PathFault String := do
  let name ← d.locate path
  match d.get? name with
  | some text => .ok text
  | none => .error .notFound

def write (d : Directory) (path text : String) : Except PathFault Directory := do
  return d.insert (← d.locate path) text

end Directory

end VehicleDamage
