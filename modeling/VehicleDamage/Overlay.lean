import VehicleDamage.SortedMap
import VehicleDamage.Template.Catalog

/-!
Overlays: a template with the styles of damaged zones put in. A document is the template under a list of edits,
one for each damaged zone; what lies between edits is copied.
-/

namespace VehicleDamage

open Text

/-- The severities of one vehicle at one revision. Zones without an entry are undamaged. -/
structure Snapshot where
  revision : Nat
  severities : SortedMap Binary32
deriving DecidableEq

namespace Snapshot

def severity (s : Snapshot) (zone : String) : Binary32 :=
  (s.severities.get? zone).getD .zero

def isUndamaged (s : Snapshot) : Bool :=
  s.severities.entries.all fun e => e.2.le .zero

end Snapshot

/-- Replace the bytes from `start` to `stop`. -/
structure Edit where
  start : Nat
  stop : Nat
  text : List Char

/-- Apply edits, in order, to the text that begins at byte `cursor`; `none` when one lies behind the cursor,
past the end or within a character. -/
def splice? (cursor : Nat) (cs : List Char) : List Edit → Option (List Char)
  | [] => some cs
  | e :: more =>
    if cursor ≤ e.start ∧ e.start ≤ e.stop then do
      let (kept, fromStart) ← splitBytes? (e.start - cursor) cs
      let (_, fromStop) ← splitBytes? (e.stop - e.start) fromStart
      let rest ← splice? e.stop fromStop more
      return kept ++ e.text ++ rest
    else none

/-- How one zone is shown. -/
structure ZoneSummary where
  zone : String
  severity : Binary32
  fill : String
  opacity : Binary32
deriving DecidableEq

structure Overlay where
  document : String
  revision : Nat
  zones : List ZoneSummary
deriving DecidableEq

/-- The edit that gives a zone a style: over the value of its `style`, or as a new attribute. -/
def Geometry.restyle (g : Geometry) (style : String) : Edit :=
  match g.styleValue with
  | some span => ⟨span.start, span.stop, style.toList⟩
  | none => ⟨g.insertionPoint, g.insertionPoint, " style=\"".toList ++ style.toList ++ ['"']⟩

namespace Overlay

def shown (palette : Palette) (snapshot : Snapshot) (zone : Zone) : ShownStyle :=
  zone.defaultStyle.shown palette (snapshot.severity zone.id)

/-- An edit for each zone that is not shown as it stands, in document order. -/
def edits (palette : Palette) (catalog : Catalog) (snapshot : Snapshot) : List Edit :=
  catalog.zones.filterMap fun zone =>
    let style := shown palette snapshot zone
    if style.isDefault then none else some (zone.geometry.restyle style.text)

def document? (palette : Palette) (catalog : Catalog) (snapshot : Snapshot) : Option String :=
  (splice? 0 catalog.template.toList (edits palette catalog snapshot)).map String.ofList

def summary (palette : Palette) (snapshot : Snapshot) (zone : Zone) : ZoneSummary :=
  let style := shown palette snapshot zone
  ⟨zone.id, clampSeverity (snapshot.severity zone.id), style.fill.toHex, style.opacity⟩

/-- The overlay of a vehicle. The edits of a loaded catalog fit its template, so `document?` has a value. -/
def render (palette : Palette) (catalog : Catalog) (snapshot : Snapshot) : Overlay :=
  { document := (document? palette catalog snapshot).getD catalog.template
    revision := snapshot.revision
    zones := catalog.zones.map (summary palette snapshot) }

end Overlay

end VehicleDamage
