import VehicleDamage.Template.Zone

/-!
The zones of one template.
-/

namespace VehicleDamage

open Markup

structure Catalog where
  template : String
  zones : List Zone
deriving DecidableEq

namespace Catalog

def ids (c : Catalog) : List String :=
  c.zones.map (·.id)

/-- The zone with an identifier. No two zones of a loaded catalog have the same, so the search finds what an index by
identifier does. -/
def zone? (c : Catalog) (id : String) : Option Zone :=
  c.zones.find? (·.id == id)

def contains (c : Catalog) (id : String) : Bool :=
  c.zones.any (·.id == id)

/-- What has been read of a template: how many elements are open, and the zones found. -/
structure Progress where
  depth : Nat
  zones : List Zone

/-- Identifiers that normalise alike would be one zone. -/
def Progress.declare (p : Progress) (zone : Zone) : Except TemplateFault Progress :=
  if p.zones.any fun z => Tag.normalize z.id == Tag.normalize zone.id then .error (.duplicated zone.id)
  else .ok { p with zones := p.zones ++ [zone] }

def Progress.visit (markers : Markers) (template : List Char) (p : Progress) (element : Element) :
    Except TemplateFault Progress := do
  match ← Zone.ofElement? markers template element with
  | none => return p
  | some zone => p.declare zone

def Progress.step (markers : Markers) (template : List Char) (p : Progress) :
    Piece → Except TemplateFault Progress
  | .opening element => { p with depth := p.depth + 1 }.visit markers template element
  | .empty element => p.visit markers template element
  | .closing _ => .ok { p with depth := p.depth - 1 }
  | .passedOver => .ok p
  | .broken fault => .error (.markup fault)

/-- The zones of a template in document order. The first fault met in the text is reported. -/
def readZones (markers : Markers) (template : List Char) : Except TemplateFault (List Zone) := do
  let p ← (Markup.read template).foldlM (Progress.step markers template) ⟨0, []⟩
  if p.depth ≠ 0 then .error (.unterminated p.depth) else .ok p.zones

/-- Read a template. One without zones gives no catalog. -/
def load (markers : Markers) (template : String) : Except TemplateFault Catalog := do
  let zones ← readZones markers template.toList
  if zones.isEmpty then .error .noZones else .ok ⟨template, zones⟩

end Catalog

end VehicleDamage
