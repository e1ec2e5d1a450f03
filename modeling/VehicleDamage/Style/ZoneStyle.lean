import VehicleDamage.Colour
import VehicleDamage.Style.Declarations

/-!
The style a zone has in its template, and the style it is shown with when damaged.
-/

namespace VehicleDamage

/-- The style a zone declares for itself. -/
structure ZoneStyle where
  raw : String
  declarations : Style.Declarations
  fill : Colour
  opacity : Binary32
deriving DecidableEq

namespace ZoneStyle

/-- A declared opacity counts when it is a finite number, held to the unit interval. -/
def opacity? (declarations : Style.Declarations) : Option Binary32 := do
  let literal ← declarations.get? "fill-opacity"
  let value ← Binary32.ofLiteral? literal
  if value.isFinite then some (value.clamp .zero .one) else none

/-- The style of an element from its `style` text and its `fill` attribute. A declared fill outranks the
attribute, and a fill that is no colour is black. -/
def ofAttributes (style fill : Option String) : ZoneStyle :=
  let raw := style.getD ""
  let declarations := Style.Declarations.parse raw
  { raw
    declarations
    fill := (((declarations.get? "fill").or fill).bind Colour.parse?).getD .black
    opacity := (opacity? declarations).getD .one }

end ZoneStyle

/-- What a zone looks like at full damage. -/
structure Palette where
  fill : Colour
  opacity : Binary32
deriving DecidableEq

def Palette.standard : Palette :=
  ⟨⟨0xb7, 0x1c, 0x1c⟩, .one⟩

/-- The style a zone is shown with. -/
structure ShownStyle where
  text : String
  fill : Colour
  opacity : Binary32
  isDefault : Bool
deriving DecidableEq

def clampSeverity (severity : Binary32) : Binary32 :=
  severity.clamp .zero .one

/-- Without damage the declared style as it stands, else fill and opacity a share of the way to the palette. -/
def ZoneStyle.shown (style : ZoneStyle) (palette : Palette) (severity : Binary32) : ShownStyle :=
  let t := if severity.isNaN then .zero else clampSeverity severity
  if t.le .zero then ⟨style.raw, style.fill, style.opacity, true⟩
  else
    let fill := style.fill.mix palette.fill t
    let opacity := mixOpacity style.opacity palette.opacity t
    ⟨((style.declarations.set "fill" fill.toHex).set "fill-opacity" opacity.toText).text, fill, opacity, false⟩

end VehicleDamage
