import VehicleDamage.Markup.Piece
import VehicleDamage.Markup.StartTag
import VehicleDamage.Style.ZoneStyle
import VehicleDamage.Tag
import VehicleDamage.Template.Markers

/-!
One zone of a template: its identity, and where it lies in the text.
-/

namespace VehicleDamage

open Text Markup

/-- A range of bytes. -/
structure Span where
  start : Nat
  stop : Nat
deriving DecidableEq, Repr

/-- Where a zone lies in its template, in bytes. -/
structure Geometry where
  element : String
  elementId : Option String
  /-- The start tag, from its `<` to its `>`. -/
  tagSpan : Span
  /-- The value of the `style` attribute, without its quotes. -/
  styleValue : Option Span
  /-- Just past the element's name, where a missing style goes. -/
  insertionPoint : Nat
deriving DecidableEq, Repr

structure Zone where
  id : String
  label : String
  geometry : Geometry
  defaultStyle : ZoneStyle
deriving DecidableEq

/-- Why a template gives no catalog. -/
inductive TemplateFault where
  | markup (fault : Markup.Fault)
  | attributes (fault : AttributeFault)
  | missingTag (zone : String)
  | unreadableTag (zone : String)
  | duplicated (zone : String)
  | unterminated (count : Nat)
  | noZones
  | splitCharacter (offset : Nat)
deriving DecidableEq, Repr

namespace TemplateFault

def reason : TemplateFault → String
  | markup fault => fault.message
  | attributes fault => fault.message
  | missingTag zone => s!"zone '{zone}' has no start tag"
  | unreadableTag zone => s!"unreadable start tag for zone '{zone}'"
  | duplicated zone => s!"zone '{zone}' is declared more than once"
  | unterminated count => toString count ++ " element(s) left unterminated"
  | noZones => "template contains no zone markers"
  | splitCharacter offset => s!"byte {offset} is not at the start of a character"

def message : TemplateFault → String
  | noZones => noZones.reason
  | fault => "malformed template: " ++ fault.reason

end TemplateFault

/-- The first `n` bytes of a text and what follows; `none` past its end or within a character. -/
def splitBytes? : Nat → List Char → Option (List Char × List Char)
  | 0, cs => some ([], cs)
  | _ + 1, [] => none
  | n + 1, c :: cs =>
    if c.utf8Size ≤ n + 1 then (splitBytes? (n + 1 - c.utf8Size) cs).map fun r => (c :: r.1, r.2) else none

/-- A capital letter for each word, the words being cut at hyphens, underscores and blanks. -/
def titleCase (id : String) : String :=
  let words := (splitWhere (fun c => c == '-' || c == '_' || isBlank c) id.toList).filter (!·.isEmpty)
  " ".intercalate (words.map fun w => String.ofList (w.take 1 |>.flatMap upperChar) ++ String.ofList (w.drop 1))

/-- The attributes that tell about a zone; of the two for a label the later counts. -/
structure ZoneAttributes where
  classes : Option String := none
  marker : Option String := none
  elementId : Option String := none
  label : Option String := none
  fill : Option String := none

/-- Attributes with a meaning of their own never act as the marker. -/
def ZoneAttributes.note (markers : Markers) (known : ZoneAttributes) (a : Attribute) : ZoneAttributes :=
  let key := String.ofList a.raw.key
  let value := some (String.ofList a.value)
  if key = "class" then { known with classes := value }
  else if key = "id" then { known with elementId := value }
  else if key = "inkscape:label" ∨ key = "aria-label" then { known with label := value }
  else if key = "fill" then { known with fill := value }
  else if key = markers.zoneAttribute then { known with marker := value }
  else known

/-- The zone an element declares: by a marker that is not blank, else by its first recognised class. -/
def ZoneAttributes.zoneId? (markers : Markers) (known : ZoneAttributes) : Option String :=
  let marked := known.marker.bind fun value =>
    let id := trim value.toList
    if id.isEmpty then none else some (String.ofList (id.map Char.toLower))
  marked.or ((known.classes.bind markers.matchClass?).map fun token =>
    String.ofList (token.toList.map Char.toLower))

/-- The start tag that ends a text: the text from its last `<` on, with what precedes it. -/
def lastTag? (cs : List Char) : Option (List Char × List Char) :=
  match cs.reverse.dropWhile (· != '<') with
  | [] => none
  | _ :: before => some (before.reverse, '<' :: (cs.reverse.takeWhile (· != '<')).reverse)

def Span.shift (s : Span) (offset : Nat) : Span :=
  ⟨offset + s.start, offset + s.stop⟩

namespace Zone

/-- The zone of an element whose attributes and identifier are known. Its tag is looked for in the template,
backwards from where the element ends. -/
def locate (template : List Char) (element : Element) (known : ZoneAttributes) (id : String) :
    Except TemplateFault Zone :=
  match splitBytes? element.stop template with
  | none => .error (.splitCharacter element.stop)
  | some (upToStop, _) => match lastTag? upToStop with
    | none => .error (.missingTag id)
    | some (before, tag) => match layout? tag with
      | none => .error (.unreadableTag id)
      | some layout =>
        let start := byteLength before
        let styleText := layout.styleValue.bind fun (i, j) =>
          (splitBytes? i tag).bind fun r => (splitBytes? (j - i) r.2).map fun s => String.ofList s.1
        .ok {
          id
          label := known.label.getD (titleCase id)
          geometry := {
            element := String.ofList element.name
            elementId := known.elementId
            tagSpan := ⟨start, element.stop⟩
            styleValue := layout.styleValue.map fun (i, j) => ⟨start + i, start + j⟩
            insertionPoint := start + layout.nameEnd }
          defaultStyle := .ofAttributes styleText known.fill }

/-- The zone that an element declares, if it declares one. -/
def ofElement? (markers : Markers) (template : List Char) (element : Element) :
    Except TemplateFault (Option Zone) :=
  match element.attributes with
  | .error fault => .error (.attributes fault)
  | .ok attributes =>
    let known := attributes.foldl (ZoneAttributes.note markers) {}
    match known.zoneId? markers with
    | none => .ok none
    | some id => (locate template element known id).map some

end Zone

end VehicleDamage
