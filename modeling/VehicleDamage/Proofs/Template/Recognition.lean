import Mathlib.Data.List.Nodup
import VehicleDamage.Proofs.Template.Located
import VehicleDamage.Proofs.Text.Blank

/-!
Which elements are zones: those whose attributes name one, by the attribute set for markers or by a class. An attribute
that tells something else about a zone never marks one, even when it is the one set for markers.
-/

namespace VehicleDamage

open Text Markup

/-- In a list with different keys the element with a key is the only one. -/
theorem find?_eq_some_iff_of_nodup {α κ : Type} [DecidableEq κ] {key : α → κ} {as : List α} (hn : (as.map key).Nodup)
    {k : κ} {a : α} : as.find? (fun a => key a = k) = some a ↔ a ∈ as ∧ key a = k := by
  constructor
  · intro h
    exact ⟨List.mem_of_find?_eq_some h, by simpa using List.find?_some h⟩
  · rintro ⟨ha, hk⟩
    cases hf : as.find? fun a => key a = k with
    | none => exact absurd hk (by simpa using List.find?_eq_none.1 hf a ha)
    | some b =>
        have hb : key b = k := by simpa using List.find?_some hf
        rw [List.inj_on_of_nodup_map hn (List.mem_of_find?_eq_some hf) ha (hb.trans hk.symm)]

namespace Markup

def Attribute.name (a : Attribute) : String :=
  String.ofList a.raw.key

/-- Attributes that are read have different names. -/
theorem Element.nodup_names {e : Element} {attributes : List Attribute} (h : e.attributes = .ok attributes) :
    (attributes.map Attribute.name).Nodup := by
  obtain ⟨ws, -, -, -, hreads, hnodup, -⟩ := exists_written h
  have hkeys : attributes.map (fun a => a.raw.key) = ws.map Written.key := by
    clear h hnodup
    induction hreads with
    | nil => rfl
    | cons hr _ ih => rw [List.map_cons, List.map_cons, hr.key_eq, ih]
  have hname : attributes.map Attribute.name = (attributes.map fun a => a.raw.key).map String.ofList := by
    rw [List.map_map]
    rfl
  rw [hname, hkeys]
  exact hnodup.map fun _ _ he => by simpa using congrArg String.toList he

end Markup

namespace Markers

/-- The names of attributes with a meaning of their own. -/
def ownNames : List String :=
  ["class", "id", "inkscape:label", "aria-label", "fill"]

/-- The attribute set for markers has a value that is not blank, and `id` is that value. -/
def Marks (m : Markers) (attributes : List Attribute) (id : String) : Prop :=
  ∃ a ∈ attributes, a.name = m.zoneAttribute ∧ (∃ c ∈ a.value, isBlank c = false) ∧
    id = String.ofList ((trim a.value).map Char.toLower)

/-- A class is known whatever the case of its ASCII letters. -/
def Knows (m : Markers) (token : List Char) : Prop :=
  ∃ known ∈ m.classes, known.toList.map Char.toLower = token.map Char.toLower

/-- The first known class is `id`. -/
def Classifies (m : Markers) (attributes : List Attribute) (id : String) : Prop :=
  ∃ a ∈ attributes, a.name = "class" ∧ ∃ before token after, words a.value = before ++ token :: after ∧
    (∀ t ∈ before, ¬m.Knows t) ∧ m.Knows token ∧ id = String.ofList (token.map Char.toLower)

/-- Attributes name a zone by the marker, or by a class if nothing marks it. -/
def Names (m : Markers) (attributes : List Attribute) (id : String) : Prop :=
  m.Marks attributes id ∨ (∀ id', ¬m.Marks attributes id') ∧ m.Classifies attributes id

theorem matchClass?_eq_some {m : Markers} {value : List Char} {token : String} :
    m.matchClass? (String.ofList value) = some token ↔ ∃ before t after, words value = before ++ t :: after ∧
      (∀ u ∈ before, ¬m.Knows u) ∧ m.Knows t ∧ token = String.ofList t := by
  have hknows (t : List Char) : (m.classes.any fun known => eqIgnoreCase known.toList t) = true ↔ m.Knows t := by
    simp [Knows, eqIgnoreCase]
  rw [matchClass?, String.toList_ofList, Option.map_eq_some_iff]
  constructor
  · rintro ⟨t, hf, rfl⟩
    obtain ⟨ht, before, after, hw, hb⟩ := List.find?_eq_some_iff_append.1 hf
    exact ⟨before, t, after, hw, fun u hu hk => by simpa [(hknows u).2 hk] using hb u hu, (hknows t).1 ht, rfl⟩
  · rintro ⟨before, t, after, hw, hb, ht, rfl⟩
    refine ⟨t, List.find?_eq_some_iff_append.2 ⟨(hknows t).2 ht, before, after, hw, fun u hu => ?_⟩, rfl⟩
    rw [Bool.not_eq_true', ← Bool.not_eq_true, hknows]
    exact hb u hu

end Markers

namespace ZoneAttributes

/-- The value of the attribute with a name. -/
def value? (name : String) (attributes : List Attribute) : Option String :=
  (attributes.find? fun a => a.name = name).map fun a => String.ofList a.value

theorem value?_eq_some {name value : String} {attributes : List Attribute}
    (hn : (attributes.map Attribute.name).Nodup) :
    value? name attributes = some value ↔ ∃ a ∈ attributes, a.name = name ∧ value = String.ofList a.value := by
  rw [value?, Option.map_eq_some_iff]
  constructor
  · rintro ⟨a, hf, rfl⟩
    obtain ⟨ha, hk⟩ := (find?_eq_some_iff_of_nodup hn).1 hf
    exact ⟨a, ha, hk, rfl⟩
  · rintro ⟨a, ha, hk, rfl⟩
    exact ⟨a, (find?_eq_some_iff_of_nodup hn).2 ⟨ha, hk⟩, rfl⟩

variable {markers : Markers}

/-- What is noted of the one attribute with a name, whatever stands before and after it. -/
theorem foldl_note {name : String} (field : ZoneAttributes → Option String)
    (hf : ∀ known a, field (known.note markers a) =
      if a.name = name then some (String.ofList a.value) else field known)
    {attributes : List Attribute} (hn : (attributes.map Attribute.name).Nodup) (known : ZoneAttributes) :
    field (attributes.foldl (note markers) known) = (value? name attributes).or (field known) := by
  induction attributes generalizing known with
  | nil => rfl
  | cons a attributes ih =>
      obtain ⟨hnew, hn⟩ := List.nodup_cons.1 hn
      rw [List.foldl_cons, ih hn, hf, value?, value?, List.find?_cons]
      by_cases ha : a.name = name
      · have hnone : attributes.find? (fun a => a.name = name) = none := by
          rw [List.find?_eq_none]
          exact fun b hb he => hnew (List.mem_map.2 ⟨b, hb, (of_decide_eq_true he).trans ha.symm⟩)
        simp [ha, hnone]
      · simp [ha]

/-- What an attribute tells: its classes, something else about the zone, the marker or nothing. -/
theorem note_cases (markers : Markers) (known : ZoneAttributes) (a : Attribute) :
    (a.name = "class" ∧ known.note markers a = { known with classes := some (String.ofList a.value) }) ∨
    (a.name ∈ Markers.ownNames ∧ a.name ≠ "class" ∧ (known.note markers a).classes = known.classes ∧
      (known.note markers a).marker = known.marker) ∨
    (a.name ∉ Markers.ownNames ∧ a.name = markers.zoneAttribute ∧
      known.note markers a = { known with marker := some (String.ofList a.value) }) ∨
    (a.name ∉ Markers.ownNames ∧ a.name ≠ markers.zoneAttribute ∧ known.note markers a = known) := by
  have hnote : known.note markers a =
      let value := some (String.ofList a.value)
      if a.name = "class" then { known with classes := value }
      else if a.name = "id" then { known with elementId := value }
      else if a.name = "inkscape:label" ∨ a.name = "aria-label" then { known with label := value }
      else if a.name = "fill" then { known with fill := value }
      else if a.name = markers.zoneAttribute then { known with marker := value }
      else known := rfl
  rw [hnote]
  by_cases hclass : a.name = "class"
  · exact .inl ⟨hclass, if_pos hclass⟩
  · by_cases hown : a.name ∈ Markers.ownNames
    · have hrest : a.name = "id" ∨ (a.name = "inkscape:label" ∨ a.name = "aria-label") ∨ a.name = "fill" := by
        simpa [Markers.ownNames, hclass, or_assoc] using hown
      refine .inr (.inl ⟨hown, hclass, ?_⟩)
      rcases hrest with hk | (hk | hk) | hk <;> simp [hk]
    · have hrest := hown
      simp only [Markers.ownNames, List.mem_cons, List.not_mem_nil, or_false, not_or] at hrest
      obtain ⟨-, hid, hink, haria, hfill⟩ := hrest
      have hlabel : ¬(a.name = "inkscape:label" ∨ a.name = "aria-label") := not_or.2 ⟨hink, haria⟩
      simp only [if_neg hclass, if_neg hid, if_neg hlabel, if_neg hfill]
      by_cases hm : a.name = markers.zoneAttribute
      · exact .inr (.inr (.inl ⟨hown, hm, if_pos hm⟩))
      · exact .inr (.inr (.inr ⟨hown, hm, if_neg hm⟩))

theorem classes_note (known : ZoneAttributes) (a : Attribute) :
    (known.note markers a).classes = if a.name = "class" then some (String.ofList a.value) else known.classes := by
  rcases note_cases markers known a with ⟨hk, hn⟩ | ⟨-, hk, hn, -⟩ | ⟨hk, -, hn⟩ | ⟨hk, -, hn⟩
  · rw [hn, if_pos hk]
  · rw [hn, if_neg hk]
  · rw [hn, if_neg fun he => hk (by simp [he, Markers.ownNames])]
  · rw [hn, if_neg fun he => hk (by simp [he, Markers.ownNames])]

theorem marker_note (known : ZoneAttributes) (a : Attribute) :
    (known.note markers a).marker =
      if a.name = markers.zoneAttribute ∧ markers.zoneAttribute ∉ Markers.ownNames then some (String.ofList a.value)
      else known.marker := by
  rcases note_cases markers known a with ⟨hk, hn⟩ | ⟨hk, -, -, hn⟩ | ⟨hk, he, hn⟩ | ⟨-, he, hn⟩
  · rw [hn, if_neg fun h => h.2 (h.1 ▸ by simp [hk, Markers.ownNames])]
  · rw [hn, if_neg fun h => h.2 (h.1 ▸ hk)]
  · rw [hn, if_pos ⟨he, he ▸ hk⟩]
  · rw [hn, if_neg fun h => he h.1]

/-- The marker's value is the identifier, if it is not blank. -/
theorem marked_iff {attributes : List Attribute} (hn : (attributes.map Attribute.name).Nodup) {id : String} :
    ((value? markers.zoneAttribute attributes).bind fun value =>
      let id := trim value.toList
      if id.isEmpty then none else some (String.ofList (id.map Char.toLower))) = some id ↔
      markers.Marks attributes id := by
  have hblank (a : Attribute) : ¬(trim a.value).isEmpty = true ↔ ∃ c ∈ a.value, isBlank c = false := by
    rw [List.isEmpty_iff, trim_eq_nil_iff]
    simp
  rw [Option.bind_eq_some_iff]
  constructor
  · rintro ⟨value, hv, hid⟩
    obtain ⟨a, ha, hk, rfl⟩ := (value?_eq_some hn).1 hv
    rw [String.toList_ofList] at hid
    dsimp only at hid
    split at hid
    · cases hid
    · next he => exact ⟨a, ha, hk, (hblank a).1 he, (Option.some.inj hid).symm⟩
  · rintro ⟨a, ha, hk, hc, rfl⟩
    refine ⟨_, (value?_eq_some hn).2 ⟨a, ha, hk, rfl⟩, ?_⟩
    rw [String.toList_ofList]
    exact if_neg ((hblank a).2 hc)

theorem classified_iff {attributes : List Attribute} (hn : (attributes.map Attribute.name).Nodup) {id : String} :
    (((value? "class" attributes).bind markers.matchClass?).map fun token =>
      String.ofList (token.toList.map Char.toLower)) = some id ↔ markers.Classifies attributes id := by
  rw [Option.map_eq_some_iff]
  constructor
  · rintro ⟨token, ht, rfl⟩
    obtain ⟨value, hv, ht⟩ := Option.bind_eq_some_iff.1 ht
    obtain ⟨a, ha, hk, rfl⟩ := (value?_eq_some hn).1 hv
    obtain ⟨before, t, after, hw, hb, hknown, rfl⟩ := Markers.matchClass?_eq_some.1 ht
    exact ⟨a, ha, hk, before, t, after, hw, hb, hknown, by rw [String.toList_ofList]⟩
  · rintro ⟨a, ha, hk, before, t, after, hw, hb, hknown, rfl⟩
    refine ⟨String.ofList t, Option.bind_eq_some_iff.2 ⟨_, (value?_eq_some hn).2 ⟨a, ha, hk, rfl⟩, ?_⟩, ?_⟩
    · exact Markers.matchClass?_eq_some.2 ⟨before, t, after, hw, hb, hknown, rfl⟩
    · rw [String.toList_ofList]

/-- The zone that is made of attributes is the one they name. -/
theorem zoneId?_eq_some (hm : markers.zoneAttribute ∉ Markers.ownNames) {attributes : List Attribute}
    (hn : (attributes.map Attribute.name).Nodup) {id : String} :
    (attributes.foldl (note markers) {}).zoneId? markers = some id ↔ markers.Names attributes id := by
  have hnote (known : ZoneAttributes) (a : Attribute) : (known.note markers a).marker =
      if a.name = markers.zoneAttribute then some (String.ofList a.value) else known.marker := by
    rw [marker_note]
    simp [hm]
  have hmarker : (attributes.foldl (note markers) {}).marker = value? markers.zoneAttribute attributes := by
    rw [foldl_note marker hnote hn, Option.or_none]
  have hclasses : (attributes.foldl (note markers) {}).classes = value? "class" attributes := by
    rw [foldl_note classes classes_note hn, Option.or_none]
  rw [zoneId?, hmarker, hclasses, Option.or_eq_some_iff, marked_iff hn, classified_iff hn,
    Option.eq_none_iff_forall_ne_some]
  simp only [ne_eq, marked_iff hn, Markers.Names]

/-- With a name that has a meaning of its own nothing marks an element. -/
theorem zoneId?_own (hm : markers.zoneAttribute ∈ Markers.ownNames) {attributes : List Attribute}
    (hn : (attributes.map Attribute.name).Nodup) {id : String} :
    (attributes.foldl (note markers) {}).zoneId? markers = some id ↔ markers.Classifies attributes id := by
  have hmarker : (attributes.foldl (note markers) {}).marker = none :=
    List.foldlRecOn attributes (note markers) (motive := fun known => known.marker = none) rfl
      fun known hk a _ => by rw [marker_note, if_neg fun h => h.2 hm, hk]
  have hclasses : (attributes.foldl (note markers) {}).classes = value? "class" attributes := by
    rw [foldl_note classes classes_note hn, Option.or_none]
  rw [zoneId?, hmarker, hclasses, Option.bind_none, Option.none_or, classified_iff hn]

end ZoneAttributes

namespace Markup

/-- Where the start tag of an element stands. A byte order mark in front of the text is left out of the offset at which
the element stops. -/
theorem exists_place {document tag : List Char} {element : Element}
    (h : (element, tag) ∈ (read document).filterMap Piece.startTag?) : ∃ mark before inner after,
      document = mark ++ before ++ '<' :: inner ++ after ∧ tag = '<' :: inner ∧
      element.stop = byteLength (before ++ '<' :: inner) ∧ element.content.length < inner.length ∧
      byteLength mark ≤ 3 ∧ (document.head? ≠ some byteOrderMark → mark = []) := by
  obtain ⟨mark, text, rfl, hm, hplain, hlaid⟩ : ∃ mark text, document = mark ++ text ∧ byteLength mark ≤ 3 ∧
      (document.head? ≠ some byteOrderMark → mark = []) ∧
      Laid 0 text ((read document).filterMap Piece.startTag?) := by
    by_cases hd : document.head? = some byteOrderMark
    · obtain ⟨mark, text, ht, hm, hlaid⟩ := laid_read document
      exact ⟨mark, text, ht, hm, fun hn => absurd hd hn, hlaid⟩
    · refine ⟨[], document, rfl, Nat.zero_le 3, fun _ => rfl, ?_⟩
      rw [read_eq_pieces hd]
      exact laid_pieces [] 0 document
  obtain ⟨before, after, htext, hstop⟩ := hlaid.exists_split _ h
  obtain ⟨piece, -, hp⟩ := List.mem_filterMap.1 h
  obtain ⟨inner, rfl, hi⟩ := shape_of_startTag? hp
  refine ⟨mark, before, inner, after, ?_, rfl, ?_, hi, hm, hplain⟩
  · rw [htext]
    simp only [List.append_assoc]
  · rw [hstop, Nat.zero_add]

/-- A start tag with attributes as it is written, and where it stands in a text without a byte order mark. -/
theorem exists_written_place {document tag : List Char} {element : Element} {attributes : List Attribute}
    (h : (element, tag) ∈ (read document).filterMap Piece.startTag?) (hd : document.head? ≠ some byteOrderMark)
    (ha : element.attributes = .ok attributes) (hne : attributes ≠ []) :
    ∃ ws blanks tail before after, element.IsWritten attributes ws blanks ∧ ws ≠ [] ∧ IsTail tail ∧
      tag = '<' :: (element.content ++ tail) ∧ document = before ++ '<' :: (element.content ++ tail) ++ after ∧
      element.stop = byteLength (before ++ '<' :: (element.content ++ tail)) := by
  have hname := name_eq_of_mem_pieces [] 0 document
  rw [← read_eq_pieces hd] at hname
  obtain ⟨ws, blanks, hw⟩ := Element.exists_isWritten (hname _ h) ha
  obtain ⟨mark, before, inner, after, ht, hi, hs, -, -, hmark⟩ := exists_place h
  obtain ⟨piece, -, hpiece⟩ := List.mem_filterMap.1 h
  obtain ⟨tail, htail, rfl⟩ := exists_tail hpiece
  obtain rfl : element.content ++ tail = inner := (List.cons.inj hi).2
  obtain rfl := hmark hd
  refine ⟨ws, blanks, tail, before, after, hw, ?_, htail, rfl, ht, hs⟩
  rintro rfl
  cases hw.reads
  exact hne rfl

end Markup

namespace Zone

variable {markers : Markers}

theorem lastTag?_eq_none {cs : List Char} (h : lastTag? cs = none) : '<' ∉ cs := by
  rw [lastTag?] at h
  split at h
  · next hd =>
    intro hm
    simpa using List.dropWhile_eq_nil_iff.1 hd '<' (List.mem_reverse.2 hm)
  · cases h

/-- A zone that cannot be located has a start tag that cannot be read. In a text with a byte order mark the tag may end
within a character instead. -/
theorem fault_of_locate {template : List Char} {element : Element} {tag : List Char} {known : ZoneAttributes}
    {id : String} {fault : TemplateFault} (hm : (element, tag) ∈ (Markup.read template).filterMap Piece.startTag?)
    (hc : 2 ≤ element.content.length) (h : locate template element known id = .error fault) :
    fault = .unreadableTag id ∨
      template.head? = some byteOrderMark ∧ fault = .splitCharacter element.stop := by
  obtain ⟨mark, before, inner, after, ht, -, hs, hi, hmark, hplain⟩ := exists_place hm
  rw [locate] at h
  split at h
  · next hsplit =>
    cases h
    refine .inr ⟨Decidable.by_contra fun hn => ?_, rfl⟩
    obtain rfl := hplain hn
    rw [ht, hs, List.nil_append, splitBytes?_append] at hsplit
    cases hsplit
  · next upToStop after' hsplit =>
    have hlong : byteLength mark ≤ byteLength inner :=
      Nat.le_trans hmark (Nat.le_trans (by omega) (length_le_byteLength inner))
    rw [ht, hs] at hsplit
    obtain ⟨part, cut, hpart, hcut, rfl⟩ := (splitBytes?_stop_iff hlong).1 ⟨after', hsplit⟩
    split at h
    · next hlast =>
      exfalso
      cases part with
      | nil =>
          rw [← hcut, ← List.nil_append cut, ← hpart, byteLength_cons, show ('<' : Char).utf8Size = 1 from rfl] at hlong
          omega
      | cons c part =>
          have hopen := lastTag?_eq_none hlast
          rw [(List.cons.inj hpart).1] at hopen
          simp at hopen
    · split at h
      · cases h
        exact .inl rfl
      · cases h

end Zone

/-- No element of a loaded template has a fault. -/
theorem Catalog.ofElement?_of_load {markers : Markers} {template : String} {catalog : Catalog}
    (h : load markers template = .ok catalog) : ∀ t ∈ (Markup.read template.toList).filterMap Piece.startTag?,
      ∃ zone?, Zone.ofElement? markers template.toList t.1 = .ok zone? := by
  obtain ⟨p, hf, -⟩ := load_eq_ok.1 h
  clear h
  have hvisit {p p' : Progress} {element : Element} (h : p.visit markers template.toList element = .ok p') :
      ∃ zone?, Zone.ofElement? markers template.toList element = .ok zone? := by
    obtain ⟨zone?, hz, -⟩ := ok_of_bind h
    exact ⟨zone?, hz⟩
  generalize (⟨0, []⟩ : Progress) = start at hf
  generalize Markup.read template.toList = pieces at hf ⊢
  induction pieces generalizing start with
  | nil => nofun
  | cons piece pieces ih =>
      obtain ⟨q, hq, hrest⟩ := ok_of_foldlM_cons hf
      intro t ht
      rw [List.filterMap_cons] at ht
      cases piece with
      | opening element | empty element =>
          rcases List.mem_cons.1 ht with rfl | ht
          · exact hvisit hq
          · exact ih q hrest t ht
      | closing | passedOver | broken => exact ih q hrest t ht

/-- The zone that a start tag of a loaded template declares is in the catalog. -/
theorem Catalog.mem_zones_of_load {markers : Markers} {template : String} {catalog : Catalog} {element : Element}
    {tag : List Char} {zone : Zone} (h : load markers template = .ok catalog)
    (hm : (element, tag) ∈ (Markup.read template.toList).filterMap Piece.startTag?)
    (hz : Zone.ofElement? markers template.toList element = .ok (some zone)) : zone ∈ catalog.zones := by
  obtain ⟨-, hzones⟩ := zones_of_load h
  rw [hzones]
  exact List.mem_filterMap.2 ⟨_, hm, Zone.declared?_eq_some.2 hz⟩

/-- What becomes of a start tag of a template when `names` is the rule by which attributes name a zone: it is the zone
that its attributes name, unless the tag cannot be read again. -/
structure Zone.IsRecognised (markers : Markers) (template : String) (element : Element)
    (attributes : List Attribute) (names : String → Prop) : Prop where
  unique : ∀ id id', names id → names id' → id = id'
  none_iff : Zone.ofElement? markers template.toList element = .ok none ↔ ∀ id, ¬names id
  id_named : ∀ zone, Zone.ofElement? markers template.toList element = .ok (some zone) → names zone.id
  unreadable : ∀ fault, Zone.ofElement? markers template.toList element = .error fault → ∃ id, names id ∧
    (fault = .unreadableTag id ∨
      template.toList.head? = some byteOrderMark ∧ fault = .splitCharacter element.stop)
  plain : template.toList.head? ≠ some byteOrderMark → element.IsPlain attributes → ∀ id, names id →
    ∃ zone, Zone.ofElement? markers template.toList element = .ok (some zone)
  loaded : ∀ catalog, Catalog.load markers template = .ok catalog → ∀ id, names id ↔
    ∃ zone ∈ catalog.zones, zone.id = id ∧ Zone.ofElement? markers template.toList element = .ok (some zone)

namespace Zone

variable {markers : Markers} {template : String} {element : Element} {tag : List Char}
  {attributes : List Attribute}

theorem id_of_locate {template : List Char} {known : ZoneAttributes} {id : String} {zone : Zone}
    (h : locate template element known id = .ok zone) : zone.id = id := by
  obtain ⟨-, -, -, -, -, -, -, -, rfl⟩ := locate_eq_ok.1 h
  rfl

/-- A plain tag is located in a text without a byte order mark. -/
theorem exists_locate_of_plain {template : List Char}
    (hm : (element, tag) ∈ (Markup.read template).filterMap Piece.startTag?)
    (hd : template.head? ≠ some byteOrderMark) (ha : element.attributes = .ok attributes) (hne : attributes ≠ [])
    (hp : element.IsPlain attributes) (known : ZoneAttributes) (id : String) :
    ∃ zone, locate template element known id = .ok zone := by
  obtain ⟨ws, blanks, tail, before, after, hw, hws, htail, rfl, ht, hs⟩ := exists_written_place hm hd ha hne
  obtain ⟨tag', layout, hl, -⟩ : ∃ tag layout, locate ([] ++ before ++ '<' :: (element.content ++ tail) ++ after)
      element known id = .ok (inTag (byteLength ([] ++ before)) tag layout element known id) ∧ _ :=
    exists_locate_eq hw hws hs hp.name (hw.plain hp) hp.open_notMem (List.append_nil _) rfl htail
      (endsTag_append hw.blank htail)
  exact ⟨_, ht ▸ hl⟩

theorem ofElement?_eq_none_iff {template : List Char} (ha : element.attributes = .ok attributes) :
    ofElement? markers template element = .ok none ↔
      (attributes.foldl (ZoneAttributes.note markers) {}).zoneId? markers = none := by
  rw [ofElement?_eq ha]
  dsimp only
  split
  · next hid => simp [hid]
  · next id hid =>
    refine iff_of_false (fun h => ?_) (by simp [hid])
    cases hl : locate template element (attributes.foldl (ZoneAttributes.note markers) {}) id with
    | error fault | ok zone =>
        rw [hl] at h
        cases h

theorem zoneId?_of_ofElement? {template : List Char} {zone : Zone} (ha : element.attributes = .ok attributes)
    (h : ofElement? markers template element = .ok (some zone)) :
    (attributes.foldl (ZoneAttributes.note markers) {}).zoneId? markers = some zone.id := by
  obtain ⟨attributes', id, ha', hid, hl⟩ := ofElement?_eq_some.1 h
  obtain rfl : attributes' = attributes := Except.ok.inj (ha'.symm.trans ha)
  rw [id_of_locate hl, hid]

/-- The rule that tells which zone is made of the attributes tells what becomes of the start tag. -/
theorem isRecognised_of_zoneId? (hm : (element, tag) ∈ (Markup.read template.toList).filterMap Piece.startTag?)
    (ha : element.attributes = .ok attributes) {names : String → Prop} (hne : ∀ id, names id → attributes ≠ [])
    (h : ∀ id, (attributes.foldl (ZoneAttributes.note markers) {}).zoneId? markers = some id ↔ names id) :
    IsRecognised markers template element attributes names := by
  have hunique (id id' : String) (hi : names id) (hi' : names id') : id = id' :=
    Option.some.inj (((h id).2 hi).symm.trans ((h id').2 hi'))
  have hof : ofElement? markers template.toList element = _ := ofElement?_eq ha
  dsimp only at hof
  cases hid : (attributes.foldl (ZoneAttributes.note markers) {}).zoneId? markers with
  | none =>
      rw [hid] at hof
      have hnames : ∀ id, ¬names id := fun id hn => by rw [(h id).2 hn] at hid; cases hid
      exact {
        unique := hunique
        none_iff := iff_of_true hof hnames
        id_named := fun zone hz => by rw [hof] at hz; cases hz
        unreadable := fun fault hf => by rw [hof] at hf; cases hf
        plain := fun _ _ id hn => absurd hn (hnames id)
        loaded := fun catalog _ id => iff_of_false (hnames id) fun ⟨zone, _, _, hz⟩ => by rw [hof] at hz; cases hz }
  | some id =>
      rw [hid] at hof
      dsimp only at hof
      have hname : names id := (h id).1 hid
      have hattributes := hne id hname
      cases hl : locate template.toList element (attributes.foldl (ZoneAttributes.note markers) {}) id with
      | error fault =>
          rw [hl] at hof
          exact {
            unique := hunique
            none_iff := iff_of_false (fun hz => by rw [hof] at hz; cases hz) fun hn => hn id hname
            id_named := fun zone hz => by rw [hof] at hz; cases hz
            unreadable := fun fault' hf => by
              rw [hof] at hf
              cases hf
              exact ⟨id, hname, fault_of_locate hm (element.two_le_content ha hattributes) hl⟩
            plain := fun hd hp _ _ => by
              obtain ⟨zone, hz⟩ := exists_locate_of_plain hm hd ha hattributes hp _ id
              rw [hl] at hz
              cases hz
            loaded := fun catalog hload => by
              obtain ⟨zone?, hz⟩ := Catalog.ofElement?_of_load hload _ hm
              rw [hof] at hz
              cases hz }
      | ok zone =>
          rw [hl] at hof
          obtain rfl := id_of_locate hl
          exact {
            unique := hunique
            none_iff := iff_of_false (fun hz => by rw [hof] at hz; cases hz) fun hn => hn _ hname
            id_named := fun zone' hz => by
              rw [hof] at hz
              cases hz
              exact hname
            unreadable := fun fault hf => by rw [hof] at hf; cases hf
            plain := fun _ _ _ _ => ⟨zone, hof⟩
            loaded := fun catalog hload id' => by
              constructor
              · exact fun hn => ⟨zone, Catalog.mem_zones_of_load hload hm hof, hunique _ _ hname hn, hof⟩
              · rintro ⟨zone', -, rfl, hz⟩
                rw [hof] at hz
                cases hz
                exact hname }

end Zone

namespace Markers

/-- What attributes name does not depend on where they stand. -/
theorem Marks.of_subset {m : Markers} {attributes attributes' : List Attribute} {id : String}
    (hs : ∀ a ∈ attributes, ∃ a' ∈ attributes', a'.name = a.name ∧ a'.value = a.value)
    (h : m.Marks attributes id) : m.Marks attributes' id := by
  obtain ⟨a, ha, hk, hc, rfl⟩ := h
  obtain ⟨a', ha', hname, hvalue⟩ := hs a ha
  exact ⟨a', ha', hname.trans hk, by rwa [hvalue], by rw [hvalue]⟩

theorem Classifies.of_subset {m : Markers} {attributes attributes' : List Attribute} {id : String}
    (hs : ∀ a ∈ attributes, ∃ a' ∈ attributes', a'.name = a.name ∧ a'.value = a.value)
    (h : m.Classifies attributes id) : m.Classifies attributes' id := by
  obtain ⟨a, ha, hk, hwords⟩ := h
  obtain ⟨a', ha', hname, hvalue⟩ := hs a ha
  exact ⟨a', ha', hname.trans hk, by rwa [hvalue]⟩

theorem exists_of_perm {attributes attributes' : List Attribute}
    (h : (attributes.map fun a => (a.name, a.value)).Perm (attributes'.map fun a => (a.name, a.value))) :
    ∀ a ∈ attributes, ∃ a' ∈ attributes', a'.name = a.name ∧ a'.value = a.value := by
  intro a ha
  obtain ⟨a', ha', he⟩ := List.mem_map.1 (h.subset (List.mem_map_of_mem ha))
  exact ⟨a', ha', congrArg Prod.fst he, congrArg Prod.snd he⟩

/-- The same attributes in another order make the same zone. -/
theorem zoneId?_perm (m : Markers) {e e' : Element} {attributes attributes' : List Attribute}
    (ha : e.attributes = .ok attributes) (ha' : e'.attributes = .ok attributes')
    (h : (attributes.map fun a => (a.name, a.value)).Perm (attributes'.map fun a => (a.name, a.value))) :
    (attributes.foldl (ZoneAttributes.note m) {}).zoneId? m =
      (attributes'.foldl (ZoneAttributes.note m) {}).zoneId? m := by
  have hs := exists_of_perm h
  have hs' := exists_of_perm h.symm
  have hmarks (id : String) : m.Marks attributes id ↔ m.Marks attributes' id := ⟨.of_subset hs, .of_subset hs'⟩
  have hclasses (id : String) : m.Classifies attributes id ↔ m.Classifies attributes' id :=
    ⟨.of_subset hs, .of_subset hs'⟩
  refine Option.ext fun id => ?_
  by_cases hm : m.zoneAttribute ∈ ownNames
  · rw [ZoneAttributes.zoneId?_own hm (e.nodup_names ha), ZoneAttributes.zoneId?_own hm (e'.nodup_names ha')]
    exact hclasses id
  · rw [ZoneAttributes.zoneId?_eq_some hm (e.nodup_names ha), ZoneAttributes.zoneId?_eq_some hm (e'.nodup_names ha')]
    simp only [Names, hmarks, hclasses]

/-- A start tag is a zone by the attribute set for markers if that is not blank, else by its first known class, in
whatever order its attributes stand. Where the attribute set for markers has a meaning of its own, only classes
count. -/
theorem recognises (markers : Markers) {template : String} {element : Element} {tag : List Char}
    {attributes : List Attribute} (hm : (element, tag) ∈ (Markup.read template.toList).filterMap Piece.startTag?)
    (ha : element.attributes = .ok attributes) :
    (markers.zoneAttribute ∉ ownNames →
      Zone.IsRecognised markers template element attributes (markers.Names attributes)) ∧
    (markers.zoneAttribute ∈ ownNames →
      Zone.IsRecognised markers template element attributes (markers.Classifies attributes)) ∧
    ∀ (template' : List Char) (element' : Element) (attributes' : List Attribute),
      element'.attributes = .ok attributes' →
      (attributes.map fun a => (a.name, a.value)).Perm (attributes'.map fun a => (a.name, a.value)) →
      (Zone.ofElement? markers template.toList element = .ok none ↔
        Zone.ofElement? markers template' element' = .ok none) ∧
      ∀ zone zone', Zone.ofElement? markers template.toList element = .ok (some zone) →
        Zone.ofElement? markers template' element' = .ok (some zone') → zone.id = zone'.id := by
  refine ⟨fun hz => ?_, fun hz => ?_, fun template' element' attributes' ha' hp => ?_⟩
  · refine Zone.isRecognised_of_zoneId? hm ha (fun id hn => ?_) fun id =>
      ZoneAttributes.zoneId?_eq_some hz (element.nodup_names ha)
    obtain ⟨a, hmem, -⟩ | ⟨-, a, hmem, -⟩ := hn <;> exact List.ne_nil_of_mem hmem
  · refine Zone.isRecognised_of_zoneId? hm ha (fun id hn => ?_) fun id =>
      ZoneAttributes.zoneId?_own hz (element.nodup_names ha)
    obtain ⟨a, hmem, -⟩ := hn
    exact List.ne_nil_of_mem hmem
  · have hid := markers.zoneId?_perm ha ha' hp
    rw [Zone.ofElement?_eq_none_iff ha, Zone.ofElement?_eq_none_iff ha', hid]
    refine ⟨Iff.rfl, fun zone zone' hz hz' => ?_⟩
    rw [Zone.zoneId?_of_ofElement? ha hz, Zone.zoneId?_of_ofElement? ha' hz'] at hid
    exact Option.some.inj hid

/-- A marker of blanks falls back to the classes. -/
theorem recognises_hood : ∃ element tag attributes,
    (element, tag) ∈ (Markup.read "<g><b class='x Hood' data-zone=' '/></g>".toList).filterMap Piece.startTag? ∧
    element.attributes = .ok attributes ∧ "data-zone" ∉ ownNames ∧
    (⟨["hood"], "data-zone"⟩ : Markers).Names attributes "hood" ∧
    Zone.IsRecognised ⟨["hood"], "data-zone"⟩ "<g><b class='x Hood' data-zone=' '/></g>" element attributes
      ((⟨["hood"], "data-zone"⟩ : Markers).Names attributes) := by
  have hmem : (Element.ofContent "b class='x Hood' data-zone=' '".toList 36,
      "<b class='x Hood' data-zone=' '/>".toList) ∈
      (Markup.read "<g><b class='x Hood' data-zone=' '/></g>".toList).filterMap Piece.startTag? := by
    decide +kernel
  cases ha : (Element.ofContent "b class='x Hood' data-zone=' '".toList 36).attributes with
  | error fault =>
      have hok : (Element.ofContent "b class='x Hood' data-zone=' '".toList 36).attributes.isOk = true := by
        decide +kernel
      rw [ha] at hok
      cases hok
  | ok attributes =>
      obtain ⟨hr, -, -⟩ := recognises ⟨["hood"], "data-zone"⟩ hmem ha
      have hr := hr (by decide)
      have hzone : (Zone.declared? ⟨["hood"], "data-zone"⟩ "<g><b class='x Hood' data-zone=' '/></g>".toList
          (.ofContent "b class='x Hood' data-zone=' '".toList 36)).map Zone.id = some "hood" := by
        decide +kernel
      obtain ⟨zone, hz, hid⟩ := Option.map_eq_some_iff.1 hzone
      exact ⟨_, _, attributes, hmem, ha, by decide, hid ▸ hr.id_named zone (Zone.declared?_eq_some.1 hz), hr⟩

/-- Identifiers as markers: the attribute names a zone, and none is found. -/
theorem own_name_marks_nothing : ∃ element tag attributes,
    (element, tag) ∈ (Markup.read "<svg><a id='roof'/></svg>".toList).filterMap Piece.startTag? ∧
    element.attributes = .ok attributes ∧ (⟨[], "id"⟩ : Markers).Names attributes "roof" ∧
    Zone.ofElement? ⟨[], "id"⟩ "<svg><a id='roof'/></svg>".toList element = .ok none ∧
    Catalog.load ⟨[], "id"⟩ "<svg><a id='roof'/></svg>" = .error .noZones := by
  refine ⟨.ofContent "a id='roof'".toList 19, "<a id='roof'/>".toList,
    [⟨⟨"id".toList, "roof".toList, 2⟩, "roof".toList⟩], by decide +kernel, by decide +kernel, ?_, by decide +kernel,
    by decide +kernel⟩
  exact .inl ⟨_, List.mem_singleton_self _, by decide +kernel, ⟨'r', List.mem_cons_self, by decide⟩, by decide +kernel⟩

end Markers

end VehicleDamage
