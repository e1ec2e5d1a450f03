import VehicleDamage.Proofs.Markup.Written
import VehicleDamage.Proofs.Template.Zones

/-!
The geometry of a zone against what is read of its element: both agree about a tag whose name and keys are plain and
that holds no second `<`.
-/

namespace VehicleDamage

open Text Markup

theorem lastTag?_eq_some {cs before tag : List Char} :
    lastTag? cs = some (before, tag) ↔ cs = before ++ tag ∧ ∃ inner, tag = '<' :: inner ∧ '<' ∉ inner := by
  refine ⟨lastTag?_eq, ?_⟩
  rintro ⟨rfl, inner, rfl, hn⟩
  have hr : (before ++ '<' :: inner).reverse = inner.reverse ++ '<' :: before.reverse := by simp
  have hi : ∀ c ∈ inner.reverse, (c != '<') = true := fun c hc =>
    bne_iff_ne.2 fun he => hn (he ▸ List.mem_reverse.1 hc)
  have hb : ∀ c ∈ ('<' :: before.reverse).head?, (c != '<') = false := by simp
  rw [lastTag?, hr, (cut_append hi hb).1, (cut_append hi hb).2, List.reverse_reverse]
  simp only [List.reverse_reverse]

/-- The text of a range; `none` past the end or within a character. -/
def Span.of? (s : Span) (text : List Char) : Option (List Char) :=
  (splitBytes? s.start text).bind fun r => (splitBytes? (s.stop - s.start) r.2).map Prod.fst

theorem Span.of?_append (before inside after : List Char) :
    Span.of? ⟨byteLength before, byteLength before + byteLength inside⟩ (before ++ inside ++ after) = some inside := by
  rw [of?, List.append_assoc, splitBytes?_append, Option.bind_some, Nat.add_sub_cancel_left, splitBytes?_append]
  rfl

/-- An element that declares a zone has attributes that can be read, and its zone has been located. -/
theorem Zone.exists_attributes {markers : Markers} {template : List Char} {element : Element} {zone : Zone}
    (h : ofElement? markers template element = .ok (some zone)) : ∃ attributes, element.attributes = .ok attributes ∧
      ∃ known id, locate template element known id = .ok zone := by
  obtain ⟨-, hl⟩ := locate_of_ofElement? h
  rw [ofElement?] at h
  split at h
  · cases h
  · next attributes ha => exact ⟨attributes, ha, hl⟩

/-- The last tag of a text that ends in a tag is that tag, unless it holds a second `<`. -/
theorem lastTag?_start_iff {done inner before tag : List Char}
    (h : lastTag? (done ++ '<' :: inner) = some (before, tag)) :
    byteLength before = byteLength done ↔ '<' ∉ inner := by
  constructor
  · intro hl hm
    obtain ⟨kept, rfl, hk⟩ := lastTag?_append h
    rw [byteLength_append] at hl
    obtain rfl : kept = [] := eq_nil_of_byteLength (by omega)
    obtain ⟨-, inner', rfl, hn⟩ := lastTag?_eq h
    exact hn ((List.cons.inj hk).2 ▸ hm)
  · intro hn
    rw [lastTag?_eq_some.2 ⟨rfl, inner, rfl, hn⟩] at h
    cases h
    rfl

namespace Zone

/-- The zone that a tag at byte `start` gives. -/
def inTag (start : Nat) (tag : List Char) (layout : Layout) (element : Element) (known : ZoneAttributes)
    (id : String) : Zone where
  id
  label := known.label.getD (titleCase id)
  geometry := {
    element := String.ofList element.name
    elementId := known.elementId
    tagSpan := ⟨start, element.stop⟩
    styleValue := layout.styleValue.map fun (i, j) => ⟨start + i, start + j⟩
    insertionPoint := start + layout.nameEnd }
  defaultStyle := .ofAttributes
    (layout.styleValue.bind fun (i, j) => (Span.of? ⟨i, j⟩ tag).map String.ofList) known.fill

theorem locate_eq_ok {template : List Char} {element : Element} {known : ZoneAttributes} {id : String}
    {zone : Zone} : locate template element known id = .ok zone ↔
      ∃ upToStop after before tag layout, splitBytes? element.stop template = some (upToStop, after) ∧
        lastTag? upToStop = some (before, tag) ∧ layout? tag = some layout ∧
        zone = inTag (byteLength before) tag layout element known id := by
  have hstyle (tag : List Char) (layout : Layout) :
      (layout.styleValue.bind fun (i, j) =>
        (splitBytes? i tag).bind fun r => (splitBytes? (j - i) r.2).map fun s => String.ofList s.1) =
      layout.styleValue.bind fun (i, j) => (Span.of? ⟨i, j⟩ tag).map String.ofList := by
    cases layout.styleValue with
    | none => rfl
    | some range => simp [Span.of?, Option.map_bind, Function.comp_def]
  rw [locate]
  constructor
  · intro h
    split at h
    · cases h
    · next upToStop after hs =>
      split at h
      · cases h
      · next before tag ht =>
        split at h
        · cases h
        · next layout hl =>
          cases h
          refine ⟨upToStop, after, before, tag, layout, hs, ht, hl, ?_⟩
          rw [inTag, ← hstyle]
  · rintro ⟨upToStop, after, before, tag, layout, hs, ht, hl, rfl⟩
    rw [hs]
    dsimp only
    rw [ht]
    dsimp only
    rw [hl]
    dsimp only
    rw [inTag, ← hstyle]

end Zone

namespace Markup

/-- An element whose start tag is read alike by all: it holds no second `<`, and neither in its name nor in a key a
character that could end one. -/
structure Element.IsPlain (e : Element) (attributes : List Attribute) : Prop where
  open_notMem : '<' ∉ e.content
  name : ∀ c ∈ e.name, endsName c = false
  keys : ∀ a ∈ attributes, ∀ c ∈ a.raw.key, endsName c = false

theorem Written.exists_reads {ws : List Written} {attributes : List Attribute}
    (h : List.Forall₂ Written.Reads ws attributes) : ∀ w ∈ ws, ∃ a ∈ attributes, w.Reads a := by
  induction h with
  | nil => nofun
  | cons hr _ ih =>
      refine List.forall_mem_cons.2 ⟨⟨_, List.mem_cons_self, hr⟩, fun w hw => ?_⟩
      obtain ⟨a, ha, hr⟩ := ih w hw
      exact ⟨a, List.mem_cons_of_mem _ ha, hr⟩

/-- The value of an attribute, as it is written. -/
def rawValue? (key : String) (attributes : List Attribute) : Option (List Char) :=
  (attributes.find? fun a => a.raw.key = key.toList).map fun a => a.raw.value

theorem Written.rawValue?_eq {ws : List Written} {attributes : List Attribute} (key : String)
    (h : List.Forall₂ Written.Reads ws attributes) :
    rawValue? key attributes = (ws.find? fun w => w.key = key.toList).map Written.value := by
  induction h with
  | nil => rfl
  | @cons w a ws attributes hr _ ih =>
      rw [rawValue?, List.find?_cons, List.find?_cons, hr.key_eq]
      split
      · rw [Option.map_some, Option.map_some, hr.raw_eq]
      · exact ih

/-- What a start tag ends in, after the content of its element. -/
def IsTail (tail : List Char) : Prop :=
  tail = ['>'] ∨ tail = ['/', '>']

theorem exists_tail {piece : Piece} {element : Element} {tag : List Char}
    (h : piece.startTag? = some (element, tag)) : ∃ tail, IsTail tail ∧ tag = '<' :: element.content ++ tail := by
  cases piece with
  | opening element' =>
      cases h
      exact ⟨_, .inl rfl, rfl⟩
  | empty element' =>
      cases h
      exact ⟨_, .inr rfl, rfl⟩
  | closing | passedOver | broken => cases h

theorem endsTag_append {blanks tail : List Char} (hb : ∀ c ∈ blanks, isSpace c = true) (ht : IsTail tail) :
    EndsTag (blanks ++ tail) := by
  have hd : (blanks ++ tail).dropWhile isGap = tail :=
    (cut_append (fun c hc => isGap_of_isSpace (hb c hc)) (by rcases ht with rfl | rfl <;> simp [isGap])).2
  rw [EndsTag, hd]
  rcases ht with rfl | rfl <;> simp

namespace Element.IsWritten

variable {e : Element} {attributes : List Attribute} {ws : List Written} {blanks tail : List Char}

theorem tag_eq (h : e.IsWritten attributes ws blanks) (tail : List Char) :
    '<' :: e.content ++ tail = '<' :: (e.name ++ (ws.flatMap Written.text ++ (blanks ++ tail))) := by
  rw [h.content_eq]
  simp

theorem plain (h : e.IsWritten attributes ws blanks) (hp : e.IsPlain attributes) : ∀ w ∈ ws, w.IsPlain := by
  intro w hw
  obtain ⟨a, ha, hr⟩ := Written.exists_reads h.reads w hw
  rw [Written.IsPlain, ← hr.key_eq]
  exact hp.keys a ha

theorem head_endsName (h : e.IsWritten attributes ws blanks) (ht : IsTail tail) :
    ∀ c ∈ (ws.flatMap Written.text ++ (blanks ++ tail)).head?, endsName c = true := by
  intro c hc
  rw [← List.append_assoc] at hc
  cases hr : ws.flatMap Written.text ++ blanks with
  | nil =>
      rw [hr] at hc
      rcases ht with rfl | rfl <;> cases hc <;> rfl
  | cons c' rest =>
      rw [hr] at hc
      cases hc
      exact endsName_of_isGap (isGap_of_isSpace (h.head_blank _ (hr ▸ rfl)))

/-- The layout of a plain tag, or of one that is cut after its attributes: its name and its style are those that are
read. -/
theorem layout?_eq (h : e.IsWritten attributes ws blanks) (hn : ∀ c ∈ e.name, endsName c = false)
    (hws : ∀ w ∈ ws, w.IsPlain) {trail : List Char}
    (hh : ∀ c ∈ (ws.flatMap Written.text ++ trail).head?, endsName c = true) (he : EndsTag trail) :
    ∃ layout, layout? ('<' :: (e.name ++ (ws.flatMap Written.text ++ trail))) = some layout ∧
      layout.nameEnd = byteLength ('<' :: e.name) ∧
      (layout.styleValue.map fun (i, j) => Span.of? ⟨i, j⟩ ('<' :: (e.name ++ (ws.flatMap Written.text ++ trail)))) =
        (rawValue? "style" attributes).map some := by
  rw [Written.rawValue?_eq _ h.reads]
  rcases Written.style_cases h.nodup with hs | ⟨before, w, after, rfl, hw, hb, ha⟩
  · refine ⟨_, layout?_unstyled hn hws hh he hs, rfl, ?_⟩
    have hf : ws.find? (fun w => w.key = "style".toList) = none := by simpa using hs
    rw [hf]
    rfl
  · refine ⟨_, layout?_styled hn hws hh he rfl hw hb ha, rfl, ?_⟩
    have hcut := Span.of?_append ('<' :: e.name ++ before.flatMap Written.text ++ w.front) w.value
      (w.quote :: (after.flatMap Written.text ++ trail))
    rw [Written.find?_style hw hb]
    simpa [Written.text] using hcut

/-- The layout ends the name where it is read to end, unless a character of the name ends it before. -/
theorem nameEnd_eq_iff (h : e.IsWritten attributes ws blanks) (ht : IsTail tail) {layout : Layout}
    (hl : layout? ('<' :: e.content ++ tail) = some layout) :
    layout.nameEnd = byteLength ('<' :: e.name) ↔ ∀ c ∈ e.name, endsName c = false := by
  let rest := ws.flatMap Written.text ++ (blanks ++ tail)
  have hend : layout.nameEnd = byteLength ('<' :: (e.name ++ rest).takeWhile fun c => !endsName c) := by
    rw [h.tag_eq, layout?] at hl
    obtain ⟨style, -, rfl⟩ := Option.map_eq_some_iff.1 hl
    rfl
  have hall : (∀ c ∈ e.name, endsName c = false) ↔ e.name.dropWhile (fun c => !endsName c) = [] := by
    simp [List.dropWhile_eq_nil_iff]
  have hname := List.takeWhile_append_dropWhile (p := fun c => !endsName c) (l := e.name)
  rw [hend, hall]
  constructor
  · intro he
    rw [List.takeWhile_append] at he
    split at he
    · next hlen =>
      have hl := congrArg List.length hname
      rw [List.length_append] at hl
      exact List.length_eq_zero_iff.1 (by omega)
    · have hb := congrArg byteLength hname
      simp only [byteLength_append, byteLength_cons] at hb he
      exact eq_nil_of_byteLength (by omega)
  · intro hd
    have hp : ∀ c ∈ e.name, (!endsName c) = true := fun c hc => by rw [hall.2 hd c hc]; rfl
    have hr : ∀ c ∈ rest.head?, (!endsName c) = false := fun c hc => by rw [h.head_endsName ht c hc]; rfl
    rw [(cut_append hp hr).1]

end Element.IsWritten

theorem Laid.exists_split {offset : Nat} {cs : List Char} {tags : List (Element × List Char)}
    (h : Laid offset cs tags) : ∀ t ∈ tags, ∃ before after, cs = before ++ t.2 ++ after ∧
      t.1.stop = offset + byteLength (before ++ t.2) := by
  induction h with
  | nil => nofun
  | @cons offset gap tag rest element more stop_eq laid ih =>
      refine List.forall_mem_cons.2 ⟨⟨gap, rest, rfl, ?_⟩, fun t ht => ?_⟩
      · rw [stop_eq, byteLength_append, Nat.add_assoc]
      · obtain ⟨before, after, rfl, hs⟩ := ih t ht
        refine ⟨gap ++ tag ++ before, after, by simp only [List.append_assoc], ?_⟩
        rw [hs, stop_eq]
        simp only [byteLength_append, Nat.add_assoc]

theorem read_eq_pieces {document : List Char} (h : document.head? ≠ some byteOrderMark) :
    read document = pieces [] 0 document := by
  cases document with
  | nil =>
      rw [pieces]
      rfl
  | cons c cs => exact if_neg fun hc => h (congrArg some hc)

end Markup

/-- The text of a range within a tag is the text of the range shifted with the tag. -/
theorem Span.of?_shift {tag : List Char} {i j : Nat} (h : Within tag i j) (before after : List Char) :
    Span.of? ⟨byteLength before + i, byteLength before + j⟩ (before ++ tag ++ after) = Span.of? ⟨i, j⟩ tag := by
  obtain ⟨bs, is, as, rfl, rfl, rfl⟩ := h
  have hs := Span.of?_append (before ++ bs) is (as ++ after)
  rw [Span.of?_append, ← hs]
  simp only [byteLength_append, List.append_assoc, Nat.add_assoc]

/-- The geometry of a zone gives its start tag, which stands in the template after `before`, the end of its
element's name and the value of its style. -/
structure Geometry.IsFaithful (g : Geometry) (template before tag : List Char) (element : Element)
    (attributes : List Attribute) : Prop where
  tagSpan_eq : g.tagSpan = ⟨byteLength before, byteLength (before ++ tag)⟩
  insertionPoint_eq : g.insertionPoint = byteLength (before ++ '<' :: element.name)
  styleValue_eq : (g.styleValue.map fun span => span.of? template) = (rawValue? "style" attributes).map some

/-- In a plain tag the zone has a faithful geometry. -/
theorem Zone.isFaithful_inTag {before after tail blanks : List Char} {ws : List Written} {element : Element}
    {attributes : List Attribute} {layout : Layout} (hw : element.IsWritten attributes ws blanks)
    (hp : element.IsPlain attributes) (ht : IsTail tail)
    (hl : layout? ('<' :: element.content ++ tail) = some layout)
    (hs : element.stop = byteLength (before ++ ('<' :: element.content ++ tail))) (known : ZoneAttributes)
    (id : String) :
    (inTag (byteLength before) ('<' :: element.content ++ tail) layout element known id).geometry.IsFaithful
      (before ++ ('<' :: element.content ++ tail) ++ after) before ('<' :: element.content ++ tail) element
      attributes := by
  obtain ⟨layout', hlayout, hend, hstyle⟩ :=
    hw.layout?_eq hp.name (hw.plain hp) (hw.head_endsName ht) (endsTag_append hw.blank ht)
  rw [← hw.tag_eq] at hlayout hstyle
  obtain rfl := Option.some.inj (hl.symm.trans hlayout)
  refine ⟨?_, ?_, ?_⟩
  · rw [← hs]
    rfl
  · rw [byteLength_append, ← hend]
    rfl
  · rw [← hstyle]
    simp only [inTag]
    cases hv : layout.styleValue with
    | none => rfl
    | some range =>
        have hwithin := (within_layout? hl).2 range.1 range.2 hv
        simp only [Option.map_some]
        rw [Span.of?_shift hwithin]

/-- The zones of a template without a byte order mark are found where their elements are read. A tag's range is
right unless the tag holds a second `<`, and then the insertion point is right unless the name holds a character
that could end one. The style is right as well where the keys hold no such character. -/
theorem Catalog.geometry_isFaithful {markers : Markers} {template : String} {catalog : Catalog}
    (h : load markers template = .ok catalog) (hm : template.toList.head? ≠ some byteOrderMark) :
    ∀ zone ∈ catalog.zones, ∃ element tag attributes before after,
      (element, tag) ∈ (Markup.read template.toList).filterMap Piece.startTag? ∧
      Zone.ofElement? markers template.toList element = .ok (some zone) ∧ element.attributes = .ok attributes ∧
      template.toList = before ++ tag ++ after ∧ element.stop = byteLength (before ++ tag) ∧
      (zone.geometry.tagSpan = ⟨byteLength before, byteLength (before ++ tag)⟩ ↔ '<' ∉ element.content) ∧
      ('<' ∉ element.content → (zone.geometry.insertionPoint = byteLength (before ++ '<' :: element.name) ↔
        ∀ c ∈ element.name, endsName c = false)) ∧
      (element.IsPlain attributes →
        zone.geometry.IsFaithful template.toList before tag element attributes) := by
  intro zone hzone
  obtain ⟨-, hz⟩ := zones_of_load h
  rw [hz] at hzone
  obtain ⟨⟨element, tag⟩, hmem, hdeclared⟩ := List.mem_filterMap.1 hzone
  have hof := Zone.declared?_eq_some.1 hdeclared
  obtain ⟨piece, -, hstart⟩ := List.mem_filterMap.1 hmem
  obtain ⟨tail, htail, rfl⟩ := exists_tail hstart
  have hlaid := laid_pieces [] 0 template.toList
  have hname := name_eq_of_mem_pieces [] 0 template.toList
  rw [← read_eq_pieces hm] at hlaid hname
  obtain ⟨before, after, htemplate, hstop⟩ := hlaid.exists_split _ hmem
  dsimp only at htemplate hstop hof
  rw [Nat.zero_add] at hstop
  obtain ⟨attributes, hattributes, known, id, hlocate⟩ := Zone.exists_attributes hof
  obtain ⟨ws, blanks, hw⟩ := Element.exists_isWritten (hname _ hmem) hattributes
  rw [htemplate, Zone.locate_eq_ok, hstop] at hlocate
  obtain ⟨_, _, before', tag', layout, hsplit, htag, hlayout, rfl⟩ := hlocate
  rw [splitBytes?_append] at hsplit
  cases hsplit
  have hopen : '<' ∉ element.content ++ tail ↔ '<' ∉ element.content := by
    rcases htail with rfl | rfl <;> simp
  have hspan : byteLength before' = byteLength before ↔ '<' ∉ element.content :=
    (lastTag?_start_iff htag).trans hopen
  have hown (hn : '<' ∉ element.content) : before' = before ∧ tag' = '<' :: element.content ++ tail := by
    have hlast : lastTag? (before ++ ('<' :: element.content ++ tail)) =
        some (before, '<' :: element.content ++ tail) :=
      lastTag?_eq_some.2 ⟨rfl, _, List.cons_append, hopen.2 hn⟩
    cases htag.symm.trans hlast
    exact ⟨rfl, rfl⟩
  refine ⟨element, _, attributes, before, after, hmem, hof, hattributes, htemplate, hstop, ?_, ?_, ?_⟩
  · simp [Zone.inTag, hstop, hspan]
  · intro hn
    obtain ⟨rfl, rfl⟩ := hown hn
    rw [← hw.nameEnd_eq_iff htail hlayout, byteLength_append]
    exact Nat.add_right_inj
  · intro hp
    obtain ⟨rfl, rfl⟩ := hown hp.open_notMem
    rw [htemplate]
    exact Zone.isFaithful_inTag hw hp htail hlayout hstop known id

theorem Catalog.geometry_isFaithful_roof :
    ∃ catalog, load .standard "<g><a data-zone='Roof' style = 'fill:#fff'/></g>" = .ok catalog ∧
      ∀ zone ∈ catalog.zones, ∃ element tag attributes before after, element.attributes = .ok attributes ∧
        "<g><a data-zone='Roof' style = 'fill:#fff'/></g>".toList = before ++ tag ++ after ∧
        element.stop = byteLength (before ++ tag) ∧
        (element.IsPlain attributes → zone.geometry.IsFaithful
          "<g><a data-zone='Roof' style = 'fill:#fff'/></g>".toList before tag element attributes) := by
  have hok : (load .standard "<g><a data-zone='Roof' style = 'fill:#fff'/></g>").isOk = true := by decide +kernel
  cases h : load .standard "<g><a data-zone='Roof' style = 'fill:#fff'/></g>" with
  | error fault =>
      rw [h] at hok
      cases hok
  | ok catalog =>
      refine ⟨catalog, rfl, fun zone hz => ?_⟩
      obtain ⟨element, tag, attributes, before, after, -, -, ha, ht, hs, -, -, hf⟩ :=
        geometry_isFaithful h (by decide +kernel) zone hz
      exact ⟨element, tag, attributes, before, after, ha, ht, hs, hf⟩

/-- A second `<` in the tag: the element ends at byte 52 and has a style, and the zone is found without one in the
last five bytes. -/
theorem Catalog.geometry_second_open :
    let template := "<svg><a style='fill:#fff' data-zone='roof' d='x<y'/></svg>"
    ((load .standard template).toOption.map fun c => c.zones.map Zone.geometry) =
        some [⟨"a", none, ⟨47, 52⟩, none, 50⟩] ∧
      (((Markup.read template.toList).filterMap Piece.startTag?).map fun t =>
        (t.1.name, t.1.stop, t.1.attributes.toOption.bind (rawValue? "style"))) =
        [("svg".toList, 5, none), ("a".toList, 52, some "fill:#fff".toList)] := by
  decide +kernel

end VehicleDamage
