import VehicleDamage.Proofs.Template.Recognition

/-!
A byte order mark in front of a template. Offsets leave the mark out, so that a start tag is looked for as many bytes
too early as the mark takes up. The tag is cut at its end, and is read alike only if it has that many bytes after its
last quote.
-/

namespace VehicleDamage

open Text Markup

namespace Text

/-- A text of single bytes can be cut anywhere. -/
theorem exists_cut {cs : List Char} {n : Nat} (h : ∀ c ∈ cs, c.utf8Size = 1) (hn : n ≤ byteLength cs) :
    ∃ kept cut, kept ++ cut = cs ∧ byteLength cut = n := by
  rw [byteLength_eq_length h] at hn
  refine ⟨cs.take (cs.length - n), cs.drop (cs.length - n), List.take_append_drop _ _, ?_⟩
  rw [byteLength_eq_length fun c hc => h c (List.mem_of_mem_drop hc), List.length_drop]
  omega

end Text

theorem map_eq_ok {ε α β : Type} {x : Except ε α} {f : α → β} {b : β} :
    x.map f = .ok b ↔ ∃ a, x = .ok a ∧ b = f a := by
  cases x with
  | error e => exact ⟨nofun, nofun⟩
  | ok a => simp [Except.map, eq_comm]

/-- A template with a byte order mark in front. -/
def marked (template : String) : String :=
  String.ofList (byteOrderMark :: template.toList)

theorem toList_marked (template : String) : (marked template).toList = byteOrderMark :: template.toList :=
  String.toList_ofList

namespace Markup

theorem read_mark {document : List Char} (h : document.head? ≠ some byteOrderMark) :
    read (byteOrderMark :: document) = read document := by
  rw [read_eq_pieces h, read, if_pos rfl]

/-- After its last quote a tag has as many characters as a byte order mark has bytes, or more. -/
def HasRoom (tag : List Char) : Prop :=
  byteOrderMark.utf8Size ≤ (tag.reverse.takeWhile fun c => !isQuote c).length

instance (tag : List Char) : Decidable (HasRoom tag) :=
  inferInstanceAs (Decidable (_ ≤ _))

namespace Element.IsWritten

variable {e : Element} {attributes : List Attribute} {ws : List Written} {blanks tail : List Char}

theorem of_mem_ending (h : e.IsWritten attributes ws blanks) (ht : IsTail tail) :
    ∀ c ∈ blanks ++ tail, isQuote c = false ∧ c.utf8Size = 1 := by
  refine List.forall_mem_append.2 ⟨fun c hc => ?_, ?_⟩
  · have hs := h.blank c hc
    simp only [isSpace, Bool.or_eq_true, decide_eq_true_eq] at hs
    rcases hs with ((rfl | rfl) | rfl) | rfl <;> exact ⟨rfl, rfl⟩
  · have hclose : isQuote '>' = false ∧ ('>' : Char).utf8Size = 1 := ⟨rfl, rfl⟩
    rcases ht with rfl | rfl
    · exact List.forall_mem_singleton.2 hclose
    · exact List.forall_mem_cons.2 ⟨⟨rfl, rfl⟩, List.forall_mem_singleton.2 hclose⟩

/-- What follows the last quote of a tag is what follows its attributes. -/
theorem hasRoom_iff (h : e.IsWritten attributes ws blanks) (hws : ws ≠ []) (ht : IsTail tail) :
    HasRoom ('<' :: (e.content ++ tail)) ↔ byteOrderMark.utf8Size ≤ byteLength (blanks ++ tail) := by
  have hending := h.of_mem_ending ht
  obtain ⟨before, w, rfl⟩ := (List.eq_nil_or_concat ws).resolve_left hws
  obtain ⟨front, hfront⟩ : ∃ front, '<' :: (e.content ++ tail) = front ++ w.quote :: (blanks ++ tail) := by
    refine ⟨'<' :: (e.name ++ (before.flatMap Written.text ++ (w.front ++ w.value))), ?_⟩
    rw [h.content_eq]
    simp [Written.text]
  have hquote : ∀ c ∈ (w.quote :: front.reverse).head?, (!isQuote c) = false := by simp [w.quote_isQuote]
  have hrest : ∀ c ∈ (blanks ++ tail).reverse, (!isQuote c) = true := fun c hc => by
    rw [(hending c (List.mem_reverse.1 hc)).1]
    rfl
  have hcut : (front ++ w.quote :: (blanks ++ tail)).reverse =
      (blanks ++ tail).reverse ++ w.quote :: front.reverse := by
    simp
  rw [HasRoom, hfront, hcut, (cut_append hrest hquote).1, List.length_reverse,
    byteLength_eq_length fun c hc => (hending c hc).2]

/-- A plain tag has one layout, cut after its attributes or not. -/
theorem exists_layout (h : e.IsWritten attributes ws blanks) (hp : e.IsPlain attributes) (hws : ws ≠ []) :
    ∃ layout, ∀ trail, EndsTag trail →
      layout? ('<' :: (e.name ++ (ws.flatMap Written.text ++ trail))) = some layout := by
  obtain ⟨offset, style, hs⟩ := styleValue?_flatMap (h.plain hp) (byteLength ('<' :: e.name)) none
  refine ⟨⟨byteLength ('<' :: e.name), style⟩, fun trail hend => ?_⟩
  have hhead : ∀ c ∈ (ws.flatMap Written.text ++ trail).head?, endsName c = true := by
    rw [head?_flatMap_append hws trail (blanks ++ ['>'])]
    exact h.head_endsName (.inl rfl)
  rw [layout?_name hp.name hhead, hs, styleValue?_trail hend]
  rfl

end Element.IsWritten

end Markup

namespace Zone

theorem inTag_congr {start : Nat} {tag tag' : List Char} {layout : Layout} {style : Option (List Char)}
    (h : (layout.styleValue.map fun (i, j) => Span.of? ⟨i, j⟩ tag) = style.map some)
    (h' : (layout.styleValue.map fun (i, j) => Span.of? ⟨i, j⟩ tag') = style.map some) (element : Element)
    (known : ZoneAttributes) (id : String) :
    inTag start tag layout element known id = inTag start tag' layout element known id := by
  have hstyle : (inTag start tag layout element known id).defaultStyle =
      (inTag start tag' layout element known id).defaultStyle := by
    rw [defaultStyle_inTag h, defaultStyle_inTag h']
  exact congrArg (fun style => { inTag start tag layout element known id with defaultStyle := style }) hstyle

/-- A plain tag is located with a mark in front of the text if it can be cut after its attributes, and gives the zone
that it gives whole. -/
theorem exists_locate_iff {e : Element} {attributes : List Attribute} {ws : List Written}
    {before blanks tail : List Char} (hw : e.IsWritten attributes ws blanks) (hws : ws ≠ [])
    (hs : e.stop = byteLength (before ++ '<' :: (e.content ++ tail))) (hp : e.IsPlain attributes) (ht : IsTail tail)
    (hlen : 2 ≤ e.content.length) (rest : List Char) (known : ZoneAttributes) (id : String) :
    ∃ layout, ∀ mark zone, byteLength mark ≤ 3 →
      (locate (mark ++ before ++ '<' :: (e.content ++ tail) ++ rest) e known id = .ok zone ↔
        byteLength mark ≤ byteLength (blanks ++ tail) ∧
          zone = inTag (byteLength (mark ++ before)) ('<' :: (e.content ++ tail)) layout e known id) := by
  obtain ⟨layout, hlayout⟩ := hw.exists_layout hp hws
  have hstyle {trail cut : List Char} (htrail : trail ++ cut = blanks ++ tail) (hend : EndsTag trail) :
      (layout.styleValue.map fun (i, j) =>
        Span.of? ⟨i, j⟩ ('<' :: (e.name ++ (ws.flatMap Written.text ++ trail)))) =
        (rawValue? "style" attributes).map some := by
    have hhead : ∀ c ∈ (ws.flatMap Written.text ++ trail).head?, endsName c = true := by
      rw [head?_flatMap_append hws trail (blanks ++ tail)]
      exact hw.head_endsName ht
    obtain ⟨layout', hl, -, hstyle⟩ := hw.layout?_eq hp.name (hw.plain hp) hhead hend
    rw [hlayout trail hend] at hl
    cases hl
    exact hstyle
  have hwhole := hstyle (List.append_nil (blanks ++ tail)) (endsTag_append hw.blank ht)
  rw [← hw.tag_eq] at hwhole
  refine ⟨layout, fun mark zone hm => ?_⟩
  have hmi : byteLength mark ≤ byteLength (e.content ++ tail) := by
    have hc := length_le_byteLength e.content
    have hone : 1 ≤ byteLength tail := by rcases ht with rfl | rfl <;> decide
    rw [byteLength_append]
    omega
  have hfound {zone : Zone}
      (h : locate (mark ++ before ++ '<' :: (e.content ++ tail) ++ rest) e known id = .ok zone) :
      byteLength mark ≤ byteLength (blanks ++ tail) ∧
        zone = inTag (byteLength (mark ++ before)) ('<' :: (e.content ++ tail)) layout e known id := by
    obtain ⟨trail, cut, layout', htrail, hcut, hend, hl, rfl⟩ := exists_trail_of_locate hw hws hs hp ht hm hmi h
    rw [hlayout trail hend] at hl
    cases hl
    refine ⟨?_, inTag_congr (hstyle htrail hend) hwhole e known id⟩
    rw [← htrail, ← hcut, byteLength_append]
    exact Nat.le_add_left _ _
  refine ⟨hfound, ?_⟩
  rintro ⟨hroom, rfl⟩
  obtain ⟨trail, cut, htrail, hcut⟩ := exists_cut (fun c hc => (hw.of_mem_ending ht c hc).2) hroom
  have hend : EndsTag (trail ++ cut) := by
    rw [htrail]
    exact endsTag_append hw.blank ht
  obtain ⟨tag, layout', hl, -⟩ : ∃ tag layout',
      locate (mark ++ before ++ '<' :: (e.content ++ tail) ++ rest) e known id =
        .ok (inTag (byteLength (mark ++ before)) tag layout' e known id) ∧ _ :=
    exists_locate_eq hw hws hs hp.name (hw.plain hp) hp.open_notMem htrail hcut ht hend.of_append
  rw [hl, (hfound hl).2]

/-- The zone as it is found with a byte order mark in front of the text. All offsets count the mark but the stop of the
tag, which falls short by as much. -/
def behindMark (zone : Zone) : Zone :=
  let offset := byteOrderMark.utf8Size
  { zone with geometry := { zone.geometry with
      tagSpan := ⟨offset + zone.geometry.tagSpan.start, zone.geometry.tagSpan.stop⟩
      styleValue := zone.geometry.styleValue.map (·.shift offset)
      insertionPoint := offset + zone.geometry.insertionPoint } }

theorem behindMark_inTag (start : Nat) (tag : List Char) (layout : Layout) (element : Element)
    (known : ZoneAttributes) (id : String) : (inTag start tag layout element known id).behindMark =
      inTag (byteOrderMark.utf8Size + start) tag layout element known id := by
  simp [behindMark, inTag, Span.shift, Nat.add_assoc, Function.comp_def]

/-- What an element tells of its zone, wherever its tag is found. -/
def told (zone : Zone) : String × String × String × Option String × Nat :=
  (zone.id, zone.label, zone.geometry.element, zone.geometry.elementId, zone.geometry.tagSpan.stop)

theorem told_locate {template template' : List Char} {element : Element} {known : ZoneAttributes} {id : String}
    {zone zone' : Zone} (h : locate template element known id = .ok zone)
    (h' : locate template' element known id = .ok zone') : zone'.told = zone.told := by
  obtain ⟨-, -, -, -, -, -, -, -, rfl⟩ := locate_eq_ok.1 h
  obtain ⟨-, -, -, -, -, -, -, -, rfl⟩ := locate_eq_ok.1 h'
  rfl

theorem told_ofElement? {markers : Markers} {template template' : List Char} {element : Element}
    {zone? zone?' : Option Zone} (h : ofElement? markers template element = .ok zone?)
    (h' : ofElement? markers template' element = .ok zone?') : zone?'.map told = zone?.map told := by
  cases zone? with
  | none =>
      rw [ofElement?_eq_none rfl h] at h'
      cases h'
      rfl
  | some zone => cases zone?' with
    | none =>
        rw [ofElement?_eq_none rfl h'] at h
        cases h
    | some zone' =>
        obtain ⟨attributes, id, ha, hid, hl⟩ := ofElement?_eq_some.1 h
        obtain ⟨_, _, ha', hid', hl'⟩ := ofElement?_eq_some.1 h'
        cases ha.symm.trans ha'
        cases hid.symm.trans hid'
        exact congrArg some (told_locate hl hl')

end Zone

instance (e : Markup.Element) (attributes : List Attribute) : Decidable (e.IsPlain attributes) :=
  decidable_of_iff ('<' ∉ e.content ∧ e.name.any endsName = false ∧
      ∀ a ∈ attributes, a.raw.key.any endsName = false)
    ⟨fun ⟨ho, hn, hk⟩ => ⟨ho, by simpa using hn, fun a ha => by simpa using hk a ha⟩,
      fun h => ⟨h.open_notMem, by simpa using h.name, fun a ha => by simpa using h.keys a ha⟩⟩

/-- The element is plain if it names a zone. -/
def Markup.Element.IsPlainZone (markers : Markers) (e : Element) : Prop :=
  ∀ attributes, e.attributes = .ok attributes →
    (attributes.foldl (ZoneAttributes.note markers) {}).zoneId? markers ≠ none → e.IsPlain attributes

instance (markers : Markers) (e : Markup.Element) : Decidable (e.IsPlainZone markers) :=
  match ha : e.attributes with
  | .error _ => isTrue fun _ h => nomatch ha.symm.trans h
  | .ok attributes =>
    decidable_of_iff
      ((attributes.foldl (ZoneAttributes.note markers) {}).zoneId? markers ≠ none → e.IsPlain attributes)
      ⟨fun h _ ha' => Except.ok.inj (ha.symm.trans ha') ▸ h, fun h => h attributes ha⟩

namespace Zone

variable {markers : Markers} {template : List Char} {element : Element} {tag : List Char}

/-- A plain tag is located with a byte order mark in front of the text if it has room for it. -/
theorem locate_mark_iff {attributes : List Attribute} {known : ZoneAttributes} {id : String} {zone' : Zone}
    (hm : (element, tag) ∈ (Markup.read template).filterMap Piece.startTag?)
    (hd : template.head? ≠ some byteOrderMark) (ha : element.attributes = .ok attributes) (hne : attributes ≠ [])
    (hp : element.IsPlain attributes) :
    locate (byteOrderMark :: template) element known id = .ok zone' ↔
      ∃ zone, locate template element known id = .ok zone ∧ HasRoom tag ∧ zone' = zone.behindMark := by
  obtain ⟨ws, blanks, tail, before, after, hw, hws, htail, rfl, ht, hs⟩ := exists_written_place hm hd ha hne
  obtain ⟨layout, hlocate⟩ :=
    exists_locate_iff hw hws hs hp htail (element.two_le_content ha hne) after known id
  have hbare : ∀ zone, locate template element known id = .ok zone ↔
      zone = inTag (byteLength before) ('<' :: (element.content ++ tail)) layout element known id := by
    rw [ht]
    simpa using fun zone => hlocate [] zone (Nat.zero_le 3)
  have hmarked : byteOrderMark :: template =
      [byteOrderMark] ++ before ++ '<' :: (element.content ++ tail) ++ after := by
    rw [ht]
    rfl
  rw [hmarked, hlocate [byteOrderMark] zone' (Nat.le_refl 3)]
  constructor
  · rintro ⟨hroom, rfl⟩
    exact ⟨_, (hbare _).2 rfl, (hw.hasRoom_iff hws htail).2 hroom, (behindMark_inTag ..).symm⟩
  · rintro ⟨zone, hl, hroom, rfl⟩
    rw [(hbare zone).1 hl, behindMark_inTag]
    exact ⟨(hw.hasRoom_iff hws htail).1 hroom, rfl⟩

/-- An element declares the same with a byte order mark in front of the text, if its tag has room where it declares a
zone. -/
def IsMarkedAlike (markers : Markers) (template : List Char) (element : Element) (tag : List Char) : Prop :=
  ∀ zone?, ofElement? markers (byteOrderMark :: template) element = .ok zone? ↔
    ∃ unmarked?, ofElement? markers template element = .ok unmarked? ∧
      (∀ zone ∈ unmarked?, HasRoom tag) ∧ zone? = unmarked?.map behindMark

theorem isMarkedAlike (hm : (element, tag) ∈ (Markup.read template).filterMap Piece.startTag?)
    (hd : template.head? ≠ some byteOrderMark) (hp : element.IsPlainZone markers) :
    IsMarkedAlike markers template element tag := by
  intro zone?
  cases ha : element.attributes with
  | error fault =>
      have hfault : ∀ template zone?, ofElement? markers template element ≠ .ok zone? := fun template zone? h => by
        obtain ⟨attributes, h⟩ := attributes_of_ofElement? h
        rw [ha] at h
        cases h
      exact iff_of_false (hfault _ _) fun ⟨_, h, _⟩ => hfault _ _ h
  | ok attributes =>
      cases hid : (attributes.foldl (ZoneAttributes.note markers) {}).zoneId? markers with
      | none =>
          have hnone : ∀ template, ofElement? markers template element = .ok none := fun _ =>
            (ofElement?_eq_none_iff ha).2 hid
          simp only [hnone, Except.ok.injEq]
          constructor
          · rintro rfl
            exact ⟨none, rfl, nofun, rfl⟩
          · rintro ⟨_, rfl, -, rfl⟩
            rfl
      | some id =>
          have hsome : ∀ template, ofElement? markers template element = (locate template element
              (attributes.foldl (ZoneAttributes.note markers) {}) id).map some := fun template => by
            rw [ofElement?_eq ha]
            dsimp only
            rw [hid]
          have hne : attributes ≠ [] := by
            rintro rfl
            cases hid
          simp only [hsome, map_eq_ok, locate_mark_iff hm hd ha hne (hp attributes ha (by simp [hid]))]
          constructor
          · rintro ⟨_, ⟨zone, hl, hroom, rfl⟩, rfl⟩
            exact ⟨some zone, ⟨zone, hl, rfl⟩, fun _ _ => hroom, rfl⟩
          · rintro ⟨_, ⟨zone, hl, rfl⟩, hroom, rfl⟩
            exact ⟨zone.behindMark, ⟨zone, hl, hroom zone rfl, rfl⟩, rfl⟩

end Zone

namespace Catalog

variable {markers : Markers} {template : List Char}

def Progress.behindMark (p : Progress) : Progress :=
  { p with zones := p.zones.map Zone.behindMark }

theorem declare_behindMark (p : Progress) (zone : Zone) :
    p.behindMark.declare zone.behindMark = (p.declare zone).map Progress.behindMark := by
  have hid : ∀ z : Zone, z.behindMark.id = z.id := fun _ => rfl
  have hany : (p.behindMark.zones.any fun z => Tag.normalize z.id == Tag.normalize zone.behindMark.id) =
      p.zones.any fun z => Tag.normalize z.id == Tag.normalize zone.id := by
    simp [Progress.behindMark, hid, Function.comp_def]
  rw [Progress.declare, Progress.declare, hany]
  split
  · rfl
  · simp [Except.map, Progress.behindMark]

theorem visit_eq {p : Progress} {element : Element} {zone? : Option Zone}
    (h : Zone.ofElement? markers template element = .ok zone?) :
    p.visit markers template element = zone?.elim (.ok p) p.declare := by
  rw [Progress.visit, h]
  cases zone? <;> rfl

theorem visit_mark_iff (p p' : Progress) {element : Element} {tag : List Char}
    (h : Zone.IsMarkedAlike markers template element tag) :
    p.behindMark.visit markers (byteOrderMark :: template) element = .ok p' ↔
      ∃ q, p.visit markers template element = .ok q ∧
        (∀ zone, Zone.ofElement? markers template element = .ok (some zone) → HasRoom tag) ∧ p' = q.behindMark := by
  have hstep (zone? : Option Zone) : (zone?.map Zone.behindMark).elim (.ok p.behindMark) p.behindMark.declare =
      (zone?.elim (.ok p) p.declare).map Progress.behindMark := by
    cases zone? with
    | none => rfl
    | some zone => exact declare_behindMark p zone
  constructor
  · intro hv
    obtain ⟨_, hz, -⟩ := ok_of_bind hv
    obtain ⟨zone?, hu, hroom, rfl⟩ := (h _).1 hz
    rw [visit_eq hz, hstep, map_eq_ok] at hv
    obtain ⟨q, hq, rfl⟩ := hv
    refine ⟨q, by rw [visit_eq hu, hq], fun zone hs => hroom zone ?_, rfl⟩
    rw [hu] at hs
    exact Except.ok.inj hs
  · rintro ⟨q, hv, hroom, rfl⟩
    obtain ⟨zone?, hu, -⟩ := ok_of_bind hv
    have hz := (h (zone?.map Zone.behindMark)).2 ⟨zone?, hu, fun zone hs => hroom zone (by rw [hu, hs]), rfl⟩
    rw [visit_eq hu] at hv
    rw [visit_eq hz, hstep, hv]
    rfl

theorem step_mark_iff {p p' : Progress} {piece : Piece}
    (h : ∀ t ∈ piece.startTag?, Zone.IsMarkedAlike markers template t.1 t.2) :
    p.behindMark.step markers (byteOrderMark :: template) piece = .ok p' ↔
      ∃ q, p.step markers template piece = .ok q ∧
        (∀ t ∈ piece.startTag?, ∀ zone, Zone.ofElement? markers template t.1 = .ok (some zone) → HasRoom t.2) ∧
        p' = q.behindMark := by
  cases piece with
  | opening element =>
      have hv := visit_mark_iff { p with depth := p.depth + 1 } p' (h _ rfl)
      simpa [Piece.startTag?, Progress.step, Progress.behindMark] using hv
  | empty element =>
      have hv := visit_mark_iff p p' (h _ rfl)
      simpa [Piece.startTag?, Progress.step] using hv
  | closing name | passedOver =>
      simp [Piece.startTag?, Progress.step, Progress.behindMark, eq_comm]
  | broken fault => simp [Progress.step]

theorem foldlM_mark_iff (p p' : Progress) {pieces : List Piece}
    (h : ∀ piece ∈ pieces, ∀ t ∈ piece.startTag?, Zone.IsMarkedAlike markers template t.1 t.2) :
    pieces.foldlM (Progress.step markers (byteOrderMark :: template)) p.behindMark = .ok p' ↔
      ∃ q, pieces.foldlM (Progress.step markers template) p = .ok q ∧
        (∀ piece ∈ pieces, ∀ t ∈ piece.startTag?, ∀ zone,
          Zone.ofElement? markers template t.1 = .ok (some zone) → HasRoom t.2) ∧ p' = q.behindMark := by
  induction pieces generalizing p with
  | nil => simp [pure, Except.pure, eq_comm]
  | cons piece pieces ih =>
      obtain ⟨hpiece, hpieces⟩ := List.forall_mem_cons.1 h
      rw [List.foldlM_cons, List.foldlM_cons]
      constructor
      · intro hf
        obtain ⟨_, hs, hf⟩ := ok_of_bind hf
        obtain ⟨r, hr, hroom, rfl⟩ := (step_mark_iff hpiece).1 hs
        obtain ⟨q, hq, hrooms, rfl⟩ := (ih r hpieces).1 hf
        refine ⟨q, ?_, List.forall_mem_cons.2 ⟨hroom, hrooms⟩, rfl⟩
        rw [hr]
        exact hq
      · rintro ⟨q, hf, hroom, rfl⟩
        obtain ⟨r, hr, hf⟩ := ok_of_bind hf
        obtain ⟨hroom, hrooms⟩ := List.forall_mem_cons.1 hroom
        rw [(step_mark_iff hpiece).2 ⟨r, hr, hroom, rfl⟩]
        exact (ih r hpieces).2 ⟨q, hf, hrooms, rfl⟩

/-- Zones that a template has with a byte order mark and without are told alike. -/
theorem told_zones {template : String} (hd : template.toList.head? ≠ some byteOrderMark) {c c' : Catalog}
    (h : load markers template = .ok c) (h' : load markers (marked template) = .ok c') :
    c'.zones.map Zone.told = c.zones.map Zone.told := by
  have hof := ofElement?_of_load h
  have hof' := ofElement?_of_load h'
  obtain ⟨-, hz⟩ := zones_of_load h
  obtain ⟨-, hz'⟩ := zones_of_load h'
  rw [toList_marked, read_mark hd] at hof' hz'
  rw [hz, hz', List.map_filterMap, List.map_filterMap]
  refine List.filterMap_congr fun t ht => ?_
  obtain ⟨zone?, hzone⟩ := hof t ht
  obtain ⟨zone?', hzone'⟩ := hof' t ht
  have hdeclared {template : List Char} {zone? : Option Zone}
      (h : Zone.ofElement? markers template t.1 = .ok zone?) : Zone.declared? markers template t.1 = zone? := by
    rw [Zone.declared?, h]
    rfl
  rw [hdeclared hzone, hdeclared hzone', Zone.told_ofElement? hzone hzone']

/-- A byte order mark in front of a template is read over. What is told of the zones is the same with it, down to the
stops of their tags. Where the tags of zones are plain, the template loads with the mark if it loads without and each of
these tags has room for the mark, and all else of a zone counts the mark. -/
theorem load_marked {template : String} (hd : template.toList.head? ≠ some byteOrderMark) :
    Markup.read (marked template).toList = Markup.read template.toList ∧
    (∀ c c', load markers template = .ok c → load markers (marked template) = .ok c' →
      c'.zones.map Zone.told = c.zones.map Zone.told) ∧
    ((∀ t ∈ (Markup.read template.toList).filterMap Piece.startTag?, t.1.IsPlainZone markers) →
      ∀ c', load markers (marked template) = .ok c' ↔ ∃ c, load markers template = .ok c ∧
        (∀ zone tag, StartTag markers template.toList zone tag → HasRoom tag) ∧
        c' = ⟨marked template, c.zones.map Zone.behindMark⟩) := by
  refine ⟨?_, fun c c' => told_zones hd, fun hp c' => ?_⟩
  · rw [toList_marked, read_mark hd]
  · have halike : ∀ piece ∈ Markup.read template.toList, ∀ t ∈ piece.startTag?,
        Zone.IsMarkedAlike markers template.toList t.1 t.2 := fun piece hpiece t ht => by
      have hm := List.mem_filterMap.2 ⟨piece, hpiece, ht⟩
      exact Zone.isMarkedAlike hm hd (hp t hm)
    have hrun := fun p' => foldlM_mark_iff ⟨0, []⟩ p' halike
    constructor
    · intro h
      obtain ⟨p', hf, hdepth, hne, rfl⟩ := load_eq_ok.1 h
      rw [toList_marked, read_mark hd] at hf
      obtain ⟨q, hq, hroom, rfl⟩ := (hrun p').1 hf
      refine ⟨⟨template, q.zones⟩, load_eq_ok.2 ⟨q, hq, hdepth, fun hz => hne (congrArg _ hz), rfl⟩, ?_, rfl⟩
      rintro zone tag ⟨element, hm, hz⟩
      obtain ⟨piece, hpiece, ht⟩ := List.mem_filterMap.1 hm
      exact hroom piece hpiece _ ht zone hz
    · rintro ⟨c, h, hroom, rfl⟩
      obtain ⟨q, hq, hdepth, hne, rfl⟩ := load_eq_ok.1 h
      refine load_eq_ok.2 ⟨q.behindMark, ?_, hdepth, by simpa [Progress.behindMark] using hne, rfl⟩
      rw [toList_marked, read_mark hd]
      exact (hrun _).2 ⟨q, hq, fun piece hpiece t ht zone hz =>
        hroom zone t.2 ⟨t.1, List.mem_filterMap.2 ⟨piece, hpiece, ht⟩, hz⟩, rfl⟩

/-- A tag with room for the mark: its stop alone does not count the mark. -/
theorem load_marked_roof : ∃ c, load .standard "<svg><a data-zone='roof' /></svg>" = .ok c ∧
    load .standard (marked "<svg><a data-zone='roof' /></svg>") =
      .ok ⟨marked "<svg><a data-zone='roof' /></svg>", c.zones.map Zone.behindMark⟩ ∧
    c.zones.map (·.geometry.tagSpan) = [⟨5, 27⟩] ∧
    (c.zones.map Zone.behindMark).map (·.geometry.tagSpan) = [⟨8, 27⟩] := by
  have hspans : (load .standard "<svg><a data-zone='roof' /></svg>").toOption.map
      (fun c => c.zones.map (·.geometry.tagSpan)) = some [⟨5, 27⟩] := by
    decide +kernel
  have hplain : ∀ t ∈ (Markup.read "<svg><a data-zone='roof' /></svg>".toList).filterMap Piece.startTag?,
      t.1.IsPlainZone .standard := by
    decide +kernel
  have hroom : ∀ t ∈ (Markup.read "<svg><a data-zone='roof' /></svg>".toList).filterMap Piece.startTag?,
      Zone.declared? .standard "<svg><a data-zone='roof' /></svg>".toList t.1 ≠ none → HasRoom t.2 := by
    decide +kernel
  cases h : load .standard "<svg><a data-zone='roof' /></svg>" with
  | error fault =>
      rw [h] at hspans
      cases hspans
  | ok c =>
      rw [h] at hspans
      have hc := Option.some.inj hspans
      refine ⟨c, rfl, ((load_marked (by decide)).2.2 hplain _).2 ⟨c, h, ?_, rfl⟩, hc, ?_⟩
      · rintro zone tag ⟨element, hm, hz⟩
        refine hroom _ hm ?_
        rw [Zone.declared?_eq_some.2 hz]
        exact Option.some_ne_none zone
      · have hmarked := congrArg (List.map fun span : Span => (⟨3 + span.start, span.stop⟩ : Span)) hc
        rwa [List.map_map] at hmarked ⊢

/-- Without room a tag is lost, or cut within a character. -/
theorem load_marked_cut :
    ((load .standard "<svg><a data-zone='roof'/></svg>").isOk = true ∧
      load .standard (marked "<svg><a data-zone='roof'/></svg>") = .error (.unreadableTag "roof")) ∧
    (load .standard "<g data-zone='é'></g>").isOk = true ∧
      load .standard (marked "<g data-zone='é'></g>") = .error (.splitCharacter 18) := by
  decide +kernel

end Catalog

end VehicleDamage
