import VehicleDamage.Proofs.Template.Geometry

/-!
Zones are located alike wherever their tags stand. A byte order mark in front of the text, which offsets leave out,
cuts a tag at its end.
-/

namespace VehicleDamage

open Text Markup

/-- Up to the stop of a tag, less what a mark in front of the text takes of it. -/
theorem splitBytes?_stop_iff {mark before inner rest upToStop : List Char}
    (hm : byteLength mark ≤ byteLength inner) :
    (∃ after, splitBytes? (byteLength (before ++ '<' :: inner)) (mark ++ before ++ '<' :: inner ++ rest) =
        some (upToStop, after)) ↔
      ∃ part cut, '<' :: inner = part ++ cut ∧ byteLength cut = byteLength mark ∧
        upToStop = mark ++ before ++ part := by
  constructor
  · rintro ⟨after, h⟩
    obtain ⟨he, hl⟩ := splitBytes?_iff.1 h
    rw [byteLength_append, byteLength_cons, show ('<' : Char).utf8Size = 1 from rfl] at hl
    have hstop : byteLength upToStop ≤ byteLength (mark ++ before ++ '<' :: inner) := by
      rw [hl]
      simp only [byteLength_append, byteLength_cons, show ('<' : Char).utf8Size = 1 from rfl]
      omega
    obtain ⟨cut, hcut, -⟩ := append_of_byteLength_le he.symm hstop
    have hstart : byteLength (mark ++ before) ≤ byteLength upToStop := by
      rw [hl, byteLength_append]
      omega
    obtain ⟨part, rfl, hp⟩ := append_of_byteLength_le hcut hstart
    refine ⟨part, cut, hp, ?_, rfl⟩
    have hb := congrArg byteLength hp
    simp only [byteLength_append, byteLength_cons, show ('<' : Char).utf8Size = 1 from rfl] at hb hl
    omega
  · rintro ⟨part, cut, hp, hl, rfl⟩
    refine ⟨cut ++ rest, splitBytes?_iff.2 ⟨?_, ?_⟩⟩
    · rw [hp]
      simp
    · rw [hp]
      simp only [byteLength_append]
      omega

/-- A zone is located in its tag, wherever the tag stands; a mark in front of the text cuts the tag at its end. -/
theorem Zone.locate_tag_iff {mark before inner rest : List Char} {element : Element} {known : ZoneAttributes}
    {id : String} {zone : Zone} (hs : element.stop = byteLength (before ++ '<' :: inner))
    (hm : byteLength mark ≤ byteLength inner) :
    locate (mark ++ before ++ '<' :: inner ++ rest) element known id = .ok zone ↔
      ∃ part cut kept tag layout, '<' :: inner = part ++ cut ∧ byteLength cut = byteLength mark ∧
        lastTag? part = some (kept, tag) ∧ layout? tag = some layout ∧
        zone = inTag (byteLength (mark ++ before ++ kept)) tag layout element known id := by
  rw [locate_eq_ok, hs]
  constructor
  · rintro ⟨upToStop, after, before', tag, layout, hsplit, htag, hlayout, rfl⟩
    obtain ⟨part, cut, hp, hl, rfl⟩ := (splitBytes?_stop_iff hm).1 ⟨after, hsplit⟩
    have hopen : ∃ inner', part = '<' :: inner' := by
      cases part with
      | nil =>
          have hb := congrArg byteLength hp
          simp only [List.nil_append, byteLength_cons, show ('<' : Char).utf8Size = 1 from rfl] at hb
          omega
      | cons c inner' => exact ⟨inner', by rw [(List.cons.inj hp).1]⟩
    obtain ⟨inner', rfl⟩ := hopen
    obtain ⟨kept, rfl, hk⟩ := lastTag?_append htag
    obtain ⟨-, hshape⟩ := lastTag?_eq htag
    exact ⟨_, cut, kept, tag, layout, hp, hl, lastTag?_eq_some.2 ⟨hk, hshape⟩, hlayout, rfl⟩
  · rintro ⟨part, cut, kept, tag, layout, hp, hl, htag, hlayout, rfl⟩
    obtain ⟨after, hsplit⟩ : ∃ after, splitBytes? (byteLength (before ++ '<' :: inner))
        (mark ++ before ++ '<' :: inner ++ rest) = some (mark ++ before ++ part, after) :=
      (splitBytes?_stop_iff hm).2 ⟨part, cut, hp, hl, rfl⟩
    obtain ⟨rfl, hshape⟩ := lastTag?_eq htag
    refine ⟨_, after, mark ++ before ++ kept, tag, layout, hsplit, lastTag?_eq_some.2 ⟨?_, hshape⟩, hlayout, rfl⟩
    simp only [List.append_assoc]

theorem Markup.EndsTag.of_append {trail cut : List Char} (h : EndsTag (trail ++ cut)) : EndsTag trail := by
  rw [EndsTag, List.dropWhile_append] at h
  intro c hc
  cases hd : trail.dropWhile isGap with
  | nil =>
      rw [hd] at hc
      cases hc
  | cons c' rest =>
      rw [hd] at h hc
      exact h c hc

namespace Markup.Element.IsWritten

variable {e : Element} {attributes : List Attribute} {ws : List Written} {blanks tail part cut : List Char}

/-- A tag that is cut within its last attribute has no layout. -/
theorem layout?_cut (h : e.IsWritten attributes ws blanks) (hp : e.IsPlain attributes) (hws : ws ≠ [])
    (hcut : '<' :: (e.name ++ ws.flatMap Written.text) = part ++ cut) (hne : cut ≠ [])
    (hlen : byteLength cut ≤ 2) : layout? part = none := by
  have hplain := h.plain hp
  have hblank := h.head_blank
  obtain ⟨before, w, rfl⟩ := (List.eq_nil_or_concat ws).resolve_left hws
  rw [List.concat_eq_append] at hplain hblank hcut
  obtain ⟨hbefore, hw⟩ : (∀ w' ∈ before, w'.IsPlain) ∧ w.IsPlain := by
    simpa [or_imp, forall_and] using hplain
  -- Two bytes are no more than the quotes around the value.
  obtain ⟨value, rfl, hvalue⟩ : ∃ value, part = '<' :: (e.name ++ (before.flatMap Written.text ++
      (w.lead ++ (w.key ++ (w.gap ++ '=' :: (w.space ++ value)))))) ∧
      w.quote :: (w.value ++ [w.quote]) = value ++ cut := by
    have hsplit : '<' :: (e.name ++ (before ++ [w]).flatMap Written.text) =
        '<' :: (e.name ++ (before.flatMap Written.text ++ (w.lead ++ (w.key ++ (w.gap ++ '=' :: w.space))))) ++
          w.quote :: (w.value ++ [w.quote]) := by
      simp [Written.text, Written.front]
    have htwo : 2 ≤ byteLength (w.quote :: (w.value ++ [w.quote])) := by
      simp only [byteLength_cons, byteLength_append, byteLength_nil, utf8Size_of_isQuote w.quote_isQuote]
      omega
    have hl := congrArg byteLength (hsplit.symm.trans hcut)
    rw [byteLength_append, byteLength_append] at hl
    obtain ⟨value, rfl, hvalue⟩ := append_of_byteLength_le (hsplit.symm.trans hcut) (by omega)
    exact ⟨value, by simp, hvalue⟩
  have hhead : ∀ c ∈ (before.flatMap Written.text ++
      (w.lead ++ (w.key ++ (w.gap ++ '=' :: (w.space ++ value))))).head?, endsName c = true := by
    intro c hc
    refine endsName_of_isGap (isGap_of_isSpace (hblank c ?_))
    rw [List.flatMap_append, List.flatMap_singleton, List.append_assoc]
    cases before with
    | nil =>
        rw [List.flatMap_nil, List.nil_append] at hc ⊢
        rw [w.head?_text_append, Written.front]
        rw [List.head?_append] at hc
        simpa [Written.key] using hc
    | cons w' before => rwa [head?_flatMap_append (List.cons_ne_nil _ _) _ []] at hc ⊢
  obtain ⟨offset, style, hs⟩ := styleValue?_flatMap hbefore (byteLength ('<' :: e.name)) none
  rw [layout?_name hp.name hhead, hs, w.styleValue?_key hw, w.quotedValue?_cut _ hvalue hne]
  rfl

/-- Where a tag that is cut at its end has a layout, it is cut after its attributes. -/
theorem exists_trail (h : e.IsWritten attributes ws blanks) (hp : e.IsPlain attributes) (hws : ws ≠ [])
    (ht : IsTail tail) (hcut : '<' :: e.content ++ tail = part ++ cut) (hlen : byteLength cut ≤ 3)
    {layout : Layout} (hl : layout? part = some layout) :
    ∃ trail, part = '<' :: (e.name ++ (ws.flatMap Written.text ++ trail)) ∧ trail ++ cut = blanks ++ tail ∧
      EndsTag trail := by
  have hsplit : '<' :: e.content ++ tail =
      '<' :: (e.name ++ ws.flatMap Written.text) ++ (blanks ++ tail) := by
    rw [h.tag_eq]
    simp
  rcases List.append_eq_append_iff.1 (hsplit.symm.trans hcut) with ⟨trail, hpart, htrail⟩ | ⟨more, hpart, hcut⟩
  · have hend : EndsTag (trail ++ cut) := by
      rw [← htrail]
      exact endsTag_append h.blank ht
    exact ⟨trail, by simpa using hpart, htrail.symm, hend.of_append⟩
  · cases more with
    | nil => exact ⟨[], by simpa using hpart.symm, by simpa using hcut, nofun⟩
    | cons c more =>
        exfalso
        have hnone := h.layout?_cut hp hws hpart (List.cons_ne_nil _ _) ?_
        · rw [hl] at hnone
          cases hnone
        · have hone : 1 ≤ byteLength tail := by rcases ht with rfl | rfl <;> decide
          rw [hcut, byteLength_append, byteLength_append] at hlen
          omega

end Markup.Element.IsWritten

namespace Zone

section

variable {e : Element} {attributes : List Attribute} {ws : List Written} {mark before blanks tail rest : List Char}
  {known : ZoneAttributes} {id : String} (hw : e.IsWritten attributes ws blanks) (hws : ws ≠ [])
  (hs : e.stop = byteLength (before ++ '<' :: (e.content ++ tail)))

include hw hws hs

/-- A plain tag is located whole, or as far as it is cut after its attributes. -/
theorem exists_trail_of_locate {zone : Zone} (hp : e.IsPlain attributes) (ht : IsTail tail)
    (hm : byteLength mark ≤ 3) (hmi : byteLength mark ≤ byteLength (e.content ++ tail))
    (h : locate (mark ++ before ++ '<' :: (e.content ++ tail) ++ rest) e known id = .ok zone) :
    ∃ trail cut layout, trail ++ cut = blanks ++ tail ∧ byteLength cut = byteLength mark ∧ EndsTag trail ∧
      layout? ('<' :: (e.name ++ (ws.flatMap Written.text ++ trail))) = some layout ∧
      zone = inTag (byteLength (mark ++ before)) ('<' :: (e.name ++ (ws.flatMap Written.text ++ trail))) layout e
        known id := by
  obtain ⟨part, cut, kept, tag, layout, hpart, hcut, htag, hlayout, rfl⟩ := (locate_tag_iff hs hmi).1 h
  have hopen : '<' ∉ e.content ++ tail := by
    rcases ht with rfl | rfl <;> simp [hp.open_notMem]
  obtain ⟨rfl, rfl⟩ : kept = [] ∧ tag = part := by
    obtain ⟨hpart', inner', rfl, -⟩ := lastTag?_eq htag
    rw [hpart'] at hpart
    cases kept with
    | nil => exact ⟨rfl, hpart'.symm⟩
    | cons c kept => exact absurd (by rw [(List.cons.inj hpart).2]; simp) hopen
  obtain ⟨trail, rfl, htrail, hend⟩ := hw.exists_trail hp hws ht hpart (by omega) hlayout
  rw [List.append_nil]
  exact ⟨trail, cut, layout, htrail, hcut, hend, hlayout, rfl⟩

/-- A tag with plain keys, whole or cut after its attributes, gives a zone with the style that is read. -/
theorem exists_locate_eq {trail cut : List Char} (hn : ∀ c ∈ e.name, endsName c = false)
    (hk : ∀ w ∈ ws, w.IsPlain) (ho : '<' ∉ e.content) (htrail : trail ++ cut = blanks ++ tail)
    (hcut : byteLength cut = byteLength mark) (ht : IsTail tail) (hend : EndsTag trail) :
    ∃ tag layout, locate (mark ++ before ++ '<' :: (e.content ++ tail) ++ rest) e known id =
        .ok (inTag (byteLength (mark ++ before)) tag layout e known id) ∧
      (layout.styleValue.map fun (i, j) => Span.of? ⟨i, j⟩ tag) = (rawValue? "style" attributes).map some := by
  have hinner : e.content ++ tail = e.name ++ (ws.flatMap Written.text ++ trail) ++ cut := by
    have htag := (List.cons.inj (hw.tag_eq tail)).2
    rw [← htrail] at htag
    simpa using htag
  have hhead : ∀ c ∈ (ws.flatMap Written.text ++ trail).head?, endsName c = true := by
    rw [head?_flatMap_append hws trail (blanks ++ tail)]
    exact hw.head_endsName ht
  have hopen : '<' ∉ e.name ++ (ws.flatMap Written.text ++ trail) := by
    have htail : '<' ∉ e.content ++ tail := by
      rcases ht with rfl | rfl <;> simp [ho]
    rw [hinner] at htail
    exact fun hm => htail (List.mem_append_left _ hm)
  have hmi : byteLength mark ≤ byteLength (e.content ++ tail) := by
    rw [hinner, ← hcut, byteLength_append]
    exact Nat.le_add_left _ _
  obtain ⟨layout, hlayout, -, hstyle⟩ := hw.layout?_eq hn hk hhead hend
  refine ⟨_, layout, (locate_tag_iff hs hmi).2 ⟨_, cut, [], _, layout, congrArg ('<' :: ·) hinner, hcut,
    lastTag?_eq_some.2 ⟨rfl, _, rfl, hopen⟩, hlayout, ?_⟩, hstyle⟩
  rw [List.append_nil]

end

/-- A zone takes the style that is read of its tag. -/
theorem defaultStyle_inTag {start : Nat} {tag : List Char} {layout : Layout} {element : Element}
    {known : ZoneAttributes} {id : String} {style : Option (List Char)}
    (h : (layout.styleValue.map fun (i, j) => Span.of? ⟨i, j⟩ tag) = style.map some) :
    (inTag start tag layout element known id).defaultStyle =
      .ofAttributes (style.map String.ofList) known.fill := by
  have hs : (layout.styleValue.bind fun (i, j) => (Span.of? ⟨i, j⟩ tag).map String.ofList) =
      style.map String.ofList := calc
    _ = (layout.styleValue.map fun (i, j) => Span.of? ⟨i, j⟩ tag).bind (Option.map String.ofList) := by
      rw [Option.bind_map]
      rfl
    _ = style.map String.ofList := by
      rw [h]
      cases style <;> rfl
  rw [inTag, hs]

/-- What an element declares, when its attributes can be read. -/
theorem ofElement?_eq {markers : Markers} {template : List Char} {element : Element} {attributes : List Attribute}
    (h : element.attributes = .ok attributes) : ofElement? markers template element =
      let known := attributes.foldl (ZoneAttributes.note markers) {}
      match known.zoneId? markers with
      | none => .ok none
      | some id => (locate template element known id).map some := by
  rw [ofElement?]
  exact h ▸ rfl

theorem attributes_of_ofElement? {markers : Markers} {template : List Char} {element : Element}
    {zone? : Option Zone} (h : ofElement? markers template element = .ok zone?) :
    ∃ attributes, element.attributes = .ok attributes := by
  rw [ofElement?] at h
  split at h
  · cases h
  · next attributes ha => exact ⟨attributes, ha⟩

theorem ofElement?_eq_some {markers : Markers} {template : List Char} {element : Element} {zone : Zone} :
    ofElement? markers template element = .ok (some zone) ↔ ∃ attributes id, element.attributes = .ok attributes ∧
      (attributes.foldl (ZoneAttributes.note markers) {}).zoneId? markers = some id ∧
      locate template element (attributes.foldl (ZoneAttributes.note markers) {}) id = .ok zone := by
  constructor
  · intro h
    obtain ⟨attributes, ha, -⟩ := exists_attributes h
    rw [ofElement?_eq ha] at h
    dsimp only at h
    split at h
    · cases h
    · next id hid =>
      refine ⟨attributes, id, ha, hid, ?_⟩
      cases hl : locate template element (attributes.foldl (ZoneAttributes.note markers) {}) id with
      | error fault =>
          rw [hl] at h
          cases h
      | ok located =>
          rw [hl] at h
          cases h
          rfl
  · rintro ⟨attributes, id, ha, hid, hl⟩
    rw [ofElement?_eq ha]
    dsimp only
    rw [hid]
    dsimp only
    rw [hl]
    rfl

theorem ofElement?_eq_none {markers : Markers} {template template' : List Char} {e e' : Element}
    (ha : e'.attributes = e.attributes) (h : ofElement? markers template e = .ok none) :
    ofElement? markers template' e' = .ok none := by
  cases he : e.attributes with
  | error fault =>
      rw [ofElement?, he] at h
      cases h
  | ok attributes =>
      rw [ofElement?_eq he] at h
      rw [ofElement?_eq (ha.trans he)]
      dsimp only at h ⊢
      split at h
      · rfl
      · next id _ =>
        cases hl : locate template e (attributes.foldl (ZoneAttributes.note markers) {}) id with
        | error fault =>
            rw [hl] at h
            cases h
        | ok zone =>
            rw [hl] at h
            cases h

/-- What the tag with `content` declares when it stands after `before`, in a text with a mark in front. -/
def declaredIn (markers : Markers) (mark before content slash rest : List Char) :
    Except TemplateFault (Option Zone) :=
  ofElement? markers (mark ++ before ++ '<' :: (content ++ (slash ++ ['>'])) ++ rest)
    (.ofContent content (byteLength (before ++ '<' :: (content ++ (slash ++ ['>'])))))

/-- A byte order mark takes up less than the tag of a zone. -/
theorem byteLength_mark_le {markers : Markers} {mark before content slash rest : List Char} {zone : Zone}
    (hm : byteLength mark ≤ 3) (h : declaredIn markers mark before content slash rest = .ok (some zone)) :
    byteLength mark ≤ byteLength (content ++ (slash ++ ['>'])) := by
  have hlen := (locate_of_ofElement? h).1
  have hb := length_le_byteLength content
  simp only [Element.ofContent] at hlen
  simp only [byteLength_append, byteLength_cons, show ('>' : Char).utf8Size = 1 from rfl]
  omega

end Zone

end VehicleDamage
