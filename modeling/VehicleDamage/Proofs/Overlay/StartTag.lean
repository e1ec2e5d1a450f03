import VehicleDamage.Proofs.Markup.Pieces
import VehicleDamage.Proofs.Markup.Rewritten
import VehicleDamage.Proofs.Overlay.Splice
import VehicleDamage.Proofs.Template.Located

/-!
The start tag of a zone in a rendered document, and the zone that is read of it.
-/

namespace VehicleDamage

open Text Markup

/-- An element that is plain, and has no quotes but those around its values. -/
structure Markup.Element.IsClear (e : Element) (attributes : List Attribute) : Prop extends e.IsPlain attributes where
  name_unquoted : ∀ c ∈ e.name, isQuote c = false
  keys_unquoted : ∀ a ∈ attributes, ∀ c ∈ a.raw.key, isQuote c = false

instance (e : Markup.Element) (attributes : List Attribute) : Decidable (e.IsClear attributes) :=
  decidable_of_iff ('<' ∉ e.content ∧ (e.name.any fun c => endsName c || isQuote c) = false ∧
      ∀ a ∈ attributes, (a.raw.key.any fun c => endsName c || isQuote c) = false)
    ⟨fun ⟨ho, hn, hk⟩ => by
      simp only [List.any_eq_false, Bool.or_eq_true, not_or, Bool.not_eq_true] at hn hk
      exact ⟨⟨ho, fun c hc => (hn c hc).1, fun a ha c hc => (hk a ha c hc).1⟩, fun c hc => (hn c hc).2,
        fun a ha c hc => (hk a ha c hc).2⟩,
    fun h => by
      simp only [List.any_eq_false, Bool.or_eq_true, not_or, Bool.not_eq_true]
      exact ⟨h.open_notMem, fun c hc => ⟨h.name c hc, h.name_unquoted c hc⟩,
        fun a ha c hc => ⟨h.keys a ha c hc, h.keys_unquoted a ha c hc⟩⟩⟩

theorem Markup.goesOn_of_endsName {c : Char} (he : endsName c = false) (hq : isQuote c = false) :
    goesOn c = true := by
  rw [goesOn, hq]
  simp only [Bool.not_false, Bool.true_and, bne_iff_ne]
  rintro rfl
  cases he

theorem notStyling_of_isQuote {c : Char} (h : isQuote c = true) : isToken c = false ∧ c ≠ ':' ∧ c ≠ ';' := by
  simp only [isQuote, Bool.or_eq_true, decide_eq_true_eq] at h
  rcases h with rfl | rfl <;> decide

namespace Overlay

variable {palette : Palette} {snapshot : Snapshot} {markers : Markers}

/-- The attributes of a zone are given the style it is shown with, by the edit that restyles it. -/
theorem exists_restyles {zone : Zone} {start : Nat} {tag name tail : List Char} {ws : List Written}
    {layout : Layout} {element : Element} {known : ZoneAttributes} {id : String}
    (hz : zone = Zone.inTag start tag layout element known id) (hd : snapshot.isDamaged zone = true)
    (hn : ∀ c ∈ name, endsName c = false) (hws : ∀ w ∈ ws, w.IsPlain) (hk : (ws.map Written.key).Nodup)
    (hh : ∀ c ∈ (ws.flatMap Written.text ++ tail).head?, endsName c = true) (ht : EndsTag tail)
    (hl : layout? ('<' :: (name ++ (ws.flatMap Written.text ++ tail))) = some layout)
    (hf : ∀ c, isQuote c = true →
      (∀ cs ∈ (ws.find? fun w => w.key = "style".toList).map Written.value, c ∉ cs) →
      c ∉ (shown palette snapshot zone).text.toList)
    (rest : List Char) :
    ∃ ws', Written.Restyles (shown palette snapshot zone).text.toList ws ws' ∧
      Restyled palette snapshot start ('<' :: (name ++ (ws.flatMap Written.text ++ rest))) [zone]
        ('<' :: (name ++ (ws'.flatMap Written.text ++ rest))) := by
  rcases Written.style_cases hk with hs | ⟨before, w, after, rfl, hw, hb, ha⟩
  · cases hl.symm.trans (layout?_unstyled hn hws hh ht hs)
    have hpoint : zone.geometry.insertionPoint = start + byteLength ('<' :: name) := by
      rw [hz]
      rfl
    have hstyle : zone.geometry.styleValue = none := by
      rw [hz]
      rfl
    have hr : Restyled palette snapshot start _ [zone] _ :=
      .inserted hd hstyle hpoint (.done _ (ws.flatMap Written.text ++ rest))
    have hnone : ws.find? (fun w => w.key = "style".toList) = none := by simpa using hs
    refine ⟨_, .inserted hs (hf _ rfl (by rw [hnone]; nofun)), ?_⟩
    simpa [Written.text_style] using hr
  · cases hl.symm.trans (layout?_styled hn hws hh ht rfl hw hb ha)
    have hstyle : zone.geometry.styleValue = some
        ⟨start + byteLength ('<' :: name ++ before.flatMap Written.text ++ w.front),
          start + byteLength ('<' :: name ++ before.flatMap Written.text ++ w.front) + byteLength w.value⟩ := by
      rw [hz]
      simp only [Zone.inTag, Option.map_some, Nat.add_assoc]
    have hr : Restyled palette snapshot start _ [zone] _ :=
      .replaced hd hstyle rfl rfl (.done _ (w.quote :: (after.flatMap Written.text ++ rest)))
    have hfree : ∀ cs ∈ ((before ++ w :: after).find? fun w => w.key = "style".toList).map Written.value,
        w.quote ∉ cs := by
      rw [Written.find?_style hw hb]
      exact fun cs hcs => Option.some.inj hcs ▸ w.value_unquoted
    refine ⟨_, .replaced hw (hf _ w.quote_isQuote hfree), ?_⟩
    simpa [Written.text, Written.withValue, Written.front, Written.key] using hr

/-- A zone as it is read of a rendered document: the same zone, and by default it is as it was shown. -/
structure Reloads (palette : Palette) (snapshot : Snapshot) (zone zone' : Zone) : Prop where
  id_eq : zone'.id = zone.id
  label_eq : zone'.label = zone.label
  element_eq : zone'.geometry.element = zone.geometry.element
  elementId_eq : zone'.geometry.elementId = zone.geometry.elementId
  fill_eq : zone'.defaultStyle.fill = (shown palette snapshot zone).fill
  opacity_eq : zone'.defaultStyle.opacity = (shown palette snapshot zone).opacity

/-- The style that a zone is shown with keeps its references: in its last declaration there is none. -/
def KeepsReferences (palette : Palette) (snapshot : Snapshot) (zone : Zone) : Prop :=
  snapshot.isDamaged zone = true → (zone.defaultStyle.restyled palette (snapshot.severity zone.id)).IsClosed

/-- The tag of an undamaged zone is read alike wherever it stands. -/
theorem exists_reloads_moved {mark before before' content slash rest rest' : List Char} {zone : Zone}
    (hm : byteLength mark ≤ 3) (hd : snapshot.isDamaged zone = false)
    (h : Zone.declaredIn markers mark before content slash rest = .ok (some zone)) :
    ∃ zone', Zone.declaredIn markers mark before' content slash rest' = .ok (some zone') ∧
      Reloads palette snapshot zone zone' := by
  have hmi : byteLength mark ≤ byteLength (content ++ (slash ++ ['>'])) := Zone.byteLength_mark_le hm h
  obtain ⟨attributes, id, ha, hid, hl⟩ := Zone.ofElement?_eq_some.1 h
  obtain ⟨part, cut, kept, tag, layout, hp, hcut, htag, hlayout, rfl⟩ := (Zone.locate_tag_iff rfl hmi).1 hl
  have hshown : shown palette snapshot _ = _ := ZoneStyle.shown_undamaged hd
  refine ⟨_, Zone.ofElement?_eq_some.2 ⟨attributes, id, ha, hid, (Zone.locate_tag_iff rfl hmi).2
    ⟨part, cut, kept, tag, layout, hp, hcut, htag, hlayout, rfl⟩⟩, rfl, rfl, rfl, rfl, ?_, ?_⟩
  · rw [hshown]
    rfl
  · rw [hshown]
    rfl

/-- What takes the place of a start tag's content: it is cut alike, and gives an element of the same name. -/
structure Replaces (slash content content' : List Char) : Prop where
  name_eq : (Element.ofContent content' 0).name = (Element.ofContent content 0).name
  last_ne : slash = [] → content'.getLast? ≠ some '/'
  cut : ∀ rest, cutToken (content' ++ slash ++ '>' :: rest) =
    .token (.tag (content' ++ slash)) (byteLength (content' ++ slash) + 1) rest

/-- A zone in a clear tag, as the tag is written: after the name come the attributes `ws`, blanks, and a slash if the
tag ends in one. Of all that follows the attributes, a mark in front of the text leaves `trail`. -/
structure ClearTag (markers : Markers) (mark before content slash : List Char) (zone : Zone) where
  name : List Char
  attributes : List Attribute
  ws : List Written
  blanks : List Char
  trail : List Char
  cut : List Char
  layout : Layout
  id : String
  element : Element
  element_eq : element = .ofContent content (byteLength (before ++ '<' :: (content ++ (slash ++ ['>']))))
  name_eq : element.name = name
  written : element.IsWritten attributes ws blanks
  clear : element.IsClear attributes
  ws_ne : ws ≠ []
  isTail : IsTail (slash ++ ['>'])
  trail_cut : trail ++ cut = blanks ++ (slash ++ ['>'])
  cut_eq : byteLength cut = byteLength mark
  endsTag : EndsTag trail
  layout_eq : layout? ('<' :: (name ++ (ws.flatMap Written.text ++ trail))) = some layout
  id_eq : (attributes.foldl (ZoneAttributes.note markers) {}).zoneId? markers = some id
  zone_eq : zone = .inTag (byteLength (mark ++ before)) ('<' :: (name ++ (ws.flatMap Written.text ++ trail))) layout
    element (attributes.foldl (ZoneAttributes.note markers) {}) id

namespace ClearTag

variable {mark before content slash rest : List Char} {zone : Zone}

theorem nonempty (hm : byteLength mark ≤ 3) (ht : IsTail (slash ++ ['>']))
    (h : Zone.declaredIn markers mark before content slash rest = .ok (some zone))
    (hc : ∀ attributes, (Element.ofContent content
      (byteLength (before ++ '<' :: (content ++ (slash ++ ['>']))))).attributes = .ok attributes →
      (Element.ofContent content (byteLength (before ++ '<' :: (content ++ (slash ++ ['>']))))).IsClear attributes) :
    Nonempty (ClearTag markers mark before content slash zone) := by
  obtain ⟨attributes, id, ha, hid, hlocate⟩ := Zone.ofElement?_eq_some.1 h
  obtain ⟨ws, blanks, hw⟩ := Element.exists_isWritten rfl ha
  -- An element that declares a zone has attributes.
  have hws : ws ≠ [] := by
    rintro rfl
    cases hw.reads
    cases hid
  obtain ⟨trail, cut, layout, htrail, hcut, hend, hlayout, hzone⟩ := Zone.exists_trail_of_locate hw hws rfl
    (hc attributes ha).toIsPlain ht hm (Zone.byteLength_mark_le hm h) hlocate
  exact ⟨{
    name := _, attributes, ws, blanks, trail, cut, layout, id, element := _, element_eq := rfl, name_eq := rfl
    written := hw, clear := hc attributes ha, ws_ne := hws, isTail := ht, trail_cut := htrail, cut_eq := hcut
    endsTag := hend, layout_eq := hlayout, id_eq := hid, zone_eq := hzone }⟩

variable (t : ClearTag markers mark before content slash zone)

/-- What the attributes tell about the zone. -/
def known : ZoneAttributes :=
  t.attributes.foldl (ZoneAttributes.note markers) {}

/-- The style as it is written. -/
def raw : Option (List Char) :=
  (t.ws.find? fun w => w.key = "style".toList).map Written.value

theorem content_eq : content = t.name ++ (t.ws.flatMap Written.text ++ t.blanks) := by
  have hc := t.written.content_eq
  rw [t.name_eq] at hc
  rw [← hc, t.element_eq]
  rfl

theorem name_visible : ∀ c ∈ t.name, isSpace c = false := by
  rw [← t.name_eq]
  exact t.written.name_visible

theorem name_plain : ∀ c ∈ t.name, endsName c = false := by
  rw [← t.name_eq]
  exact t.clear.name

theorem plain : ∀ w ∈ t.ws, w.IsPlain :=
  t.written.plain t.clear.toIsPlain

theorem head_endsName : ∀ c ∈ (t.ws.flatMap Written.text ++ t.trail).head?, endsName c = true := by
  rw [head?_flatMap_append t.ws_ne t.trail (t.blanks ++ (slash ++ ['>']))]
  exact t.written.head_endsName t.isTail

include t in
theorem open_notMem : '<' ∉ content := by
  have ho := t.clear.open_notMem
  rw [t.element_eq] at ho
  exact ho

theorem resolvable : ∀ w ∈ t.ws, Resolvable w.value := by
  intro w hw
  obtain ⟨a, -, hr⟩ := Written.exists_reads t.written.reads w hw
  exact unescape_ok_iff.1 ⟨_, hr.value_eq⟩

theorem defaultStyle_eq : zone.defaultStyle = .ofAttributes (t.raw.map String.ofList) t.known.fill := by
  have hname := t.name_plain
  have hlayout := t.layout_eq
  have hhead := t.head_endsName
  have hzone := congrArg Zone.defaultStyle t.zone_eq
  rw [← t.name_eq] at hname hlayout hzone
  obtain ⟨layout, hlayout', -, hstyle⟩ := t.written.layout?_eq hname t.plain hhead t.endsTag
  rw [hlayout] at hlayout'
  cases hlayout'
  rw [hzone, Zone.defaultStyle_inTag hstyle, Written.rawValue?_eq _ t.written.reads]
  rfl

/-- The style is written in the tag. -/
theorem of_mem_raw : ∀ cs ∈ t.raw, Resolvable cs ∧ ∀ c ∈ cs, c ∈ content := by
  intro cs hcs
  obtain ⟨w, hfound, rfl⟩ := Option.map_eq_some_iff.1 hcs
  have hmem := List.mem_of_find?_eq_some hfound
  refine ⟨t.resolvable w hmem, fun c hm => ?_⟩
  have hin : c ∈ t.ws.flatMap Written.text := List.mem_flatMap.2 ⟨w, hmem, by simp [Written.text, hm]⟩
  rw [t.content_eq]
  simp [hin]

include t in
theorem inUnit_opacity : zone.defaultStyle.opacity.InUnit := by
  rw [t.defaultStyle_eq]
  exact ZoneStyle.inUnit_opacity _ _

/-- What holds of the declarations of any style that is written in the tag, and of none. -/
theorem forall_declarations {P : Style.Declarations → Prop} (hnone : P (Style.Declarations.parse ""))
    (hsome : ∀ cs ∈ t.raw, P (Style.Declarations.parse (String.ofList cs))) : P zone.defaultStyle.declarations := by
  rw [t.defaultStyle_eq]
  cases hr : t.raw with
  | none => exact hnone
  | some cs => exact hsome cs hr

section

variable (hd : snapshot.isDamaged zone = true) (hp : palette.opacity.isFinite = true)

include t hd hp

/-- A character that joins no declarations and is in no colour or number is not in a style unless it was. -/
theorem notMem_shown {c : Char} (hc : isToken c = false ∧ c ≠ ':' ∧ c ≠ ';') (hr : ∀ cs ∈ t.raw, c ∉ cs) :
    c ∉ (shown palette snapshot zone).text.toList := by
  have hfree : zone.defaultStyle.declarations.AreFree c :=
    t.forall_declarations (Style.Declarations.areFree_parse (by simp)) fun cs hcs =>
      Style.Declarations.areFree_parse (by simpa using hr cs hcs)
  rw [shown, ZoneStyle.shown_damaged hd]
  exact ZoneStyle.notMem_restyled hfree t.inUnit_opacity hp hd hc.1 hc.2.1 hc.2.2

/-- The references of the style that is shown can be resolved, unless the last declaration has lost one. -/
theorem resolvable_shown_iff :
    Resolvable (shown palette snapshot zone).text.toList ↔ KeepsReferences palette snapshot zone := by
  have hsevered : zone.defaultStyle.declarations.AreSevered :=
    t.forall_declarations (Style.Declarations.areSevered_parse (.plain (by simp))) fun cs hcs =>
      Style.Declarations.areSevered_parse (by simpa using (t.of_mem_raw cs hcs).1)
  have hiff := Style.Declarations.resolvable_text_iff
    (ZoneStyle.areSevered_restyled hsevered t.inUnit_opacity hp hd)
  rw [shown, ZoneStyle.shown_damaged hd, KeepsReferences]
  exact hiff.trans ⟨fun h _ => h, fun h => h hd⟩

/-- The attributes are given the style that is shown, by the edit that restyles the zone. -/
theorem exists_restyled : ∃ ws', Written.Restyles (shown palette snapshot zone).text.toList t.ws ws' ∧
    Restyled palette snapshot (byteLength (mark ++ before)) ('<' :: (content ++ (slash ++ ['>']))) [zone]
      ('<' :: (t.name ++ (ws'.flatMap Written.text ++ t.blanks) ++ (slash ++ ['>']))) := by
  obtain ⟨ws', hr, hrestyled⟩ := exists_restyles t.zone_eq hd t.name_plain t.plain t.written.nodup t.head_endsName
    t.endsTag t.layout_eq (fun c hq => t.notMem_shown hd hp (notStyling_of_isQuote hq))
    (t.blanks ++ (slash ++ ['>']))
  refine ⟨ws', hr, ?_⟩
  rw [congrArg (· ++ (slash ++ ['>'])) t.content_eq]
  simpa using hrestyled

end

section

variable {value : List Char} {ws' : List Written} (hr : Written.Restyles value t.ws ws')

include hr

theorem head_blank : ∀ c ∈ (ws'.flatMap Written.text ++ t.blanks).head?, isSpace c = true :=
  hr.head_blank t.written.head_blank

/-- With another style the tag is cut as it is written. -/
theorem replaces (hhead : ∀ c ∈ content.head?, marksOther c = false) :
    Replaces slash content (t.name ++ (ws'.flatMap Written.text ++ t.blanks)) := by
  have hname : ∀ c ∈ t.name, goesOn c = true := fun c hm =>
    goesOn_of_endsName (t.name_plain c hm) (t.clear.name_unquoted c (t.name_eq ▸ hm))
  have hkeys : ∀ w ∈ ws', w.IsUnquoted := by
    refine hr.forall_key (P := fun key => ∀ c ∈ key, goesOn c = true) (List.all_eq_true.1 (by decide)) fun w hm => ?_
    obtain ⟨a, ha, hk⟩ := Written.exists_reads t.written.reads w hm
    rw [← hk.key_eq]
    exact fun c hc => goesOn_of_endsName (t.clear.keys a ha c hc) (t.clear.keys_unquoted a ha c hc)
  have hother : ∀ c ∈ t.name.head?, marksOther c = false := by
    intro c hm
    refine hhead c ?_
    rw [t.content_eq, List.head?_append, Option.mem_def.1 hm]
    rfl
  have hslash : ∀ c ∈ slash, goesOn c = true := by
    rcases t.isTail with h | h
    · obtain rfl : slash = [] := by simpa using h
      simp
    · obtain rfl : slash = ['/'] := List.append_cancel_right h
      exact List.all_eq_true.1 (by decide)
  refine ⟨?_, fun _ => getLast?_flatMap_append hr.ne_nil t.written.blank t.name,
    cutToken_written (t.head_blank hr) t.written.blank hr.ne_nil hname hother hkeys hslash⟩
  have hown := t.name_eq
  rw [t.element_eq] at hown
  rw [Element.name_ofContent (t.head_blank hr) t.name_visible, ← hown]
  rfl

/-- With a style that can be resolved the tag declares its zone with that style. -/
theorem exists_declared (hv : Resolvable value) (ho : '<' ∉ value) (hm : markers.zoneAttribute ≠ "style")
    (before' rest' : List Char) :
    ∃ start tag layout e, e.name = t.name ∧
      Zone.declaredIn markers mark before' (t.name ++ (ws'.flatMap Written.text ++ t.blanks)) slash rest' =
        .ok (some (.inTag start tag layout e t.known t.id)) ∧
      (Zone.inTag start tag layout e t.known t.id).defaultStyle =
        .ofAttributes (some (String.ofList value)) t.known.fill := by
  let content' := t.name ++ (ws'.flatMap Written.text ++ t.blanks)
  let e := Element.ofContent content' (byteLength (before' ++ '<' :: (content' ++ (slash ++ ['>']))))
  have hname : e.name = t.name := Element.name_ofContent (t.head_blank hr) t.name_visible _
  obtain ⟨attributes, ha, hw⟩ : ∃ attributes, e.attributes = .ok attributes ∧ e.IsWritten attributes ws' t.blanks :=
    Element.exists_ofContent (t.head_blank hr) t.written.blank t.name_visible (hr.nodup t.written.nodup)
      (hr.forall_value (P := Resolvable) hv t.resolvable) _
  have hknown : attributes.foldl (ZoneAttributes.note markers) {} = t.known := by
    rw [foldl_note_eq hm hw.reads, hr.filter_isOther, ← foldl_note_eq hm t.written.reads, known]
  have hplain : ∀ w ∈ ws', w.IsPlain :=
    hr.forall_key (P := fun key => ∀ c ∈ key, endsName c = false)
      (by simpa using List.any_eq_false.1 (by decide : "style".toList.any endsName = false)) t.plain
  have hopen : '<' ∉ content' := by
    have hn := t.open_notMem
    rw [t.content_eq] at hn
    simp only [content', List.mem_append, not_or] at hn ⊢
    exact ⟨hn.1, hr.notMem_flatMap (by decide) hn.2.1 ho, hn.2.2⟩
  obtain ⟨tag, layout, hlocate, hstyle⟩ : ∃ tag layout,
      Zone.locate (mark ++ before' ++ '<' :: (content' ++ (slash ++ ['>'])) ++ rest') e t.known t.id =
        .ok (.inTag (byteLength (mark ++ before')) tag layout e t.known t.id) ∧ _ :=
    Zone.exists_locate_eq hw hr.ne_nil rfl (by rw [hname]; exact t.name_plain) hplain hopen t.trail_cut t.cut_eq
      t.isTail t.endsTag
  refine ⟨byteLength (mark ++ before'), tag, layout, e, hname, ?_, ?_⟩
  · exact Zone.ofElement?_eq_some.2 ⟨attributes, t.id, ha, by rw [hknown]; exact t.id_eq, by rwa [hknown]⟩
  · rw [Zone.defaultStyle_inTag hstyle, Written.rawValue?_eq _ hw.reads, hr.find?_style t.written.nodup]
    rfl

/-- A tag that declares anything has a style that can be resolved. -/
theorem resolvable_of_declared {before' rest' : List Char} {zone? : Option Zone}
    (h : Zone.declaredIn markers mark before' (t.name ++ (ws'.flatMap Written.text ++ t.blanks)) slash rest' =
      .ok zone?) : Resolvable value := by
  obtain ⟨attributes, ha⟩ := Zone.attributes_of_ofElement? h
  have hvalues := Element.resolvable_of_ofContent (t.head_blank hr) t.name_visible (hr.nodup t.written.nodup) ha
  obtain ⟨w, hfound, rfl⟩ := Option.map_eq_some_iff.1 (hr.find?_style t.written.nodup)
  exact hvalues w (List.mem_of_find?_eq_some hfound)

end

/-- The tag of a damaged zone is read with the style it is shown with, if its references are kept. -/
theorem exists_reloads (hd : snapshot.isDamaged zone = true) (hp : palette.opacity.isFinite = true)
    {ws' : List Written} (hr : Written.Restyles (shown palette snapshot zone).text.toList t.ws ws')
    (hk : KeepsReferences palette snapshot zone) (hm : markers.zoneAttribute ≠ "style") (before' rest' : List Char) :
    ∃ zone', Zone.declaredIn markers mark before' (t.name ++ (ws'.flatMap Written.text ++ t.blanks)) slash rest' =
        .ok (some zone') ∧ Reloads palette snapshot zone zone' := by
  have hopen : '<' ∉ (shown palette snapshot zone).text.toList :=
    t.notMem_shown hd hp (by decide) fun cs hcs hm => t.open_notMem ((t.of_mem_raw cs hcs).2 _ hm)
  obtain ⟨start, tag, layout, e, hname, hof, hstyle⟩ :=
    t.exists_declared hr ((t.resolvable_shown_iff hd hp).2 hk) hopen hm before' rest'
  rw [String.ofList_toList] at hstyle
  have hnormal : zone.defaultStyle.declarations.AreNormal := by
    rw [t.defaultStyle_eq]
    exact ZoneStyle.areNormal_declarations _ _
  obtain ⟨hfill, hopacity⟩ := ZoneStyle.ofAttributes_shown hnormal t.inUnit_opacity hp hd t.known.fill
  refine ⟨_, hof, ?_, ?_, ?_, ?_, ?_, ?_⟩
  · exact (congrArg Zone.id t.zone_eq).symm
  · exact (congrArg Zone.label t.zone_eq).symm
  · have helement := congrArg (·.geometry.element) t.zone_eq
    rw [helement]
    exact congrArg String.ofList (hname.trans t.name_eq.symm)
  · exact (congrArg (·.geometry.elementId) t.zone_eq).symm
  · rw [hstyle]
    exact hfill
  · rw [hstyle]
    exact hopacity

end ClearTag

end Overlay

end VehicleDamage
