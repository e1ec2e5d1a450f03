import VehicleDamage.Proofs.Resolution
import VehicleDamage.Proofs.Template.Recognition

/-!
What holds of every catalog that is loaded: no zone stands for another, and each lies in a tag of its own.
-/

namespace VehicleDamage

open Text Markup

namespace Markup

/-- The style of a tag begins after the name. -/
theorem nameEnd_lt_style {tag : List Char} {layout : Layout} (h : layout? tag = some layout) :
    1 ≤ layout.nameEnd ∧ ∀ i j, layout.styleValue = some (i, j) → layout.nameEnd < i := by
  obtain ⟨name, rest, -, -, hname, hstyle⟩ := exists_name_of_layout? h
  refine ⟨hname ▸ Nat.le_add_right 1 _, fun i j hij => ?_⟩
  obtain ⟨lead, quote, value, after, -, -, -, rfl, -⟩ := hstyle i j hij
  omega

/-- A start tag begins after the ones before it have stopped. -/
theorem Laid.pairwise {offset : Nat} {cs : List Char} {tags : List (Element × List Char)} (h : Laid offset cs tags) :
    tags.Pairwise fun t t' => t.1.stop + byteLength t'.2 ≤ t'.1.stop := by
  induction h with
  | nil => exact .nil
  | @cons offset gap tag rest element more stop_eq laid ih =>
      refine List.pairwise_cons.2 ⟨fun t ht => ?_, ih⟩
      obtain ⟨before, after, -, hs⟩ := laid.exists_split t ht
      rw [hs, byteLength_append, ← Nat.add_assoc]
      exact Nat.add_le_add_right (Nat.le_add_right _ _) _

end Markup

namespace Text.Within

variable {text : List Char} {start stop : Nat}

theorem stop_le (h : Within text start stop) : stop ≤ byteLength text := by
  obtain ⟨before, inside, after, rfl, rfl, rfl⟩ := h
  rw [byteLength_append, byteLength_append]
  exact Nat.le_add_right _ _

end Text.Within

/-- A geometry fits a text: the span is that of a tag, and in it, on whole characters, come the place for a missing
style and after that the style. -/
structure Geometry.Fits (g : Geometry) (text : List Char) : Prop where
  nonempty : g.tagSpan.start < g.tagSpan.stop
  tag : ∃ inner, g.tagSpan.of? text = some ('<' :: inner)
  tag_within : Within text g.tagSpan.start g.tagSpan.stop
  insertion_within : Within text g.insertionPoint g.insertionPoint
  insertion_inside : g.tagSpan.start < g.insertionPoint ∧ g.insertionPoint ≤ g.tagSpan.stop
  style_within : ∀ span, g.styleValue = some span → Within text span.start span.stop
  style_inside : ∀ span, g.styleValue = some span → g.insertionPoint < span.start ∧ span.stop ≤ g.tagSpan.stop

namespace Zone

variable {markers : Markers} {template tag : List Char} {element : Element} {zone : Zone}

/-- A zone that is located fits the text. -/
theorem fits_locate {known : ZoneAttributes} {id : String} (h : locate template element known id = .ok zone) :
    zone.geometry.Fits template := by
  obtain ⟨upToStop, after, before, tag, layout, hsplit, htag, hlayout, rfl⟩ := locate_eq_ok.1 h
  obtain ⟨rfl, hstop⟩ := splitBytes?_iff.1 hsplit
  obtain ⟨rfl, inner, rfl, -⟩ := lastTag?_eq htag
  obtain ⟨hname, hstyle⟩ := within_layout? hlayout
  obtain ⟨hone, hlt⟩ := nameEnd_lt_style hlayout
  have hlen : element.stop = byteLength before + byteLength ('<' :: inner) := by rw [← hstop, byteLength_append]
  have htagStop : byteLength before < element.stop := by
    rw [hlen, byteLength_cons, show ('<' : Char).utf8Size = 1 from rfl]
    omega
  constructor
  · exact htagStop
  · exact ⟨inner, by rw [inTag, hlen]; exact Span.of?_append before ('<' :: inner) after⟩
  · exact ⟨before, '<' :: inner, after, rfl, rfl, hlen.symm⟩
  · exact hname.extend before after
  · have hle := hname.stop_le
    simp only [inTag]
    omega
  · intro span hspan
    obtain ⟨⟨i, j⟩, hij, rfl⟩ := Option.map_eq_some_iff.1 hspan
    exact (hstyle i j hij).extend before after
  · intro span hspan
    obtain ⟨⟨i, j⟩, hij, rfl⟩ := Option.map_eq_some_iff.1 hspan
    have hle := (hstyle i j hij).stop_le
    have hi := hlt i j hij
    simp only [inTag]
    omega

/-- The span of a zone ends where its element does, and is no longer than the tag of that element. -/
theorem tagSpan_of_ofElement? (hm : (element, tag) ∈ (Markup.read template).filterMap Piece.startTag?)
    (h : ofElement? markers template element = .ok (some zone)) : zone.geometry.tagSpan.stop = element.stop ∧
      element.stop ≤ zone.geometry.tagSpan.start + byteLength tag := by
  obtain ⟨hc, known, id, hl⟩ := locate_of_ofElement? h
  obtain ⟨mark, before, inner, after, ht, rfl, hs, hi, hmark, -⟩ := exists_place hm
  obtain ⟨upToStop, after', before', tag, layout, hsplit, htag, -, rfl⟩ := locate_eq_ok.1 hl
  have hb := length_le_byteLength inner
  rw [ht] at hsplit
  have hone : ('<' : Char).utf8Size = 1 := rfl
  obtain ⟨kept, cut, rfl, -⟩ := lastTag?_of_splitBytes? hsplit htag
    (by rw [hs, byteLength_append, byteLength_append, byteLength_cons]; omega)
    (by rw [hs]; simp only [byteLength_append]; omega)
  refine ⟨rfl, ?_⟩
  simp only [inTag, hs, byteLength_append]
  omega

end Zone

namespace Catalog

variable {markers : Markers} {template : List Char}

/-- No two zones of a list normalise alike. -/
def Distinct (zones : List Zone) : Prop :=
  zones.Pairwise fun zone zone' => Tag.normalize zone.id ≠ Tag.normalize zone'.id

theorem Distinct.declare {p p' : Progress} {zone : Zone} (hd : Distinct p.zones) (h : p.declare zone = .ok p') :
    Distinct p'.zones := by
  rw [Progress.declare] at h
  split at h
  · cases h
  · next hnew =>
    cases h
    refine List.pairwise_append.2 ⟨hd, List.pairwise_singleton _ _, fun z hz z' hz' he => hnew ?_⟩
    obtain rfl := List.mem_singleton.1 hz'
    exact List.any_eq_true.2 ⟨z, hz, beq_iff_eq.2 he⟩

theorem Distinct.visit {p p' : Progress} {element : Element} (hd : Distinct p.zones)
    (h : p.visit markers template element = .ok p') : Distinct p'.zones := by
  obtain ⟨zone?, -, h⟩ := ok_of_bind h
  cases zone? with
  | none =>
      cases h
      exact hd
  | some zone => exact hd.declare h

theorem Distinct.step {p p' : Progress} {piece : Piece} (hd : Distinct p.zones)
    (h : p.step markers template piece = .ok p') : Distinct p'.zones := by
  cases piece with
  | opening element => exact visit (p := { p with depth := p.depth + 1 }) hd h
  | empty element => exact hd.visit h
  | closing | passedOver =>
      cases h
      exact hd
  | broken => cases h

theorem Distinct.foldlM {p p' : Progress} {pieces : List Piece} (hd : Distinct p.zones)
    (h : pieces.foldlM (Progress.step markers template) p = .ok p') : Distinct p'.zones := by
  induction pieces generalizing p with
  | nil =>
      cases h
      exact hd
  | cons piece pieces ih =>
      obtain ⟨q, hq, h⟩ := ok_of_foldlM_cons h
      exact ih (hd.step hq) h

/-- What holds of a catalog of zones that can be told apart and lie apart. -/
structure IsSound (c : Catalog) : Prop where
  nonempty : c.zones ≠ []
  distinct : Distinct c.zones
  nodup : c.ids.Nodup
  contains_iff : ∀ id, c.contains id = true ↔ id ∈ c.ids
  zone?_iff : ∀ id zone, c.zone? id = some zone ↔ zone ∈ c.zones ∧ zone.id = id
  fits : ∀ zone ∈ c.zones, zone.geometry.Fits c.template.toList
  apart : c.zones.Pairwise fun zone zone' => zone.geometry.tagSpan.stop ≤ zone'.geometry.tagSpan.start

/-- Zones that start tags declare lie apart, in the order of the tags. -/
theorem apart_of_laid {offset : Nat} {cs : List Char} {tags : List (Element × List Char)} (h : Laid offset cs tags)
    (ht : ∀ t ∈ tags, t ∈ (Markup.read template).filterMap Piece.startTag?) :
    (tags.filterMap fun t => Zone.declared? markers template t.1).Pairwise fun zone zone' =>
      zone.geometry.tagSpan.stop ≤ zone'.geometry.tagSpan.start := by
  rw [List.pairwise_filterMap]
  refine h.pairwise.imp_of_mem fun hm hm' hle zone hz zone' hz' => ?_
  obtain ⟨hstop, -⟩ := Zone.tagSpan_of_ofElement? (ht _ hm) (Zone.declared?_eq_some.1 hz)
  obtain ⟨-, hstart⟩ := Zone.tagSpan_of_ofElement? (ht _ hm') (Zone.declared?_eq_some.1 hz')
  omega

/-- The zones of a catalog that is loaded can be told apart and lie apart. -/
theorem IsSound.of_load {template : String} {catalog : Catalog} (h : load markers template = .ok catalog) :
    catalog.IsSound := by
  obtain ⟨p, hf, -, hne, hp⟩ := load_eq_ok.1 h
  obtain ⟨htemplate, hzones⟩ := zones_of_load h
  have hempty : Distinct (⟨0, []⟩ : Progress).zones := .nil
  have hdistinct : Distinct catalog.zones := hp ▸ hempty.foldlM hf
  have hnodup : catalog.ids.Nodup := hdistinct.map _ fun _ _ hne he => hne (congrArg Tag.normalize he)
  refine ⟨hp ▸ hne, hdistinct, hnodup, fun _ => Catalog.contains_iff, fun id zone => ?_, ?_, ?_⟩
  · rw [zone?]
    exact find?_eq_some_iff_of_nodup hnodup
  · intro zone hz
    rw [hzones] at hz
    obtain ⟨⟨element, tag⟩, -, hd⟩ := List.mem_filterMap.1 hz
    obtain ⟨-, known, id, hl⟩ := Zone.locate_of_ofElement? (Zone.declared?_eq_some.1 hd)
    exact htemplate ▸ Zone.fits_locate hl
  · rw [hzones]
    obtain ⟨mark, text, -, -, hlaid⟩ := laid_read template.toList
    exact apart_of_laid hlaid fun _ => id

/-- A catalog that is loaded is of the template, with zones that can be told apart and lie apart in it. -/
theorem isSound_load {template : String} {catalog : Catalog} (h : load markers template = .ok catalog) :
    catalog.template = template ∧ catalog.IsSound :=
  ⟨(zones_of_load h).1, .of_load h⟩

/-- One zone within another, with a second `<` in a value: two spans apart from each other. -/
theorem isSound_nested : ∃ catalog,
    load .standard "<g data-zone='hood' style='fill:#fff'><b data-zone='Roof' d='x<y'/></g>" = .ok catalog ∧
      catalog.IsSound ∧ catalog.zones.map (fun zone => (zone.id, zone.geometry.tagSpan)) =
        [("hood", ⟨0, 38⟩), ("roof", ⟨62, 67⟩)] := by
  have hspans : (load .standard "<g data-zone='hood' style='fill:#fff'><b data-zone='Roof' d='x<y'/></g>").toOption.map
      (fun c => c.zones.map fun zone => (zone.id, zone.geometry.tagSpan)) =
        some [("hood", ⟨0, 38⟩), ("roof", ⟨62, 67⟩)] := by
    decide +kernel
  cases h : load .standard "<g data-zone='hood' style='fill:#fff'><b data-zone='Roof' d='x<y'/></g>" with
  | error fault =>
      rw [h] at hspans
      cases hspans
  | ok catalog =>
      rw [h] at hspans
      exact ⟨catalog, rfl, (isSound_load h).2, Option.some.inj hspans⟩

end Catalog

end VehicleDamage
