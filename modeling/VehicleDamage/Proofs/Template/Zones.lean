import VehicleDamage.Proofs.Markup.Layout
import VehicleDamage.Proofs.Markup.Tags
import VehicleDamage.Template.Catalog

/-!
Where the zones of a loaded template lie: each in the start tag of the element that declares it.
-/

namespace VehicleDamage

open Text Markup

theorem ok_of_bind {ε α β : Type} {x : Except ε α} {f : α → Except ε β} {b : β} (h : x >>= f = .ok b) :
    ∃ a, x = .ok a ∧ f a = .ok b := by
  cases x with
  | error e => cases h
  | ok a => exact ⟨a, rfl, h⟩

theorem ok_of_toOption {ε α β : Type} {x : Except ε α} {f : α → β} {b : β} (h : x.toOption.map f = some b) :
    ∃ a, x = .ok a ∧ f a = b := by
  cases x with
  | error e => cases h
  | ok a => exact ⟨a, rfl, Option.some.inj h⟩

theorem ok_of_foldlM_cons {ε α β : Type} {f : β → α → Except ε β} {b b' : β} {a : α} {as : List α}
    (h : (a :: as).foldlM f b = .ok b') : ∃ c, f b a = .ok c ∧ as.foldlM f c = .ok b' := by
  rw [List.foldlM_cons] at h
  exact ok_of_bind h

theorem ok_of_foldlM_append {ε α β : Type} {f : β → α → Except ε β} {b b' : β} {as as' : List α}
    (h : (as ++ as').foldlM f b = .ok b') : ∃ c, as.foldlM f b = .ok c ∧ as'.foldlM f c = .ok b' := by
  rw [List.foldlM_append] at h
  exact ok_of_bind h

theorem lastTag?_eq {cs before tag : List Char} (h : lastTag? cs = some (before, tag)) :
    cs = before ++ tag ∧ ∃ inner, tag = '<' :: inner ∧ '<' ∉ inner := by
  rw [lastTag?] at h
  split at h
  · cases h
  · next c before' hd =>
    obtain ⟨hs, hc⟩ := eq_of_dropWhile hd
    obtain rfl : c = '<' := by simpa using hc
    cases h
    constructor
    · simpa using congrArg List.reverse hs
    · refine ⟨_, rfl, fun hm => ?_⟩
      have ha := List.all_takeWhile (p := fun c => c != '<') (l := cs.reverse)
      simpa using List.all_eq_true.1 ha _ (List.mem_reverse.1 hm)

/-- The last tag of a text that ends in a piece of a tag begins in that piece. -/
theorem lastTag?_append {done inner before tag : List Char}
    (h : lastTag? (done ++ '<' :: inner) = some (before, tag)) :
    ∃ kept, before = done ++ kept ∧ '<' :: inner = kept ++ tag := by
  obtain ⟨he, inner', rfl, hn⟩ := lastTag?_eq h
  rcases List.append_eq_append_iff.1 he with ⟨kept, hb, hi⟩ | ⟨extra, hd, ho⟩
  · exact ⟨kept, hb, hi⟩
  · cases extra with
    | nil => exact ⟨[], by simpa using hd.symm, by simpa using ho.symm⟩
    | cons c extra =>
        have hm : '<' ∈ inner' := by
          rw [(List.cons.inj ho).2]
          simp
        exact absurd hm hn

/-- Up to a stop within a tag, the last tag of a text is a part of that tag. -/
theorem lastTag?_of_splitBytes? {stop : Nat} {done inner rest upToStop after before tag : List Char}
    (hs : splitBytes? stop (done ++ '<' :: inner ++ rest) = some (upToStop, after))
    (ht : lastTag? upToStop = some (before, tag)) (hlo : byteLength done < stop)
    (hhi : stop ≤ byteLength (done ++ '<' :: inner)) :
    ∃ kept cut, before = done ++ kept ∧ '<' :: inner = kept ++ tag ++ cut := by
  obtain ⟨he, hl⟩ := splitBytes?_iff.1 hs
  obtain ⟨cut, hc, -⟩ := append_of_byteLength_le he.symm (hl ▸ hhi)
  obtain ⟨part, rfl, -⟩ := append_of_byteLength_le ((List.append_assoc _ _ _).symm.trans he) (by omega)
  rw [List.append_assoc, List.append_cancel_left_eq] at hc
  cases part with
  | nil =>
      rw [List.append_nil] at hl
      omega
  | cons c part =>
      obtain ⟨rfl, rfl⟩ := List.cons.inj hc
      obtain ⟨kept, rfl, hk⟩ := lastTag?_append ht
      exact ⟨kept, cut, rfl, by rw [hc, hk]⟩

/-- Where a zone is given a style lies in `tag`, which begins at byte `start`. -/
structure Geometry.LiesIn (g : Geometry) (start : Nat) (tag : List Char) : Prop where
  insertion : ∃ i, g.insertionPoint = start + i ∧ Within tag i i
  style : ∀ span, g.styleValue = some span → ∃ i j, span = ⟨start + i, start + j⟩ ∧ Within tag i j

/-- A zone lies in the tag that its element ends in. -/
theorem Zone.liesIn_locate {done inner rest : List Char} {element : Element} {known : ZoneAttributes}
    {id : String} {zone : Zone} (h : locate (done ++ '<' :: inner ++ rest) element known id = .ok zone)
    (hlo : byteLength done < element.stop) (hhi : element.stop ≤ byteLength (done ++ '<' :: inner)) :
    zone.geometry.LiesIn (byteLength done) ('<' :: inner) := by
  rw [locate] at h
  split at h
  · cases h
  · next upToStop after hs =>
    split at h
    · cases h
    · next before tag ht =>
      split at h
      · cases h
      · next layout hlayout =>
        obtain ⟨kept, cut, rfl, hk⟩ := lastTag?_of_splitBytes? hs ht hlo hhi
        obtain ⟨hn, hv⟩ := within_layout? hlayout
        cases h
        rw [hk]
        constructor
        · exact ⟨_, by rw [byteLength_append, Nat.add_assoc], hn.extend kept cut⟩
        · intro span hspan
          obtain ⟨⟨i, j⟩, hij, rfl⟩ := Option.map_eq_some_iff.1 hspan
          refine ⟨_, _, ?_, (hv i j hij).extend kept cut⟩
          simp only [byteLength_append, Nat.add_assoc]

/-- An attribute takes up a key and an equals sign. -/
theorem two_le_of_scanAttribute {total : Nat} {seen : List RawAttribute} {cs rest : List Char} {a : RawAttribute}
    (h : scanAttribute total seen cs = .found a rest) : 2 ≤ cs.length := by
  rw [scanAttribute] at h
  split at h
  · cases h
  · next first text hf =>
    dsimp only at h
    split at h
    · next after ha =>
      have h1 := length_dropWhile_le isSpace cs
      have h2 := length_dropWhile_le isSpace (text.dropWhile fun c => c != '=' && !isSpace c)
      have h3 := length_dropWhile_le (fun c => c != '=' && !isSpace c) text
      rw [hf] at h1
      rw [ha] at h2
      simp only [List.length_cons] at h1 h2
      omega
    · cases h

/-- An element with an attribute has as much content. -/
theorem Markup.Element.two_le_content {element : Element} {attributes : List Attribute}
    (h : element.attributes = .ok attributes) (hne : attributes ≠ []) : 2 ≤ element.content.length := by
  rw [Element.attributes, readAttributes] at h
  have hd := (List.drop_sublist element.name.length element.content).length_le
  split at h
  · cases h
    exact absurd rfl hne
  · cases h
  · next hf => exact Nat.le_trans (two_le_of_scanAttribute hf) hd

/-- An element that declares a zone has attributes, and its zone has been located. -/
theorem Zone.locate_of_ofElement? {markers : Markers} {template : List Char} {element : Element} {zone : Zone}
    (h : ofElement? markers template element = .ok (some zone)) :
    2 ≤ element.content.length ∧ ∃ known id, locate template element known id = .ok zone := by
  rw [ofElement?] at h
  split at h
  · cases h
  · next attributes ha =>
    dsimp only at h
    split at h
    · cases h
    · next id hid =>
      constructor
      · refine element.two_le_content ha ?_
        rintro rfl
        cases hid
      · cases hl : locate template element (attributes.foldl (ZoneAttributes.note markers) {}) id with
        | error fault =>
            rw [hl] at h
            cases h
        | ok located =>
            rw [hl] at h
            cases h
            exact ⟨_, id, hl⟩

/-- The zone an element of a template declares; none when it declares none or cannot be read. -/
def Zone.declared? (markers : Markers) (template : List Char) (element : Element) : Option Zone :=
  (ofElement? markers template element).toOption.join

theorem Zone.declared?_eq_some {markers : Markers} {template : List Char} {element : Element} {zone : Zone} :
    declared? markers template element = some zone ↔ ofElement? markers template element = .ok (some zone) := by
  rw [declared?]
  cases ofElement? markers template element with
  | error fault => exact ⟨nofun, nofun⟩
  | ok zone? => cases zone? <;> simp [Except.toOption]

namespace Catalog

variable {markers : Markers} {template : List Char}

theorem zones_visit {p p' : Progress} {element : Element} (h : p.visit markers template element = .ok p') :
    p'.zones = p.zones ++ (Zone.declared? markers template element).toList := by
  obtain ⟨zone?, hz, h⟩ := ok_of_bind h
  rw [Zone.declared?, hz]
  cases zone? with
  | none =>
      cases h
      exact (List.append_nil _).symm
  | some zone =>
      simp only [Progress.declare] at h
      split at h
      · cases h
      · cases h
        rfl

theorem zones_step {p p' : Progress} {piece : Piece} (h : p.step markers template piece = .ok p') :
    p'.zones = p.zones ++ (piece.startTag?.bind fun t => Zone.declared? markers template t.1).toList := by
  cases piece with
  | opening element =>
      have hv := zones_visit h
      exact hv
  | empty element => exact zones_visit h
  | closing name =>
      cases h
      exact (List.append_nil _).symm
  | passedOver =>
      cases h
      exact (List.append_nil _).symm
  | broken fault => cases h

theorem zones_foldlM {p p' : Progress} {pieces : List Piece}
    (h : pieces.foldlM (Progress.step markers template) p = .ok p') :
    p'.zones = p.zones ++
      (pieces.filterMap Piece.startTag?).filterMap fun t => Zone.declared? markers template t.1 := by
  rw [List.filterMap_filterMap]
  induction pieces generalizing p with
  | nil =>
      cases h
      exact (List.append_nil _).symm
  | cons piece pieces ih =>
      obtain ⟨q, hq, h⟩ := ok_of_foldlM_cons h
      rw [ih h, zones_step hq, List.append_assoc, List.filterMap_cons]
      cases piece.startTag?.bind fun t => Zone.declared? markers template t.1 <;> rfl

theorem load_eq_ok {template : String} {catalog : Catalog} :
    load markers template = .ok catalog ↔ ∃ p,
      (Markup.read template.toList).foldlM (Progress.step markers template.toList) ⟨0, []⟩ = .ok p ∧
        p.depth = 0 ∧ p.zones ≠ [] ∧ catalog = ⟨template, p.zones⟩ := by
  constructor
  · intro h
    obtain ⟨zones, hread, h⟩ := ok_of_bind h
    obtain ⟨p, hf, hread⟩ := ok_of_bind hread
    split at hread
    · cases hread
    · next hdepth =>
      cases hread
      split at h
      · cases h
      · next hne =>
        cases h
        exact ⟨p, hf, Decidable.not_not.1 hdepth, by simpa using hne, rfl⟩
  · rintro ⟨p, hf, hdepth, hne, rfl⟩
    have hread : readZones markers template.toList = .ok p.zones := by
      rw [readZones, hf]
      exact if_neg (not_not_intro hdepth)
    rw [load, hread]
    exact if_neg (by simpa using hne)

/-- The zones of a catalog are those its start tags declare, in document order. -/
theorem zones_of_load {template : String} {catalog : Catalog} (h : load markers template = .ok catalog) :
    catalog.template = template ∧
      catalog.zones = ((Markup.read template.toList).filterMap Piece.startTag?).filterMap
        fun t => Zone.declared? markers template.toList t.1 := by
  obtain ⟨p, hf, -, -, rfl⟩ := load_eq_ok.1 h
  exact ⟨rfl, zones_foldlM hf⟩

end Catalog

/-- The start tag of the element that declares a zone, as it stands in the template. -/
def StartTag (markers : Markers) (template : List Char) (zone : Zone) (tag : List Char) : Prop :=
  ∃ element, (element, tag) ∈ (Markup.read template).filterMap Piece.startTag? ∧
    Zone.ofElement? markers template element = .ok (some zone)

/-- Zones one after another in a text whose first byte is at `cursor`, each in a tag of its own. -/
inductive Housed (home : Zone → List Char → Prop) : Nat → List Char → List Zone → Prop
  | nil (cursor : Nat) (cs : List Char) : Housed home cursor cs []
  | cons {cursor : Nat} {gap tag rest : List Char} {zone : Zone} {more : List Zone} (tag_of : home zone tag)
      (lies : zone.geometry.LiesIn (cursor + byteLength gap) tag)
      (housed : Housed home (cursor + byteLength (gap ++ tag)) rest more) :
      Housed home cursor (gap ++ tag ++ rest) (zone :: more)

namespace Housed

variable {home : Zone → List Char → Prop}

theorem skip {cursor : Nat} {cs skipped : List Char} {zones : List Zone}
    (h : Housed home (cursor + byteLength skipped) cs zones) : Housed home cursor (skipped ++ cs) zones := by
  cases h with
  | nil => exact .nil _ _
  | @cons _ gap tag rest zone more tag_of lies housed =>
      have hl : zone.geometry.LiesIn (cursor + byteLength (skipped ++ gap)) tag := by
        rwa [byteLength_append, ← Nat.add_assoc]
      have hh : Housed home (cursor + byteLength (skipped ++ gap ++ tag)) rest more := by
        rwa [List.append_assoc, byteLength_append skipped, ← Nat.add_assoc]
      simpa only [List.append_assoc] using Housed.cons tag_of hl hh

/-- A zone parts a text into its tag and what houses the zones before and after it. -/
theorem split {cursor : Nat} {cs : List Char} {before after : List Zone} {zone : Zone}
    (h : Housed home cursor cs (before ++ zone :: after)) :
    ∃ kept tag rest, cs = kept ++ tag ++ rest ∧ home zone tag ∧
      zone.geometry.LiesIn (cursor + byteLength kept) tag ∧ Housed home cursor kept before ∧
      Housed home (cursor + byteLength (kept ++ tag)) rest after := by
  induction before generalizing cursor cs with
  | nil =>
      cases h with
      | @cons _ gap tag rest _ _ tag_of lies housed =>
          exact ⟨gap, tag, rest, rfl, tag_of, lies, .nil _ _, housed⟩
  | cons first before ih =>
      cases h with
      | @cons _ gap tag rest _ _ tag_of lies housed =>
          obtain ⟨kept, tag', rest', rfl, hz, hl, hb, ha⟩ := ih housed
          refine ⟨gap ++ tag ++ kept, tag', rest', by simp only [List.append_assoc], hz, ?_,
            .cons tag_of lies hb, ?_⟩
          · rwa [byteLength_append (gap ++ tag), ← Nat.add_assoc]
          · rwa [List.append_assoc (gap ++ tag), byteLength_append (gap ++ tag), ← Nat.add_assoc]

end Housed

/-- A zone lies in its start tag. The element's stop may fall short by the byte order mark, less than a tag with an
attribute. -/
theorem Zone.liesIn_startTag {markers : Markers} {done tag rest : List Char} {element : Element} {piece : Piece}
    {zone : Zone} (hs : piece.startTag? = some (element, tag))
    (hz : ofElement? markers (done ++ tag ++ rest) element = .ok (some zone))
    (hlo : element.stop ≤ byteLength (done ++ tag)) (hhi : byteLength (done ++ tag) ≤ element.stop + 3) :
    zone.geometry.LiesIn (byteLength done) tag := by
  obtain ⟨hlen, known, id, hl⟩ := locate_of_ofElement? hz
  obtain ⟨inner, rfl, hi⟩ := shape_of_startTag? hs
  have hb := length_le_byteLength inner
  have hone : ('<' : Char).utf8Size = 1 := rfl
  refine liesIn_locate hl ?_ hlo
  rw [byteLength_append, byteLength_cons] at hhi
  omega

/-- The zones of start tags in a text that the byte order mark may precede, which offsets leave out. -/
theorem housed_of_laid {markers : Markers} {offset : Nat} {done cs : List Char}
    {tags : List (Element × List Char)} (h : Laid offset cs tags) (hlo : offset ≤ byteLength done)
    (hhi : byteLength done ≤ offset + 3)
    (ht : ∀ t ∈ tags, t ∈ (Markup.read (done ++ cs)).filterMap Piece.startTag?) :
    Housed (StartTag markers (done ++ cs)) (byteLength done) cs
      (tags.filterMap fun t => Zone.declared? markers (done ++ cs) t.1) := by
  induction h generalizing done with
  | nil offset cs => exact .nil _ _
  | @cons offset gap tag rest element more stop_eq laid ih =>
      have hcut : done ++ (gap ++ tag ++ rest) = (done ++ gap ++ tag) ++ rest := by
        simp only [List.append_assoc]
      obtain ⟨hmem, hmore⟩ := List.forall_mem_cons.1 ht
      have hstop : element.stop ≤ byteLength (done ++ gap ++ tag) ∧
          byteLength (done ++ gap ++ tag) ≤ element.stop + 3 := by
        rw [stop_eq, byteLength_append, byteLength_append]
        omega
      have hrest : Housed (StartTag markers (done ++ (gap ++ tag ++ rest)))
          (byteLength (done ++ gap ++ tag)) rest
          (more.filterMap fun t => Zone.declared? markers (done ++ (gap ++ tag ++ rest)) t.1) := by
        rw [hcut] at hmore ⊢
        exact ih hstop.1 hstop.2 hmore
      rw [List.append_assoc done, byteLength_append done] at hrest
      cases hz : Zone.declared? markers (done ++ (gap ++ tag ++ rest)) element with
      | none =>
          simp only [List.filterMap_cons, hz]
          exact hrest.skip
      | some zone =>
          simp only [List.filterMap_cons, hz]
          have hof := Zone.declared?_eq_some.1 hz
          obtain ⟨piece, -, hp⟩ := List.mem_filterMap.1 hmem
          have hlies := Zone.liesIn_startTag hp (hcut ▸ hof) hstop.1 hstop.2
          rw [byteLength_append] at hlies
          exact .cons ⟨element, hmem, hof⟩ hlies hrest

theorem Catalog.housed {markers : Markers} {template : String} {catalog : Catalog}
    (h : load markers template = .ok catalog) :
    Housed (StartTag markers template.toList) 0 template.toList catalog.zones := by
  obtain ⟨-, hz⟩ := zones_of_load h
  obtain ⟨mark, text, ht, hl, hlaid⟩ := laid_read template.toList
  rw [hz, ht]
  rw [ht] at hlaid
  apply Housed.skip
  rw [Nat.zero_add]
  exact housed_of_laid hlaid (Nat.zero_le _) (by omega) fun t => id

end VehicleDamage
