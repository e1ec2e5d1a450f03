import VehicleDamage.Overlay
import VehicleDamage.Proofs.Number.Order
import VehicleDamage.Proofs.Template.Zones

/-!
The document of an overlay: the template under one edit for each damaged zone, and nothing else.
-/

namespace VehicleDamage

open Text

theorem ZoneStyle.isDefault_shown (style : ZoneStyle) (palette : Palette) (severity : Binary32) :
    (style.shown palette severity).isDefault = !Binary32.zero.lt severity := by
  have hd : (style.shown palette severity).isDefault =
      (if severity.isNaN then .zero else clampSeverity severity : Binary32).le .zero := by
    unfold shown
    generalize (if severity.isNaN then .zero else clampSeverity severity : Binary32) = t
    cases ht : t.le .zero <;> simp [ht]
  rw [hd]
  split
  · next hn =>
    cases severity with
    | nan => rfl
    | infinite | finite => cases hn
  · next hn => exact Binary32.clampSeverity_le_zero (Bool.eq_false_iff.2 hn)

theorem splice?_edit (cursor : Nat) (kept value text cs : List Char) (more : List Edit) :
    splice? cursor (kept ++ value ++ cs)
        (⟨cursor + byteLength kept, cursor + byteLength kept + byteLength value, text⟩ :: more) =
      (splice? (cursor + byteLength kept + byteLength value) cs more).map (kept ++ text ++ ·) := by
  simp only [splice?, Nat.le_add_right, and_self, if_true, Nat.add_sub_cancel_left, List.append_assoc,
    splitBytes?_append, Option.bind_eq_bind, Option.bind_some]
  cases splice? (cursor + byteLength kept + byteLength value) cs more <;> simp

/-- Edits that can be applied stand one after another in the text. -/
theorem splice?_ordered {cursor : Nat} {cs out : List Char} {edits : List Edit}
    (h : splice? cursor cs edits = some out) :
    (∀ e ∈ edits, cursor ≤ e.start ∧ e.start ≤ e.stop) ∧ edits.Pairwise fun e f => e.stop ≤ f.start := by
  induction edits generalizing cursor cs out with
  | nil => exact ⟨nofun, .nil⟩
  | cons e more ih =>
      rw [splice?] at h
      split at h
      · next hle =>
        simp only [Option.bind_eq_bind, Option.bind_eq_some_iff] at h
        obtain ⟨_, _, ⟨_, fromStop⟩, _, rest, hr, _⟩ := h
        obtain ⟨hb, hp⟩ := ih hr
        refine ⟨?_, .cons (fun f hf => (hb f hf).1) hp⟩
        intro f hf
        rcases List.mem_cons.1 hf with rfl | hf
        · exact hle
        · exact ⟨Nat.le_trans (Nat.le_trans hle.1 hle.2) (hb f hf).1, (hb f hf).2⟩
      · cases h

/-- A zone counts as damaged when its severity is above zero; a NaN is not. -/
def Snapshot.isDamaged (s : Snapshot) (zone : Zone) : Bool :=
  Binary32.zero.lt (s.severity zone.id)

namespace Overlay

variable {palette : Palette} {snapshot : Snapshot}

theorem edits_eq (palette : Palette) (catalog : Catalog) (snapshot : Snapshot) :
    edits palette catalog snapshot = (catalog.zones.filter snapshot.isDamaged).map fun zone =>
      zone.geometry.restyle (shown palette snapshot zone).text := by
  have hd (zone : Zone) : (shown palette snapshot zone).isDefault = !snapshot.isDamaged zone :=
    ZoneStyle.isDefault_shown _ _ _
  rw [edits]
  induction catalog.zones with
  | nil => rfl
  | cons zone zones ih =>
      rw [List.filterMap_cons, List.filter_cons, ih]
      cases hz : snapshot.isDamaged zone <;> simp [hd, hz]

/-- A text as it becomes when the damaged ones of some zones are given their styles, in order. All of it is kept
but the values of their `style`; a zone without one is given one. The text begins at byte `cursor`. -/
inductive Restyled (palette : Palette) (snapshot : Snapshot) : Nat → List Char → List Zone → List Char → Prop
  | done (cursor : Nat) (cs : List Char) : Restyled palette snapshot cursor cs [] cs
  | intact {cursor : Nat} {cs out : List Char} {zone : Zone} {more : List Zone}
      (undamaged : snapshot.isDamaged zone = false) (rest : Restyled palette snapshot cursor cs more out) :
      Restyled palette snapshot cursor cs (zone :: more) out
  | replaced {cursor start stop : Nat} {kept value cs out : List Char} {zone : Zone} {more : List Zone}
      (damaged : snapshot.isDamaged zone = true) (styled : zone.geometry.styleValue = some ⟨start, stop⟩)
      (start_eq : start = cursor + byteLength kept) (stop_eq : stop = start + byteLength value)
      (rest : Restyled palette snapshot stop cs more out) :
      Restyled palette snapshot cursor (kept ++ value ++ cs) (zone :: more)
        (kept ++ (shown palette snapshot zone).text.toList ++ out)
  | inserted {cursor : Nat} {kept cs out : List Char} {zone : Zone} {more : List Zone}
      (damaged : snapshot.isDamaged zone = true) (unstyled : zone.geometry.styleValue = none)
      (point_eq : zone.geometry.insertionPoint = cursor + byteLength kept)
      (rest : Restyled palette snapshot zone.geometry.insertionPoint cs more out) :
      Restyled palette snapshot cursor (kept ++ cs) (zone :: more)
        (kept ++ (" style=\"".toList ++ (shown palette snapshot zone).text.toList ++ ['"']) ++ out)

namespace Restyled

theorem splice?_eq {cursor : Nat} {cs out : List Char} {zones : List Zone}
    (h : Restyled palette snapshot cursor cs zones out) (template : String) :
    splice? cursor cs (edits palette ⟨template, zones⟩ snapshot) = some out := by
  simp only [edits_eq]
  induction h with
  | done => rfl
  | intact undamaged rest ih => rwa [List.filter_cons_of_neg (Bool.eq_false_iff.1 undamaged)]
  | replaced damaged styled start_eq stop_eq rest ih =>
      subst start_eq stop_eq
      rw [List.filter_cons_of_pos damaged, List.map_cons, Geometry.restyle, styled]
      simp only [splice?_edit]
      rw [ih]
      rfl
  | @inserted cursor kept cs out zone more damaged unstyled point_eq rest ih =>
      rw [List.filter_cons_of_pos damaged, List.map_cons, Geometry.restyle, unstyled]
      rw [point_eq] at ih ⊢
      have hs := splice?_edit cursor kept []
        (" style=\"".toList ++ (shown palette snapshot zone).text.toList ++ ['"']) cs
      simp only [byteLength_nil, Nat.add_zero, List.append_nil] at hs
      rw [hs, ih]
      rfl

theorem unique {cursor : Nat} {cs out out' : List Char} {zones : List Zone}
    (h : Restyled palette snapshot cursor cs zones out)
    (h' : Restyled palette snapshot cursor cs zones out') :
    out = out' :=
  Option.some.inj ((h.splice?_eq "").symm.trans (h'.splice?_eq ""))

theorem skip {cursor start : Nat} {cs out skipped : List Char} {zones : List Zone}
    (h : Restyled palette snapshot start cs zones out) (hs : start = cursor + byteLength skipped) :
    Restyled palette snapshot cursor (skipped ++ cs) zones (skipped ++ out) := by
  induction h with
  | done => exact .done _ _
  | intact undamaged rest ih => exact .intact undamaged (ih hs)
  | @replaced start _ _ kept _ _ _ _ _ damaged styled start_eq stop_eq rest ih =>
      have hk := start_eq.trans (by rw [hs, Nat.add_assoc, ← byteLength_append])
      simpa only [List.append_assoc] using replaced damaged styled hk stop_eq rest
  | @inserted start kept _ _ _ _ damaged unstyled point_eq rest ih =>
      have hk := point_eq.trans (by rw [hs, Nat.add_assoc, ← byteLength_append])
      simpa only [List.append_assoc] using inserted damaged unstyled hk rest

theorem append {cursor stop : Nat} {cs cs' out out' : List Char} {zones zones' : List Zone}
    (h : Restyled palette snapshot cursor cs zones out) (h' : Restyled palette snapshot stop cs' zones' out')
    (hs : stop = cursor + byteLength cs) :
    Restyled palette snapshot cursor (cs ++ cs') (zones ++ zones') (out ++ out') := by
  induction h with
  | done => exact h'.skip hs
  | intact undamaged rest ih => exact .intact undamaged (ih hs)
  | replaced damaged styled start_eq stop_eq rest ih =>
      have hr := ih (by rw [hs, stop_eq, start_eq]; simp only [byteLength_append, Nat.add_assoc])
      simpa only [List.append_assoc, List.cons_append] using replaced damaged styled start_eq stop_eq hr
  | inserted damaged unstyled point_eq rest ih =>
      have hr := ih (by rw [hs, point_eq, byteLength_append, Nat.add_assoc])
      simpa only [List.append_assoc, List.cons_append] using inserted damaged unstyled point_eq hr

theorem exists_of_liesIn {cursor : Nat} {tag : List Char} {zone : Zone} (h : zone.geometry.LiesIn cursor tag) :
    ∃ out, Restyled palette snapshot cursor tag [zone] out := by
  cases hd : snapshot.isDamaged zone with
  | false => exact ⟨tag, .intact hd (.done _ _)⟩
  | true =>
      cases hs : zone.geometry.styleValue with
      | none =>
          obtain ⟨i, hi, kept, inside, after, rfl, rfl, hl⟩ := h.insertion
          obtain rfl : inside = [] := eq_nil_of_byteLength (by omega)
          rw [List.append_nil]
          exact ⟨_, .inserted hd hs hi (.done _ _)⟩
      | some span =>
          obtain ⟨i, j, rfl, kept, value, after, rfl, rfl, rfl⟩ := h.style span hs
          exact ⟨_, .replaced hd hs rfl (Nat.add_assoc _ _ _).symm (.done _ _)⟩

end Restyled

theorem exists_restyled {home : Zone → List Char → Prop} {cursor : Nat} {cs : List Char} {zones : List Zone}
    (h : Housed home cursor cs zones) : ∃ out, Restyled palette snapshot cursor cs zones out := by
  induction h with
  | nil cursor cs => exact ⟨cs, .done cursor cs⟩
  | @cons cursor gap tag rest zone more tag_of lies housed ih =>
      obtain ⟨tag', ht⟩ : ∃ out, Restyled palette snapshot (cursor + byteLength gap) tag [zone] out :=
        Restyled.exists_of_liesIn lies
      obtain ⟨rest', hr⟩ := ih
      have hs := (ht.append hr (by rw [byteLength_append, Nat.add_assoc])).skip rfl
      rw [List.append_assoc]
      exact ⟨_, hs⟩

/-- Around a zone: what is in place of its tag, between what is in place of the text before and after it. -/
theorem Restyled.around {home : Zone → List Char → Prop} {cursor : Nat} {cs out : List Char}
    {before after : List Zone} {zone : Zone}
    (h : Restyled palette snapshot cursor cs (before ++ zone :: after) out)
    (hh : Housed home cursor cs (before ++ zone :: after)) :
    ∃ kept tag rest kept' tag' rest', home zone tag ∧ cs = kept ++ tag ++ rest ∧ out = kept' ++ tag' ++ rest' ∧
      Restyled palette snapshot cursor kept before kept' ∧
      Restyled palette snapshot (cursor + byteLength kept) tag [zone] tag' ∧
      Restyled palette snapshot (cursor + byteLength (kept ++ tag)) rest after rest' := by
  obtain ⟨kept, tag, rest, rfl, hz, hl, hb, ha⟩ := hh.split
  obtain ⟨kept', hkept⟩ : ∃ out, Restyled palette snapshot cursor kept before out := exists_restyled hb
  obtain ⟨tag', htag⟩ : ∃ out, Restyled palette snapshot (cursor + byteLength kept) tag [zone] out :=
    exists_of_liesIn hl
  obtain ⟨rest', hrest⟩ : ∃ out, Restyled palette snapshot (cursor + byteLength (kept ++ tag)) rest after out :=
    exists_restyled ha
  have hw := hkept.append (htag.append hrest (by rw [byteLength_append, Nat.add_assoc])) rfl
  rw [← List.append_assoc] at hw
  exact ⟨kept, tag, rest, kept', tag', rest', hz, rfl, by rw [h.unique hw, List.append_assoc], hkept, htag, hrest⟩

theorem Restyled.eq_of_undamaged {cursor : Nat} {cs out : List Char} {zones : List Zone}
    (h : Restyled palette snapshot cursor cs zones out)
    (hz : ∀ zone ∈ zones, snapshot.isDamaged zone = false) :
    out = cs := by
  induction h with
  | done => rfl
  | intact undamaged rest ih => exact ih fun zone hm => hz zone (List.mem_cons_of_mem _ hm)
  | replaced damaged | inserted damaged =>
      rw [hz _ List.mem_cons_self] at damaged
      cases damaged

/-- The edits of a loaded catalog fit its template. -/
theorem exists_spliced {markers : Markers} {template : String} {catalog : Catalog}
    (h : Catalog.load markers template = .ok catalog) (palette : Palette) (snapshot : Snapshot) :
    ∃ out, Restyled palette snapshot 0 template.toList catalog.zones out ∧
      splice? 0 catalog.template.toList (edits palette catalog snapshot) = some out := by
  obtain ⟨ht, -⟩ := Catalog.zones_of_load h
  obtain ⟨out, ho⟩ : ∃ out, Restyled palette snapshot 0 template.toList catalog.zones out :=
    exists_restyled (Catalog.housed h)
  refine ⟨out, ho, ?_⟩
  rw [ht]
  exact ho.splice?_eq catalog.template

/-- The overlay of a loaded catalog has a document: the template with a style for each damaged zone, written by
edits that stand one after another. Each zone is styled in its own start tag, and the tag of an undamaged zone
stays as it is. -/
theorem document_restyles {markers : Markers} {template : String} {catalog : Catalog}
    (h : Catalog.load markers template = .ok catalog) (palette : Palette) (snapshot : Snapshot) :
    ∃ document, document? palette catalog snapshot = some document ∧
      (render palette catalog snapshot).document = document ∧
      Restyled palette snapshot 0 template.toList catalog.zones document.toList ∧
      edits palette catalog snapshot = ((catalog.zones.filter snapshot.isDamaged).map fun zone =>
        zone.geometry.restyle (shown palette snapshot zone).text) ∧
      (edits palette catalog snapshot).Pairwise (fun e f => e.stop ≤ f.start) ∧
      (∀ before zone after, catalog.zones = before ++ zone :: after →
        ∃ kept tag rest kept' tag' rest', StartTag markers template.toList zone tag ∧
          template.toList = kept ++ tag ++ rest ∧ document.toList = kept' ++ tag' ++ rest' ∧
          Restyled palette snapshot 0 kept before kept' ∧
          Restyled palette snapshot (byteLength kept) tag [zone] tag' ∧
          Restyled palette snapshot (byteLength (kept ++ tag)) rest after rest' ∧
          (snapshot.isDamaged zone = false → tag' = tag)) ∧
      ((∀ zone ∈ catalog.zones, snapshot.isDamaged zone = false) → document = template) := by
  have hh := Catalog.housed h
  obtain ⟨out, ho, hs⟩ := exists_spliced h palette snapshot
  have hd : document? palette catalog snapshot = some (String.ofList out) := by
    rw [document?, hs]
    rfl
  refine ⟨String.ofList out, hd, ?_, ?_, edits_eq _ _ _, (splice?_ordered hs).2, ?_, ?_⟩
  · rw [render, hd]
    rfl
  · rwa [String.toList_ofList]
  · intro before zone after hz
    rw [hz] at ho hh
    obtain ⟨kept, tag, rest, kept', tag', rest', hstart, hcs, hout, hb, hm, ha⟩ := ho.around hh
    rw [Nat.zero_add] at hm ha
    refine ⟨kept, tag, rest, kept', tag', rest', hstart, hcs, ?_, hb, hm, ha, fun hu => ?_⟩
    · rw [String.toList_ofList, hout]
    · exact hm.eq_of_undamaged fun z hz => List.mem_singleton.1 hz ▸ hu
  · intro hz
    rw [ho.eq_of_undamaged hz, String.ofList_toList]

theorem document_restyles_roof : ∃ catalog, Catalog.load .standard
      "<g><a data-zone='Roof' d='x<y' style='fill:#fff'/><b data-zone='hood'/></g>" = .ok catalog ∧
    ∃ document, document? .standard catalog ⟨1, SortedMap.empty.insert "roof" .one⟩ = some document ∧
      Restyled .standard ⟨1, SortedMap.empty.insert "roof" .one⟩ 0
        "<g><a data-zone='Roof' d='x<y' style='fill:#fff'/><b data-zone='hood'/></g>".toList catalog.zones
        document.toList := by
  have hok : (Catalog.load .standard
      "<g><a data-zone='Roof' d='x<y' style='fill:#fff'/><b data-zone='hood'/></g>").isOk = true := by
    decide +kernel
  cases h : Catalog.load .standard
      "<g><a data-zone='Roof' d='x<y' style='fill:#fff'/><b data-zone='hood'/></g>" with
  | error fault =>
      rw [h] at hok
      cases hok
  | ok catalog =>
      obtain ⟨document, hd, -, hr, -⟩ := document_restyles h .standard ⟨1, SortedMap.empty.insert "roof" .one⟩
      exact ⟨catalog, rfl, document, hd, hr⟩

end Overlay

end VehicleDamage
