import Mathlib.Data.List.Basic
import VehicleDamage.Proofs.Number.Same
import VehicleDamage.Proofs.Number.Unit
import VehicleDamage.Proofs.Overlay.Splice
import VehicleDamage.Proofs.Template.Placement

/-!
The summaries of an overlay: one for each zone of the catalog, with the severity that the zone is shown at. A severity
that is no number shows a zone as it stands and is handed on as it is.
-/

namespace VehicleDamage

namespace Binary32

theorem InUnit.same_zero_iff {t : Binary32} (h : t.InUnit) : t.Same .zero ↔ t.le .zero = true := by
  obtain ⟨p, hp⟩ := exists_place h.isNaN_eq
  have hlow := ((inUnit_iff hp).1 h).1
  rw [le_iff hp place?_zero]
  constructor
  · rintro ⟨a, ha, hz⟩
    rw [hp] at ha
    rw [place?_zero] at hz
    cases ha
    cases hz
    exact Int.le_refl _
  · intro hle
    obtain rfl : p = 0 := by omega
    exact ⟨0, hp, place?_zero⟩

end Binary32

open Binary32

/-- The severity that a zone is shown at: one that is no number counts as none. -/
def shownSeverity (severity : Binary32) : Binary32 :=
  if severity.isNaN then .zero else clampSeverity severity

theorem inUnit_shownSeverity (severity : Binary32) : (shownSeverity severity).InUnit := by
  rw [shownSeverity]
  split
  · exact inUnit_zero
  · next hn => exact inUnit_clampSeverity (Bool.eq_false_iff.2 hn)

theorem clampSeverity_eq (severity : Binary32) :
    clampSeverity severity = if severity.isNaN then .nan else shownSeverity severity := by
  split
  · next hn =>
    cases severity with
    | nan => decide +kernel
    | infinite | finite => cases hn
  · next hn => rw [shownSeverity, if_neg hn]

namespace ZoneStyle

/-- The style at a severity of the unit interval, taken as it is: as declared at zero, and that share of the way to the
palette above. -/
def shownAt (style : ZoneStyle) (palette : Palette) (t : Binary32) : ShownStyle :=
  if t.le .zero then ⟨style.raw, style.fill, style.opacity, true⟩
  else
    let fill := style.fill.mix palette.fill t
    let opacity := mixOpacity style.opacity palette.opacity t
    ⟨((style.declarations.set "fill" fill.toHex).set "fill-opacity" opacity.toText).text, fill, opacity, false⟩

theorem shown_eq (style : ZoneStyle) (palette : Palette) (severity : Binary32) :
    style.shown palette severity = style.shownAt palette (shownSeverity severity) := rfl

theorem isDefault_shownAt_iff (style : ZoneStyle) (palette : Palette) {t : Binary32} (h : t.InUnit) :
    (style.shownAt palette t).isDefault = true ↔ t.Same .zero := by
  rw [h.same_zero_iff, shownAt]
  split
  · next hle => exact iff_of_true rfl hle
  · next hle => exact iff_of_false nofun hle

end ZoneStyle

theorem Catalog.exists_zone_of_ids {catalog : Catalog} {i : Nat} {id : String} (h : catalog.ids[i]? = some id) :
    ∃ zone, catalog.zones[i]? = some zone ∧ zone.id = id := by
  rw [ids, List.getElem?_map] at h
  exact Option.map_eq_some_iff.1 h

namespace Overlay

variable {palette : Palette} {catalog : Catalog} {snapshot other : Snapshot}

theorem document?_eq {markers : Markers} {template : String} (h : Catalog.load markers template = .ok catalog)
    (palette : Palette) (snapshot : Snapshot) :
    document? palette catalog snapshot = some (render palette catalog snapshot).document := by
  obtain ⟨out, -, hs⟩ := exists_spliced h palette snapshot
  rw [render, document?, hs]
  rfl

/-- The document of a loaded catalog is its template with the damaged zones restyled. -/
theorem restyled_render {markers : Markers} {template : String}
    (h : Catalog.load markers template = .ok catalog) (palette : Palette) (snapshot : Snapshot) :
    Restyled palette snapshot 0 template.toList catalog.zones (render palette catalog snapshot).document.toList := by
  obtain ⟨out, hout, hs⟩ := exists_spliced h palette snapshot
  rw [render, document?, hs, Option.map_some, Option.getD_some, String.toList_ofList]
  exact hout

/-- Severities of zones that the catalog does not have make no difference. -/
theorem render_congr (h : ∀ zone ∈ catalog.zones, other.severity zone.id = snapshot.severity zone.id) :
    (render palette catalog other).document = (render palette catalog snapshot).document ∧
      (render palette catalog other).zones = (render palette catalog snapshot).zones := by
  have hshown : ∀ zone ∈ catalog.zones, shown palette other zone = shown palette snapshot zone := fun zone hz => by
    rw [shown, h zone hz, ← shown]
  have hedits : edits palette catalog other = edits palette catalog snapshot :=
    List.filterMap_congr fun zone hz => by rw [hshown zone hz]
  constructor
  · simp only [render, document?, hedits]
  · exact List.map_congr_left fun zone hz => by rw [summary, hshown zone hz, h zone hz, ← summary]

/-- Severities of the unit interval are what a zone is shown at and what its summary says. -/
theorem zones_render (h : ∀ id, (snapshot.severity id).InUnit) : (render palette catalog snapshot).zones =
    catalog.zones.map fun zone => ⟨zone.id, snapshot.severity zone.id, (shown palette snapshot zone).fill.toHex,
      (shown palette snapshot zone).opacity⟩ := by
  rw [render]
  refine List.map_congr_left fun zone _ => ?_
  rw [summary, clampSeverity, (h zone.id).clamp_eq]

/-- The summaries of a loaded catalog are those of its zones in the order of the document, and say of each how it is
shown: at a severity of the unit interval, zero exactly if the zone is shown as it stands, and with the fill and the
opacity of that. Severities of other zones make no difference. The severity in a summary is the one shown exactly if the
snapshot's is a number; where it is none, neither is the summary's, though the zone is shown as at zero. -/
theorem summaries_shown {markers : Markers} {template : String} {catalog : Catalog}
    (h : Catalog.load markers template = .ok catalog) (palette : Palette) (snapshot : Snapshot) :
    document? palette catalog snapshot = some (render palette catalog snapshot).document ∧
    (render palette catalog snapshot).zones.map (·.zone) = catalog.zones.map (·.id) ∧
    catalog.zones.Pairwise (fun zone zone' => zone.geometry.tagSpan.stop ≤ zone'.geometry.tagSpan.start) ∧
    (∀ other : Snapshot, (∀ zone ∈ catalog.zones, other.severity zone.id = snapshot.severity zone.id) →
      (render palette catalog other).document = (render palette catalog snapshot).document ∧
        (render palette catalog other).zones = (render palette catalog snapshot).zones) ∧
    ∀ (i : Nat) (zone : Zone), catalog.zones[i]? = some zone → ∃ summary,
      (render palette catalog snapshot).zones[i]? = some summary ∧
      let t := shownSeverity (snapshot.severity zone.id)
      let shown := shown palette snapshot zone
      t.InUnit ∧ shown = zone.defaultStyle.shownAt palette t ∧ (shown.isDefault = true ↔ t.Same .zero) ∧
      summary.zone = zone.id ∧ summary.fill = shown.fill.toHex ∧ summary.opacity = shown.opacity ∧
      (summary.severity = t ↔ (snapshot.severity zone.id).isNaN = false) ∧
      ((snapshot.severity zone.id).isNaN = true → summary.severity = .nan ∧ t = .zero) := by
  have hsound := Catalog.IsSound.of_load h
  refine ⟨document?_eq h palette snapshot, List.map_map, hsound.apart, fun other => render_congr, fun i zone hz => ?_⟩
  refine ⟨summary palette snapshot zone, ?_, ?_⟩
  · rw [render, List.getElem?_map, hz]
    rfl
  · have hu := inUnit_shownSeverity (snapshot.severity zone.id)
    have hsummary : (summary palette snapshot zone).severity =
        if (snapshot.severity zone.id).isNaN then .nan else shownSeverity (snapshot.severity zone.id) :=
      clampSeverity_eq _
    refine ⟨hu, ZoneStyle.shown_eq _ _ _, ZoneStyle.isDefault_shownAt_iff _ _ hu, rfl, rfl, rfl, ?_, fun hn => ?_⟩
    · rw [hsummary]
      cases hn : (snapshot.severity zone.id).isNaN with
      | false => exact iff_of_true rfl rfl
      | true =>
        rw [shownSeverity, hn, if_pos rfl, if_pos rfl]
        exact iff_of_false (by decide) (by decide)
    · rw [hsummary, shownSeverity, hn]
      exact ⟨rfl, rfl⟩

/-- An infinite severity, and one of a zone that the template does not have. -/
theorem summaries_shown_roof :
    let snapshot : Snapshot := ⟨3, (SortedMap.empty.insert "roof" (.infinite false)).insert "bumper" .one⟩
    ∃ catalog, Catalog.load .standard "<g><a data-zone='roof'/><b data-zone='hood'/></g>" = .ok catalog ∧
      (render .standard catalog snapshot).zones.map (·.zone) = ["roof", "hood"] ∧
      (render .standard catalog ⟨3, SortedMap.empty.insert "roof" (.infinite false)⟩).zones =
        (render .standard catalog snapshot).zones ∧
      ∃ summary, (render .standard catalog snapshot).zones[0]? = some summary ∧ summary.severity = .one := by
  intro snapshot
  have hok : (Catalog.load .standard "<g><a data-zone='roof'/><b data-zone='hood'/></g>").toOption.map Catalog.ids =
      some ["roof", "hood"] := by
    decide +kernel
  cases h : Catalog.load .standard "<g><a data-zone='roof'/><b data-zone='hood'/></g>" with
  | error fault =>
      rw [h] at hok
      cases hok
  | ok catalog =>
      rw [h] at hok
      have hids : catalog.ids = ["roof", "hood"] := Option.some.inj hok
      have hsame : ∀ id ∈ ["roof", "hood"],
          Snapshot.severity ⟨3, SortedMap.empty.insert "roof" (.infinite false)⟩ id = snapshot.severity id := by
        decide +kernel
      obtain ⟨zone, hz, hid⟩ := Catalog.exists_zone_of_ids (hids ▸ rfl : catalog.ids[0]? = some "roof")
      obtain ⟨-, hzones, -, hother, hsummary⟩ := summaries_shown h .standard snapshot
      obtain ⟨summary, hs, -, -, -, -, -, -, hseverity, -⟩ := hsummary 0 zone hz
      refine ⟨catalog, rfl, hzones.trans hids, (hother _ fun z hm => ?_).2, summary, hs, ?_⟩
      · exact hsame _ (hids ▸ List.mem_map_of_mem hm)
      · rw [hid] at hseverity
        exact (hseverity.2 (by decide +kernel)).trans (by decide +kernel)

/-- A severity that is no number leaves the zone as it stands but not the summary a number. -/
theorem summaries_shown_nan :
    let snapshot : Snapshot := ⟨1, SortedMap.empty.insert "roof" .nan⟩
    Palette.standard.opacity.isFinite = true ∧
      ∃ catalog zone summary, Catalog.load .standard "<svg><a data-zone='roof'/></svg>" = .ok catalog ∧
        catalog.zones[0]? = some zone ∧ (render .standard catalog snapshot).zones[0]? = some summary ∧
        shown .standard snapshot zone = zone.defaultStyle.shownAt .standard .zero ∧ ¬summary.severity.InUnit := by
  intro snapshot
  refine ⟨by decide +kernel, ?_⟩
  have hok : (Catalog.load .standard "<svg><a data-zone='roof'/></svg>").toOption.map Catalog.ids = some ["roof"] := by
    decide +kernel
  cases h : Catalog.load .standard "<svg><a data-zone='roof'/></svg>" with
  | error fault =>
      rw [h] at hok
      cases hok
  | ok catalog =>
      rw [h] at hok
      have hids : catalog.ids = ["roof"] := Option.some.inj hok
      obtain ⟨zone, hz, hid⟩ := Catalog.exists_zone_of_ids (hids ▸ rfl : catalog.ids[0]? = some "roof")
      have hnan : snapshot.severity zone.id = .nan := by
        rw [hid]
        decide +kernel
      refine ⟨catalog, zone, summary .standard snapshot zone, rfl, hz, ?_, ?_, ?_⟩
      · rw [render, List.getElem?_map, hz]
        rfl
      · rw [shown, ZoneStyle.shown_eq, hnan]
        rfl
      · show ¬(clampSeverity (snapshot.severity zone.id)).InUnit
        rw [hnan, clampSeverity_eq]
        exact fun hu => Bool.noConfusion hu.isNaN_eq

end Overlay

end VehicleDamage
