import VehicleDamage.Console
import VehicleDamage.Proofs.Overlay.Summary
import VehicleDamage.Proofs.Service.Tracking
import VehicleDamage.Proofs.Style.Shown
import VehicleDamage.Proofs.Text.Utf8

/-!
The status listing. It looks for entries above zero, a snapshot counts as undamaged when all are at or below it, and an
overlay goes by the severities of the catalog's zones. They agree on what a service holds of a vehicle.
-/

namespace VehicleDamage

open Text

namespace Snapshot

variable {s : Snapshot}

theorem mem_damagedZones {e : String × Binary32} :
    e ∈ Console.damagedZones s ↔ s.severities.get? e.1 = some e.2 ∧ Binary32.zero.lt e.2 = true := by
  rw [Console.damagedZones, List.mem_filter]
  exact and_congr_left' ⟨SortedMap.get?_of_mem, SortedMap.mem_of_get?⟩

theorem mem_ids_damagedZones {id : String} :
    id ∈ (Console.damagedZones s).map Prod.fst ↔ Binary32.zero.lt (s.severity id) = true := by
  rw [List.mem_map, severity]
  constructor
  · rintro ⟨e, he, rfl⟩
    obtain ⟨hg, hlt⟩ := mem_damagedZones.1 he
    rwa [hg, Option.getD_some]
  · intro h
    cases hg : s.severities.get? id with
    | none =>
        rw [hg] at h
        cases h
    | some severity =>
        rw [hg, Option.getD_some] at h
        exact ⟨(id, severity), mem_damagedZones.2 ⟨hg, h⟩, rfl⟩

/-- Of severities that are numbers those not above zero are at or below it. -/
theorem isUndamaged_iff {c : Catalog} (h : State.Held c s.severities) :
    s.isUndamaged = true ↔ Console.damagedZones s = [] := by
  rw [isUndamaged, List.all_eq_true, Console.damagedZones, List.filter_eq_nil_iff]
  refine forall₂_congr fun e he => ?_
  rw [Bool.not_eq_true]
  exact (Binary32.lt_eq_false_iff rfl (h e he).2.isNaN_eq).symm

/-- Entries are in the order of the bytes of their zones. -/
theorem damagedZones_ascending (s : Snapshot) :
    (Console.damagedZones s).Pairwise fun e f => utf8 e.1.toList < utf8 f.1.toList :=
  (s.severities.sorted.filter _).imp utf8_lt_iff.2

/-- The zones that are listed are those of the catalog that are not shown in their own style. -/
theorem listed_iff {c : Catalog} (h : State.Held c s.severities) (palette : Palette) {id : String} :
    id ∈ (Console.damagedZones s).map Prod.fst ↔
      ∃ zone ∈ c.zones, zone.id = id ∧ (Overlay.shown palette s zone).isDefault = false := by
  have hdefault (zone : Zone) :
      (Overlay.shown palette s zone).isDefault = false ↔ Binary32.zero.lt (s.severity zone.id) = true := by
    rw [Overlay.shown, ZoneStyle.isDefault_shown, Bool.not_eq_false']
  constructor
  · intro hid
    obtain ⟨e, he, rfl⟩ := List.mem_map.1 hid
    obtain ⟨zone, hz, hzone⟩ := List.mem_map.1 (h e (SortedMap.mem_of_get? (mem_damagedZones.1 he).1)).1
    exact ⟨zone, hz, hzone, (hdefault zone).2 (hzone ▸ mem_ids_damagedZones.1 hid)⟩
  · rintro ⟨zone, -, rfl, hs⟩
    exact mem_ids_damagedZones.2 ((hdefault zone).1 hs)

end Snapshot

namespace ZoneStyle

/-- A style as it was declared. -/
def declared (style : ZoneStyle) : ShownStyle :=
  ⟨style.raw, style.fill, style.opacity, true⟩

/-- A style with its fill and opacity some share of the way to a palette, and the rest as declared. -/
def blended (style : ZoneStyle) (palette : Palette) (share : Binary32) : ShownStyle :=
  let fill := style.fill.mix palette.fill share
  let opacity := mixOpacity style.opacity palette.opacity share
  ⟨((style.declarations.set "fill" fill.toHex).set "fill-opacity" opacity.toText).text, fill, opacity, false⟩

theorem shown_of_inUnit (style : ZoneStyle) (palette : Palette) {severity : Binary32} (h : severity.InUnit) :
    style.shown palette severity =
      if Binary32.zero.lt severity then style.blended palette severity else style.declared := by
  split
  · next hlt =>
    rw [shown_damaged hlt, restyled, clampSeverity, h.clamp_eq]
    rfl
  · next hle => exact shown_undamaged (Bool.eq_false_iff.2 hle)

end ZoneStyle

namespace Overlay

theorem edits_eq_listed (palette : Palette) (catalog : Catalog) (snapshot : Snapshot) :
    edits palette catalog snapshot =
      (catalog.zones.filter fun zone => zone.id ∈ (Console.damagedZones snapshot).map Prod.fst).map fun zone =>
        zone.geometry.restyle (shown palette snapshot zone).text := by
  have hdamaged : snapshot.isDamaged = fun zone => decide (zone.id ∈ (Console.damagedZones snapshot).map Prod.fst) :=
    funext fun zone => Bool.eq_iff_iff.2 (Snapshot.mem_ids_damagedZones.symm.trans decide_eq_true_iff.symm)
  rw [edits_eq, hdamaged]

/-- Without edits the document is the template. -/
theorem document_of_edits_eq_nil {palette : Palette} {catalog : Catalog} {snapshot : Snapshot}
    (h : edits palette catalog snapshot = []) : document? palette catalog snapshot = some catalog.template := by
  rw [document?, h, splice?, Option.map_some, String.ofList_toList]

end Overlay

namespace Console

/-- What a line of the listing says of a vehicle, borne out by the vehicle's snapshot and its overlay. A zone that is
listed is shown some share of the way to the palette, which its severity is, and every other zone as declared; the
summaries say so, and the document is the template with the listed zones restyled and all else kept. -/
structure Agrees (s : Service) (vehicle line : String) (snapshot : Snapshot) (overlay : Overlay)
    (listed : List (String × Binary32)) : Prop where
  snapshot_eq : s.snapshot vehicle = .ok snapshot
  overlay_eq : s.overlay vehicle = .ok overlay
  line_eq : line = vehicle ++ " rev=" ++ toString snapshot.revision ++ " [" ++
    " ".intercalate (listed.map fun e => e.1 ++ "=" ++ e.2.toHundredths) ++ "]"
  revision_eq : overlay.revision = snapshot.revision
  ascending : listed.Pairwise fun e f => utf8 e.1.toList < utf8 f.1.toList
  severity_eq : ∀ e ∈ listed, e.2 = snapshot.severity e.1
  listed_iff : ∀ id, id ∈ listed.map Prod.fst ↔
    ∃ zone ∈ s.catalog.zones, zone.id = id ∧ (Overlay.shown s.options.palette snapshot zone).isDefault = false
  shown_eq : ∀ zone, Overlay.shown s.options.palette snapshot zone =
    if zone.id ∈ listed.map Prod.fst then zone.defaultStyle.blended s.options.palette (snapshot.severity zone.id)
    else zone.defaultStyle.declared
  zones_eq : overlay.zones = s.catalog.zones.map fun zone =>
    ⟨zone.id, snapshot.severity zone.id, (Overlay.shown s.options.palette snapshot zone).fill.toHex,
      (Overlay.shown s.options.palette snapshot zone).opacity⟩
  edits_eq : Overlay.edits s.options.palette s.catalog snapshot =
    (s.catalog.zones.filter fun zone => zone.id ∈ listed.map Prod.fst).map fun zone =>
      zone.geometry.restyle (Overlay.shown s.options.palette snapshot zone).text
  damaged_iff : ∀ zone, snapshot.isDamaged zone = true ↔ zone.id ∈ listed.map Prod.fst
  restyled : ∀ markers template, Catalog.load markers template = .ok s.catalog →
    Overlay.Restyled s.options.palette snapshot 0 template.toList s.catalog.zones overlay.document.toList
  undamaged_iff : listed = [] ↔ snapshot.isUndamaged = true
  document_eq : snapshot.isUndamaged = true → overlay.document = s.catalog.template

theorem agrees_statusLine {s : Service} (h : s.Sound) {vehicle : String} {state : State}
    (hg : s.vehicles.get? vehicle = some state) :
    Agrees s vehicle (statusLine vehicle state.snapshot) state.snapshot
      (.render s.options.palette s.catalog state.snapshot) (damagedZones state.snapshot) where
  snapshot_eq := Service.snapshot_of_get? hg
  overlay_eq := Service.overlay_of_get? hg
  line_eq := rfl
  revision_eq := rfl
  ascending := Snapshot.damagedZones_ascending _
  severity_eq e he := by
    rw [Snapshot.severity, (Snapshot.mem_damagedZones.1 he).1]
    rfl
  listed_iff _ := Snapshot.listed_iff (h.state hg).held _
  shown_eq zone := by
    rw [Overlay.shown, ZoneStyle.shown_of_inUnit _ _ ((h.state hg).inUnit_severity zone.id)]
    simp only [Snapshot.mem_ids_damagedZones]
  zones_eq := Overlay.zones_render (h.state hg).inUnit_severity
  edits_eq := Overlay.edits_eq_listed _ _ _
  damaged_iff _ := Snapshot.mem_ids_damagedZones.symm
  restyled _ _ hl := Overlay.restyled_render hl _ _
  undamaged_iff := (Snapshot.isUndamaged_iff (h.state hg).held).symm
  document_eq hu := by
    have hedits := Overlay.edits_eq_listed s.options.palette s.catalog state.snapshot
    rw [(Snapshot.isUndamaged_iff (h.state hg).held).1 hu] at hedits
    rw [Overlay.render, Overlay.document_of_edits_eq_nil (by simpa using hedits)]
    rfl

/-- In a service that any calls have led to, the status listing has a line for each tracked vehicle, in the order of the
bytes of their names, that lists the zones which the vehicle's overlay restyles. It lists none exactly if the vehicle's
snapshot is undamaged, and then the overlay is the template. The catalog is one that the service was given, so it is
loaded if those are. -/
theorem status_agrees (catalog : Catalog) (options : Options) (operations : List Operation) (workers : Nat) :
    let s := (Service.new catalog options).run operations
    (s.catalog = catalog ∨ .reload s.catalog ∈ operations) ∧
    (∀ vehicle, vehicle ∈ s.tracked ↔ s.isTracked vehicle = true) ∧
    s.tracked.Pairwise (fun vehicle other => utf8 vehicle.toList < utf8 other.toList) ∧
    ∃ lines, execute workers s .status = (.printing (statusHead s :: lines), s) ∧
      List.Forall₂ (fun vehicle line => ∃ snapshot overlay listed, Agrees s vehicle line snapshot overlay listed)
        s.tracked lines := by
  intro s
  have h : s.Sound := (Service.sound_new catalog options).run operations
  have hg : ∀ e ∈ s.vehicles.entries, s.vehicles.get? e.1 = some e.2 := fun e he => SortedMap.get?_of_mem he
  refine ⟨Service.catalog_run _ operations, fun vehicle => ?_, ?_, _, rfl, ?_⟩
  · rw [Service.isTracked_eq, Option.isSome_iff_exists, Service.tracked, SortedMap.keys, List.mem_map]
    constructor
    · rintro ⟨e, he, rfl⟩
      exact ⟨e.2, hg e he⟩
    · rintro ⟨state, hs⟩
      exact ⟨_, SortedMap.mem_of_get? hs, rfl⟩
  · rw [Service.tracked, SortedMap.keys, List.pairwise_map]
    exact s.vehicles.sorted.imp utf8_lt_iff.2
  · rw [Service.tracked, SortedMap.keys, List.forall₂_map_left_iff, List.forall₂_map_right_iff, List.forall₂_same]
    exact fun e he => ⟨_, _, _, agrees_statusLine h (hg e he)⟩

end Console

end VehicleDamage
