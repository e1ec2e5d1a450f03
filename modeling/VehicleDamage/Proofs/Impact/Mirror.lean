import VehicleDamage.Proofs.Impact.Classes
import VehicleDamage.Proofs.Tag.Meaning

/-!
Impacts seen in a mirror. What is to the left of a vehicle is to its right in one mirror, and what is in front of it
behind it in another; the zones that an impact hits are exchanged with it, and its height changes nothing.
-/

namespace VehicleDamage

open Text

/-- Two words exchanged in a name of words with hyphens between them. -/
def exchange (a b name : String) : String :=
  "-".intercalate (((splitWhere (· == '-') name.toList).map String.ofList).map fun word =>
    if word = a then b else if word = b then a else word)

namespace Binary32

theorem isFinite_neg (x : Binary32) : (-x).isFinite = x.isFinite := by
  cases x <;> rfl

theorem hypot_neg_left (x y : Binary32) : (-x).hypot y = x.hypot y := by
  cases x <;> cases y <;> rfl

theorem hypot_neg_right (x y : Binary32) : x.hypot (-y) = x.hypot y := by
  cases x <;> cases y <;> rfl

theorem foldedAngle_neg_left (x y : Binary32) : (-x).foldedAngle y = x.foldedAngle y := by
  cases x <;> cases y <;> rfl

theorem foldedAngle_neg_right (x y : Binary32) : x.foldedAngle (-y) = x.foldedAngle y := by
  cases x <;> cases y <;> rfl

/-- On one side of zero. -/
def IsOffZero (x : Binary32) : Prop :=
  x.lt zero = true ∨ zero.lt x = true

/-- The opposite of a number off zero is on the other side. -/
theorem zero_le_neg {x : Binary32} (h : x.IsOffZero) : zero.le (-x) = !zero.le x := by
  rcases h with h | h
  all_goals
    obtain ⟨a, b, ha, hb, hab⟩ := places_of_lt h
  · obtain rfl := Option.some.inj (place?_zero.symm.trans hb)
    have hneg : (-x).place? = some (-a) := by rw [place?_neg, ha]; rfl
    rw [Bool.eq_iff_iff, Bool.not_eq_true', ← Bool.not_eq_true, le_iff place?_zero hneg, le_iff place?_zero ha]
    omega
  · obtain rfl := Option.some.inj (place?_zero.symm.trans ha)
    have hneg : (-x).place? = some (-b) := by rw [place?_neg, hb]; rfl
    rw [Bool.eq_iff_iff, Bool.not_eq_true', ← Bool.not_eq_true, le_iff place?_zero hneg, le_iff place?_zero hb]
    omega

end Binary32

namespace ImpactVector

open Binary32

variable (v : ImpactVector)

/-- Left and right exchanged. -/
def acrossLength : ImpactVector :=
  { v with x := -v.x }

/-- Front and rear exchanged. -/
def acrossWidth : ImpactVector :=
  { v with z := -v.z }

variable {v}

theorem sideName_acrossLength (h : v.x.IsOffZero) : v.acrossLength.sideName = exchange "left" "right" v.sideName := by
  rw [sideName, sideName, acrossLength, zero_le_neg h]
  cases zero.le v.x <;> decide

theorem endName_acrossWidth (h : v.z.IsOffZero) : v.acrossWidth.endName = exchange "front" "rear" v.endName := by
  rw [endName, endName, acrossWidth, zero_le_neg h]
  cases zero.le v.z <;> decide

theorem sideName_eq (v : ImpactVector) : v.sideName = "left" ∨ v.sideName = "right" := by
  rw [sideName]
  cases zero.le v.x <;> decide

theorem endName_eq (v : ImpactVector) : v.endName = "front" ∨ v.endName = "rear" := by
  rw [endName]
  cases zero.le v.z <;> decide

theorem bearing_acrossLength (v : ImpactVector) : v.acrossLength.bearing = v.bearing :=
  congrArg toDegrees (foldedAngle_neg_left v.x v.z)

theorem bearing_acrossWidth (v : ImpactVector) : v.acrossWidth.bearing = v.bearing :=
  congrArg toDegrees (foldedAngle_neg_right v.x v.z)

/-- The class of an impact is that of its bearing. -/
theorem classify_congr {w : ImpactVector} (c : ImpactConfig) (h : v.bearing = w.bearing) :
    v.classify c = w.classify c := by
  rw [classify, classify, h]

end ImpactVector

namespace ImpactClass

/-- The zones of an impact, with its side or its end exchanged. -/
theorem zoneNames_exchange (k : ImpactClass) (v : ImpactVector) :
    k.zoneNames (exchange "left" "right" v.sideName) v.endName =
        (k.zoneNames v.sideName v.endName).map (exchange "left" "right") ∧
      k.zoneNames v.sideName (exchange "front" "rear" v.endName) =
        (k.zoneNames v.sideName v.endName).map (exchange "front" "rear") := by
  rcases v.sideName_eq with hs | hs <;> rcases v.endName_eq with he | he <;> rw [hs, he] <;> cases k <;> decide

theorem zoneNames_subset (k : ImpactClass) (v : ImpactVector) :
    ∀ name ∈ k.zoneNames v.sideName v.endName, name ∈ Markers.referenceZones := by
  rcases v.sideName_eq with hs | hs <;> rcases v.endName_eq with he | he <;> rw [hs, he] <;> cases k <;> decide

end ImpactClass

namespace Resolver

/-- Over a catalog with the reference zones an impact hits all zones of its class. -/
theorem resolveImpact_eq_zoneNames {r : Resolver} (hc : r.catalog.IsSound)
    (hz : ∀ name ∈ Markers.referenceZones, name ∈ r.catalog.ids) {v : ImpactVector} (h : r.Reaches v) :
    r.resolveImpact v = (v.classify r.impact).zoneNames v.sideName v.endName := by
  have hnormal : ∀ name ∈ Markers.referenceZones, Tag.normalize name = name := by
    decide +kernel
  rw [resolveImpact_of_reaches h]
  refine (List.filterMap_congr fun name hname => ?_).trans List.filterMap_some
  have hmem := ImpactClass.zoneNames_subset _ v name hname
  have hfound := (zoneNamed?_eq_some hc).2 ⟨hz name hmem, rfl⟩
  rwa [hnormal name hmem] at hfound

/-- An impact that reaches the vehicle as far and at the same bearing as another hits what that hits, with the names
changed as those of its side and end are. -/
theorem resolveImpact_eq_map {r : Resolver} (hc : r.catalog.IsSound)
    (hz : ∀ name ∈ Markers.referenceZones, name ∈ r.catalog.ids) {v w : ImpactVector} {f : String → String}
    (hfinite : w.isFinite = v.isFinite) (hfar : w.planarMagnitude = v.planarMagnitude)
    (hbearing : w.bearing = v.bearing)
    (hnames : ∀ k : ImpactClass, k.zoneNames w.sideName w.endName = (k.zoneNames v.sideName v.endName).map f) :
    r.resolveImpact w = (r.resolveImpact v).map f := by
  have hreaches : r.Reaches w ↔ r.Reaches v := by rw [Reaches, Reaches, hfinite, hfar]
  by_cases hv : r.Reaches v
  · rw [resolveImpact_eq_zoneNames hc hz hv, resolveImpact_eq_zoneNames hc hz (hreaches.2 hv), hnames,
      ImpactVector.classify_congr _ hbearing]
  · rw [resolveImpact_of_not_reaches hv, resolveImpact_of_not_reaches (mt hreaches.1 hv)]
    rfl

theorem resolveImpact_height (r : Resolver) {v : ImpactVector} {y : Binary32} (hv : v.isFinite = true)
    (hy : y.isFinite = true) : r.resolveImpact { v with y } = r.resolveImpact v := by
  have hfinite : ImpactVector.isFinite { v with y } = v.isFinite := by
    rw [ImpactVector.isFinite, ImpactVector.isFinite] at *
    simp_all
  rw [resolveImpact, resolveImpact, hfinite]
  rfl

/-- Over a catalog with the reference zones an impact that comes from neither axis hits in a mirror what the mirror
shows of the zones it hits, and the same zones at any height. -/
theorem resolveImpact_mirrored {c : Catalog} {markers : Markers} {template : String}
    (h : Catalog.load markers template = .ok c) (hz : ∀ name ∈ Markers.referenceZones, name ∈ c.ids)
    (aliases : SortedMap (List String)) (impact : ImpactConfig) {v : ImpactVector} (hv : v.isFinite = true)
    (hside : v.x.IsOffZero) (hend : v.z.IsOffZero) :
    (ofCatalog c aliases impact).resolveImpact v.acrossLength =
        ((ofCatalog c aliases impact).resolveImpact v).map (exchange "left" "right") ∧
      (ofCatalog c aliases impact).resolveImpact v.acrossWidth =
        ((ofCatalog c aliases impact).resolveImpact v).map (exchange "front" "rear") ∧
      ∀ y : Binary32, y.isFinite = true →
        (ofCatalog c aliases impact).resolveImpact { v with y } = (ofCatalog c aliases impact).resolveImpact v := by
  have hc := Catalog.IsSound.of_load h
  refine ⟨resolveImpact_eq_map hc hz ?_ ?_ v.bearing_acrossLength fun k => ?_,
    resolveImpact_eq_map hc hz ?_ ?_ v.bearing_acrossWidth fun k => ?_, fun y hy => resolveImpact_height _ hv hy⟩
  · rw [ImpactVector.isFinite, ImpactVector.acrossLength, Binary32.isFinite_neg]
    rfl
  · exact Binary32.hypot_neg_left v.x v.z
  · rw [ImpactVector.sideName_acrossLength hside]
    exact (k.zoneNames_exchange v).1
  · rw [ImpactVector.isFinite, ImpactVector.acrossWidth, Binary32.isFinite_neg]
    rfl
  · exact Binary32.hypot_neg_right v.x v.z
  · rw [ImpactVector.endName_acrossWidth hend]
    exact (k.zoneNames_exchange v).2

/-- A corner that is hit in front on the right, and is shared with the bumper there. -/
theorem resolveImpact_mirrored_corner : ∃ c, Catalog.load .standard
    ("<svg>" ++ String.join (Markers.referenceZones.map fun name => "<p class='" ++ name ++ "'/>") ++ "</svg>") =
      .ok c ∧
      (ofCatalog c .empty Config.standard.impact).resolveImpact
          (ImpactVector.mk (.ofNat 2) .zero (.ofNat 3)).acrossLength = ["left-front-tyre", "front-bumper"] ∧
      (ofCatalog c .empty Config.standard.impact).resolveImpact
          (ImpactVector.mk (.ofNat 2) .zero (.ofNat 3)).acrossWidth = ["right-rear-tyre", "rear-bumper"] ∧
      (ofCatalog c .empty Config.standard.impact).resolveImpact ⟨.ofNat 2, .ofNat 9, .ofNat 3⟩ =
        ["right-front-tyre", "front-bumper"] := by
  have hloaded : (Catalog.load .standard ("<svg>" ++ String.join (Markers.referenceZones.map fun name =>
      "<p class='" ++ name ++ "'/>") ++ "</svg>")).toOption.map (fun c => (c.ids,
        (ofCatalog c .empty Config.standard.impact).resolveImpact ⟨.ofNat 2, .zero, .ofNat 3⟩)) =
          some (Markers.referenceZones, ["right-front-tyre", "front-bumper"]) := by
    decide +kernel
  obtain ⟨c, h, hc⟩ := ok_of_toOption hloaded
  obtain ⟨hids, hhit⟩ := Prod.mk.inj hc
  obtain ⟨hleft, hrear, hheight⟩ := resolveImpact_mirrored h (fun name hn => hids ▸ hn) .empty
    Config.standard.impact (v := ⟨.ofNat 2, .zero, .ofNat 3⟩) (by decide +kernel) (.inr (by decide +kernel))
    (.inr (by decide +kernel))
  have hnine := hheight (.ofNat 9) (by decide +kernel)
  rw [hhit] at hleft hrear hnine
  dsimp only at hnine
  exact ⟨c, h, hleft, hrear, hnine⟩

end Resolver

end VehicleDamage
