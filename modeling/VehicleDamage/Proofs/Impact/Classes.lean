import Mathlib.Logic.ExistsUnique
import VehicleDamage.Proofs.Json.Yields
import VehicleDamage.Proofs.Number.Unit
import VehicleDamage.Resolver

/-!
The classes of impacts. For every configuration that can be read the cones are in order, each bearing falls into one
class, and a greater bearing into no class nearer to the end of the vehicle.
-/

namespace VehicleDamage

open Json Binary32

/-- Clamping where bounds that are out of order, or not numbers, are refused. -/
def Binary32.clampWithin? (x low high : Binary32) : Option Binary32 :=
  if low.le high then some (x.clamp low high) else none

namespace ImpactConfig

/-- Cones and threshold as the classes need them, with no clamping refused on the way to them. -/
structure IsOrdered (c : ImpactConfig) : Prop where
  zero_le_bumper : zero.le c.bumperDegrees = true
  bumper_le_skirt : c.bumperDegrees.le c.skirtDegrees = true
  skirt_le_rightAngle : c.skirtDegrees.le rightAngle = true
  zero_le_threshold : zero.le c.threshold = true
  bumper_held : c.bumperCone.clampWithin? .zero rightAngle = some c.bumperDegrees
  skirt_held : c.skirtCone.clampWithin? c.bumperDegrees rightAngle = some c.skirtDegrees

/-- The bearing halfway between the cones. -/
def middleDegrees (c : ImpactConfig) : Binary32 :=
  (c.bumperDegrees + c.skirtDegrees) / .ofNat 2

variable {c : ImpactConfig}

theorem zero_le_rightAngle : zero.le rightAngle = true := by
  decide +kernel

theorem zero_le_threshold (c : ImpactConfig) : zero.le c.threshold = true := by
  rw [threshold, atLeastZero]
  split
  · next h => exact le_of_lt h
  · exact inUnit_zero.zero_le

/-- Cones that are numbers are put in order, whichever is given the greater. -/
theorem isOrdered (hb : c.bumperCone ≠ .nan) (hs : c.skirtCone ≠ .nan) : c.IsOrdered := by
  have hnumber {x : Binary32} (hx : x ≠ .nan) : x.isNaN = false := by
    cases x with
    | nan => exact absurd rfl hx
    | infinite | finite => rfl
  obtain ⟨hlow, hhigh⟩ := clamp_within (hnumber hb) zero_le_rightAngle
  obtain ⟨hbetween, hright⟩ := clamp_within (hnumber hs) hhigh
  exact {
    zero_le_bumper := hlow
    bumper_le_skirt := hbetween
    skirt_le_rightAngle := hright
    zero_le_threshold := c.zero_le_threshold
    bumper_held := if_pos zero_le_rightAngle
    skirt_held := if_pos hhigh }

theorem isFinite_rightAngle : rightAngle.isFinite = true := by
  decide +kernel

namespace IsOrdered

theorem isFinite_bumper (h : c.IsOrdered) : c.bumperDegrees.isFinite = true :=
  isFinite_of_between rfl isFinite_rightAngle h.zero_le_bumper (le_trans h.bumper_le_skirt h.skirt_le_rightAngle)

theorem isFinite_skirt (h : c.IsOrdered) : c.skirtDegrees.isFinite = true :=
  isFinite_of_between rfl isFinite_rightAngle (le_trans h.zero_le_bumper h.bumper_le_skirt) h.skirt_le_rightAngle

theorem isNaN_middle (h : c.IsOrdered) : c.middleDegrees.isNaN = false := by
  obtain ⟨s, a, htwo, ha⟩ := exists_of_pos (x := .ofNat 2) (by decide +kernel) (by decide +kernel)
  rw [middleDegrees, htwo]
  exact isNaN_div (isNaN_add (isNaN_eq_false_of_isFinite h.isFinite_bumper) h.isFinite_skirt) ha

end IsOrdered

end ImpactConfig

/-! ### Bearings -/

/-- A finite vector has a bearing. -/
theorem ImpactVector.isNaN_bearing {v : ImpactVector} (h : v.isFinite = true) : v.bearing.isNaN = false := by
  obtain ⟨s, a, hdegrees, ha⟩ := exists_of_pos (x := degreesPerRadian) (by decide +kernel) (by decide +kernel)
  obtain ⟨⟨hx, -⟩, hz⟩ : (v.x.isFinite = true ∧ v.y.isFinite = true) ∧ v.z.isFinite = true := by
    simpa [isFinite] using h
  rw [bearing, toDegrees, hdegrees]
  refine isNaN_mul ?_ ha
  cases hvx : v.x with
  | nan | infinite => rw [hvx] at hx; cases hx
  | finite s b =>
      cases hvz : v.z with
      | nan | infinite => rw [hvz] at hz; cases hz
      | finite t d =>
          rw [foldedAngle]
          split
          · rfl
          · exact isNaN_ofQuotient _ _ _

namespace ImpactClass

/-- From the end of the vehicle to its side. -/
def rank : ImpactClass → Nat
  | bumper => 0
  | tyreThenBumper => 1
  | tyreThenSkirt => 2
  | skirt => 3

/-- The bearings of a class. -/
def Spans (c : ImpactConfig) (bearing : Binary32) : ImpactClass → Prop
  | bumper => bearing.lt c.bumperDegrees = true
  | tyreThenBumper => c.bumperDegrees.le bearing = true ∧ bearing.le c.skirtDegrees = true ∧
      bearing.lt c.middleDegrees = true
  | tyreThenSkirt => c.bumperDegrees.le bearing = true ∧ bearing.le c.skirtDegrees = true ∧
      c.middleDegrees.le bearing = true
  | skirt => c.skirtDegrees.lt bearing = true

end ImpactClass

/-- The class of an impact is the one that its bearing falls into. -/
theorem ImpactVector.classify_eq_iff {c : ImpactConfig} (hc : c.IsOrdered) {v : ImpactVector}
    (hv : v.isFinite = true) {k : ImpactClass} : v.classify c = k ↔ k.Spans c v.bearing := by
  have hbearing := isNaN_bearing hv
  have hlow := lt_eq_false_iff hbearing (isNaN_eq_false_of_isFinite hc.isFinite_bumper)
  have hhigh := lt_eq_false_iff (isNaN_eq_false_of_isFinite hc.isFinite_skirt) hbearing
  have hmiddle := lt_eq_false_iff hbearing hc.isNaN_middle
  -- The cones are in order, so no bearing is both below the bumper's and past the skirt's.
  have hapart : v.bearing.lt c.bumperDegrees = true → c.skirtDegrees.lt v.bearing = false := fun h =>
    hhigh.2 (le_trans (le_of_lt h) hc.bumper_le_skirt)
  rw [classify, ← ImpactConfig.middleDegrees]
  cases hb : v.bearing.lt c.bumperDegrees <;> cases hs : c.skirtDegrees.lt v.bearing <;>
    cases hm : v.bearing.lt c.middleDegrees <;> cases k <;> simp_all [ImpactClass.Spans]

/-- A greater bearing falls into no class nearer to the end of the vehicle. -/
theorem ImpactClass.Spans.rank_le {c : ImpactConfig} (hc : c.IsOrdered) {k l : ImpactClass} {x y : Binary32}
    (hk : k.Spans c x) (hl : l.Spans c y) (h : x.le y = true) : k.rank ≤ l.rank := by
  have hbelow (hy : y.le c.skirtDegrees = true) : k ≠ .skirt := by
    rintro rfl
    exact not_lt_of_le (le_trans h hy) hk
  cases l with
  | skirt => cases k <;> decide
  | tyreThenSkirt =>
      cases k with
      | skirt => exact absurd rfl (hbelow hl.2.1)
      | bumper | tyreThenBumper | tyreThenSkirt => decide
  | tyreThenBumper =>
      cases k with
      | skirt => exact absurd rfl (hbelow hl.2.1)
      | tyreThenSkirt => exact absurd hl.2.2 (not_lt_of_le (le_trans hk.2.2 h))
      | bumper | tyreThenBumper => decide
  | bumper =>
      cases k with
      | skirt => exact absurd rfl (hbelow (le_trans (le_of_lt hl) hc.bumper_le_skirt))
      | tyreThenBumper | tyreThenSkirt => exact absurd hl (not_lt_of_le (le_trans hk.1 h))
      | bumper => decide

/-! ### Impacts -/

namespace Resolver

/-- An impact that is finite and not too short. -/
def Reaches (r : Resolver) (v : ImpactVector) : Prop :=
  v.isFinite = true ∧ v.planarMagnitude.lt r.impact.threshold = false

/-- An impact of a class: its bearing falls into the class, and it hits the zones of the class on its side and end of
the vehicle. -/
def Hits (r : Resolver) (v : ImpactVector) (k : ImpactClass) : Prop :=
  k.Spans r.impact v.bearing ∧
    r.resolveImpact v = (k.zoneNames v.sideName v.endName).filterMap (zoneNamed? r.catalog)

theorem resolveImpact_of_reaches {r : Resolver} {v : ImpactVector} (h : r.Reaches v) : r.resolveImpact v =
    ((v.classify r.impact).zoneNames v.sideName v.endName).filterMap (zoneNamed? r.catalog) := by
  obtain ⟨hf, hm⟩ := h
  rw [resolveImpact]
  exact if_neg (by simp [hf, hm])

theorem resolveImpact_of_not_reaches {r : Resolver} {v : ImpactVector} (h : ¬r.Reaches v) : r.resolveImpact v = [] := by
  rw [resolveImpact]
  refine if_pos ?_
  cases hf : v.isFinite with
  | false => rfl
  | true => simpa [Reaches, hf] using h

/-- An impact that reaches the vehicle is of one class. -/
theorem existsUnique_hits {r : Resolver} (hc : r.impact.IsOrdered) {v : ImpactVector} (h : r.Reaches v) :
    ∃! k, r.Hits v k := by
  have hspans := fun k => ImpactVector.classify_eq_iff hc h.1 (k := k)
  refine ⟨v.classify r.impact, ⟨(hspans _).1 rfl, resolveImpact_of_reaches h⟩, fun k hk => ?_⟩
  exact ((hspans k).2 hk.1).symm

end Resolver

/-! ### Documents -/

/-- No number in a document is a NaN. -/
theorem ImpactConfig.yields : Reader.Yields (Reader.record Config.impactShape) fun c =>
    c.bumperCone ≠ .nan ∧ c.skirtCone ≠ .nan := by
  refine Reader.yields_record (fun f hf => ?_) (by decide +kernel)
  simp only [Config.impactShape, List.mem_cons, List.not_mem_nil, or_false] at hf
  rcases hf with rfl | rfl | rfl
  · exact Reader.yields_binary32.map fun x hx c ⟨_, hs⟩ => ⟨hx, hs⟩
  · exact Reader.yields_binary32.map fun x hx c ⟨hb, _⟩ => ⟨hb, hx⟩
  · exact (Reader.yields_true Reader.binary32).map fun x _ c hc => hc

namespace Config

/-- Only the section about impacts says anything about them. -/
theorem yields : Reader.Yields (Reader.record shape) fun c =>
    c.impact.bumperCone ≠ .nan ∧ c.impact.skirtCone ≠ .nan := by
  refine Reader.yields_record (fun f hf => ?_) (by decide +kernel)
  simp only [shape, List.mem_cons, List.not_mem_nil, or_false] at hf
  rcases hf with rfl | rfl | rfl | rfl | rfl | rfl | rfl | rfl
  · exact (Reader.yields_true (Reader.record registrationShape)).map fun _ _ c hc => hc
  · exact (Reader.yields_true (Reader.record unknownTagsShape)).map fun _ _ c hc => hc
  · exact (Reader.yields_true (Reader.record markersShape)).map fun _ _ c hc => hc
  · exact (Reader.yields_true (Reader.map (Reader.list Reader.text))).map fun _ _ c hc => hc
  · exact ImpactConfig.yields.map fun impact hi c _ => hi
  · exact (Reader.yields_true (Reader.record paletteShape)).map fun _ _ c hc => hc
  · exact (Reader.yields_true (Reader.record ingestShape)).map fun _ _ c hc => hc
  · exact (Reader.yields_true (Reader.optional (Reader.textOf "path string"))).map fun _ _ c hc => hc

theorem isOrdered_of_parse {text : String} {config : Config} (h : parse text = .ok config) : config.impact.IsOrdered :=
  ImpactConfig.isOrdered (of_read_eq_ok yields h).1 (of_read_eq_ok yields h).2

/-- Whatever cones a document gives, impacts are classed by them in order: the cones are held to a quarter turn with no
clamping refused, an impact that reaches the vehicle is of exactly one class, and one of a greater bearing of no class
nearer to the end. What is not finite or too short hits nothing. -/
theorem impacts_classed {text : String} {config : Config} (h : parse text = .ok config) :
    config.impact.IsOrdered ∧ ∀ r : Resolver, r.impact = config.impact →
      (∀ v, r.Reaches v → ∃! k, r.Hits v k) ∧ (∀ v, ¬r.Reaches v → r.resolveImpact v = []) ∧
      ∀ v w k l, r.Hits v k → r.Hits w l → v.bearing.le w.bearing = true → k.rank ≤ l.rank := by
  have hc := isOrdered_of_parse h
  refine ⟨hc, fun r hr => ?_⟩
  rw [← hr] at hc
  exact ⟨fun v hv => Resolver.existsUnique_hits hc hv, fun v hv => Resolver.resolveImpact_of_not_reaches hv,
    fun v w k l hk hl hle => hk.1.rank_le hc hl.1 hle⟩

/-- Cones given the wrong way round, an impact to the front and one to the side. -/
theorem impacts_classed_swapped : ∃ config c, parse
    "\x7b\"impact\": \x7b\"bumper_cone_degrees\": 60, \"skirt_cone_degrees\": 20\x7d\x7d" = .ok config ∧
      Catalog.load .standard "<svg><a data-zone='front-bumper'/><b data-zone='right-skirt'/></svg>" = .ok c ∧
      config.impact.IsOrdered ∧
      ∃ k l, (Resolver.ofCatalog c .empty config.impact).Hits ⟨.ofNat 1, .zero, .ofNat 2⟩ k ∧
        (Resolver.ofCatalog c .empty config.impact).Hits ⟨.ofNat 2, .zero, .ofNat 1⟩ l ∧ k.rank ≤ l.rank := by
  let impact : ImpactConfig := ⟨.ofNat 60, .ofNat 20, standard.impact.minMagnitude⟩
  have hparse : parse "\x7b\"impact\": \x7b\"bumper_cone_degrees\": 60, \"skirt_cone_degrees\": 20\x7d\x7d" =
      .ok { standard with impact } := by
    decide +kernel
  have hload : (Catalog.load .standard
      "<svg><a data-zone='front-bumper'/><b data-zone='right-skirt'/></svg>").isOk = true := by
    decide +kernel
  have hv : (ImpactVector.mk (.ofNat 1) .zero (.ofNat 2)).isFinite = true ∧
      (ImpactVector.mk (.ofNat 1) .zero (.ofNat 2)).planarMagnitude.lt impact.threshold = false := by
    decide +kernel
  have hw : (ImpactVector.mk (.ofNat 2) .zero (.ofNat 1)).isFinite = true ∧
      (ImpactVector.mk (.ofNat 2) .zero (.ofNat 1)).planarMagnitude.lt impact.threshold = false := by
    decide +kernel
  cases hc : Catalog.load .standard "<svg><a data-zone='front-bumper'/><b data-zone='right-skirt'/></svg>" with
  | error fault =>
      rw [hc] at hload
      cases hload
  | ok c =>
      obtain ⟨hordered, hr⟩ := impacts_classed hparse
      obtain ⟨hone, -, hrank⟩ := hr (.ofCatalog c .empty impact) rfl
      obtain ⟨k, hk, -⟩ := hone _ hv
      obtain ⟨l, hl, -⟩ := hone _ hw
      exact ⟨_, c, hparse, rfl, hordered, k, l, hk, hl, hrank _ _ k l hk hl (by decide +kernel)⟩

end Config

end VehicleDamage
