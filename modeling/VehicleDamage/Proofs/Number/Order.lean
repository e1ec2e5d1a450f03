import VehicleDamage.State

/-!
The order of binary32 numbers by their places on the line, and severities held to the unit interval.
-/

namespace VehicleDamage.Binary32

attribute [local instance (high)] instPowNat

/-- A number, not a NaN, from zero to one. -/
structure InUnit (x : Binary32) : Prop where
  isNaN_eq : x.isNaN = false
  zero_le : zero.le x = true
  le_one : x.le one = true

theorem place?_zero : zero.place? = some 0 := rfl

theorem place?_one : one.place? = some (2 ^ (149 : Nat)) := by decide +kernel

theorem le_iff {x y : Binary32} {a b : Int} (hx : x.place? = some a) (hy : y.place? = some b) :
    x.le y = true ↔ a ≤ b := by
  simp [le, hx, hy]

theorem lt_iff {x y : Binary32} {a b : Int} (hx : x.place? = some a) (hy : y.place? = some b) :
    x.lt y = true ↔ a < b := by
  simp [lt, hx, hy]

theorem exists_place {x : Binary32} (h : x.isNaN = false) : ∃ a, x.place? = some a := by
  cases x with
  | nan => cases h
  | infinite s => exact ⟨_, rfl⟩
  | finite s a => exact ⟨_, rfl⟩

theorem isNaN_eq_false_of_place {x : Binary32} {a : Int} (h : x.place? = some a) : x.isNaN = false := by
  cases x with
  | nan => cases h
  | infinite | finite => rfl

theorem places_of_le {x y : Binary32} (h : x.le y = true) :
    ∃ a b, x.place? = some a ∧ y.place? = some b ∧ a ≤ b := by
  rw [le] at h
  split at h
  · next a b hx hy => exact ⟨a, b, hx, hy, of_decide_eq_true h⟩
  · cases h

theorem places_of_lt {x y : Binary32} (h : x.lt y = true) :
    ∃ a b, x.place? = some a ∧ y.place? = some b ∧ a < b := by
  rw [lt] at h
  split at h
  · next a b hx hy => exact ⟨a, b, hx, hy, of_decide_eq_true h⟩
  · cases h

theorem le_of_lt {x y : Binary32} (h : x.lt y = true) : x.le y = true := by
  obtain ⟨a, b, hx, hy, hab⟩ := places_of_lt h
  exact (le_iff hx hy).2 (Int.le_of_lt hab)

theorem le_trans {x y z : Binary32} (h : x.le y = true) (h' : y.le z = true) : x.le z = true := by
  obtain ⟨a, b, hx, hy, hab⟩ := places_of_le h
  obtain ⟨b', d, hy', hz, hbd⟩ := places_of_le h'
  obtain rfl := Option.some.inj (hy.symm.trans hy')
  exact (le_iff hx hz).2 (Int.le_trans hab hbd)

theorem not_lt_of_le {x y : Binary32} (h : x.le y = true) : ¬y.lt x = true := by
  obtain ⟨a, b, hx, hy, hab⟩ := places_of_le h
  rw [lt_iff hy hx]
  omega

/-- Of two numbers one is less or the other is at most that one. -/
theorem lt_eq_false_iff {x y : Binary32} (hx : x.isNaN = false) (hy : y.isNaN = false) :
    x.lt y = false ↔ y.le x = true := by
  obtain ⟨a, ha⟩ := exists_place hx
  obtain ⟨b, hb⟩ := exists_place hy
  rw [← Bool.not_eq_true, lt_iff ha hb, le_iff hb ha, Int.not_lt]

/-- A number that is held between bounds in order lies between them. -/
theorem clamp_within {x low high : Binary32} (hx : x.isNaN = false) (h : low.le high = true) :
    low.le (x.clamp low high) = true ∧ (x.clamp low high).le high = true := by
  obtain ⟨a, b, hlow, hhigh, hab⟩ := places_of_le h
  obtain ⟨p, hp⟩ := exists_place hx
  rw [clamp]
  split
  · exact ⟨(le_iff hlow hlow).2 (Int.le_refl a), h⟩
  · next hl =>
    rw [lt_iff hp hlow] at hl
    split
    · exact ⟨h, (le_iff hhigh hhigh).2 (Int.le_refl b)⟩
    · next hh =>
      rw [lt_iff hhigh hp] at hh
      exact ⟨(le_iff hlow hp).2 (by omega), (le_iff hp hhigh).2 (by omega)⟩

/-- The infinities stand outside of all finite numbers. -/
theorem isFinite_of_between {x low high : Binary32} (hl : low.isFinite = true) (hh : high.isFinite = true)
    (hlow : low.le x = true) (hhigh : x.le high = true) : x.isFinite = true := by
  cases low with
  | nan | infinite => cases hl
  | finite s a =>
      cases high with
      | nan | infinite => cases hh
      | finite t b =>
          have ha := a.below_limit
          have hb := b.below_limit
          cases x with
          | nan => cases hlow
          | finite => rfl
          | infinite u =>
              rw [le_iff rfl rfl] at hlow hhigh
              cases s <;> cases t <;> cases u <;>
                simp only [signed, if_true, Bool.false_eq_true, if_false] at hlow hhigh <;>
                omega

theorem signed_not (s : Bool) (n : Nat) : signed (!s) n = -signed s n := by
  cases s <;> simp [signed]

theorem place?_neg (x : Binary32) : (-x).place? = x.place?.map fun a => -a := by
  cases x with
  | nan => rfl
  | infinite s => exact congrArg some (signed_not s _)
  | finite s a => exact congrArg some (signed_not s a.quanta)

theorem inUnit_iff {x : Binary32} {a : Int} (h : x.place? = some a) : x.InUnit ↔ 0 ≤ a ∧ a ≤ 2 ^ (149 : Nat) := by
  rw [← le_iff place?_zero h, ← le_iff h place?_one]
  exact ⟨fun hu => ⟨hu.zero_le, hu.le_one⟩, fun hu => ⟨isNaN_eq_false_of_place h, hu.1, hu.2⟩⟩

theorem inUnit_zero : zero.InUnit := (inUnit_iff place?_zero).2 (by decide)

theorem inUnit_one : one.InUnit := (inUnit_iff place?_one).2 (by decide)

/-- Clamping holds every number to the unit interval; only a NaN stays outside. -/
theorem inUnit_clampSeverity {x : Binary32} (h : x.isNaN = false) : (clampSeverity x).InUnit := by
  obtain ⟨a, ha⟩ := exists_place h
  rw [clampSeverity, clamp]
  split
  · exact inUnit_zero
  · next hlow =>
    rw [lt_iff ha place?_zero] at hlow
    split
    · exact inUnit_one
    · next hhigh =>
      rw [lt_iff place?_one ha] at hhigh
      exact (inUnit_iff ha).2 ⟨by omega, by omega⟩

theorem clampSeverity_le_zero {x : Binary32} (h : x.isNaN = false) :
    (clampSeverity x).le zero = !zero.lt x := by
  obtain ⟨a, ha⟩ := exists_place h
  rw [Bool.eq_iff_iff, Bool.not_eq_true', ← Bool.not_eq_true, lt_iff place?_zero ha]
  rw [clampSeverity, clamp]
  split
  · next hlow =>
    rw [lt_iff ha place?_zero] at hlow
    exact iff_of_true rfl (by omega)
  · split
    · next hhigh =>
      rw [lt_iff place?_one ha] at hhigh
      rw [le_iff place?_one place?_zero]
      omega
    · rw [le_iff ha place?_zero]
      omega

theorem isNaN_ofQuotient (s : Bool) (num den : Nat) : (ofQuotient s num den).isNaN = false := by
  rw [ofQuotient]
  split <;> rfl

theorem isNaN_eq_false_of_isFinite {x : Binary32} (h : x.isFinite = true) : x.isNaN = false := by
  cases x with
  | nan => cases h
  | infinite | finite => rfl

/-- Only two infinities can add up to a NaN. -/
theorem isNaN_add {x y : Binary32} (hx : x.isNaN = false) (hy : y.isFinite = true) :
    (x + y).isNaN = false := by
  show (x.add y).isNaN = false
  cases y with
  | nan | infinite => cases hy
  | finite t b =>
      cases x with
      | nan => cases hx
      | infinite s => rfl
      | finite s a =>
          simp only [add]
          split
          · rfl
          · exact isNaN_ofQuotient _ _ _

end VehicleDamage.Binary32

namespace VehicleDamage

open Binary32

theorem ApplyMode.inUnit_update (mode : ApplyMode) {current value : Binary32} (hc : current.isNaN = false)
    (hv : value.isFinite = true) : (mode.update current value).InUnit := by
  cases mode with
  | absolute => exact inUnit_clampSeverity (isNaN_eq_false_of_isFinite hv)
  | delta => exact inUnit_clampSeverity (isNaN_add hc hv)

end VehicleDamage
