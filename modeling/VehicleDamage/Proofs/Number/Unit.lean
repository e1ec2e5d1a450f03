import VehicleDamage.Colour
import VehicleDamage.Proofs.Number.Order
import VehicleDamage.Proofs.Number.Rounding

/-!
Numbers from zero to a bound, and the opacities mixed of them.
-/

namespace VehicleDamage

attribute [local instance (high)] instPowNat

namespace Binary32

open BinaryFormat (single)

/-- A number from zero to `bound` quanta; zero may have either sign. -/
def IsUpTo (x : Binary32) (bound : Nat) : Prop :=
  ∃ s a, x = finite s a ∧ a.quanta ≤ bound ∧ (s = true → a.quanta = 0)

theorem inUnit_iff_isUpTo {x : Binary32} : x.InUnit ↔ x.IsUpTo single.unit := by
  constructor
  · intro h
    obtain ⟨p, hp⟩ := exists_place h.isNaN_eq
    obtain ⟨hlo, hhi⟩ := (inUnit_iff hp).1 h
    cases x with
    | nan => cases hp
    | infinite s =>
        cases s with
        | true => cases h.zero_le
        | false => cases h.le_one
    | finite s a =>
        cases hp
        refine ⟨s, a, rfl, ?_, ?_⟩
        · cases s with
          | false =>
              have hle : (a.quanta : Int) ≤ ((2 ^ 149 : Nat) : Int) := by simpa [signed] using hhi
              exact Int.ofNat_le.1 hle
          | true =>
              simp only [signed, if_true] at hlo
              have h0 : a.quanta = 0 := by omega
              rw [h0]
              exact Nat.zero_le _
        · rintro rfl
          simp only [signed, if_true] at hlo
          omega
  · rintro ⟨s, a, rfl, hle, hs⟩
    refine (inUnit_iff rfl).2 ?_
    cases s with
    | false =>
        refine ⟨Int.natCast_nonneg _, ?_⟩
        have hle' : (a.quanta : Int) ≤ ((2 ^ 149 : Nat) : Int) := Int.ofNat_le.2 hle
        simpa [signed] using hle'
    | true =>
        rw [signed, if_pos rfl, hs rfl]
        decide

theorem isUpTo_ofQuotient {s : Bool} {num den bound : Nat} (hb : HasBits single.bits bound)
    (hl : bound < single.limit) (h : num ≤ bound * den) (hs : s = true → num = 0) :
    (ofQuotient s num den).IsUpTo bound := by
  have hr : single.round num den ≤ bound := roundToBits_le (by decide) hb h
  rw [ofQuotient, dif_pos (Nat.lt_of_le_of_lt hr hl)]
  refine ⟨s, _, rfl, hr, fun ht => ?_⟩
  have h0 : HasBits single.bits 0 := ⟨0, 0, Nat.zero_le _, rfl⟩
  exact Nat.le_zero.1 (roundToBits_le (by decide) h0 (by rw [hs ht]; exact Nat.zero_le _))

theorem hasBits_units {n : Nat} (hn : n ≤ 1000) : HasBits single.bits (n * single.unit) :=
  ⟨n, 149, Nat.le_trans hn (by decide), rfl⟩

theorem units_lt_limit {n : Nat} (hn : n ≤ 1000) : n * single.unit < single.limit := by
  rw [BinaryFormat.limit_single]
  exact Nat.mul_lt_mul_of_pos_right (Nat.lt_of_le_of_lt hn (by decide)) (Nat.two_pow_pos _)

theorem isUpTo_units {s : Bool} {num den n : Nat} (hn : n ≤ 1000) (h : num ≤ n * single.unit * den)
    (hs : s = true → num = 0) : (ofQuotient s num den).IsUpTo (n * single.unit) :=
  isUpTo_ofQuotient (hasBits_units hn) (units_lt_limit hn) h hs

theorem finite_mul_finite (s t : Bool) (a b : Magnitude) :
    finite s a * finite t b = ofQuotient (s != t) (a.quanta * b.quanta) single.unit := by
  simp only [HMul.hMul, Mul.mul, mul]

theorem finite_div_finite {b : Magnitude} (hb : b.quanta ≠ 0) (s t : Bool) (a : Magnitude) :
    finite s a / finite t b = ofQuotient (s != t) (a.quanta * single.unit) b.quanta := by
  simp only [HDiv.hDiv, Div.div, div, if_neg hb]

/-- A number of the unit interval in thousandths. -/
theorem isUpTo_thousandths {x : Binary32} (h : x.IsUpTo single.unit) :
    ((x * .ofNat 1000).roundToInteger / .ofNat 1000).IsUpTo single.unit := by
  have hpos : 0 < single.unit := Nat.two_pow_pos _
  obtain ⟨b, hb, hq⟩ : ∃ b : Magnitude, ofNat 1000 = finite false b ∧ b.quanta = 1000 * single.unit := by
    have hr : single.round (1000 * single.unit * 1) 1 = 1000 * single.unit :=
      roundToBits_eq (by decide) Nat.one_pos (hasBits_units (Nat.le_refl 1000))
    exact ⟨⟨_, hasBits_units (Nat.le_refl 1000), units_lt_limit (Nat.le_refl 1000)⟩, ofQuotient_eq hr false, rfl⟩
  obtain ⟨s, a, rfl, ha, hs⟩ := h
  have hmul : (finite s a * ofNat 1000).IsUpTo (1000 * single.unit) := by
    rw [hb, finite_mul_finite]
    refine isUpTo_units (Nat.le_refl _) ?_ fun ht => ?_
    · rw [hq, Nat.mul_comm]
      exact Nat.mul_le_mul_left _ ha
    · rw [hs (by simpa using ht), Nat.zero_mul]
  obtain ⟨s', a', he, ha', hs'⟩ := hmul
  rw [he]
  have hround : (finite s' a').roundToInteger.IsUpTo (1000 * single.unit) := by
    refine isUpTo_units (Nat.le_refl _) ?_ fun ht => ?_
    · rw [Nat.mul_one]
      refine Nat.mul_le_mul_right _ (Nat.le_of_lt_succ (Nat.div_lt_of_lt_mul ?_))
      omega
    · rw [hs' ht, Nat.mul_zero, Nat.zero_add, Nat.div_eq_of_lt (by omega), Nat.zero_mul]
  obtain ⟨s'', a'', he', ha'', hs''⟩ := hround
  rw [he', hb, finite_div_finite (by rw [hq]; omega)]
  have h1 : (ofQuotient (s'' != false) (a''.quanta * single.unit) b.quanta).IsUpTo (1 * single.unit) := by
    refine isUpTo_units (by decide) ?_ fun ht => ?_
    · rw [hq, Nat.one_mul, Nat.mul_comm]
      exact Nat.mul_le_mul_left _ ha''
    · rw [hs'' (by simpa using ht), Nat.zero_mul]
  rwa [Nat.one_mul] at h1

/-- Clamping leaves the numbers of the unit interval, with the sign of a zero. -/
theorem InUnit.clamp_eq {x : Binary32} (h : x.InUnit) : x.clamp .zero .one = x := by
  obtain ⟨p, hp⟩ := exists_place h.isNaN_eq
  obtain ⟨hlo, hhi⟩ := (inUnit_iff hp).1 h
  have hl : ¬x.lt .zero = true := by
    rw [lt_iff hp place?_zero]
    omega
  have hh : ¬one.lt x = true := by
    rw [lt_iff place?_one hp]
    omega
  rw [clamp, if_neg hl, if_neg hh]

theorem InUnit.isFinite {x : Binary32} (h : x.InUnit) : x.isFinite = true := by
  obtain ⟨s, a, rfl, -⟩ := inUnit_iff_isUpTo.1 h
  rfl

theorem isNaN_sub {x y : Binary32} (hx : x.isFinite = true) (hy : y.isFinite = true) : (x - y).isNaN = false := by
  have hn : y.neg.isFinite = true := by
    cases y with
    | nan | infinite => cases hy
    | finite => rfl
  exact isNaN_add (isNaN_eq_false_of_isFinite hx) hn

/-- A product with a finite factor other than zero is a number. -/
theorem isNaN_mul {x : Binary32} (hx : x.isNaN = false) {s : Bool} {a : Magnitude} (ha : a.quanta ≠ 0) :
    (x * finite s a).isNaN = false := by
  show (x.mul (finite s a)).isNaN = false
  cases x with
  | nan => cases hx
  | infinite t =>
      rw [mul, if_neg ha]
      rfl
  | finite t b => exact isNaN_ofQuotient _ _ _

/-- A quotient by a finite number other than zero is a number. -/
theorem isNaN_div {x : Binary32} (hx : x.isNaN = false) {s : Bool} {a : Magnitude} (ha : a.quanta ≠ 0) :
    (x / finite s a).isNaN = false := by
  show (x.div (finite s a)).isNaN = false
  cases x with
  | nan => cases hx
  | infinite t => rfl
  | finite t b =>
      rw [div, if_neg ha]
      exact isNaN_ofQuotient _ _ _

theorem exists_of_pos {x : Binary32} (h : zero.lt x = true) (hf : x.isFinite = true) :
    ∃ s a, x = finite s a ∧ a.quanta ≠ 0 := by
  cases x with
  | nan | infinite => cases hf
  | finite s a =>
      refine ⟨s, a, rfl, fun h0 => ?_⟩
      rw [lt_iff place?_zero rfl, h0] at h
      cases s <;> cases h

theorem isNaN_finite_add {x y : Binary32} (hx : x.isFinite = true) (hy : y.isNaN = false) :
    (x + y).isNaN = false := by
  cases y with
  | nan => cases hy
  | infinite t =>
      cases x with
      | nan | infinite => cases hx
      | finite => rfl
  | finite t b => exact isNaN_add (isNaN_eq_false_of_isFinite hx) rfl

end Binary32

open Binary32

/-- The share that a positive number is, not zero. -/
theorem Colour.share_pos {t : Binary32} (h : Binary32.zero.lt t = true) :
    ∃ s a, share t = finite s a ∧ a.quanta ≠ 0 := by
  have hn : t.isNaN = false := by
    cases t with
    | nan => cases h
    | infinite | finite => rfl
  obtain ⟨p, hp⟩ := exists_place hn
  have hpos := (lt_iff place?_zero hp).1 h
  have hu := inUnit_clampSeverity hn
  obtain ⟨s, a, ha, -⟩ := inUnit_iff_isUpTo.1 hu
  refine ⟨s, a, by rwa [share, hn], fun h0 => ?_⟩
  have hle := clampSeverity_le_zero hn
  rw [h, ha, Bool.not_true] at hle
  have hz : (finite s a).le .zero = true := (le_iff rfl place?_zero).2 (by rw [h0]; cases s <;> decide)
  rw [hz] at hle
  cases hle

/-- An opacity mixed for a damaged zone lies in the unit interval. -/
theorem inUnit_mixOpacity {source target t : Binary32} (hs : source.InUnit) (ht : target.isFinite = true)
    (hp : Binary32.zero.lt t = true) : (mixOpacity source target t).InUnit := by
  obtain ⟨s, a, hshare, ha⟩ := Colour.share_pos hp
  have hproduct : ((target - source) * Colour.share t).isNaN = false := by
    rw [hshare]
    exact isNaN_mul (isNaN_sub ht hs.isFinite) ha
  have hvalue : (clampSeverity (source + (target - source) * Colour.share t)).InUnit :=
    inUnit_clampSeverity (isNaN_finite_add hs.isFinite hproduct)
  exact inUnit_iff_isUpTo.2 (isUpTo_thousandths (inUnit_iff_isUpTo.1 hvalue))

end VehicleDamage
