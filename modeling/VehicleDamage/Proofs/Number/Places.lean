import VehicleDamage.Proofs.Number.Unit

/-!
The places of results on the line. Sums, differences and products are their exact results, rounded, and rounding is
monotone: where exact results are in order, so are the numbers nearest to them.
-/

namespace VehicleDamage

attribute [local instance (high)] instPowNat

theorem roundHalfEven_mono {num num' : Nat} (den : Nat) (h : num ≤ num') :
    roundHalfEven num den ≤ roundHalfEven num' den := by
  rcases Nat.eq_zero_or_pos den with rfl | hd
  · simp only [roundHalfEven, Nat.mod_zero, Nat.div_zero]
    grind
  · rcases Nat.eq_or_lt_of_le (Nat.div_le_div_right (c := den) h) with hq | hq
    · -- One quotient: the remainders are in order.
      have hm := Nat.div_add_mod num den
      have hm' := Nat.div_add_mod num' den
      rw [roundHalfEven, roundHalfEven]
      grind
    · -- The quotients are apart, and no number is rounded up past the next one.
      calc roundHalfEven num den ≤ num / den + 1 := roundHalfEven_le_succ num den
        _ ≤ num' / den := hq
        _ ≤ roundHalfEven num' den := le_roundHalfEven hd (Nat.div_mul_le_self num' den)

theorem roundToBits_mono {bits num num' den : Nat} (hb : 0 < bits) (hd : 0 < den) (h : num ≤ num') :
    roundToBits bits num den ≤ roundToBits bits num' den := by
  have hquotient : num / den ≤ num' / den := Nat.div_le_div_right h
  rcases Nat.lt_or_ge (num / den).log2 (num' / den).log2 with hlog | hlog
  · -- A power of two lies between the quotients, and is a number of the format.
    have hpow : HasBits bits (2 ^ (num' / den).log2) := ⟨1, _, Nat.one_le_two_pow, (Nat.one_mul _).symm⟩
    have hne : num' / den ≠ 0 := fun h0 => by
      rw [h0, Nat.log2_zero] at hlog
      exact Nat.not_lt_zero _ hlog
    have hlow : num ≤ 2 ^ (num' / den).log2 * den := by
      have hlt : num / den < 2 ^ (num' / den).log2 :=
        Nat.lt_of_lt_of_le Nat.lt_log2_self (Nat.pow_le_pow_right (by decide) hlog)
      exact Nat.le_of_lt ((Nat.div_lt_iff_lt_mul hd).1 hlt)
    have hhigh : 2 ^ (num' / den).log2 * den ≤ num' := (Nat.le_div_iff_mul_le hd).1 (Nat.log2_self_le hne)
    exact Nat.le_trans (roundToBits_le hb hpow hlow) (le_roundToBits hb hd hpow hhigh)
  · -- One grid for both.
    have hlog' : (num / den).log2 ≤ (num' / den).log2 := by
      rcases Nat.eq_zero_or_pos (num / den) with h0 | hpos
      · rw [h0, Nat.log2_zero]
        exact Nat.zero_le _
      · have hle : 2 ^ (num / den).log2 ≤ num' / den :=
          Nat.le_trans (Nat.log2_self_le (Nat.ne_of_gt hpos)) hquotient
        exact (Nat.le_log2 (Nat.ne_of_gt (Nat.lt_of_lt_of_le hpos hquotient))).2 hle
    have hs : surplusBits bits num den = surplusBits bits num' den := by
      rw [surplusBits, surplusBits, Nat.le_antisymm hlog' hlog]
    rw [roundToBits, roundToBits, hs]
    exact Nat.mul_le_mul_right _ (roundHalfEven_mono _ h)

namespace Binary32

open BinaryFormat (single)

/-- The place of the number nearest to `num / den` quanta. -/
def nearest (num : Int) (den : Nat) : Int :=
  signed (decide (num < 0)) (min (single.round num.natAbs den) single.limit)

theorem signed_natAbs (a : Int) : signed (decide (a < 0)) a.natAbs = a := by
  by_cases h : a < 0
  · simp only [signed, h, decide_true, if_true]
    omega
  · simp only [signed, h, decide_false, Bool.false_eq_true, if_false]
    omega

theorem natAbs_signed (s : Bool) (n : Nat) : (signed s n).natAbs = n := by
  cases s <;> simp [signed]

theorem signed_lt_zero {s : Bool} {n : Nat} (hn : n ≠ 0) : decide (signed s n < 0) = s := by
  cases s with
  | false => exact decide_eq_false (Int.not_lt.2 (Int.natCast_nonneg n))
  | true =>
      simp only [signed, if_true, decide_eq_true_eq]
      omega

theorem signed_mul (s t : Bool) (m n : Nat) : signed s m * signed t n = signed (s != t) (m * n) := by
  cases s <;> cases t <;> simp only [signed, bne_self_eq_false, Bool.bne_true, Bool.bne_false, Bool.not_false,
    Bool.false_eq_true, if_true, if_false, Int.natCast_mul, Int.neg_mul, Int.mul_neg, Int.neg_neg]

theorem single_round_zero (den : Nat) : single.round 0 den = 0 :=
  Nat.le_zero.1 (roundToBits_le (by decide) ⟨0, 0, Nat.zero_le _, rfl⟩ (Nat.zero_le _))

theorem place?_ofQuotient (s : Bool) (num den : Nat) :
    (ofQuotient s num den).place? = some (nearest (signed s num) den) := by
  have hmin : (ofQuotient s num den).place? = some (signed s (min (single.round num den) single.limit)) := by
    rw [ofQuotient]
    split
    · next h => rw [Nat.min_eq_left (Nat.le_of_lt h), place?]
    · next h => rw [Nat.min_eq_right (Nat.le_of_not_lt h), place?]
  rw [hmin, nearest, natAbs_signed]
  by_cases h0 : num = 0
  · -- A zero has either sign.
    subst h0
    rw [single_round_zero, Nat.zero_min]
    cases s <;> rfl
  · rw [signed_lt_zero h0]

theorem nearest_mono {num num' : Int} {den : Nat} (hd : 0 < den) (h : num ≤ num') :
    nearest num den ≤ nearest num' den := by
  have hround {m n : Nat} (hmn : m ≤ n) :
      min (single.round m den) single.limit ≤ min (single.round n den) single.limit := by
    have hr : single.round m den ≤ single.round n den := roundToBits_mono (by decide) hd hmn
    exact Nat.le_min.2 ⟨Nat.le_trans (Nat.min_le_left _ _) hr, Nat.min_le_right _ _⟩
  rw [nearest, nearest]
  by_cases hneg' : num' < 0
  · have hneg : num < 0 := Int.lt_of_le_of_lt h hneg'
    simp only [signed, hneg, hneg', decide_true, if_true]
    exact Int.neg_le_neg (Int.ofNat_le.2 (hround (by omega)))
  · by_cases hneg : num < 0
    · simp only [signed, hneg, hneg', decide_true, decide_false, if_true, Bool.false_eq_true, if_false]
      omega
    · simp only [signed, hneg, hneg', decide_false, Bool.false_eq_true, if_false]
      exact Int.ofNat_le.2 (hround (by omega))

/-- An integer in the range of the format's integers is its own nearest number. -/
theorem nearest_units {n : Int} (hn : n.natAbs ≤ 1000) {den : Nat} (hd : 0 < den) :
    nearest (n * single.unit * den) den = n * single.unit := by
  have hround : single.round (n * single.unit * den).natAbs den = (n * single.unit).natAbs := by
    rw [Int.natAbs_mul, Int.natAbs_mul, Int.natAbs_natCast, Int.natAbs_natCast]
    exact roundToBits_eq (by decide) hd (hasBits_units hn)
  have hlimit : (n * single.unit).natAbs < single.limit := by
    rw [Int.natAbs_mul, Int.natAbs_natCast]
    exact units_lt_limit hn
  have hsign : n * single.unit * den < 0 ↔ n * single.unit < 0 := by
    have hd' : (0 : Int) < den := Int.natCast_pos.2 hd
    constructor
    · exact fun h => Int.not_le.1 fun hle => Int.not_le.2 h (Int.mul_nonneg hle (Int.le_of_lt hd'))
    · exact fun h => Int.mul_neg_of_neg_of_pos h hd'
  rw [nearest, hround, Nat.min_eq_left (Nat.le_of_lt hlimit), decide_eq_decide.2 hsign, signed_natAbs]

/-- A sum is the exact sum, rounded. -/
theorem place?_add {x y : Binary32} {a b : Int} (hx : x.isFinite = true) (hy : y.isFinite = true)
    (ha : x.place? = some a) (hb : y.place? = some b) : (x + y).place? = some (nearest (a + b) 1) := by
  cases x with
  | nan | infinite => cases hx
  | finite s m =>
      cases y with
      | nan | infinite => cases hy
      | finite t n =>
          cases ha
          cases hb
          show (add _ _).place? = _
          simp only [add]
          split
          · next h0 =>
            rw [h0, nearest, Int.natAbs_zero, single_round_zero]
            cases s && t <;> rfl
          · rw [place?_ofQuotient, signed_natAbs]

/-- A product is the exact product, rounded. -/
theorem place?_mul {x y : Binary32} {a b : Int} (hx : x.isFinite = true) (hy : y.isFinite = true)
    (ha : x.place? = some a) (hb : y.place? = some b) : (x * y).place? = some (nearest (a * b) single.unit) := by
  cases x with
  | nan | infinite => cases hx
  | finite s m =>
      cases y with
      | nan | infinite => cases hy
      | finite t n =>
          cases ha
          cases hb
          rw [finite_mul_finite, place?_ofQuotient, signed_mul]

theorem unit_pos : 0 < single.unit :=
  Nat.two_pow_pos _

theorem isFinite_of_place {x : Binary32} {a : Int} (h : x.place? = some a) (ha : a.natAbs < single.limit) :
    x.isFinite = true := by
  cases x with
  | nan => cases h
  | finite => rfl
  | infinite s =>
      cases h
      rw [natAbs_signed] at ha
      exact absurd ha (Nat.lt_irrefl _)

theorem place?_clamp {x low high : Binary32} {p a b : Int} (hx : x.place? = some p) (hlow : low.place? = some a)
    (hhigh : high.place? = some b) (h : a ≤ b) : (x.clamp low high).place? = some (max a (min p b)) := by
  rw [clamp]
  split
  · next hl =>
    rw [lt_iff hx hlow] at hl
    rw [hlow, Option.some.injEq]
    omega
  · next hl =>
    rw [lt_iff hx hlow] at hl
    split
    · next hh =>
      rw [lt_iff hhigh hx] at hh
      rw [hhigh, Option.some.injEq]
      omega
    · next hh =>
      rw [lt_iff hhigh hx] at hh
      rw [hx, Option.some.injEq]
      omega

theorem nearest_signed_units {s : Bool} {n : Nat} (hn : n ≤ 1000) (hs : s = true → n = 0) :
    nearest (signed s (n * single.unit)) 1 = n * single.unit := by
  have h := nearest_units (n := n) hn Nat.one_pos
  rw [Int.natCast_one, Int.mul_one] at h
  cases s with
  | false => rw [signed, if_neg Bool.false_ne_true, Int.natCast_mul, h]
  | true =>
      obtain rfl := hs rfl
      simpa [signed] using h

theorem place?_ofNat {n : Nat} (hn : n ≤ 1000) : (ofNat n).place? = some ((n : Int) * single.unit) := by
  rw [ofNat, place?_ofQuotient, nearest_signed_units hn (fun h => absurd h Bool.false_ne_true)]

theorem isFinite_ofNat {n : Nat} (hn : n ≤ 1000) : (ofNat n).isFinite = true := by
  refine isFinite_of_place (place?_ofNat hn) ?_
  rw [← Int.natCast_mul, Int.natAbs_natCast]
  exact units_lt_limit hn

/-- A difference is the exact difference, rounded. -/
theorem place?_sub {x y : Binary32} {a b : Int} (hx : x.isFinite = true) (hy : y.isFinite = true)
    (ha : x.place? = some a) (hb : y.place? = some b) : (x - y).place? = some (nearest (a - b) 1) := by
  have hneg : (-y).place? = some (-b) := by rw [place?_neg, hb, Option.map_some]
  have hfinite : (-y).isFinite = true := by
    cases y with
    | nan | infinite => cases hy
    | finite => rfl
  exact place?_add hx hfinite ha hneg

/-- What is at most so many units is rounded to at most as many. -/
theorem natAbs_nearest_le {num : Int} {n den : Nat} (hn : n ≤ 1000) (h : num.natAbs ≤ n * single.unit * den) :
    (nearest num den).natAbs ≤ n * single.unit := by
  rw [nearest, natAbs_signed]
  exact Nat.le_trans (Nat.min_le_left _ _) (roundToBits_le (by decide) (hasBits_units hn) h)

/-! ### Integers -/

theorem exists_of_place {x : Binary32} {p : Int} (h : x.place? = some p) (h0 : 0 ≤ p)
    (h1 : p ≤ 255 * single.unit) :
    ∃ s a, x = finite s a ∧ (a.quanta : Int) = p ∧ (s = true → a.quanta = 0) := by
  have hf : x.isFinite = true := by
    refine isFinite_of_place h ?_
    have hl : 255 * single.unit < single.limit := units_lt_limit (by decide)
    omega
  cases x with
  | nan | infinite => cases hf
  | finite s a =>
      cases h
      refine ⟨s, a, rfl, ?_⟩
      cases s with
      | true =>
          simp only [signed, if_true] at h0 ⊢
          omega
      | false => exact ⟨rfl, fun h => absurd h Bool.false_ne_true⟩

/-- The integer nearest to a place, halves up. -/
def nearestInteger (p : Int) : Int :=
  (2 * p + single.unit) / (2 * single.unit)

theorem nearestInteger_mono {p p' : Int} (h : p ≤ p') : nearestInteger p ≤ nearestInteger p' :=
  Int.ediv_le_ediv (by have := unit_pos; omega) (by omega)

theorem nearestInteger_units (n : Int) : nearestInteger (n * single.unit) = n := by
  have hpos := unit_pos
  have hsum : 2 * (n * single.unit) + single.unit = single.unit + 2 * single.unit * n := by
    rw [Int.mul_comm n, Int.mul_assoc, Int.add_comm]
  rw [nearestInteger, hsum, Int.add_mul_ediv_left _ _ (by omega), Int.ediv_eq_zero_of_lt (by omega) (by omega),
    Int.zero_add]

/-- A number that is not negative is rounded to the nearest integer, halves away from zero. -/
theorem place?_roundToInteger {x : Binary32} {p : Int} (h : x.place? = some p) (h0 : 0 ≤ p)
    (h1 : p ≤ 255 * single.unit) :
    x.roundToInteger.place? = some (nearestInteger p * single.unit) := by
  obtain ⟨s, a, rfl, rfl, hs⟩ := exists_of_place h h0 h1
  have hpos := unit_pos
  have hk : (2 * a.quanta + single.unit) / (2 * single.unit) ≤ 255 := by
    have hlt : (2 * a.quanta + single.unit) / (2 * single.unit) < 256 := Nat.div_lt_of_lt_mul (by omega)
    omega
  rw [roundToInteger, place?_ofQuotient, nearest_signed_units (Nat.le_trans hk (by decide)) fun ht => ?_]
  · simp [nearestInteger]
  · rw [hs ht, Nat.mul_zero, Nat.zero_add, Nat.div_eq_of_lt (by omega)]

/-- The integral part of a number of the range of a byte. -/
theorem toNat_toByte {x : Binary32} {p : Int} (h : x.place? = some p) (h0 : 0 ≤ p) (h1 : p ≤ 255 * single.unit) :
    (x.toByte.toNat : Int) = p / single.unit := by
  obtain ⟨s, a, rfl, rfl, hs⟩ := exists_of_place h h0 h1
  cases s with
  | true => simp [toByte, hs rfl]
  | false =>
      have hq : a.quanta / single.unit ≤ 255 := Nat.div_le_of_le_mul (by omega)
      rw [toByte, if_neg Bool.false_ne_true, Nat.min_eq_right hq,
        UInt8.toNat_ofNat_of_lt' (Nat.lt_of_le_of_lt hq (by decide)), Int.natCast_ediv]

end Binary32

end VehicleDamage
