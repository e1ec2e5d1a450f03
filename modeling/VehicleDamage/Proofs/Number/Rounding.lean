import VehicleDamage.Number.Binary32

/-!
Rounding respects order: what lies on one side of a number of the format is rounded to that side, and a number of the
format to itself.
-/

namespace VehicleDamage

attribute [local instance (high)] instPowNat

theorem roundHalfEven_le {num den n : Nat} (h : num ≤ n * den) : roundHalfEven num den ≤ n := by
  rcases Nat.eq_zero_or_pos den with rfl | hd
  · obtain rfl : num = 0 := by omega
    simp [roundHalfEven]
  · have hq : num / den ≤ n := Nat.div_le_of_le_mul (by rwa [Nat.mul_comm])
    have hm := Nat.div_add_mod num den
    rw [roundHalfEven]
    split
    · exact hq
    · next hr =>
      refine Nat.lt_of_le_of_ne hq fun he => hr (.inl ?_)
      rw [he, Nat.mul_comm] at hm
      omega

theorem le_roundHalfEven {num den n : Nat} (hd : 0 < den) (h : n * den ≤ num) : n ≤ roundHalfEven num den := by
  have hq : n ≤ num / den := (Nat.le_div_iff_mul_le hd).2 h
  rw [roundHalfEven]
  split <;> omega

theorem roundHalfEven_mul {k : Nat} (hk : 0 < k) (num den : Nat) :
    roundHalfEven (k * num) (k * den) = roundHalfEven num den := by
  have hlt : 2 * (k * (num % den)) < k * den ↔ 2 * (num % den) < den := by
    rw [Nat.mul_left_comm, Nat.mul_lt_mul_left hk]
  have heq : 2 * (k * (num % den)) = k * den ↔ 2 * (num % den) = den := by
    rw [Nat.mul_left_comm, Nat.mul_right_inj (Nat.ne_of_gt hk)]
  simp only [roundHalfEven, Nat.mul_mod_mul_left, Nat.mul_div_mul_left _ _ hk, hlt, heq]

theorem roundToBits_mul {k : Nat} (hk : 0 < k) (bits num den : Nat) :
    roundToBits bits (k * num) (k * den) = roundToBits bits num den := by
  have hs : surplusBits bits (k * num) (k * den) = surplusBits bits num den := by
    rw [surplusBits, surplusBits, Nat.mul_div_mul_left _ _ hk]
  rw [roundToBits, hs, Nat.mul_assoc, roundHalfEven_mul hk, roundToBits]

/-- A number with at most `bits` significant bits. -/
def HasBits (bits n : Nat) : Prop :=
  ∃ m s : Nat, m ≤ 2 ^ bits ∧ n = m * 2 ^ s

/-- A number of the format that is not on the grid of the quotient lies below the quotient's leading bit. -/
theorem HasBits.grid {bits num den n : Nat} (hb : 0 < bits) (h : HasBits bits n) :
    (∃ k, n = k * 2 ^ surplusBits bits num den) ∨
      ∃ k, n ≤ k * 2 ^ surplusBits bits num den ∧ k * 2 ^ surplusBits bits num den ≤ num / den := by
  obtain ⟨m, s, hm, rfl⟩ := h
  rcases Nat.lt_or_ge s (surplusBits bits num den) with hs | hs
  · right
    have hlog : (num / den).log2 + 1 = bits + surplusBits bits num den := by
      rw [surplusBits] at hs ⊢
      omega
    have hne : num / den ≠ 0 := fun h0 => by
      rw [h0, Nat.log2_zero] at hlog
      omega
    have hpow : 2 ^ (bits - 1) * 2 ^ surplusBits bits num den = 2 ^ (num / den).log2 := by
      rw [← Nat.pow_add]
      congr 1
      omega
    refine ⟨2 ^ (bits - 1), ?_, ?_⟩
    · calc m * 2 ^ s ≤ 2 ^ bits * 2 ^ s := Nat.mul_le_mul_right _ hm
        _ = 2 ^ (bits + s) := (Nat.pow_add ..).symm
        _ ≤ 2 ^ (num / den).log2 := Nat.pow_le_pow_right (by decide) (by omega)
        _ = _ := hpow.symm
    · rw [hpow]
      exact Nat.log2_self_le hne
  · left
    refine ⟨m * 2 ^ (s - surplusBits bits num den), ?_⟩
    rw [Nat.mul_assoc, ← Nat.pow_add, Nat.sub_add_cancel hs]

variable {bits num den n : Nat}

theorem roundToBits_le (hb : 0 < bits) (hn : HasBits bits n) (h : num ≤ n * den) :
    roundToBits bits num den ≤ n := by
  have hq : num / den ≤ n := Nat.div_le_of_le_mul (by rwa [Nat.mul_comm])
  obtain ⟨k, rfl⟩ : ∃ k, n = k * 2 ^ surplusBits bits num den := by
    rcases hn.grid hb with hk | ⟨k, hlo, hhi⟩
    · exact hk
    · exact ⟨k, Nat.le_antisymm hlo (Nat.le_trans hhi hq)⟩
  refine Nat.mul_le_mul_right _ (roundHalfEven_le ?_)
  rwa [Nat.mul_comm den, ← Nat.mul_assoc]

theorem le_roundToBits (hb : 0 < bits) (hd : 0 < den) (hn : HasBits bits n) (h : n * den ≤ num) :
    n ≤ roundToBits bits num den := by
  have hq : n ≤ num / den := (Nat.le_div_iff_mul_le hd).2 h
  obtain ⟨k, hle, hk⟩ : ∃ k, n ≤ k * 2 ^ surplusBits bits num den ∧
      k * 2 ^ surplusBits bits num den ≤ num / den := by
    rcases hn.grid hb with ⟨k, hk⟩ | hk
    · exact ⟨k, Nat.le_of_eq hk, hk ▸ hq⟩
    · exact hk
  refine Nat.le_trans hle (Nat.mul_le_mul_right _ (le_roundHalfEven (Nat.mul_pos hd (Nat.two_pow_pos _)) ?_))
  rw [Nat.mul_comm den, ← Nat.mul_assoc]
  exact (Nat.le_div_iff_mul_le hd).1 hk

/-- A number of the format is rounded to itself. -/
theorem roundToBits_eq (hb : 0 < bits) (hd : 0 < den) (hn : HasBits bits n) :
    roundToBits bits (n * den) den = n :=
  Nat.le_antisymm (roundToBits_le hb hn (Nat.le_refl _)) (le_roundToBits hb hd hn (Nat.le_refl _))

theorem BinaryFormat.limit_single : single.limit = 2 ^ (128 : Nat) * 2 ^ (149 : Nat) := by
  rw [← Nat.pow_add, limit, show single.ceiling = 128 + 149 from rfl]

namespace Binary32

open BinaryFormat (single)

theorem ofQuotient_eq {num den : Nat} {a : Magnitude} (h : single.round num den = a.quanta) (negative : Bool) :
    ofQuotient negative num den = finite negative a := by
  have hl : single.round num den < single.limit := h ▸ a.below_limit
  rw [ofQuotient, dif_pos hl]
  congr

end Binary32

end VehicleDamage
