/-!
Rounding of exact quotients. Numbers of a binary format are counted in quanta, the least positive value of
the format, so every exact result is a quotient of naturals and one rounding serves all operations.
-/

namespace VehicleDamage

attribute [local instance (high)] instPowNat

/-- A binary format. Its quantum is 2^-quantum, and from 2^ceiling quanta on its numbers are infinite. -/
structure BinaryFormat where
  bits : Nat
  quantum : Nat
  ceiling : Nat

namespace BinaryFormat

def single : BinaryFormat := ⟨24, 149, 277⟩

def double : BinaryFormat := ⟨53, 1074, 2098⟩

/-- The quanta that make one. -/
def unit (f : BinaryFormat) : Nat :=
  2 ^ f.quantum

def limit (f : BinaryFormat) : Nat :=
  2 ^ f.ceiling

end BinaryFormat

/-- The integer nearest to `num / den`; halfway between two, the even one. -/
def roundHalfEven (num den : Nat) : Nat :=
  if 2 * (num % den) < den ∨ (2 * (num % den) = den ∧ num / den % 2 = 0) then num / den else num / den + 1

/-- The low bits of `num / den` that do not fit into `bits` significant ones. -/
def surplusBits (bits num den : Nat) : Nat :=
  (num / den).log2 + 1 - bits

/-- The number nearest to `num / den` that has at most `bits` significant bits. -/
def roundToBits (bits num den : Nat) : Nat :=
  roundHalfEven num (den * 2 ^ surplusBits bits num den) * 2 ^ surplusBits bits num den

theorem roundHalfEven_le_succ (num den : Nat) : roundHalfEven num den ≤ num / den + 1 := by
  unfold roundHalfEven; split <;> omega

theorem quotient_lt_of_surplusBits (bits num den : Nat) :
    num / (den * 2 ^ surplusBits bits num den) < 2 ^ bits := by
  rw [← Nat.div_div_eq_div_mul]
  apply Nat.div_lt_of_lt_mul
  rw [← Nat.pow_add]
  calc num / den < 2 ^ ((num / den).log2 + 1) := Nat.lt_log2_self
    _ ≤ 2 ^ (surplusBits bits num den + bits) := by
      apply Nat.pow_le_pow_right (by decide); unfold surplusBits; omega

theorem roundToBits_representable (bits num den : Nat) :
    ∃ m s : Nat, m ≤ 2 ^ bits ∧ roundToBits bits num den = m * 2 ^ s :=
  ⟨_, _, Nat.le_trans (roundHalfEven_le_succ _ _) (quotient_lt_of_surplusBits bits num den), rfl⟩

namespace BinaryFormat

/-- The number of a format nearest to `num / den` quanta, were there no limit. -/
def round (f : BinaryFormat) (num den : Nat) : Nat :=
  roundToBits f.bits num den

end BinaryFormat

end VehicleDamage
