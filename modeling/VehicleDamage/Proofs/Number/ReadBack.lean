import VehicleDamage.Number.Shortest
import VehicleDamage.Proofs.Number.Rounding
import VehicleDamage.Proofs.Text.Bytes

/-!
The text of a finite number reads back as that number.
-/

namespace VehicleDamage

open Text

attribute [local instance (high)] instPowNat

namespace BinaryFormat

/-- A zero at the end of the digits does not count in what they read as. -/
theorem read_trim (f : BinaryFormat) {d : Decimal} (h : d.digits % 10 = 0) :
    f.read ⟨d.negative, d.digits / 10, d.exponent + 1⟩ = f.read d := by
  obtain ⟨negative, digits, exponent⟩ := d
  dsimp only at h ⊢
  obtain ⟨n, rfl⟩ := Nat.dvd_of_mod_eq_zero h
  rw [Nat.mul_div_cancel_left n (by decide)]
  match exponent with
  | .ofNat e =>
    show f.round (n * 10 ^ (e + 1) * f.unit) 1 = f.round (10 * n * 10 ^ e * f.unit) 1
    congr 2
    rw [Nat.pow_succ, Nat.mul_comm (10 ^ e), ← Nat.mul_assoc, Nat.mul_comm n]
  | .negSucc 0 =>
    show f.round (n * 10 ^ 0 * f.unit) 1 = f.round (10 * n * f.unit) (10 * 1)
    rw [Nat.pow_zero, Nat.mul_one, Nat.mul_assoc]
    exact (roundToBits_mul (by decide) ..).symm
  | .negSucc (e + 1) =>
    show f.round (n * f.unit) (10 ^ (e + 1)) = f.round (10 * n * f.unit) (10 ^ (e + 1) * 10)
    rw [Nat.mul_comm _ 10, Nat.mul_assoc]
    exact (roundToBits_mul (by decide) ..).symm

/-- The exact digits of a number of the format read back as it. -/
theorem read_exactDigits {f : BinaryFormat} {quanta : Nat} (hb : 0 < f.bits) (hq : 0 < f.quantum)
    (h : HasBits f.bits quanta) : f.read ⟨false, f.exactDigits quanta, -(f.quantum : Int)⟩ = quanta := by
  obtain ⟨q, hsucc⟩ := Nat.exists_eq_succ_of_ne_zero (Nat.ne_of_gt hq)
  have he : -(f.quantum : Int) = .negSucc q := by rw [hsucc]; rfl
  have hx : f.exactDigits quanta * f.unit = quanta * 10 ^ (q + 1) := by
    rw [exactDigits, unit, ← Nat.succ_eq_add_one, ← hsucc, Nat.mul_assoc, ← Nat.mul_pow]
  rw [he]
  show f.round (f.exactDigits quanta * f.unit) (10 ^ (q + 1)) = quanta
  rw [hx]
  exact roundToBits_eq hb (Nat.pow_pos (by decide)) h

end BinaryFormat

namespace Decimal

theorem read_trimZeros (f : BinaryFormat) (d : Decimal) : f.read d.trimZeros = f.read d := by
  have hgo : ∀ n d, f.read (trimZeros.go n d) = f.read d := by
    intro n
    induction n with
    | zero => exact fun d => rfl
    | succ n ih =>
        intro d
        rw [trimZeros.go]
        split
        · next h => rw [ih, f.read_trim h.2]
        · rfl
  exact hgo _ d

/-- The shortest digits of a number of the format read back as it. -/
theorem read_shortest {f : BinaryFormat} {quanta : Nat} (hb : 0 < f.bits) (hq : 0 < f.quantum)
    (h : HasBits f.bits quanta) (tie : Tie) : f.read (shortest f tie quanta) = quanta := by
  rw [shortest]
  split
  · next h0 =>
    show roundToBits f.bits (0 * 10 ^ 0 * f.unit) 1 = quanta
    rw [h0, Nat.zero_mul]
    exact roundToBits_eq hb Nat.one_pos ⟨0, 0, Nat.zero_le _, rfl⟩
  · dsimp only
    rw [read_trimZeros]
    generalize hfound : (List.range (digitCount (f.exactDigits quanta))).findSome? _ = found
    cases found with
    | none => exact BinaryFormat.read_exactDigits hb hq h
    | some d =>
        obtain ⟨n, -, hd⟩ := List.exists_of_findSome?_eq_some hfound
        have hr := List.find?_some hd
        exact beq_iff_eq.1 hr

/-- Too little for the format's least number to be nearest. -/
theorem roundToBits_eq_zero {bits num den : Nat} (hb : 0 < bits) (h : 2 * num < den) :
    roundToBits bits num den = 0 := by
  have hq : num / den = 0 := Nat.div_eq_of_lt (by omega)
  have hs : surplusBits bits num den = 0 := by
    rw [surplusBits, hq, Nat.log2_zero]
    omega
  have hm : num % den = num := Nat.mod_eq_of_lt (by omega)
  rw [roundToBits, hs, Nat.pow_zero, Nat.mul_one, Nat.mul_one, roundHalfEven, hm, if_pos (.inl h), hq]

theorem digits_lt (n : Nat) : n < 10 ^ digitCount n := by
  rw [digitCount]
  split
  · next h => rw [h]; decide
  · exact (Nat.length_toDigits_le_iff (by decide) Nat.length_toDigits_pos).1 (Nat.le_refl _)

theorem le_digits {n : Nat} (h : n ≠ 0) : 10 ^ (digitCount n - 1) ≤ n := by
  rw [digitCount, if_neg h]
  rcases Nat.eq_zero_or_pos ((Nat.toDigits 10 n).length - 1) with h0 | hpos
  · rw [h0]
    exact Nat.one_le_iff_ne_zero.2 h
  · refine Nat.le_of_not_lt fun hlt => ?_
    have hle := (Nat.length_toDigits_le_iff (by decide) hpos).2 hlt
    omega

end Decimal

namespace Decimal

open BinaryFormat (single)

theorem den_pos (d : Decimal) : 0 < d.quotient.2 := by
  rw [quotient]
  split
  · exact Nat.one_pos
  · exact Nat.pow_pos (by decide)

theorem round_eq_zero {d : Decimal} (h : d.digits = 0 ∨ d.magnitude < -60) :
    single.round (d.quotient.1 * single.unit) d.quotient.2 = 0 := by
  obtain ⟨negative, digits, exponent⟩ := d
  by_cases h0 : digits = 0
  · have hn : (quotient ⟨negative, digits, exponent⟩).1 = 0 := by
      rw [quotient, h0]
      cases exponent with
      | ofNat e => exact Nat.zero_mul _
      | negSucc e => rfl
    have hz : single.round (0 * (quotient ⟨negative, digits, exponent⟩).2)
        (quotient ⟨negative, digits, exponent⟩).2 = 0 :=
      roundToBits_eq (by decide) (den_pos ⟨negative, digits, exponent⟩) ⟨0, 0, Nat.zero_le _, rfl⟩
    rw [hn, Nat.zero_mul]
    rwa [Nat.zero_mul] at hz
  · have hm := h.resolve_left h0
    rw [magnitude] at hm
    cases exponent with
    | ofNat e =>
        simp only [Int.ofNat_eq_natCast] at hm
        omega
    | negSucc e =>
        simp only [Int.negSucc_eq] at hm
        refine roundToBits_eq_zero (by decide) ?_
        show 2 * (digits * 2 ^ 149) < 10 ^ (e + 1)
        have hlt : digits < 10 ^ (e - 60) :=
          Nat.lt_of_lt_of_le (digits_lt digits) (Nat.pow_le_pow_right (by decide) (by omega))
        calc 2 * (digits * 2 ^ 149) = digits * 2 ^ 150 := by
              rw [Nat.mul_left_comm, ← Nat.pow_succ']
          _ < 10 ^ (e - 60) * 2 ^ 150 := Nat.mul_lt_mul_of_pos_right hlt (Nat.two_pow_pos _)
          _ ≤ 10 ^ (e - 60) * 10 ^ 60 := Nat.mul_le_mul_left _ (by decide)
          _ = 10 ^ e := by rw [← Nat.pow_add, Nat.sub_add_cancel (by omega)]
          _ ≤ 10 ^ (e + 1) := Nat.pow_le_pow_right (by decide) (Nat.le_succ e)

theorem limit_le_round {d : Decimal} (h0 : d.digits ≠ 0) (h : d.magnitude > 60) :
    single.limit ≤ single.round (d.quotient.1 * single.unit) d.quotient.2 := by
  have hbits : HasBits single.bits single.limit :=
    ⟨1, single.ceiling, by decide, by rw [BinaryFormat.limit, Nat.one_mul]⟩
  refine le_roundToBits (by decide) d.den_pos hbits ?_
  have hpow : 10 ^ 60 * d.quotient.2 ≤ d.quotient.1 := by
    obtain ⟨negative, digits, exponent⟩ := d
    have hle := le_digits h0
    rw [magnitude] at h
    cases exponent with
    | ofNat e =>
        simp only [Int.ofNat_eq_natCast] at h
        calc 10 ^ 60 * 1 ≤ 10 ^ (digitCount digits - 1 + e) := by
              rw [Nat.mul_one]
              exact Nat.pow_le_pow_right (by decide) (by omega)
          _ = 10 ^ (digitCount digits - 1) * 10 ^ e := Nat.pow_add ..
          _ ≤ digits * 10 ^ e := Nat.mul_le_mul_right _ hle
    | negSucc e =>
        simp only [Int.negSucc_eq] at h
        calc 10 ^ 60 * 10 ^ (e + 1) = 10 ^ (60 + (e + 1)) := (Nat.pow_add ..).symm
          _ ≤ 10 ^ (digitCount digits - 1) := Nat.pow_le_pow_right (by decide) (by omega)
          _ ≤ digits := hle
  calc single.limit * d.quotient.2 = 2 ^ 128 * 2 ^ 149 * d.quotient.2 := by rw [BinaryFormat.limit_single]
    _ ≤ 10 ^ 60 * 2 ^ 149 * d.quotient.2 := Nat.mul_le_mul_right _ (Nat.mul_le_mul_right _ (by decide))
    _ = 10 ^ 60 * d.quotient.2 * single.unit := Nat.mul_right_comm ..
    _ ≤ d.quotient.1 * single.unit := Nat.mul_le_mul_right _ hpow

/-- The magnitudes that are settled without computing them are settled as the computation would. -/
theorem toBinary32_eq (d : Decimal) :
    d.toBinary32 = .ofQuotient d.negative (d.quotient.1 * single.unit) d.quotient.2 := by
  rw [toBinary32]
  split
  · next h => exact (Binary32.ofQuotient_eq (round_eq_zero h) d.negative).symm
  · next hl =>
    split
    · next hh =>
      have hlimit := limit_le_round (fun h0 => hl (.inl h0)) hh
      rw [Binary32.ofQuotient, dif_neg (Nat.not_lt.2 hlimit)]
    · rfl

end Decimal

theorem digitsValue_eq (cs : List Char) : digitsValue cs = Nat.ofDigitChars 10 cs 0 := rfl

theorem digitsValue_padded (n k : Nat) : digitsValue (List.replicate k '0' ++ Nat.toDigits 10 n) = n := by
  rw [digitsValue_eq, Nat.ofDigitChars_append, Nat.ofDigitChars_replicate_zero, Nat.mul_zero,
    Nat.ofDigitChars_ten_toDigits]

theorem digitsValue_scaled (n k : Nat) :
    digitsValue (Nat.toDigits 10 n ++ List.replicate k '0') = n * 10 ^ k := by
  rw [digitsValue_eq, Nat.ofDigitChars_append, Nat.ofDigitChars_replicate_zero, Nat.ofDigitChars_ten_toDigits,
    Nat.mul_comm]

/-- Digits alone, at least one. -/
def AreDigits (cs : List Char) : Prop :=
  cs ≠ [] ∧ ∀ c ∈ cs, c.isDigit = true

theorem areDigits_toDigits (n : Nat) : AreDigits (Nat.toDigits 10 n) :=
  ⟨Nat.toDigits_ne_nil, fun _ hc => Nat.isDigit_of_mem_toDigits (by decide) (by decide) hc⟩

namespace Binary32

theorem word?_eq_none {c : Char} (h : c.isDigit = true) (negative : Bool) (cs : List Char) :
    word? negative (c :: cs) = none := by
  have hlower : c.toLower = c := by
    rw [Char.isDigit, Bool.and_eq_true, decide_eq_true_eq, decide_eq_true_eq] at h
    delta Char.toLower
    rw [dif_neg]
    exact fun hu => absurd (UInt32.le_trans hu.1 h.2) (by decide)
  have hi : c ≠ 'i' := by rintro rfl; cases h
  have hn : c ≠ 'n' := by rintro rfl; cases h
  simp [word?, hlower, hi, hn]

theorem unsigned?_whole {whole : List Char} (h : AreDigits whole) (negative : Bool) :
    unsigned? negative whole = some ⟨negative, digitsValue whole, 0⟩ := by
  obtain ⟨ht, hd⟩ : whole.takeWhile Char.isDigit = whole ∧ whole.dropWhile Char.isDigit = [] := by
    have hc : (whole ++ []).takeWhile Char.isDigit = whole ∧ (whole ++ []).dropWhile Char.isDigit = [] :=
      cut_append h.2 nofun
    rwa [List.append_nil] at hc
  simp [unsigned?, ht, hd, h.1]

theorem unsigned?_point {whole fraction : List Char} (hw : AreDigits whole) (hf : ∀ c ∈ fraction, c.isDigit = true)
    (negative : Bool) : unsigned? negative (whole ++ '.' :: fraction) =
      some ⟨negative, digitsValue (whole ++ fraction), -(fraction.length : Int)⟩ := by
  obtain ⟨hwhole, hrest⟩ : (whole ++ '.' :: fraction).takeWhile Char.isDigit = whole ∧
      (whole ++ '.' :: fraction).dropWhile Char.isDigit = '.' :: fraction := cut_append hw.2 (by simp)
  obtain ⟨ht, hd⟩ : fraction.takeWhile Char.isDigit = fraction ∧ fraction.dropWhile Char.isDigit = [] := by
    have hc : (fraction ++ []).takeWhile Char.isDigit = fraction ∧ (fraction ++ []).dropWhile Char.isDigit = [] :=
      cut_append hf nofun
    rwa [List.append_nil] at hc
  simp [unsigned?, hwhole, hrest, ht, hd, hw.1]

/-- A literal without a word: a sign, and what begins with a digit. -/
theorem ofLiteral?_unsigned {negative : Bool} {c : Char} {cs : List Char} {d : Decimal} (hc : c.isDigit = true)
    (h : unsigned? negative (c :: cs) = some d) :
    ofLiteral? ((if negative then "-" else "") ++ String.ofList (c :: cs)) = some d.toBinary32 := by
  have hbody : ((word? negative (c :: cs)).orElse fun _ => (unsigned? negative (c :: cs)).map Decimal.toBinary32) =
      some d.toBinary32 := by
    rw [word?_eq_none hc, h]
    rfl
  cases negative with
  | true => simpa [ofLiteral?] using hbody
  | false =>
      have hminus : c ≠ '-' := by rintro rfl; cases hc
      have hplus : c ≠ '+' := by rintro rfl; cases hc
      simpa [ofLiteral?, hminus, hplus] using hbody

end Binary32

namespace Decimal

/-- A whole number, with the zeros that its exponent adds. -/
theorem areDigits_scaled (digits e : Nat) :
    let whole := if digits = 0 then Nat.toDigits 10 digits else Nat.toDigits 10 digits ++ List.replicate e '0'
    AreDigits whole ∧ digitsValue whole = digits * 10 ^ e := by
  dsimp only
  split
  · next h0 => exact ⟨areDigits_toDigits digits, by simp [h0, digitsValue]⟩
  · refine ⟨⟨by simp [Nat.toDigits_ne_nil], fun c hc => ?_⟩, digitsValue_scaled digits e⟩
    rcases List.mem_append.1 hc with hc | hc
    · exact (areDigits_toDigits digits).2 c hc
    · rw [List.eq_of_mem_replicate hc]
      rfl

/-- The digits before and after the point, padded so that there is one in front of it. -/
theorem areDigits_padded (digits e : Nat) :
    let padded := List.replicate (e + 2 - (Nat.toDigits 10 digits).length) '0' ++ Nat.toDigits 10 digits
    let whole := padded.take (padded.length - (e + 1))
    let fraction := padded.drop (padded.length - (e + 1))
    AreDigits whole ∧ (∀ c ∈ fraction, c.isDigit = true) ∧ fraction.length = e + 1 ∧
      digitsValue (whole ++ fraction) = digits := by
  intro padded whole fraction
  have hlength : e + 2 ≤ padded.length := by
    simp only [padded, List.length_append, List.length_replicate]
    omega
  have hd : ∀ c ∈ padded, c.isDigit = true := fun c hc => by
    rcases List.mem_append.1 hc with hc | hc
    · rw [List.eq_of_mem_replicate hc]
      rfl
    · exact (areDigits_toDigits digits).2 c hc
  refine ⟨⟨fun hn => ?_, fun c hc => hd c (List.mem_of_mem_take hc)⟩, fun c hc => hd c (List.mem_of_mem_drop hc),
    ?_, ?_⟩
  · have hl := congrArg List.length hn
    simp only [whole, List.length_take, List.length_nil] at hl
    omega
  · simp only [fraction, List.length_drop]
    omega
  · rw [List.take_append_drop]
    exact digitsValue_padded digits _

/-- A text of digits, with a point among them if need be, that reads as the number it is written for. -/
theorem exists_plainText (d : Decimal) : ∃ c cs d', c.isDigit = true ∧
    d.plainText = (if d.negative then "-" else "") ++ String.ofList (c :: cs) ∧
    Binary32.unsigned? d.negative (c :: cs) = some d' ∧ d'.negative = d.negative ∧ d'.quotient = d.quotient ∧
    ∀ c' ∈ c :: cs, c'.isDigit = true ∨ c' = '.' := by
  obtain ⟨negative, digits, exponent⟩ := d
  cases exponent with
  | ofNat e =>
      obtain ⟨hw, hv⟩ := areDigits_scaled digits e
      obtain ⟨c, cs, hcons⟩ := List.exists_cons_of_ne_nil hw.1
      rw [hcons] at hw hv
      refine ⟨c, cs, ⟨negative, digitsValue (c :: cs), 0⟩, hw.2 c List.mem_cons_self, ?_,
        Binary32.unsigned?_whole hw negative, rfl, ?_, fun c hc => .inl (hw.2 c hc)⟩
      · rw [← hcons]
        rfl
      · show (digitsValue (c :: cs) * 10 ^ 0, 1) = (digits * 10 ^ e, 1)
        rw [hv, Nat.pow_zero, Nat.mul_one]
  | negSucc e =>
      let padded := List.replicate (e + 2 - (Nat.toDigits 10 digits).length) '0' ++ Nat.toDigits 10 digits
      obtain ⟨hw, hf, hl, hv⟩ := areDigits_padded digits e
      obtain ⟨c, cs, hcons⟩ := List.exists_cons_of_ne_nil hw.1
      refine ⟨c, cs ++ '.' :: padded.drop (padded.length - (e + 1)), ⟨negative, digits, .negSucc e⟩,
        hw.2 c (hcons ▸ List.mem_cons_self), ?_, ?_, rfl, rfl, ?_⟩
      · rw [← List.cons_append, ← hcons]
        rfl
      · rw [← List.cons_append, ← hcons, Binary32.unsigned?_point hw hf, hv, hl]
        rfl
      · rw [← List.cons_append, ← hcons]
        intro c' hc'
        rcases List.mem_append.1 hc' with hc' | hc'
        · exact .inl (hw.2 c' hc')
        · rcases List.mem_cons.1 hc' with rfl | hc'
          · exact .inr rfl
          · exact .inl (hf c' hc')

/-- A plain text reads as the number it is written for. -/
theorem ofLiteral?_plainText (d : Decimal) : Binary32.ofLiteral? d.plainText = some d.toBinary32 := by
  obtain ⟨c, cs, d', hc, ht, hu, hn, hq, -⟩ := d.exists_plainText
  rw [ht, Binary32.ofLiteral?_unsigned hc hu, toBinary32_eq, toBinary32_eq, hn, hq]

end Decimal

namespace Binary32

open BinaryFormat (single)

/-- The text of a finite number reads back as that number. -/
theorem ofLiteral?_toText {x : Binary32} (h : x.isFinite = true) : ofLiteral? x.toText = some x := by
  cases x with
  | nan | infinite => cases h
  | finite negative a =>
      have hr : single.read (Decimal.shortest single .up a.quanta) = a.quanta :=
        Decimal.read_shortest (by decide) (by decide) a.representable .up
      rw [toText, Decimal.ofLiteral?_plainText, Decimal.toBinary32_eq]
      exact congrArg some (ofQuotient_eq hr negative)

theorem toText_chars {x : Binary32} (h : x.isFinite = true) :
    ∀ c ∈ x.toText.toList, c.isDigit = true ∨ c = '.' ∨ c = '-' := by
  cases x with
  | nan | infinite => cases h
  | finite negative a =>
      obtain ⟨c, cs, -, -, ht, -, -, -, hcs⟩ :=
        (toText.withSign negative (Decimal.shortest single .up a.quanta)).exists_plainText
      rw [toText, ht]
      intro c' hc'
      rw [String.toList_append, String.toList_ofList] at hc'
      rcases List.mem_append.1 hc' with hc' | hc'
      · split at hc'
        · exact .inr (.inr (by simpa using hc'))
        · simp at hc'
      · rcases hcs c' hc' with hd | hp
        · exact .inl hd
        · exact .inr (.inl hp)

end Binary32

end VehicleDamage
