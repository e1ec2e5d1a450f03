import VehicleDamage.Proofs.Number.Places

/-!
The scale from one colour to another: it begins at the one, ends at the other, and goes the same way throughout.
-/

namespace VehicleDamage

open Binary32
open BinaryFormat (single)

namespace Binary32

/-- The share that a number stands for, in quanta: none for a NaN and for what is below zero, the whole from one on. -/
def shareQuanta (t : Binary32) : Int :=
  max 0 (min (t.place?.getD 0) single.unit)

theorem shareQuanta_within (t : Binary32) : 0 ≤ t.shareQuanta ∧ t.shareQuanta ≤ single.unit := by
  rw [shareQuanta]
  omega

theorem shareQuanta_none {t : Binary32} (h : t.isNaN = true ∨ t.le .zero = true) : t.shareQuanta = 0 := by
  rw [shareQuanta]
  rcases h with hn | hle
  · cases t with
    | nan => rfl
    | infinite | finite => cases hn
  · obtain ⟨p, z, hp, hz, hpz⟩ := places_of_le hle
    obtain rfl : z = 0 := Option.some.inj (hz.symm.trans place?_zero)
    rw [hp, Option.getD_some]
    omega

theorem place?_one_unit : one.place? = some (single.unit : Int) := by
  rw [one, place?_ofNat (by decide), Int.natCast_one, Int.one_mul]

theorem shareQuanta_whole {t : Binary32} (h : one.le t = true) : t.shareQuanta = single.unit := by
  obtain ⟨o, p, ho, hp, hop⟩ := places_of_le h
  obtain rfl : (single.unit : Int) = o := Option.some.inj (place?_one_unit.symm.trans ho)
  rw [shareQuanta, hp, Option.getD_some]
  omega

theorem shareQuanta_mono {s t : Binary32} (h : s.le t = true) : s.shareQuanta ≤ t.shareQuanta := by
  obtain ⟨p, q, hp, hq, hpq⟩ := places_of_le h
  rw [shareQuanta, shareQuanta, hp, hq, Option.getD_some, Option.getD_some]
  omega

theorem place?_share (t : Binary32) : (Colour.share t).place? = some t.shareQuanta := by
  rw [Colour.share]
  split
  · next hn =>
    cases t with
    | nan => rfl
    | infinite | finite => cases hn
  · next hn =>
    obtain ⟨p, hp⟩ := exists_place (Bool.eq_false_iff.2 hn)
    rw [place?_clamp hp place?_zero place?_one_unit (Int.natCast_nonneg _), shareQuanta, hp, Option.getD_some]

end Binary32

namespace Colour

/-! ### Channels -/

/-- Where a channel stands before it is rounded to an integer, `way` being the exact product of its whole way and the
share. -/
def wayPlace (source : UInt8) (way : Int) : Int :=
  nearest (source.toNat * single.unit + nearest way single.unit) 1

theorem wayPlace_mono (source : UInt8) {way way' : Int} (h : way ≤ way') :
    wayPlace source way ≤ wayPlace source way' :=
  nearest_mono Nat.one_pos (Int.add_le_add_left (nearest_mono unit_pos h) _)

/-- The whole way leads to the target. -/
theorem wayPlace_whole (source target : UInt8) :
    wayPlace source (((target.toNat : Int) - source.toNat) * single.unit * single.unit) =
      target.toNat * single.unit := by
  have hs := source.toNat_lt
  have ht := target.toNat_lt
  have hsum : (source.toNat : Int) * single.unit + ((target.toNat : Int) - source.toNat) * single.unit =
      target.toNat * single.unit := by
    rw [← Int.add_mul]
    congr 1
    omega
  have h := nearest_units (n := target.toNat) (by omega) Nat.one_pos
  rw [Int.natCast_one, Int.mul_one] at h
  rw [wayPlace, nearest_units (by omega) unit_pos, hsum, h]

theorem wayPlace_none (source : UInt8) : wayPlace source 0 = source.toNat * single.unit := by
  have h := wayPlace_whole source source
  rwa [Int.sub_self, Int.zero_mul, Int.zero_mul] at h

/-- The way of a channel for a share in quanta. -/
def way (source target : UInt8) (q : Int) : Int :=
  ((target.toNat : Int) - source.toNat) * single.unit * q

/-- On the way from `source` to `target` the second value is at least as far as the first, and neither is outside. -/
inductive Toward {α : Type} [LE α] (source first second target : α) : Prop
  | up (source_le : source ≤ first) (le : first ≤ second) (le_target : second ≤ target)
  | down (target_le : target ≤ second) (le : second ≤ first) (le_source : first ≤ source)

theorem Toward.map {f : Int → Int} (hf : ∀ {a b}, a ≤ b → f a ≤ f b) {a b c d : Int} (h : Toward a b c d) :
    Toward (f a) (f b) (f c) (f d) := by
  cases h with
  | up hab hbc hcd => exact .up (hf hab) (hf hbc) (hf hcd)
  | down hdc hcb hba => exact .down (hf hdc) (hf hcb) (hf hba)

variable {source target : UInt8} {q q' : Int}

theorem toward_way (h0 : 0 ≤ q) (h : q ≤ q') (h1 : q' ≤ single.unit) :
    Toward 0 (way source target q) (way source target q') (way source target single.unit) := by
  have hpos : (0 : Int) ≤ single.unit := Int.natCast_nonneg _
  have hzero : way source target 0 = 0 := Int.mul_zero _
  rcases Int.le_total source.toNat target.toNat with hle | hle
  · have hway : 0 ≤ ((target.toNat : Int) - source.toNat) * single.unit := Int.mul_nonneg (by omega) hpos
    rw [← hzero]
    exact .up (Int.mul_le_mul_of_nonneg_left h0 hway) (Int.mul_le_mul_of_nonneg_left h hway)
      (Int.mul_le_mul_of_nonneg_left h1 hway)
  · have hway : ((target.toNat : Int) - source.toNat) * single.unit ≤ 0 :=
      Int.mul_nonpos_of_nonpos_of_nonneg (by omega) hpos
    rw [← hzero]
    exact .down (Int.mul_le_mul_of_nonpos_left hway h1) (Int.mul_le_mul_of_nonpos_left hway h)
      (Int.mul_le_mul_of_nonpos_left hway h0)

theorem toward_wayPlace (h0 : 0 ≤ q) (h : q ≤ q') (h1 : q' ≤ single.unit) :
    Toward (source.toNat * single.unit : Int) (wayPlace source (way source target q))
      (wayPlace source (way source target q')) (target.toNat * single.unit) := by
  rw [← wayPlace_none, ← wayPlace_whole source target]
  exact (toward_way h0 h h1).map (wayPlace_mono source)

theorem wayPlace_within (h0 : 0 ≤ q) (h1 : q ≤ single.unit) :
    0 ≤ wayPlace source (way source target q) ∧
      wayPlace source (way source target q) ≤ 255 * single.unit := by
  have hbyte (n : UInt8) :
      0 ≤ (n.toNat * single.unit : Int) ∧ (n.toNat * single.unit : Int) ≤ 255 * single.unit := by
    have hn := n.toNat_lt
    exact ⟨Int.mul_nonneg (by omega) (by omega), Int.mul_le_mul_of_nonneg_right (by omega) (by omega)⟩
  have hs := hbyte source
  have ht := hbyte target
  have h : Toward (source.toNat * single.unit : Int) _ _ (target.toNat * single.unit) :=
    toward_wayPlace h0 (Int.le_refl q) h1
  cases h with
  | up => omega
  | down => omega

/-- A number of the unit interval is mixed by sums, differences and products that all stay far below the limit. -/
theorem place?_mixed {t : Binary32} (ht : t.place? = some q) (h0 : 0 ≤ q) (h1 : q ≤ single.unit) :
    (ofNat source.toNat + (ofNat target.toNat - ofNat source.toNat) * t).place? =
      some (wayPlace source (way source target q)) := by
  have hs := source.toNat_lt
  have ht' := target.toNat_lt
  have hsource : (ofNat source.toNat).place? = some ((source.toNat : Int) * single.unit) := place?_ofNat (by omega)
  have htarget : (ofNat target.toNat).place? = some ((target.toNat : Int) * single.unit) := place?_ofNat (by omega)
  have hlimit (n : Int) (hn : n.natAbs ≤ 255 * single.unit) : n.natAbs < single.limit :=
    Nat.lt_of_le_of_lt hn (units_lt_limit (by decide))
  have hway : (ofNat target.toNat - ofNat source.toNat).place? =
      some (((target.toNat : Int) - source.toNat) * single.unit) := by
    have h := nearest_units (n := (target.toNat : Int) - source.toNat) (by omega) Nat.one_pos
    rw [Int.natCast_one, Int.mul_one] at h
    rw [place?_sub (isFinite_ofNat (by omega)) (isFinite_ofNat (by omega)) htarget hsource, ← Int.sub_mul, h]
  have hfinite : (ofNat target.toNat - ofNat source.toNat).isFinite = true := by
    refine isFinite_of_place hway (hlimit _ ?_)
    rw [Int.natAbs_mul, Int.natAbs_natCast]
    exact Nat.mul_le_mul_right _ (by omega)
  have hproduct := place?_mul hfinite (isFinite_of_place ht (hlimit _ (by omega))) hway ht
  have hbound : (((target.toNat : Int) - source.toNat) * single.unit * q).natAbs ≤
      255 * single.unit * single.unit := by
    rw [Int.natAbs_mul, Int.natAbs_mul, Int.natAbs_natCast]
    exact Nat.mul_le_mul (Nat.mul_le_mul_right _ (by omega)) (by omega)
  have hfinite' := isFinite_of_place hproduct (hlimit _ (natAbs_nearest_le (by decide) hbound))
  exact place?_add (isFinite_ofNat (by omega)) hfinite' hsource hproduct

theorem toNat_mixChannel {t : Binary32} (ht : t.place? = some q) (h0 : 0 ≤ q) (h1 : q ≤ single.unit) :
    ((mixChannel source target t).toNat : Int) =
      nearestInteger (wayPlace source (way source target q)) := by
  have hpos := unit_pos
  obtain ⟨hlow, hhigh⟩ : 0 ≤ wayPlace source (way source target q) ∧
      wayPlace source (way source target q) ≤ 255 * single.unit := wayPlace_within h0 h1
  have hround := place?_roundToInteger (place?_mixed ht h0 h1) hlow hhigh
  generalize wayPlace source (way source target q) = p at *
  obtain ⟨k, hk⟩ : ∃ k, k = nearestInteger p := ⟨_, rfl⟩
  have hk0 : 0 ≤ k := hk ▸ Int.ediv_nonneg (by omega) (by omega)
  have hk1 : k < 256 := hk ▸ Int.ediv_lt_of_lt_mul (by omega) (by omega)
  rw [← hk] at hround ⊢
  have hku0 : 0 ≤ k * single.unit := Int.mul_nonneg hk0 (Int.natCast_nonneg _)
  have hku1 : k * single.unit ≤ 255 * single.unit :=
    Int.mul_le_mul_of_nonneg_right (by omega) (Int.natCast_nonneg _)
  have hclamp : ((ofNat source.toNat + (ofNat target.toNat - ofNat source.toNat) * t).roundToInteger.clamp .zero
      (.ofNat 255)).place? = some (k * single.unit) := by
    rw [place?_clamp hround place?_zero (place?_ofNat (by decide : 255 ≤ 1000)) (by omega), Option.some.injEq]
    omega
  exact (toNat_toByte hclamp hku0 hku1).trans (Int.mul_ediv_cancel k (by omega))

/-- A channel mixed at the shares that two numbers stand for. -/
theorem toward_mixChannel (source target : UInt8) {s t : Binary32} (h : s.shareQuanta ≤ t.shareQuanta) :
    Toward source (mixChannel source target (share s)) (mixChannel source target (share t)) target := by
  obtain ⟨hs0, hs1⟩ := s.shareQuanta_within
  obtain ⟨ht0, ht1⟩ := t.shareQuanta_within
  have hplaces : Toward (source.toNat * single.unit : Int) _ _ (target.toNat * single.unit) :=
    toward_wayPlace hs0 h ht1
  have hround := hplaces.map nearestInteger_mono
  rw [← toNat_mixChannel (place?_share s) hs0 hs1, ← toNat_mixChannel (place?_share t) ht0 ht1, nearestInteger_units,
    nearestInteger_units] at hround
  cases hround with
  | up source_le le le_target =>
      exact .up (UInt8.le_iff_toNat_le.2 (Int.ofNat_le.1 source_le)) (UInt8.le_iff_toNat_le.2 (Int.ofNat_le.1 le))
        (UInt8.le_iff_toNat_le.2 (Int.ofNat_le.1 le_target))
  | down target_le le le_source =>
      exact .down (UInt8.le_iff_toNat_le.2 (Int.ofNat_le.1 target_le)) (UInt8.le_iff_toNat_le.2 (Int.ofNat_le.1 le))
        (UInt8.le_iff_toNat_le.2 (Int.ofNat_le.1 le_source))

theorem mixChannel_none (source target : UInt8) {t : Binary32} (h : t.shareQuanta = 0) :
    mixChannel source target (share t) = source := by
  have hmix : ((mixChannel source target (share t)).toNat : Int) = _ :=
    toNat_mixChannel (place?_share t) t.shareQuanta_within.1 t.shareQuanta_within.2
  rw [h, way, Int.mul_zero, wayPlace_none, nearestInteger_units] at hmix
  exact UInt8.toNat.inj (Int.ofNat_inj.1 hmix)

theorem mixChannel_whole (source target : UInt8) {t : Binary32} (h : t.shareQuanta = single.unit) :
    mixChannel source target (share t) = target := by
  have hmix : ((mixChannel source target (share t)).toNat : Int) = _ :=
    toNat_mixChannel (place?_share t) t.shareQuanta_within.1 t.shareQuanta_within.2
  rw [h, way, wayPlace_whole, nearestInteger_units] at hmix
  exact UInt8.toNat.inj (Int.ofNat_inj.1 hmix)

/-! ### Colours -/

/-- The scale from one colour to another does not turn back and does not overshoot. A number that is none or not above
zero is no share of the way, one from one on the whole way; of two numbers the one that is the greater share gives a
colour at least as near to the target in each channel, and both lie between the ends. -/
theorem mix_toward (source target : Colour) {s t : Binary32}
    (h : (s.isNaN = true ∨ s.le .zero = true) ∨ Binary32.one.le t = true ∨ s.le t = true) :
    (∀ channel ∈ [red, green, blue],
      Toward (channel source) (channel (source.mix target s)) (channel (source.mix target t)) (channel target)) ∧
    (s.isNaN = true ∨ s.le .zero = true → source.mix target s = source) ∧
    (Binary32.one.le t = true → source.mix target t = target) ∧
    source.mix target .zero = source ∧ source.mix target .one = target := by
  have hle : s.shareQuanta ≤ t.shareQuanta := by
    rcases h with hnone | hwhole | hle
    · rw [shareQuanta_none hnone]
      exact t.shareQuanta_within.1
    · rw [shareQuanta_whole hwhole]
      exact s.shareQuanta_within.2
    · exact shareQuanta_mono hle
  have hnone {x : Binary32} (hx : x.isNaN = true ∨ x.le .zero = true) : source.mix target x = source := by
    have hq := shareQuanta_none hx
    rw [mix, mixChannel_none _ _ hq, mixChannel_none _ _ hq, mixChannel_none _ _ hq]
  have hwhole {x : Binary32} (hx : Binary32.one.le x = true) : source.mix target x = target := by
    have hq := shareQuanta_whole hx
    rw [mix, mixChannel_whole _ _ hq, mixChannel_whole _ _ hq, mixChannel_whole _ _ hq]
  refine ⟨fun channel hc => ?_, hnone, hwhole, hnone (.inr rfl), hwhole (by decide +kernel)⟩
  simp only [List.mem_cons, List.not_mem_nil, or_false] at hc
  rw [mix, mix]
  rcases hc with rfl | rfl | rfl <;> dsimp only
  · exact toward_mixChannel source.red target.red hle
  · exact toward_mixChannel source.green target.green hle
  · exact toward_mixChannel source.blue target.blue hle

/-- A severity that is no number, and a quarter, on a scale that rises in one channel and falls in another. -/
theorem mix_toward_quarter :
    let quarter : Binary32 := .one / .ofNat 4
    Binary32.nan.isNaN = true ∧ mix ⟨0, 200, 7⟩ ⟨255, 3, 7⟩ .nan = ⟨0, 200, 7⟩ ∧
      mix ⟨0, 200, 7⟩ ⟨255, 3, 7⟩ quarter = ⟨64, 151, 7⟩ ∧
      Toward 200 (mix ⟨0, 200, 7⟩ ⟨255, 3, 7⟩ .nan).green (mix ⟨0, 200, 7⟩ ⟨255, 3, 7⟩ quarter).green 3 := by
  intro quarter
  have hnan : Binary32.nan.isNaN = true := rfl
  obtain ⟨htoward, hnone, -⟩ := mix_toward (t := quarter) ⟨0, 200, 7⟩ ⟨255, 3, 7⟩ (.inl (.inl hnan))
  exact ⟨hnan, hnone (.inl hnan), by decide +kernel, htoward green (by simp)⟩

end Colour

end VehicleDamage
