import VehicleDamage.Proofs.Number.Order

/-!
Numbers that are equal: both zeros are one number, and all others are represented once.
-/

namespace VehicleDamage

open BinaryFormat (single)

namespace Binary32

/-- Equal as numbers; a NaN is no number. -/
def Same (x y : Binary32) : Prop :=
  ∃ a, x.place? = some a ∧ y.place? = some a

variable {x y v : Binary32}

theorem same_refl (h : x.isNaN = false) : x.Same x := by
  obtain ⟨a, ha⟩ := exists_place h
  exact ⟨a, ha, ha⟩

theorem signed_eq_signed {s t : Bool} {m n : Nat} (h : signed s m = signed t n) : m = n ∧ (s = t ∨ m = 0) := by
  cases s <;> cases t <;> simp only [signed, if_true, Bool.false_eq_true, if_false] at h <;> grind

theorem limit_ne_zero : single.limit ≠ 0 :=
  Nat.ne_of_gt (Nat.two_pow_pos _)

theorem place?_infinite_ne_zero (s : Bool) : (infinite s).place? ≠ some 0 := by
  intro h
  have hs : signed s single.limit = signed false 0 := Option.some.inj h
  exact limit_ne_zero (signed_eq_signed hs).1

/-- Only zero has two representations. -/
theorem eq_of_place {a : Int} (ha : a ≠ 0) (hx : x.place? = some a) (hy : y.place? = some a) : x = y := by
  cases x with
  | nan => cases hx
  | infinite s =>
      cases y with
      | nan => cases hy
      | infinite t =>
          have hs := (signed_eq_signed (Option.some.inj (hx.trans hy.symm))).2
          rw [hs.resolve_right limit_ne_zero]
      | finite t n =>
          have hq := (signed_eq_signed (Option.some.inj (hx.trans hy.symm))).1
          exact absurd n.below_limit (hq ▸ Nat.lt_irrefl _)
  | finite s m =>
      cases y with
      | nan => cases hy
      | infinite t =>
          have hq := (signed_eq_signed (Option.some.inj (hx.trans hy.symm))).1
          exact absurd m.below_limit (hq ▸ Nat.lt_irrefl _)
      | finite t n =>
          obtain ⟨hq, hs⟩ := signed_eq_signed (Option.some.inj (hx.trans hy.symm))
          have hm : m.quanta ≠ 0 := fun h0 => ha (by rw [← Option.some.inj hx, h0]; cases s <;> rfl)
          rw [hs.resolve_right hm, show m = n by cases m; cases n; cases hq; rfl]

/-- Adding a finite number to equal numbers; of two zeros the sum may again be a zero of either sign. -/
theorem Same.add_right (h : x.Same y) (hv : v.isFinite = true) : (x + v).Same (y + v) := by
  obtain ⟨a, hx, hy⟩ := h
  -- Off zero the two are one representation. At zero the sum is zero again, or the rounding of a quotient that
  -- does not see the signs.
  by_cases ha : a = 0
  · subst ha
    cases x with
    | nan => cases hx
    | infinite s => exact absurd hx (place?_infinite_ne_zero s)
    | finite s m =>
        cases y with
        | nan => cases hy
        | infinite t => exact absurd hy (place?_infinite_ne_zero t)
        | finite t n =>
            cases v with
            | nan | infinite => cases hv
            | finite u k =>
                show Same (add _ _) (add _ _)
                have hm : signed s m.quanta = 0 := Option.some.inj hx
                have hn : signed t n.quanta = 0 := Option.some.inj hy
                simp only [add, hm, hn]
                split
                · exact ⟨0, by cases s <;> cases u <;> rfl, by cases t <;> cases u <;> rfl⟩
                · exact same_refl (isNaN_ofQuotient _ _ _)
  · rw [eq_of_place ha hx hy]
    exact same_refl (isNaN_add (isNaN_eq_false_of_place hy) hv)

theorem Same.clampSeverity (h : x.Same y) : (VehicleDamage.clampSeverity x).Same (VehicleDamage.clampSeverity y) := by
  obtain ⟨a, hx, hy⟩ := h
  have hlow : x.lt zero = y.lt zero := by simp only [lt, hx, hy]
  have hhigh : one.lt x = one.lt y := by simp only [lt, hx, hy]
  rw [VehicleDamage.clampSeverity, VehicleDamage.clampSeverity, clamp, clamp, hlow, hhigh]
  split
  · exact same_refl rfl
  · split
    · exact same_refl (inUnit_one.isNaN_eq)
    · exact ⟨a, hx, hy⟩

end Binary32

open Binary32

theorem ApplyMode.same_update (mode : ApplyMode) {x y value : Binary32} (h : x.Same y)
    (hv : value.isFinite = true) : (mode.update x value).Same (mode.update y value) := by
  cases mode with
  | absolute => exact same_refl (inUnit_clampSeverity (isNaN_eq_false_of_isFinite hv)).isNaN_eq
  | delta => exact (h.add_right hv).clampSeverity

/-- Equal severities are shown alike. -/
theorem ZoneStyle.shown_eq_of_same (style : ZoneStyle) (palette : Palette) {x y : Binary32} (h : x.Same y) :
    style.shown palette x = style.shown palette y := by
  obtain ⟨a, hx, hy⟩ := h.clampSeverity
  have hle : (clampSeverity x).le .zero = (clampSeverity y).le .zero := by simp only [le, hx, hy]
  have hnx : x.isNaN = false := isNaN_eq_false_of_place h.choose_spec.1
  have hny : y.isNaN = false := isNaN_eq_false_of_place h.choose_spec.2
  simp only [shown, hnx, hny, Bool.false_eq_true, if_false, hle]
  split
  · rfl
  · next hp =>
    have ha : a ≠ 0 := by
      rintro rfl
      exact hp ((le_iff hy place?_zero).2 (Int.le_refl _))
    rw [eq_of_place ha hx hy]

end VehicleDamage
