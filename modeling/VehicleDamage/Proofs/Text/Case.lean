import Mathlib.Data.Nat.ModEq
import VehicleDamage.Text.Case

/-!
Lower case: what is in it stays as it is, ASCII capitals make no difference to it, and a text is put into it piece by
piece where something stands between the pieces that has no case.
-/

namespace VehicleDamage.Text

/-- A character that lower case leaves alone wherever it stands. -/
structure IsLower (c : Char) : Prop where
  lowerChar_eq : lowerChar c = [c]
  ne_sigma : c ≠ 'Σ'

instance (c : Char) : Decidable (IsLower c) :=
  decidable_of_iff (lowerChar c = [c] ∧ c ≠ 'Σ') ⟨fun h => ⟨h.1, h.2⟩, fun h => ⟨h.lowerChar_eq, h.ne_sigma⟩⟩

/-- What can be seen of all ASCII characters. -/
theorem forall_ascii {P : Char → Prop} (h : ∀ n ∈ List.range 128, P (.ofNat n)) {c : Char}
    (hc : c.toNat < 128) : P c := by
  have hp := h c.toNat (List.mem_range.2 hc)
  rwa [Char.ofNat_toNat] at hp

theorem toNat_ofNat {n : Nat} (h : n.isValidChar) : (Char.ofNat n).toNat = n := by
  rw [Char.ofNat, dif_pos h]
  rfl

/-! ### Images -/

namespace CaseRun

/-- The images of the one run lie before the other, after it or in its gaps. -/
def misses (run other : CaseRun) : Bool :=
  Nat.blt (run.image + (run.last - run.first)) other.first || Nat.blt other.last run.image ||
    (run.image % other.stride != other.first % other.stride &&
      (run.stride % other.stride == 0 || run.last == run.first))

/-- Images are characters, and do not begin to lie in ASCII or on the dotted capital I. -/
def isPlain (run : CaseRun) : Bool :=
  (Nat.ble 128 run.image || run.last == run.first && IsLower (.ofNat run.image)) &&
    (Nat.blt (run.image + (run.last - run.first)) 0x130 || Nat.blt 0x130 run.image) &&
    (Nat.blt (run.image + (run.last - run.first)) 0xd800 ||
      Nat.blt 0xdfff run.image && Nat.blt (run.image + (run.last - run.first)) 0x110000)

theorem image?_of_misses {run other : CaseRun} (h : run.misses other = true) {i : Nat}
    (hi : i ≤ run.last - run.first) (hs : i % run.stride = 0) : other.image? (run.image + i) = none := by
  rw [image?]
  refine if_neg fun ⟨hfirst, hlast, hstride⟩ => ?_
  simp only [misses, Bool.or_eq_true, Bool.and_eq_true, Nat.blt_eq, bne_iff_ne, beq_iff_eq] at h
  rcases h with (h | h) | ⟨hne, h⟩
  · omega
  · omega
  · have hi : i % other.stride = 0 := by
      rcases h with h | h
      · exact Nat.mod_eq_zero_of_dvd ((Nat.dvd_of_mod_eq_zero h).trans (Nat.dvd_of_mod_eq_zero hs))
      · rw [h] at hi
        rw [show i = 0 by omega, Nat.zero_mod]
    have hmod : run.image + i ≡ other.first [MOD other.stride] :=
      ((Nat.modEq_iff_dvd' hfirst).2 (Nat.dvd_of_mod_eq_zero hstride)).symm
    rw [Nat.ModEq, Nat.add_mod, hi, Nat.add_zero, Nat.mod_mod] at hmod
    exact hne hmod

end CaseRun

theorem misses_lowerRuns : (lowerRuns.all fun run => lowerRuns.all run.misses) = true := by
  decide +kernel

theorem isPlain_lowerRuns : lowerRuns.all CaseRun.isPlain = true := by
  decide +kernel

theorem CaseRun.image?_eq_some {run : CaseRun} {n m : Nat} (h : run.image? n = some m) :
    run.first ≤ n ∧ n ≤ run.last ∧ (n - run.first) % run.stride = 0 ∧ m = run.image + (n - run.first) := by
  rw [image?] at h
  split at h
  · next hin => exact ⟨hin.1, hin.2.1, hin.2.2, (Option.some.inj h).symm⟩
  · cases h

theorem CaseRun.isPlain_iff {run : CaseRun} : run.isPlain = true ↔
    (128 ≤ run.image ∨ run.last = run.first ∧ IsLower (.ofNat run.image)) ∧
      (run.image + (run.last - run.first) < 0x130 ∨ 0x130 < run.image) ∧
      (run.image + (run.last - run.first) < 0xd800 ∨
        0xdfff < run.image ∧ run.image + (run.last - run.first) < 0x110000) := by
  simp only [isPlain, Bool.or_eq_true, Bool.and_eq_true, Nat.ble_eq, Nat.blt_eq, beq_iff_eq, decide_eq_true_eq,
    and_assoc]

theorem toNat_image {run : CaseRun} (hrun : run ∈ lowerRuns) {n m : Nat} (h : run.image? n = some m) :
    (Char.ofNat m).toNat = m := by
  obtain ⟨-, -, hvalid⟩ := CaseRun.isPlain_iff.1 (List.all_eq_true.1 isPlain_lowerRuns run hrun)
  obtain ⟨hfirst, hlast, -, rfl⟩ := CaseRun.image?_eq_some h
  exact toNat_ofNat (by rw [Nat.isValidChar]; omega)

theorem image?_image {run : CaseRun} (hrun : run ∈ lowerRuns) {n m : Nat} (h : run.image? n = some m) :
    lowerRuns.findSome? (·.image? m) = none := by
  obtain ⟨hfirst, hlast, hstride, rfl⟩ := CaseRun.image?_eq_some h
  refine List.findSome?_eq_none_iff.2 fun other ho => CaseRun.image?_of_misses ?_ (by omega) hstride
  exact List.all_eq_true.1 (List.all_eq_true.1 misses_lowerRuns run hrun) other ho

/-- An image in the table is a character in lower case. -/
theorem isLower_of_image? {run : CaseRun} (hrun : run ∈ lowerRuns) {n m : Nat} (h : run.image? n = some m) :
    IsLower (.ofNat m) := by
  have hnat := toNat_image hrun h
  have hnone := image?_image hrun h
  obtain ⟨hascii, hdotted, -⟩ := CaseRun.isPlain_iff.1 (List.all_eq_true.1 isPlain_lowerRuns run hrun)
  obtain ⟨hfirst, hlast, -, hm⟩ := CaseRun.image?_eq_some h
  rcases hascii with hascii | ⟨hone, hlower⟩
  · refine ⟨?_, fun hs => ?_⟩
    · rw [lowerChar, if_neg (by omega), if_neg, imageIn, hnat, hnone]
      intro he
      rw [he] at hnat
      have hdot : '\u0130'.toNat = 0x130 := rfl
      omega
    · have hsome : (lowerRuns.findSome? (·.image? 'Σ'.toNat)).isSome = true := by decide
      rw [← hs, hnat, hnone] at hsome
      cases hsome
  · rwa [show m = run.image by omega]

theorem lowerChar_ne_nil (c : Char) : lowerChar c ≠ [] := by
  unfold lowerChar
  split
  · exact List.cons_ne_nil _ _
  · split <;> exact List.cons_ne_nil _ _

theorem isLower_of_mem_lowerChar {c d : Char} (hc : c ≠ 'Σ') (h : d ∈ lowerChar c) : IsLower d := by
  rw [lowerChar] at h
  split at h
  · next hascii =>
    rw [List.mem_singleton.1 h]
    exact forall_ascii (P := fun c => IsLower c.toLower) (by decide +kernel) hascii
  · next hascii =>
    split at h
    · rw [List.mem_cons, List.mem_singleton] at h
      rcases h with rfl | rfl <;> decide +kernel
    · next hdotted =>
      rw [List.mem_singleton.1 h, imageIn]
      split
      · next n hn =>
        obtain ⟨run, hrun, himage⟩ := List.exists_of_findSome?_eq_some hn
        exact isLower_of_image? hrun himage
      · next hn =>
        refine ⟨?_, hc⟩
        rw [lowerChar, if_neg hascii, if_neg hdotted, imageIn, hn]

/-! ### Texts -/

theorem isLower_of_mem_lower {cs : List Char} : ∀ d ∈ lower cs, IsLower d := by
  suffices hgo : ∀ before, ∀ d ∈ lower.go before cs, IsLower d from hgo []
  induction cs with
  | nil => exact fun _ => List.forall_mem_nil _
  | cons c cs ih =>
      intro before
      rw [lower.go, List.forall_mem_append]
      refine ⟨?_, ih _⟩
      split
      · rw [List.forall_mem_singleton]
        split <;> decide +kernel
      · next hc => exact fun d hd => isLower_of_mem_lowerChar hc hd

theorem lower_eq_self {cs : List Char} (h : ∀ c ∈ cs, IsLower c) : lower cs = cs := by
  suffices hgo : ∀ before, lower.go before cs = cs from hgo []
  induction cs with
  | nil => exact fun _ => rfl
  | cons c cs ih =>
      obtain ⟨hc, hcs⟩ := List.forall_mem_cons.1 h
      intro before
      rw [lower.go, if_neg hc.ne_sigma, hc.lowerChar_eq, ih hcs]
      rfl

/-! ### ASCII capitals -/

/-- What does not tell ASCII capitals from small letters takes lower case there as the text itself. -/
theorem apply_toLower {α : Type} {f : Char → α}
    (h : ∀ n ∈ List.range 26, f (Char.ofNat (65 + n)).toLower = f (.ofNat (65 + n))) (c : Char) :
    f c.toLower = f c := by
  by_cases hc : c.val ≥ 'A'.val ∧ c.val ≤ 'Z'.val
  · obtain ⟨hlow, hhigh⟩ : 65 ≤ c.toNat ∧ c.toNat ≤ 90 :=
      ⟨UInt32.le_iff_toNat_le.1 hc.1, UInt32.le_iff_toNat_le.1 hc.2⟩
    have hf := h (c.toNat - 65) (List.mem_range.2 (by omega))
    rwa [Nat.add_sub_cancel' hlow, Char.ofNat_toNat] at hf
  · exact congrArg f (dif_neg hc)

theorem lowerChar_toLower (c : Char) : lowerChar c.toLower = lowerChar c :=
  apply_toLower (by decide) c

theorem isCased_toLower (c : Char) : isCased c.toLower = isCased c :=
  apply_toLower (by decide) c

theorem isCaseIgnorable_toLower (c : Char) : isCaseIgnorable c.toLower = isCaseIgnorable c :=
  apply_toLower (by decide +kernel) c

/-- Only a character without case itself becomes it. -/
theorem toLower_eq_iff {c d : Char} (h : d.isAlpha = false) : c.toLower = d ↔ c = d := by
  refine decide_eq_decide.1 (apply_toLower (f := fun c => decide (c = d)) (fun n hn => ?_) c)
  have halpha : ∀ n ∈ List.range 26,
      (Char.ofNat (65 + n)).toLower.isAlpha = true ∧ (Char.ofNat (65 + n)).isAlpha = true := by
    decide
  have hne {c : Char} (hc : c.isAlpha = true) : c ≠ d := fun he => by
    rw [he, h] at hc
    cases hc
  rw [decide_eq_false (hne (halpha n hn).1), decide_eq_false (hne (halpha n hn).2)]

theorem toLower_eq_sigma_iff (c : Char) : c.toLower = 'Σ' ↔ c = 'Σ' :=
  toLower_eq_iff (by decide)

theorem map_toLower_eq_iff {cs ds : List Char} (h : ∀ d ∈ ds, d.isAlpha = false) :
    cs.map Char.toLower = ds ↔ cs = ds := by
  induction ds generalizing cs with
  | nil => exact List.map_eq_nil_iff
  | cons d ds ih =>
      obtain ⟨hd, hds⟩ := List.forall_mem_cons.1 h
      cases cs with
      | nil => exact iff_of_false nofun nofun
      | cons c cs => rw [List.map_cons, List.cons.injEq, List.cons.injEq, toLower_eq_iff hd, ih hds]

theorem meetsCased_map_toLower (cs : List Char) : meetsCased (cs.map Char.toLower) = meetsCased cs := by
  rw [meetsCased, meetsCased, List.dropWhile_map,
    funext isCaseIgnorable_toLower (f := isCaseIgnorable ∘ Char.toLower) (g := isCaseIgnorable)]
  cases cs.dropWhile isCaseIgnorable with
  | nil => rfl
  | cons c rest => exact isCased_toLower c

/-- Lower case does not tell ASCII capitals from small letters. -/
theorem lower_map_toLower (cs : List Char) : lower (cs.map Char.toLower) = lower cs := by
  suffices hgo : ∀ before, lower.go (before.map Char.toLower) (cs.map Char.toLower) = lower.go before cs from hgo []
  induction cs with
  | nil => exact fun _ => rfl
  | cons c cs ih =>
      intro before
      have hmore := ih (c :: before)
      rw [List.map_cons] at hmore
      rw [List.map_cons, lower.go, lower.go, hmore, meetsCased_map_toLower, meetsCased_map_toLower, lowerChar_toLower]
      simp only [toLower_eq_sigma_iff]

theorem lower_congr {cs ds : List Char} (h : cs.map Char.toLower = ds.map Char.toLower) : lower cs = lower ds := by
  rw [← lower_map_toLower, h, lower_map_toLower]

theorem lower_eq_nil_iff {cs : List Char} : lower cs = [] ↔ cs = [] := by
  cases cs with
  | nil => exact iff_of_true rfl rfl
  | cons c cs =>
      refine iff_of_false (fun h => ?_) (List.cons_ne_nil _ _)
      obtain ⟨hc, -⟩ := List.append_eq_nil_iff.1 (show _ ++ lower.go [c] cs = [] from h)
      split at hc
      · cases hc
      · exact lowerChar_ne_nil c hc

/-! ### Texts in pieces -/

/-- What no final letter is told by: it has no case, and the case of what is beyond it does not count. -/
structure IsBarrier (d : Char) : Prop extends IsLower d where
  isCased_eq : isCased d = false
  isCaseIgnorable_eq : isCaseIgnorable d = false

instance (d : Char) : Decidable (IsBarrier d) :=
  decidable_of_iff (IsLower d ∧ isCased d = false ∧ isCaseIgnorable d = false)
    ⟨fun h => ⟨h.1, h.2.1, h.2.2⟩, fun h => ⟨h.toIsLower, h.isCased_eq, h.isCaseIgnorable_eq⟩⟩

theorem meetsCased_cut {d : Char} (hd : IsBarrier d) (cs ds : List Char) :
    meetsCased (cs ++ d :: ds) = meetsCased cs := by
  have hds : (d :: ds).dropWhile isCaseIgnorable = d :: ds :=
    List.dropWhile_cons_of_neg (by simp [hd.isCaseIgnorable_eq])
  rw [meetsCased, meetsCased, List.dropWhile_append, hds]
  cases cs.dropWhile isCaseIgnorable with
  | nil => exact hd.isCased_eq
  | cons c rest => rfl

theorem lower_go_before {d : Char} (hd : IsBarrier d) (before beyond cs : List Char) :
    lower.go (before ++ d :: beyond) cs = lower.go before cs := by
  induction cs generalizing before with
  | nil => rfl
  | cons c cs ih =>
      rw [lower.go, lower.go, meetsCased_cut hd, ← List.cons_append, ih]

theorem lower_cut {d : Char} (hd : IsBarrier d) (cs ds : List Char) :
    lower (cs ++ d :: ds) = lower cs ++ d :: lower ds := by
  suffices hgo : ∀ before, lower.go before (cs ++ d :: ds) = lower.go before cs ++ d :: lower ds from hgo []
  induction cs with
  | nil =>
      intro before
      show lower.go before (d :: ds) = d :: lower ds
      rw [lower.go, if_neg hd.ne_sigma, hd.lowerChar_eq]
      exact congrArg (d :: ·) (lower_go_before hd [] before ds)
  | cons c cs ih =>
      intro before
      rw [List.cons_append, lower.go, lower.go, ih, meetsCased_cut hd, List.append_assoc]

end VehicleDamage.Text
