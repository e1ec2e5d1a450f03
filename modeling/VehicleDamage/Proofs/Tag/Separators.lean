import VehicleDamage.Proofs.Text.Case
import VehicleDamage.Tag

/-!
The separators of a tag. They have no case, and lower case neither makes nor removes any.
-/

namespace VehicleDamage.Tag

open Text

/-- What stands between the words of a tag. -/
def isSeparator (c : Char) : Bool :=
  c = '-' || c = '_' || isBlank c

theorem isSeparator_iff {c : Char} : isSeparator c = true ↔ c = '-' ∨ c = '_' ∨ isBlank c = true := by
  simp [isSeparator, or_assoc]

theorem isSeparator_of_isBlank {c : Char} (h : isBlank c = true) : isSeparator c = true :=
  isSeparator_iff.2 (.inr (.inr h))

/-- The code points of the separators. -/
def separatorCodes : List Nat :=
  [9, 10, 11, 12, 13, 0x20, 0x2d, 0x5f, 0x85, 0xa0, 0x1680] ++ List.range' 0x2000 11 ++
    [0x2028, 0x2029, 0x202f, 0x205f, 0x3000]

theorem toNat_mem_separatorCodes {d : Char} (h : isSeparator d = true) : d.toNat ∈ separatorCodes := by
  rcases isSeparator_iff.1 h with rfl | rfl | hb
  · decide
  · decide
  · simp [isBlank] at hb
    simp [separatorCodes]
    omega

/-- Separators have no case, and nothing beyond them counts for the case of a word. -/
theorem isBarrier_of_isSeparator {d : Char} (h : isSeparator d = true) : IsBarrier d := by
  have hall : ∀ n ∈ separatorCodes, IsBarrier (.ofNat n) := by
    decide +kernel
  have hd := hall d.toNat (toNat_mem_separatorCodes h)
  rwa [Char.ofNat_toNat] at hd

/-- No separator is among the characters of a run or their images. -/
def sparesSeparators (run : CaseRun) : Bool :=
  separatorCodes.all fun n => (Nat.blt n run.first || Nat.blt run.last n) &&
    (Nat.blt n run.image || Nat.blt (run.image + (run.last - run.first)) n)

theorem sparesSeparators_lowerRuns : lowerRuns.all sparesSeparators = true := by
  decide +kernel

theorem isSeparator_imageIn (c : Char) : isSeparator (imageIn lowerRuns c) = isSeparator c := by
  rw [imageIn]
  split
  · next m hm =>
    obtain ⟨run, hrun, himage⟩ := List.exists_of_findSome?_eq_some hm
    have hnat := toNat_image hrun himage
    obtain ⟨hfirst, hlast, -, hplace⟩ := CaseRun.image?_eq_some himage
    have hspares {d : Char} (hd : isSeparator d = true) :
        (d.toNat < run.first ∨ run.last < d.toNat) ∧
          (d.toNat < run.image ∨ run.image + (run.last - run.first) < d.toNat) := by
      have hall := List.all_eq_true.1 (List.all_eq_true.1 sparesSeparators_lowerRuns run hrun) _
        (toNat_mem_separatorCodes hd)
      simpa only [Bool.and_eq_true, Bool.or_eq_true, Nat.blt_eq] using hall
    have hc : ¬isSeparator c = true := fun hc => by
      have hs := (hspares hc).1
      omega
    have hd : ¬isSeparator (.ofNat m) = true := fun hd => by
      have hs := (hspares hd).2
      omega
    rw [Bool.eq_false_iff.2 hc, Bool.eq_false_iff.2 hd]
  · rfl

/-- Lower case neither makes nor removes a separator. -/
theorem isSeparator_of_mem_lowerChar {c d : Char} (h : d ∈ lowerChar c) : isSeparator d = isSeparator c := by
  rw [lowerChar] at h
  split at h
  · next hc =>
    rw [List.mem_singleton.1 h]
    exact apply_toLower (by decide +kernel) c
  · split at h
    · next hc =>
      rw [List.mem_cons, List.mem_singleton] at h
      rw [hc]
      rcases h with rfl | rfl <;> rfl
    · rw [List.mem_singleton.1 h, isSeparator_imageIn]

/-- A text is made of separators, or of none, in lower case as well. -/
theorem forall_lower_iff {cs : List Char} {b : Bool} :
    (∀ c ∈ lower cs, isSeparator c = b) ↔ ∀ c ∈ cs, isSeparator c = b := by
  have hgo (before : List Char) :
      (∀ c ∈ lower.go before cs, isSeparator c = b) ↔ ∀ c ∈ cs, isSeparator c = b := by
    induction cs generalizing before with
    | nil => exact Iff.rfl
    | cons c cs ih =>
        rw [lower.go, List.forall_mem_append, List.forall_mem_cons, ih]
        refine and_congr_left fun _ => ?_
        split
        · next hc =>
          rw [hc]
          split <;> simp [isSeparator, isBlank]
        · obtain ⟨d, hd⟩ := List.exists_mem_of_ne_nil _ (lowerChar_ne_nil c)
          exact ⟨fun h => isSeparator_of_mem_lowerChar hd ▸ h d hd,
            fun h d hd => (isSeparator_of_mem_lowerChar hd).trans h⟩
  exact hgo []

end VehicleDamage.Tag
