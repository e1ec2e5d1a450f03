import VehicleDamage.Template.Zone

/-!
Texts cut at byte offsets.
-/

namespace VehicleDamage

open Text

namespace Text

@[simp]
theorem byteLength_nil : byteLength [] = 0 := rfl

@[simp]
theorem byteLength_cons (c : Char) (cs : List Char) :
    byteLength (c :: cs) = c.utf8Size + byteLength cs := rfl

@[simp]
theorem byteLength_append (cs ds : List Char) : byteLength (cs ++ ds) = byteLength cs + byteLength ds := by
  induction cs with
  | nil => simp
  | cons c cs ih => simp [ih, Nat.add_assoc]

theorem length_le_byteLength (cs : List Char) : cs.length ≤ byteLength cs := by
  induction cs with
  | nil => exact Nat.le_refl 0
  | cons c cs ih =>
      have hc := c.utf8Size_pos
      simp only [List.length_cons, byteLength_cons]
      omega

theorem byteLength_eq_length {cs : List Char} (h : ∀ c ∈ cs, c.utf8Size = 1) : byteLength cs = cs.length := by
  induction cs with
  | nil => rfl
  | cons c cs ih =>
      obtain ⟨hc, hcs⟩ := List.forall_mem_cons.1 h
      rw [byteLength_cons, hc, ih hcs, List.length_cons, Nat.add_comm]

theorem eq_nil_of_byteLength {cs : List Char} (h : byteLength cs = 0) : cs = [] := by
  have hl := length_le_byteLength cs
  exact List.length_eq_zero_iff.1 (by omega)

theorem eq_of_dropWhile {p : Char → Bool} {cs rest : List Char} {c : Char} (h : cs.dropWhile p = c :: rest) :
    cs = cs.takeWhile p ++ c :: rest ∧ p c = false := by
  constructor
  · rw [← h, List.takeWhile_append_dropWhile]
  · have hc := List.head?_dropWhile_not p cs
    rw [h] at hc
    simpa using hc

/-- A text is cut where the first part ends, if the second does not go on with it. -/
theorem cut_append {p : Char → Bool} {cs ds : List Char} (hc : ∀ c ∈ cs, p c = true)
    (hd : ∀ d ∈ ds.head?, p d = false) : (cs ++ ds).takeWhile p = cs ∧ (cs ++ ds).dropWhile p = ds := by
  rw [List.takeWhile_append_of_pos hc, List.dropWhile_append_of_pos hc]
  cases ds with
  | nil => exact ⟨List.append_nil _, rfl⟩
  | cons d ds =>
      have hn : ¬p d = true := by simp [hd d rfl]
      rw [List.takeWhile_cons_of_neg hn, List.dropWhile_cons_of_neg hn, List.append_nil]
      exact ⟨rfl, rfl⟩

/-- Of two ways to cut one text, the earlier cut leaves the later one to make. -/
theorem append_of_byteLength_le {as bs cs ds : List Char} (h : as ++ bs = cs ++ ds)
    (hl : byteLength as ≤ byteLength cs) : ∃ ms, cs = as ++ ms ∧ bs = ms ++ ds := by
  rcases List.append_eq_append_iff.1 h with ⟨ms, hc, hb⟩ | ⟨ms, ha, hd⟩
  · exact ⟨ms, hc, hb⟩
  · rw [ha, byteLength_append] at hl
    obtain rfl : ms = [] := eq_nil_of_byteLength (by omega)
    exact ⟨[], by simpa using ha.symm, by simpa using hd.symm⟩

/-- The bytes from `start` to `stop` of a text are whole characters of it. -/
def Within (text : List Char) (start stop : Nat) : Prop :=
  ∃ before inside after, text = before ++ inside ++ after ∧ byteLength before = start ∧
    start + byteLength inside = stop

theorem Within.extend {text : List Char} {start stop : Nat} (h : Within text start stop)
    (before after : List Char) :
    Within (before ++ text ++ after) (byteLength before + start) (byteLength before + stop) := by
  obtain ⟨bs, is, as, rfl, rfl, rfl⟩ := h
  exact ⟨before ++ bs, is, as ++ after, by simp, by simp, by simp [Nat.add_assoc]⟩

end Text

theorem splitBytes?_iff {n : Nat} {cs as bs : List Char} :
    splitBytes? n cs = some (as, bs) ↔ cs = as ++ bs ∧ byteLength as = n := by
  fun_induction splitBytes? n cs generalizing as bs with
  | case1 cs =>
      constructor
      · intro h
        cases h
        exact ⟨rfl, rfl⟩
      · rintro ⟨rfl, h⟩
        rw [eq_nil_of_byteLength h, List.nil_append]
  | case2 n =>
      constructor
      · nofun
      · rintro ⟨h, hn⟩
        obtain ⟨rfl, -⟩ := List.append_eq_nil_iff.1 h.symm
        cases hn
  | case3 n c cs hc ih =>
      rw [Option.map_eq_some_iff]
      constructor
      · rintro ⟨⟨as', bs'⟩, h, he⟩
        cases he
        obtain ⟨rfl, hl⟩ := ih.1 h
        exact ⟨rfl, by simp only [byteLength_cons]; omega⟩
      · rintro ⟨h, hn⟩
        cases as with
        | nil => cases hn
        | cons a as =>
            obtain ⟨rfl, rfl⟩ := List.cons.inj h
            exact ⟨(as, bs), ih.2 ⟨rfl, by simp only [byteLength_cons] at hn; omega⟩, rfl⟩
  | case4 n c cs hc =>
      constructor
      · nofun
      · rintro ⟨h, hn⟩
        cases as with
        | nil => cases hn
        | cons a as =>
            obtain ⟨rfl, rfl⟩ := List.cons.inj h
            simp only [byteLength_cons] at hn
            omega

theorem splitBytes?_append (as bs : List Char) : splitBytes? (byteLength as) (as ++ bs) = some (as, bs) :=
  splitBytes?_iff.2 ⟨rfl, rfl⟩

end VehicleDamage
