import VehicleDamage.Proofs.Text.Bytes

/-!
Texts cut at characters, and texts without blanks around them.
-/

namespace VehicleDamage.Text

variable {p : Char → Bool}

theorem splitWhere_of_forall {cs : List Char} (h : ∀ c ∈ cs, p c = false) : splitWhere p cs = [cs] := by
  induction cs with
  | nil => rfl
  | cons c cs ih =>
      obtain ⟨hc, hcs⟩ := List.forall_mem_cons.1 h
      rw [splitWhere, if_neg (by simp [hc]), ih hcs]

theorem splitWhere_ne_nil (p : Char → Bool) (cs : List Char) : splitWhere p cs ≠ [] := by
  cases cs with
  | nil => exact List.cons_ne_nil _ _
  | cons c cs =>
      rw [splitWhere]
      split
      · exact List.cons_ne_nil _ _
      · split <;> exact List.cons_ne_nil _ _

/-- A cut divides the pieces into those before and those after it. -/
theorem splitWhere_cut {d : Char} (hd : p d = true) (cs ds : List Char) :
    splitWhere p (cs ++ d :: ds) = splitWhere p cs ++ splitWhere p ds := by
  induction cs with
  | nil => exact if_pos hd
  | cons c cs ih =>
      obtain ⟨piece, more, hp⟩ := List.exists_cons_of_ne_nil (splitWhere_ne_nil p cs)
      rw [List.cons_append, splitWhere, splitWhere, ih, hp]
      split <;> rfl

theorem splitWhere_append {cs : List Char} (h : ∀ c ∈ cs, p c = false) {d : Char} (hd : p d = true)
    (ds : List Char) : splitWhere p (cs ++ d :: ds) = cs :: splitWhere p ds := by
  rw [splitWhere_cut hd, splitWhere_of_forall h]
  rfl

/-- Pieces joined at a character that they do not have are cut apart again. -/
theorem splitWhere_intercalate {d : Char} (hd : p d = true) {pieces : List (List Char)} (hne : pieces ≠ [])
    (h : ∀ piece ∈ pieces, ∀ c ∈ piece, p c = false) : splitWhere p ([d].intercalate pieces) = pieces := by
  induction pieces with
  | nil => exact absurd rfl hne
  | cons piece pieces ih =>
      obtain ⟨hpiece, hpieces⟩ := List.forall_mem_cons.1 h
      cases pieces with
      | nil => simpa using splitWhere_of_forall hpiece
      | cons next more =>
          rw [List.intercalate_cons_cons, List.append_assoc, List.singleton_append, splitWhere_append hpiece hd,
            ih (List.cons_ne_nil _ _) hpieces]

/-- Pieces joined again at the character they were cut at are the text. -/
theorem intercalate_splitWhere (d : Char) (cs : List Char) : [d].intercalate (splitWhere (· == d) cs) = cs := by
  induction cs with
  | nil => rfl
  | cons c cs ih =>
      obtain ⟨piece, more, hp⟩ := List.exists_cons_of_ne_nil (splitWhere_ne_nil (· == d) cs)
      rw [hp] at ih
      rw [splitWhere, hp]
      split
      · next hc => rw [List.intercalate_cons_cons, ih, beq_iff_eq.1 hc, List.nil_append, List.singleton_append]
      · cases more with
        | nil => simpa using ih
        | cons next more => rw [List.intercalate_cons_cons] at ih ⊢; simpa using ih

/-- There is one piece more than there are cuts. -/
theorem length_splitWhere (p : Char → Bool) (cs : List Char) : (splitWhere p cs).length = cs.countP p + 1 := by
  induction cs with
  | nil => rfl
  | cons c cs ih =>
      obtain ⟨piece, more, hp⟩ := List.exists_cons_of_ne_nil (splitWhere_ne_nil p cs)
      rw [hp, List.length_cons] at ih
      rw [splitWhere, List.countP_cons, hp]
      split
      · rw [List.length_cons, List.length_cons, ih]
      · rw [List.length_cons, ih]

/-- A text is cut nowhere, or at the end of its first piece. -/
theorem splitWhere_cases (p : Char → Bool) (cs : List Char) :
    (splitWhere p cs = [cs] ∧ ∀ c ∈ cs, p c = false) ∨
      ∃ piece d ds, cs = piece ++ d :: ds ∧ (∀ c ∈ piece, p c = false) ∧ p d = true ∧
        splitWhere p cs = piece :: splitWhere p ds := by
  by_cases h : ∀ c ∈ cs, p c = false
  · exact .inl ⟨splitWhere_of_forall h, h⟩
  · right
    obtain ⟨c, hc, hp⟩ : ∃ c ∈ cs, p c = true := by simpa using h
    cases hd : cs.dropWhile (fun c => !p c) with
    | nil =>
        have hall := List.takeWhile_append_dropWhile (p := fun c => !p c) (l := cs)
        rw [hd, List.append_nil] at hall
        rw [← hall] at hc
        have hn := List.all_eq_true.1 List.all_takeWhile c hc
        simp [hp] at hn
    | cons d ds =>
        obtain ⟨hcs, hd⟩ := eq_of_dropWhile hd
        have hpiece : ∀ c ∈ cs.takeWhile fun c => !p c, p c = false := fun c hc => by
          simpa using List.all_eq_true.1 List.all_takeWhile c hc
        have hp : p d = true := by simpa using hd
        refine ⟨_, d, ds, hcs, hpiece, hp, ?_⟩
        rw [← splitWhere_append hpiece hp ds, ← hcs]

/-- A first piece may be changed without a change of the others. -/
theorem exists_first_piece (p : Char → Bool) (cs : List Char) : ∃ piece rest more, cs = piece ++ rest ∧
    (∀ c ∈ piece, p c = false) ∧ splitWhere p cs = piece :: more ∧
    ∀ other, (∀ c ∈ other, p c = false) → splitWhere p (other ++ rest) = other :: more := by
  rcases splitWhere_cases p cs with ⟨hs, hfree⟩ | ⟨piece, d, ds, rfl, hfree, hd, hs⟩
  · refine ⟨cs, [], [], (List.append_nil cs).symm, hfree, hs, fun other ho => ?_⟩
    rw [List.append_nil, splitWhere_of_forall ho]
  · exact ⟨piece, d :: ds, _, rfl, hfree, hs, fun other ho => splitWhere_append ho hd ds⟩

/-- What a piece is made of: characters of the text other than those it is cut at. -/
theorem of_mem_splitWhere {cs piece : List Char} (h : piece ∈ splitWhere p cs) :
    ∀ c ∈ piece, c ∈ cs ∧ p c = false := by
  induction cs generalizing piece with
  | nil =>
      rw [splitWhere, List.mem_singleton] at h
      rw [h]
      nofun
  | cons c cs ih =>
      rw [splitWhere] at h
      split at h
      · rcases List.mem_cons.1 h with rfl | h
        · nofun
        · exact fun d hd => ⟨List.mem_cons_of_mem _ (ih h d hd).1, (ih h d hd).2⟩
      · next hc =>
        split at h
        · rw [List.mem_singleton.1 h]
          simpa using hc
        · next first more hs =>
          rw [hs] at ih
          rcases List.mem_cons.1 h with rfl | h
          · refine List.forall_mem_cons.2 ⟨⟨List.mem_cons_self, by simpa using hc⟩, fun d hd => ?_⟩
            have hd' := ih List.mem_cons_self d hd
            exact ⟨List.mem_cons_of_mem _ hd'.1, hd'.2⟩
          · intro d hd
            have hd' := ih (List.mem_cons_of_mem _ h) d hd
            exact ⟨List.mem_cons_of_mem _ hd'.1, hd'.2⟩

theorem splitOnce?_append {cs : List Char} (h : ∀ c ∈ cs, p c = false) {d : Char} (hd : p d = true)
    (ds : List Char) : splitOnce? p (cs ++ d :: ds) = some (cs, ds) := by
  have hc : ∀ c ∈ cs, (!p c) = true := fun c hm => by rw [h c hm]; rfl
  have hh : ∀ c ∈ (d :: ds).head?, (!p c) = false := by simp [hd]
  rw [splitOnce?, (cut_append hc hh).2, (cut_append hc hh).1]

theorem splitOnce?_eq_some {cs before after : List Char} (h : splitOnce? p cs = some (before, after)) :
    ∃ d, p d = true ∧ cs = before ++ d :: after ∧ ∀ c ∈ before, p c = false := by
  rw [splitOnce?] at h
  split at h
  · cases h
  · next d after' hd =>
    obtain ⟨hcs, hp⟩ := eq_of_dropWhile hd
    cases h
    refine ⟨d, by simpa using hp, hcs, fun c hc => ?_⟩
    simpa using List.all_eq_true.1 List.all_takeWhile c hc

theorem splitOnce?_of_forall {cs : List Char} (h : ∀ c ∈ cs, p c = false) : splitOnce? p cs = none := by
  cases hs : splitOnce? p cs with
  | none => rfl
  | some parts =>
      obtain ⟨before, after⟩ := parts
      obtain ⟨d, hd, rfl, -⟩ := splitOnce?_eq_some hs
      rw [h d (by simp)] at hd
      cases hd

/-- No blank at either end. -/
structure IsTrimmed (cs : List Char) : Prop where
  head : ∀ c ∈ cs.head?, isBlank c = false
  last : ∀ c ∈ cs.getLast?, isBlank c = false

theorem dropWhile_eq_self {cs : List Char} (h : ∀ c ∈ cs.head?, p c = false) : cs.dropWhile p = cs :=
  (cut_append (List.forall_mem_nil _) h).2

theorem dropEnd_eq_self {cs : List Char} (h : ∀ c ∈ cs.getLast?, p c = false) : dropEnd p cs = cs := by
  rw [dropEnd, dropWhile_eq_self (by simpa using h), List.reverse_reverse]

theorem trim_eq_self {cs : List Char} (h : IsTrimmed cs) : trim cs = cs := by
  rw [trim, dropWhile_eq_self h.head, dropEnd_eq_self h.last]

/-- What is dropped at the end satisfies the predicate, and what is left does not end in such a character. -/
theorem exists_dropEnd (p : Char → Bool) (cs : List Char) :
    ∃ dropped, cs = dropEnd p cs ++ dropped ∧ (∀ c ∈ dropped, p c = true) ∧
      ∀ c ∈ (dropEnd p cs).getLast?, p c = false := by
  refine ⟨(cs.reverse.takeWhile p).reverse, ?_, fun c hc => ?_, ?_⟩
  · rw [dropEnd, ← List.reverse_append, List.takeWhile_append_dropWhile, List.reverse_reverse]
  · exact List.all_eq_true.1 List.all_takeWhile c (List.mem_reverse.1 hc)
  · rw [dropEnd, List.getLast?_reverse]
    intro c hc
    have hh := List.head?_dropWhile_not p cs.reverse
    rw [Option.mem_def.1 hc] at hh
    simpa using hh

/-- What trimming takes away on both sides is blank. -/
theorem exists_trim (cs : List Char) : ∃ before after, cs = before ++ trim cs ++ after ∧
    (∀ c ∈ before, isBlank c = true) ∧ (∀ c ∈ after, isBlank c = true) ∧ IsTrimmed (trim cs) := by
  obtain ⟨after, hafter, hblank, hlast⟩ := exists_dropEnd isBlank (cs.dropWhile isBlank)
  refine ⟨cs.takeWhile isBlank, after, ?_, List.all_eq_true.1 List.all_takeWhile, hblank, fun c hc => ?_, hlast⟩
  · rw [trim, List.append_assoc, ← hafter, List.takeWhile_append_dropWhile]
  · have hh := List.head?_dropWhile_not isBlank cs
    rw [hafter, List.head?_append, ← trim, Option.mem_def.1 hc] at hh
    simpa using hh

theorem trim_append_blank {gap : List Char} (h : ∀ c ∈ gap, isBlank c = true) (cs : List Char) :
    trim (cs ++ gap) = trim cs := by
  have hgap (ds : List Char) : dropEnd isBlank (ds ++ gap) = dropEnd isBlank ds := by
    rw [dropEnd, List.reverse_append, List.dropWhile_append_of_pos fun c hc => h c (List.mem_reverse.1 hc), ← dropEnd]
  rw [trim, trim, List.dropWhile_append]
  split
  · next he =>
    have hd : (gap ++ []).dropWhile isBlank = [] := List.dropWhile_append_of_pos h
    rw [List.append_nil] at hd
    rw [hd, List.isEmpty_iff.1 he]
  · exact hgap _

theorem isTrimmed_trim (cs : List Char) : IsTrimmed (trim cs) := by
  obtain ⟨-, -, -, -, -, h⟩ := exists_trim cs
  exact h

theorem mem_of_mem_trim {cs : List Char} {c : Char} (h : c ∈ trim cs) : c ∈ cs := by
  obtain ⟨before, after, he, -, -, -⟩ := exists_trim cs
  rw [he]
  simp [h]

theorem trim_eq_nil_iff {cs : List Char} : trim cs = [] ↔ ∀ c ∈ cs, isBlank c = true := by
  obtain ⟨before, after, he, hb, ha, ht⟩ := exists_trim cs
  constructor
  · intro hn c hc
    rw [he, hn, List.append_nil] at hc
    exact (List.mem_append.1 hc).elim (hb c) (ha c)
  · intro h
    cases hd : trim cs with
    | nil => rfl
    | cons c rest =>
        have hc : isBlank c = false := ht.head c (by rw [hd]; rfl)
        rw [h c (mem_of_mem_trim (by rw [hd]; exact List.mem_cons_self))] at hc
        cases hc

end VehicleDamage.Text
