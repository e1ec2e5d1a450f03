import VehicleDamage.Proofs.Text.Blank

/-!
The words of a text: any text is its words with blanks between them, and blanks alone change no words.
-/

namespace VehicleDamage.Text

/-- A character at least, and none that is blank. -/
structure IsWord (cs : List Char) : Prop where
  ne_nil : cs ≠ []
  free : ∀ c ∈ cs, isBlank c = false

instance (cs : List Char) : Decidable (IsWord cs) :=
  decidable_of_iff (cs.isEmpty = false ∧ cs.any isBlank = false)
    ⟨fun h => ⟨by simpa using h.1, by simpa using h.2⟩, fun h => ⟨by simpa using h.ne_nil, by simpa using h.free⟩⟩

/-- A text of some words: a run of blanks after each but perhaps the last, and blanks before the first if need be. -/
inductive Spaced : List (List Char) → List Char → Prop
  | gap {gap : List Char} (blank : ∀ c ∈ gap, isBlank c = true) : Spaced [] gap
  | word {gap word rest : List Char} {more : List (List Char)} (blank : ∀ c ∈ gap, isBlank c = true)
      (isWord : IsWord word) (ends : ∀ c ∈ rest.head?, isBlank c = true) (spaced : Spaced more rest) :
      Spaced (word :: more) (gap ++ word ++ rest)

/-! ### Words between separators -/

/-- The runs of characters between those that satisfy `p`. -/
def wordsWhere (p : Char → Bool) (cs : List Char) : List (List Char) :=
  (splitWhere p cs).filter fun w => !w.isEmpty

section

variable {p : Char → Bool}

theorem wordsWhere_cut {d : Char} (hd : p d = true) (cs ds : List Char) :
    wordsWhere p (cs ++ d :: ds) = wordsWhere p cs ++ wordsWhere p ds := by
  rw [wordsWhere, splitWhere_cut hd, List.filter_append]
  rfl

theorem wordsWhere_gap_append {gap : List Char} (h : ∀ c ∈ gap, p c = true) (cs : List Char) :
    wordsWhere p (gap ++ cs) = wordsWhere p cs := by
  induction gap with
  | nil => rfl
  | cons d gap ih =>
      obtain ⟨hd, hgap⟩ := List.forall_mem_cons.1 h
      exact (wordsWhere_cut hd [] _).trans (ih hgap)

theorem wordsWhere_gap {gap : List Char} (h : ∀ c ∈ gap, p c = true) : wordsWhere p gap = [] := by
  have hw := wordsWhere_gap_append h []
  rwa [List.append_nil] at hw

theorem wordsWhere_append_gap {gap : List Char} (h : ∀ c ∈ gap, p c = true) (cs : List Char) :
    wordsWhere p (cs ++ gap) = wordsWhere p cs := by
  cases gap with
  | nil => rw [List.append_nil]
  | cons d gap =>
      obtain ⟨hd, hgap⟩ := List.forall_mem_cons.1 h
      rw [wordsWhere_cut hd, wordsWhere_gap hgap, List.append_nil]

theorem wordsWhere_word {word : List Char} (hne : word ≠ []) (h : ∀ c ∈ word, p c = false) :
    wordsWhere p word = [word] := by
  rw [wordsWhere, splitWhere_of_forall h]
  simp [hne]

/-- A text has no words exactly if it is a gap. -/
theorem wordsWhere_eq_nil_iff {cs : List Char} : wordsWhere p cs = [] ↔ ∀ c ∈ cs, p c = true := by
  refine ⟨fun h => ?_, wordsWhere_gap⟩
  induction cs with
  | nil => exact List.forall_mem_nil _
  | cons c cs ih =>
      by_cases hc : p c = true
      · exact List.forall_mem_cons.2 ⟨hc, ih ((wordsWhere_cut hc [] cs).symm.trans h)⟩
      · obtain ⟨piece, more, hp⟩ := List.exists_cons_of_ne_nil (splitWhere_ne_nil p cs)
        rw [wordsWhere, splitWhere, if_neg hc, hp] at h
        cases h

/-- What is trimmed away is between words. -/
theorem wordsWhere_trim (hp : ∀ c, isBlank c = true → p c = true) (cs : List Char) :
    wordsWhere p (trim cs) = wordsWhere p cs := by
  obtain ⟨before, after, he, hb, ha, -⟩ := exists_trim cs
  have hw : wordsWhere p (before ++ trim cs ++ after) = wordsWhere p (trim cs) := by
    rw [wordsWhere_append_gap fun c hc => hp c (ha c hc), wordsWhere_gap_append fun c hc => hp c (hb c hc)]
  exact hw.symm.trans (congrArg (wordsWhere p) he.symm)

end

/-! ### Words between blanks -/

theorem words_cut {d : Char} (hd : isBlank d = true) (cs ds : List Char) :
    words (cs ++ d :: ds) = words cs ++ words ds :=
  wordsWhere_cut hd cs ds

theorem words_cons_blank {d : Char} (hd : isBlank d = true) (cs : List Char) : words (d :: cs) = words cs :=
  wordsWhere_cut hd [] cs

theorem words_word {word : List Char} (h : IsWord word) : words word = [word] :=
  wordsWhere_word h.ne_nil h.free

theorem words_trim (cs : List Char) : words (trim cs) = words cs :=
  wordsWhere_trim (fun _ => id) cs

/-- A trimmed text does not begin with a gap. -/
theorem IsTrimmed.gap_eq_nil {gap rest : List Char} (h : IsTrimmed (gap ++ rest))
    (hb : ∀ c ∈ gap, isBlank c = true) : gap = [] := by
  cases gap with
  | nil => rfl
  | cons c gap =>
      have hc := h.head c rfl
      rw [hb c List.mem_cons_self] at hc
      cases hc

namespace Spaced

theorem words_eq {ws : List (List Char)} {cs : List Char} (h : Spaced ws cs) : words cs = ws := by
  induction h with
  | gap blank => exact wordsWhere_gap blank
  | @word gap word rest more blank isWord ends spaced ih =>
      have hgap : words (gap ++ (word ++ rest)) = words (word ++ rest) := wordsWhere_gap_append blank _
      rw [List.append_assoc, hgap]
      cases rest with
      | nil =>
          rw [List.append_nil, words_word isWord, ← ih]
          rfl
      | cons d rest =>
          have hd : isBlank d = true := ends d rfl
          rw [words_cut hd, words_word isWord, ← ih, words_cons_blank hd]
          rfl

/-- A word in front. -/
theorem cons {word rest : List Char} {more : List (List Char)} (hw : IsWord word)
    (ends : ∀ c ∈ rest.head?, isBlank c = true) (h : Spaced more rest) : Spaced (word :: more) (word ++ rest) :=
  @Spaced.word [] word rest more nofun hw ends h

theorem cons_blank {ws : List (List Char)} {cs : List Char} (h : Spaced ws cs) {d : Char} (hd : isBlank d = true) :
    Spaced ws (d :: cs) := by
  cases h with
  | gap blank => exact .gap (List.forall_mem_cons.2 ⟨hd, blank⟩)
  | word blank isWord ends spaced => exact .word (List.forall_mem_cons.2 ⟨hd, blank⟩) isWord ends spaced

end Spaced

/-- Every text is its words, spaced. -/
theorem spaced_words (cs : List Char) : Spaced (words cs) cs := by
  rcases splitWhere_cases isBlank cs with ⟨-, hfree⟩ | ⟨piece, d, ds, he, hfree, hd, -⟩
  · cases cs with
    | nil => exact .gap nofun
    | cons c cs =>
        have hw : IsWord (c :: cs) := ⟨List.cons_ne_nil _ _, hfree⟩
        rw [words_word hw]
        have hs : Spaced [c :: cs] (c :: cs ++ []) := .cons hw nofun (.gap nofun)
        rwa [List.append_nil] at hs
  · have hlt : ds.length < cs.length := by
      rw [he, List.length_append, List.length_cons]
      omega
    have hds := (spaced_words ds).cons_blank hd
    rw [he, words_cut hd]
    cases piece with
    | nil => exact hds
    | cons c piece =>
        have hw : IsWord (c :: piece) := ⟨List.cons_ne_nil _ _, hfree⟩
        rw [words_word hw]
        exact .cons hw (fun e he => Option.some.inj he ▸ hd) hds
termination_by cs.length

theorem words_eq_iff {ws : List (List Char)} {cs : List Char} : words cs = ws ↔ Spaced ws cs :=
  ⟨fun h => h ▸ spaced_words cs, Spaced.words_eq⟩

/-- Words with a space between any two. -/
theorem spaced_intercalate : ∀ {tokens : List String}, (∀ token ∈ tokens, IsWord token.toList) →
    Spaced (tokens.map String.toList) (" ".intercalate tokens).toList
  | [], _ => .gap nofun
  | [token], h => by
      have hs : Spaced [token.toList] (token.toList ++ []) := .cons (h token List.mem_cons_self) nofun (.gap nofun)
      simpa using hs
  | token :: next :: more, h => by
      obtain ⟨hw, hmore⟩ := List.forall_mem_cons.1 h
      have hs := (spaced_intercalate hmore).cons_blank (by decide : isBlank ' ' = true)
      have hn : Spaced (token.toList :: (next :: more).map String.toList)
          (token.toList ++ ' ' :: (" ".intercalate (next :: more)).toList) :=
        .cons hw (fun c hc => Option.some.inj hc ▸ rfl) hs
      rw [String.intercalate_cons_cons]
      simpa using hn

end VehicleDamage.Text
