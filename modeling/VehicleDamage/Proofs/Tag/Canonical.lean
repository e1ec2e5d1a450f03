import VehicleDamage.Proofs.Tag.Separators
import VehicleDamage.Proofs.Text.Words

/-!
Normal forms are canonical. The normal form of a tag is made of its words, each put into lower case and British
spelling, with one hyphen between any two; it is its own normal form, and tags that differ only in their capitals and
separators share it.
-/

namespace VehicleDamage.Tag

open Text

/-- A word as it stands in a normal form. -/
def canonicalWord (word : List Char) : List Char :=
  spellTyre (lower word)

/-- A character at least, and no separator. -/
structure IsWord (cs : List Char) : Prop where
  ne_nil : cs ≠ []
  free : ∀ c ∈ cs, isSeparator c = false

/-- Words in lower case and British spelling, with single hyphens between them. -/
structure IsCanonical (cs : List Char) : Prop where
  no_underscore : '_' ∉ cs
  no_blank : ∀ c ∈ cs, isBlank c = false
  head_ne : cs.head? ≠ some '-'
  last_ne : cs.getLast? ≠ some '-'
  single : ¬['-', '-'] <:+: cs
  british : ¬['t', 'i', 'r', 'e'] <:+: cs

/-- Tags that differ only in the case of ASCII letters, in how runs of separators are spelled, and in separators at
either end. -/
inductive Respelt : List Char → List Char → Prop
  | letter {c d : Char} (before after : List Char) (same : c.toLower = d.toLower) :
      Respelt (before ++ c :: after) (before ++ d :: after)
  | run {gap gap' : List Char} (before after : List Char) (ne_nil : gap ≠ []) (ne_nil' : gap' ≠ [])
      (separators : ∀ c ∈ gap, isSeparator c = true) (separators' : ∀ c ∈ gap', isSeparator c = true) :
      Respelt (before ++ gap ++ after) (before ++ gap' ++ after)
  | ends {front back : List Char} (cs : List Char) (separators : ∀ c ∈ front, isSeparator c = true)
      (separators' : ∀ c ∈ back, isSeparator c = true) : Respelt (front ++ cs ++ back) cs
  | symm {cs ds : List Char} (respelt : Respelt cs ds) : Respelt ds cs
  | trans {cs ds es : List Char} (respelt : Respelt cs ds) (respelt' : Respelt ds es) : Respelt cs es

/-! ### Words -/

theorem splitWhere_lower (cs : List Char) :
    splitWhere isSeparator (lower cs) = (splitWhere isSeparator cs).map lower := by
  rcases splitWhere_cases isSeparator cs with ⟨hs, hfree⟩ | ⟨piece, d, ds, hcs, hfree, hd, hs⟩
  · rw [hs, splitWhere_of_forall (forall_lower_iff.2 hfree)]
    rfl
  · have hlt : ds.length < cs.length := by
      rw [hcs, List.length_append, List.length_cons]
      omega
    rw [hs, hcs, lower_cut (isBarrier_of_isSeparator hd), splitWhere_append (forall_lower_iff.2 hfree) hd,
      splitWhere_lower ds, List.map_cons]
termination_by cs.length

theorem wordsWhere_lower (cs : List Char) :
    wordsWhere isSeparator (lower cs) = (wordsWhere isSeparator cs).map lower := by
  have hempty : ((fun w : List Char => !w.isEmpty) ∘ lower) = fun w => !w.isEmpty := by
    funext w
    have hw : (lower w).isEmpty = w.isEmpty := by
      rw [Bool.eq_iff_iff, List.isEmpty_iff, List.isEmpty_iff, lower_eq_nil_iff]
    exact congrArg (!·) hw
  rw [wordsWhere, wordsWhere, splitWhere_lower, List.filter_map, hempty]

theorem isWord_of_mem {cs word : List Char} (h : word ∈ wordsWhere isSeparator cs) : IsWord word := by
  obtain ⟨hs, hne⟩ := List.mem_filter.1 h
  exact ⟨by simpa using hne, fun c hc => (of_mem_splitWhere hs c hc).2⟩

theorem IsWord.words_eq {word : List Char} (h : IsWord word) : wordsWhere isSeparator word = [word] :=
  wordsWhere_word h.ne_nil h.free

/-! ### Folding -/

theorem foldSeparators_separator {d : Char} (hd : isSeparator d = true) (ds : List Char) :
    foldSeparators true (d :: ds) = foldSeparators true ds ∧
      foldSeparators false (d :: ds) = '-' :: foldSeparators true ds := by
  simp [foldSeparators, isSeparator_iff.1 hd]

theorem foldSeparators_free {cs : List Char} (hfree : ∀ c ∈ cs, isSeparator c = false) (ds : List Char) :
    foldSeparators false (cs ++ ds) = cs ++ foldSeparators false ds := by
  induction cs with
  | nil => rfl
  | cons c cs ih =>
      obtain ⟨hc, hcs⟩ := List.forall_mem_cons.1 hfree
      rw [List.cons_append, foldSeparators, if_neg (by simp [← isSeparator_iff, hc]), ih hcs, List.cons_append]

theorem IsWord.foldSeparators_append {word : List Char} (h : IsWord word) (cs : List Char) :
    foldSeparators true (word ++ cs) = word ++ foldSeparators false cs := by
  cases word with
  | nil => exact absurd rfl h.ne_nil
  | cons c word =>
      obtain ⟨hc, hword⟩ := List.forall_mem_cons.1 h.free
      rw [List.cons_append, foldSeparators, if_neg (by simp [← isSeparator_iff, hc]), foldSeparators_free hword,
        List.cons_append]

theorem dropEnd_append (p : Char → Bool) (as bs : List Char) :
    dropEnd p (as ++ bs) = if dropEnd p bs = [] then dropEnd p as else as ++ dropEnd p bs := by
  simp only [dropEnd, List.reverse_append, List.dropWhile_append, List.reverse_eq_nil_iff, List.isEmpty_iff]
  split <;> simp

theorem IsWord.dropEnd_eq {word : List Char} (h : IsWord word) : dropEnd (· == '-') word = word := by
  refine dropEnd_eq_self fun c hc => beq_eq_false_iff_ne.2 ?_
  rintro rfl
  cases h.free '-' (List.mem_of_getLast? hc)

theorem intercalate_eq_nil_iff {words : List (List Char)} (h : ∀ word ∈ words, IsWord word) :
    ['-'].intercalate words = [] ↔ words = [] := by
  cases words with
  | nil => exact iff_of_true rfl rfl
  | cons word more =>
      have hne := (h word List.mem_cons_self).ne_nil
      cases more <;> simp [hne]

theorem mem_intercalate {c d : Char} {words : List (List Char)} (h : c ∈ [d].intercalate words) :
    c = d ∨ ∃ word ∈ words, c ∈ word := by
  induction words with
  | nil => cases h
  | cons word words ih =>
      by_cases hw : words = []
      · rw [hw, List.intercalate_singleton] at h
        exact .inr ⟨word, List.mem_cons_self, h⟩
      · rw [List.intercalate_cons_of_ne_nil hw, List.mem_append, List.mem_append, List.mem_singleton] at h
        rcases h with (h | h) | h
        · exact .inr ⟨word, List.mem_cons_self, h⟩
        · exact .inl h
        · exact (ih h).imp_right fun ⟨w, hm, hc⟩ => ⟨w, List.mem_cons_of_mem _ hm, hc⟩

/-- What folding leaves of a text are its words with single hyphens between them. -/
theorem dropEnd_foldSeparators (cs : List Char) :
    dropEnd (· == '-') (foldSeparators true cs) = ['-'].intercalate (wordsWhere isSeparator cs) := by
  rcases splitWhere_cases isSeparator cs with ⟨-, hfree⟩ | ⟨piece, d, ds, hcs, hfree, hd, -⟩
  · cases cs with
    | nil => rfl
    | cons c cs =>
        have hword : IsWord (c :: cs) := ⟨List.cons_ne_nil _ _, hfree⟩
        have hfold := hword.foldSeparators_append []
        rw [List.append_nil, foldSeparators.eq_1, List.append_nil] at hfold
        rw [hfold, hword.dropEnd_eq, hword.words_eq, List.intercalate_singleton]
  · have hlt : ds.length < cs.length := by
      rw [hcs, List.length_append, List.length_cons]
      omega
    have ih := dropEnd_foldSeparators ds
    rw [hcs, wordsWhere_cut hd]
    cases piece with
    | nil => exact (congrArg _ (foldSeparators_separator hd ds).1).trans ih
    | cons c piece =>
        have hword : IsWord (c :: piece) := ⟨List.cons_ne_nil _ _, hfree⟩
        have hyphen : dropEnd (· == '-') ['-'] = [] := rfl
        rw [hword.foldSeparators_append, (foldSeparators_separator hd ds).2, dropEnd_append, ← List.singleton_append,
          dropEnd_append, ih, hyphen, hword.dropEnd_eq, hword.words_eq, List.singleton_append, List.singleton_append]
        -- The hyphen after a word is kept exactly if another word follows.
        by_cases hw : wordsWhere isSeparator ds = []
        · rw [hw, List.intercalate_nil, if_pos rfl, if_pos rfl, List.intercalate_singleton]
        · rw [if_neg (mt (intercalate_eq_nil_iff fun _ => isWord_of_mem).1 hw), if_neg (List.cons_ne_nil _ _),
            List.intercalate_cons_of_ne_nil hw, List.append_assoc]
          rfl
termination_by cs.length

/-! ### Spelling -/

theorem prefix_append_cons_iff {xs : List Char} {d : Char} (h : d ∉ xs) (as bs : List Char) :
    xs <+: as ++ d :: bs ↔ xs <+: as := by
  induction as generalizing xs with
  | nil =>
      cases xs with
      | nil => simp
      | cons x xs => simp [List.cons_prefix_cons, Ne.symm (List.ne_of_not_mem_cons h)]
  | cons a as ih =>
      cases xs with
      | nil => simp
      | cons x xs =>
          rw [List.cons_append, List.cons_prefix_cons, List.cons_prefix_cons, ih (List.not_mem_of_not_mem_cons h)]

theorem spellTyre_cons {c : Char} {cs : List Char} (h : ¬['t', 'i', 'r', 'e'] <+: c :: cs) :
    spellTyre (c :: cs) = c :: spellTyre cs := by
  rw [spellTyre]
  rintro ds rfl rfl
  exact h (List.prefix_append ['t', 'i', 'r', 'e'] ds)

theorem spellTyre_eq_nil_iff {cs : List Char} : spellTyre cs = [] ↔ cs = [] := by
  unfold spellTyre
  split <;> simp

/-- What comes before a hyphen is spelled on its own. -/
theorem spellTyre_hyphen (as bs : List Char) : spellTyre (as ++ '-' :: bs) = spellTyre as ++ '-' :: spellTyre bs := by
  induction as using spellTyre.induct with
  | case1 cs ih => simp only [List.cons_append, spellTyre, ih]
  | case2 c cs hne ih =>
      have hc : ¬['t', 'i', 'r', 'e'] <+: c :: cs := by
        rintro ⟨ds, hds⟩
        cases hds
        exact hne ds rfl rfl
      rw [spellTyre_cons hc, List.cons_append, spellTyre_cons, ih, List.cons_append]
      rwa [← List.cons_append, prefix_append_cons_iff (by decide)]
  | case3 => exact spellTyre_cons (by simp [List.cons_prefix_cons])

theorem spellTyre_intercalate (words : List (List Char)) :
    spellTyre (['-'].intercalate words) = ['-'].intercalate (words.map spellTyre) := by
  induction words with
  | nil => rfl
  | cons word words ih =>
      rw [List.map_cons]
      by_cases hw : words = []
      · rw [hw, List.map_nil, List.intercalate_singleton, List.intercalate_singleton]
      · rw [List.intercalate_cons_of_ne_nil hw, List.intercalate_cons_of_ne_nil (mt List.map_eq_nil_iff.1 hw),
          List.append_assoc, List.append_assoc, List.singleton_append, List.singleton_append, spellTyre_hyphen, ih]

/-- Spelling leaves alone what follows the first letter of the word it replaces. -/
theorem prefix_spellTyre_iff {xs : List Char} (h : 't' ∉ xs) (cs : List Char) : xs <+: spellTyre cs ↔ xs <+: cs := by
  induction xs generalizing cs with
  | nil => simp
  | cons x xs ih =>
      have hx : x ≠ 't' := Ne.symm (List.ne_of_not_mem_cons h)
      cases cs with
      | nil => rw [spellTyre]
      | cons c cs =>
          by_cases htire : ['t', 'i', 'r', 'e'] <+: c :: cs
          · obtain ⟨ds, hds⟩ := htire
            rw [← hds]
            simp [spellTyre, List.cons_prefix_cons, hx]
          · rw [spellTyre_cons htire, List.cons_prefix_cons, List.cons_prefix_cons, ih (List.not_mem_of_not_mem_cons h)]

/-- No American spelling is left, and none comes about. -/
theorem not_tire_spellTyre (cs : List Char) : ¬['t', 'i', 'r', 'e'] <:+: spellTyre cs := by
  induction cs using spellTyre.induct with
  | case1 cs ih => simp [spellTyre, List.infix_cons_iff, List.cons_prefix_cons, ih]
  | case2 c cs hne ih =>
      have hc : ¬['t', 'i', 'r', 'e'] <+: c :: cs := by
        rintro ⟨ds, hds⟩
        cases hds
        exact hne ds rfl rfl
      rw [spellTyre_cons hc, List.infix_cons_iff, List.cons_prefix_cons, prefix_spellTyre_iff (by decide), not_or]
      exact ⟨mt List.cons_prefix_cons.2 hc, ih⟩
  | case3 => decide

theorem spellTyre_eq_self {cs : List Char} (h : ¬['t', 'i', 'r', 'e'] <:+: cs) : spellTyre cs = cs := by
  induction cs with
  | nil => rfl
  | cons c cs ih =>
      rw [List.infix_cons_iff, not_or] at h
      rw [spellTyre_cons h.1, ih h.2]

theorem mem_spellTyre {cs : List Char} {c : Char} (h : c ∈ spellTyre cs) : c ∈ cs ∨ c = 'y' := by
  induction cs using spellTyre.induct with
  | case1 cs ih =>
      simp only [spellTyre, List.mem_cons] at h ⊢
      tauto
  | case2 d cs hne ih =>
      rw [spellTyre.eq_2 _ _ hne, List.mem_cons] at h
      rw [List.mem_cons]
      tauto
  | case3 => cases h

/-! ### Normal forms -/

theorem isLower_canonicalWord (word : List Char) : ∀ c ∈ canonicalWord word, IsLower c := by
  intro c hc
  rcases mem_spellTyre hc with hc | rfl
  · exact isLower_of_mem_lower c hc
  · decide +kernel

theorem canonicalWord_idem (word : List Char) : canonicalWord (canonicalWord word) = canonicalWord word := by
  rw [canonicalWord, lower_eq_self (isLower_canonicalWord word), canonicalWord,
    spellTyre_eq_self (not_tire_spellTyre _)]

theorem IsWord.canonical {word : List Char} (h : IsWord word) : IsWord (canonicalWord word) := by
  refine ⟨?_, fun c hc => ?_⟩
  · rw [canonicalWord, ne_eq, spellTyre_eq_nil_iff, lower_eq_nil_iff]
    exact h.ne_nil
  · rcases mem_spellTyre hc with hc | rfl
    · exact forall_lower_iff.2 h.free c hc
    · decide

/-- The words of a normal form. -/
def canonicalWords (cs : List Char) : List (List Char) :=
  (wordsWhere isSeparator cs).map canonicalWord

theorem isWord_of_mem_canonicalWords {cs word : List Char} (h : word ∈ canonicalWords cs) : IsWord word := by
  obtain ⟨w, hw, rfl⟩ := List.mem_map.1 h
  exact (isWord_of_mem hw).canonical

/-- A normal form is the canonical words of a tag with hyphens between them. -/
theorem normalizeChars_eq (cs : List Char) : normalizeChars cs = ['-'].intercalate (canonicalWords cs) := by
  rw [normalizeChars, dropEnd_foldSeparators, wordsWhere_lower, wordsWhere_trim fun _ => isSeparator_of_isBlank,
    spellTyre_intercalate, List.map_map]
  rfl

theorem splitWhere_normalizeChars {cs : List Char} (h : canonicalWords cs ≠ []) :
    splitWhere isSeparator (normalizeChars cs) = canonicalWords cs := by
  rw [normalizeChars_eq, splitWhere_intercalate rfl h fun _ hw => (isWord_of_mem_canonicalWords hw).free]

theorem canonicalWords_normalizeChars (cs : List Char) : canonicalWords (normalizeChars cs) = canonicalWords cs := by
  by_cases hw : canonicalWords cs = []
  · rw [normalizeChars_eq, hw]
    rfl
  · have hkeep : (canonicalWords cs).filter (fun w => !w.isEmpty) = canonicalWords cs :=
      List.filter_eq_self.2 fun w hm => by simpa using (isWord_of_mem_canonicalWords hm).ne_nil
    rw [canonicalWords, wordsWhere, splitWhere_normalizeChars hw, hkeep, canonicalWords, List.map_map]
    exact List.map_congr_left fun w _ => canonicalWord_idem w

theorem canonicalWords_eq_nil_iff {cs : List Char} : canonicalWords cs = [] ↔ ∀ c ∈ cs, isSeparator c = true := by
  rw [canonicalWords, List.map_eq_nil_iff, wordsWhere_eq_nil_iff]

/-- A tag has an empty normal form exactly if it is made of separators only. -/
theorem normalize_eq_empty_iff {tag : String} :
    normalize tag = "" ↔ ∀ c ∈ tag.toList, isSeparator c = true := by
  rw [normalize, ← String.toList_inj, String.toList_ofList, String.toList_empty, normalizeChars_eq,
    intercalate_eq_nil_iff fun _ => isWord_of_mem_canonicalWords, canonicalWords_eq_nil_iff]

/-- A hyphen of a normal form has a word on either side. -/
theorem not_hyphen_edge {cs before after : List Char} (h : normalizeChars cs = before ++ '-' :: after) :
    [] ∉ splitWhere isSeparator before ∧ [] ∉ splitWhere isSeparator after := by
  have hw : canonicalWords cs ≠ [] := fun he => by
    rw [normalizeChars_eq, he, List.intercalate_nil] at h
    exact List.append_ne_nil_of_right_ne_nil _ (List.cons_ne_nil _ _) h.symm
  have hs := splitWhere_normalizeChars hw
  rw [h, splitWhere_cut rfl] at hs
  have hne : [] ∉ splitWhere isSeparator before ++ splitWhere isSeparator after := fun hm =>
    (isWord_of_mem_canonicalWords (hs ▸ hm)).ne_nil rfl
  simpa using hne

theorem eq_hyphen_of_mem {cs : List Char} {c : Char} (h : c ∈ normalizeChars cs) (hc : isSeparator c = true) :
    c = '-' := by
  rw [normalizeChars_eq] at h
  rcases mem_intercalate h with h | ⟨word, hw, hm⟩
  · exact h
  · rw [(isWord_of_mem_canonicalWords hw).free c hm] at hc
    cases hc

theorem isCanonical_normalizeChars (cs : List Char) : IsCanonical (normalizeChars cs) where
  no_underscore h := by
    cases eq_hyphen_of_mem h rfl
  no_blank c h := by
    by_contra hb
    rw [eq_hyphen_of_mem h (isSeparator_of_isBlank (by simpa using hb))] at hb
    exact hb rfl
  head_ne h := by
    obtain ⟨after, he⟩ := List.head?_eq_some_iff.1 h
    exact (@not_hyphen_edge cs [] after he).1 List.mem_cons_self
  last_ne h := by
    obtain ⟨before, he⟩ := List.getLast?_eq_some_iff.1 h
    exact (not_hyphen_edge he).2 List.mem_cons_self
  single := by
    rintro ⟨before, after, he⟩
    rw [List.append_assoc] at he
    exact (not_hyphen_edge he.symm).2 List.mem_cons_self
  british := not_tire_spellTyre _

/-! ### Tags with one normal form -/

theorem normalizeChars_congr {cs ds : List Char}
    (h : (wordsWhere isSeparator cs).map lower = (wordsWhere isSeparator ds).map lower) :
    normalizeChars cs = normalizeChars ds := by
  have hmap := congrArg (List.map spellTyre) h
  rw [List.map_map, List.map_map] at hmap
  rw [normalizeChars_eq, normalizeChars_eq]
  exact congrArg _ hmap

/-- A run of separators divides words, however it is spelled. -/
theorem wordsWhere_run {gap : List Char} (hne : gap ≠ []) (h : ∀ c ∈ gap, isSeparator c = true)
    (before after : List Char) :
    wordsWhere isSeparator (before ++ gap ++ after) =
      wordsWhere isSeparator before ++ wordsWhere isSeparator after := by
  cases gap with
  | nil => exact absurd rfl hne
  | cons d gap =>
      obtain ⟨hd, hgap⟩ := List.forall_mem_cons.1 h
      rw [List.append_assoc, List.cons_append, wordsWhere_cut hd, wordsWhere_gap_append hgap]

theorem Respelt.normalizeChars_eq {cs ds : List Char} (h : Respelt cs ds) : normalizeChars cs = normalizeChars ds := by
  induction h with
  | @letter c d before after same =>
      have hlower : lower (before ++ c :: after) = lower (before ++ d :: after) := lower_congr (by simp [same])
      refine normalizeChars_congr ?_
      rw [← wordsWhere_lower, ← wordsWhere_lower, hlower]
  | run before after ne_nil ne_nil' separators separators' =>
      refine normalizeChars_congr ?_
      rw [wordsWhere_run ne_nil separators, wordsWhere_run ne_nil' separators']
  | ends cs separators separators' =>
      refine normalizeChars_congr ?_
      rw [wordsWhere_append_gap separators', wordsWhere_gap_append separators]
  | symm respelt ih => exact ih.symm
  | trans respelt respelt' ih ih' => exact ih.trans ih'

/-- The normal form of a tag is canonical and its own normal form, and tags that differ only in capitals and separators
have one normal form. -/
theorem normalize_canonical :
    (∀ tag, IsCanonical (normalize tag).toList ∧ normalize (normalize tag) = normalize tag) ∧
      ∀ tag tag', Respelt tag.toList tag'.toList → normalize tag = normalize tag' := by
  refine ⟨fun tag => ⟨?_, ?_⟩, fun tag tag' h => congrArg String.ofList h.normalizeChars_eq⟩
  · rw [normalize, String.toList_ofList]
    exact isCanonical_normalizeChars _
  · rw [normalize, normalize, String.toList_ofList, Tag.normalizeChars_eq, canonicalWords_normalizeChars,
      ← Tag.normalizeChars_eq]

/-- A capital, a run of separators and an end that do not count. -/
theorem normalize_canonical_tyre : Respelt "Tire_1 ".toList "tire - 1".toList ∧
    normalize "Tire_1 " = normalize "tire - 1" := by
  have hletter : Respelt "Tire_1 ".toList "tire_1 ".toList := .letter [] ['i', 'r', 'e', '_', '1', ' '] (by decide)
  have hrun : Respelt "tire_1 ".toList "tire - 1 ".toList :=
    @Respelt.run ['_'] [' ', '-', ' '] ['t', 'i', 'r', 'e'] ['1', ' '] (by decide) (by decide)
      (List.all_eq_true.1 (by decide)) (List.all_eq_true.1 (by decide))
  have hend : Respelt "tire - 1 ".toList "tire - 1".toList :=
    @Respelt.ends [] [' '] "tire - 1".toList (List.forall_mem_nil _) (List.all_eq_true.1 (by decide))
  have h := hletter.trans (hrun.trans hend)
  exact ⟨h, normalize_canonical.2 _ _ h⟩

end VehicleDamage.Tag
