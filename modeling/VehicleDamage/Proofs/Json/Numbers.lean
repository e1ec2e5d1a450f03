import VehicleDamage.Proofs.Json.Yields

/-!
A number that makes up a text is read alike when a delimiter follows it.
-/

namespace VehicleDamage.Json.Reader

variable {α β : Type}

/-- From one text a reader goes on as another reader does from another, also when a delimiter follows both. -/
def Steps (x : Reader α) (text : List Char) (y : Reader α) (rest : List Char) : Prop :=
  ∀ more, Delimited more → Continues x (text ++ more) y (rest ++ more)

/-- What a reader takes of a text it takes when a delimiter follows. -/
def Extends (x : Reader α) (text : List Char) : Prop :=
  ∀ a rest offset offset', x ⟨text, offset⟩ = .ok (a, ⟨rest, offset'⟩) →
    ∀ more, Delimited more → Takes x (text ++ more) a (rest ++ more)

section

variable {x y : Reader α} {f : Option Char → Reader β} {text rest : List Char}

theorem Steps.extends (h : Steps x text y rest) (hy : Extends y rest) : Extends x text := by
  intro a rest' offset offset' ha more hmore
  obtain ⟨offset₁, h₁⟩ := h [] delimited_nil offset
  rw [List.append_nil, List.append_nil, ha] at h₁
  exact (h more hmore).takes (hy a rest' offset₁ offset' h₁.symm more hmore)

theorem extends_pure (a : α) (text : List Char) : Extends (pure a) text := by
  intro a' rest offset offset' h more _
  cases h
  exact takes_pure a _

theorem extends_of_fails (h : ∀ offset, ∃ fault, x ⟨text, offset⟩ = .error fault) : Extends x text := by
  intro a rest offset offset' ha
  obtain ⟨fault, hf⟩ := h offset
  rw [hf] at ha
  cases ha

theorem extends_of_yields (h : Yields x fun _ => False) (text : List Char) : Extends x text :=
  fun _ _ _ _ ha => (h _ _ _ ha).elim

theorem Extends.map {text : List Char} (g : α → β) (h : Extends x text) :
    Extends (x >>= fun a => pure (g a)) text := by
  intro b rest offset offset' hb more hmore
  cases hx : x ⟨text, offset⟩ with
  | error fault =>
      rw [bind_of_error hx] at hb
      cases hb
  | ok taken =>
      obtain ⟨a, cursor⟩ := taken
      rw [bind_of_ok hx] at hb
      cases hb
      exact (h a rest offset offset' hx more hmore).map g

theorem isDigit_of_delimited (h : Delimited rest) : ∀ c ∈ rest.head?, c.isDigit = false := by
  intro c hc
  rcases h c hc with rfl | rfl <;> decide

theorem steps_peek_cons (f : Option Char → Reader β) (c : Char) (cs : List Char) :
    Steps (peek >>= f) (c :: cs) (f (some c)) (c :: cs) :=
  fun _ _ offset => ⟨offset, rfl⟩

/-- A delimiter is looked at as the end is, where both mean the same. -/
theorem steps_peek_nil (h : ∀ c, c = ',' ∨ c = '\x7d' → f (some c) = f none) : Steps (peek >>= f) [] (f none) [] := by
  intro more hmore offset
  refine ⟨offset, ?_⟩
  cases more with
  | nil => rfl
  | cons c more =>
      show f (some c) _ = _
      rw [h c (hmore c rfl)]

theorem steps_advance (g : Unit → Reader β) (c : Char) (cs : List Char) :
    Steps (advance >>= g) (c :: cs) (g ()) cs :=
  fun _ _ => (takes_advance c _).continues

theorem steps_isDigitNext (g : Bool → Reader β) (text : List Char) :
    Steps (isDigitNext >>= g) text (g ((text.head?.map Char.isDigit).getD false)) text := by
  intro more hmore offset
  refine ⟨offset, ?_⟩
  show g (((text ++ more).head?.map Char.isDigit).getD false) _ = _
  cases text with
  | cons c cs => rfl
  | nil =>
      cases more with
      | nil => rfl
      | cons c more => simp [isDigit_of_delimited hmore c rfl]

/-- Characters that no delimiter is one of are taken off alike when a delimiter follows. -/
theorem takeWhile_append {p : Char → Bool} (text : List Char) (h : ∀ c ∈ rest.head?, p c = false) :
    (text ++ rest).takeWhile p = text.takeWhile p ∧ (text ++ rest).dropWhile p = text.dropWhile p ++ rest := by
  induction text with
  | nil =>
      cases rest with
      | nil => exact ⟨rfl, rfl⟩
      | cons c rest => simp [h c rfl]
  | cons c text ih =>
      obtain ⟨ht, hd⟩ := ih
      by_cases hc : p c = true <;> simp [hc, ht, hd]

theorem steps_takeDigits (g : List Char → Reader β) (text : List Char) :
    Steps (takeAscii Char.isDigit >>= g) text (g (text.takeWhile Char.isDigit)) (text.dropWhile Char.isDigit) := by
  intro more hmore offset
  obtain ⟨ht, hd⟩ := takeWhile_append text (isDigit_of_delimited hmore)
  refine ⟨offset + (text.takeWhile Char.isDigit).length, ?_⟩
  show g ((text ++ more).takeWhile Char.isDigit) ⟨(text ++ more).dropWhile Char.isDigit,
    offset + ((text ++ more).takeWhile Char.isDigit).length⟩ = _
  rw [ht, hd]

theorem steps_valueStart (g : Char → Reader β) {c : Char} {cs : List Char}
    (h : text.dropWhile isBlank = c :: cs) : Steps (valueStart >>= g) text (g c) (c :: cs) := by
  intro more hmore offset
  have hblank : ∀ c ∈ more.head?, isBlank c = false := by
    intro c hc
    rcases hmore c hc with rfl | rfl <;> decide
  obtain ⟨ht, hd⟩ := takeWhile_append text hblank
  refine ⟨offset + (text.takeWhile isBlank).length, bind_of_ok ?_⟩
  rw [valueStart, bind_of_ok (peekToken_eq _ _), ht, hd, h]
  rfl

end

theorem takeSignificand_append (significand count : Nat) (text : List Char) {more : List Char} (h : Delimited more) :
    takeSignificand significand count (text ++ more) = ((takeSignificand significand count text).1,
      (takeSignificand significand count text).2.1, (takeSignificand significand count text).2.2 ++ more) := by
  induction text generalizing significand count with
  | nil =>
      cases more with
      | nil => rfl
      | cons c more => simp [takeSignificand, isDigit_of_delimited h c rfl]
  | cons c text ih =>
      simp only [List.cons_append, takeSignificand]
      split
      · exact ih _ _
      · rfl

theorem takeExponent_append (exponent count : Nat) (text : List Char) {more : List Char} (h : Delimited more) :
    takeExponent exponent count (text ++ more) = ((takeExponent exponent count text).1,
      (takeExponent exponent count text).2.1, (takeExponent exponent count text).2.2 ++ more) := by
  induction text generalizing exponent count with
  | nil =>
      cases more with
      | nil => rfl
      | cons c more => simp [takeExponent, isDigit_of_delimited h c rfl]
  | cons c text ih =>
      simp only [List.cons_append, takeExponent]
      split
      · exact ih _ _
      · rfl

theorem steps_significandFrom (g : Nat × Nat → Reader β) (significand : Nat) (text : List Char) :
    Steps (significandFrom significand >>= g) text
      (g ((takeSignificand significand 0 text).1, (takeSignificand significand 0 text).2.1))
      (takeSignificand significand 0 text).2.2 := by
  intro more hmore offset
  refine ⟨offset + (takeSignificand significand 0 text).2.1, ?_⟩
  show g ((takeSignificand significand 0 (text ++ more)).1, _) ⟨(takeSignificand significand 0 (text ++ more)).2.2,
    offset + (takeSignificand significand 0 (text ++ more)).2.1⟩ = _
  rw [takeSignificand_append _ _ _ hmore]

theorem extends_makeDouble (negative : Bool) (significand : Nat) (exponent : Int) (text : List Char) :
    Extends (makeDouble negative significand exponent) text := by
  unfold makeDouble
  split
  · exact extends_pure _ _
  · exact extends_of_fails fun _ => ⟨_, rfl⟩

/-- The digits of an exponent. -/
def exponentDigits : Reader Nat := do
  let cursor ← get
  let (value, count, rest) := takeExponent 0 0 cursor.rest
  set (⟨rest, cursor.offset + count⟩ : Cursor)
  return value

theorem steps_exponentDigits (g : Nat → Reader β) (text : List Char) :
    Steps (exponentDigits >>= g) text (g (takeExponent 0 0 text).1) (takeExponent 0 0 text).2.2 := by
  intro more hmore offset
  refine ⟨offset + (takeExponent 0 0 text).2.1, ?_⟩
  show g (takeExponent 0 0 (text ++ more)).1 ⟨(takeExponent 0 0 (text ++ more)).2.2,
    offset + (takeExponent 0 0 (text ++ more)).2.1⟩ = _
  rw [takeExponent_append _ _ _ hmore]

/-- An exponent after its sign. -/
def exponentAfter (sign : Option Char) (negative : Bool) (significand : Nat) (exponent : Int) : Reader Number := do
  match ← peek with
  | none => failHere .endInValue
  | some c => if !c.isDigit then failAfter 1 .invalidNumber
  let value ← exponentDigits
  if ← isDigitNext then
    if significand ≠ 0 ∧ sign ≠ some '-' then failAfter 1 .numberOutOfRange
    else
      let _ ← takeAscii Char.isDigit
      return .double ⟨negative, 0⟩
  else makeDouble negative significand (if sign = some '-' then exponent - value else exponent + value)

theorem withExponent_eq (negative : Bool) (significand : Nat) (exponent : Int) :
    withExponent negative significand exponent = (do
      advance
      let sign ← peek
      if sign = some '+' ∨ sign = some '-' then advance
      exponentAfter sign negative significand exponent) := rfl

section

variable (negative : Bool) (significand : Nat) (exponent : Int)

theorem extends_exponentAfter (sign : Option Char) (text : List Char) :
    Extends (exponentAfter sign negative significand exponent) text := by
  cases text with
  | nil => exact extends_of_fails fun _ => ⟨_, rfl⟩
  | cons c cs =>
      unfold exponentAfter
      refine (steps_peek_cons _ c cs).extends ?_
      dsimp only
      split
      · exact extends_of_fails fun _ => ⟨_, rfl⟩
      · refine (steps_exponentDigits _ _).extends ((steps_isDigitNext _ _).extends ?_)
        split
        · split
          · exact extends_of_fails fun _ => ⟨_, rfl⟩
          · exact (steps_takeDigits _ _).extends (extends_pure _ _)
        · exact extends_makeDouble _ _ _ _

theorem extends_withExponent (c : Char) (cs : List Char) :
    Extends (withExponent negative significand exponent) (c :: cs) := by
  rw [withExponent_eq]
  refine (steps_advance _ c cs).extends ?_
  cases cs with
  | nil => exact extends_of_fails fun _ => ⟨_, rfl⟩
  | cons c cs =>
      refine (steps_peek_cons _ c cs).extends ?_
      dsimp only
      split
      · exact (steps_advance _ c cs).extends (extends_exponentAfter _ _ _ _ _)
      · exact extends_exponentAfter _ _ _ _ _

/-- The end of a number, with an exponent or without. -/
theorem extends_exponentMark (text : List Char) :
    Extends (do
      if isExponentMark (← peek) then withExponent negative significand exponent
      else makeDouble negative significand exponent) text := by
  cases text with
  | nil =>
      refine (steps_peek_nil ?_).extends (extends_makeDouble _ _ _ _)
      rintro c (rfl | rfl) <;> rfl
  | cons c cs =>
      refine (steps_peek_cons _ c cs).extends ?_
      split
      · exact extends_withExponent _ _ _ c cs
      · exact extends_makeDouble _ _ _ _

theorem extends_withFraction (c : Char) (cs : List Char) :
    Extends (withFraction negative significand exponent) (c :: cs) := by
  unfold withFraction
  refine (steps_advance _ c cs).extends ((steps_significandFrom _ _ _).extends ?_)
  dsimp only
  refine (steps_isDigitNext _ _).extends ?_
  split
  · exact (steps_takeDigits _ _).extends (extends_exponentMark _ _ _ _)
  · split
    · exact extends_of_fails fun _ => ⟨_, rfl⟩
    · exact extends_exponentMark _ _ _ _

/-- What follows the digits of a whole number, when the number may be one of `last` kind. -/
theorem extends_point {last : Reader Number} (h : ∀ text, Extends last text) (text : List Char) :
    Extends (do
      let next ← peek
      if next = some '.' then withFraction negative significand exponent
      else if isExponentMark next then withExponent negative significand exponent
      else last) text := by
  cases text with
  | nil =>
      refine (steps_peek_nil ?_).extends (h [])
      rintro c (rfl | rfl) <;> rfl
  | cons c cs =>
      refine (steps_peek_cons _ c cs).extends ?_
      split
      · exact extends_withFraction _ _ _ c cs
      · split
        · exact extends_withExponent _ _ _ c cs
        · exact h (c :: cs)

theorem extends_afterWhole (text : List Char) : Extends (afterWhole negative significand) text := by
  refine extends_point negative significand 0 (fun text => ?_) text
  split
  · exact extends_pure _ _
  · split <;> exact extends_pure _ _

theorem extends_number (text : List Char) : Extends (number negative) text := by
  unfold number
  cases text with
  | nil => exact extends_of_fails fun _ => ⟨_, rfl⟩
  | cons c cs =>
      refine (steps_peek_cons _ c cs).extends ?_
      dsimp only
      split
      · refine (steps_advance _ c cs).extends ((steps_isDigitNext _ _).extends ?_)
        split
        · exact extends_of_fails fun _ => ⟨_, rfl⟩
        · exact extends_afterWhole _ _ _
      · split
        · refine (steps_significandFrom _ _ _).extends ((steps_isDigitNext _ _).extends ?_)
          split
          · exact (steps_takeDigits _ _).extends (extends_point _ _ _ (extends_makeDouble _ _ _) _)
          · exact extends_afterWhole _ _ _
        · exact extends_of_fails fun _ => ⟨_, rfl⟩

end

theorem extends_numberOf (expected : String) (text : List Char) : Extends (numberOf expected) text := by
  unfold numberOf
  cases hd : text.dropWhile isBlank with
  | nil =>
      refine extends_of_fails fun offset => ?_
      have hstart : ∃ fault, valueStart ⟨text, offset⟩ = .error fault := by
        rw [valueStart, bind_of_ok (peekToken_eq _ _), hd]
        exact ⟨_, rfl⟩
      obtain ⟨fault, hstart⟩ := hstart
      exact ⟨fault, bind_of_error hstart⟩
  | cons c cs =>
      refine (steps_valueStart _ hd).extends ?_
      split
      · exact (steps_advance _ c cs).extends (extends_number true cs)
      · split
        · exact extends_number false (c :: cs)
        · exact extends_of_yields (yields_failWrongType expected) _

/-- A number that makes up a text is read alike wherever it is written. -/
theorem reads_binary32 {text : List Char} {x : Binary32} {offset offset' : Nat}
    (h : binary32 ⟨text, offset⟩ = .ok (x, ⟨[], offset'⟩)) : Reads binary32 text x :=
  ((extends_numberOf "f32" text).map Number.toBinary32) x [] offset offset' h

theorem takes_word (cs rest : List Char) : Takes (word cs) (cs ++ rest) () rest := by
  induction cs with
  | nil => exact takes_pure () rest
  | cons c cs ih =>
      refine Continues.takes (fun offset => ⟨offset + c.utf8Size, ?_⟩) ih
      show (if c = c then _ else _ : Reader Unit) _ = _
      rw [if_pos rfl]
      rfl

/-- Where a number is expected null is refused. -/
theorem refuses_null (expected : String) :
    Refuses (numberOf expected) "null".toList (.wrongType .null expected) := by
  intro rest _
  refine (takes_valueStart rfl).bind_fails ((takes_peek 'n' _).bind_fails ((takes_advance 'n' _).bind_fails ?_))
  exact (takes_word "ull".toList rest).bind_fails fun offset => ⟨_, rfl⟩

/-! ### Whole numbers -/

theorem head?_toDigits {n : Nat} (h : n ≠ 0) : (Nat.toDigits 10 n).head? ≠ some '0' := by
  induction n using Nat.strongRecOn with
  | _ n ih =>
      by_cases hn : n < 10
      · rw [Nat.toDigits_of_lt_base hn]
        simpa using h
      · have hpos : n / 10 ≠ 0 := by omega
        obtain ⟨c, cs, hc⟩ := List.exists_cons_of_ne_nil (Nat.toDigits_ne_nil (n := n / 10) (b := 10))
        have h := ih (n / 10) (by omega) hpos
        rw [hc] at h
        rw [Nat.toDigits_of_base_le (by decide) (by omega), hc]
        exact h

theorem le_ofDigitChars (cs : List Char) (n : Nat) : n ≤ Nat.ofDigitChars 10 cs n := by
  induction cs generalizing n with
  | nil => exact Nat.le_refl n
  | cons c cs ih =>
      rw [Nat.ofDigitChars_cons]
      exact Nat.le_trans (by omega) (ih _)

theorem takeSignificand_digits {cs rest : List Char} {significand : Nat} (hc : ∀ c ∈ cs, c.isDigit = true)
    (hr : ∀ c ∈ rest.head?, c.isDigit = false) (hn : Nat.ofDigitChars 10 cs significand < UInt64.size) (count : Nat) :
    takeSignificand significand count (cs ++ rest) =
      (Nat.ofDigitChars 10 cs significand, count + cs.length, rest) := by
  induction cs generalizing significand count with
  | nil =>
      cases rest with
      | nil => rfl
      | cons c rest => simp [takeSignificand, hr c rfl]
  | cons c cs ih =>
      obtain ⟨hc, hcs⟩ := List.forall_mem_cons.1 hc
      rw [Nat.ofDigitChars_cons] at hn
      have hlt := Nat.lt_of_le_of_lt (le_ofDigitChars cs _) hn
      rw [List.cons_append, takeSignificand, if_pos ⟨hc, hlt⟩, ih hcs hn, Nat.ofDigitChars_cons, List.length_cons]
      congr 2
      omega

theorem takes_isDigitNext {rest : List Char} (h : Delimited rest) : Takes isDigitNext rest false rest := by
  intro offset
  refine ⟨offset, ?_⟩
  cases rest with
  | nil => rfl
  | cons c rest =>
      show Except.ok (c.isDigit, _) = _
      rw [isDigit_of_delimited h c rfl]

theorem takes_afterWhole (n : Nat) {rest : List Char} (h : Delimited rest) :
    Takes (afterWhole false n) rest (.natural n) rest := by
  intro offset
  refine ⟨offset, ?_⟩
  cases rest with
  | nil => rfl
  | cons c rest => rcases h c rfl with rfl | rfl <;> rfl

/-- The digits of a whole number of 64 bits are read as the number. -/
theorem takes_number {n : Nat} (h : n < UInt64.size) {rest : List Char} (hr : Delimited rest) :
    Takes (number false) (Nat.toDigits 10 n ++ rest) (.natural n) rest := by
  have hdigits : ∀ c ∈ Nat.toDigits 10 n, c.isDigit = true := fun c hc =>
    Nat.isDigit_of_mem_toDigits (by decide) (by decide) hc
  by_cases hn : n = 0
  · subst hn
    exact (takes_peek '0' rest).bind ((takes_advance '0' rest).bind
      ((takes_isDigitNext hr).bind (takes_afterWhole 0 hr)))
  · obtain ⟨c, cs, hc⟩ := List.exists_cons_of_ne_nil (Nat.toDigits_ne_nil (n := n) (b := 10))
    have hzero : c ≠ '0' := fun h => head?_toDigits hn (by rw [hc, h]; rfl)
    have hdigit : c.isDigit = true := hdigits c (hc ▸ List.mem_cons_self)
    have htaken : takeSignificand 0 0 (Nat.toDigits 10 n ++ rest) = (n, 0 + (Nat.toDigits 10 n).length, rest) := by
      have hvalue : Nat.ofDigitChars 10 (Nat.toDigits 10 n) 0 < UInt64.size := by rwa [Nat.ofDigitChars_ten_toDigits]
      rw [takeSignificand_digits hdigits (isDigit_of_delimited hr) hvalue, Nat.ofDigitChars_ten_toDigits]
    have hsignificand : Takes (significandFrom 0) (Nat.toDigits 10 n ++ rest) (n, 0 + (Nat.toDigits 10 n).length)
        rest := by
      intro offset
      refine ⟨offset + (0 + (Nat.toDigits 10 n).length), ?_⟩
      show Except.ok (((takeSignificand 0 0 (Nat.toDigits 10 n ++ rest)).1, _), _) = _
      rw [htaken]
    rw [hc, List.cons_append] at hsignificand ⊢
    refine (takes_peek c _).bind ?_
    dsimp only
    rw [if_neg hzero, if_pos hdigit]
    exact hsignificand.bind ((takes_isDigitNext hr).bind (takes_afterWhole n hr))

theorem reads_natural {n : Nat} (h : n < UInt64.size) (expected : String) :
    Reads (natural expected) (writeNatural n) n := by
  intro rest hr
  obtain ⟨c, cs, hc⟩ := List.exists_cons_of_ne_nil (Nat.toDigits_ne_nil (n := n) (b := 10))
  have hdigit : c.isDigit = true := Nat.isDigit_of_mem_toDigits (by decide) (by decide) (hc ▸ List.mem_cons_self)
  have hnumber := takes_number h hr
  rw [writeNatural]
  rw [hc, List.cons_append] at hnumber ⊢
  have hblank : isBlank c = false := by
    rw [Bool.eq_false_iff]
    intro hb
    simp only [isBlank, Bool.or_eq_true, decide_eq_true_eq] at hb
    rcases hb with ((rfl | rfl) | rfl) | rfl <;> cases hdigit
  have hsign : c ≠ '-' := by
    rintro rfl
    cases hdigit
  have hof : Takes (numberOf expected) (c :: (cs ++ rest)) (.natural n) rest := by
    refine (takes_valueStart hblank).bind ?_
    rw [if_neg hsign, if_pos hdigit]
    exact hnumber
  exact hof.bind (takes_pure n rest)

end VehicleDamage.Json.Reader
