import VehicleDamage.Json.Record
import VehicleDamage.Json.Writer

/-!
How readers take a written value off a text, whatever follows it.
-/

namespace VehicleDamage.Json

open Text

variable {α β : Type}

/-- What may follow a value that is written in an object: nothing, or the delimiter of a member. -/
def Delimited (rest : List Char) : Prop :=
  ∀ c ∈ rest.head?, c = ',' ∨ c = '\x7d'

theorem delimited_nil : Delimited [] := nofun

theorem delimited_cons {c : Char} (h : c = ',' ∨ c = '\x7d') (rest : List Char) : Delimited (c :: rest) := by
  intro d hd
  obtain rfl : c = d := Option.some.inj hd
  exact h

namespace Reader

/-- From a text, whatever its offset, a reader takes `a` and leaves `rest`. -/
def Takes (reader : Reader α) (text : List Char) (a : α) (rest : List Char) : Prop :=
  ∀ offset, ∃ offset', reader ⟨text, offset⟩ = .ok (a, ⟨rest, offset'⟩)

/-- A reader takes a text for `a` wherever it is written. -/
def Reads (reader : Reader α) (text : List Char) (a : α) : Prop :=
  ∀ rest, Delimited rest → Takes reader (text ++ rest) a rest

/-- A reader refuses a text for one cause. -/
def Fails (reader : Reader α) (text : List Char) (cause : Cause) : Prop :=
  ∀ offset, ∃ place, reader ⟨text, offset⟩ = .error ⟨cause, place⟩

/-- A reader refuses a text for one cause wherever it is written. -/
def Refuses (reader : Reader α) (text : List Char) (cause : Cause) : Prop :=
  ∀ rest, Delimited rest → Fails reader (text ++ rest) cause

/-- From one text a reader goes on as another reader does from what is left. -/
def Continues (reader : Reader α) (text : List Char) (next : Reader α) (rest : List Char) : Prop :=
  ∀ offset, ∃ offset', reader ⟨text, offset⟩ = next ⟨rest, offset'⟩

section

variable {x y z : Reader α} {f : α → Reader β} {text more rest : List Char} {a : α} {b : β} {cause : Cause}

theorem takes_pure (a : α) (rest : List Char) : Takes (pure a) rest a rest :=
  fun offset => ⟨offset, rfl⟩

theorem bind_of_ok {cursor cursor' : Cursor} (h : x cursor = .ok (a, cursor')) :
    (x >>= f) cursor = f a cursor' := by
  show Except.bind (x cursor) _ = _
  rw [h]
  rfl

theorem bind_of_error {cursor : Cursor} {fault : Fault} (h : x cursor = .error fault) :
    (x >>= f) cursor = .error fault := by
  show Except.bind (x cursor) _ = _
  rw [h]
  rfl

theorem Takes.continues (h : Takes x text a rest) : Continues (x >>= f) text (f a) rest := by
  intro offset
  obtain ⟨offset', h⟩ := h offset
  exact ⟨offset', bind_of_ok h⟩

theorem Continues.trans (h : Continues x text y more) (h' : Continues y more z rest) : Continues x text z rest := by
  intro offset
  obtain ⟨offset₁, h⟩ := h offset
  obtain ⟨offset₂, h'⟩ := h' offset₁
  exact ⟨offset₂, h.trans h'⟩

theorem Continues.takes (h : Continues x text y more) (ht : Takes y more a rest) : Takes x text a rest := by
  intro offset
  obtain ⟨offset₁, h⟩ := h offset
  obtain ⟨offset₂, ht⟩ := ht offset₁
  exact ⟨offset₂, h.trans ht⟩

theorem Continues.fails (h : Continues x text y rest) (hf : Fails y rest cause) : Fails x text cause := by
  intro offset
  obtain ⟨offset', h⟩ := h offset
  obtain ⟨place, hf⟩ := hf offset'
  exact ⟨place, h.trans hf⟩

theorem Takes.bind (hx : Takes x text a more) (hf : Takes (f a) more b rest) : Takes (x >>= f) text b rest :=
  hx.continues.takes hf

theorem Takes.map (g : α → β) (hx : Takes x text a rest) : Takes (x >>= fun a => pure (g a)) text (g a) rest :=
  hx.bind (takes_pure (g a) rest)

theorem Reads.map (g : α → β) (hx : Reads x text a) : Reads (x >>= fun a => pure (g a)) text (g a) :=
  fun rest hr => (hx rest hr).map g

theorem Takes.bind_fails (hx : Takes x text a rest) (hf : Fails (f a) rest cause) : Fails (x >>= f) text cause :=
  hx.continues.fails hf

theorem Fails.bind (hx : Fails x text cause) : Fails (x >>= f) text cause := by
  intro offset
  obtain ⟨place, hx⟩ := hx offset
  exact ⟨place, bind_of_error hx⟩

theorem Refuses.bind (hx : Refuses x text cause) : Refuses (x >>= f) text cause :=
  fun rest hr => (hx rest hr).bind

theorem Refuses.map (g : α → β) (hx : Refuses x text cause) : Refuses (g <$> x) text cause :=
  hx.bind (f := fun a => pure (g a))

theorem Takes.placing (bracket : Bracket) (h : Takes x text a rest) : Takes (placing bracket x) text a rest := by
  intro offset
  obtain ⟨offset', h⟩ := h offset
  exact ⟨offset', by rw [Reader.placing, h]⟩

theorem Fails.placing (bracket : Bracket) (h : Fails x text cause) : Fails (placing bracket x) text cause := by
  intro offset
  obtain ⟨place, h⟩ := h offset
  rw [Reader.placing, h]
  cases place <;> exact ⟨_, rfl⟩

end

/-! ### Characters -/

section

variable {c : Char} {rest : List Char}

theorem takes_advance (c : Char) (rest : List Char) : Takes advance (c :: rest) () rest :=
  fun offset => ⟨offset + c.utf8Size, rfl⟩

theorem takes_peek (c : Char) (rest : List Char) : Takes peek (c :: rest) (some c) (c :: rest) :=
  fun offset => ⟨offset, rfl⟩

theorem peekToken_eq (text : List Char) (offset : Nat) : peekToken ⟨text, offset⟩ =
    .ok ((text.dropWhile isBlank).head?, ⟨text.dropWhile isBlank, offset + (text.takeWhile isBlank).length⟩) := rfl

theorem takes_peekToken (hc : isBlank c = false) : Takes peekToken (c :: rest) (some c) (c :: rest) := by
  intro offset
  refine ⟨offset, ?_⟩
  rw [peekToken_eq, List.dropWhile_cons_of_neg (by simp [hc]), List.takeWhile_cons_of_neg (by simp [hc])]
  rfl

theorem takes_valueStart (hc : isBlank c = false) : Takes valueStart (c :: rest) c (c :: rest) :=
  (takes_peekToken hc).bind (takes_pure c (c :: rest))

theorem takes_colon (rest : List Char) : Takes colon (':' :: rest) () rest :=
  (takes_peekToken rfl).bind (takes_advance ':' rest)

theorem takes_closeObject (rest : List Char) : Takes closeObject ('\x7d' :: rest) () rest :=
  (takes_peekToken rfl).bind (takes_advance '\x7d' rest)

theorem takes_hasKey_last (first : Bool) (rest : List Char) :
    Takes (hasKey first) ('\x7d' :: rest) false ('\x7d' :: rest) :=
  (takes_peekToken rfl).bind (takes_pure false _)

theorem takes_hasKey_first (rest : List Char) : Takes (hasKey true) ('"' :: rest) true rest :=
  (takes_peekToken rfl).bind ((takes_advance '"' rest).bind (takes_pure true rest))

theorem takes_hasKey_next (rest : List Char) : Takes (hasKey false) (',' :: '"' :: rest) true rest :=
  (takes_peekToken rfl).bind ((takes_advance ',' _).bind
    ((takes_peekToken rfl).bind ((takes_advance '"' rest).bind (takes_pure true rest))))

end

end Reader

/-! ### Texts -/

theorem hexUnit_control {n : Nat} (h : n < 0x20) (rest : List Char) (offset : Nat) :
    hexUnit ('0' :: '0' :: Nat.digitChar (n / 16) :: Nat.digitChar (n % 16) :: rest) offset = .ok (n, rest) := by
  have hdigits : ∀ n < 0x20, ['0', '0', Nat.digitChar (n / 16), Nat.digitChar (n % 16)].mapM hexValue? =
      some [0, 0, n / 16, n % 16] := by
    decide
  simp only [hexUnit, List.take_succ_cons, List.take_zero, hdigits n h, List.drop_succ_cons, List.drop_zero,
    Except.ok.injEq, Prod.mk.injEq, and_true]
  omega

/-- A character is written as a short escape, as the escape of its number, or as itself. -/
theorem escapeChar_cases (c : Char) :
    (∃ e, escapeChar c = ['\\', e] ∧ e ≠ 'u' ∧ plainEscape? e = some c) ∨
    (c.toNat < 0x20 ∧ escapeChar c =
      ['\\', 'u', '0', '0', Nat.digitChar (c.toNat / 16), Nat.digitChar (c.toNat % 16)]) ∨
    (¬c.toNat < 0x20 ∧ c ≠ '"' ∧ c ≠ '\\' ∧ escapeChar c = [c]) := by
  by_cases hc : c ∈ ['"', '\\', '\x08', '\t', '\n', '\x0c', '\r']
  · left
    simp only [List.mem_cons, List.not_mem_nil, or_false] at hc
    rcases hc with rfl | rfl | rfl | rfl | rfl | rfl | rfl <;> exact ⟨_, rfl, by decide, by decide⟩
  · right
    simp only [List.mem_cons, List.not_mem_nil, or_false, not_or] at hc
    by_cases hs : c.toNat < 0x20
    · exact .inl ⟨hs, by simp [escapeChar, hc, hs]⟩
    · exact .inr ⟨hs, hc.1, hc.2.1, by simp [escapeChar, hc, hs]⟩

theorem textBody_escape {c : Char} {cs rest : List Char} (h : ∀ offset, escape true cs offset = .ok (c, rest))
    (offset : Nat) : ∃ offset',
      textBody true ('\\' :: cs) offset = (textBody true rest offset').map fun r => (c :: r.1, r.2) := by
  refine ⟨offset + 1 + (byteLength cs - byteLength rest), ?_⟩
  rw [textBody, if_neg (by decide), if_pos rfl]
  split
  · next he =>
    rw [h] at he
    cases he
  · next he =>
    rw [h] at he
    cases he
    rfl

/-- A character is read back from the way it is written. -/
theorem textBody_escapeChar (c : Char) (rest : List Char) (offset : Nat) : ∃ offset',
    textBody true (escapeChar c ++ rest) offset = (textBody true rest offset').map fun r => (c :: r.1, r.2) := by
  obtain ⟨e, he, hu, hplain⟩ | ⟨hsmall, he⟩ | ⟨hlarge, hquote, hbackslash, he⟩ := escapeChar_cases c
  · rw [he]
    exact textBody_escape (fun offset => by simp [escape, hu, hplain]) offset
  · have ht : isTrailingSurrogate c.toNat = false := by
      simp only [isTrailingSurrogate, Bool.and_eq_false_imp, decide_eq_true_eq, decide_eq_false_iff_not]
      omega
    have hl : isLeadingSurrogate c.toNat = false := by
      simp only [isLeadingSurrogate, Bool.and_eq_false_imp, decide_eq_true_eq, decide_eq_false_iff_not]
      omega
    rw [he]
    exact textBody_escape (fun offset => by simp [escape, hexUnit_control hsmall, ht, hl]) offset
  · refine ⟨offset + c.utf8Size, ?_⟩
    rw [he, List.singleton_append, textBody]
    simp [hlarge, hquote, hbackslash]

theorem textBody_written (cs rest : List Char) (offset : Nat) : ∃ offset',
    textBody true (cs.flatMap escapeChar ++ '"' :: rest) offset = .ok (cs, ⟨rest, offset'⟩) := by
  induction cs generalizing offset with
  | nil => exact ⟨offset + 1, by rw [List.flatMap_nil, List.nil_append, textBody, if_pos rfl]⟩
  | cons c cs ih =>
      obtain ⟨offset₁, h⟩ := textBody_escapeChar c (cs.flatMap escapeChar ++ '"' :: rest) offset
      obtain ⟨offset₂, ih⟩ := ih offset₁
      exact ⟨offset₂, by rw [List.flatMap_cons, List.append_assoc, h, ih]; rfl⟩

namespace Reader

/-- A text is read back, whatever its characters. -/
theorem takes_restOfText (s : String) (rest : List Char) :
    Takes (restOfText true) (s.toList.flatMap escapeChar ++ '"' :: rest) s rest := by
  intro offset
  obtain ⟨offset', h⟩ := textBody_written s.toList rest offset
  refine ⟨offset', ?_⟩
  rw [restOfText, h]
  show Except.ok (String.ofList s.toList, _) = _
  rw [String.ofList_toList]

theorem reads_text (s : String) : Reads text (writeText s) s := by
  intro rest _
  simp only [writeText, List.cons_append, List.append_assoc, List.nil_append]
  exact (takes_valueStart rfl).bind ((takes_advance '"' _).bind (takes_restOfText s rest))

end Reader

/-! ### Whole texts -/

open Reader

variable {reader : Reader α} {text : List Char} {a : α} {cause : Cause}

/-- What is taken wherever it is written is taken when nothing else is written. -/
theorem read_eq_ok (h : Reads reader text a) : read reader text = .ok a := by
  obtain ⟨offset, h⟩ := h [] delimited_nil 0
  rw [List.append_nil] at h
  rw [read, document, bind_of_ok h]
  rfl

theorem read_eq_error (h : Refuses reader text cause) :
    ∃ error, read reader text = .error error ∧ error.cause = cause := by
  have hf : Fails (document reader) (text ++ []) cause := (h [] delimited_nil).bind
  obtain ⟨place, hf⟩ := hf 0
  rw [List.append_nil] at hf
  exact ⟨Fault.locate text ⟨cause, place⟩, by rw [read, hf], rfl⟩

end VehicleDamage.Json
