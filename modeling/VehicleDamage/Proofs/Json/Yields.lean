import VehicleDamage.Proofs.Json.Objects

/-!
What holds of every value that is read, whatever the text.
-/

namespace VehicleDamage.Json

namespace Reader

variable {α β : Type}

/-- Whatever a reader takes has a property. -/
def Yields (reader : Reader α) (P : α → Prop) : Prop :=
  ∀ cursor a cursor', reader cursor = .ok (a, cursor') → P a

section

variable {x : Reader α} {f : α → Reader β} {P : α → Prop} {Q : β → Prop}

theorem yields_true (x : Reader α) : Yields x fun _ => True :=
  fun _ _ _ _ => trivial

theorem yields_pure {a : α} (h : P a) : Yields (pure a) P := by
  intro cursor a' cursor' ha
  cases ha
  exact h

theorem Yields.bind (hx : Yields x P) (hf : ∀ a, P a → Yields (f a) Q) : Yields (x >>= f) Q := by
  intro cursor b cursor' hb
  cases hx' : x cursor with
  | error fault =>
      rw [bind_of_error hx'] at hb
      cases hb
  | ok taken =>
      obtain ⟨a, mid⟩ := taken
      rw [bind_of_ok hx'] at hb
      exact hf a (hx cursor a mid hx') mid b cursor' hb

theorem Yields.map {g : α → β} (hx : Yields x P) (hg : ∀ a, P a → Q (g a)) :
    Yields (x >>= fun a => pure (g a)) Q :=
  hx.bind fun a ha => yields_pure (hg a ha)

/-- What has been passed over does not matter. -/
theorem yields_after (hf : ∀ a, Yields (f a) Q) : Yields (x >>= f) Q :=
  (yields_true x).bind fun a _ => hf a

theorem yields_of_error (h : ∀ cursor, ∃ fault, x cursor = .error fault) : Yields x P := by
  intro cursor a cursor' ha
  obtain ⟨fault, hf⟩ := h cursor
  rw [hf] at ha
  cases ha

theorem yields_failAfter (extra : Nat) (cause : Cause) : Yields (failAfter extra cause) P :=
  yields_of_error fun _ => ⟨_, rfl⟩

theorem yields_failPending (cause : Cause) : Yields (failPending cause) P :=
  yields_of_error fun _ => ⟨_, rfl⟩

theorem yields_failAtPeeked (cause : Cause) : Yields (failAtPeeked cause) P :=
  yields_of_error fun _ => ⟨_, rfl⟩

theorem Yields.placing (bracket : Bracket) (h : Yields x P) : Yields (placing bracket x) P := by
  intro cursor a cursor' ha
  refine h cursor a cursor' ?_
  rw [Reader.placing] at ha
  split at ha
  · cases ha
  · exact ha

theorem yields_failWrongType (expected : String) : Yields (failWrongType expected) P := by
  refine yields_after fun next => ?_
  split
  · exact yields_after fun _ => yields_after fun _ => yields_failAfter _ _
  · exact yields_after fun _ => yields_after fun _ => yields_failAfter _ _
  · exact yields_after fun _ => yields_after fun _ => yields_failAfter _ _
  · exact yields_after fun _ => yields_after fun _ => yields_failAfter _ _
  · exact yields_after fun _ => yields_after fun _ => yields_failAfter _ _
  · exact yields_failAfter _ _
  · exact yields_failAfter _ _
  · split
    · exact yields_after fun _ => yields_failAfter _ _
    · exact yields_failAtPeeked _
  · exact yields_failAtPeeked _

end

/-! ### Records -/

section

variable {r : Record α} {P : α → Prop}

theorem yields_namedFields (h : ∀ f ∈ r.fields, Yields f.read fun change => ∀ value, P value → P (change value))
    (fuel : Nat) (first : Bool) (seen : List String) {value : α} (hv : P value) :
    Yields (namedFieldsWithin r fuel first seen value) fun taken => P taken.2 := by
  induction fuel generalizing first seen value with
  | zero => exact yields_failAfter _ _
  | succ fuel ih =>
      refine yields_after fun more => ?_
      split
      · refine yields_after fun key => ?_
        split
        · exact yields_after fun _ => yields_after fun _ => ih _ _ hv
        · next f hf =>
          split
          · exact yields_failPending _
          · exact yields_after fun _ => (h f (List.mem_of_find?_eq_some hf)).bind fun change hc => ih _ _ (hc value hv)
      · exact yields_pure hv

theorem yields_orderedFields (fields : List (Field α))
    (h : ∀ f ∈ fields, Yields f.read fun change => ∀ value, P value → P (change value)) (index : Nat) (first : Bool)
    {value : α} (hv : P value) : Yields (orderedFields r index first value fields) P := by
  induction fields generalizing index first value with
  | nil => exact yields_pure hv
  | cons f fields ih =>
      obtain ⟨hf, hfields⟩ := List.forall_mem_cons.1 h
      refine yields_after fun more => ?_
      split
      · exact hf.bind fun change hc => ih hfields _ _ (hc value hv)
      · split
        · exact yields_failPending _
        · exact ih hfields _ _ hv

/-- What holds of a record to begin with and is kept by the change that each field makes holds of every record read. -/
theorem yields_record (h : ∀ f ∈ r.fields, Yields f.read fun change => ∀ value, P value → P (change value))
    (hb : P r.base) : Yields (record r) P := by
  refine yields_after fun first => ?_
  split
  · refine yields_after fun _ => Yields.placing _ ?_
    exact (yields_orderedFields r.fields h 0 true hb).bind fun value hv => yields_after fun _ => yields_pure hv
  · split
    · refine yields_after fun _ => Yields.placing _ (yields_after fun _ => ?_)
      refine (yields_namedFields h _ true [] hb).bind fun taken hv => ?_
      dsimp only
      split
      · exact yields_failPending _
      · exact yields_after fun _ => yields_pure hv
    · exact yields_failWrongType _

end

/-! ### Choices -/

/-- What holds of a choice however it is written. -/
def Variant.Yields (P : α → Prop) : Variant α → Prop
  | .bare value => P value
  | .holding read => Reader.Yields read P

theorem yields_choice {variants : List (String × Variant α)} {P : α → Prop}
    (h : ∀ v ∈ variants, Variant.Yields P v.2) : Yields (choice variants) P := by
  have hname : Yields (variantName variants) (Variant.Yields P) := by
    refine yields_after fun name => ?_
    split
    · next variant hv =>
      obtain ⟨before, after, hvariants, -⟩ := List.lookup_eq_some_iff.1 hv
      exact yields_pure (h (name, variant) (by simp [hvariants]))
    · exact yields_failAfter _ _
  refine yields_after fun first => ?_
  split
  · refine yields_after fun _ => hname.bind fun variant hv => ?_
    split
    · exact yields_pure hv
    · exact yields_failPending _
  · split
    · refine yields_after fun _ => yields_after fun more => ?_
      split
      · refine hname.bind fun variant hv => yields_after fun _ => ?_
        have hclose (a : α) (ha : P a) : Yields (closeChoice a) P := by
          refine yields_after fun next => ?_
          split
          · exact yields_after fun _ => yields_pure ha
          · exact yields_failAfter _ _
          · exact yields_failAfter _ _
        cases variant with
        | bare value => exact yields_after fun _ => hclose value hv
        | holding read => exact Yields.bind hv hclose
      · exact yields_failAtPeeked _
    · exact yields_failAtPeeked _

/-! ### Numbers -/

/-- No text of a number stands for what is not a number. -/
theorem yields_binary32 : Yields binary32 (· ≠ .nan) := by
  have hquotient (negative : Bool) (num den : Nat) : Binary32.ofQuotient negative num den ≠ .nan := by
    rw [Binary32.ofQuotient]
    split <;> nofun
  refine (yields_true _).map fun n _ => ?_
  cases n with
  | natural n =>
      rw [Number.toBinary32, Binary32.ofNat]
      exact hquotient _ _ _
  | negative n =>
      rw [Number.toBinary32, Binary32.ofInt]
      exact hquotient _ _ _
  | double x =>
      rw [Number.toBinary32, Binary32.ofDouble]
      exact hquotient _ _ _

end Reader

/-- What a reader takes has its property when it is a whole text as well. -/
theorem of_read_eq_ok {α : Type} {reader : Reader α} {P : α → Prop} (h : Reader.Yields reader P) {text : List Char}
    {a : α} (ha : read reader text = .ok a) : P a := by
  have hdocument : Reader.Yields (Reader.document reader) P := by
    refine h.bind fun a ha => Reader.yields_after fun next => ?_
    split
    · exact Reader.yields_after fun _ => Reader.yields_pure ha
    · exact Reader.yields_pure ha
  rw [read] at ha
  split at ha
  · next hd =>
    cases ha
    exact hdocument _ _ _ hd
  · cases ha

end VehicleDamage.Json
