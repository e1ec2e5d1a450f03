import Mathlib.Data.List.Forall2
import VehicleDamage.Proofs.Json.Reading

/-!
Objects that are written are read back: records, maps and choices.
-/

namespace VehicleDamage.Json

variable {α : Type}

/-- The members of an object, each after a comma but the first of all. -/
def membersFrom : Bool → List (String × List Char) → List Char
  | _, [] => []
  | first, m :: more => (if first then [] else [',']) ++ writeText m.1 ++ ':' :: m.2 ++ membersFrom false more

theorem writeObject_eq (members : List (String × List Char)) :
    writeObject members = '\x7b' :: (membersFrom true members ++ ['\x7d']) := by
  have hlater (members : List (String × List Char)) : ∀ m : String × List Char,
      List.intercalate [','] ((m :: members).map fun m => writeText m.1 ++ ':' :: m.2) =
        membersFrom true (m :: members) := by
    induction members with
    | nil => intro m; simp [membersFrom, List.intercalate]
    | cons m' members ih =>
        intro m
        have h := ih m'
        simp [membersFrom, List.intercalate] at h ⊢
        exact h
  cases members with
  | nil => rfl
  | cons m members => rw [writeObject, hlater, List.cons_append]

theorem delimited_membersFrom (members : List (String × List Char)) (rest : List Char) :
    Delimited (membersFrom false members ++ '\x7d' :: rest) := by
  cases members with
  | nil => exact delimited_cons (.inr rfl) rest
  | cons m members => exact delimited_cons (.inl rfl) _

namespace Reader

theorem takes_hasKey (first : Bool) (m : String × List Char) (members : List (String × List Char)) (rest : List Char) :
    Takes (hasKey first) (membersFrom first (m :: members) ++ rest) true
      (m.1.toList.flatMap escapeChar ++ '"' :: ':' :: (m.2 ++ (membersFrom false members ++ rest))) := by
  have htext : membersFrom first (m :: members) ++ rest = (if first then [] else [',']) ++ '"' ::
      (m.1.toList.flatMap escapeChar ++ '"' :: ':' :: (m.2 ++ (membersFrom false members ++ rest))) := by
    simp [membersFrom, writeText]
  rw [htext]
  cases first with
  | true => exact takes_hasKey_first _
  | false => exact takes_hasKey_next _

/-- The text of an object is fuel enough for its members. -/
theorem length_lt_membersFrom (members : List (String × List Char)) (rest : List Char) :
    members.length < (membersFrom true members ++ rest).length + 1 := by
  have hlength (first : Bool) : members.length ≤ (membersFrom first members).length := by
    induction members generalizing first with
    | nil => exact Nat.le_refl 0
    | cons m members ih =>
        have h := ih false
        simp only [membersFrom, List.length_append, List.length_cons]
        omega
  have h := hlength true
  rw [List.length_append]
  omega

/-- The fuel that a reader of members is given depends on the text only. -/
theorem continues_get {f : Cursor → Reader α} {next : Reader α} {text : List Char}
    (h : ∀ offset, f ⟨text, offset⟩ = next) : Continues (get >>= f) text next text := by
  intro offset
  refine ⟨offset, ?_⟩
  show f ⟨text, offset⟩ ⟨text, offset⟩ = _
  rw [h]

/-! ### Records -/

/-- A member is written for a field of a record, and reading it makes a change. -/
def IsMember (r : Record α) (m : String × List Char) (change : α → α) : Prop :=
  ∃ f, r.fields.find? (fun f => f.name == m.1) = some f ∧ Reads f.read m.2 change

/-- A member is written for a field of a record that refuses it. -/
def IsRefused (r : Record α) (m : String × List Char) (cause : Cause) : Prop :=
  ∃ f, r.fields.find? (fun f => f.name == m.1) = some f ∧ Refuses f.read m.2 cause

/-- A value with changes made to it in turn. -/
def changed (value : α) (changes : List (α → α)) : α :=
  changes.foldl (fun value change => change value) value

section

variable {r : Record α} {members : List (String × List Char)} {changes : List (α → α)}

/-- The member of a field that is not given yet is read as the field. -/
theorem continues_namedFields {fuel : Nat} {first : Bool} {seen : List String} {value : α} {m : String × List Char}
    {f : Field α} (hf : r.fields.find? (fun f => f.name == m.1) = some f) (hs : m.1 ∉ seen) (rest : List Char) :
    Continues (namedFieldsWithin r (fuel + 1) first seen value) (membersFrom first (m :: members) ++ rest)
      (do let change ← f.read; namedFieldsWithin r fuel false (m.1 :: seen) (change value))
      (m.2 ++ (membersFrom false members ++ rest)) := by
  refine ((takes_hasKey first m members rest).continues).trans ((takes_restOfText m.1 _).continues.trans ?_)
  rw [hf]
  dsimp only
  rw [if_neg (by simpa using hs)]
  exact (takes_colon _).continues

theorem notMem_cons_of_nodup {m : String × List Char} {seen : List String}
    (hn : ((m :: members).map Prod.fst).Nodup) (hs : ∀ m' ∈ members, m'.1 ∉ seen) :
    ∀ m' ∈ members, m'.1 ∉ m.1 :: seen := fun m' hm' =>
  List.not_mem_cons_of_ne_of_not_mem (fun he => (List.nodup_cons.1 hn).1 (List.mem_map.2 ⟨m', hm', he⟩)) (hs m' hm')

theorem takes_namedFields (h : List.Forall₂ (IsMember r) members changes) {fuel : Nat} (hf : members.length < fuel)
    (first : Bool) (seen : List String) (hn : (members.map Prod.fst).Nodup) (hs : ∀ m ∈ members, m.1 ∉ seen)
    (value : α) (rest : List Char) :
    Takes (namedFieldsWithin r fuel first seen value) (membersFrom first members ++ '\x7d' :: rest)
      ((members.map Prod.fst).reverse ++ seen, changed value changes) ('\x7d' :: rest) := by
  induction h generalizing fuel first seen value with
  | nil =>
      obtain ⟨fuel, rfl⟩ := Nat.exists_eq_succ_of_ne_zero (Nat.ne_zero_of_lt hf)
      exact (takes_hasKey_last first rest).bind (takes_pure _ _)
  | @cons m change members changes hm _ ih =>
      obtain ⟨fuel, rfl⟩ := Nat.exists_eq_succ_of_ne_zero (Nat.ne_zero_of_lt hf)
      obtain ⟨f, hfield, hread⟩ := hm
      obtain ⟨hms, hs⟩ := List.forall_mem_cons.1 hs
      have hrest := ih (Nat.lt_of_succ_lt_succ hf) false (m.1 :: seen) (List.nodup_cons.1 hn).2
        (notMem_cons_of_nodup hn hs) (change value)
      refine (continues_namedFields hfield hms _).takes ((hread _ (delimited_membersFrom members rest)).bind ?_)
      simpa [changed] using hrest

/-- A record whose members are written in any order is read back, those that are required being there. -/
theorem reads_record (h : List.Forall₂ (IsMember r) members changes) (hn : (members.map Prod.fst).Nodup)
    (hr : ∀ f ∈ r.fields, f.isRequired = true → f.name ∈ members.map Prod.fst) :
    Reads (record r) (writeObject members) (changed r.base changes) := by
  intro rest _
  rw [writeObject_eq, List.cons_append, List.append_assoc, List.singleton_append]
  have hfields := takes_namedFields h (length_lt_membersFrom members ('\x7d' :: rest)) true [] hn
    (fun _ _ => List.not_mem_nil) r.base rest
  have hall : (r.fields.find? fun f => f.isRequired && !((members.map Prod.fst).reverse ++ []).contains f.name) =
      none := by
    rw [List.find?_eq_none]
    intro f hf hm
    obtain ⟨hreq, hmiss⟩ := Bool.and_eq_true_iff.1 hm
    simp [hr f hf hreq] at hmiss
  refine (takes_valueStart rfl).bind ((takes_advance _ _).bind (Takes.placing _ ?_))
  refine (continues_get fun _ => rfl).takes (hfields.bind ?_)
  dsimp only
  rw [hall]
  exact (takes_closeObject rest).bind (takes_pure _ rest)

/-- The first member that is refused has the record refused. -/
theorem fails_namedFields {cause : Cause}
    (h : ∀ m ∈ members, (∃ change, IsMember r m change) ∨ IsRefused r m cause)
    (hx : ∃ m ∈ members, IsRefused r m cause) {fuel : Nat} (hf : members.length < fuel) (first : Bool)
    (seen : List String) (hn : (members.map Prod.fst).Nodup) (hs : ∀ m ∈ members, m.1 ∉ seen) (value : α)
    (rest : List Char) :
    Fails (namedFieldsWithin r fuel first seen value) (membersFrom first members ++ '\x7d' :: rest) cause := by
  induction members generalizing fuel first seen value with
  | nil =>
      obtain ⟨m, hm, -⟩ := hx
      cases hm
  | cons m members ih =>
      obtain ⟨fuel, rfl⟩ := Nat.exists_eq_succ_of_ne_zero (Nat.ne_zero_of_lt hf)
      obtain ⟨hms, hsm⟩ := List.forall_mem_cons.1 hs
      by_cases hm : IsRefused r m cause
      · obtain ⟨f, hfield, hread⟩ := hm
        exact (continues_namedFields hfield hms _).fails (hread _ (delimited_membersFrom members rest)).bind
      · obtain ⟨change, f, hfield, hread⟩ := (h m List.mem_cons_self).resolve_right hm
        have hlater : ∃ m' ∈ members, IsRefused r m' cause := by
          obtain ⟨m', hm', hr⟩ := hx
          rcases List.mem_cons.1 hm' with rfl | hm'
          · exact absurd hr hm
          · exact ⟨m', hm', hr⟩
        have hrest := ih (fun m' hm' => h m' (List.mem_cons_of_mem m hm')) hlater (Nat.lt_of_succ_lt_succ hf) false
          (m.1 :: seen) (List.nodup_cons.1 hn).2 (notMem_cons_of_nodup hn hsm) (change value)
        exact (continues_namedFields hfield hms _).fails
          ((hread _ (delimited_membersFrom members rest)).bind_fails hrest)

theorem refuses_record {cause : Cause} (h : ∀ m ∈ members, (∃ change, IsMember r m change) ∨ IsRefused r m cause)
    (hx : ∃ m ∈ members, IsRefused r m cause) (hn : (members.map Prod.fst).Nodup) :
    Refuses (record r) (writeObject members) cause := by
  intro rest _
  rw [writeObject_eq, List.cons_append, List.append_assoc, List.singleton_append]
  have hfields := fails_namedFields h hx (length_lt_membersFrom members ('\x7d' :: rest)) true [] hn
    (fun _ _ => List.not_mem_nil) r.base rest
  refine (takes_valueStart rfl).bind_fails ((takes_advance _ _).bind_fails (Fails.placing _ ?_))
  exact (continues_get fun _ => rfl).fails hfields.bind

end

/-! ### Maps -/

theorem takes_entries {read : Reader α} {write : α → List Char} {es : List (String × α)}
    (h : ∀ e ∈ es, Reads read (write e.2) e.2) {fuel : Nat} (hf : es.length < fuel) (first : Bool)
    (rest : List Char) : Takes (entriesWithin read fuel first)
      (membersFrom first (es.map fun e => (e.1, write e.2)) ++ '\x7d' :: rest) es ('\x7d' :: rest) := by
  induction es generalizing fuel first with
  | nil =>
      obtain ⟨fuel, rfl⟩ := Nat.exists_eq_succ_of_ne_zero (Nat.ne_zero_of_lt hf)
      exact (takes_hasKey_last first rest).bind (takes_pure _ _)
  | cons e es ih =>
      obtain ⟨fuel, rfl⟩ := Nat.exists_eq_succ_of_ne_zero (Nat.ne_zero_of_lt hf)
      obtain ⟨he, hes⟩ := List.forall_mem_cons.1 h
      refine (takes_hasKey first (e.1, write e.2) _ _).bind ((takes_restOfText e.1 _).bind ((takes_colon _).bind ?_))
      refine (he _ (delimited_membersFrom _ rest)).bind ?_
      exact (ih hes (Nat.lt_of_succ_lt_succ hf) false).map (e :: ·)

theorem reads_map {read : Reader α} {write : α → List Char} {m : SortedMap α}
    (h : ∀ e ∈ m.entries, Reads read (write e.2) e.2) : Reads (map read) (writeMap write m) m := by
  intro rest _
  rw [writeMap, writeObject_eq, List.cons_append, List.append_assoc, List.singleton_append]
  have hfuel := length_lt_membersFrom (m.entries.map fun e => (e.1, write e.2)) ('\x7d' :: rest)
  rw [List.length_map] at hfuel
  refine (takes_valueStart rfl).bind ((takes_advance _ _).bind (Takes.placing _ ?_))
  refine (continues_get fun _ => rfl).takes
    ((takes_entries h hfuel true rest).bind ((takes_closeObject rest).bind ?_))
  rw [SortedMap.ofList_entries]
  exact takes_pure m rest

/-! ### Choices -/

section

variable {variants : List (String × Variant α)} {name : String} {text : List Char} {read : Reader α}

theorem takes_variantName {variant : Variant α} (h : variants.lookup name = some variant) (rest : List Char) :
    Takes (variantName variants) (name.toList.flatMap escapeChar ++ '"' :: rest) variant rest := by
  refine (takes_restOfText name rest).bind ?_
  rw [h]
  exact takes_pure variant rest

theorem reads_bare {a : α} (h : variants.lookup name = some (.bare a)) :
    Reads (choice variants) (writeText name) a := by
  intro rest _
  simp only [writeText, List.cons_append, List.append_assoc, List.nil_append]
  exact (takes_valueStart rfl).bind ((takes_advance _ _).bind ((takes_variantName h rest).bind (takes_pure a rest)))

/-- After the value that a choice holds, its object has to end. -/
def closeChoice (a : α) : Reader α := do
  match ← peekToken with
  | some '\x7d' =>
    advance
    return a
  | some _ => failHere .expectedValue
  | none => failHere .endInObject

theorem takes_closeChoice (a : α) (rest : List Char) : Takes (closeChoice a) ('\x7d' :: rest) a rest :=
  (takes_peekToken rfl).bind ((takes_advance _ rest).bind (takes_pure a rest))

/-- A choice that holds a value is read as the value. -/
theorem continues_holding (h : variants.lookup name = some (.holding read)) (rest : List Char) :
    Continues (choice variants) (writeObject [(name, text)] ++ rest) (read >>= closeChoice)
      (text ++ '\x7d' :: rest) := by
  rw [writeObject_eq, List.cons_append, List.append_assoc, List.singleton_append]
  refine (takes_valueStart rfl).continues.trans ((takes_advance _ _).continues.trans ?_)
  refine (takes_hasKey true (name, text) [] _).continues.trans ((takes_variantName h _).continues.trans ?_)
  exact (takes_colon _).continues

theorem reads_holding {a : α} (h : variants.lookup name = some (.holding read)) (ht : Reads read text a) :
    Reads (choice variants) (writeObject [(name, text)]) a := fun rest _ =>
  (continues_holding h rest).takes ((ht _ (delimited_cons (.inr rfl) rest)).bind (takes_closeChoice a rest))

theorem refuses_holding {cause : Cause} (h : variants.lookup name = some (.holding read))
    (ht : Refuses read text cause) : Refuses (choice variants) (writeObject [(name, text)]) cause := fun rest _ =>
  (continues_holding h rest).fails (ht _ (delimited_cons (.inr rfl) rest)).bind

end

end Reader

end VehicleDamage.Json
