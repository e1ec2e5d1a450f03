/-!
Maps from strings, kept in the order of their keys. Maps that answer every look-up alike are equal.
-/

namespace VehicleDamage

structure SortedMap (α : Type) where
  entries : List (String × α)
  sorted : entries.Pairwise fun a b => a.1 < b.1

namespace SortedMap

variable {α β : Type}

def empty : SortedMap α := ⟨[], .nil⟩

instance : Inhabited (SortedMap α) := ⟨empty⟩

instance [DecidableEq α] : DecidableEq (SortedMap α) := fun a b =>
  decidable_of_iff (a.entries = b.entries) (by cases a; cases b; simp)

def get? (m : SortedMap α) (key : String) : Option α :=
  m.entries.lookup key

def contains (m : SortedMap α) (key : String) : Bool :=
  (m.get? key).isSome

def keys (m : SortedMap α) : List String :=
  m.entries.map (·.1)

def size (m : SortedMap α) : Nat :=
  m.entries.length

/-- Put an entry at its place, over the one that is there. -/
def place (key : String) (value : α) : List (String × α) → List (String × α)
  | [] => [(key, value)]
  | e :: more =>
    if key = e.1 then (key, value) :: more
    else if key < e.1 then (key, value) :: e :: more
    else e :: place key value more

theorem mem_place {key : String} {value : α} {es : List (String × α)} {e : String × α}
    (h : e ∈ place key value es) : e = (key, value) ∨ e ∈ es := by
  induction es with
  | nil => simpa [place] using h
  | cons d more ih =>
    unfold place at h
    split at h
    · cases h with
      | head => exact .inl rfl
      | tail _ h => exact .inr (.tail _ h)
    · split at h
      · cases h with
        | head => exact .inl rfl
        | tail _ h => exact .inr h
      · cases h with
        | head => exact .inr (.head _)
        | tail _ h => exact (ih h).imp id (.tail _)

theorem place_sorted (key : String) (value : α) (es : List (String × α))
    (h : es.Pairwise fun a b => a.1 < b.1) : (place key value es).Pairwise fun a b => a.1 < b.1 := by
  induction es with
  | nil => simp [place]
  | cons d more ih =>
    obtain ⟨hd, hm⟩ := List.pairwise_cons.1 h
    unfold place
    split
    · next he => exact List.pairwise_cons.2 ⟨fun b hb => he ▸ hd b hb, hm⟩
    · next hne =>
      split
      · next hlt =>
        refine List.pairwise_cons.2 ⟨fun b hb => ?_, h⟩
        cases hb with
        | head => exact hlt
        | tail _ hb => exact String.lt_trans hlt (hd b hb)
      · next hnlt =>
        refine List.pairwise_cons.2 ⟨fun b hb => ?_, ih hm⟩
        rcases mem_place hb with rfl | hb
        · rcases Std.lt_trichotomy key d.1 with h1 | h1 | h1
          · exact absurd h1 hnlt
          · exact absurd h1 hne
          · exact h1
        · exact hd b hb

def insert (m : SortedMap α) (key : String) (value : α) : SortedMap α :=
  ⟨place key value m.entries, place_sorted key value m.entries m.sorted⟩

def filterKeys (m : SortedMap α) (p : String → Bool) : SortedMap α :=
  ⟨m.entries.filter fun e => p e.1, m.sorted.filter _⟩

def erase (m : SortedMap α) (key : String) : SortedMap α :=
  m.filterKeys (· != key)

def mapValues (m : SortedMap α) (f : α → β) : SortedMap β :=
  ⟨m.entries.map fun e => (e.1, f e.2), List.pairwise_map.2 m.sorted⟩

/-- Later entries replace earlier ones of the same key. -/
def ofList (es : List (String × α)) : SortedMap α :=
  es.foldl (fun m e => m.insert e.1 e.2) empty

theorem lookup_entry (key : String) (e : String × α) (es : List (String × α)) :
    (e :: es).lookup key = if key = e.1 then some e.2 else es.lookup key := by
  obtain ⟨k, v⟩ := e
  by_cases h : key = k
  · simp [h]
  · have hb : (key == k) = false := by simp [h]
    simp [List.lookup_cons, hb, h]

theorem lookup_place (key key' : String) (value : α) (es : List (String × α)) :
    (place key value es).lookup key' = if key' = key then some value else es.lookup key' := by
  induction es with
  | nil => simp [place, lookup_entry]
  | cons d more ih =>
    unfold place
    split
    · next he =>
      rw [lookup_entry, lookup_entry]
      by_cases h : key' = key <;> simp [h]
      intro h'; exact absurd (h'.trans he.symm) h
    · next hne =>
      split
      · rw [lookup_entry]
      · rw [lookup_entry, lookup_entry, ih]
        by_cases h : key' = key
        · subst h; simp [hne]
        · simp [h]

theorem lookup_filterKeys (p : String → Bool) (key : String) (es : List (String × α)) :
    (es.filter fun e => p e.1).lookup key = if p key then es.lookup key else none := by
  induction es with
  | nil => simp
  | cons d more ih =>
    rw [List.filter_cons, lookup_entry]
    by_cases hk : key = d.1
    · subst hk
      by_cases hp : p d.1
      · simp [hp, lookup_entry]
      · simp [hp, ih]
    · by_cases hp : p d.1
      · simp [hp, lookup_entry, hk, ih]
      · simp [hp, hk, ih]

theorem mem_of_get? {m : SortedMap α} {key : String} {value : α} (h : m.get? key = some value) :
    (key, value) ∈ m.entries := by
  obtain ⟨before, after, he, -⟩ := List.lookup_eq_some_iff.1 h
  simp [he]

theorem get?_of_mem {m : SortedMap α} {e : String × α} (h : e ∈ m.entries) : m.get? e.1 = some e.2 := by
  obtain ⟨es, hs⟩ := m
  show es.lookup e.1 = some e.2
  induction es with
  | nil => cases h
  | cons d es ih =>
    obtain ⟨hd, hs⟩ := List.pairwise_cons.1 hs
    rw [lookup_entry]
    cases h with
    | head => exact if_pos rfl
    | tail _ h => rw [if_neg fun hk => String.lt_irrefl _ (hk ▸ hd e h), ih hs h]

theorem lookup_eq_none_of_lt {key : String} {es : List (String × α)} (h : ∀ e ∈ es, key < e.1) :
    es.lookup key = none := by
  induction es with
  | nil => rfl
  | cons e es ih =>
    obtain ⟨he, hm⟩ := List.forall_mem_cons.1 h
    rw [lookup_entry, if_neg fun hk => String.lt_irrefl _ (hk ▸ he), ih hm]

/-- Of two sorted lists that answer alike, the first has no entry in front of the second's. -/
theorem not_lt_of_lookup {d e : String × α} {ds es : List (String × α)}
    (hd : (d :: ds).Pairwise fun a b => a.1 < b.1) (h : ∀ key, (e :: es).lookup key = (d :: ds).lookup key) :
    ¬e.1 < d.1 := by
  intro hlt
  have hm : ∀ d' ∈ d :: ds, e.1 < d'.1 :=
    List.forall_mem_cons.2 ⟨hlt, fun d' hd' => String.lt_trans hlt ((List.pairwise_cons.1 hd).1 d' hd')⟩
  have he := (h e.1).trans (lookup_eq_none_of_lt hm)
  rw [lookup_entry, if_pos rfl] at he
  cases he

theorem eq_of_lookup {ds es : List (String × α)} (hd : ds.Pairwise fun a b => a.1 < b.1)
    (he : es.Pairwise fun a b => a.1 < b.1) (h : ∀ key, ds.lookup key = es.lookup key) : ds = es := by
  induction ds generalizing es with
  | nil =>
    cases es with
    | nil => rfl
    | cons e es => simpa [lookup_entry] using h e.1
  | cons d ds ih =>
    cases es with
    | nil => simpa [lookup_entry] using h d.1
    | cons e es =>
      have hk : d.1 = e.1 := by
        rcases Std.lt_trichotomy d.1 e.1 with hlt | heq | hlt
        · exact absurd hlt (not_lt_of_lookup he h)
        · exact heq
        · exact absurd hlt (not_lt_of_lookup hd fun key => (h key).symm)
      have hv := h d.1
      rw [lookup_entry, lookup_entry, if_pos rfl, if_pos hk] at hv
      obtain ⟨hds, hd⟩ := List.pairwise_cons.1 hd
      obtain ⟨hes, he⟩ := List.pairwise_cons.1 he
      have hr : ds = es := ih hd he fun key => by
        by_cases hkey : key = d.1
        · rw [hkey, lookup_eq_none_of_lt hds, lookup_eq_none_of_lt (hk ▸ hes)]
        · have hl := h key
          rwa [lookup_entry, lookup_entry, if_neg hkey, if_neg (hk ▸ hkey)] at hl
      rw [hr, Prod.ext hk (Option.some.inj hv)]

theorem ext_get? {m n : SortedMap α} (h : ∀ key, m.get? key = n.get? key) : m = n := by
  obtain ⟨es, hs⟩ := m
  obtain ⟨ds, hd⟩ := n
  obtain rfl : es = ds := eq_of_lookup hs hd h
  rfl

@[simp]
theorem get?_empty (key : String) : (empty : SortedMap α).get? key = none := rfl

theorem get?_insert (m : SortedMap α) (key key' : String) (value : α) :
    (m.insert key value).get? key' = if key' = key then some value else m.get? key' :=
  lookup_place key key' value m.entries

theorem insert_comm (m : SortedMap α) {key key' : String} (h : key ≠ key') (value value' : α) :
    (m.insert key value).insert key' value' = (m.insert key' value').insert key value := by
  apply ext_get?
  intro k
  simp only [get?_insert]
  by_cases hk : k = key <;> by_cases hk' : k = key' <;> simp_all

theorem get?_filterKeys (m : SortedMap α) (p : String → Bool) (key : String) :
    (m.filterKeys p).get? key = if p key then m.get? key else none :=
  lookup_filterKeys p key m.entries

theorem get?_erase (m : SortedMap α) (key key' : String) :
    (m.erase key).get? key' = if key' = key then none else m.get? key' := by
  by_cases h : key' = key <;> simp [erase, get?_filterKeys, h]

theorem get?_mapValues (m : SortedMap α) (f : α → β) (key : String) :
    (m.mapValues f).get? key = (m.get? key).map f := by
  show (m.entries.map fun e => (e.1, f e.2)).lookup key = (m.entries.lookup key).map f
  induction m.entries with
  | nil => simp
  | cons d more ih => rw [List.map_cons, lookup_entry, lookup_entry]; by_cases h : key = d.1 <;> simp [h, ih]

/-- An entry after all others goes to the end. -/
theorem place_of_lt {key : String} {value : α} {es : List (String × α)} (h : ∀ e ∈ es, e.1 < key) :
    place key value es = es ++ [(key, value)] := by
  induction es with
  | nil => rfl
  | cons e es ih =>
    obtain ⟨he, hes⟩ := List.forall_mem_cons.1 h
    have hne : ¬key = e.1 := fun hk => String.lt_irrefl _ (hk ▸ he)
    rw [place, if_neg hne, if_neg (String.lt_asymm he), ih hes, List.cons_append]

/-- A map is made of its entries. -/
theorem ofList_entries (m : SortedMap α) : ofList m.entries = m := by
  have hfold (es : List (String × α)) : ∀ m : SortedMap α, (m.entries ++ es).Pairwise (fun a b => a.1 < b.1) →
      (es.foldl (fun m e => m.insert e.1 e.2) m).entries = m.entries ++ es := by
    induction es with
    | nil => exact fun m _ => (List.append_nil _).symm
    | cons e es ih =>
      intro m h
      have hplace : (m.insert e.1 e.2).entries = m.entries ++ [e] :=
        place_of_lt fun d hd => (List.pairwise_append.1 h).2.2 d hd e List.mem_cons_self
      rw [List.foldl_cons, ih, hplace, List.append_assoc, List.singleton_append]
      rwa [hplace, List.append_assoc, List.singleton_append]
  have he := hfold m.entries empty m.sorted
  obtain ⟨es, hs⟩ := m
  unfold ofList
  cases hm : es.foldl (fun m e => m.insert e.1 e.2) empty with
  | mk es' hs' =>
    rw [hm] at he
    obtain rfl : es' = es := he
    rfl

end SortedMap

end VehicleDamage
