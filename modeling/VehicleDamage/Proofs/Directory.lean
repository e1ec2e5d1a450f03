import VehicleDamage.Directory

/-!
What a path gives rests on one file of the directory, and whether it leads to a file at all rests on none.
-/

namespace VehicleDamage

open Text

namespace Directory

variable {d d' : Directory} {name path : String} {names : List String}

/-- A name that does not stay in place. -/
def isEntry (name : String) : Bool :=
  !decide (name = "" ∨ name = ".")

/-- The name in the directory that decides about a path, if one does: the first that does not stay in place. -/
def entry? (path : String) : Option String :=
  let names := (splitWhere (· == '/') path.toList).map String.ofList
  if path.toList.contains '\x00' then none
  else if path.utf8ByteSize > 4095 then none
  else if path.toList.head? = some '/' then none
  else names.find? isEntry

theorem follow_staying (h : isEntry name = false) : d.follow (name :: names) = d.follow names := by
  rw [follow, if_pos (by simpa only [isEntry, Bool.not_eq_false', decide_eq_true_eq] using h)]

theorem follow_entry (h : isEntry name = true) : d.follow (name :: names) =
    if name = ".." then leave names
    else if name.utf8ByteSize > 255 then .error .nameTooLong
    else if names.isEmpty then .ok name
    else if d.contains name then .error .notDirectory
    else .error .notFound := by
  rw [follow, if_neg (by simpa only [isEntry, Bool.not_eq_true', decide_eq_false_iff_not] using h)]

theorem exists_leave (names : List String) : ∃ fault, leave names = .error fault := by
  rw [leave]
  split
  · exact ⟨_, rfl⟩
  · exact ⟨_, rfl⟩

/-- Names are refused whatever files there are, or the first entry among them is the file, or it would have to be a
directory. -/
theorem follow_cases (names : List String) :
    (∃ fault, ∀ d : Directory, d.follow names = .error fault) ∨
      ∃ name, names.find? isEntry = some name ∧ ((∀ d : Directory, d.follow names = .ok name) ∨
        ∀ d : Directory, d.follow names = if d.contains name then .error .notDirectory else .error .notFound) := by
  induction names with
  | nil => exact .inl ⟨_, fun _ => rfl⟩
  | cons name names ih =>
      cases hn : isEntry name with
      | false =>
          rw [List.find?_cons_of_neg (Bool.eq_false_iff.1 hn)]
          simpa only [follow_staying hn] using ih
      | true =>
          simp only [follow_entry hn]
          by_cases hup : name = ".."
          · obtain ⟨fault, hfault⟩ := exists_leave names
            exact .inl ⟨fault, fun _ => by rw [if_pos hup, hfault]⟩
          · by_cases hlong : name.utf8ByteSize > 255
            · exact .inl ⟨_, fun _ => by rw [if_neg hup, if_pos hlong]⟩
            · refine .inr ⟨name, List.find?_cons_of_pos hn, ?_⟩
              cases hlast : names.isEmpty with
              | true => exact .inl fun _ => by rw [if_neg hup, if_neg hlong, if_pos rfl]
              | false => exact .inr fun _ => by rw [if_neg hup, if_neg hlong, if_neg Bool.false_ne_true]

/-- A path is refused whatever files there are, or its entry is the file, or it would have to be a directory. -/
theorem locate_cases (path : String) :
    (∃ fault, ∀ d : Directory, d.locate path = .error fault) ∨
      ∃ name, entry? path = some name ∧ ((∀ d : Directory, d.locate path = .ok name) ∨
        ∀ d : Directory, d.locate path = if d.contains name then .error .notDirectory else .error .notFound) := by
  simp only [locate, entry?]
  by_cases hnul : path.toList.contains '\x00' = true
  · exact .inl ⟨_, fun _ => if_pos hnul⟩
  · by_cases hempty : path.isEmpty = true
    · exact .inl ⟨_, fun _ => by rw [if_neg hnul, if_pos hempty]⟩
    · by_cases hlong : path.utf8ByteSize > 4095
      · exact .inl ⟨_, fun _ => by rw [if_neg hnul, if_neg hempty, if_pos hlong]⟩
      · by_cases hslash : path.toList.head? = some '/'
        · obtain ⟨fault, hfault⟩ := exists_leave ((splitWhere (· == '/') path.toList).map String.ofList)
          exact .inl ⟨fault, fun _ => by rw [if_neg hnul, if_neg hempty, if_neg hlong, if_pos hslash, hfault]⟩
        · simpa only [if_neg hnul, if_neg hempty, if_neg hlong, if_neg hslash] using follow_cases _

/-- Whether a path leads to a file, and to which, does not depend on the files that there are. -/
theorem leads_or_refused (path : String) :
    (∃ name, ∀ d : Directory, d.locate path = .ok name) ∨ ∀ d : Directory, ∃ fault, d.locate path = .error fault := by
  obtain ⟨fault, hrefused⟩ | ⟨name, -, hfile | hdirectory⟩ := locate_cases path
  · exact .inr fun d => ⟨fault, hrefused d⟩
  · exact .inl ⟨name, hfile⟩
  · refine .inr fun d => ?_
    rw [hdirectory]
    split
    · exact ⟨_, rfl⟩
    · exact ⟨_, rfl⟩

theorem entry?_of_locate (h : d.locate path = .ok name) : entry? path = some name := by
  obtain ⟨fault, hrefused⟩ | ⟨other, hother, hfile | hdirectory⟩ := locate_cases path
  · rw [hrefused] at h
    cases h
  · rw [hfile] at h
    cases h
    exact hother
  · rw [hdirectory] at h
    split at h <;> cases h

/-- Reading a path rests on the file of its entry. -/
theorem read_congr (h : ∀ name, entry? path = some name → d.get? name = d'.get? name) : d.read path = d'.read path := by
  obtain ⟨fault, hrefused⟩ | ⟨name, hname, hfile | hdirectory⟩ := locate_cases path
  · rw [read, read, hrefused, hrefused]
    rfl
  · rw [read, read, hfile, hfile]
    simp only [bind, Except.bind, h name hname]
  · rw [read, read, hdirectory, hdirectory, SortedMap.contains, SortedMap.contains, h name hname]
    split <;> rfl

end Directory

end VehicleDamage
