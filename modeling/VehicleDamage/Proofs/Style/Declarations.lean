import VehicleDamage.Proofs.Text.Blank
import VehicleDamage.Style.Declarations

/-!
The declarations of a style survive being written and read again.
-/

namespace VehicleDamage.Style

open Text

/-- A declaration that is read as it is written. -/
structure Declaration.IsNormal (d : Declaration) : Prop where
  property_ne : d.property.toList ≠ []
  property_trimmed : IsTrimmed d.property.toList
  property_free : ∀ c ∈ d.property.toList, c ≠ ':' ∧ c ≠ ';'
  value_trimmed : IsTrimmed d.value.toList
  value_free : ';' ∉ d.value.toList

namespace Declaration

theorem text_toList (d : Declaration) : d.text.toList = d.property.toList ++ ':' :: d.value.toList := by
  simp [text]

theorem parse?_text {d : Declaration} (h : d.IsNormal) : parse? d.text.toList = some d := by
  have hfree : ∀ c ∈ d.property.toList, (c == ':') = false := fun c hc => by simp [(h.property_free c hc).1]
  rw [text_toList, parse?, splitOnce?_append hfree (by simp)]
  dsimp only
  rw [trim_eq_self h.property_trimmed, trim_eq_self h.value_trimmed, if_neg (by simpa using h.property_ne),
    String.ofList_toList, String.ofList_toList]

/-- What a piece declares: what stands on both sides of its first colon, trimmed. -/
theorem parse?_eq_some {piece : List Char} {d : Declaration} (h : parse? piece = some d) :
    ∃ property value, piece = property ++ ':' :: value ∧ (∀ c ∈ property, c ≠ ':') ∧
      d.property.toList = trim property ∧ d.value.toList = trim value ∧ trim property ≠ [] := by
  rw [parse?] at h
  split at h
  · cases h
  · next property value hs =>
    obtain ⟨c, hc, rfl, hfree⟩ := splitOnce?_eq_some hs
    obtain rfl : c = ':' := by simpa using hc
    split at h
    · cases h
    · next hne =>
      cases h
      refine ⟨property, value, rfl, fun c hc => by simpa using hfree c hc, ?_, ?_, by simpa using hne⟩
      · exact String.toList_ofList
      · exact String.toList_ofList

theorem isNormal_of_parse? {piece : List Char} {d : Declaration} (h : parse? piece = some d)
    (hp : ';' ∉ piece) : d.IsNormal := by
  obtain ⟨property, value, rfl, hcolon, hproperty, hvalue, hne⟩ := parse?_eq_some h
  simp only [List.mem_append, List.mem_cons, not_or] at hp
  constructor
  · rwa [hproperty]
  · rw [hproperty]
    exact isTrimmed_trim property
  · rw [hproperty]
    intro c hc
    have hm := mem_of_mem_trim hc
    exact ⟨hcolon c hm, fun he => hp.1 (he ▸ hm)⟩
  · rw [hvalue]
    exact isTrimmed_trim value
  · rw [hvalue]
    exact fun hm => hp.2.2 (mem_of_mem_trim hm)

theorem semicolon_notMem_text {d : Declaration} (h : d.IsNormal) : ';' ∉ d.text.toList := by
  rw [text_toList, List.mem_append, List.mem_cons]
  rintro (hp | hc | hv)
  · exact (h.property_free _ hp).2 rfl
  · cases hc
  · exact h.value_free hv

/-- A declaration is normal exactly if its text is a single piece, and one that declares it. -/
theorem isNormal_iff {d : Declaration} : d.IsNormal ↔ parse? d.text.toList = some d ∧ ';' ∉ d.text.toList :=
  ⟨fun h => ⟨parse?_text h, semicolon_notMem_text h⟩, fun ⟨hp, hs⟩ => isNormal_of_parse? hp hs⟩

instance (d : Declaration) : Decidable d.IsNormal :=
  decidable_of_iff _ isNormal_iff.symm

end Declaration

namespace Declarations

/-- Declarations that are read as they are written. -/
def AreNormal (ds : Declarations) : Prop :=
  ∀ d ∈ ds, d.IsNormal

theorem text_cons_cons (d e : Declaration) (ds : Declarations) :
    (text (d :: e :: ds)).toList = d.text.toList ++ ';' :: (text (e :: ds)).toList := by
  simp [text, String.intercalate_cons_cons]

/-- The text of declarations is cut into the texts of each. -/
theorem splitWhere_text {ds : Declarations} (hne : ds ≠ []) (h : ds.AreNormal) :
    splitWhere (· == ';') (text ds).toList = ds.map fun d => d.text.toList := by
  have hfree : ∀ piece ∈ ds.map fun d => d.text.toList, ∀ c ∈ piece, (c == ';') = false := by
    intro piece hp c hc
    obtain ⟨d, hd, rfl⟩ := List.mem_map.1 hp
    simpa using fun he : c = ';' => Declaration.semicolon_notMem_text (h d hd) (he ▸ hc)
  have ht : (text ds).toList = [';'].intercalate (ds.map fun d => d.text.toList) := by
    rw [text, String.toList_intercalate, List.map_map]
    rfl
  rw [ht, splitWhere_intercalate rfl (by simpa using hne) hfree]

/-- Normal declarations are read as they are written. -/
theorem parse_text {ds : Declarations} (h : ds.AreNormal) : parse (text ds) = ds := by
  cases hds : ds with
  | nil => rfl
  | cons d more =>
      rw [← hds, parse, splitWhere_text (by simp [hds]) h, List.filterMap_map]
      clear hds
      induction ds with
      | nil => rfl
      | cons d ds ih =>
          obtain ⟨hd, hds⟩ := List.forall_mem_cons.1 h
          have hp : (Declaration.parse? ∘ fun d => d.text.toList) d = some d := Declaration.parse?_text hd
          rw [List.filterMap_cons_some hp, ih hds]

/-- Whatever is read is normal. -/
theorem areNormal_parse (style : String) : AreNormal (parse style) := by
  intro d hd
  obtain ⟨piece, hpiece, hparse⟩ := List.mem_filterMap.1 hd
  exact Declaration.isNormal_of_parse? hparse fun hm => by simpa using (of_mem_splitWhere hpiece _ hm).2

/-- Declarations before and after a property is given a value: the first that names it has the value in place of its
own, and where none does, one that does comes after all others. -/
inductive Puts (property value : String) : Declarations → Declarations → Prop
  | inPlace {before after : Declarations} {d : Declaration} (unnamed : ∀ e ∈ before, e.isNamed property = false)
      (named : d.isNamed property = true) :
      Puts property value (before ++ d :: after) (before ++ ⟨d.property, value⟩ :: after)
  | atEnd {ds : Declarations} (unnamed : ∀ e ∈ ds, e.isNamed property = false) :
      Puts property value ds (ds ++ [⟨property, value⟩])

theorem Puts.cons {property value : String} {d : Declaration} {ds ds' : Declarations} (h : Puts property value ds ds')
    (hd : d.isNamed property = false) : Puts property value (d :: ds) (d :: ds') := by
  cases h with
  | @inPlace before after e unnamed named =>
      exact @Puts.inPlace property value (d :: before) after e (List.forall_mem_cons.2 ⟨hd, unnamed⟩) named
  | atEnd unnamed => exact .atEnd (List.forall_mem_cons.2 ⟨hd, unnamed⟩)

theorem puts_set (ds : Declarations) (property value : String) : Puts property value ds (ds.set property value) := by
  induction ds with
  | nil => exact .atEnd nofun
  | cons d ds ih =>
      rw [set]
      split
      · next hd => exact @Puts.inPlace property value [] ds d nofun hd
      · next hd => exact ih.cons (Bool.eq_false_iff.2 hd)

/-- What holds of every declaration holds of every one after a property is set. -/
theorem forall_mem_set {P : Declaration → Prop} {ds : Declarations} {property value : String}
    (h : ∀ d ∈ ds, P d) (hnew : P ⟨property, value⟩) (hkept : ∀ d, P d → P ⟨d.property, value⟩) :
    ∀ d ∈ ds.set property value, P d := by
  induction ds with
  | nil => exact List.forall_mem_singleton.2 hnew
  | cons d ds ih =>
      obtain ⟨hd, hds⟩ := List.forall_mem_cons.1 h
      rw [set]
      split
      · exact List.forall_mem_cons.2 ⟨hkept d hd, hds⟩
      · exact List.forall_mem_cons.2 ⟨hd, ih hds⟩

theorem areNormal_set {ds : Declarations} {property value : String} (h : ds.AreNormal)
    (hd : Declaration.IsNormal ⟨property, value⟩) : (ds.set property value).AreNormal :=
  forall_mem_set h hd fun _ hn =>
    ⟨hn.property_ne, hn.property_trimmed, hn.property_free, hd.value_trimmed, hd.value_free⟩

/-- A character stands in none of the declarations. -/
def AreFree (c : Char) (ds : Declarations) : Prop :=
  ∀ d ∈ ds, c ∉ d.property.toList ∧ c ∉ d.value.toList

theorem areFree_parse {c : Char} {style : String} (h : c ∉ style.toList) : AreFree c (parse style) := by
  intro d hd
  obtain ⟨piece, hpiece, hparse⟩ := List.mem_filterMap.1 hd
  obtain ⟨property, value, rfl, -, hproperty, hvalue, -⟩ := Declaration.parse?_eq_some hparse
  have hc : c ∉ property ++ ':' :: value := fun hm => h (of_mem_splitWhere hpiece c hm).1
  rw [hproperty, hvalue]
  exact ⟨fun hm => hc (by simp [mem_of_mem_trim hm]), fun hm => hc (by simp [mem_of_mem_trim hm])⟩

theorem areFree_set {c : Char} {ds : Declarations} {property value : String} (h : ds.AreFree c)
    (hp : c ∉ property.toList) (hv : c ∉ value.toList) : (ds.set property value).AreFree c :=
  forall_mem_set h ⟨hp, hv⟩ fun _ hd => ⟨hd.1, hv⟩

theorem notMem_text {c : Char} {ds : Declarations} (h : ds.AreFree c) (hcolon : c ≠ ':') (hsemicolon : c ≠ ';') :
    c ∉ (text ds).toList := by
  induction ds with
  | nil => exact List.not_mem_nil
  | cons d ds ih =>
      obtain ⟨hd, hds⟩ := List.forall_mem_cons.1 h
      have ht : c ∉ d.text.toList := by simp [Declaration.text_toList, hd.1, hd.2, hcolon]
      cases ds with
      | nil =>
          have htext : text [d] = d.text := by simp [text]
          rwa [htext]
      | cons e ds =>
          rw [text_cons_cons]
          simp [ht, hsemicolon, ih hds]

theorem get?_cons (d : Declaration) (ds : Declarations) (property : String) :
    get? (d :: ds) property = if d.isNamed property then some d.value else ds.get? property := by
  rw [get?, List.find?_cons]
  split
  · next hn => rw [if_pos hn]; rfl
  · next hn => rw [if_neg (Bool.eq_false_iff.1 hn)]; rfl

/-- A property that is set has its value, and every other one the value it had. -/
theorem get?_set (ds : Declarations) (property value other : String) :
    (ds.set property value).get? other =
      if eqIgnoreCase property.toList other.toList then some value else ds.get? other := by
  induction ds with
  | nil => exact get?_cons _ _ _
  | cons d ds ih =>
      rw [set]
      split
      · next hd =>
        have hn (v : String) : Declaration.isNamed ⟨d.property, v⟩ other =
            eqIgnoreCase property.toList other.toList := by
          simp only [Declaration.isNamed, eqIgnoreCase, beq_iff_eq] at hd ⊢
          rw [hd]
        rw [get?_cons, get?_cons, hn value, hn d.value]
        split <;> rfl
      · next hd =>
        rw [get?_cons, get?_cons, ih]
        split
        · next hn =>
          rw [if_neg fun he => hd ?_]
          simp only [Declaration.isNamed, eqIgnoreCase, beq_iff_eq] at hn he ⊢
          rw [hn, he]
        · rfl

/-- The properties stay as they are, unless none of them is the one that is set; it then comes last. -/
theorem map_property_set (ds : Declarations) (property value : String) :
    (ds.set property value).map Declaration.property =
      if ∃ d ∈ ds, d.isNamed property = true then ds.map Declaration.property
      else ds.map Declaration.property ++ [property] := by
  have h := puts_set ds property value
  generalize ds.set property value = ds' at h
  cases h with
  | @inPlace before after d unnamed named =>
      rw [if_pos ⟨d, by simp, named⟩, List.map_append, List.map_append]
      rfl
  | atEnd unnamed =>
      have hnone : ¬∃ d ∈ ds, d.isNamed property = true := fun ⟨d, hd, hn⟩ => by
        rw [unnamed d hd] at hn
        cases hn
      rw [if_neg hnone, List.map_append]
      rfl

theorem length_set (ds : Declarations) (property value : String) :
    (ds.set property value).length = if ∃ d ∈ ds, d.isNamed property = true then ds.length else ds.length + 1 := by
  have h := congrArg List.length (map_property_set ds property value)
  rw [List.length_map] at h
  rw [h]
  split
  · exact List.length_map _
  · rw [List.length_append, List.length_map]
    rfl

/-- Properties set one after another. -/
def setAll (ds : Declarations) (settings : List Declaration) : Declarations :=
  settings.foldl (fun ds d => ds.set d.property d.value) ds

theorem areNormal_setAll {ds : Declarations} {settings : List Declaration} (h : ds.AreNormal)
    (hs : ∀ d ∈ settings, d.IsNormal) : (ds.setAll settings).AreNormal := by
  induction settings generalizing ds with
  | nil => exact h
  | cons d settings ih =>
      obtain ⟨hd, hsettings⟩ := List.forall_mem_cons.1 hs
      exact ih (areNormal_set h hd) hsettings

/-- Declarations that are read from any style, with any properties set to normal values, are read back as they are
written. A property that is set has its value and no other one is changed; it makes the declarations one more exactly
if none named it, and else leaves each where it is and as it is called. -/
theorem setAll_read_back (style : String) (settings : List Declaration) (h : ∀ d ∈ settings, d.IsNormal) :
    parse ((parse style).setAll settings).text = (parse style).setAll settings ∧
    (∀ (ds : Declarations) (property value other : String), (ds.set property value).get? other =
      if eqIgnoreCase property.toList other.toList then some value else ds.get? other) ∧
    ∀ (ds : Declarations) (property value : String),
      ((ds.set property value).length = ds.length + 1 ↔ ¬∃ d ∈ ds, d.isNamed property = true) ∧
      ((∃ d ∈ ds, d.isNamed property = true) →
        (ds.set property value).map Declaration.property = ds.map Declaration.property) := by
  have hnormal := areNormal_setAll (areNormal_parse style) h
  refine ⟨parse_text hnormal, get?_set, fun ds property value => ⟨?_, fun hn => ?_⟩⟩
  · rw [length_set]
    split
    · next hn => exact iff_of_false (by omega) (fun hnone => hnone hn)
    · next hn => exact iff_of_true rfl hn
  · rw [map_property_set, if_pos hn]

theorem setAll_read_back_mixed :
    let settings : List Declaration := [⟨"Fill", "#b71c1c"⟩, ⟨"x", "a:b"⟩, ⟨"y", ""⟩]
    let ds := (parse " fill : #424242;; STROKE:none;fill:red").setAll settings
    (∀ d ∈ settings, d.IsNormal) ∧ ds.text = "fill:#b71c1c;STROKE:none;fill:red;x:a:b;y:" ∧ parse ds.text = ds ∧
      (ds.set "stroke" "2").get? "Stroke" = some "2" ∧ (ds.set "stroke" "2").get? "FILL" = some "#b71c1c" ∧
      (ds.set "stroke" "2").length = 5 := by
  intro settings ds
  have hnormal : ∀ d ∈ settings, d.IsNormal := by simp only [settings, List.forall_mem_cons]; decide
  obtain ⟨hread, hget, -⟩ := setAll_read_back " fill : #424242;; STROKE:none;fill:red" settings hnormal
  refine ⟨hnormal, by decide, hread, ?_, ?_, by decide⟩
  · exact (hget ds "stroke" "2" "Stroke").trans (if_pos (by decide))
  · exact (hget ds "stroke" "2" "FILL").trans (by decide)

end Declarations

end VehicleDamage.Style
