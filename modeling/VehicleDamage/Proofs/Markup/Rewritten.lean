import VehicleDamage.Proofs.Markup.Locality
import VehicleDamage.Proofs.Markup.References
import VehicleDamage.Proofs.Template.Geometry

/-!
Start tags written anew with another style: they are cut and read as they are written.
-/

namespace VehicleDamage.Markup

open Text

/-- Neither a quote nor a `>`: a tag goes on through such a character. -/
def goesOn (c : Char) : Bool :=
  !isQuote c && c != '>'

theorem goesOn_of_isSpace {c : Char} (h : isSpace c = true) : goesOn c = true := by
  simp only [isSpace, Bool.or_eq_true, decide_eq_true_eq] at h
  rcases h with ((rfl | rfl) | rfl) | rfl <;> rfl

theorem cutTag_append {cs : List Char} (h : ∀ c ∈ cs, goesOn c = true) (rest : List Char) :
    cutTag none (cs ++ rest) = (cutTag none rest).map fun r => (cs ++ r.1, r.2) := by
  induction cs with
  | nil => simp
  | cons c cs ih =>
      obtain ⟨hc, hcs⟩ := List.forall_mem_cons.1 h
      simp only [goesOn, Bool.and_eq_true, Bool.not_eq_true', bne_iff_ne] at hc
      rw [List.cons_append, cutTag]
      rw [if_neg hc.2, if_neg (by simp [hc.1]), ih hcs, Option.map_map]
      rfl

theorem cutTag_quoted {quote : Char} {value : List Char} (h : quote ∉ value) (rest : List Char) :
    cutTag (some quote) (value ++ quote :: rest) =
      (cutTag none rest).map fun r => (value ++ quote :: r.1, r.2) := by
  induction value with
  | nil =>
      rw [List.nil_append, cutTag]
      rw [if_pos rfl]
      rfl
  | cons c value ih =>
      simp only [List.mem_cons, not_or] at h
      rw [List.cons_append, cutTag]
      rw [if_neg (Ne.symm h.1), ih h.2, Option.map_map]
      rfl

namespace Written

/-- A key that a tag goes on through. -/
def IsUnquoted (w : Written) : Prop :=
  ∀ c ∈ w.key, goesOn c = true

theorem cutTag_text (w : Written) (hw : w.IsUnquoted) (rest : List Char) :
    cutTag none (w.text ++ rest) = (cutTag none rest).map fun r => (w.text ++ r.1, r.2) := by
  have hfront : ∀ c ∈ w.lead ++ w.key ++ w.gap ++ '=' :: w.space, goesOn c = true := by
    intro c hc
    simp only [List.mem_append, List.mem_cons] at hc
    rcases hc with ((hc | hc) | hc) | rfl | hc
    · exact goesOn_of_isSpace (w.lead_blank c hc)
    · exact hw c hc
    · exact goesOn_of_isSpace (w.gap_blank c hc)
    · rfl
    · exact goesOn_of_isSpace (w.space_blank c hc)
  have hquote : ¬w.quote = '>' := by
    intro he
    have hq := w.quote_isQuote
    rw [he] at hq
    cases hq
  have htext (cs : List Char) : w.text ++ cs =
      w.lead ++ w.key ++ w.gap ++ '=' :: w.space ++ w.quote :: (w.value ++ w.quote :: cs) := by
    simp [text, front]
  rw [htext, cutTag_append hfront, cutTag]
  rw [if_neg hquote, if_pos w.quote_isQuote, cutTag_quoted w.value_unquoted]
  simp [Option.map_map, Function.comp_def, htext]

end Written

theorem cutTag_flatMap {ws : List Written} (h : ∀ w ∈ ws, w.IsUnquoted) (rest : List Char) :
    cutTag none (ws.flatMap Written.text ++ rest) =
      (cutTag none rest).map fun r => (ws.flatMap Written.text ++ r.1, r.2) := by
  induction ws with
  | nil => simp
  | cons w ws ih =>
      obtain ⟨hw, hws⟩ := List.forall_mem_cons.1 h
      rw [List.flatMap_cons, List.append_assoc, w.cutTag_text hw, ih hws, Option.map_map]
      simp [Function.comp_def]

/-- A written tag is cut where it ends. -/
theorem cutTag_written {name blanks slash : List Char} {ws : List Written} (hn : ∀ c ∈ name, goesOn c = true)
    (hw : ∀ w ∈ ws, w.IsUnquoted) (hb : ∀ c ∈ blanks, isSpace c = true) (hs : ∀ c ∈ slash, goesOn c = true)
    (rest : List Char) :
    cutTag none (name ++ (ws.flatMap Written.text ++ blanks) ++ slash ++ '>' :: rest) =
      some (name ++ (ws.flatMap Written.text ++ blanks) ++ slash, rest) := by
  have hend : cutTag none ('>' :: rest) = some ([], rest) := rfl
  simp only [List.append_assoc]
  rw [cutTag_append hn, cutTag_flatMap hw, cutTag_append fun c hc => goesOn_of_isSpace (hb c hc),
    cutTag_append hs, hend]
  simp

/-- Whether an attribute is another than the style. -/
def Written.isOther (w : Written) : Bool :=
  w.key ≠ "style".toList

/-- What an attribute tells about a zone, as it is written. -/
def Written.note (markers : Markers) (known : ZoneAttributes) (w : Written) : ZoneAttributes :=
  known.note markers ⟨⟨w.key, w.value, 0⟩, (unescape w.value).toOption.getD []⟩

/-- A style tells nothing about a zone, unless it is the marker. -/
theorem foldl_note_eq {markers : Markers} (hm : markers.zoneAttribute ≠ "style") {ws : List Written}
    {attributes : List Attribute} (h : List.Forall₂ Written.Reads ws attributes) (known : ZoneAttributes) :
    attributes.foldl (ZoneAttributes.note markers) known =
      (ws.filter Written.isOther).foldl (Written.note markers) known := by
  induction h generalizing known with
  | nil => rfl
  | @cons w a ws attributes hr _ ih =>
      rw [List.foldl_cons, List.filter_cons, ih]
      split
      · have hn : known.note markers a = w.note markers known := by
          simp only [Written.note, ZoneAttributes.note, hr.key_eq, hr.value_eq]
          rfl
        rw [List.foldl_cons, hn]
      · next ho =>
        have hk : w.key = "style".toList := by simpa [Written.isOther] using ho
        have hn : known.note markers a = known := by
          simp only [ZoneAttributes.note, hr.key_eq, hk, String.ofList_toList]
          rw [if_neg (by decide), if_neg (by decide), if_neg (by decide), if_neg (by decide),
            if_neg (Ne.symm hm)]
        rw [hn]

namespace Written

/-- The same attribute with another value. -/
def withValue (w : Written) (value : List Char) (h : w.quote ∉ value) : Written :=
  { w with value, value_unquoted := h }

@[simp]
theorem key_withValue (w : Written) (value : List Char) (h : w.quote ∉ value) : (w.withValue value h).key = w.key :=
  rfl

/-- A style as it is put in where there is none. -/
def style (value : List Char) (h : '"' ∉ value) : Written where
  lead := [' ']
  first := 's'
  more := "tyle".toList
  gap := []
  space := []
  quote := '"'
  value
  lead_blank := List.all_eq_true.1 (by decide)
  first_visible := rfl
  more_inKey := List.all_eq_true.1 (by decide)
  gap_blank := nofun
  space_blank := nofun
  quote_isQuote := rfl
  value_unquoted := h

theorem text_style (value : List Char) (h : '"' ∉ value) :
    (style value h).text = " style=\"".toList ++ value ++ ['"'] := rfl

/-- Attributes given another style: over the value of the one that is there, or as a new one before them. -/
inductive Restyles (value : List Char) : List Written → List Written → Prop
  | replaced {before after : List Written} {w : Written} (styled : w.key = "style".toList)
      (free : w.quote ∉ value) :
      Restyles value (before ++ w :: after) (before ++ w.withValue value free :: after)
  | inserted {ws : List Written} (unstyled : ∀ w ∈ ws, w.key ≠ "style".toList) (free : '"' ∉ value) :
      Restyles value ws (style value free :: ws)

namespace Restyles

variable {value : List Char} {ws ws' : List Written}

theorem ne_nil (h : Restyles value ws ws') : ws' ≠ [] := by
  cases h <;> simp

theorem nodup (h : Restyles value ws ws') (hn : (ws.map key).Nodup) : (ws'.map key).Nodup := by
  cases h with
  | replaced styled free => simpa [withValue, key] using hn
  | inserted unstyled free =>
      refine List.nodup_cons.2 ⟨fun hm => ?_, hn⟩
      obtain ⟨w, hw, he⟩ := List.mem_map.1 hm
      exact unstyled w hw he

/-- The keys are those that were there, and that of the style. -/
theorem forall_key {P : List Char → Prop} (h : Restyles value ws ws') (hs : P "style".toList)
    (hw : ∀ w ∈ ws, P w.key) : ∀ w ∈ ws', P w.key := by
  cases h with
  | replaced styled free => simpa [or_imp, forall_and] using hw
  | inserted unstyled free => exact List.forall_mem_cons.2 ⟨hs, hw⟩

/-- The values are those that were there, and the new one. -/
theorem forall_value {P : List Char → Prop} (h : Restyles value ws ws') (hv : P value)
    (hw : ∀ w ∈ ws, P w.value) : ∀ w ∈ ws', P w.value := by
  cases h with
  | replaced styled free =>
      simp only [List.mem_append, List.mem_cons, or_imp, forall_and, forall_eq] at hw ⊢
      exact ⟨hw.1, hv, hw.2.2⟩
  | inserted unstyled free => exact List.forall_mem_cons.2 ⟨hv, hw⟩

theorem filter_isOther (h : Restyles value ws ws') : ws'.filter isOther = ws.filter isOther := by
  cases h with
  | @replaced before after w styled free =>
      have ho : w.isOther = false := by simp [isOther, styled]
      have ho' : (w.withValue value free).isOther = false := ho
      simp [ho, ho']
  | inserted unstyled free =>
      have ho : (style value free).isOther = false := rfl
      simp [ho]

/-- The style that is found is the new one. -/
theorem find?_style (h : Restyles value ws ws') (hn : (ws.map key).Nodup) :
    (ws'.find? fun w => w.key = "style".toList).map Written.value = some value := by
  cases h with
  | @replaced before after w styled free =>
      rw [List.map_append, List.map_cons, List.nodup_append] at hn
      have hb : ∀ w' ∈ before, w'.key ≠ "style".toList := fun w' hw' he =>
        hn.2.2 _ (List.mem_map_of_mem hw') _ List.mem_cons_self (he.trans styled.symm)
      have hs : (w.withValue value free).key = "style".toList := styled
      rw [Written.find?_style hs hb]
      rfl
  | inserted unstyled free => rfl

/-- A character that is neither in the new value nor in what is written around it is in the text only if it was. -/
theorem notMem_flatMap {c : Char} (h : Restyles value ws ws') (hs : c ∉ " style=\"".toList)
    (hw : c ∉ ws.flatMap text) (hv : c ∉ value) : c ∉ ws'.flatMap text := by
  cases h with
  | @replaced before after w styled free =>
      have htext : (w.withValue value free).text = w.front ++ value ++ [w.quote] := rfl
      simp only [List.flatMap_append, List.flatMap_cons, List.mem_append, not_or, htext] at hw ⊢
      simp only [text, List.mem_append, not_or] at hw
      exact ⟨hw.1, ⟨⟨hw.2.1.1.1, hv⟩, hw.2.1.2⟩, hw.2.2⟩
  | inserted unstyled free =>
      have hquote : c ∉ ['"'] := fun hm => hs (by rw [List.mem_singleton.1 hm]; decide)
      simp only [List.flatMap_cons, text_style, List.mem_append, not_or]
      exact ⟨⟨⟨hs, hv⟩, hquote⟩, hw⟩

/-- What begins with a blank still does. -/
theorem head_blank (h : Restyles value ws ws') {rest : List Char}
    (hh : ∀ c ∈ (ws.flatMap text ++ rest).head?, isSpace c = true) :
    ∀ c ∈ (ws'.flatMap text ++ rest).head?, isSpace c = true := by
  cases h with
  | @replaced before after w styled free =>
      cases before with
      | nil =>
          rw [List.nil_append, List.flatMap_cons, List.append_assoc, head?_text_append] at hh ⊢
          exact hh
      | cons w' before =>
          rw [List.cons_append, List.flatMap_cons, List.append_assoc, head?_text_append] at hh ⊢
          exact hh
  | inserted unstyled free =>
      intro c hc
      cases hc
      rfl

end Restyles

end Written

/-- What begins with attributes and ends in blanks does not end in a slash. -/
theorem getLast?_flatMap_append {ws : List Written} (h : ws ≠ []) {blanks : List Char}
    (hb : ∀ c ∈ blanks, isSpace c = true) (name : List Char) :
    (name ++ (ws.flatMap Written.text ++ blanks)).getLast? ≠ some '/' := by
  obtain ⟨before, w, rfl⟩ := List.eq_nil_or_concat ws |>.resolve_left h
  rw [List.concat_eq_append, List.flatMap_append, List.flatMap_singleton, Written.text]
  cases hl : blanks.getLast? with
  | some c =>
      have hc := hb c (List.mem_of_getLast? hl)
      simp only [List.getLast?_append, hl, Option.some_or]
      intro he
      cases he
      cases hc
  | none =>
      have hq := w.quote_isQuote
      simp only [List.getLast?_append, hl, Option.none_or, List.getLast?_singleton, Option.some_or]
      intro he
      rw [Option.some.inj he] at hq
      cases hq

section

variable {name blanks : List Char} {ws : List Written} (hhead : ∀ c ∈ (ws.flatMap Written.text ++ blanks).head?,
  isSpace c = true) (hblank : ∀ c ∈ blanks, isSpace c = true)

include hhead

theorem Element.name_ofContent (hn : ∀ c ∈ name, isSpace c = false) (stop : Nat) :
    (ofContent (name ++ (ws.flatMap Written.text ++ blanks)) stop).name = name :=
  (cut_append (fun c hc => by simp [hn c hc]) fun c hc => by simp [hhead c hc]).1

theorem Element.attributes_ofContent (hn : ∀ c ∈ name, isSpace c = false) (stop : Nat) :
    (ofContent (name ++ (ws.flatMap Written.text ++ blanks)) stop).attributes =
      readAttributes (byteLength (name ++ (ws.flatMap Written.text ++ blanks))) []
        (ws.flatMap Written.text ++ blanks) := by
  rw [Element.attributes, name_ofContent hhead hn]
  dsimp only [ofContent]
  rw [List.drop_left]

/-- Where an element that is written of a name and attributes is read, the values can be resolved. -/
theorem Element.resolvable_of_ofContent (hn : ∀ c ∈ name, isSpace c = false) (hd : (ws.map Written.key).Nodup)
    {stop : Nat} {attributes : List Attribute}
    (ha : (ofContent (name ++ (ws.flatMap Written.text ++ blanks)) stop).attributes = .ok attributes) :
    ∀ w ∈ ws, Resolvable w.value := by
  rw [attributes_ofContent hhead hn] at ha
  exact fun w hw => unescape_ok_iff.1 (unescape_of_readAttributes hd (fun _ _ => List.forall_mem_nil _) ha w hw)

include hblank

/-- An element that is written of a name and attributes is read as it is written. -/
theorem Element.exists_ofContent (hn : ∀ c ∈ name, isSpace c = false) (hd : (ws.map Written.key).Nodup)
    (hv : ∀ w ∈ ws, Resolvable w.value) (stop : Nat) :
    ∃ attributes, (ofContent (name ++ (ws.flatMap Written.text ++ blanks)) stop).attributes = .ok attributes ∧
      (ofContent (name ++ (ws.flatMap Written.text ++ blanks)) stop).IsWritten attributes ws blanks := by
  obtain ⟨attributes, ha, hr⟩ := readAttributes_written
    (byteLength (name ++ (ws.flatMap Written.text ++ blanks))) hblank hd (fun _ _ => List.forall_mem_nil _)
    fun w hw => unescape_ok_iff.2 (hv w hw)
  refine ⟨attributes, (attributes_ofContent hhead hn stop).trans ha, ?_, ?_, hhead, hblank, hr, hd⟩
  · rw [name_ofContent hhead hn]
    rfl
  · rw [name_ofContent hhead hn]
    exact hn

/-- The token of a tag that is written of a name and attributes. -/
theorem cutToken_written {slash : List Char} (hne : ws ≠ []) (hn : ∀ c ∈ name, goesOn c = true)
    (hm : ∀ c ∈ name.head?, marksOther c = false) (hw : ∀ w ∈ ws, w.IsUnquoted)
    (hs : ∀ c ∈ slash, goesOn c = true) (rest : List Char) :
    cutToken (name ++ (ws.flatMap Written.text ++ blanks) ++ slash ++ '>' :: rest) =
      .token (.tag (name ++ (ws.flatMap Written.text ++ blanks) ++ slash))
        (byteLength (name ++ (ws.flatMap Written.text ++ blanks) ++ slash) + 1) rest := by
  refine cutToken_tag_iff.2 ⟨fun c hc => ?_, cutTag_written hn hw hblank hs rest, rfl⟩
  cases name with
  | cons c' name => exact hm c hc
  | nil =>
      have hc' : c ∈ (ws.flatMap Written.text ++ blanks).head? := by
        rw [List.nil_append, List.append_assoc, List.append_assoc] at hc
        rwa [head?_flatMap_append hne] at hc
      have hspace := hhead c hc'
      simp only [isSpace, Bool.or_eq_true, decide_eq_true_eq] at hspace
      rcases hspace with ((rfl | rfl) | rfl) | rfl <;> rfl

end

end VehicleDamage.Markup
