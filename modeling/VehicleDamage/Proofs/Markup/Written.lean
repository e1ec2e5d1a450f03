import Mathlib.Data.List.Forall2
import Mathlib.Data.List.TakeWhile
import VehicleDamage.Proofs.Markup.Layout
import VehicleDamage.Proofs.Markup.Tags

/-!
Attributes as they are written, and the two ways in which they are read: by the reader of attributes, and in the
search for the value of a style.
-/

namespace VehicleDamage.Markup

open Text

theorem isGap_of_isSpace {c : Char} (h : isSpace c = true) : isGap c = true := by
  simp only [isSpace, Bool.or_eq_true, decide_eq_true_eq] at h
  rcases h with ((rfl | rfl) | rfl) | rfl <;> rfl

theorem isSpace_of_isQuote {c : Char} (h : isQuote c = true) : isSpace c = false ∧ isGap c = false := by
  simp only [isQuote, Bool.or_eq_true, decide_eq_true_eq] at h
  rcases h with rfl | rfl <;> exact ⟨rfl, rfl⟩

theorem endsName_of_isGap {c : Char} (h : isGap c = true) : endsName c = true := by
  simp [endsName, h]

/-- A character that a key goes on with. -/
def isInKey (c : Char) : Bool :=
  c != '=' && !isSpace c

/-- An attribute as it is written: a key, an equals sign and a value in quotes, with blanks before each of them. -/
structure Written where
  lead : List Char
  first : Char
  more : List Char
  gap : List Char
  space : List Char
  quote : Char
  value : List Char
  lead_blank : ∀ c ∈ lead, isSpace c = true
  first_visible : isSpace first = false
  more_inKey : ∀ c ∈ more, isInKey c = true
  gap_blank : ∀ c ∈ gap, isSpace c = true
  space_blank : ∀ c ∈ space, isSpace c = true
  quote_isQuote : isQuote quote = true
  value_unquoted : quote ∉ value

namespace Written

def key (w : Written) : List Char :=
  w.first :: w.more

/-- All up to the value, with the quote that opens it. -/
def front (w : Written) : List Char :=
  w.lead ++ w.key ++ w.gap ++ '=' :: w.space ++ [w.quote]

def text (w : Written) : List Char :=
  w.front ++ w.value ++ [w.quote]

theorem text_append (w : Written) (rest : List Char) :
    w.text ++ rest = w.lead ++ (w.key ++ (w.gap ++ '=' :: (w.space ++ w.quote :: (w.value ++ w.quote :: rest)))) := by
  simp [text, front]

theorem head?_text_append (w : Written) (rest : List Char) : (w.text ++ rest).head? = w.front.head? := by
  rw [text, List.append_assoc, List.append_assoc, List.head?_append]
  cases hf : w.front with
  | nil => simp [front] at hf
  | cons c front => rfl

theorem cut_value (w : Written) (rest : List Char) :
    (w.value ++ w.quote :: rest).takeWhile (· != w.quote) = w.value ∧
      (w.value ++ w.quote :: rest).dropWhile (· != w.quote) = w.quote :: rest :=
  cut_append (fun _ hc => bne_iff_ne.2 fun he => w.value_unquoted (he ▸ hc)) (by simp)

/-- What comes after a key does not go on with it. -/
theorem head_gap {p : Char → Bool} (w : Written) (hs : ∀ c, isSpace c = true → p c = false) (he : p '=' = false)
    (rest : List Char) : ∀ c ∈ (w.gap ++ '=' :: rest).head?, p c = false := by
  cases hg : w.gap with
  | nil => simpa using he
  | cons c gap => simpa using hs c (w.gap_blank c (hg ▸ List.mem_cons_self))

theorem scanValue_space (w : Written) (total start : Nat) (rest : List Char) :
    scanValue total w.key start (w.space ++ w.quote :: (w.value ++ w.quote :: rest)) =
      .found ⟨w.key, w.value, start⟩ rest := by
  have hq := (isSpace_of_isQuote w.quote_isQuote).1
  have hd : (w.space ++ w.quote :: (w.value ++ w.quote :: rest)).dropWhile isSpace =
      w.quote :: (w.value ++ w.quote :: rest) := (cut_append w.space_blank (by simp [hq])).2
  simp only [scanValue, hd, w.quote_isQuote, if_true, w.cut_value]

/-- An attribute with a key that has not been seen is found as it is written. -/
theorem scanAttribute_text (w : Written) (total : Nat) {seen : List RawAttribute}
    (hs : ∀ a ∈ seen, a.key ≠ w.key) (rest : List Char) :
    ∃ start, scanAttribute total seen (w.text ++ rest) = .found ⟨w.key, w.value, start⟩ rest := by
  let after := w.space ++ w.quote :: (w.value ++ w.quote :: rest)
  have hd : (w.lead ++ (w.key ++ (w.gap ++ '=' :: after))).dropWhile isSpace =
      w.first :: (w.more ++ (w.gap ++ '=' :: after)) :=
    (cut_append w.lead_blank (by simp [key, w.first_visible])).2
  have hk : (w.more ++ (w.gap ++ '=' :: after)).takeWhile isInKey = w.more ∧
      (w.more ++ (w.gap ++ '=' :: after)).dropWhile isInKey = w.gap ++ '=' :: after :=
    cut_append w.more_inKey (w.head_gap (fun c hc => by simp [isInKey, hc]) rfl after)
  have hg : (w.gap ++ '=' :: after).dropWhile isSpace = '=' :: after :=
    (cut_append w.gap_blank (by simp [isSpace])).2
  have hf : seen.find? (·.key == w.key) = none := by simpa using hs
  refine ⟨total - byteLength (w.first :: (w.more ++ (w.gap ++ '=' :: after))), ?_⟩
  rw [show isInKey = fun c => c != '=' && !isSpace c from rfl] at hk
  rw [text_append, scanAttribute, hd]
  simp only [hk, hg]
  split
  · next earlier he => cases hf.symm.trans he
  · exact w.scanValue_space total _ rest

end Written

/-- An attribute that is found is written there, with a key that has not been seen. -/
theorem exists_written_of_scanAttribute {total : Nat} {seen : List RawAttribute} {cs rest : List Char}
    {raw : RawAttribute} (h : scanAttribute total seen cs = .found raw rest) :
    ∃ w : Written, cs = w.text ++ rest ∧ raw.key = w.key ∧ raw.value = w.value ∧ ∀ a ∈ seen, a.key ≠ w.key := by
  rw [scanAttribute] at h
  split at h
  · cases h
  · next first text hf =>
    obtain ⟨hcs, hfirst⟩ := eq_of_dropWhile hf
    dsimp only at h
    split at h
    · next after ha =>
      have hgap : text.dropWhile isInKey = (text.dropWhile isInKey).takeWhile isSpace ++ '=' :: after :=
        (eq_of_dropWhile ha).1
      split at h
      · cases h
      · next hseen =>
        rw [scanValue] at h
        split at h
        · cases h
        · next quote value hq =>
          obtain ⟨hspace, -⟩ := eq_of_dropWhile hq
          split at h
          · next hquote =>
            split at h
            · cases h
            · next c rest' hr =>
              obtain ⟨hvalue, hc⟩ := eq_of_dropWhile hr
              obtain rfl : c = quote := by simpa using hc
              cases h
              refine ⟨{
                lead := cs.takeWhile isSpace
                first, more := text.takeWhile isInKey
                gap := (text.dropWhile isInKey).takeWhile isSpace
                space := after.takeWhile isSpace
                quote := c
                value := value.takeWhile (· != c)
                lead_blank := fun _ => List.mem_takeWhile_imp
                first_visible := hfirst
                more_inKey := fun _ => List.mem_takeWhile_imp
                gap_blank := fun _ => List.mem_takeWhile_imp
                space_blank := fun _ => List.mem_takeWhile_imp
                quote_isQuote := hquote
                value_unquoted := fun hm => by simpa using List.mem_takeWhile_imp hm }, ?_, rfl, rfl, ?_⟩
              · rw [Written.text_append]
                simp only [Written.key, List.cons_append]
                rw [← hvalue, ← hspace, ← hgap, List.takeWhile_append_dropWhile]
                exact hcs
              · have hn := List.find?_eq_none.1 hseen
                exact fun a ha he => hn a ha (beq_iff_eq.2 he)
          · cases h
    · cases h

theorem scanAttribute_eq_finished {total : Nat} {seen : List RawAttribute} {cs : List Char} :
    scanAttribute total seen cs = .finished ↔ ∀ c ∈ cs, isSpace c = true := by
  rw [← List.dropWhile_eq_nil_iff, scanAttribute]
  split
  · next hd => simp [hd]
  · next hd =>
    refine iff_of_false ?_ (by simp [hd])
    dsimp only
    split
    · split
      · exact fun h => by cases h
      · rw [scanValue]
        split
        · exact fun h => by cases h
        · split
          · split <;> exact fun h => by cases h
          · exact fun h => by cases h
    · exact fun h => by cases h

/-- What the reader makes of an attribute. -/
structure Written.Reads (w : Written) (a : Attribute) : Prop where
  key_eq : a.raw.key = w.key
  raw_eq : a.raw.value = w.value
  value_eq : unescape w.value = .ok a.value

/-- Attributes that are read are written one after another, with different keys. -/
theorem exists_written {total : Nat} {seen : List RawAttribute} {cs : List Char} {attributes : List Attribute}
    (h : readAttributes total seen cs = .ok attributes) :
    ∃ (ws : List Written) (trail : List Char), cs = ws.flatMap Written.text ++ trail ∧
      (∀ c ∈ trail, isSpace c = true) ∧ List.Forall₂ Written.Reads ws attributes ∧
      (ws.map Written.key).Nodup ∧ ∀ w ∈ ws, ∀ a ∈ seen, a.key ≠ w.key := by
  fun_induction readAttributes total seen cs generalizing attributes with
  | case1 seen cs hs =>
      cases h
      exact ⟨[], cs, rfl, scanAttribute_eq_finished.1 hs, .nil, .nil, nofun⟩
  | case2 => cases h
  | case3 => cases h
  | case4 seen cs raw rest hs value hv _ ih =>
      obtain ⟨w, rfl, hkey, hvalue, hnew⟩ := exists_written_of_scanAttribute hs
      cases hr : readAttributes total (seen ++ [raw]) rest with
      | error fault =>
          rw [hr] at h
          cases h
      | ok more =>
          obtain ⟨ws, trail, rfl, ht, hreads, hnodup, hseen⟩ := ih hr
          rw [hr] at h
          cases h
          refine ⟨w :: ws, trail, by simp, ht, .cons ⟨hkey, hvalue, hvalue ▸ hv⟩ hreads, ?_, ?_⟩
          · refine List.nodup_cons.2 ⟨fun hm => ?_, hnodup⟩
            obtain ⟨w', hw', he⟩ := List.mem_map.1 hm
            exact hseen w' hw' raw (by simp) (hkey.trans he.symm)
          · refine List.forall_mem_cons.2 ⟨hnew, fun w' hw' a ha => hseen w' hw' a (by simp [ha])⟩

/-- An attribute with a key that has not been seen is read before what follows it. -/
theorem readAttributes_text (w : Written) (total : Nat) {seen : List RawAttribute} (hs : ∀ a ∈ seen, a.key ≠ w.key)
    (rest : List Char) : ∃ start, readAttributes total seen (w.text ++ rest) = match unescape w.value with
      | .error fault => .error (.entity fault)
      | .ok value => (readAttributes total (seen ++ [⟨w.key, w.value, start⟩]) rest).map
          (⟨⟨w.key, w.value, start⟩, value⟩ :: ·) := by
  obtain ⟨start, hfound⟩ := w.scanAttribute_text total hs rest
  refine ⟨start, ?_⟩
  rw [readAttributes]
  split
  · next hs => rw [hfound] at hs; cases hs
  · next hs => rw [hfound] at hs; cases hs
  · next hs =>
    rw [hfound] at hs
    cases hs
    rfl

theorem forall_seen_append {w : Written} {ws : List Written} {seen : List RawAttribute}
    (hn : ((w :: ws).map Written.key).Nodup) (hs : ∀ w' ∈ ws, ∀ a ∈ seen, a.key ≠ w'.key) (start : Nat) :
    ∀ w' ∈ ws, ∀ a ∈ seen ++ [⟨w.key, w.value, start⟩], a.key ≠ w'.key := by
  intro w' hw' a ha
  rcases List.mem_append.1 ha with ha | ha
  · exact hs w' hw' a ha
  · rw [List.mem_singleton.1 ha]
    exact fun he => (List.nodup_cons.1 hn).1 (List.mem_map.2 ⟨w', hw', he.symm⟩)

/-- Attributes written with different keys are read when their values can be resolved. -/
theorem readAttributes_written (total : Nat) {seen : List RawAttribute} {ws : List Written} {trail : List Char}
    (ht : ∀ c ∈ trail, isSpace c = true) (hn : (ws.map Written.key).Nodup)
    (hs : ∀ w ∈ ws, ∀ a ∈ seen, a.key ≠ w.key) (hv : ∀ w ∈ ws, ∃ value, unescape w.value = .ok value) :
    ∃ attributes, readAttributes total seen (ws.flatMap Written.text ++ trail) = .ok attributes ∧
      List.Forall₂ Written.Reads ws attributes := by
  induction ws generalizing seen with
  | nil =>
      have hf : scanAttribute total seen trail = .finished := scanAttribute_eq_finished.2 ht
      refine ⟨[], ?_, .nil⟩
      rw [List.flatMap_nil, List.nil_append, readAttributes]
      split
      · rfl
      · next hs => rw [hf] at hs; cases hs
      · next hs => rw [hf] at hs; cases hs
  | cons w ws ih =>
      obtain ⟨hseen, hmore⟩ := List.forall_mem_cons.1 hs
      obtain ⟨⟨value, hvalue⟩, hvalues⟩ := List.forall_mem_cons.1 hv
      obtain ⟨start, hread⟩ := readAttributes_text w total hseen (ws.flatMap Written.text ++ trail)
      obtain ⟨attributes, hr, hreads⟩ := ih (List.nodup_cons.1 hn).2 (forall_seen_append hn hmore start) hvalues
      refine ⟨⟨⟨w.key, w.value, start⟩, value⟩ :: attributes, ?_, .cons ⟨rfl, rfl, hvalue⟩ hreads⟩
      rw [List.flatMap_cons, List.append_assoc, hread, hvalue]
      dsimp only
      rw [hr]
      rfl

/-- Where attributes written with different keys are read, their values can be resolved. -/
theorem unescape_of_readAttributes {total : Nat} {seen : List RawAttribute} {ws : List Written} {trail : List Char}
    {attributes : List Attribute} (hn : (ws.map Written.key).Nodup) (hs : ∀ w ∈ ws, ∀ a ∈ seen, a.key ≠ w.key)
    (h : readAttributes total seen (ws.flatMap Written.text ++ trail) = .ok attributes) :
    ∀ w ∈ ws, ∃ value, unescape w.value = .ok value := by
  induction ws generalizing seen attributes with
  | nil => nofun
  | cons w ws ih =>
      obtain ⟨hseen, hmore⟩ := List.forall_mem_cons.1 hs
      obtain ⟨start, hread⟩ := readAttributes_text w total hseen (ws.flatMap Written.text ++ trail)
      rw [List.flatMap_cons, List.append_assoc, hread] at h
      cases hvalue : unescape w.value with
      | error fault =>
          rw [hvalue] at h
          cases h
      | ok value =>
          rw [hvalue] at h
          cases hr : readAttributes total (seen ++ [⟨w.key, w.value, start⟩]) (ws.flatMap Written.text ++ trail) with
          | error fault =>
              dsimp only at h
              rw [hr] at h
              cases h
          | ok more =>
              have hmore := ih (List.nodup_cons.1 hn).2 (forall_seen_append hn hmore start) hr
              exact List.forall_mem_cons.2 ⟨⟨value, hvalue⟩, hmore⟩

/-- Where the search comes upon a key with an equals sign after it, it asks for a value. -/
theorem styleValue?_assigned {offset : Nat} {cs lead text key afterKey gap after : List Char} {c : Char}
    (hc : endsName c = false) (hd : cs.takeWhile isGap = lead ∧ cs.dropWhile isGap = c :: text)
    (hk : (c :: text).takeWhile (fun c => !endsName c) = key ∧
      (c :: text).dropWhile (fun c => !endsName c) = afterKey)
    (hg : afterKey.takeWhile isGap = gap ∧ afterKey.dropWhile isGap = '=' :: after) (style : Option (Nat × Nat)) :
    styleValue? offset style cs =
      (quotedValue? (offset + byteLength lead + byteLength key + byteLength gap + 1) after).bind
        fun (valueFrom, value, rest) => styleValue? (valueFrom + byteLength value + 1)
          (if key = "style".toList then some (valueFrom, valueFrom + byteLength value) else style) rest := by
  obtain ⟨rfl, hd⟩ := hd
  obtain ⟨rfl, rfl⟩ := hk
  obtain ⟨rfl, he⟩ := hg
  have hn : ¬(c = '>' ∨ c = '/') := by
    rintro (rfl | rfl) <;> cases hc
  rw [styleValue?]
  split
  · next hd' => rw [hd] at hd'; cases hd'
  · next hd' =>
    rw [hd] at hd'
    cases hd'
    rw [dif_neg hn]
    dsimp only
    split
    · next he' => rw [he] at he'; cases he'
    · next he' =>
      rw [he] at he'
      cases he'
      rw [dif_pos rfl]
      split
      · next hq => rw [hq]; rfl
      · next hq => rw [hq]; rfl

namespace Written

/-- A key that the search takes whole. -/
def IsPlain (w : Written) : Prop :=
  ∀ c ∈ w.key, endsName c = false

theorem quotedValue?_space (w : Written) (offset : Nat) (rest : List Char) :
    quotedValue? offset (w.space ++ w.quote :: (w.value ++ w.quote :: rest)) =
      some (offset + byteLength w.space + 1, w.value, rest) := by
  have hq := (isSpace_of_isQuote w.quote_isQuote).2
  have hd : (w.space ++ w.quote :: (w.value ++ w.quote :: rest)).takeWhile isGap = w.space ∧
      (w.space ++ w.quote :: (w.value ++ w.quote :: rest)).dropWhile isGap =
        w.quote :: (w.value ++ w.quote :: rest) :=
    cut_append (fun c hc => isGap_of_isSpace (w.space_blank c hc)) (by simp [hq])
  simp only [quotedValue?, hd, w.quote_isQuote, if_true, w.cut_value]

/-- A value that is cut before its closing quote is none. -/
theorem quotedValue?_cut (w : Written) (offset : Nat) {part cut : List Char}
    (h : w.quote :: (w.value ++ [w.quote]) = part ++ cut) (hc : cut ≠ []) :
    quotedValue? offset (w.space ++ part) = none := by
  have hspace : ∀ c ∈ w.space, isGap c = true := fun c hm => isGap_of_isSpace (w.space_blank c hm)
  cases part with
  | nil =>
      have hd : (w.space ++ []).dropWhile isGap = [] := (cut_append hspace (by simp)).2
      rw [quotedValue?, hd]
  | cons quote text =>
      obtain ⟨rfl, ht⟩ := List.cons.inj h
      have hq := (isSpace_of_isQuote w.quote_isQuote).2
      have hd : (w.space ++ w.quote :: text).dropWhile isGap = w.quote :: text :=
        (cut_append hspace (by simp [hq])).2
      have hfree : w.quote ∉ text := by
        rcases List.append_eq_append_iff.1 ht with ⟨more, rfl, hm⟩ | ⟨more, hv, -⟩
        · cases more with
          | nil => simpa using w.value_unquoted
          | cons c more => simp [hc] at hm
        · exact fun hm => w.value_unquoted (hv ▸ List.mem_append_left _ hm)
      have hend : text.dropWhile (· != w.quote) = [] :=
        List.dropWhile_eq_nil_iff.2 fun c hm => bne_iff_ne.2 fun he => hfree (he ▸ hm)
      simp only [quotedValue?, hd, w.quote_isQuote, if_true, hend]

/-- The search for a style asks for a value after a plain key. -/
theorem styleValue?_key (w : Written) (hw : w.IsPlain) (offset : Nat) (style : Option (Nat × Nat))
    (after : List Char) :
    styleValue? offset style (w.lead ++ (w.key ++ (w.gap ++ '=' :: after))) =
      (quotedValue? (offset + byteLength w.lead + byteLength w.key + byteLength w.gap + 1) after).bind
        fun (valueFrom, value, rest) => styleValue? (valueFrom + byteLength value + 1)
          (if w.key = "style".toList then some (valueFrom, valueFrom + byteLength value) else style) rest := by
  have hkey : ∀ c ∈ w.key, (!endsName c) = true := fun c hc => by rw [hw c hc]; rfl
  have hfirst : endsName w.first = false := hw _ List.mem_cons_self
  have hvisible : isGap w.first = false := Bool.eq_false_iff.2 fun hg => by
    rw [endsName_of_isGap hg] at hfirst
    cases hfirst
  have hd : (w.lead ++ (w.key ++ (w.gap ++ '=' :: after))).takeWhile isGap = w.lead ∧
      (w.lead ++ (w.key ++ (w.gap ++ '=' :: after))).dropWhile isGap =
        w.first :: (w.more ++ (w.gap ++ '=' :: after)) :=
    cut_append (fun c hc => isGap_of_isSpace (w.lead_blank c hc)) (by simp [key, hvisible])
  have hk : (w.first :: (w.more ++ (w.gap ++ '=' :: after))).takeWhile (fun c => !endsName c) = w.key ∧
      (w.first :: (w.more ++ (w.gap ++ '=' :: after))).dropWhile (fun c => !endsName c) = w.gap ++ '=' :: after :=
    cut_append hkey (w.head_gap (fun c hc => by simp [endsName_of_isGap (isGap_of_isSpace hc)]) rfl after)
  have hg : (w.gap ++ '=' :: after).takeWhile isGap = w.gap ∧
      (w.gap ++ '=' :: after).dropWhile isGap = '=' :: after :=
    cut_append (fun c hc => isGap_of_isSpace (w.gap_blank c hc)) (by simp [isGap])
  exact styleValue?_assigned hfirst hd hk hg style

/-- The search for a style passes an attribute with a plain key, and takes its value if it is a style. -/
theorem styleValue?_text (w : Written) (hw : w.IsPlain) (offset : Nat) (style : Option (Nat × Nat))
    (rest : List Char) :
    styleValue? offset style (w.text ++ rest) = styleValue? (offset + byteLength w.text)
      (if w.key = "style".toList then
        some (offset + byteLength w.front, offset + byteLength w.front + byteLength w.value) else style) rest := by
  rw [text_append, w.styleValue?_key hw, w.quotedValue?_space, Option.bind_some]
  have hone := utf8Size_of_isQuote w.quote_isQuote
  have hequals : ('=' : Char).utf8Size = 1 := rfl
  have hf : offset + byteLength w.lead + byteLength w.key + byteLength w.gap + 1 + byteLength w.space + 1 =
      offset + byteLength w.front := by
    simp only [front, byteLength_append, byteLength_cons, byteLength_nil, hone, hequals]
    omega
  have ht : offset + byteLength w.front + byteLength w.value + 1 = offset + byteLength w.text := by
    simp only [text, byteLength_append, byteLength_cons, byteLength_nil, hone]
    omega
  dsimp only
  rw [hf, ht]

/-- Among attributes with different keys there is no style, or one. -/
theorem style_cases {ws : List Written} (hn : (ws.map key).Nodup) :
    (∀ w ∈ ws, w.key ≠ "style".toList) ∨
      ∃ before w after, ws = before ++ w :: after ∧ w.key = "style".toList ∧
        (∀ w' ∈ before, w'.key ≠ "style".toList) ∧ ∀ w' ∈ after, w'.key ≠ "style".toList := by
  by_cases hs : ∃ w ∈ ws, w.key = "style".toList
  · obtain ⟨w, hm, hw⟩ := hs
    obtain ⟨before, after, rfl⟩ := List.append_of_mem hm
    rw [List.map_append, List.map_cons, List.nodup_append, List.nodup_cons] at hn
    obtain ⟨-, ⟨hafter, -⟩, hbefore⟩ := hn
    refine .inr ⟨before, w, after, rfl, hw, fun w' hw' he => ?_, fun w' hw' he => ?_⟩
    · exact hbefore _ (List.mem_map_of_mem hw') _ List.mem_cons_self (he.trans hw.symm)
    · exact hafter (List.mem_map.2 ⟨w', hw', he.trans hw.symm⟩)
  · exact .inl fun w hm he => hs ⟨w, hm, he⟩

theorem find?_style {before after : List Written} {w : Written} (hw : w.key = "style".toList)
    (hb : ∀ w' ∈ before, w'.key ≠ "style".toList) :
    (before ++ w :: after).find? (fun w => w.key = "style".toList) = some w := by
  rw [List.find?_append, List.find?_eq_none.2 (by simpa using hb), Option.none_or, List.find?_cons,
    decide_eq_true hw]

end Written

theorem head?_flatMap_append {ws : List Written} (h : ws ≠ []) (rest rest' : List Char) :
    (ws.flatMap Written.text ++ rest).head? = (ws.flatMap Written.text ++ rest').head? := by
  cases ws with
  | nil => exact absurd rfl h
  | cons w ws =>
      rw [List.flatMap_cons, List.append_assoc, List.append_assoc, Written.head?_text_append,
        Written.head?_text_append]

/-- The search passes attributes with plain keys, whatever follows them. -/
theorem styleValue?_flatMap {ws : List Written} (hw : ∀ w ∈ ws, w.IsPlain) (offset : Nat)
    (style : Option (Nat × Nat)) : ∃ offset' style', ∀ rest,
      styleValue? offset style (ws.flatMap Written.text ++ rest) = styleValue? offset' style' rest := by
  induction ws generalizing offset style with
  | nil => exact ⟨offset, style, fun _ => rfl⟩
  | cons w ws ih =>
      obtain ⟨hplain, hplains⟩ := List.forall_mem_cons.1 hw
      obtain ⟨offset', style', hs⟩ := ih hplains (offset + byteLength w.text)
        (if w.key = "style".toList then
          some (offset + byteLength w.front, offset + byteLength w.front + byteLength w.value) else style)
      refine ⟨offset', style', fun rest => ?_⟩
      rw [List.flatMap_cons, List.append_assoc, w.styleValue?_text hplain, hs]

/-- The search passes attributes other than styles. -/
theorem styleValue?_unstyled {ws : List Written} (hw : ∀ w ∈ ws, w.IsPlain)
    (hs : ∀ w ∈ ws, w.key ≠ "style".toList) (offset : Nat) (style : Option (Nat × Nat)) (rest : List Char) :
    styleValue? offset style (ws.flatMap Written.text ++ rest) =
      styleValue? (offset + byteLength (ws.flatMap Written.text)) style rest := by
  induction ws generalizing offset with
  | nil => rfl
  | cons w ws ih =>
      obtain ⟨hplain, hplains⟩ := List.forall_mem_cons.1 hw
      obtain ⟨hkey, hkeys⟩ := List.forall_mem_cons.1 hs
      rw [List.flatMap_cons, List.append_assoc, w.styleValue?_text hplain, if_neg hkey, ih hplains hkeys,
        byteLength_append, Nat.add_assoc]

/-- What may follow the attributes of a tag: blanks, and the end of the tag or nothing. -/
def EndsTag (trail : List Char) : Prop :=
  ∀ c ∈ (trail.dropWhile isGap).head?, c = '>' ∨ c = '/'

theorem styleValue?_trail {trail : List Char} (h : EndsTag trail) (offset : Nat) (style : Option (Nat × Nat)) :
    styleValue? offset style trail = some style := by
  rw [EndsTag] at h
  rw [styleValue?]
  split
  · rfl
  · next c text hd =>
    rw [hd] at h
    rw [dif_pos (h c rfl)]

section

variable {name trail : List Char} {ws : List Written} (hname : ∀ c ∈ name, endsName c = false)
  (hws : ∀ w ∈ ws, w.IsPlain) (hhead : ∀ c ∈ (ws.flatMap Written.text ++ trail).head?, endsName c = true)
  (htrail : EndsTag trail)

include hname hhead

theorem layout?_name : layout? ('<' :: (name ++ (ws.flatMap Written.text ++ trail))) =
    (styleValue? (byteLength ('<' :: name)) none (ws.flatMap Written.text ++ trail)).map fun style =>
      ⟨byteLength ('<' :: name), style⟩ := by
  have hn : ∀ c ∈ name, (!endsName c) = true := fun c hc => by rw [hname c hc]; rfl
  have hr : ∀ c ∈ (ws.flatMap Written.text ++ trail).head?, (!endsName c) = false := fun c hc => by
    rw [hhead c hc]; rfl
  rw [layout?, (cut_append hn hr).1, (cut_append hn hr).2]
  rfl

include hws htrail

theorem layout?_unstyled (hs : ∀ w ∈ ws, w.key ≠ "style".toList) :
    layout? ('<' :: (name ++ (ws.flatMap Written.text ++ trail))) = some ⟨byteLength ('<' :: name), none⟩ := by
  rw [layout?_name hname hhead, styleValue?_unstyled hws hs, styleValue?_trail htrail]
  rfl

/-- The value of the one style among the attributes is found where it is written. -/
theorem layout?_styled {before after : List Written} {w : Written} (he : ws = before ++ w :: after)
    (hw : w.key = "style".toList) (hb : ∀ w' ∈ before, w'.key ≠ "style".toList)
    (ha : ∀ w' ∈ after, w'.key ≠ "style".toList) :
    layout? ('<' :: (name ++ (ws.flatMap Written.text ++ trail))) =
      let start := byteLength ('<' :: name ++ before.flatMap Written.text ++ w.front)
      some ⟨byteLength ('<' :: name), some (start, start + byteLength w.value)⟩ := by
  rw [layout?_name hname hhead]
  subst he
  obtain ⟨hbefore, hplain, hafter⟩ : (∀ w' ∈ before, w'.IsPlain) ∧ w.IsPlain ∧ ∀ w' ∈ after, w'.IsPlain := by
    simpa [or_imp, forall_and] using hws
  rw [List.flatMap_append, List.flatMap_cons, List.append_assoc, List.append_assoc,
    styleValue?_unstyled hbefore hb, w.styleValue?_text hplain, if_pos hw, styleValue?_unstyled hafter ha,
    styleValue?_trail htrail]
  simp only [byteLength_append, Nat.add_assoc, Option.map_some]

end

theorem name_eq_of_piece {opened opened' : List (List Char)} {start stop : Nat} {token : Token} {piece : Piece}
    {element : Element} {tag : List Char} (h : token.piece opened start stop = (piece, opened'))
    (ht : piece.startTag? = some (element, tag)) :
    element.name = element.content.takeWhile fun c => !isSpace c := by
  cases token with
  | passedOver =>
      cases h
      cases ht
  | tag content =>
      simp only [Token.piece] at h
      split at h
      · cases h
        cases ht
        rfl
      · cases h
        cases ht
        rfl
  | endTag content closed =>
      simp only [Token.piece] at h
      split at h
      · cases h
        cases ht
      · split at h
        · cases h
          cases ht
        · cases h
          cases ht

/-- The name of an element is what its content begins with. -/
theorem name_eq_of_mem_pieces (opened : List (List Char)) (offset : Nat) (cs : List Char) :
    ∀ t ∈ (pieces opened offset cs).filterMap Piece.startTag?,
      t.1.name = t.1.content.takeWhile fun c => !isSpace c := by
  fun_induction pieces opened offset cs with
  | case1 => simp
  | case2 => simp
  | case3 => simp [Piece.startTag?]
  | case4 => simp [Piece.startTag?]
  | case5 opened offset cs c markup hd start token size rest hc _ piece opened' _ hp ih =>
      intro t ht
      rw [List.filterMap_cons] at ht
      split at ht
      · exact ih t ht
      · next hs =>
        rcases List.mem_cons.1 ht with rfl | ht
        · exact name_eq_of_piece hp hs
        · exact ih t ht

/-- An element with the attributes `attributes`, as it is written: its name, the attributes `ws`, and blanks. -/
structure Element.IsWritten (e : Element) (attributes : List Attribute) (ws : List Written)
    (blanks : List Char) : Prop where
  content_eq : e.content = e.name ++ (ws.flatMap Written.text ++ blanks)
  name_visible : ∀ c ∈ e.name, isSpace c = false
  head_blank : ∀ c ∈ (ws.flatMap Written.text ++ blanks).head?, isSpace c = true
  blank : ∀ c ∈ blanks, isSpace c = true
  reads : List.Forall₂ Written.Reads ws attributes
  nodup : (ws.map Written.key).Nodup

theorem Element.exists_isWritten {e : Element} {attributes : List Attribute}
    (hn : e.name = e.content.takeWhile fun c => !isSpace c) (ha : e.attributes = .ok attributes) :
    ∃ ws blanks, e.IsWritten attributes ws blanks := by
  have hc : e.content = e.name ++ e.content.dropWhile fun c => !isSpace c := by
    rw [hn, List.takeWhile_append_dropWhile]
  have hdrop : e.content.drop e.name.length = e.content.dropWhile fun c => !isSpace c :=
    (congrArg (List.drop e.name.length) hc).trans List.drop_left
  rw [Element.attributes, hdrop] at ha
  obtain ⟨ws, blanks, hw, hb, hr, hd, -⟩ := exists_written ha
  rw [hw] at hc
  refine ⟨ws, blanks, hc, fun c hm => ?_, fun c hm => ?_, hb, hr, hd⟩
  · rw [hn] at hm
    simpa using List.mem_takeWhile_imp hm
  · have hh := List.head?_dropWhile_not (fun c => !isSpace c) e.content
    rw [hw, Option.mem_def.1 hm] at hh
    simpa using hh

end VehicleDamage.Markup
