import VehicleDamage.Proofs.Style.Shown
import VehicleDamage.Proofs.Text.Case
import VehicleDamage.Proofs.Text.Utf8

/-!
How a colour is written: a grammar that says which texts are colours and of which colour, and digits that are sliced out
at byte offsets.
-/

namespace VehicleDamage

open Text

namespace Text

/-- The hexadecimal digit of a value, in either case. -/
def IsHexDigit (d : Char) (v : Nat) : Prop :=
  "0123456789abcdef".toList[v]? = some d.toLower

theorem IsHexDigit.lt {d : Char} {v : Nat} (h : IsHexDigit d v) : v < 16 :=
  (List.getElem?_eq_some_iff.1 h).1

theorem hexValue?_eq_none {c : Char} (h : 128 ≤ c.toNat) : hexValue? c = none := by
  have hle {d : Char} (hd : d.toNat < 128) : ¬c ≤ d := fun hcd =>
    Nat.lt_irrefl _ (Nat.lt_of_lt_of_le (Nat.lt_of_le_of_lt (UInt32.le_iff_toNat_le.1 hcd) hd) h)
  rw [hexValue?, if_neg fun h => hle (by decide) h.2, if_neg fun h => hle (by decide) h.2,
    if_neg fun h => hle (by decide) h.2]

theorem hexValue?_toLower (c : Char) : hexValue? c.toLower = hexValue? c :=
  apply_toLower (by decide) c

theorem hexValue?_eq_some_iff {d : Char} {v : Nat} : hexValue? d = some v ↔ IsHexDigit d v := by
  constructor
  · intro h
    rcases Nat.lt_or_ge d.toNat 128 with hd | hd
    · have hdigit := forall_ascii
        (P := fun d => (hexValue? d).all (fun v => "0123456789abcdef".toList[v]? = some d.toLower) = true)
        (by decide +kernel) hd
      rwa [h, Option.all_some, decide_eq_true_eq] at hdigit
    · rw [hexValue?_eq_none hd] at h
      cases h
  · intro h
    have hvalue : ∀ v < 16, hexValue? ("0123456789abcdef".toList[v]?.getD ' ') = some v := by decide
    have hv := hvalue v h.lt
    rwa [show "0123456789abcdef".toList[v]? = some d.toLower from h, Option.getD_some, hexValue?_toLower] at hv

theorem IsHexDigit.ascii {d : Char} {v : Nat} (h : IsHexDigit d v) : d.toNat < 128 := by
  by_contra hd
  rw [← hexValue?_eq_some_iff, hexValue?_eq_none (Nat.le_of_not_lt hd)] at h
  cases h

theorem forall₂_of_mapM {α β : Type} {f : α → Option β} {as : List α} {bs : List β} (h : as.mapM f = some bs) :
    List.Forall₂ (fun a b => f a = some b) as bs := by
  induction as generalizing bs with
  | nil =>
      cases h
      exact .nil
  | cons a as ih =>
      simp only [List.mapM_cons, Option.bind_eq_bind, Option.bind_eq_some_iff] at h
      obtain ⟨b, hb, bs, hbs, h⟩ := h
      cases h
      exact .cons hb (ih hbs)

end Text

namespace Colour

/-! ### The grammar -/

def Doubles (d : Char) (channel : UInt8) : Prop :=
  ∃ v, IsHexDigit d v ∧ channel.toNat = 17 * v

def Pairs (d d' : Char) (channel : UInt8) : Prop :=
  ∃ v v', IsHexDigit d v ∧ IsHexDigit d' v' ∧ channel.toNat = 16 * v + v'

/-- Decimal digits after an optional plus sign, worth a channel. -/
def IsDecimal (cs : List Char) (channel : UInt8) : Prop :=
  ∃ sign digits, cs = sign ++ digits ∧ (sign = [] ∨ sign = ['+']) ∧ digits ≠ [] ∧
    (∀ d ∈ digits, d.isDigit = true) ∧ digitsValue digits = channel.toNat

/-- The texts without blanks around them that denote a colour. -/
inductive Denotes : List Char → Colour → Prop
  | short {r g b : Char} {c : Colour} (isRed : Doubles r c.red) (isGreen : Doubles g c.green)
      (isBlue : Doubles b c.blue) : Denotes ['#', r, g, b] c
  | long {r r' g g' b b' : Char} {c : Colour} (isRed : Pairs r r' c.red) (isGreen : Pairs g g' c.green)
      (isBlue : Pairs b b' c.blue) : Denotes ['#', r, r', g, g', b, b'] c
  | fields {name red green blue : List Char} {c : Colour} (named : name.map Char.toLower = "rgb(".toList)
      (isRed : IsDecimal (trim red) c.red) (isGreen : IsDecimal (trim green) c.green)
      (isBlue : IsDecimal (trim blue) c.blue) :
      Denotes (name ++ (red ++ ',' :: (green ++ ',' :: blue) ++ [')'])) c

/-! ### Hexadecimal colours -/

theorem ofNat_eq_iff {n : Nat} (hn : n < 256) {channel : UInt8} : UInt8.ofNat n = channel ↔ channel.toNat = n := by
  rw [← UInt8.toNat_inj, UInt8.toNat_ofNat_of_lt' hn, eq_comm]

theorem doubles_iff {d : Char} {v : Nat} (h : hexValue? d = some v) {channel : UInt8} :
    Doubles d channel ↔ UInt8.ofNat (17 * v) = channel := by
  have hv := (hexValue?_eq_some_iff.1 h).lt
  rw [ofNat_eq_iff (by omega)]
  constructor
  · rintro ⟨v', hv', hc⟩
    obtain rfl := Option.some.inj (h.symm.trans (hexValue?_eq_some_iff.2 hv'))
    exact hc
  · exact fun hc => ⟨v, hexValue?_eq_some_iff.1 h, hc⟩

theorem pairs_iff {d d' : Char} {v v' : Nat} (h : hexValue? d = some v) (h' : hexValue? d' = some v')
    {channel : UInt8} : Pairs d d' channel ↔ UInt8.ofNat (16 * v + v') = channel := by
  have hv := (hexValue?_eq_some_iff.1 h).lt
  have hv' := (hexValue?_eq_some_iff.1 h').lt
  rw [ofNat_eq_iff (by omega)]
  constructor
  · rintro ⟨w, w', hw, hw', hc⟩
    obtain rfl := Option.some.inj (h.symm.trans (hexValue?_eq_some_iff.2 hw))
    obtain rfl := Option.some.inj (h'.symm.trans (hexValue?_eq_some_iff.2 hw'))
    exact hc
  · exact fun hc => ⟨v, v', hexValue?_eq_some_iff.1 h, hexValue?_eq_some_iff.1 h', hc⟩

theorem head_of_named {name : List Char} (h : name.map Char.toLower = "rgb(".toList) :
    ∃ c more, name = c :: more ∧ c ≠ '#' := by
  cases name with
  | nil => cases h
  | cons c more =>
      refine ⟨c, more, rfl, ?_⟩
      rintro rfl
      cases (List.cons.inj h).1

theorem ofHex?_eq_some_iff {hex : List Char} {c : Colour} : ofHex? hex = some c ↔ Denotes ('#' :: hex) c := by
  constructor
  · intro h
    rw [ofHex?] at h
    split at h
    · next r g b hm =>
      obtain _ | ⟨hr, _ | ⟨hg, _ | ⟨hb, _ | _⟩⟩⟩ := forall₂_of_mapM hm
      cases h
      exact .short ((doubles_iff hr).2 rfl) ((doubles_iff hg).2 rfl) ((doubles_iff hb).2 rfl)
    · next r r' g g' b b' hm =>
      obtain _ | ⟨hr, _ | ⟨hr', _ | ⟨hg, _ | ⟨hg', _ | ⟨hb, _ | ⟨hb', _ | _⟩⟩⟩⟩⟩⟩ := forall₂_of_mapM hm
      cases h
      exact .long ((pairs_iff hr hr').2 rfl) ((pairs_iff hg hg').2 rfl) ((pairs_iff hb hb').2 rfl)
    · cases h
  · intro h
    generalize htext : '#' :: hex = text at h
    cases h with
    | short isRed isGreen isBlue =>
        cases htext
        obtain ⟨r, hr, -⟩ := id isRed
        obtain ⟨g, hg, -⟩ := id isGreen
        obtain ⟨b, hb, -⟩ := id isBlue
        rw [← hexValue?_eq_some_iff] at hr hg hb
        simp [ofHex?, hr, hg, hb, (doubles_iff hr).1 isRed, (doubles_iff hg).1 isGreen, (doubles_iff hb).1 isBlue]
    | long isRed isGreen isBlue =>
        cases htext
        obtain ⟨r, r', hr, hr', -⟩ := id isRed
        obtain ⟨g, g', hg, hg', -⟩ := id isGreen
        obtain ⟨b, b', hb, hb', -⟩ := id isBlue
        rw [← hexValue?_eq_some_iff] at hr hr' hg hg' hb hb'
        simp [ofHex?, hr, hr', hg, hg', hb, hb', (pairs_iff hr hr').1 isRed, (pairs_iff hg hg').1 isGreen,
          (pairs_iff hb hb').1 isBlue]
    | fields named =>
        obtain ⟨c, more, rfl, hc⟩ := head_of_named named
        exact absurd (List.cons.inj htext).1.symm hc

/-! ### Channels -/

theorem channel?_eq_some_iff {cs : List Char} {channel : UInt8} :
    channel? cs = some channel ↔ IsDecimal cs channel := by
  have hbody {digits : List Char} :
      (if digits.isEmpty || !digits.all Char.isDigit then none
        else if digitsValue digits ≤ 255 then some (UInt8.ofNat (digitsValue digits)) else none) = some channel ↔
      digits ≠ [] ∧ (∀ d ∈ digits, d.isDigit = true) ∧ digitsValue digits = channel.toNat := by
    have hchannel := channel.toNat_lt
    rw [Option.ite_none_left_eq_some, Option.ite_none_right_eq_some, Option.some.injEq, Bool.or_eq_true, not_or,
      List.isEmpty_iff, Bool.not_eq_true', Bool.not_eq_false, List.all_eq_true, and_assoc]
    refine and_congr_right fun _ => and_congr_right fun _ => ⟨fun ⟨hle, he⟩ => ?_, fun he => ⟨by omega, ?_⟩⟩
    · exact ((ofNat_eq_iff (by omega)).1 he).symm
    · exact (ofNat_eq_iff (by omega)).2 he.symm
  constructor
  · intro h
    unfold channel? at h
    split at h
    · next ds => exact ⟨['+'], ds, rfl, .inr rfl, hbody.1 h⟩
    · exact ⟨[], cs, rfl, .inl rfl, hbody.1 h⟩
  · rintro ⟨sign, digits, rfl, rfl | rfl, hdigits⟩
    · unfold channel?
      split
      · next ds he =>
        -- a plus sign is no digit
        obtain rfl : digits = '+' :: ds := he
        cases hdigits.2.1 '+' List.mem_cons_self
      · exact hbody.2 hdigits
    · exact hbody.2 hdigits

theorem IsDecimal.chars {field : List Char} {channel : UInt8} (h : IsDecimal (trim field) channel) :
    ∀ c ∈ field, isBlank c = true ∨ c = '+' ∨ c.isDigit = true := by
  obtain ⟨sign, digits, htrim, hs, -, hdigits, -⟩ := h
  obtain ⟨before, after, hfield, hb, ha, -⟩ := exists_trim field
  intro c hc
  rw [hfield, htrim, List.mem_append, List.mem_append, List.mem_append] at hc
  rcases hc with (hc | hc | hc) | hc
  · exact .inl (hb c hc)
  · rcases hs with rfl | rfl
    · cases hc
    · exact .inr (.inl (List.mem_singleton.1 hc))
  · exact .inr (.inr (hdigits c hc))
  · exact .inl (ha c hc)

theorem lt_of_isDigit {c : Char} (h : c.isDigit = true) : c.toNat < 128 :=
  Nat.lt_of_le_of_lt (Char.isDigit_iff_toNat.1 h).2 (by decide)

/-- What a field is made of has no case and is no comma. -/
theorem IsDecimal.plain {field : List Char} {channel : UInt8} (h : IsDecimal (trim field) channel) :
    ∀ c ∈ field, c.isAlpha = false ∧ (c == ',') = false := by
  intro c hc
  rcases h.chars c hc with hblank | rfl | hdigit
  · constructor
    · rw [← Bool.not_eq_true]
      intro halpha
      rw [isBlank_of_isToken (by simp [isToken, Char.isAlphanum, halpha])] at hblank
      cases hblank
    · rw [beq_eq_false_iff_ne]
      rintro rfl
      cases hblank
  · decide
  · exact forall_ascii (P := fun c => c.isDigit = true → c.isAlpha = false ∧ (c == ',') = false) (by decide +kernel)
      (lt_of_isDigit hdigit) hdigit

/-! ### Three fields -/

theorem arguments?_eq_some_iff {cs inner : List Char} :
    arguments? cs = some inner ↔ cs = "rgb(".toList ++ (inner ++ [')']) := by
  constructor
  · intro h
    unfold arguments? at h
    split at h
    · split at h
      · next hr =>
        cases h
        rw [List.reverse_eq_cons_iff.1 hr]
        rfl
      · cases h
    · cases h
  · rintro rfl
    simp [arguments?]

theorem isAlpha_fields {red green blue : List Char} {r g b : UInt8} (hr : IsDecimal (trim red) r)
    (hg : IsDecimal (trim green) g) (hb : IsDecimal (trim blue) b) :
    ∀ c ∈ red ++ ',' :: (green ++ ',' :: blue) ++ [')'], c.isAlpha = false := by
  have hcomma : ','.isAlpha = false := by decide
  have hclosing : ')'.isAlpha = false := by decide
  simp only [List.forall_mem_append, List.forall_mem_cons]
  exact ⟨⟨fun c hc => (hr.plain c hc).1, hcomma, fun c hc => (hg.plain c hc).1, hcomma, fun c hc => (hb.plain c hc).1⟩,
    hclosing, List.forall_mem_nil _⟩

theorem parse?_eq_some_iff {text : String} {c : Colour} :
    parse? text = some c ↔ Denotes (trim text.toList) c := by
  unfold parse?
  generalize trim text.toList = cs
  split
  · exact ofHex?_eq_some_iff
  · next hhash =>
    constructor
    · intro h
      simp only [Option.bind_eq_bind, Option.bind_eq_some_iff] at h
      obtain ⟨inner, hinner, h⟩ := h
      split at h
      · next r g b hfields =>
        cases h
        simp only [List.map_eq_cons_iff, List.map_eq_nil_iff] at hfields
        obtain ⟨red, _, hsplit, hr, green, _, rfl, hg, blue, _, rfl, hb, rfl⟩ := hfields
        rw [channel?_eq_some_iff] at hr hg hb
        obtain ⟨name, rest, rfl, hname, hrest⟩ := List.map_eq_append_iff.1 (arguments?_eq_some_iff.1 hinner)
        have hjoin : inner = red ++ ',' :: (green ++ ',' :: blue) := by
          simpa [hsplit] using (intercalate_splitWhere ',' inner).symm
        rw [hjoin] at hrest
        obtain rfl := (map_toLower_eq_iff (isAlpha_fields hr hg hb)).1 hrest
        exact .fields hname hr hg hb
      · cases h
    · intro h
      cases h with
      | short | long => exact absurd rfl (hhash _)
      | @fields name red green blue _ named isRed isGreen isBlue =>
          have hlower : (name ++ (red ++ ',' :: (green ++ ',' :: blue) ++ [')'])).map Char.toLower =
              "rgb(".toList ++ (red ++ ',' :: (green ++ ',' :: blue) ++ [')']) := by
            rw [List.map_append, named, (map_toLower_eq_iff (isAlpha_fields isRed isGreen isBlue)).2 rfl]
          rw [hlower, arguments?_eq_some_iff.2 rfl]
          have hcomma {field : List Char} {channel : UInt8} (h : IsDecimal (trim field) channel) :
              ∀ c ∈ field, (c == ',') = false := fun c hc => (h.plain c hc).2
          simp only [Option.bind_eq_bind, Option.bind_some, splitWhere_append (hcomma isRed) (beq_self_eq_true ','),
            splitWhere_append (hcomma isGreen) (beq_self_eq_true ','), splitWhere_of_forall (hcomma isBlue),
            List.map_cons, List.map_nil, channel?_eq_some_iff.2 isRed, channel?_eq_some_iff.2 isGreen,
            channel?_eq_some_iff.2 isBlue]

/-! ### Letter case -/

theorem ofHex?_map_toLower (hex : List Char) : ofHex? (hex.map Char.toLower) = ofHex? hex := by
  rw [ofHex?, List.mapM_map, show hexValue? ∘ Char.toLower = hexValue? from funext hexValue?_toLower, ofHex?]

theorem trim_map_toLower (cs : List Char) : trim (cs.map Char.toLower) = (trim cs).map Char.toLower := by
  have hblank : isBlank ∘ Char.toLower = isBlank := funext (apply_toLower (by decide))
  rw [trim, trim, dropEnd, dropEnd, List.dropWhile_map, hblank, ← List.map_reverse, List.dropWhile_map, hblank,
    ← List.map_reverse]

theorem parse?_congr {text other : String} (h : eqIgnoreCase text.toList other.toList = true) :
    parse? text = parse? other := by
  have htrim : (trim text.toList).map Char.toLower = (trim other.toList).map Char.toLower := by
    rw [← trim_map_toLower, beq_iff_eq.1 h, trim_map_toLower]
  unfold parse?
  generalize trim text.toList = cs at htrim
  generalize trim other.toList = ds at htrim
  have hhash {c : Char} (hc : '#' = c.toLower) : c = '#' := (toLower_eq_iff (by decide)).1 hc.symm
  split
  · next hex =>
    obtain ⟨c, hex', rfl, hc, htail⟩ := List.map_eq_cons_iff.1 htrim.symm
    rw [hhash hc.symm]
    show ofHex? hex = ofHex? hex'
    rw [← ofHex?_map_toLower, ← htail, ofHex?_map_toLower]
  · next hcs =>
    split
    · next hex =>
      obtain ⟨c, hex', rfl, hc, -⟩ := List.map_eq_cons_iff.1 htrim
      rw [hhash hc.symm] at hcs
      exact absurd rfl (hcs _)
    · rw [htrim]

/-! ### Slices -/

/-- The text from byte `start` to byte `stop`; `none` when that is out of range or cuts a character. -/
def slice? (cs : List Char) (start stop : Nat) : Option (List Char) :=
  (splitBytes? start cs).bind fun r => (splitBytes? (stop - start) r.2).map Prod.fst

def isHexByte (b : UInt8) : Bool :=
  (48 ≤ b && b ≤ 57) || (65 ≤ b && b ≤ 70) || (97 ≤ b && b ≤ 102)

/-- Hexadecimal digits after an optional plus sign, worth at most 255. -/
def hexByte? (cs : List Char) : Option Nat :=
  let digits := match cs with
    | '+' :: ds => ds
    | ds => ds
  if digits.isEmpty then none
  else (digits.mapM hexValue?).bind fun values =>
    let n := values.foldl (fun n v => 16 * n + v) 0
    if n ≤ 255 then some n else none

/-- The channel that is scaled from the `i`-th slice of `width` bytes. -/
def sliceChannel? (hex : List Char) (width scale i : Nat) : Option (Option UInt8) :=
  (slice? hex (width * i) (width * i + width)).map fun digits => (hexByte? digits).map fun n => UInt8.ofNat (scale * n)

/-- Hexadecimal digits read slice by slice; `none` where a slice cannot be had. -/
def ofSlices? (hex : List Char) (width scale : Nat) : Option (Option Colour) := do
  let red ← sliceChannel? hex width scale 0
  let green ← sliceChannel? hex width scale 1
  let blue ← sliceChannel? hex width scale 2
  return do
    return ⟨← red, ← green, ← blue⟩

/-- A hexadecimal colour by its bytes. What has another byte than a digit is no colour, and is not sliced. -/
def ofHexBytes? (hex : List Char) : Option (Option Colour) :=
  if !(utf8 hex).all isHexByte then some none
  else match (utf8 hex).length with
    | 3 => ofSlices? hex 1 17
    | 6 => ofSlices? hex 2 1
    | _ => some none

theorem all_isHexByte (c : Char) : (String.utf8EncodeChar c).all isHexByte = (hexValue? c).isSome := by
  rcases Nat.lt_or_ge c.toNat 128 with h | h
  · rw [utf8EncodeChar_of_ascii h]
    exact forall_ascii (P := fun c => [UInt8.ofNat c.toNat].all isHexByte = (hexValue? c).isSome) (by decide +kernel) h
  · obtain ⟨b, bs, hb⟩ := List.exists_cons_of_ne_nil (String.utf8EncodeChar_ne_nil (c := c))
    have hbyte : 128 ≤ b.toNat := of_mem_utf8EncodeChar h b (hb ▸ List.mem_cons_self)
    have hhex : isHexByte b = false := by
      simp only [isHexByte, Bool.or_eq_false_iff, Bool.and_eq_false_iff, decide_eq_false_iff_not, UInt8.le_iff_toNat_le,
        UInt8.reduceToNat]
      omega
    rw [hb, List.all_cons, hhex, hexValue?_eq_none h]
    rfl

/-- A text that passes is one of digits, each of them a byte. -/
theorem all_isHexByte_utf8 {hex : List Char} :
    (utf8 hex).all isHexByte = true ↔ ∀ d ∈ hex, ∃ v, hexValue? d = some v := by
  rw [utf8, List.all_flatMap, List.all_eq_true]
  simp only [all_isHexByte, Option.isSome_iff_exists]

theorem utf8Size_of_hexValue? {d : Char} {v : Nat} (h : hexValue? d = some v) : d.utf8Size = 1 := by
  rw [← String.length_utf8EncodeChar, utf8EncodeChar_of_ascii (hexValue?_eq_some_iff.1 h).ascii]
  rfl

theorem hexByte?_cons {d : Char} {ds : List Char} {values : List Nat} (h : (d :: ds).mapM hexValue? = some values)
    (hle : values.foldl (fun n v => 16 * n + v) 0 ≤ 255) :
    hexByte? (d :: ds) = some (values.foldl (fun n v => 16 * n + v) 0) := by
  unfold hexByte?
  split
  · next ds' he =>
    -- a plus sign is no digit
    rw [he, List.mapM_cons] at h
    cases h
  · simp [h, hle]

theorem hexByte?_digit {d : Char} {v : Nat} (h : hexValue? d = some v) : hexByte? [d] = some v := by
  have hv := (hexValue?_eq_some_iff.1 h).lt
  have hm : [d].mapM hexValue? = some [v] := by simp [h]
  rw [hexByte?_cons hm (by simp; omega)]
  simp

theorem hexByte?_pair {d d' : Char} {v v' : Nat} (h : hexValue? d = some v) (h' : hexValue? d' = some v') :
    hexByte? [d, d'] = some (16 * v + v') := by
  have hv := (hexValue?_eq_some_iff.1 h).lt
  have hv' := (hexValue?_eq_some_iff.1 h').lt
  have hm : [d, d'].mapM hexValue? = some [v, v'] := by simp [h, h']
  rw [hexByte?_cons hm (by simp; omega)]
  simp

theorem ofSlices?_three {r g b : Char} (h : ∀ d ∈ [r, g, b], ∃ v, hexValue? d = some v) :
    ofSlices? [r, g, b] 1 17 = some (ofHex? [r, g, b]) := by
  simp only [List.forall_mem_cons] at h
  obtain ⟨⟨x, hr⟩, ⟨y, hg⟩, ⟨z, hb⟩, -⟩ := h
  simp [ofSlices?, sliceChannel?, slice?, splitBytes?, utf8Size_of_hexValue? hr, utf8Size_of_hexValue? hg,
    utf8Size_of_hexValue? hb, hexByte?_digit hr, hexByte?_digit hg, hexByte?_digit hb, ofHex?, hr, hg, hb]

theorem ofSlices?_six {r r' g g' b b' : Char} (h : ∀ d ∈ [r, r', g, g', b, b'], ∃ v, hexValue? d = some v) :
    ofSlices? [r, r', g, g', b, b'] 2 1 = some (ofHex? [r, r', g, g', b, b']) := by
  simp only [List.forall_mem_cons] at h
  obtain ⟨⟨x, hr⟩, ⟨x', hr'⟩, ⟨y, hg⟩, ⟨y', hg'⟩, ⟨z, hb⟩, ⟨z', hb'⟩, -⟩ := h
  simp [ofSlices?, sliceChannel?, slice?, splitBytes?, utf8Size_of_hexValue? hr, utf8Size_of_hexValue? hr',
    utf8Size_of_hexValue? hg, utf8Size_of_hexValue? hg', utf8Size_of_hexValue? hb, utf8Size_of_hexValue? hb',
    hexByte?_pair hr hr', hexByte?_pair hg hg', hexByte?_pair hb hb', ofHex?, hr, hr', hg, hg', hb, hb']

theorem digits_of_ofHex? {hex : List Char} {c : Colour} (h : ofHex? hex = some c) :
    (∀ d ∈ hex, ∃ v, hexValue? d = some v) ∧ (hex.length = 3 ∨ hex.length = 6) := by
  rw [ofHex?] at h
  split at h
  · next hm =>
    obtain _ | ⟨hr, _ | ⟨hg, _ | ⟨hb, _ | _⟩⟩⟩ := forall₂_of_mapM hm
    simp [hr, hg, hb]
  · next hm =>
    obtain _ | ⟨hr, _ | ⟨hr', _ | ⟨hg, _ | ⟨hg', _ | ⟨hb, _ | ⟨hb', _ | _⟩⟩⟩⟩⟩⟩ := forall₂_of_mapM hm
    simp [hr, hr', hg, hg', hb, hb']
  · cases h

/-- Only digits are sliced, and only between them, so that every slice can be had. -/
theorem ofHexBytes?_eq (hex : List Char) : ofHexBytes? hex = some (ofHex? hex) := by
  rw [ofHexBytes?]
  cases hall : (utf8 hex).all isHexByte with
  | false =>
      cases hc : ofHex? hex with
      | none => rfl
      | some c =>
          rw [all_isHexByte_utf8.2 (digits_of_ofHex? hc).1] at hall
          cases hall
  | true =>
      have hdigits := all_isHexByte_utf8.1 hall
      have hlength : (utf8 hex).length = hex.length := by
        rw [length_utf8, byteLength_eq_length fun d hd => (hdigits d hd).elim fun _ hv => utf8Size_of_hexValue? hv]
      rw [hlength]
      show (match hex.length with
        | 3 => ofSlices? hex 1 17
        | 6 => ofSlices? hex 2 1
        | _ => some none) = _
      split
      · next h3 =>
        match hex, h3, hdigits with
        | [_, _, _], _, hdigits => exact ofSlices?_three hdigits
      · next h6 =>
        match hex, h6, hdigits with
        | [_, _, _, _, _, _], _, hdigits => exact ofSlices?_six hdigits
      · next h3 h6 =>
        cases hc : ofHex? hex with
        | none => rfl
        | some c => exact absurd (digits_of_ofHex? hc).2 (not_or.2 ⟨h3, h6⟩)

/-! ### Colours as they are written -/

theorem IsDecimal.ascii {field : List Char} {channel : UInt8} (h : IsDecimal (trim field) channel) :
    ∀ c ∈ field, c.toNat < 128 ∨ isBlank c = true := by
  intro c hc
  rcases h.chars c hc with hblank | rfl | hdigit
  · exact .inr hblank
  · exact .inl (by decide)
  · exact .inl (lt_of_isDigit hdigit)

/-- Blanks around the fields alone can be other than ASCII characters. -/
theorem Denotes.ascii {cs : List Char} {c : Colour} (h : Denotes cs c) :
    ∀ d ∈ cs, d.toNat < 128 ∨ isBlank d = true := by
  cases h with
  | short isRed isGreen isBlue =>
      obtain ⟨⟨_, hr, -⟩, ⟨_, hg, -⟩, ⟨_, hb, -⟩⟩ := And.intro isRed (And.intro isGreen isBlue)
      simp [hr.ascii, hg.ascii, hb.ascii]
  | long isRed isGreen isBlue =>
      obtain ⟨⟨_, _, hr, hr', -⟩, ⟨_, _, hg, hg', -⟩, ⟨_, _, hb, hb', -⟩⟩ := And.intro isRed (And.intro isGreen isBlue)
      simp [hr.ascii, hr'.ascii, hg.ascii, hg'.ascii, hb.ascii, hb'.ascii]
  | @fields name red green blue _ named isRed isGreen isBlue =>
      have hname : ∀ d ∈ name, d.toNat < 128 := fun d hd => by
        have hlower : d.toLower ∈ "rgb(".toList := named ▸ List.mem_map_of_mem hd
        have hascii := List.all_eq_true.1 (by decide : "rgb(".toList.all (fun e => e.toNat < 128) = true) _ hlower
        have hcase := apply_toLower (f := fun e => decide (e.toNat < 128)) (by decide) d
        exact of_decide_eq_true (hcase.symm.trans hascii)
      simp only [List.forall_mem_append, List.forall_mem_cons]
      exact ⟨fun d hd => .inl (hname d hd),
        ⟨isRed.ascii, .inl (by decide), isGreen.ascii, .inl (by decide), isBlue.ascii⟩,
        .inl (by decide), List.forall_mem_nil _⟩

/-- A text is read as a colour if and only if it denotes that colour, with blanks around it or not. It is sliced only
where it has digits, and the case of its letters makes no difference. -/
theorem parse?_denotes :
    (∀ text c, parse? text = some c ↔ Denotes (trim text.toList) c) ∧
    (∀ text d, d ∈ trim text.toList → 128 ≤ d.toNat → isBlank d = false → parse? text = none) ∧
    (∀ text hex, trim text.toList = '#' :: hex → ofHexBytes? hex = some (parse? text)) ∧
    ∀ text other, eqIgnoreCase text.toList other.toList = true → parse? text = parse? other := by
  refine ⟨fun _ _ => parse?_eq_some_iff, fun text d hd hascii hblank => ?_, fun text hex h => ?_,
    fun _ _ => parse?_congr⟩
  · cases hc : parse? text with
    | none => rfl
    | some c =>
        rcases (parse?_eq_some_iff.1 hc).ascii d hd with h | h
        · omega
        · rw [hblank] at h
          cases h
  · rw [ofHexBytes?_eq, parse?, h]
    rfl

theorem parse?_denotes_mixed :
    parse? "#fA0" = some ⟨255, 170, 0⟩ ∧ parse? "#ff00é" = none ∧ ofHexBytes? "ff00é".toList = some none ∧
      parse? " RgB( +255 ,\t007,0)\n" = some ⟨255, 7, 0⟩ := by
  obtain ⟨hdenotes, hother, hslices, hcase⟩ := parse?_denotes
  have hnone : parse? "#ff00é" = none := hother "#ff00é" 'é' (by decide) (by decide) (by decide)
  refine ⟨(hdenotes _ _).2 (.short ⟨15, ?_⟩ ⟨10, ?_⟩ ⟨0, ?_⟩), hnone, ?_, ?_⟩
  · exact ⟨rfl, rfl⟩
  · exact ⟨rfl, rfl⟩
  · exact ⟨rfl, rfl⟩
  · exact (hslices "#ff00é" _ rfl).trans (congrArg some hnone)
  · exact (hcase _ " rgb( +255 ,\t007,0)\n" (by decide)).trans (by decide +kernel)

end Colour

end VehicleDamage
