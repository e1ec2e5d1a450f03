import VehicleDamage.Proofs.Number.ReadBack
import VehicleDamage.Proofs.Number.Unit
import VehicleDamage.Proofs.Style.Declarations
import VehicleDamage.Style.ZoneStyle

/-!
The style a damaged zone is shown with reads back as the fill and the opacity it is shown with.
-/

namespace VehicleDamage

open Text

/-- A character of a colour or of a number. -/
def isToken (c : Char) : Bool :=
  c.isAlphanum || c = '#' || c = '.' || c = '-'

theorem isToken_iff {c : Char} : isToken c = true ↔ ('A' ≤ c ∧ c ≤ 'Z') ∨ ('a' ≤ c ∧ c ≤ 'z') ∨ ('0' ≤ c ∧ c ≤ '9') ∨
    c = '#' ∨ c = '.' ∨ c = '-' := by
  rw [isToken]
  delta Char.isAlphanum Char.isAlpha Char.isUpper Char.isLower Char.isDigit
  simp only [Bool.or_eq_true, Bool.and_eq_true, decide_eq_true_eq, ge_iff_le, or_assoc, Char.le_def]

theorem isBlank_of_isToken {c : Char} (h : isToken c = true) : isBlank c = false := by
  have hc : 35 ≤ c.toNat ∧ c.toNat ≤ 122 := by
    simp only [isToken_iff, Char.le_def, UInt32.le_iff_toNat_le] at h
    rcases h with h | h | h | rfl | rfl | rfl
    · exact ⟨Nat.le_trans (by decide) h.1, Nat.le_trans h.2 (by decide)⟩
    · exact ⟨Nat.le_trans (by decide) h.1, Nat.le_trans h.2 (by decide)⟩
    · exact ⟨Nat.le_trans (by decide) h.1, Nat.le_trans h.2 (by decide)⟩
    · decide
    · decide
    · decide
  obtain ⟨hlo, hhi⟩ := hc
  simp only [isBlank, Bool.or_eq_false_iff, Bool.and_eq_false_iff, decide_eq_false_iff_not]
  omega

theorem isTrimmed_of_isToken {cs : List Char} (h : ∀ c ∈ cs, isToken c = true) : IsTrimmed cs :=
  ⟨fun c hc => isBlank_of_isToken (h c (List.mem_of_mem_head? hc)),
    fun c hc => isBlank_of_isToken (h c (List.mem_of_mem_getLast? hc))⟩

theorem Style.Declaration.isNormal_of_isToken {property value : String} (hne : property.toList ≠ [])
    (hp : ∀ c ∈ property.toList, isToken c = true) (hv : ∀ c ∈ value.toList, isToken c = true) :
    IsNormal ⟨property, value⟩ := by
  refine ⟨hne, isTrimmed_of_isToken hp, fun c hc => ⟨?_, ?_⟩, isTrimmed_of_isToken hv, fun hm => ?_⟩
  · rintro rfl
    cases hp _ hc
  · rintro rfl
    cases hp _ hc
  · cases hv _ hm

namespace Colour

/-- The two digits of a channel. -/
theorem hexPair_eq (channel : UInt8) : ∃ a b, hexPair channel = [a, b] ∧
    hexValue? a = some (channel.toNat / 16) ∧ hexValue? b = some (channel.toNat % 16) ∧
    isToken a = true ∧ isToken b = true := by
  have h : ∀ n < 256, ((hexPair (UInt8.ofNat n)).map fun c => (hexValue? c, isToken c)) =
      [(some (n / 16), true), (some (n % 16), true)] := by decide +kernel
  have hc := h channel.toNat channel.toNat_lt
  rw [UInt8.ofNat_toNat] at hc
  obtain ⟨a, more, hp, ha, hmore⟩ := List.map_eq_cons_iff.1 hc
  obtain ⟨b, none, rfl, hb, hnone⟩ := List.map_eq_cons_iff.1 hmore
  obtain rfl := List.map_eq_nil_iff.1 hnone
  exact ⟨a, b, hp, congrArg Prod.fst ha, congrArg Prod.fst hb, congrArg Prod.snd ha, congrArg Prod.snd hb⟩

theorem toHex_isToken (c : Colour) : ∀ char ∈ c.toHex.toList, isToken char = true := by
  obtain ⟨r, r', hr, -, -, hrt, hrt'⟩ := hexPair_eq c.red
  obtain ⟨g, g', hg, -, -, hgt, hgt'⟩ := hexPair_eq c.green
  obtain ⟨b, b', hb, -, -, hbt, hbt'⟩ := hexPair_eq c.blue
  simp [toHex, hr, hg, hb, hrt, hrt', hgt, hgt', hbt, hbt', show isToken '#' = true from rfl]

/-- The text of a colour is read as that colour. -/
theorem parse?_toHex (c : Colour) : parse? c.toHex = some c := by
  obtain ⟨r, r', hr, hrv, hrv', -⟩ := hexPair_eq c.red
  obtain ⟨g, g', hg, hgv, hgv', -⟩ := hexPair_eq c.green
  obtain ⟨b, b', hb, hbv, hbv', -⟩ := hexPair_eq c.blue
  have hchannel (n : UInt8) : UInt8.ofNat (16 * (n.toNat / 16) + n.toNat % 16) = n := by
    rw [Nat.div_add_mod, UInt8.ofNat_toNat]
  have htext : c.toHex.toList = '#' :: [r, r', g, g', b, b'] := by simp [toHex, hr, hg, hb]
  rw [parse?, trim_eq_self (isTrimmed_of_isToken c.toHex_isToken), htext]
  simp [ofHex?, hrv, hrv', hgv, hgv', hbv, hbv', hchannel]

end Colour

theorem Binary32.toText_isToken {x : Binary32} (h : x.isFinite = true) :
    ∀ c ∈ x.toText.toList, isToken c = true := by
  intro c hc
  rcases toText_chars h c hc with hd | rfl | rfl
  · simp [isToken, Char.isAlphanum, hd]
  · rfl
  · rfl

namespace ZoneStyle

theorem inUnit_opacity (style fill : Option String) : (ofAttributes style fill).opacity.InUnit := by
  show ((opacity? _).getD .one).InUnit
  cases ho : opacity? (Style.Declarations.parse (style.getD "")) with
  | none =>
      rw [Option.getD_none]
      exact Binary32.inUnit_one
  | some x =>
      simp only [opacity?, Option.bind_eq_bind, Option.bind_eq_some_iff] at ho
      obtain ⟨literal, -, value, -, hx⟩ := ho
      split at hx
      · next hf =>
        cases hx
        rw [Option.getD_some, ← clampSeverity]
        exact Binary32.inUnit_clampSeverity (Binary32.isNaN_eq_false_of_isFinite hf)
      · cases hx

/-- An opacity of the unit interval is read as it is written. -/
theorem opacity?_eq {declarations : Style.Declarations} {x : Binary32}
    (h : declarations.get? "fill-opacity" = some x.toText) (hx : x.InUnit) : opacity? declarations = some x := by
  rw [opacity?, h]
  show ((Binary32.ofLiteral? x.toText).bind fun value =>
    if value.isFinite then some (value.clamp .zero .one) else none) = some x
  rw [Binary32.ofLiteral?_toText hx.isFinite, Option.bind_some, if_pos hx.isFinite, hx.clamp_eq]

/-- A declared colour is read as it is written. -/
theorem fill_eq {declarations : Style.Declarations} {c : Colour} (h : declarations.get? "fill" = some c.toHex)
    (fill : Option String) : (((declarations.get? "fill").or fill).bind Colour.parse?).getD .black = c := by
  rw [h, Option.some_or, Option.bind_some, Colour.parse?_toHex, Option.getD_some]

theorem areNormal_declarations (style fill : Option String) : (ofAttributes style fill).declarations.AreNormal :=
  Style.Declarations.areNormal_parse _

/-- The declarations a damaged zone is shown with. -/
def restyled (style : ZoneStyle) (palette : Palette) (severity : Binary32) : Style.Declarations :=
  (style.declarations.set "fill" (style.fill.mix palette.fill (clampSeverity severity)).toHex).set "fill-opacity"
    (mixOpacity style.opacity palette.opacity (clampSeverity severity)).toText

variable {style : ZoneStyle} {palette : Palette} {severity : Binary32}

theorem isNaN_eq_false_of_damaged (h : Binary32.zero.lt severity = true) : severity.isNaN = false := by
  cases severity with
  | nan => cases h
  | infinite | finite => rfl

theorem shown_undamaged (h : Binary32.zero.lt severity = false) :
    style.shown palette severity = ⟨style.raw, style.fill, style.opacity, true⟩ := by
  have hle : (if severity.isNaN then .zero else clampSeverity severity : Binary32).le .zero = true := by
    cases hn : severity.isNaN with
    | true => rfl
    | false =>
        rw [if_neg (by decide), Binary32.clampSeverity_le_zero hn, h]
        rfl
  rw [shown]
  exact if_pos hle

theorem shown_damaged (h : Binary32.zero.lt severity = true) :
    style.shown palette severity = ⟨(style.restyled palette severity).text,
      style.fill.mix palette.fill (clampSeverity severity),
      mixOpacity style.opacity palette.opacity (clampSeverity severity), false⟩ := by
  have hn := isNaN_eq_false_of_damaged h
  have hle : (clampSeverity severity).le .zero = false := by rw [Binary32.clampSeverity_le_zero hn, h]; rfl
  rw [shown, hn]
  exact if_neg (Bool.eq_false_iff.1 hle)

/-- A damaged zone is shown with an opacity of the unit interval. -/
theorem inUnit_restyled (hs : style.opacity.InUnit) (hp : palette.opacity.isFinite = true)
    (h : Binary32.zero.lt severity = true) :
    (mixOpacity style.opacity palette.opacity (clampSeverity severity)).InUnit := by
  have hn := isNaN_eq_false_of_damaged h
  have hlt : Binary32.zero.lt (clampSeverity severity) = true := by
    obtain ⟨p, hp⟩ := Binary32.exists_place (Binary32.inUnit_clampSeverity hn).isNaN_eq
    have hle := Binary32.clampSeverity_le_zero hn
    rw [h, Bool.not_true, ← Bool.not_eq_true, Binary32.le_iff hp Binary32.place?_zero] at hle
    rw [Binary32.lt_iff Binary32.place?_zero hp]
    omega
  exact inUnit_mixOpacity hs hp hlt

theorem areNormal_restyled (hd : style.declarations.AreNormal) (hs : style.opacity.InUnit)
    (hp : palette.opacity.isFinite = true) (h : Binary32.zero.lt severity = true) :
    (style.restyled palette severity).AreNormal := by
  have hu := inUnit_restyled hs hp h
  refine Style.Declarations.areNormal_set (Style.Declarations.areNormal_set hd ?_) ?_
  · exact Style.Declaration.isNormal_of_isToken (by decide) (List.all_eq_true.1 (by decide)) (Colour.toHex_isToken _)
  · exact Style.Declaration.isNormal_of_isToken (by decide) (List.all_eq_true.1 (by decide))
      (Binary32.toText_isToken hu.isFinite)

/-- A character that neither a colour nor a number has, and that joins no declarations, is in the text a damaged zone
is shown with only if it is in its own style. -/
theorem notMem_restyled {c : Char} (hd : style.declarations.AreFree c) (hs : style.opacity.InUnit)
    (hp : palette.opacity.isFinite = true) (h : Binary32.zero.lt severity = true) (hc : isToken c = false)
    (hcolon : c ≠ ':') (hsemicolon : c ≠ ';') : c ∉ (style.restyled palette severity).text.toList := by
  have hu := inUnit_restyled hs hp h
  have htoken {cs : List Char} (ht : ∀ c ∈ cs, isToken c = true) : c ∉ cs := fun hm => by
    rw [ht c hm] at hc
    cases hc
  have hfill := Style.Declarations.areFree_set hd
    (htoken (List.all_eq_true.1 (by decide : "fill".toList.all isToken = true)))
    (htoken (style.fill.mix palette.fill (clampSeverity severity)).toHex_isToken)
  exact Style.Declarations.notMem_text (Style.Declarations.areFree_set hfill
    (htoken (List.all_eq_true.1 (by decide : "fill-opacity".toList.all isToken = true)))
    (htoken (Binary32.toText_isToken hu.isFinite))) hcolon hsemicolon

/-- The text a damaged zone is shown with reads as the fill and the opacity it is shown with, whatever the `fill`
attribute says. -/
theorem ofAttributes_shown (hd : style.declarations.AreNormal) (hs : style.opacity.InUnit)
    (hp : palette.opacity.isFinite = true) (h : Binary32.zero.lt severity = true) (fill : Option String) :
    (ofAttributes (some (style.shown palette severity).text) fill).fill = (style.shown palette severity).fill ∧
      (ofAttributes (some (style.shown palette severity).text) fill).opacity =
        (style.shown palette severity).opacity := by
  have hu := inUnit_restyled hs hp h
  have hn := areNormal_restyled hd hs hp h
  rw [shown_damaged h]
  dsimp only
  have hparse := Style.Declarations.parse_text hn
  have hfill : (style.restyled palette severity).get? "fill" =
      some (style.fill.mix palette.fill (clampSeverity severity)).toHex := by
    rw [restyled, Style.Declarations.get?_set, if_neg (by decide), Style.Declarations.get?_set, if_pos (by decide)]
  have hopacity : (style.restyled palette severity).get? "fill-opacity" =
      some (mixOpacity style.opacity palette.opacity (clampSeverity severity)).toText := by
    rw [restyled, Style.Declarations.get?_set, if_pos (by decide)]
  constructor
  · simp only [ofAttributes, Option.getD_some, hparse, fill_eq hfill]
  · simp only [ofAttributes, Option.getD_some, hparse, opacity?_eq hopacity hu]

/-- The text that a damaged zone is shown with reads as the zone's own declarations, in which first `fill` and then
`fill-opacity` is given the value shown: in place where it is declared, at the end where it is not. All other
declarations stay. With any `fill` attribute it is the style of the fill and the opacity shown. -/
theorem shown_read_back (style fill : Option String) {palette : Palette} {severity : Binary32}
    (hp : palette.opacity.isFinite = true) (h : Binary32.zero.lt severity = true) :
    let declared := Style.Declarations.parse (style.getD "")
    let shown := (ofAttributes style fill).shown palette severity
    let read := Style.Declarations.parse shown.text
    (∃ filled, Style.Declarations.Puts "fill" shown.fill.toHex declared filled ∧
      Style.Declarations.Puts "fill-opacity" shown.opacity.toText filled read) ∧
    read = (declared.set "fill" shown.fill.toHex).set "fill-opacity" shown.opacity.toText ∧
    ∀ other, (ofAttributes (some shown.text) other).fill = shown.fill ∧
      (ofAttributes (some shown.text) other).opacity = shown.opacity := by
  intro declared shown read
  have hd := areNormal_declarations style fill
  have hs := inUnit_opacity style fill
  have hread : read = (declared.set "fill" shown.fill.toHex).set "fill-opacity" shown.opacity.toText := by
    have hparse := Style.Declarations.parse_text (areNormal_restyled hd hs hp h)
    simp only [read, shown, shown_damaged h]
    exact hparse
  refine ⟨⟨declared.set "fill" shown.fill.toHex, Style.Declarations.puts_set _ _ _, ?_⟩, hread,
    ofAttributes_shown hd hs hp h⟩
  rw [hread]
  exact Style.Declarations.puts_set _ _ _

/-- A style with pieces that declare nothing, a repeated fill in other letters and a colon in a value, at a severity
without bound. -/
theorem shown_read_back_fill :
    let style := " Stroke: a:b ;; FILL :#fff;x; :y;fill:red"
    let shown := (ofAttributes (some style) none).shown .standard (.infinite false)
    shown.text = "Stroke:a:b;FILL:#b71c1c;fill:red;fill-opacity:1" ∧
      (∃ filled, Style.Declarations.Puts "fill" shown.fill.toHex (Style.Declarations.parse style) filled ∧
        Style.Declarations.Puts "fill-opacity" shown.opacity.toText filled (Style.Declarations.parse shown.text)) ∧
      (ofAttributes (some shown.text) (some "#00ff00")).fill = shown.fill := by
  intro style shown
  obtain ⟨hputs, -, hstyle⟩ := shown_read_back (some style) none
    (by decide +kernel : Palette.standard.opacity.isFinite = true)
    (by decide +kernel : Binary32.zero.lt (.infinite false) = true)
  exact ⟨by decide +kernel, hputs, (hstyle _).1⟩

end ZoneStyle

end VehicleDamage
