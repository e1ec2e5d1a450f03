import VehicleDamage.Markup.Entity
import VehicleDamage.Proofs.Style.Shown
import VehicleDamage.Proofs.Template.Zones

/-!
Texts whose character references can all be resolved, and what becomes of the references of a style when its
declarations are written anew: the semicolon that ends a reference ends a declaration as well.
-/

namespace VehicleDamage.Markup

open Text

/-- What stands between the `&` and the `;` of a reference. -/
def IsReference (name : List Char) : Prop :=
  ∃ c, entity 0 name = .ok c

theorem entity_ok_iff (start : Nat) (name : List Char) : (∃ c, entity start name = .ok c) ↔ IsReference name := by
  rw [IsReference]
  simp only [entity]
  split
  · next digits =>
    cases codePoint digits with
    | error fault => exact Iff.rfl
    | ok code =>
        show (∃ c, (if code = 0 then _ else _) = _) ↔ ∃ c, (if code = 0 then _ else _) = _
        split
        · exact ⟨nofun, nofun⟩
        · exact Iff.rfl
  · split
    · exact Iff.rfl
    · exact ⟨nofun, nofun⟩

theorem isToken_of_hexValue? {c : Char} {n : Nat} (h : hexValue? c = some n) : isToken c = true := by
  simp only [hexValue?, Char.le_def] at h
  simp only [isToken_iff, Char.le_def, UInt32.le_iff_toNat_le] at h ⊢
  split at h
  · next hc => exact .inr (.inr (.inl hc))
  · split at h
    · next hc => exact .inr (.inl ⟨hc.1, Nat.le_trans hc.2 (by decide)⟩)
    · split at h
      · next hc => exact .inl ⟨hc.1, Nat.le_trans hc.2 (by decide)⟩
      · cases h

theorem isToken_of_hexCode {digits : List Char} {n code : Nat} (h : hexCode n digits = .ok code) :
    ∀ c ∈ digits, isToken c = true := by
  induction digits generalizing n with
  | nil => nofun
  | cons c cs ih =>
      rw [hexCode] at h
      split at h
      · next hd => exact List.forall_mem_cons.2 ⟨isToken_of_hexValue? hd, ih h⟩
      · cases h

theorem isToken_of_decimalCode {digits : List Char} {n code : Nat} (h : decimalCode n digits = .ok code) :
    ∀ c ∈ digits, isToken c = true := by
  induction digits generalizing n with
  | nil => nofun
  | cons c cs ih =>
      rw [decimalCode] at h
      split at h
      · next hd => exact List.forall_mem_cons.2 ⟨by simp [isToken, Char.isAlphanum, hd], ih h⟩
      · cases h

theorem isToken_of_isReference {name : List Char} (h : IsReference name) : ∀ c ∈ name, isToken c = true := by
  obtain ⟨c, hc⟩ := h
  simp only [entity] at hc
  split at hc
  · next digits =>
    refine List.forall_mem_cons.2 ⟨rfl, ?_⟩
    cases hp : codePoint digits with
    | error fault =>
        rw [hp] at hc
        cases hc
    | ok code =>
        unfold codePoint at hp
        split at hp
        · split at hp
          · cases hp
          · exact List.forall_mem_cons.2 ⟨rfl, isToken_of_hexCode hp⟩
        · split at hp
          · cases hp
          · exact isToken_of_decimalCode hp
  · split at hc
    · next c' hn =>
      obtain ⟨before, after, hl, -⟩ := List.lookup_eq_some_iff.1 hn
      have hm : (String.ofList name, c') ∈
          [("lt", '<'), ("gt", '>'), ("amp", '&'), ("apos", '\''), ("quot", '"')] := by simp [hl]
      have hall : ∀ e ∈ [("lt", '<'), ("gt", '>'), ("amp", '&'), ("apos", '\''), ("quot", '"')],
          e.1.toList.all isToken = true := by decide
      simpa using List.all_eq_true.1 (hall _ hm)
    · cases hc

theorem notMem_of_isReference {name : List Char} (h : IsReference name) {c : Char} (hc : isToken c = false) :
    c ∉ name := fun hm => by
  rw [isToken_of_isReference h c hm] at hc
  cases hc

/-- A text whose references can all be resolved. -/
inductive Resolvable : List Char → Prop
  | plain {cs : List Char} (free : '&' ∉ cs) : Resolvable cs
  | reference {before name cs : List Char} (free : '&' ∉ before) (named : IsReference name)
      (rest : Resolvable cs) : Resolvable (before ++ '&' :: name ++ ';' :: cs)

/-- The pieces between ampersands each begin with a reference. -/
theorem resolvePieces_ok_iff (total start : Nat) (pieces : List (List Char)) :
    (∃ value, resolvePieces total start pieces = .ok value) ↔
      ∀ piece ∈ pieces, ∃ name after, splitOnce? (· == ';') piece = some (name, after) ∧ IsReference name := by
  induction pieces generalizing start with
  | nil => exact ⟨fun _ => nofun, fun _ => ⟨[], rfl⟩⟩
  | cons piece more ih =>
      rw [List.forall_mem_cons, resolvePieces]
      cases hs : splitOnce? (· == ';') piece with
      | none => simp
      | some r =>
          obtain ⟨name, after⟩ := r
          have hn := entity_ok_iff start name
          have hm := ih (start + 1 + byteLength piece)
          dsimp only
          constructor
          · rintro ⟨value, hv⟩
            obtain ⟨c, hc, hv⟩ := ok_of_bind hv
            obtain ⟨rest, hrest, -⟩ := ok_of_bind hv
            exact ⟨⟨name, after, rfl, hn.1 ⟨c, hc⟩⟩, hm.1 ⟨rest, hrest⟩⟩
          · rintro ⟨⟨name', after', he, hname⟩, hmore⟩
            cases he
            obtain ⟨c, hc⟩ := hn.2 hname
            obtain ⟨rest, hrest⟩ := hm.2 hmore
            refine ⟨c :: after ++ rest, ?_⟩
            rw [hc, hrest]
            rfl

theorem unescape_ok_iff_pieces (value : List Char) : (∃ v, unescape value = .ok v) ↔
    ∀ piece ∈ (splitWhere (· == '&') value).tail,
      ∃ name after, splitOnce? (· == ';') piece = some (name, after) ∧ IsReference name := by
  rw [unescape]
  split
  · next hs =>
    rw [hs]
    exact ⟨fun _ => nofun, fun _ => ⟨[], rfl⟩⟩
  · next first pieces hs =>
    rw [hs, List.tail_cons, ← resolvePieces_ok_iff (byteLength value) (byteLength first)]
    constructor
    · rintro ⟨v, hv⟩
      obtain ⟨rest, hrest, -⟩ := ok_of_bind hv
      exact ⟨rest, hrest⟩
    · rintro ⟨rest, hrest⟩
      refine ⟨first ++ rest, ?_⟩
      rw [hrest]
      rfl

/-- The references of a value can be resolved when each of them has its semicolon and a name that is known. -/
theorem unescape_ok_iff {value : List Char} : (∃ v, unescape value = .ok v) ↔ Resolvable value := by
  rw [unescape_ok_iff_pieces]
  constructor
  · intro h
    induction hn : value.length using Nat.strongRecOn generalizing value with
    | ind n ih =>
        rcases splitWhere_cases (· == '&') value with ⟨-, hfree⟩ | ⟨before, d, ds, rfl, hfree, hd, hs⟩
        · exact .plain fun hm => by simpa using hfree _ hm
        · obtain rfl : d = '&' := by simpa using hd
          have hbefore : '&' ∉ before := fun hm => by simpa using hfree _ hm
          obtain ⟨piece, rest, more, rfl, hpiece, hmore, hother⟩ := exists_first_piece (· == '&') ds
          rw [hs, List.tail_cons, hmore, List.forall_mem_cons] at h
          obtain ⟨⟨name, after, honce, hname⟩, hrest⟩ := h
          obtain ⟨semicolon, hsemicolon, rfl, -⟩ := splitOnce?_eq_some honce
          obtain rfl : semicolon = ';' := by simpa using hsemicolon
          have hafter := hother after fun c hc => hpiece c (by simp [hc])
          have hresolvable : Resolvable (after ++ rest) := by
            refine ih _ ?_ (by rwa [hafter]) rfl
            rw [← hn]
            simp only [List.length_append, List.length_cons]
            omega
          simpa using Resolvable.reference hbefore hname hresolvable
  · intro h
    induction h with
    | plain free =>
        rw [splitWhere_of_forall fun c hc => by simpa using fun he : c = '&' => free (he ▸ hc)]
        nofun
    | @reference before name cs free named rest ih =>
        obtain ⟨piece, rest, more, rfl, hpiece, hmore, hother⟩ := exists_first_piece (· == '&') cs
        have hbefore : ∀ c ∈ before, (c == '&') = false := fun c hc => by
          simpa using fun he : c = '&' => free (he ▸ hc)
        have hname : ∀ c ∈ name ++ ';' :: piece, (c == '&') = false := fun c hc => by
          rcases List.mem_append.1 hc with hc | hc
          · simpa using fun he : c = '&' => notMem_of_isReference named (by decide) (he ▸ hc)
          · rcases List.mem_cons.1 hc with rfl | hc
            · rfl
            · exact hpiece c hc
        have hname' : ∀ c ∈ name, (c == ';') = false := fun c hc => by
          simpa using fun he : c = ';' => notMem_of_isReference named (by decide) (he ▸ hc)
        have hs := hother _ hname
        rw [List.append_assoc, List.cons_append] at hs
        rw [List.append_assoc, List.cons_append, splitWhere_append hbefore (by simp), List.tail_cons, hs]
        rw [hmore, List.tail_cons] at ih
        exact List.forall_mem_cons.2 ⟨⟨name, piece, splitOnce?_append hname' (by simp) piece, named⟩, ih⟩

/-- A text without a reference, but that its end may be one that lacks its semicolon. -/
def IsSevered (piece : List Char) : Prop :=
  '&' ∉ piece ∨ ∃ before name, piece = before ++ '&' :: name ∧ '&' ∉ before ∧ IsReference name

theorem IsSevered.cons {piece : List Char} (h : IsSevered piece) {c : Char} (hc : c ≠ '&') :
    IsSevered (c :: piece) := by
  rcases h with h | ⟨before, name, rfl, hb, hn⟩
  · exact .inl (by simp [hc.symm, h])
  · exact .inr ⟨c :: before, name, rfl, by simp [hc.symm, hb], hn⟩

/-- Cut at its semicolons, a text loses them at the ends of its references. -/
theorem Resolvable.isSevered {cs : List Char} (h : Resolvable cs) :
    ∀ piece ∈ splitWhere (· == ';') cs, IsSevered piece := by
  induction h with
  | plain free => exact fun piece hp => .inl fun hm => free (of_mem_splitWhere hp _ hm).1
  | @reference before name cs free named rest ih =>
      induction before with
      | nil =>
          have hname : ∀ c ∈ '&' :: name, (c == ';') = false := fun c hc => by
            rcases List.mem_cons.1 hc with rfl | hc
            · rfl
            · simpa using fun he : c = ';' => notMem_of_isReference named (by decide) (he ▸ hc)
          rw [List.nil_append, splitWhere_append hname (by simp)]
          exact List.forall_mem_cons.2 ⟨.inr ⟨[], name, rfl, free, named⟩, ih⟩
      | cons c before ihb =>
          obtain ⟨hc, hbefore⟩ : '&' ≠ c ∧ '&' ∉ before := by simpa using free
          have hb := ihb hbefore
          rw [List.cons_append, List.cons_append, splitWhere]
          split
          · exact List.forall_mem_cons.2 ⟨.inl List.not_mem_nil, hb⟩
          · split
            · exact List.forall_mem_singleton.2 (.inl (by simpa using hc))
            · next first more hs =>
              rw [hs] at hb
              obtain ⟨hfirst, hmore⟩ := List.forall_mem_cons.1 hb
              exact List.forall_mem_cons.2 ⟨hfirst.cons (Ne.symm hc), hmore⟩

/-- In a text that can be resolved a semicolon follows every `&`. -/
theorem Resolvable.semicolon_mem {cs before after : List Char} (h : Resolvable cs) (he : cs = before ++ '&' :: after) :
    ';' ∈ after := by
  induction h generalizing before with
  | plain free => exact absurd (by simp [he]) free
  | @reference before' name cs free named rest ih =>
      have hfront : before' ++ '&' :: name ++ [';'] ++ cs = before ++ '&' :: after := by simpa using he
      rcases List.append_eq_append_iff.1 hfront with ⟨middle, -, hc⟩ | ⟨middle, hf, hm⟩
      · exact ih hc
      · cases hl : middle.getLast? with
        | none =>
            obtain rfl := List.getLast?_eq_none_iff.1 hl
            have hcs : cs = [] ++ '&' :: after := hm.symm
            exact ih hcs
        | some c =>
            -- What the `&` begins reaches over the semicolon of the reference.
            have hlast : (before ++ middle).getLast? = some ';' := by
              rw [← hf]
              exact List.getLast?_concat
            rw [List.getLast?_append, hl] at hlast
            obtain rfl : c = ';' := Option.some.inj hlast
            have hmem : ';' ∈ '&' :: after := hm ▸ List.mem_append_left _ (List.mem_of_getLast? hl)
            simpa using hmem

theorem Resolvable.append {before cs : List Char} (hb : '&' ∉ before) (h : Resolvable cs) :
    Resolvable (before ++ cs) := by
  cases h with
  | plain free => exact .plain (by simp [hb, free])
  | @reference before' name cs free named rest =>
      have hf : '&' ∉ before ++ before' := by simp [hb, free]
      simpa using Resolvable.reference hf named rest

theorem IsSevered.join {piece cs : List Char} (hp : IsSevered piece) (h : Resolvable cs) :
    Resolvable (piece ++ ';' :: cs) := by
  rcases hp with hp | ⟨before, name, rfl, hb, hn⟩
  · have hs : Resolvable ([';'] ++ cs) := h.append (by decide)
    exact hs.append hp
  · exact .reference hb hn h

/-- Trimming takes nothing of a reference at the end. -/
theorem IsSevered.trim {piece : List Char} (h : IsSevered piece) : IsSevered (trim piece) := by
  rcases h with h | ⟨before, name, rfl, hb, hn⟩
  · exact .inl fun hm => h (mem_of_mem_trim hm)
  · have hdrop : (before ++ '&' :: name).dropWhile isBlank = before.dropWhile isBlank ++ '&' :: name := by
      rw [List.dropWhile_append]
      split
      · next he => rw [List.isEmpty_iff.1 he]; rfl
      · rfl
    have hlast : ∀ c ∈ (before.dropWhile isBlank ++ '&' :: name).getLast?, isBlank c = false := by
      rw [List.getLast?_append, List.getLast?_eq_some_getLast (List.cons_ne_nil _ _), Option.some_or,
        ← List.getLast?_eq_some_getLast]
      intro c hc
      rcases List.mem_cons.1 (List.mem_of_getLast? hc) with rfl | hm
      · rfl
      · exact isBlank_of_isToken (isToken_of_isReference hn c hm)
    rw [Text.trim, hdrop, dropEnd_eq_self hlast]
    exact .inr ⟨_, name, rfl, fun hm => hb ((List.dropWhile_sublist _).mem hm), hn⟩

end VehicleDamage.Markup

namespace VehicleDamage.Style

open Text Markup

/-- A declaration whose property has no reference, and whose value has none but for one at its end that lacks its
semicolon. -/
structure Declaration.IsSevered (d : Declaration) : Prop where
  property : '&' ∉ d.property.toList
  value : Markup.IsSevered d.value.toList

theorem Declaration.isSevered_of_parse? {piece : List Char} {d : Declaration} (h : parse? piece = some d)
    (hp : Markup.IsSevered piece) : d.IsSevered := by
  obtain ⟨property, value, rfl, hcolon, hproperty, hvalue, -⟩ := parse?_eq_some h
  have hparts : '&' ∉ property ∧ Markup.IsSevered value := by
    rcases hp with hp | ⟨before, name, he, hb, hn⟩
    · simp only [List.mem_append, List.mem_cons, not_or] at hp
      exact ⟨hp.1, .inl hp.2.2⟩
    · -- The first colon comes before the reference, since neither `&` nor a name is one.
      rcases List.append_eq_append_iff.1 he with ⟨middle, hbefore, hm⟩ | ⟨middle, hpre, hm⟩
      · cases middle with
        | nil => cases hm
        | cons c middle =>
            obtain ⟨rfl, rfl⟩ := List.cons.inj hm
            rw [hbefore] at hb
            simp only [List.mem_append, List.mem_cons, not_or] at hb
            exact ⟨hb.1, .inr ⟨middle, name, rfl, hb.2.2, hn⟩⟩
      · exfalso
        cases middle with
        | nil => cases hm
        | cons c middle =>
            obtain ⟨rfl, rfl⟩ := List.cons.inj hm
            exact notMem_of_isReference hn (c := ':') (by decide) (by simp)
  constructor
  · rw [hproperty]
    exact fun hm => hparts.1 (mem_of_mem_trim hm)
  · rw [hvalue]
    exact hparts.2.trim

theorem Declaration.IsSevered.text {d : Declaration} (h : d.IsSevered) : Markup.IsSevered d.text.toList := by
  rw [text_toList]
  rcases h.value with hv | ⟨before, name, he, hb, hn⟩
  · exact .inl (by simp [h.property, hv])
  · refine .inr ⟨d.property.toList ++ ':' :: before, name, ?_, ?_, hn⟩
    · rw [he]
      simp
    · simp [h.property, hb]

namespace Declarations

def AreSevered (ds : Declarations) : Prop :=
  ∀ d ∈ ds, d.IsSevered

/-- The last declaration has no reference. -/
def IsClosed (ds : Declarations) : Prop :=
  ∀ d ∈ ds.getLast?, '&' ∉ d.value.toList

theorem areSevered_parse {style : String} (h : Resolvable style.toList) : AreSevered (parse style) := by
  intro d hd
  obtain ⟨piece, hpiece, hparse⟩ := List.mem_filterMap.1 hd
  exact Declaration.isSevered_of_parse? hparse (h.isSevered piece hpiece)

theorem areSevered_set {ds : Declarations} {property value : String} (h : ds.AreSevered)
    (hp : '&' ∉ property.toList) (hv : '&' ∉ value.toList) : (ds.set property value).AreSevered :=
  forall_mem_set h ⟨hp, .inl hv⟩ fun _ hd => ⟨hd.property, .inl hv⟩

/-- Joined by semicolons, the declarations have their references back, but for the last. -/
theorem resolvable_text {ds : Declarations} (h : ds.AreSevered) (hc : ds.IsClosed) : Resolvable (text ds).toList := by
  induction ds with
  | nil => exact .plain (by decide)
  | cons d ds ih =>
      obtain ⟨hd, hds⟩ := List.forall_mem_cons.1 h
      cases ds with
      | nil =>
          have ht : text [d] = d.text := by simp [text]
          have hv : '&' ∉ d.value.toList := hc d rfl
          rw [ht, Declaration.text_toList]
          exact .plain (by simp [hd.property, hv])
      | cons e ds =>
          rw [text_cons_cons]
          exact hd.text.join (ih hds hc)

theorem exists_text_eq {ds : Declarations} {d : Declaration} (h : ds.getLast? = some d) :
    ∃ front, (text ds).toList = front ++ d.value.toList := by
  induction ds with
  | nil => cases h
  | cons e ds ih =>
      cases ds with
      | nil =>
          obtain rfl : e = d := Option.some.inj h
          have ht : text [e] = e.text := by simp [text]
          exact ⟨e.property.toList ++ [':'], by rw [ht, Declaration.text_toList]; simp⟩
      | cons e' ds =>
          obtain ⟨front, hf⟩ := ih h
          refine ⟨e.text.toList ++ ';' :: front, ?_⟩
          rw [text_cons_cons, hf]
          simp

/-- Joined by semicolons, the declarations have their references back, unless the last one has lost one. -/
theorem resolvable_text_iff {ds : Declarations} (h : ds.AreSevered) : Resolvable (text ds).toList ↔ ds.IsClosed := by
  refine ⟨fun hr d hd => ?_, resolvable_text h⟩
  rcases (h d (List.mem_of_getLast? hd)).value with hv | ⟨before, name, he, -, hn⟩
  · exact hv
  · obtain ⟨front, hf⟩ := exists_text_eq hd
    have hsplit : (text ds).toList = front ++ before ++ '&' :: name := by
      rw [hf, he]
      simp
    exact absurd (hr.semicolon_mem hsplit) (notMem_of_isReference hn (by decide))

end Declarations

end VehicleDamage.Style

namespace VehicleDamage

open Style.Declarations in
theorem ZoneStyle.areSevered_restyled {style : ZoneStyle} {palette : Palette} {severity : Binary32}
    (hd : style.declarations.AreSevered) (hs : style.opacity.InUnit) (hp : palette.opacity.isFinite = true)
    (h : Binary32.zero.lt severity = true) : (style.restyled palette severity).AreSevered := by
  have hu := inUnit_restyled hs hp h
  have htoken {cs : List Char} (ht : ∀ c ∈ cs, isToken c = true) : '&' ∉ cs := fun hm => by
    cases ht _ hm
  exact areSevered_set (areSevered_set hd (by decide)
    (htoken (style.fill.mix palette.fill (clampSeverity severity)).toHex_isToken)) (by decide)
    (htoken (Binary32.toText_isToken hu.isFinite))

end VehicleDamage
