import VehicleDamage.Proofs.Text.Bytes

/-!
What the layout of a start tag points at lies in the tag: the end of its name, and after that a value in quotes.
-/

namespace VehicleDamage.Markup

open Text

theorem utf8Size_of_isQuote {quote : Char} (h : isQuote quote = true) : quote.utf8Size = 1 := by
  simp only [isQuote, Bool.or_eq_true, decide_eq_true_eq] at h
  rcases h with rfl | rfl <;> rfl

/-- A quoted value: what leads up to it, and the value between two of the same quote, which it does not have. -/
theorem quotedValue?_eq {offset start : Nat} {cs value rest : List Char}
    (h : quotedValue? offset cs = some (start, value, rest)) :
    ∃ lead quote, cs = lead ++ quote :: (value ++ quote :: rest) ∧ start = offset + byteLength lead + 1 ∧
      isQuote quote = true ∧ quote ∉ value := by
  rw [quotedValue?] at h
  split at h
  · cases h
  · next quote text hd =>
    obtain ⟨hs, -⟩ := eq_of_dropWhile hd
    split at h
    · next hq =>
      split at h
      · cases h
      · next c rest' hr =>
        obtain ⟨ht, hc⟩ := eq_of_dropWhile hr
        obtain rfl : c = quote := by simpa using hc
        cases h
        refine ⟨cs.takeWhile isGap, c, ?_, rfl, hq, fun hm => ?_⟩
        · rw [← ht]
          exact hs
        · simpa using List.all_eq_true.1 List.all_takeWhile _ hm
    · cases h

/-- A key that attributes go on with, and the blanks around it. -/
theorem passedKey_eq {cs text : List Char} {c : Char} (hd : cs.dropWhile isGap = c :: text) :
    cs = (cs.takeWhile isGap ++ ((c :: text).takeWhile fun c => !endsName c) ++
      ((c :: text).dropWhile fun c => !endsName c).takeWhile isGap) ++
      ((c :: text).dropWhile fun c => !endsName c).dropWhile isGap := by
  rw [List.append_assoc, List.takeWhile_append_dropWhile, List.append_assoc, List.takeWhile_append_dropWhile]
  exact (eq_of_dropWhile hd).1

/-- From `start` to `stop` there is a value between quotes, in a text that begins at `offset`. -/
def Quoted (offset : Nat) (cs : List Char) (start stop : Nat) : Prop :=
  ∃ lead quote value rest, cs = lead ++ quote :: (value ++ quote :: rest) ∧ isQuote quote = true ∧ quote ∉ value ∧
    start = offset + byteLength lead + 1 ∧ stop = start + byteLength value

theorem Quoted.append {offset start stop : Nat} {cs : List Char} {passed : List Char}
    (h : Quoted (offset + byteLength passed) cs start stop) : Quoted offset (passed ++ cs) start stop := by
  obtain ⟨lead, quote, value, rest, rfl, hq, hv, rfl, rfl⟩ := h
  exact ⟨passed ++ lead, quote, value, rest, by simp, hq, hv, by simp [Nat.add_assoc], by simp [Nat.add_assoc]⟩

/-- The value in quotes lies in the text, on whole characters. -/
theorem Quoted.within {before cs : List Char} {start stop : Nat} (h : Quoted (byteLength before) cs start stop) :
    Within (before ++ cs) start stop := by
  obtain ⟨lead, quote, value, rest, rfl, hq, -, rfl, rfl⟩ := h
  refine ⟨before ++ lead ++ [quote], value, quote :: rest, by simp, ?_, rfl⟩
  simp [utf8Size_of_isQuote hq, Nat.add_assoc]

/-- A style that is found while a tag is looked through has been known before, or stands in quotes further on. -/
theorem quoted_styleValue? {offset : Nat} {style found : Option (Nat × Nat)} {cs : List Char}
    (h : styleValue? offset style cs = some found) :
    found = style ∨ ∃ start stop, found = some (start, stop) ∧ Quoted offset cs start stop := by
  fun_induction styleValue? offset style cs with
  | case1 | case2 | case3 =>
      cases h
      exact .inl rfl
  | case4 => cases h
  | case5 offset style cs c text hd hc key afterKey keyStop nextFrom after valueFrom value rest hq valueStop style'
      he =>
      rename_i ih
      obtain ⟨lead, quote, ha, hfrom, hquote, hvalue⟩ := quotedValue?_eq hq
      let passed := cs.takeWhile isGap ++ key ++ afterKey.takeWhile isGap ++ '=' :: lead
      have hone := utf8Size_of_isQuote hquote
      have hfront : valueFrom = offset + byteLength passed + 1 := by
        simp [hfrom, passed, nextFrom, keyStop, show ('=' : Char).utf8Size = 1 from rfl]
        omega
      have hcs : cs = passed ++ quote :: (value ++ quote :: rest) := calc
        cs = (cs.takeWhile isGap ++ key ++ afterKey.takeWhile isGap) ++ '=' :: after := by
          rw [← he]
          exact passedKey_eq hd
        _ = passed ++ quote :: (value ++ quote :: rest) := by simp [passed, ha]
      rcases ih h with hf | ⟨start, stop, hf, hquoted⟩
      · rw [hf]
        simp only [style']
        split
        · exact .inr ⟨_, _, rfl, passed, quote, value, rest, hcs, hquote, hvalue, hfront, rfl⟩
        · exact .inl rfl
      · have hstop : valueStop + 1 = offset + byteLength (passed ++ quote :: (value ++ [quote])) := by
          simp [valueStop, hfront, hone]
          omega
        have hrest : cs = passed ++ quote :: (value ++ [quote]) ++ rest := by rw [hcs]; simp
        rw [hstop] at hquoted
        exact .inr ⟨start, stop, hf, hrest ▸ hquoted.append⟩
  | case6 offset style cs c text hd hc key afterKey keyStop nextFrom next after he hn =>
      rename_i ih
      refine (ih h).imp_right fun ⟨start, stop, hf, hquoted⟩ => ⟨start, stop, hf, ?_⟩
      have hnext : nextFrom = offset + byteLength (cs.takeWhile isGap ++ key ++ afterKey.takeWhile isGap) := by
        simp only [nextFrom, keyStop, byteLength_append]
        omega
      rw [passedKey_eq hd, he]
      rw [hnext] at hquoted
      exact hquoted.append

/-- A layout ends a name, which comes right after the `<`, and may give a value in quotes that comes after it. -/
theorem exists_name_of_layout? {tag : List Char} {layout : Layout} (h : layout? tag = some layout) :
    ∃ name rest, tag = '<' :: name ++ rest ∧ (∀ c ∈ name, endsName c = false) ∧
      layout.nameEnd = byteLength ('<' :: name) ∧
      ∀ start stop, layout.styleValue = some (start, stop) → Quoted layout.nameEnd rest start stop := by
  simp only [layout?] at h
  split at h
  · next cs =>
    obtain ⟨style, hs, rfl⟩ := Option.map_eq_some_iff.1 h
    refine ⟨cs.takeWhile fun c => !endsName c, cs.dropWhile fun c => !endsName c, ?_, fun c hc => ?_, rfl, ?_⟩
    · rw [List.cons_append, List.takeWhile_append_dropWhile]
    · simpa using List.all_eq_true.1 List.all_takeWhile c hc
    · intro start stop hstyle
      rcases quoted_styleValue? hs with hn | ⟨start', stop', hf, hquoted⟩
      · cases hn.symm.trans hstyle
      · cases hf.symm.trans hstyle
        exact hquoted
  · cases h

/-- Offsets of a style in the text around it. -/
def StyleWithin (text : List Char) (style : Option (Nat × Nat)) : Prop :=
  ∀ start stop, style = some (start, stop) → Within text start stop

/-- The end of the name and the value of the style lie in the tag, on whole characters. -/
theorem within_layout? {tag : List Char} {layout : Layout} (h : layout? tag = some layout) :
    Within tag layout.nameEnd layout.nameEnd ∧ StyleWithin tag layout.styleValue := by
  obtain ⟨name, rest, rfl, -, hname, hstyle⟩ := exists_name_of_layout? h
  refine ⟨⟨'<' :: name, [], rest, by simp, hname.symm, rfl⟩, fun start stop hs => ?_⟩
  have hquoted := hstyle start stop hs
  rw [hname] at hquoted
  exact hquoted.within

end VehicleDamage.Markup
