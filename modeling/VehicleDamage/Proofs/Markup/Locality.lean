import VehicleDamage.Proofs.Markup.Tags

/-!
A token is cut without regard to what follows it. Only an end tag that nothing closes reaches to the end of the text.
-/

namespace VehicleDamage.Markup

open Text

theorem cutTag_local {quote : Option Char} {cs content rest : List Char}
    (h : cutTag quote cs = some (content, rest)) (rest' : List Char) :
    cutTag quote (content ++ '>' :: rest') = some (content, rest') := by
  fun_induction cutTag quote cs generalizing content with
  | case1 => cases h
  | case2 c cs q ih =>
      obtain ⟨⟨content', rest⟩, hc, he⟩ := Option.map_eq_some_iff.1 h
      cases he
      rw [List.cons_append, cutTag, ih hc]
      rfl
  | case3 cs =>
      cases h
      rfl
  | case4 c cs hc ih =>
      obtain ⟨⟨content', rest⟩, ht, he⟩ := Option.map_eq_some_iff.1 h
      cases he
      rw [List.cons_append, cutTag, if_neg hc, ih ht]
      rfl

theorem cutDeclared_local {complete : List Char → Bool} {before cs content rest : List Char}
    (h : cutDeclared complete before cs = some (content, rest)) : ∃ read, cs = read ++ '>' :: rest ∧
      content = before.reverse ++ read ∧
      ∀ rest', cutDeclared complete before (read ++ '>' :: rest') = some (content, rest') := by
  fun_induction cutDeclared complete before cs with
  | case1 => cases h
  | case2 before c cs hc =>
      cases h
      simp only [Bool.and_eq_true, decide_eq_true_eq] at hc
      obtain ⟨rfl, hcomplete⟩ := hc
      refine ⟨[], rfl, (List.append_nil _).symm, fun rest' => ?_⟩
      rw [List.nil_append, cutDeclared, if_pos (by simp [hcomplete])]
  | case3 before c cs hc ih =>
      obtain ⟨read, rfl, hcontent, hlocal⟩ := ih h
      refine ⟨c :: read, rfl, ?_, fun rest' => ?_⟩
      · rw [hcontent, List.reverse_cons, List.append_assoc, List.singleton_append]
      · rw [List.cons_append, cutDeclared, if_neg hc, hlocal]

theorem passedOver_of_cutBang {cs rest : List Char} {token : Token} {size : Nat}
    (h : cutBang cs = .token token size rest) : token = .passedOver := by
  unfold cutBang at h
  split at h
  · split at h
    · cases h
    · split at h
      · cases h
      · split at h
        · cases h
        · cases h
          rfl
  · cases h

theorem cutBang_local {cs rest : List Char} {token : Token} {size : Nat}
    (h : cutBang ('!' :: cs) = .token token size rest) (rest' : List Char) :
    ∃ used, '!' :: cs = '!' :: used ++ rest ∧ cutBang ('!' :: used ++ rest') = .token token size rest' := by
  unfold cutBang at h
  split at h
  · next _ c _ heq =>
    obtain ⟨-, rfl⟩ := List.cons.inj heq
    split at h
    · cases h
    · next kind hkind =>
      split at h
      · cases h
      · next content rest hcut =>
        split at h
        · cases h
        · next hrefuse =>
          cases h
          obtain ⟨read, hread, rfl, hlocal⟩ := cutDeclared_local hcut
          match content with
          | [] => cases hread
          | [_] =>
            obtain ⟨-, hread⟩ := List.cons.inj hread
            obtain ⟨rfl, -⟩ := List.cons.inj hread
            cases hkind
          | _ :: c' :: content =>
            simp only [List.cons_append, List.cons.injEq] at hread
            obtain ⟨rfl, rfl, rfl⟩ := hread
            refine ⟨c :: content ++ ['>'], by simp, ?_⟩
            have hl := hlocal rest'
            simp only [List.cons_append, List.append_assoc, List.nil_append] at hl ⊢
            rw [cutBang, hkind]
            dsimp only
            rw [hl]
            dsimp only
            rw [hrefuse]
  · cases h

theorem cutClosed_local {cs content rest : List Char} {closed : Bool}
    (h : cutClosed cs = (content, closed, rest)) : ∃ used, cs = used ++ rest ∧ used.head? = cs.head? ∧
      ∀ rest', (rest = [] → rest' = []) → cutClosed (used ++ rest') = (content, closed, rest') := by
  rw [cutClosed] at h
  split at h
  · next hd =>
    cases h
    refine ⟨cs, (List.append_nil cs).symm, rfl, fun rest' hr => ?_⟩
    rw [hr rfl, List.append_nil, cutClosed, hd]
  · next c after hd =>
    obtain ⟨hs, hc⟩ := eq_of_dropWhile hd
    obtain rfl : c = '>' := by simpa using hc
    cases h
    refine ⟨cs.takeWhile (· != '>') ++ ['>'], by simpa using hs, ?_, fun rest' _ => ?_⟩
    · have hh := congrArg List.head? hs
      rw [List.head?_append] at hh ⊢
      exact hh.symm
    have hall : ∀ c ∈ cs.takeWhile (· != '>'), (c != '>') = true := List.all_eq_true.1 List.all_takeWhile
    obtain ⟨ht, hd'⟩ : (cs.takeWhile (· != '>') ++ '>' :: rest').takeWhile (· != '>') = cs.takeWhile (· != '>') ∧
        (cs.takeWhile (· != '>') ++ '>' :: rest').dropWhile (· != '>') = '>' :: rest' :=
      cut_append hall (by simp)
    rw [List.append_assoc, List.singleton_append, cutClosed, ht, hd']

/-- A character that markup other than a start tag begins with. -/
def marksOther (c : Char) : Bool :=
  c = '!' || c = '/' || c = '?'

/-- A start tag is cut at the first `>` outside quotes. -/
theorem cutToken_tag_iff {cs content rest : List Char} {size : Nat} :
    cutToken cs = .token (.tag content) size rest ↔
      (∀ c ∈ cs.head?, marksOther c = false) ∧ cutTag none cs = some (content, rest) ∧
        size = byteLength content + 1 := by
  have htag : ∀ cs', (∀ c ∈ cs'.head?, marksOther c = false) → cs' ≠ [] →
      (cutToken cs' = .token (.tag content) size rest ↔
        cutTag none cs' = some (content, rest) ∧ size = byteLength content + 1) := by
    intro cs' hh hne
    unfold cutToken
    split
    · exact absurd rfl hne
    · cases hh _ rfl
    · cases hh _ rfl
    · cases hh _ rfl
    · split
      · next hc => simp [hc]
      · next found rest' hc =>
        simp only [hc, Cut.token.injEq, Token.tag.injEq, Option.some.injEq, Prod.mk.injEq]
        exact ⟨fun ⟨he, hs, hr⟩ => ⟨⟨he, hr⟩, he ▸ hs.symm⟩, fun ⟨⟨he, hr⟩, hs⟩ => ⟨he, he ▸ hs.symm, hr⟩⟩
  constructor
  · intro h
    have hh : ∀ c ∈ cs.head?, marksOther c = false := by
      intro c hc
      cases hm : marksOther c with
      | false => rfl
      | true =>
          exfalso
          cases cs with
          | nil => cases hc
          | cons c' cs =>
              cases hc
              simp only [marksOther, Bool.or_eq_true, decide_eq_true_eq] at hm
              rcases hm with (rfl | rfl) | rfl
              · cases passedOver_of_cutBang h
              · cases h
              · simp only [cutToken] at h
                split at h <;> cases h
    have hne : cs ≠ [] := by
      rintro rfl
      cases h
    exact ⟨hh, (htag cs hh hne).1 h⟩
  · rintro ⟨hh, ht, hs⟩
    have hne : cs ≠ [] := by
      rintro rfl
      cases ht
    exact (htag cs hh hne).2 ⟨ht, hs⟩

/-- A token is cut alike whatever follows it, if nothing follows where nothing did. -/
theorem cutToken_local {cs rest : List Char} {token : Token} {size : Nat}
    (h : cutToken cs = .token token size rest) : ∃ used, cs = used ++ rest ∧
      ∀ rest', (rest = [] → rest' = []) → cutToken (used ++ rest') = .token token size rest' := by
  have ht := h
  unfold cutToken at h
  split at h
  · cases h
  · next cs =>
    obtain ⟨used, hu, -⟩ := cutBang_local h rest
    refine ⟨'!' :: used, hu, fun rest' _ => ?_⟩
    obtain ⟨used', hu', hcut⟩ := cutBang_local h rest'
    rw [hu, List.append_cancel_right_eq] at hu'
    rw [hu']
    exact hcut
  · next cs =>
    cases h
    obtain ⟨used, hu, hh, hlocal⟩ := cutClosed_local (rfl : cutClosed ('/' :: cs) = _)
    refine ⟨used, hu, fun rest' hr => ?_⟩
    obtain ⟨used, rfl⟩ := List.head?_eq_some_iff.1 hh
    have hl := hlocal rest' hr
    rw [List.cons_append] at hl ⊢
    rw [cutToken, hl]
  · next cs =>
    dsimp only at h
    split at h
    · next hc =>
      cases h
      obtain ⟨used, hu, hh, hlocal⟩ := cutClosed_local (rfl : cutClosed ('?' :: cs) = _)
      refine ⟨used, hu, fun rest' hr => ?_⟩
      obtain ⟨used, rfl⟩ := List.head?_eq_some_iff.1 hh
      have hl := hlocal rest' hr
      rw [List.cons_append] at hl ⊢
      rw [cutToken, hl]
      exact if_pos hc
    · cases h
  · split at h
    · cases h
    · next content rest hc =>
      cases h
      refine ⟨content ++ ['>'], by simpa using cutTag_eq hc, fun rest' _ => ?_⟩
      have hh := (cutToken_tag_iff.1 ht).1
      rw [cutTag_eq hc, List.head?_append] at hh
      rw [List.append_assoc, List.singleton_append, cutToken_tag_iff, List.head?_append]
      exact ⟨hh, cutTag_local hc rest', rfl⟩

end VehicleDamage.Markup
