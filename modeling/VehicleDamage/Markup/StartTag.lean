import VehicleDamage.Markup.Attribute

/-!
Where things lie in a start tag: the end of the element's name and the value of its `style`.
-/

namespace VehicleDamage.Markup

open Text

/-- Byte offsets within a start tag, counted from its `<`. The style's value lies between its quotes. -/
structure Layout where
  nameEnd : Nat
  styleValue : Option (Nat × Nat)
deriving DecidableEq, Repr

/-- ASCII blanks: space, tab, line feed, form feed, carriage return. -/
def isGap (c : Char) : Bool :=
  c = ' ' || c = '\t' || c = '\n' || c = '\x0c' || c = '\r'

def endsName (c : Char) : Bool :=
  isGap c || c = '>' || c = '/' || c = '='

/-- A value in quotes after `offset`, where its text begins, and what follows the closing quote. -/
def quotedValue? (offset : Nat) (cs : List Char) : Option (Nat × List Char × List Char) :=
  match cs.dropWhile isGap with
  | [] => none
  | quote :: text =>
    if isQuote quote then
      match text.dropWhile (· != quote) with
      | [] => none
      | _ :: rest =>
        some (offset + byteLength (cs.takeWhile isGap) + 1, text.takeWhile (· != quote), rest)
    else none

theorem length_lt_of_quotedValue? {offset start : Nat} {cs value rest : List Char}
    (h : quotedValue? offset cs = some (start, value, rest)) : rest.length < cs.length := by
  unfold quotedValue? at h
  split at h
  · cases h
  · next quote text hq =>
    split at h
    · split at h
      · cases h
      · next c r hr =>
        cases h
        have h1 := length_dropWhile_le isGap cs
        have h2 := length_dropWhile_le (· != quote) text
        rw [hq] at h1; rw [hr] at h2
        simp only [List.length_cons] at h1 h2
        omega
    · cases h

/-- A key that no equals sign follows has a character. -/
theorem length_passedKey {cs text after : List Char} {c next : Char} (hd : cs.dropWhile isGap = c :: text)
    (hc : ¬(c = '>' ∨ c = '/'))
    (he : ((c :: text).dropWhile fun c => !endsName c).dropWhile isGap = next :: after) (hn : ¬next = '=') :
    (next :: after).length < (c :: text).length := by
  have hgap : isGap c = false := by
    have := List.head?_dropWhile_not isGap cs
    rw [hd] at this
    simpa using this
  by_cases hequals : c = '='
  · subst hequals
    simp [endsName, isGap] at he
    exact absurd he.1.symm hn
  · have hname : endsName c = false := by
      simp only [not_or] at hc
      simp [endsName, hgap, hc.1, hc.2, hequals]
    rw [List.dropWhile_cons_of_pos (by simp [hname])] at he
    have h1 := length_dropWhile_le (fun c => !endsName c) text
    have h2 := length_dropWhile_le isGap (text.dropWhile fun c => !endsName c)
    rw [he] at h2
    simp only [List.length_cons] at h2 ⊢
    omega

/-- Look through the attributes of a tag from `offset` on for the last value of `style`. A key without an equals
sign is passed over; a value that is not in quotes makes the tag unreadable. -/
def styleValue? (offset : Nat) (style : Option (Nat × Nat)) (cs : List Char) : Option (Option (Nat × Nat)) :=
  match hd : cs.dropWhile isGap with
  | [] => some style
  | c :: text =>
    if hc : c = '>' ∨ c = '/' then some style
    else
      let key := (c :: text).takeWhile fun c => !endsName c
      let afterKey := (c :: text).dropWhile fun c => !endsName c
      let keyStop := offset + byteLength (cs.takeWhile isGap) + byteLength key
      let nextFrom := keyStop + byteLength (afterKey.takeWhile isGap)
      match he : afterKey.dropWhile isGap with
      | [] => some style
      | next :: after =>
        if hn : next = '=' then
          match hq : quotedValue? (nextFrom + 1) after with
          | none => none
          | some (valueFrom, value, rest) =>
            have : rest.length < cs.length := by
              have h1 := length_dropWhile_le isGap cs
              have h2 := length_lt_of_quotedValue? hq
              have h3 := length_dropWhile_le isGap afterKey
              have h4 : afterKey.length ≤ (c :: text).length := length_dropWhile_le _ _
              rw [hd] at h1; rw [he] at h3
              simp only [List.length_cons] at h1 h3 h4
              omega
            let valueStop := valueFrom + byteLength value
            let style := if key = "style".toList then some (valueFrom, valueStop) else style
            styleValue? (valueStop + 1) style rest
        else
          have : (next :: after).length < cs.length := by
            have h1 := length_dropWhile_le isGap cs
            have h2 := length_passedKey hd hc he hn
            rw [hd] at h1
            omega
          styleValue? nextFrom style (next :: after)
termination_by cs.length

/-- The layout of a start tag. -/
def layout? (tag : List Char) : Option Layout :=
  match tag with
  | '<' :: cs =>
    let nameEnd := 1 + byteLength (cs.takeWhile fun c => !endsName c)
    (styleValue? nameEnd none (cs.dropWhile fun c => !endsName c)).map fun style => ⟨nameEnd, style⟩
  | _ => none

end VehicleDamage.Markup
