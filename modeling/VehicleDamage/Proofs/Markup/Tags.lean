import VehicleDamage.Proofs.Text.Bytes

/-!
Where the start tags of a document stand: each in a place of its own, in the order in which they are read.
-/

namespace VehicleDamage.Markup

open Text

theorem cutTag_eq {quote : Option Char} {cs content rest : List Char}
    (h : cutTag quote cs = some (content, rest)) : cs = content ++ '>' :: rest := by
  fun_induction cutTag quote cs generalizing content with
  | case1 => cases h
  | case2 c cs q ih =>
      obtain ⟨⟨content', rest'⟩, hc, he⟩ := Option.map_eq_some_iff.1 h
      cases he
      rw [ih hc, List.cons_append]
  | case3 cs =>
      cases h
      rfl
  | case4 c cs hc ih =>
      obtain ⟨⟨content', rest'⟩, hc, he⟩ := Option.map_eq_some_iff.1 h
      cases he
      rw [ih hc, List.cons_append]

theorem cutDeclared_eq {complete : List Char → Bool} {before cs content rest : List Char}
    (h : cutDeclared complete before cs = some (content, rest)) :
    before.reverse ++ cs = content ++ '>' :: rest := by
  fun_induction cutDeclared complete before cs with
  | case1 => cases h
  | case2 before c cs hc =>
      cases h
      simp only [Bool.and_eq_true, decide_eq_true_eq] at hc
      rw [hc.1]
  | case3 before c cs hc ih => rw [← ih h, List.reverse_cons, List.append_assoc, List.singleton_append]

theorem cutClosed_eq {cs content rest : List Char} {closed : Bool}
    (h : cutClosed cs = (content, closed, rest)) :
    ∃ used, cs = used ++ rest ∧ byteLength used = closedSize content closed := by
  rw [cutClosed] at h
  split at h
  · next hd =>
    cases h
    have hs := List.takeWhile_append_dropWhile (p := fun c => c != '>') (l := cs)
    rw [hd] at hs
    exact ⟨_, hs.symm, rfl⟩
  · next c rest' hd =>
    obtain ⟨hs, hc⟩ := eq_of_dropWhile hd
    obtain rfl : c = '>' := by simpa using hc
    cases h
    refine ⟨cs.takeWhile (fun c => c != '>') ++ ['>'], ?_, ?_⟩
    · rwa [List.append_assoc, List.singleton_append]
    · rw [byteLength_append]
      rfl

/-- A token takes up the text it is cut from, a tag that of its content and the `>`. -/
theorem cutToken_eq {cs rest : List Char} {token : Token} {size : Nat}
    (h : cutToken cs = .token token size rest) :
    ∃ used, cs = used ++ rest ∧ byteLength used = size ∧
      ∀ content, token = .tag content → used = content ++ ['>'] := by
  unfold cutToken at h
  split at h
  · cases h
  · simp only [cutBang] at h
    split at h
    · split at h
      · cases h
      · split at h
        · cases h
        · next content rest' hc =>
          split at h
          · cases h
          · cases h
            exact ⟨content ++ ['>'], by simpa using cutDeclared_eq hc, by rw [byteLength_append]; rfl, nofun⟩
    · cases h
  · cases h
    obtain ⟨used, hu, hl⟩ := cutClosed_eq (rfl : cutClosed _ = _)
    exact ⟨used, hu, hl, nofun⟩
  · dsimp only at h
    split at h
    · cases h
      obtain ⟨used, hu, hl⟩ := cutClosed_eq (rfl : cutClosed _ = _)
      exact ⟨used, hu, hl, nofun⟩
    · cases h
  · split at h
    · cases h
    · next content rest' hc =>
      cases h
      refine ⟨content ++ ['>'], by simpa using cutTag_eq hc, by rw [byteLength_append]; rfl, ?_⟩
      intro content' he
      cases he
      rfl

/-- The start tag that a piece is, as it stands in the document. -/
def Piece.startTag? : Piece → Option (Element × List Char)
  | .opening element => some (element, '<' :: element.content ++ ['>'])
  | .empty element => some (element, '<' :: element.content ++ ['/', '>'])
  | _ => none

theorem shape_of_startTag? {piece : Piece} {element : Element} {tag : List Char}
    (h : piece.startTag? = some (element, tag)) :
    ∃ inner, tag = '<' :: inner ∧ element.content.length < inner.length := by
  cases piece with
  | opening element' =>
      cases h
      exact ⟨_, rfl, by simp⟩
  | empty element' =>
      cases h
      exact ⟨_, rfl, by simp⟩
  | closing => cases h
  | passedOver => cases h
  | broken => cases h

/-- Start tags one after another in a text whose first byte is at `offset`. An element stops where its tag does. -/
inductive Laid : Nat → List Char → List (Element × List Char) → Prop
  | nil (offset : Nat) (cs : List Char) : Laid offset cs []
  | cons {offset : Nat} {gap tag rest : List Char} {element : Element} {more : List (Element × List Char)}
      (stop_eq : element.stop = offset + byteLength gap + byteLength tag)
      (laid : Laid element.stop rest more) :
      Laid offset (gap ++ tag ++ rest) ((element, tag) :: more)

theorem Laid.skip {offset : Nat} {cs skipped : List Char} {tags : List (Element × List Char)}
    (h : Laid (offset + byteLength skipped) cs tags) : Laid offset (skipped ++ cs) tags := by
  cases h with
  | nil => exact .nil _ _
  | @cons _ gap tag rest element more stop_eq laid =>
      have hs : element.stop = offset + byteLength (skipped ++ gap) + byteLength tag := by
        rw [stop_eq, byteLength_append, Nat.add_assoc offset]
      have hc := Laid.cons hs laid
      simpa only [List.append_assoc] using hc

/-- The start tag that a token is read as stops where the token does. -/
theorem startTag?_piece {opened opened' : List (List Char)} {start stop : Nat} {token : Token} {piece : Piece}
    (h : token.piece opened start stop = (piece, opened')) :
    (∃ content element, token = .tag content ∧ piece.startTag? = some (element, '<' :: content ++ ['>']) ∧
      element.stop = stop) ∨ piece.startTag? = none := by
  cases token with
  | passedOver =>
      cases h
      exact .inr rfl
  | tag content =>
      left
      simp only [Token.piece] at h
      split at h
      · next hl =>
        cases h
        obtain ⟨inner, rfl⟩ := List.getLast?_eq_some_iff.1 hl
        exact ⟨_, .ofContent (inner ++ ['/']).dropLast stop, rfl,
          by simp [Piece.startTag?, Element.ofContent], rfl⟩
      · cases h
        exact ⟨content, _, rfl, rfl, rfl⟩
  | endTag content closed =>
      right
      simp only [Token.piece] at h
      split at h
      · cases h
        rfl
      · split at h
        · cases h
          rfl
        · cases h
          rfl

theorem laid_pieces (opened : List (List Char)) (offset : Nat) (cs : List Char) :
    Laid offset cs ((pieces opened offset cs).filterMap Piece.startTag?) := by
  fun_induction pieces opened offset cs with
  | case1 => exact .nil _ _
  | case2 => exact .nil _ _
  | case3 => exact .nil _ _
  | case4 => exact .nil _ _
  | case5 opened offset cs c markup hd start token size rest hc _ piece opened' _ hp ih =>
      obtain ⟨hs, hb⟩ := eq_of_dropWhile hd
      obtain rfl : c = '<' := by simpa using hb
      obtain ⟨used, rfl, hsize, htag⟩ := cutToken_eq hc
      have hstart : start + size =
          offset + byteLength (cs.takeWhile fun c => c != '<') + byteLength ('<' :: used) := by
        rw [byteLength_cons, hsize, show ('<' : Char).utf8Size = 1 from rfl]
        omega
      rcases startTag?_piece hp with ⟨content, element, ht, hst, hstop⟩ | hst
      · rw [List.filterMap_cons_some hst, hs, ← hstop]
        rw [← hstop] at ih hstart
        rw [htag content ht] at hstart ⊢
        simpa using Laid.cons hstart ih
      · rw [List.filterMap_cons_none hst, hs]
        rw [hstart, Nat.add_assoc, ← byteLength_append] at ih
        have hl := ih.skip
        rw [byteLength_append, ← Nat.add_assoc, ← hstart] at hl
        simpa using hl

/-- The start tags that are read of a document stand in it, after the byte order mark if there is one.
Offsets do not count the mark. -/
theorem laid_read (document : List Char) :
    ∃ mark text, document = mark ++ text ∧ byteLength mark ≤ 3 ∧
      Laid 0 text ((read document).filterMap Piece.startTag?) := by
  simp only [read]
  split
  · exact ⟨[], [], rfl, Nat.zero_le 3, .nil _ _⟩
  · next c cs =>
    split
    · next hc => exact ⟨[c], cs, rfl, hc ▸ Nat.le_refl 3, laid_pieces [] 0 cs⟩
    · exact ⟨[], c :: cs, rfl, Nat.zero_le 3, laid_pieces [] 0 (c :: cs)⟩

end VehicleDamage.Markup
