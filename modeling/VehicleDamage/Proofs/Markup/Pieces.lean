import Mathlib.Data.List.TakeWhile
import VehicleDamage.Proofs.Markup.Locality

/-!
How the pieces of a text follow from its tokens. Where a piece stands tells in its offsets only.
-/

namespace VehicleDamage.Markup

open Text

theorem pieces_of_notMem {cs : List Char} (h : '<' ∉ cs) (opened : List (List Char)) (offset : Nat) :
    pieces opened offset cs = [] := by
  have hd : cs.dropWhile (· != '<') = [] :=
    List.dropWhile_eq_nil_iff.2 fun c hc => bne_iff_ne.2 fun he => h (he ▸ hc)
  rw [pieces]
  split
  · rfl
  · next hd' => rw [hd] at hd'; cases hd'

/-- Up to its first `<` a text is a gap. -/
theorem exists_gap {cs markup : List Char} {c : Char} (h : cs.dropWhile (· != '<') = c :: markup) :
    ∃ gap, cs = gap ++ '<' :: markup ∧ '<' ∉ gap ∧ cs.takeWhile (· != '<') = gap := by
  obtain ⟨hcs, hc⟩ := eq_of_dropWhile h
  obtain rfl : c = '<' := by simpa using hc
  exact ⟨_, hcs, fun hm => by simpa using List.mem_takeWhile_imp hm, rfl⟩

theorem cut_gap {gap : List Char} (h : '<' ∉ gap) (markup : List Char) :
    (gap ++ '<' :: markup).takeWhile (· != '<') = gap ∧ (gap ++ '<' :: markup).dropWhile (· != '<') = '<' :: markup :=
  cut_append (fun c hc => bne_iff_ne.2 fun he => h (he ▸ hc)) (by simp)

/-- The pieces from a `<` on are those of the token that follows it, and of what follows the token. -/
theorem pieces_open {gap : List Char} (h : '<' ∉ gap) (opened : List (List Char)) (offset : Nat)
    (markup : List Char) : pieces opened offset (gap ++ '<' :: markup) =
      let start := offset + byteLength gap + 1
      match cutToken markup with
      | .endOfText => []
      | .refused refusal distance => [.broken ⟨refusal, start + distance⟩]
      | .token token size rest => match token.piece opened start (start + size) with
        | (.broken fault, _) => [.broken fault]
        | (piece, opened) => piece :: pieces opened (start + size) rest := by
  obtain ⟨ht, hd⟩ := cut_gap h markup
  rw [pieces]
  split
  · next hd' => rw [hd] at hd'; cases hd'
  · next hd' =>
    rw [hd] at hd'
    cases hd'
    rw [ht]
    dsimp only
    split
    · next hc => rw [hc]
    · next hc => rw [hc]
    · next hc => exact hc ▸ rfl

theorem pieces_token {opened opened' : List (List Char)} {offset size : Nat} {gap markup rest : List Char}
    {token : Token} {piece : Piece} (hg : '<' ∉ gap) (hc : cutToken markup = .token token size rest)
    (hp : token.piece opened (offset + byteLength gap + 1) (offset + byteLength gap + 1 + size) = (piece, opened'))
    (hb : ∀ fault, piece ≠ .broken fault) : pieces opened offset (gap ++ '<' :: markup) =
      piece :: pieces opened' (offset + byteLength gap + 1 + size) rest := by
  rw [pieces_open hg, hc]
  dsimp only
  rw [hp]
  cases piece with
  | broken fault => exact absurd rfl (hb fault)
  | opening | empty | closing | passedOver => rfl

/-- A piece other than a start tag is the same wherever it stands, unless it is broken. -/
theorem piece_local {opened opened' : List (List Char)} {start stop : Nat} {token : Token} {piece : Piece}
    (h : token.piece opened start stop = (piece, opened')) (hs : piece.startTag? = none)
    (hb : ∀ fault, piece ≠ .broken fault) (start' stop' : Nat) :
    token.piece opened start' stop' = (piece, opened') := by
  cases token with
  | passedOver => exact h
  | tag content =>
      simp only [Token.piece] at h
      split at h <;> cases h <;> cases hs
  | endTag content closed =>
      simp only [Token.piece] at h ⊢
      split at h
      · cases h
        exact absurd rfl (hb _)
      · split at h
        · next he =>
          rw [if_pos he]
          exact h
        · cases h
          exact absurd rfl (hb _)

/-- The piece of an element whose tag ends in a slash, or does not. -/
def Piece.ofElement (slash : List Char) (e : Element) : Piece :=
  if slash = [] then .opening e else .empty e

/-- The elements open after such a tag. -/
def openAfter (slash : List Char) (e : Element) (opened : List (List Char)) : List (List Char) :=
  if slash = [] then e.name :: opened else opened

/-- What stands in a tag is the content of its element, and a slash if it ends in one. -/
theorem exists_slash (raw : List Char) : ∃ content slash, raw = content ++ slash ∧ (slash = [] ∨ slash = ['/']) ∧
    (slash = [] → content.getLast? ≠ some '/') := by
  by_cases h : raw.getLast? = some '/'
  · obtain ⟨content, rfl⟩ := List.getLast?_eq_some_iff.1 h
    exact ⟨content, ['/'], rfl, .inr rfl, nofun⟩
  · exact ⟨raw, [], (List.append_nil raw).symm, .inl rfl, fun _ => h⟩

theorem piece_tag {content slash : List Char} (hs : slash = [] ∨ slash = ['/'])
    (hl : slash = [] → content.getLast? ≠ some '/') (opened : List (List Char)) (start stop : Nat) :
    (Token.tag (content ++ slash)).piece opened start stop =
      (.ofElement slash (.ofContent content stop), openAfter slash (.ofContent content stop) opened) := by
  rcases hs with rfl | rfl
  · rw [List.append_nil]
    exact if_neg (hl rfl)
  · simp [Token.piece, Piece.ofElement, openAfter]

theorem startTag?_ofElement (slash : List Char) (e : Element) :
    ∃ tag, (Piece.ofElement slash e).startTag? = some (e, tag) := by
  unfold Piece.ofElement
  split <;> exact ⟨_, rfl⟩

/-- A byte order mark is passed over, whatever the text after it that begins alike. -/
theorem exists_mark (document : List Char) : ∃ mark text, document = mark ++ text ∧ byteLength mark ≤ 3 ∧
    ∀ out : List Char, out.head? = text.head? → read (mark ++ out) = pieces [] 0 out := by
  have hempty : read [] = pieces [] 0 [] := (pieces_of_notMem List.not_mem_nil [] 0).symm
  cases document with
  | nil =>
      refine ⟨[], [], rfl, Nat.zero_le _, fun out ho => ?_⟩
      rw [List.head?_eq_none_iff.1 ho]
      exact hempty
  | cons c cs =>
      by_cases hc : c = byteOrderMark
      · exact ⟨[c], cs, rfl, by rw [hc]; decide, fun out _ => if_pos hc⟩
      · refine ⟨[], c :: cs, rfl, Nat.zero_le _, fun out ho => ?_⟩
        obtain ⟨more, rfl⟩ := List.head?_eq_some_iff.1 ho
        exact if_neg hc

end VehicleDamage.Markup
