import VehicleDamage.Proofs.Markup.Pieces

/-!
Tags as brackets. The brackets of a text are there whatever encloses what; a text whose pieces are all sound and that
leaves nothing open has brackets that are properly nested, but for an end tag that the end of the text may cut off.
-/

namespace VehicleDamage.Markup

open Text

/-- What a tag opens or closes. An end tag that the text ends in has no `>` and is not closed. -/
inductive Bracket where
  | start (element : Element)
  | empty (element : Element)
  | finish (name : List Char) (closed : Bool)

namespace Bracket

def element? : Bracket → Option Element
  | start element => some element
  | empty element => some element
  | finish _ _ => none

/-- An end tag with its `>`. -/
def completed : Bracket → Bracket
  | finish name _ => finish name true
  | bracket => bracket

end Bracket

/-- The bracket that a token is, if it is a tag. -/
def Token.bracket? (stop : Nat) : Token → Option Bracket
  | .passedOver => none
  | .tag content =>
    if content.getLast? = some '/' then some (.empty (.ofContent content.dropLast stop))
    else some (.start (.ofContent content stop))
  | .endTag content closed => some (.finish (endName content) closed)

/-- The brackets of a text whose first byte is at `offset`: those of the tags among its tokens. -/
inductive Bracketed : Nat → List Char → List Bracket → Prop
  | text {cs : List Char} (offset : Nat) (free : '<' ∉ cs) : Bracketed offset cs []
  | stray {gap : List Char} (offset : Nat) (free : '<' ∉ gap) : Bracketed offset (gap ++ ['<']) []
  | token {offset stop size : Nat} {gap markup rest : List Char} {token : Token} {more : List Bracket}
      (free : '<' ∉ gap) (cut : cutToken markup = .token token size rest)
      (stop_eq : stop = offset + byteLength gap + 1 + size) (bracketed : Bracketed stop rest more) :
      Bracketed offset (gap ++ '<' :: markup) ((token.bracket? stop).toList ++ more)

/-- A document without the byte order mark that may precede it. -/
def body (document : List Char) : List Char :=
  if document.head? = some byteOrderMark then document.tail else document

/-- Start tags and end tags in pairs of one name, each pair around what is nested in turn. -/
inductive Nested : List Bracket → Prop
  | nil : Nested []
  | empty {rest : List Bracket} (element : Element) (nested : Nested rest) : Nested (.empty element :: rest)
  | pair {inner rest : List Bracket} (element : Element) (within : Nested inner) (nested : Nested rest) :
      Nested (.start element :: inner ++ .finish element.name true :: rest)

/-- Brackets that are nested once the last of them, which may be cut off, is completed. -/
structure NestedToEnd (brackets : List Bracket) : Prop where
  nested : Nested (brackets.map Bracket.completed)
  last : ∀ name, .finish name false ∈ brackets → ∃ before, brackets = before ++ [.finish name false]

/-- What closes the elements that are open, innermost first. -/
inductive Unwinds : List (List Char) → List Bracket → Prop
  | nil {brackets : List Bracket} (nested : Nested brackets) : Unwinds [] brackets
  | cons {name : List Char} {opened : List (List Char)} {inner rest : List Bracket} (within : Nested inner)
      (unwinds : Unwinds opened rest) : Unwinds (name :: opened) (inner ++ .finish name true :: rest)

/-- Brackets and the pieces they are read as, from some elements that are open to others. -/
inductive Follows : List (List Char) → List Bracket → List Piece → List (List Char) → Prop
  | nil (opened : List (List Char)) : Follows opened [] [] opened
  | passedOver {opened final : List (List Char)} {brackets : List Bracket} {pieces : List Piece}
      (follows : Follows opened brackets pieces final) : Follows opened brackets (.passedOver :: pieces) final
  | start {opened final : List (List Char)} {brackets : List Bracket} {pieces : List Piece} (element : Element)
      (follows : Follows (element.name :: opened) brackets pieces final) :
      Follows opened (.start element :: brackets) (.opening element :: pieces) final
  | empty {opened final : List (List Char)} {brackets : List Bracket} {pieces : List Piece} (element : Element)
      (follows : Follows opened brackets pieces final) :
      Follows opened (.empty element :: brackets) (.empty element :: pieces) final
  | finish {opened final : List (List Char)} {brackets : List Bracket} {pieces : List Piece} (name : List Char)
      (closed : Bool) (follows : Follows opened brackets pieces final) :
      Follows (name :: opened) (.finish name closed :: brackets) (.closing name :: pieces) final

/-! ### Nesting -/

theorem Nested.append {xs ys : List Bracket} (hx : Nested xs) (hy : Nested ys) : Nested (xs ++ ys) := by
  induction hx with
  | nil => exact hy
  | empty element nested ih => exact .empty element ih
  | @pair inner rest element within nested ihw ih =>
      have hp := Nested.pair element within ih
      simpa using hp

/-- Brackets that are nested are closed. -/
theorem Nested.completed_eq {xs : List Bracket} (h : Nested xs) : xs.map Bracket.completed = xs := by
  induction h with
  | nil => rfl
  | empty element nested ih => rw [List.map_cons, ih]; rfl
  | pair element within nested ihw ih => simp [ihw, ih, Bracket.completed]

theorem Nested.not_cut {xs : List Bracket} (h : Nested xs) (name : List Char) : .finish name false ∉ xs := by
  rw [← h.completed_eq]
  intro hm
  obtain ⟨bracket, -, hb⟩ := List.mem_map.1 hm
  cases bracket <;> cases hb

theorem NestedToEnd.nested_iff {xs : List Bracket} (h : NestedToEnd xs) :
    Nested xs ↔ ∀ name, .finish name false ∉ xs := by
  refine ⟨Nested.not_cut, fun hcut => ?_⟩
  have hmap : xs.map Bracket.completed = xs := by
    refine (List.map_congr_left fun bracket hm => ?_).trans (List.map_id xs)
    cases bracket with
    | start | empty => rfl
    | finish name closed =>
        cases closed with
        | true => rfl
        | false => exact absurd hm (hcut name)
  exact hmap ▸ h.nested

theorem Unwinds.prepend {opened : List (List Char)} {xs ys : List Bracket} (hx : Nested xs)
    (hy : Unwinds opened ys) : Unwinds opened (xs ++ ys) := by
  cases hy with
  | nil nested => exact .nil (hx.append nested)
  | @cons name opened inner rest within unwinds =>
      rw [← List.append_assoc]
      exact .cons (hx.append within) unwinds

/-- A start tag is closed by what closes its element. -/
theorem Unwinds.start {element : Element} {opened : List (List Char)} {xs : List Bracket}
    (h : Unwinds (element.name :: opened) xs) : Unwinds opened (.start element :: xs) := by
  cases h with
  | @cons _ _ inner rest within unwinds =>
      have hp := Unwinds.prepend (.pair element within .nil) unwinds
      simpa using hp

namespace Follows

variable {opened final : List (List Char)} {brackets : List Bracket} {pieces : List Piece}

/-- Brackets that leave nothing open close what was open. -/
theorem unwinds (h : Follows opened brackets pieces final) (hf : final = []) :
    Unwinds opened (brackets.map Bracket.completed) := by
  induction h with
  | nil opened =>
      rw [hf]
      exact .nil .nil
  | passedOver follows ih => exact ih hf
  | start element follows ih => exact .start (ih hf)
  | empty element follows ih => exact .prepend (.empty element .nil) (ih hf)
  | finish name closed follows ih => exact @Unwinds.cons name _ [] _ .nil (ih hf)

theorem nested (h : Follows [] brackets pieces []) : Nested (brackets.map Bracket.completed) := by
  cases h.unwinds rfl with
  | nil nested => exact nested

/-- The elements of the brackets are those of the pieces. -/
theorem elements_eq (h : Follows opened brackets pieces final) :
    brackets.filterMap Bracket.element? = (pieces.filterMap Piece.startTag?).map Prod.fst := by
  induction h with
  | nil => rfl
  | passedOver follows ih => exact ih
  | start element follows ih => exact congrArg (element :: ·) ih
  | empty element follows ih => exact congrArg (element :: ·) ih
  | finish name closed follows ih => exact ih

/-- Pieces that are followed can be followed in part. -/
theorem split {before after : List Piece} (h : Follows opened brackets (before ++ after) final) :
    ∃ middle xs ys, brackets = xs ++ ys ∧ Follows opened xs before middle ∧ Follows middle ys after final := by
  induction before generalizing opened brackets with
  | nil => exact ⟨opened, [], brackets, rfl, .nil opened, h⟩
  | cons piece before ih =>
      cases h with
      | passedOver follows =>
          obtain ⟨middle, xs, ys, rfl, hb, ha⟩ := ih follows
          exact ⟨middle, xs, ys, rfl, .passedOver hb, ha⟩
      | start element follows =>
          obtain ⟨middle, xs, ys, rfl, hb, ha⟩ := ih follows
          exact ⟨middle, _ :: xs, ys, rfl, .start element hb, ha⟩
      | empty element follows =>
          obtain ⟨middle, xs, ys, rfl, hb, ha⟩ := ih follows
          exact ⟨middle, _ :: xs, ys, rfl, .empty element hb, ha⟩
      | finish name closed follows =>
          obtain ⟨middle, xs, ys, rfl, hb, ha⟩ := ih follows
          exact ⟨middle, _ :: xs, ys, rfl, .finish name closed hb, ha⟩

end Follows

/-! ### Brackets of a text -/

theorem gap_inj {gap gap' markup markup' : List Char} (h : '<' ∉ gap) (h' : '<' ∉ gap')
    (he : gap ++ '<' :: markup = gap' ++ '<' :: markup') : gap = gap' ∧ markup = markup' := by
  obtain ⟨ht, hd⟩ := cut_gap h markup
  obtain ⟨ht', hd'⟩ := cut_gap h' markup'
  rw [he] at ht hd
  exact ⟨ht.symm.trans ht', (List.cons.inj (hd.symm.trans hd')).2⟩

theorem eq_nil_of_endOfText {cs : List Char} (h : cutToken cs = .endOfText) : cs = [] := by
  unfold cutToken at h
  split at h
  · rfl
  · simp only [cutBang] at h
    repeat' split at h
    all_goals cases h
  · cases h
  · dsimp only at h
    split at h <;> cases h
  · split at h <;> cases h

/-- Nothing follows an end tag without its `>`. -/
theorem eq_nil_of_cut {cs content rest : List Char} {size : Nat}
    (h : cutToken cs = .token (.endTag content false) size rest) : rest = [] := by
  unfold cutToken at h
  split at h
  · cases h
  · simp only [cutBang] at h
    repeat' split at h
    all_goals cases h
  · next cs =>
    cases hd : ('/' :: cs).dropWhile (· != '>') with
    | nil =>
        simp only [cutClosed, hd] at h
        cases h
        rfl
    | cons c more =>
        simp only [cutClosed, hd] at h
        cases h
  · dsimp only at h
    split at h <;> cases h
  · split at h <;> cases h

namespace Bracketed

/-- A text has its brackets in one way. -/
theorem unique {offset : Nat} {cs : List Char} {xs ys : List Bracket} (hx : Bracketed offset cs xs)
    (hy : Bracketed offset cs ys) : xs = ys := by
  -- The gap before the first `<` is determined, and with it the token that follows.
  induction hx generalizing ys with
  | text offset free =>
      cases hy with
      | text => rfl
      | stray => rfl
      | token => exact absurd (by simp) free
  | @stray gap offset free =>
      generalize hcs : gap ++ ['<'] = cs at hy
      cases hy with
      | text => rfl
      | stray => rfl
      | token free' cut =>
          obtain ⟨-, rfl⟩ := gap_inj free free' hcs
          cases cut
  | @token offset stop size gap markup rest token more free cut stop_eq bracketed ih =>
      generalize hcs : gap ++ '<' :: markup = cs at hy
      cases hy with
      | text offset free' => exact absurd (by simp [← hcs]) free'
      | stray offset free' =>
          obtain ⟨-, rfl⟩ := gap_inj free free' hcs
          cases cut
      | token free' cut' stop_eq' bracketed' =>
          obtain ⟨rfl, rfl⟩ := gap_inj free free' hcs
          rw [cut] at cut'
          cases cut'
          rw [← stop_eq] at stop_eq'
          rw [stop_eq', ih (stop_eq' ▸ bracketed')]

/-- Only the last of the brackets may be cut off. -/
theorem last_of_cut {offset : Nat} {cs : List Char} {xs : List Bracket} (h : Bracketed offset cs xs)
    {name : List Char} (hm : .finish name false ∈ xs) : ∃ before, xs = before ++ [.finish name false] := by
  induction h with
  | text => cases hm
  | stray => cases hm
  | @token offset stop size gap markup rest token more free cut stop_eq bracketed ih =>
      rcases List.mem_append.1 hm with hm | hm
      · cases token with
        | passedOver => cases hm
        | tag content =>
            rw [Token.bracket?] at hm
            split at hm <;> cases List.mem_singleton.1 hm
        | endTag content closed =>
            cases List.mem_singleton.1 hm
            obtain rfl := eq_nil_of_cut cut
            rw [bracketed.unique (.text stop List.not_mem_nil)]
            exact ⟨[], rfl⟩
      · obtain ⟨before, rfl⟩ := ih hm
        exact ⟨_, (List.append_assoc _ _ _).symm⟩

end Bracketed

/-- A sound piece goes on from the elements that are open as the bracket of its token does. -/
theorem Follows.token {opened opened' final : List (List Char)} {start stop : Nat} {token : Token} {piece : Piece}
    {brackets : List Bracket} {pieces : List Piece} (hp : token.piece opened start stop = (piece, opened'))
    (hb : ∀ fault, piece ≠ .broken fault) (h : Follows opened' brackets pieces final) :
    Follows opened ((token.bracket? stop).toList ++ brackets) (piece :: pieces) final := by
  cases token with
  | passedOver =>
      cases hp
      exact .passedOver h
  | tag content =>
      simp only [Token.piece] at hp
      rw [Token.bracket?]
      split at hp
      · next hl =>
        rw [if_pos hl]
        cases hp
        exact .empty _ h
      · next hl =>
        rw [if_neg hl]
        cases hp
        exact .start _ h
  | endTag content closed =>
      simp only [Token.piece] at hp
      split at hp
      · cases hp
        exact absurd rfl (hb _)
      · split at hp
        · next hn =>
          cases hp
          subst hn
          exact .finish _ closed h
        · cases hp
          exact absurd rfl (hb _)

theorem read_eq_body (document : List Char) : read document = pieces [] 0 (body document) := by
  cases document with
  | nil => exact (pieces_of_notMem List.not_mem_nil [] 0).symm
  | cons c cs =>
      simp only [read, body, List.head?_cons, Option.some_inj, List.tail_cons]
      split <;> rfl

/-- A text of sound pieces has brackets that they follow. -/
theorem exists_bracketed {opened : List (List Char)} {offset : Nat} {cs : List Char}
    (h : ∀ fault, .broken fault ∉ pieces opened offset cs) :
    ∃ brackets final, Bracketed offset cs brackets ∧ Follows opened brackets (pieces opened offset cs) final := by
  -- A text ends, ends in a stray `<`, breaks off, or goes on after one more token.
  fun_induction pieces opened offset cs with
  | case1 opened offset cs hd =>
      have hfree : '<' ∉ cs := fun hm => by
        simpa using List.dropWhile_eq_nil_iff.1 hd '<' hm
      exact ⟨[], opened, .text offset hfree, .nil opened⟩
  | case2 opened offset cs c markup hd hc =>
      obtain ⟨gap, rfl, hg, -⟩ := exists_gap hd
      rw [eq_nil_of_endOfText hc]
      exact ⟨[], opened, .stray offset hg, .nil opened⟩
  | case3 | case4 => exact absurd List.mem_cons_self (h _)
  | case5 opened offset cs c markup hd start token size rest hc _ piece opened' hb hp ih =>
      obtain ⟨hsound, hmore⟩ : (∀ fault, piece ≠ .broken fault) ∧
          ∀ fault, .broken fault ∉ pieces opened' (start + size) rest := by
        simpa [forall_and, eq_comm] using h
      obtain ⟨gap, rfl, hg, ht⟩ := exists_gap hd
      obtain ⟨brackets, final, hbrackets, hfollows⟩ := ih hmore
      exact ⟨_, final, .token hg hc (by simp only [start, ht]) hbrackets, hfollows.token hp hsound⟩

end VehicleDamage.Markup
