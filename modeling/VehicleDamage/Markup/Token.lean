import VehicleDamage.Markup.Attribute

/-!
What stands between a `<` and the end of its markup.
-/

namespace VehicleDamage.Markup

open Text

/-- Markup that begins with `<!`. -/
inductive Declared where
  | comment
  | characterData
  | documentType
deriving DecidableEq, Repr

/-- Why markup is refused. -/
inductive Refusal where
  | unfinished (what : String)
  | strayBang (symbol : Char)
  | emptyDocumentType
  | mismatchedEnd (expected found : String)
deriving DecidableEq, Repr

def Refusal.message : Refusal → String
  | unfinished what => s!"Unexpected EOF during reading {what}"
  | strayBang symbol =>
    "Only Comment (`--`), CDATA (`[CDATA[`) and DOCTYPE (`DOCTYPE`) nodes can start with a '!', but symbol `"
      ++ symbol.toString ++ "` found"
  | emptyDocumentType => "DOCTYPE declaration must not be empty"
  | mismatchedEnd expected found => "Expecting </" ++ expected ++ "> found </" ++ found ++ ">"

def Declared.title : Declared → String
  | comment => "Comment"
  | characterData => "CData"
  | documentType => "DOCTYPE"

/-- A token's text, without the `<` and `>` around it. -/
inductive Token where
  | tag (content : List Char)
  | endTag (content : List Char) (closed : Bool)
  | passedOver
deriving DecidableEq, Repr

/-- The outcome of cutting one token: `size` counts the bytes it takes up after its `<`, and a refusal names how
far after the `<` it is reported. -/
inductive Cut where
  | endOfText
  | refused (refusal : Refusal) (distance : Nat)
  | token (token : Token) (size : Nat) (rest : List Char)

/-- Cut a tag at the first `>` outside quotes. -/
def cutTag (quote : Option Char) : List Char → Option (List Char × List Char)
  | [] => none
  | c :: cs => match quote with
    | some q => (cutTag (if c = q then none else some q) cs).map fun r => (c :: r.1, r.2)
    | none =>
      if c = '>' then some ([], cs)
      else (cutTag (if isQuote c then some c else none) cs).map fun r => (c :: r.1, r.2)

/-- Cut at the first `>` whose preceding text, given backwards, satisfies `complete`. -/
def cutDeclared (complete : List Char → Bool) (before : List Char) : List Char → Option (List Char × List Char)
  | [] => none
  | c :: cs =>
    if c = '>' && complete before then some (before.reverse, cs)
    else cutDeclared complete (c :: before) cs

/-- Whether a `>` ends the markup, judged by what precedes it, given backwards from the `!` on. -/
def Declared.isComplete : Declared → List Char → Bool
  | comment, '-' :: '-' :: before => before.length > 2
  | characterData, ']' :: ']' :: _ => true
  | documentType, before => before.count '<' == before.count '>'
  | _, _ => false

/-- Which markup the character after `!` announces. -/
def Declared.announced? (c : Char) : Option Declared :=
  if c = '[' then some characterData
  else if c = '-' then some comment
  else if c = 'D' ∨ c = 'd' then some documentType
  else none

/-- Whether the markup opens as its kind demands; the last two in any case of letters. -/
def Declared.isOpened : Declared → List Char → Bool
  | comment, content => content.take 3 == "!--".toList
  | characterData, content => eqIgnoreCase (content.take 8) "![CDATA[".toList
  | documentType, content => eqIgnoreCase (content.take 8) "!DOCTYPE".toList

def refuseDeclared (kind : Declared) (content : List Char) : Option Refusal :=
  if !kind.isOpened content then some (.unfinished kind.title)
  else if kind = .documentType ∧ (content.drop 8).all isSpace then some .emptyDocumentType
  else none

def cutBang (cs : List Char) : Cut :=
  match cs with
  | _ :: c :: _ => match Declared.announced? c with
    | none => .refused (.strayBang (leadByte c)) 0
    | some kind => match cutDeclared kind.isComplete [] cs with
      | none => .refused (.unfinished kind.title) 0
      | some (content, rest) => match refuseDeclared kind content with
        | some refusal => .refused refusal (byteLength content + 1)
        | none => .token .passedOver (byteLength content + 1) rest
  | _ => .refused (.unfinished "Bang") 0

/-- Cut at the first `>`, or at the end of the text; tells whether there was one. -/
def cutClosed (cs : List Char) : List Char × Bool × List Char :=
  match cs.dropWhile (· != '>') with
  | [] => (cs.takeWhile (· != '>'), false, [])
  | _ :: rest => (cs.takeWhile (· != '>'), true, rest)

def closedSize (content : List Char) (closed : Bool) : Nat :=
  byteLength content + if closed then 1 else 0

/-- Cut the token that follows a `<`. -/
def cutToken (cs : List Char) : Cut :=
  match cs with
  | [] => .endOfText
  | '!' :: _ => cutBang cs
  | '/' :: _ =>
    let (content, closed, rest) := cutClosed cs
    .token (.endTag content closed) (closedSize content closed) rest
  | '?' :: _ =>
    let (content, closed, rest) := cutClosed cs
    if byteLength content > 2 ∧ content.getLast? = some '?' then
      .token .passedOver (closedSize content closed) rest
    else
      .refused (.unfinished "XmlDecl") (if closed then 1 else 0)
  | _ => match cutTag none cs with
    | none => .refused (.unfinished "Element") 0
    | some (content, rest) => .token (.tag content) (byteLength content + 1) rest

theorem length_le_of_cutTag {quote : Option Char} {cs content rest : List Char}
    (h : cutTag quote cs = some (content, rest)) : rest.length ≤ cs.length := by
  induction cs generalizing quote content with
  | nil => simp [cutTag] at h
  | cons c cs ih =>
    unfold cutTag at h
    split at h
    · obtain ⟨r, hr, he⟩ := Option.map_eq_some_iff.1 h
      cases he
      exact Nat.le_succ_of_le (ih hr)
    · split at h
      · cases h; simp
      · obtain ⟨r, hr, he⟩ := Option.map_eq_some_iff.1 h
        cases he
        exact Nat.le_succ_of_le (ih hr)

theorem length_le_of_cutDeclared {complete : List Char → Bool} {before cs content rest : List Char}
    (h : cutDeclared complete before cs = some (content, rest)) : rest.length ≤ cs.length := by
  induction cs generalizing before with
  | nil => simp [cutDeclared] at h
  | cons c cs ih =>
    unfold cutDeclared at h
    split at h
    · cases h; simp
    · exact Nat.le_succ_of_le (ih h)

theorem length_cutClosed_le (cs : List Char) : (cutClosed cs).2.2.length ≤ cs.length := by
  have h := length_dropWhile_le (· != '>') cs
  unfold cutClosed
  split
  · simp
  · next c rest hr => rw [hr] at h; simp only [List.length_cons] at h; simp only; omega

theorem length_le_of_cutBang {cs rest : List Char} {t : Token} {size : Nat}
    (h : cutBang cs = .token t size rest) : rest.length ≤ cs.length := by
  unfold cutBang at h
  split at h
  · split at h
    · cases h
    · split at h
      · cases h
      · next content rest' hc =>
        split at h
        · cases h
        · cases h; exact length_le_of_cutDeclared hc
  · cases h

theorem length_le_of_cutToken {cs rest : List Char} {t : Token} {size : Nat}
    (h : cutToken cs = .token t size rest) : rest.length ≤ cs.length := by
  unfold cutToken at h
  split at h
  · cases h
  · exact length_le_of_cutBang h
  · cases h; exact length_cutClosed_le _
  · dsimp only at h
    split at h
    · cases h; exact length_cutClosed_le _
    · cases h
  · split at h
    · cases h
    · next content rest' hc => cases h; exact length_le_of_cutTag hc

end VehicleDamage.Markup
