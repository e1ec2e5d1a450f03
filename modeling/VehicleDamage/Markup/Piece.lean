import VehicleDamage.Markup.Token

/-!
A document as the sequence of its pieces of markup, with end tags checked against the elements that are open.
-/

namespace VehicleDamage.Markup

open Text

/-- A start tag or an empty tag. `content` is what stands between `<` and `>`, without the slash of an empty
tag; `stop` is the offset just past the `>`. -/
structure Element where
  name : List Char
  content : List Char
  stop : Nat
deriving DecidableEq, Repr

structure Fault where
  refusal : Refusal
  offset : Nat
deriving DecidableEq, Repr

def Fault.message (f : Fault) : String :=
  s!"xml error near byte {f.offset}: " ++ f.refusal.message

inductive Piece where
  | opening (element : Element)
  | empty (element : Element)
  | closing (name : List Char)
  | passedOver
  | broken (fault : Fault)
deriving DecidableEq, Repr

namespace Element

/-- The name runs to the first blank. -/
def ofContent (content : List Char) (stop : Nat) : Element :=
  ⟨content.takeWhile fun c => !isSpace c, content, stop⟩

/-- The attributes, or the first fault among them. -/
def attributes (e : Element) : Except AttributeFault (List Attribute) :=
  readAttributes (byteLength e.content) [] (e.content.drop e.name.length)

end Element

/-- The name in an end tag: blanks after it do not count, unless there is nothing else. -/
def endName (content : List Char) : List Char :=
  let name := dropEnd isSpace (content.drop 1)
  if name.isEmpty then content.drop 1 else name

/-- The piece a token is when the elements of `opened` are open, innermost first, and the elements open after
it. The token's `<` ends at `offset` and the token itself at `stop`. -/
def Token.piece (opened : List (List Char)) (offset stop : Nat) : Token → Piece × List (List Char)
  | .passedOver => (.passedOver, opened)
  | .tag content =>
    if content.getLast? = some '/' then (.empty (.ofContent content.dropLast stop), opened)
    else
      let element := Element.ofContent content stop
      (.opening element, element.name :: opened)
  | .endTag content closed =>
    let refuse (expected found : List Char) : Piece :=
      .broken ⟨.mismatchedEnd (String.ofList expected) (String.ofList found), offset + if closed then 1 else 0⟩
    match opened with
    | [] => (refuse [] (content.drop 1), [])
    | innermost :: outer =>
      if endName content = innermost then (.closing innermost, outer)
      else (refuse innermost (endName content), outer)

/-- The pieces of the text from `offset` on; nothing follows a broken one. -/
def pieces (opened : List (List Char)) (offset : Nat) (cs : List Char) : List Piece :=
  match hd : cs.dropWhile (· != '<') with
  | [] => []
  | _ :: markup =>
    let start := offset + byteLength (cs.takeWhile (· != '<')) + 1
    match hc : cutToken markup with
    | .endOfText => []
    | .refused refusal distance => [.broken ⟨refusal, start + distance⟩]
    | .token token size rest =>
      have : rest.length < cs.length := by
        have h1 := length_dropWhile_le (· != '<') cs
        have h2 := length_le_of_cutToken hc
        rw [hd] at h1
        simp only [List.length_cons] at h1
        omega
      match token.piece opened start (start + size) with
      | (.broken fault, _) => [.broken fault]
      | (piece, opened) => piece :: pieces opened (start + size) rest
termination_by cs.length

/-- The mark that may precede a document. -/
def byteOrderMark : Char := '\ufeff'

/-- A document's pieces. A byte order mark in front is passed over, and offsets do not count it. -/
def read (document : List Char) : List Piece :=
  match document with
  | [] => []
  | c :: cs => if c = byteOrderMark then pieces [] 0 cs else pieces [] 0 (c :: cs)

end VehicleDamage.Markup
