/-!
Blanks, and the ways a text is cut at them.
-/

namespace VehicleDamage.Text

/-- Characters with the property White_Space. -/
def isBlank (c : Char) : Bool :=
  let n := c.toNat
  (9 ≤ n && n ≤ 13) || n = 0x20 || n = 0x85 || n = 0xa0 || n = 0x1680 || (0x2000 ≤ n && n ≤ 0x200a) ||
    n = 0x2028 || n = 0x2029 || n = 0x202f || n = 0x205f || n = 0x3000

/-- Drop the characters at the end that satisfy `p`. -/
def dropEnd (p : Char → Bool) (cs : List Char) : List Char :=
  (cs.reverse.dropWhile p).reverse

def trim (cs : List Char) : List Char :=
  dropEnd isBlank (cs.dropWhile isBlank)

/-- Cut at every character that satisfies `p`; there is one piece more than there are cuts. -/
def splitWhere (p : Char → Bool) : List Char → List (List Char)
  | [] => [[]]
  | c :: cs =>
    if p c then [] :: splitWhere p cs
    else match splitWhere p cs with
      | [] => [[c]]
      | piece :: more => (c :: piece) :: more

/-- The runs of characters between blanks. -/
def words (cs : List Char) : List (List Char) :=
  (splitWhere isBlank cs).filter fun w => !w.isEmpty

/-- Cut at the first character that satisfies `p`. -/
def splitOnce? (p : Char → Bool) (cs : List Char) : Option (List Char × List Char) :=
  match cs.dropWhile fun c => !p c with
  | [] => none
  | _ :: after => some (cs.takeWhile fun c => !p c, after)

/-- A line without the carriage return at its end. -/
def dropReturn (cs : List Char) : List Char :=
  match cs.reverse with
  | '\r' :: before => before.reverse
  | _ => cs

/-- The lines of a text. A line feed ends a line, with the carriage return before it; what follows the last
one is a line only if it holds a character. -/
def lines (cs : List Char) : List (List Char) :=
  ending (splitWhere (· == '\n') cs)
where
  ending : List (List Char) → List (List Char)
    | [] => []
    | [last] => if last.isEmpty then [] else [last]
    | line :: more => dropReturn line :: ending more

/-- Equality up to the case of ASCII letters. -/
def eqIgnoreCase (a b : List Char) : Bool :=
  a.map Char.toLower == b.map Char.toLower

/-- The length in bytes. -/
def byteLength : List Char → Nat
  | [] => 0
  | c :: cs => c.utf8Size + byteLength cs

end VehicleDamage.Text
