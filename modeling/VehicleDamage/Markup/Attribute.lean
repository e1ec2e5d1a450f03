import VehicleDamage.Markup.Entity

/-!
The attributes of a start tag.
-/

namespace VehicleDamage.Markup

open Text

def isSpace (c : Char) : Bool :=
  c = ' ' || c = '\t' || c = '\r' || c = '\n'

def isQuote (c : Char) : Bool :=
  c = '"' || c = '\''

/-- Why attributes cannot be read. Positions are bytes from just after the `<` of the tag. -/
inductive AttributeFault where
  | expectedEquals (position : Nat)
  | expectedValue (position : Nat)
  | unquotedValue (position : Nat)
  | missingQuote (position : Nat) (quote : Char)
  | duplicated (position previous : Nat)
  | entity (fault : EntityFault)
deriving DecidableEq, Repr

def AttributeFault.message : AttributeFault → String
  | expectedEquals position =>
    s!"position {position}: attribute key must be directly followed by `=` or space"
  | expectedValue position => s!"position {position}: `=` must be followed by an attribute value"
  | unquotedValue position =>
    "position " ++ toString position ++ ": attribute value must be enclosed in `\"` or `'`"
  | missingQuote position quote => s!"position {position}: missing closing quote `{quote}` in attribute value"
  | duplicated position previous =>
    s!"position {position}: duplicated attribute, previous declaration at position {previous}"
  | entity fault => fault.message

/-- A key and its value as written; `start` is where the key begins. -/
structure RawAttribute where
  key : List Char
  value : List Char
  start : Nat
deriving DecidableEq, Repr

/-- What comes next in a tag. -/
inductive Scan where
  | finished
  | fault (fault : AttributeFault)
  | found (raw : RawAttribute) (rest : List Char)

/-- A value after an equals sign, up to the quote that opened it. -/
def scanValue (total : Nat) (key : List Char) (start : Nat) (cs : List Char) : Scan :=
  match cs.dropWhile isSpace with
  | [] => .fault (.expectedValue total)
  | quote :: text =>
    if isQuote quote then
      match text.dropWhile (· != quote) with
      | [] => .fault (.missingQuote total quote)
      | _ :: rest => .found ⟨key, text.takeWhile (· != quote), start⟩ rest
    else .fault (.unquotedValue (total - byteLength (quote :: text)))

/-- Read one attribute of a tag of `total` bytes, of which `cs` is left. A key runs to an equals sign or a
blank, but its first character may be anything. -/
def scanAttribute (total : Nat) (seen : List RawAttribute) (cs : List Char) : Scan :=
  match cs.dropWhile isSpace with
  | [] => .finished
  | first :: text =>
    let inKey := fun c => c != '=' && !isSpace c
    let key := first :: text.takeWhile inKey
    let start := total - byteLength (first :: text)
    match (text.dropWhile inKey).dropWhile isSpace with
    | '=' :: after => match seen.find? (·.key == key) with
      | some earlier => .fault (.duplicated start earlier.start)
      | none => scanValue total key start after
    | rest => .fault (.expectedEquals (total - byteLength rest))

theorem length_dropWhile_le (p : Char → Bool) (cs : List Char) : (cs.dropWhile p).length ≤ cs.length :=
  (List.dropWhile_sublist p).length_le

theorem length_lt_of_scanValue {total : Nat} {key : List Char} {start : Nat} {cs rest : List Char}
    {a : RawAttribute} (h : scanValue total key start cs = .found a rest) : rest.length < cs.length := by
  unfold scanValue at h
  split at h
  · cases h
  · next quote text hq =>
    split at h
    · split at h
      · cases h
      · next c r hr =>
        cases h
        have h1 := length_dropWhile_le isSpace cs
        have h2 := length_dropWhile_le (· != quote) text
        rw [hq] at h1; rw [hr] at h2
        simp only [List.length_cons] at h1 h2
        omega
    · cases h

theorem length_lt_of_scanAttribute {total : Nat} {seen : List RawAttribute} {cs rest : List Char}
    {a : RawAttribute} (h : scanAttribute total seen cs = .found a rest) : rest.length < cs.length := by
  unfold scanAttribute at h
  split at h
  · cases h
  · next first text hf =>
    dsimp only at h
    split at h
    · next after ha =>
      split at h
      · cases h
      · have h0 := length_lt_of_scanValue h
        have h1 := length_dropWhile_le isSpace cs
        have h2 := length_dropWhile_le isSpace (text.dropWhile fun c => c != '=' && !isSpace c)
        have h3 := length_dropWhile_le (fun c => c != '=' && !isSpace c) text
        rw [hf] at h1; rw [ha] at h2
        simp only [List.length_cons] at h1 h2
        omega
    · cases h

/-- An attribute with the references in its value resolved. -/
structure Attribute where
  raw : RawAttribute
  value : List Char
deriving DecidableEq, Repr

/-- All attributes in order; the first fault, of a key or of a value, ends the reading. -/
def readAttributes (total : Nat) (seen : List RawAttribute) (cs : List Char) :
    Except AttributeFault (List Attribute) :=
  match h : scanAttribute total seen cs with
  | .finished => .ok []
  | .fault fault => .error fault
  | .found raw rest => match unescape raw.value with
    | .error fault => .error (.entity fault)
    | .ok value =>
      have := length_lt_of_scanAttribute h
      (readAttributes total (seen ++ [raw]) rest).map (⟨raw, value⟩ :: ·)
termination_by cs.length

end VehicleDamage.Markup
