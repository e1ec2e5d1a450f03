import VehicleDamage.Json.Fault
import VehicleDamage.Text.Blank
import VehicleDamage.Text.Hexadecimal

/-!
The steps of reading a JSON text.
-/

namespace VehicleDamage.Json

open Text

abbrev Reader := StateT Cursor (Except Fault)

variable {α : Type}

namespace Reader

def peek : Reader (Option Char) := do
  return (← get).rest.head?

def isDigitNext : Reader Bool := do
  return ((← peek).map Char.isDigit).getD false

/-- Pass over the next character, if there is one. -/
def advance : Reader Unit :=
  modify fun cursor => match cursor.rest with
    | [] => cursor
    | c :: cs => ⟨cs, cursor.offset + c.utf8Size⟩

/-- Fault after `extra` more bytes. -/
def failAfter (extra : Nat) (cause : Cause) : Reader α := do
  throw ⟨cause, .at ((← get).offset + extra)⟩

/-- Fault where the reading stands. -/
def failHere (cause : Cause) : Reader α :=
  failAfter 0 cause

/-- Fault at a byte that was looked at, which counts as read; at the end there is none. -/
def failAtPeeked (cause : Cause) : Reader α := do
  failAfter (if (← get).rest.isEmpty then 0 else 1) cause

/-- Fault to be placed by the container. -/
def failPending (cause : Cause) : Reader α := do
  throw ⟨cause, .pending (← get)⟩

/-- Pass over ASCII characters that satisfy `p`. -/
def takeAscii (p : Char → Bool) : Reader (List Char) := do
  let cursor ← get
  let taken := cursor.rest.takeWhile p
  set (⟨cursor.rest.dropWhile p, cursor.offset + taken.length⟩ : Cursor)
  return taken

def isBlank (c : Char) : Bool :=
  c = ' ' || c = '\n' || c = '\t' || c = '\r'

/-- Pass over blanks and look at what follows. -/
def peekToken : Reader (Option Char) := do
  let _ ← takeAscii isBlank
  peek

/-- The letters that complete a word. -/
def word : List Char → Reader Unit
  | [] => return
  | expected :: more => do
    match ← peek with
    | none => failHere .endInValue
    | some c =>
      if c = expected then
        advance
        word more
      else failAfter 1 .expectedIdent

end Reader

/-! ### Texts -/

/-- The four hexadecimal digits of an escape. Four bytes are taken before they are judged. -/
def hexUnit (cs : List Char) (offset : Nat) : Except Fault (Nat × List Char) :=
  match (cs.take 4).mapM hexValue? with
  | some [a, b, c, d] => .ok (4096 * a + 256 * b + 16 * c + d, cs.drop 4)
  | _ =>
    if byteLength cs < 4 then .error ⟨.endInString, .at (offset + byteLength cs)⟩
    else .error ⟨.invalidEscape, .at (offset + 4)⟩

def isLeadingSurrogate (n : Nat) : Bool := 0xd800 ≤ n && n ≤ 0xdbff

def isTrailingSurrogate (n : Nat) : Bool := 0xdc00 ≤ n && n ≤ 0xdfff

/-- The character that a pair of surrogates stands for. -/
def joinSurrogates (leading trailing : Nat) : Char :=
  Char.ofNat (0x10000 + (leading - 0xd800) * 0x400 + (trailing - 0xdc00))

/-- The second half of a character beyond the basic plane: another escape has to follow at once. -/
def trailingUnit (leading : Nat) (cs : List Char) (offset : Nat) : Except Fault (Char × List Char) :=
  match cs with
  | [] => .error ⟨.endInString, .at offset⟩
  | backslash :: after =>
    if backslash != '\\' then .error ⟨.endOfHexEscape, .at (offset + 1)⟩
    else match after with
      | [] => .error ⟨.endInString, .at (offset + 1)⟩
      | mark :: digits =>
        if mark != 'u' then .error ⟨.endOfHexEscape, .at (offset + 2)⟩
        else match hexUnit digits (offset + 2) with
          | .error fault => .error fault
          | .ok (n, rest) =>
            if isTrailingSurrogate n then
              .ok (joinSurrogates leading n, rest)
            else .error ⟨.loneSurrogate, .at (offset + 6)⟩

def plainEscape? (c : Char) : Option Char :=
  [('"', '"'), ('\\', '\\'), ('/', '/'), ('b', '\x08'), ('f', '\x0c'), ('n', '\n'), ('r', '\r'),
    ('t', '\t')].lookup c

/-- The character an escape stands for; `cs` follows the backslash. A text that is passed over need not be made
of characters, so there a surrogate may stand alone. -/
def escape (strict : Bool) (cs : List Char) (offset : Nat) : Except Fault (Char × List Char) :=
  match cs with
  | [] => .error ⟨.endInString, .at offset⟩
  | c :: after =>
    if c = 'u' then
      match hexUnit after (offset + 1) with
      | .error fault => .error fault
      | .ok (n, rest) =>
        if !strict then .ok (Char.ofNat n, rest)
        else if isTrailingSurrogate n then .error ⟨.loneSurrogate, .at (offset + 5)⟩
        else if isLeadingSurrogate n then trailingUnit n rest (offset + 5)
        else .ok (Char.ofNat n, rest)
    else match plainEscape? c with
      | some e => .ok (e, after)
      | none => .error ⟨.invalidEscape, .at (offset + 1)⟩

theorem length_le_of_hexUnit {cs rest : List Char} {offset n : Nat} (h : hexUnit cs offset = .ok (n, rest)) :
    rest.length ≤ cs.length := by
  unfold hexUnit at h
  split at h
  · cases h; simp
  · split at h <;> cases h

theorem length_le_of_trailingUnit {cs rest : List Char} {leading offset : Nat} {c : Char}
    (h : trailingUnit leading cs offset = .ok (c, rest)) : rest.length ≤ cs.length := by
  unfold trailingUnit at h
  split at h
  · cases h
  · split at h
    · cases h
    · split at h
      · cases h
      · split at h
        · cases h
        · split at h
          · cases h
          · next hu =>
            split at h
            · simp only [Except.ok.injEq, Prod.mk.injEq] at h
              have := length_le_of_hexUnit hu
              simp only [List.length_cons, ← h.2]; omega
            · cases h

theorem length_lt_of_escape {strict : Bool} {cs rest : List Char} {offset : Nat} {c : Char}
    (h : escape strict cs offset = .ok (c, rest)) : rest.length < cs.length := by
  unfold escape at h
  split at h
  · cases h
  · split at h
    · split at h
      · cases h
      · next hu =>
        have hl := length_le_of_hexUnit hu
        split at h
        · cases h; simp only [List.length_cons]; omega
        · split at h
          · cases h
          · split at h
            · have := length_le_of_trailingUnit h
              simp only [List.length_cons]; omega
            · cases h; simp only [List.length_cons]; omega
    · split at h
      · cases h; simp
      · cases h

/-- The characters of a text up to its closing quote. -/
def textBody (strict : Bool) (cs : List Char) (offset : Nat) : Except Fault (List Char × Cursor) :=
  match cs with
  | [] => .error ⟨.endInString, .at offset⟩
  | c :: after =>
    if c = '"' then .ok ([], ⟨after, offset + 1⟩)
    else if c = '\\' then
      match he : escape strict after (offset + 1) with
      | .error fault => .error fault
      | .ok (e, rest) =>
        have := length_lt_of_escape he
        (textBody strict rest (offset + 1 + (byteLength after - byteLength rest))).map fun r => (e :: r.1, r.2)
    else if c.toNat < 0x20 then .error ⟨.controlCharacter, .at (offset + if strict then 1 else 0)⟩
    else (textBody strict after (offset + c.utf8Size)).map fun r => (c :: r.1, r.2)
termination_by cs.length

namespace Reader

/-- A text after its opening quote. -/
def restOfText (strict : Bool) : Reader String := fun cursor =>
  (textBody strict cursor.rest cursor.offset).map fun r => (String.ofList r.1, r.2)

end Reader

end VehicleDamage.Json
