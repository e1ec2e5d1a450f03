import VehicleDamage.Proofs.ReportFormat
import VehicleDamage.Proofs.Style.Shown
import VehicleDamage.Proofs.Text.Words

/-!
The lines of the console: what a line says hangs on its words alone, and each command has a line that says it.
-/

namespace VehicleDamage

open Text

namespace Binary32

variable {x : Binary32}

/-- Infinities are read back from their texts too. -/
theorem ofLiteral?_toText_of_ne_nan (h : x ≠ .nan) : ofLiteral? x.toText = some x := by
  cases x with
  | nan => exact absurd rfl h
  | infinite negative => cases negative <;> decide
  | finite => exact ofLiteral?_toText rfl

theorem isWord_toText (h : x ≠ .nan) : IsWord x.toText.toList := by
  constructor
  · intro he
    have hr := ofLiteral?_toText_of_ne_nan h
    rw [String.toList_eq_nil_iff.1 he] at hr
    cases hr
  · cases x with
    | nan => exact absurd rfl h
    | infinite negative => cases negative <;> simp [toText, isBlank]
    | finite => exact fun c hc => isBlank_of_isToken (toText_isToken rfl c hc)

end Binary32

namespace Command

/-! ### What a line says -/

/-- The verb that a word names, in any case. -/
def Verb.named? (word : List Char) : Option Verb :=
  verbs.lookup (String.ofList (word.map Char.toLower))

/-- How many arguments a verb looks at, with those that may be missing. An event's text is not cut into arguments. -/
def Verb.capacity? : Verb → Option Nat
  | register | reset | evict => some 1
  | damage | set => some 3
  | impact => some 5
  | render => some 2
  | status => some 0
  | event => none

theorem eq_of_take {α β : Type} {f : List α → β} {n : Nat} (hf : ∀ as, f as = f (as.take n)) {as bs : List α}
    (h : as.take n = bs.take n) : f as = f bs := by
  rw [hf as, h, ← hf bs]

theorem vehicleOnly_take (make : String → Command) (arguments : List String) :
    vehicleOnly make arguments = vehicleOnly make (arguments.take 1) := by
  cases arguments <;> rfl

theorem parseDamage_take : ∀ arguments, parseDamage arguments = parseDamage (arguments.take 3)
  | [] | [_] | [_, _] | _ :: _ :: _ :: _ => rfl

theorem parseSet_take : ∀ arguments, parseSet arguments = parseSet (arguments.take 3)
  | [] | [_] | [_, _] | _ :: _ :: _ :: _ => rfl

theorem parseImpact_take : ∀ arguments, parseImpact arguments = parseImpact (arguments.take 5)
  | [] | [_] | [_, _] | [_, _, _] | [_, _, _, _] | _ :: _ :: _ :: _ :: _ :: _ => rfl

theorem parseRender_take : ∀ arguments, parseRender arguments = parseRender (arguments.take 2)
  | [] | [_] | _ :: _ :: _ => rfl

/-- A verb looks at no more words than it has room for. -/
theorem Verb.parse_congr {verb : Verb} {n : Nat} (hn : verb.capacity? = some n) {rest rest' : List Char}
    (h : (words rest).take n = (words rest').take n) : verb.parse rest = verb.parse rest' := by
  have ht : ((words rest).map String.ofList).take n = ((words rest').map String.ofList).take n := by
    rw [← List.map_take, h, List.map_take]
  cases verb with
  | event => cases hn
  | status => rfl
  | register | reset | evict =>
      cases hn
      exact eq_of_take (vehicleOnly_take _) ht
  | damage =>
      cases hn
      exact eq_of_take parseDamage_take ht
  | set =>
      cases hn
      exact eq_of_take parseSet_take ht
  | impact =>
      cases hn
      exact eq_of_take parseImpact_take ht
  | render =>
      cases hn
      exact eq_of_take parseRender_take ht

theorem Verb.exists_capacity {verb : Verb} (h : verb ≠ .event) : ∃ n, verb.capacity? = some n := by
  cases verb with
  | event => exact absurd rfl h
  | register | damage | set | impact | reset | evict | render | status => exact ⟨_, rfl⟩

/-- Only the word `event` itself names the verb of events. -/
theorem Verb.named?_event {word : List Char} (h : named? word = some .event) :
    eqIgnoreCase word "event".toList = true := by
  obtain ⟨before, after, hv, -⟩ := List.lookup_eq_some_iff.1 h
  have hm : (String.ofList (word.map Char.toLower), Verb.event) ∈ verbs := by
    rw [hv]
    exact List.mem_append_right _ List.mem_cons_self
  have hw : String.ofList (word.map Char.toLower) = "event" := by simpa [verbs] using hm
  have hl := congrArg String.toList hw
  rw [String.toList_ofList] at hl
  rw [eqIgnoreCase, hl]
  decide

/-- The first word of a line is cut off as its verb. -/
theorem splitVerb_spaced {word line : List Char} {arguments : List (List Char)} (h : Spaced (word :: arguments) line) :
    ∃ rest, splitVerb (trim line) = (word.map Char.toLower, rest) ∧ words rest = arguments := by
  have hs : Spaced (word :: arguments) (trim line) := words_eq_iff.1 ((words_trim line).trans h.words_eq)
  have ht := isTrimmed_trim line
  generalize trim line = cs at hs ht
  cases hs with
  | @word gap _ rest _ blank isWord ends spaced =>
      rw [List.append_assoc] at ht
      obtain rfl := ht.gap_eq_nil blank
      rw [List.nil_append, splitVerb]
      cases rest with
      | nil =>
          rw [List.append_nil, splitOnce?_of_forall isWord.free]
          exact ⟨[], rfl, spaced.words_eq⟩
      | cons d rest =>
          have hd : isBlank d = true := ends d rfl
          rw [splitOnce?_append isWord.free hd]
          exact ⟨trim rest, rfl, by rw [words_trim, ← spaced.words_eq, words_cons_blank hd]⟩

/-- A line of words is left to the verb that the first one names. -/
theorem parse_spaced {word : List Char} {arguments : List (List Char)} {line : String}
    (h : Spaced (word :: arguments) line.toList) : ∃ rest, words rest = arguments ∧
      parse line = (Verb.named? word).elim (.error (.unknownCommand (String.ofList (word.map Char.toLower))))
        (·.parse rest) := by
  obtain ⟨rest, hsplit, hrest⟩ := splitVerb_spaced h
  have hne : trim line.toList ≠ [] := by
    intro he
    have hw := (words_trim line.toList).trans h.words_eq
    rw [he] at hw
    cases hw
  refine ⟨rest, hrest, ?_⟩
  rw [parse, if_neg (by simpa using hne), hsplit, Verb.named?]
  dsimp only
  cases verbs.lookup (String.ofList (word.map Char.toLower)) <;> rfl

/-- A line without a word says nothing. -/
theorem parse_gap {line : String} (h : Spaced [] line.toList) : parse line = .error .empty := by
  cases h with
  | gap blank => rw [parse, trim_eq_nil_iff.2 blank]; rfl

/-! ### What is said of a command -/

/-- The word that a verb is written as. -/
def Verb.word : Verb → String
  | register => "register"
  | damage => "damage"
  | set => "set"
  | impact => "impact"
  | event => "event"
  | reset => "reset"
  | evict => "evict"
  | render => "render"
  | status => "status"

/-- The verb that asks for a command. An impact is only ever added to a severity. -/
def verb? : Command → Option Verb
  | register _ => some .register
  | record ⟨_, .tag _, _, .delta⟩ => some .damage
  | record ⟨_, .tag _, _, .absolute⟩ => some .set
  | record ⟨_, .impact _, _, .delta⟩ => some .impact
  | record ⟨_, .impact _, _, .absolute⟩ => none
  | reset _ => some .reset
  | evict _ => some .evict
  | render _ _ => some .render
  | status => some .status

/-- What a command names: its vehicle, a zone and a path. -/
def names : Command → List String
  | register vehicle | reset vehicle | evict vehicle | render vehicle none => [vehicle]
  | record ⟨vehicle, .tag tag, _, _⟩ => [vehicle, tag]
  | record ⟨vehicle, .impact _, _, _⟩ => [vehicle]
  | render vehicle (some path) => [vehicle, path]
  | status => []

def numbers : Command → List Binary32
  | record r => r.numbers
  | register _ | reset _ | evict _ | render _ _ | status => []

/-- The line that asks for a command: a verb, then names, then numbers, such as `impact V X Y Z A`. -/
def line? (c : Command) : Option String :=
  c.verb?.map fun verb => " ".intercalate (verb.word :: (c.names ++ c.numbers.map Binary32.toText))

theorem line?_eq_none_iff {c : Command} :
    c.line? = none ↔ ∃ vehicle v value, c = record ⟨vehicle, .impact v, value, .absolute⟩ := by
  rw [line?, Option.map_eq_none_iff]
  fun_cases verb? c <;> simp

theorem Verb.named?_word (verb : Verb) : named? verb.word.toList = some verb := by
  cases verb <;> decide

theorem Verb.isWord_word (verb : Verb) : IsWord verb.word.toList := by
  cases verb <;> decide

theorem float_toText {x : Binary32} (h : x ≠ .nan) (context : String) : float context x.toText = .ok x := by
  rw [float, Binary32.ofLiteral?_toText_of_ne_nan h]

/-- The line of a command is read as that command. -/
theorem parse_line {c : Command} {line : String} (h : c.line? = some line)
    (hnames : ∀ name ∈ c.names, IsWord name.toList) (hnumbers : ∀ x ∈ c.numbers, x ≠ .nan) :
    parse line = .ok c := by
  obtain ⟨verb, hverb, rfl⟩ := Option.map_eq_some_iff.1 h
  have hwords : ∀ token ∈ verb.word :: (c.names ++ c.numbers.map Binary32.toText), IsWord token.toList := by
    refine List.forall_mem_cons.2 ⟨verb.isWord_word, List.forall_mem_append.2 ⟨hnames, fun token ht => ?_⟩⟩
    obtain ⟨x, hx, rfl⟩ := List.mem_map.1 ht
    exact Binary32.isWord_toText (hnumbers x hx)
  obtain ⟨rest, hrest, hparse⟩ := parse_spaced (spaced_intercalate hwords)
  have harguments : (words rest).map String.ofList = c.names ++ c.numbers.map Binary32.toText := by
    rw [hrest, List.map_map]
    exact List.map_id'' (fun s => String.ofList_toList) _
  rw [hparse, verb.named?_word, Option.elim_some]
  cases c with
  | register vehicle =>
      cases hverb
      exact congrArg (vehicleOnly register) harguments
  | reset vehicle =>
      cases hverb
      exact congrArg (vehicleOnly reset) harguments
  | evict vehicle =>
      cases hverb
      exact congrArg (vehicleOnly evict) harguments
  | render vehicle path =>
      cases hverb
      cases path <;> exact congrArg parseRender harguments
  | status =>
      cases hverb
      rfl
  | record r =>
      obtain ⟨vehicle, source, value, mode⟩ := r
      cases source with
      | tag tag =>
          have hvalue := hnumbers value (List.mem_singleton_self value)
          cases mode with
          | delta =>
              cases hverb
              refine (congrArg parseDamage harguments).trans ?_
              show (do return record ⟨vehicle, .tag tag, ← float "damage amount" value.toText, .delta⟩) = _
              rw [float_toText hvalue]
              rfl
          | absolute =>
              cases hverb
              refine (congrArg parseSet harguments).trans ?_
              show (do return record ⟨vehicle, .tag tag, ← float "set value" value.toText, .absolute⟩) = _
              rw [float_toText hvalue]
              rfl
      | impact v =>
          cases mode with
          | absolute => cases hverb
          | delta =>
              cases hverb
              have hx : ∀ x ∈ [v.x, v.y, v.z, value], x ≠ .nan := hnumbers
              refine (congrArg parseImpact harguments).trans ?_
              show (do return record ⟨vehicle, .impact ⟨← float "impact x" v.x.toText, ← float "impact y" v.y.toText,
                ← float "impact z" v.z.toText⟩, ← float "impact amount" value.toText, .delta⟩) = _
              simp only [List.forall_mem_cons] at hx
              rw [float_toText hx.1, float_toText hx.2.1, float_toText hx.2.2.1, float_toText hx.2.2.2.1]
              rfl

/-! ### How a line may be spelt -/

/-- Lines of the same words say the same, the first of them in any case, unless it is an event that they tell. -/
theorem parse_respelt {word word' : List Char} {arguments : List (List Char)} {line line' : String}
    (h : Spaced (word :: arguments) line.toList) (h' : Spaced (word' :: arguments) line'.toList)
    (hword : eqIgnoreCase word word' = true) (hevent : eqIgnoreCase word "event".toList = false) :
    parse line' = parse line := by
  obtain ⟨rest, hrest, hparse⟩ := parse_spaced h
  obtain ⟨rest', hrest', hparse'⟩ := parse_spaced h'
  have hlower : word'.map Char.toLower = word.map Char.toLower := (beq_iff_eq.1 hword).symm
  have hnamed : Verb.named? word' = Verb.named? word := by rw [Verb.named?, Verb.named?, hlower]
  rw [hparse, hparse', hlower, hnamed]
  cases hv : Verb.named? word with
  | none => rfl
  | some verb =>
      have hne : verb ≠ .event := by
        rintro rfl
        rw [Verb.named?_event hv] at hevent
        cases hevent
      obtain ⟨n, hn⟩ := Verb.exists_capacity hne
      exact Verb.parse_congr hn (by rw [hrest, hrest'])

/-- Words past those that its verb looks at change nothing in what a line says. -/
theorem parse_overlong {word : List Char} {arguments more : List (List Char)} {line line' : String} {verb : Verb}
    {n : Nat} (h : Spaced (word :: arguments) line.toList) (h' : Spaced (word :: (arguments ++ more)) line'.toList)
    (hverb : Verb.named? word = some verb) (hn : verb.capacity? = some n) (hl : n ≤ arguments.length) :
    parse line' = parse line := by
  obtain ⟨rest, hrest, hparse⟩ := parse_spaced h
  obtain ⟨rest', hrest', hparse'⟩ := parse_spaced h'
  rw [hparse, hparse', hverb]
  refine Verb.parse_congr hn ?_
  rw [hrest, hrest', List.take_append_of_le_length hl]

/-- A command is read from the line that asks for it; only an impact that would set a severity has no such line. Every
line is words with blanks between and around them, and means nothing but its words: without any it is empty, and with a
verb other than `event` neither the case of the verb nor the blanks matter, nor does any word past those that the verb
looks at. -/
theorem parse_as_spelt :
    (∀ c : Command, c.line? = none ↔ ∃ vehicle v value, c = record ⟨vehicle, .impact v, value, .absolute⟩) ∧
    (∀ (c : Command) (line : String), c.line? = some line → (∀ name ∈ c.names, IsWord name.toList) →
      (∀ x ∈ c.numbers, x ≠ .nan) → parse line = .ok c) ∧
    (∀ line : String, ∃ tokens, Spaced tokens line.toList) ∧
    (∀ line : String, Spaced [] line.toList → parse line = .error .empty) ∧
    (∀ (word word' : List Char) (arguments : List (List Char)) (line line' : String),
      Spaced (word :: arguments) line.toList → Spaced (word' :: arguments) line'.toList →
      eqIgnoreCase word word' = true → eqIgnoreCase word "event".toList = false → parse line' = parse line) ∧
    ∀ (word : List Char) (arguments more : List (List Char)) (line line' : String) (verb : Verb) (n : Nat),
      Spaced (word :: arguments) line.toList → Spaced (word :: (arguments ++ more)) line'.toList →
      Verb.named? word = some verb → verb.capacity? = some n → n ≤ arguments.length → parse line' = parse line :=
  ⟨fun _ => line?_eq_none_iff, fun _ _ => parse_line, fun line => ⟨_, spaced_words line.toList⟩, fun _ => parse_gap,
    fun _ _ _ _ _ => parse_respelt, fun _ _ _ _ _ _ _ => parse_overlong⟩

/-- An impact with an infinite component, in odd letters with blanks of all kinds, and with words after it. -/
theorem parse_as_spelt_impact : ∃ c : Command,
    c.line? = some "impact V1 -1.5 -inf 0.00000003 0.3" ∧ parse "impact V1 -1.5 -inf 0.00000003 0.3" = .ok c ∧
      parse "\u2003ImPACT\tV1 \u00a0-1.5 -inf 0.00000003\n0.3 " = .ok c ∧
      parse "impact V1 -1.5 -inf 0.00000003 0.3 and more" = .ok c ∧ parse " \t" = .error .empty := by
  obtain ⟨-, hline, -, hempty, hcase, hmore⟩ := parse_as_spelt
  let number (text : String) : Binary32 := (Binary32.ofLiteral? text).getD .zero
  have hparse : parse "impact V1 -1.5 -inf 0.00000003 0.3" =
      .ok (record ⟨"V1", .impact ⟨number "-1.5", .infinite true, number "3e-8"⟩, number "0.3", .delta⟩) :=
    hline _ _ (by decide +kernel) (by decide +kernel) (by decide +kernel)
  let arguments := ["V1", "-1.5", "-inf", "0.00000003", "0.3"].map String.toList
  have hspaced : Spaced ("impact".toList :: arguments) "impact V1 -1.5 -inf 0.00000003 0.3".toList :=
    words_eq_iff.1 (by decide +kernel)
  have hrespelt : Spaced ("ImPACT".toList :: arguments)
      "\u2003ImPACT\tV1 \u00a0-1.5 -inf 0.00000003\n0.3 ".toList := words_eq_iff.1 (by decide +kernel)
  have hoverlong : Spaced ("impact".toList :: (arguments ++ ["and", "more"].map String.toList))
      "impact V1 -1.5 -inf 0.00000003 0.3 and more".toList := words_eq_iff.1 (by decide +kernel)
  refine ⟨record ⟨"V1", .impact ⟨number "-1.5", .infinite true, number "3e-8"⟩, number "0.3", .delta⟩,
    by decide +kernel, hparse, ?_, ?_, ?_⟩
  · exact (hcase _ _ _ _ _ hspaced hrespelt (by decide) (by decide)).trans hparse
  · exact (hmore _ _ _ _ _ .impact 5 hspaced hoverlong (by decide) rfl (by decide)).trans hparse
  · exact hempty _ (words_eq_iff.1 (by decide))

end Command

end VehicleDamage
