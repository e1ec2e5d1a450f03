import Mathlib.Control.Monad.Basic
import VehicleDamage.Proofs.Text.Blank
import VehicleDamage.ReportFormat

/-!
Reports on the lines of a text: each line is decoded by itself, and its number is all that the lines before it decide.
-/

namespace VehicleDamage

open Text

/-- The fault of a record that is found on a line. -/
def DecodeFault.onLine (line : Nat) : DecodeFault → DecodeFault
  | malformed error | malformedLine _ error => malformedLine line error
  | nonFiniteValue value => nonFiniteValue value

/-- The fault as it is when `n` lines are put in front. -/
def DecodeFault.below (n : Nat) : DecodeFault → DecodeFault
  | malformedLine line error => malformedLine (line + n) error
  | malformed error => malformed error
  | nonFiniteValue value => nonFiniteValue value

namespace Report

/-- What a line yields: nothing when it is blank, else its record or the fault of it. -/
def outcome? (number : Nat) (line : String) : Option (Except DecodeFault Report) :=
  if (trim line.toList).isEmpty then none else some ((decode line).mapError (.onLine number))

/-- What lines yield that are numbered from `first` on. -/
def outcomes (first : Nat) : List String → List (Except DecodeFault Report)
  | [] => []
  | line :: more => (outcome? first line).toList ++ outcomes (first + 1) more

theorem outcomes_append (first : Nat) (ls ms : List String) :
    outcomes first (ls ++ ms) = outcomes first ls ++ outcomes (first + ls.length) ms := by
  induction ls generalizing first with
  | nil => rfl
  | cons line ls ih =>
      rw [List.cons_append, outcomes, outcomes, ih, List.append_assoc, List.length_cons, Nat.add_assoc,
        Nat.add_comm 1]

theorem outcome?_below (number n : Nat) (line : String) :
    outcome? (number + n) line = (outcome? number line).map (Except.mapError (.below n)) := by
  rw [outcome?, outcome?]
  split
  · rfl
  · cases decode line with
    | ok r => rfl
    | error fault => cases fault <;> rfl

theorem outcomes_below (first n : Nat) (ls : List String) :
    outcomes (first + n) ls = (outcomes first ls).map (Except.mapError (.below n)) := by
  induction ls generalizing first with
  | nil => rfl
  | cons line ls ih =>
      rw [outcomes, outcomes, List.map_append, ← ih, outcome?_below, Nat.add_right_comm]
      cases outcome? first line <;> rfl

theorem decodeChars_onLine (cs : List Char) (line : Nat) :
    decodeChars cs (.malformedLine line) = (decodeChars cs .malformed).mapError (.onLine line) := by
  rw [decodeChars, decodeChars]
  cases Json.read (Json.Reader.record shape) (trim cs) with
  | error error => rfl
  | ok r =>
      show r.validate = r.validate.mapError _
      rw [validate]
      split <;> rfl

theorem trim_dropReturn (cs : List Char) : trim (dropReturn cs) = trim cs := by
  rw [dropReturn]
  split
  · next before h =>
    have hcs : cs = before.reverse ++ ['\r'] := by
      rw [← List.reverse_reverse cs, h, List.reverse_cons]
    rw [hcs, trim_append_blank (List.forall_mem_singleton.2 rfl)]
  · rfl

/-- What the line at an index is decoded as, if it is not blank. -/
def lineOutcome? (e : List Char × Nat) : Option (Except DecodeFault Report) :=
  if (trim e.1).isEmpty then none else some (decodeChars e.1 (.malformedLine (e.2 + 1)))

theorem lineOutcome?_eq {line line' : List Char} (h : trim line' = trim line) (index : Nat) :
    lineOutcome? (line', index) = outcome? (index + 1) (String.ofList line) := by
  rw [lineOutcome?, outcome?, decode, String.toList_ofList, ← decodeChars_onLine, decodeChars, decodeChars, h]

theorem filterMap_cons_toList {α β : Type} (f : α → Option β) (a : α) (as : List α) :
    (a :: as).filterMap f = (f a).toList ++ as.filterMap f := by
  rw [List.filterMap_cons]
  cases f a <;> rfl

theorem filterMap_lineOutcome? (pieces : List (List Char)) (index : Nat) :
    ((lines.ending pieces).zipIdx index).filterMap lineOutcome? = outcomes (index + 1) (pieces.map String.ofList) := by
  induction pieces generalizing index with
  | nil => rfl
  | cons line more ih =>
      rw [List.map_cons, outcomes]
      cases more with
      | nil =>
          rw [lines.ending]
          split
          · next he =>
            rw [List.isEmpty_iff.1 he]
            rfl
          · rw [List.zipIdx_cons, filterMap_cons_toList, lineOutcome?_eq rfl]
            rfl
      | cons next more =>
          rw [lines.ending, List.zipIdx_cons, filterMap_cons_toList, lineOutcome?_eq (trim_dropReturn line), ih]
          exact List.cons_ne_nil _ _

/-- A text yields what the pieces between its line feeds do: how a line ends and whether the last one does makes no
difference. -/
theorem decodeLines_eq (text : String) :
    decodeLines text = outcomes 1 ((splitWhere (· == '\n') text.toList).map String.ofList) :=
  filterMap_lineOutcome? _ 0

/-- The lines of a text are decoded one by one. Those of two texts put together yield what they yield in each, with the
faults of the second as many lines further down as the first has. A line that is blank yields nothing and counts. Any
other yields what its record alone does, with its faults on that line, and so leaves alone what the lines around it
yield. -/
theorem decodeLines_linewise :
    (∀ a b : String, decodeLines (a ++ "\n" ++ b) =
      decodeLines a ++ (decodeLines b).map (Except.mapError (.below (a.toList.count '\n' + 1)))) ∧
    (∀ line : String, '\n' ∉ line.toList → decodeLines line =
      if (trim line.toList).isEmpty then [] else [(decode line).mapError (.onLine 1)]) ∧
    ∀ (before after : List String) (line : String), (∀ l ∈ before ++ line :: after, '\n' ∉ l.toList) →
      decodeLines ("\n".intercalate (before ++ line :: after)) =
        outcomes 1 before ++ (outcome? (before.length + 1) line).toList ++ outcomes (before.length + 2) after := by
  have hfree {cs : List Char} (h : '\n' ∉ cs) : ∀ c ∈ cs, (c == '\n') = false := fun c hc => by
    simpa using fun he : c = '\n' => h (he ▸ hc)
  refine ⟨fun a b => ?_, fun line h => ?_, fun before after line h => ?_⟩
  · have hpieces : splitWhere (· == '\n') (a ++ "\n" ++ b).toList =
        splitWhere (· == '\n') a.toList ++ splitWhere (· == '\n') b.toList := by
      rw [String.toList_append, String.toList_append, List.append_assoc]
      exact splitWhere_cut rfl _ _
    rw [decodeLines_eq, decodeLines_eq, decodeLines_eq, hpieces, List.map_append, outcomes_append, List.length_map,
      length_splitWhere, outcomes_below]
    rfl
  · rw [decodeLines_eq, splitWhere_of_forall (hfree h), List.map_singleton, outcomes, outcomes, outcome?,
      String.ofList_toList, List.append_nil]
    split <;> rfl
  · have hpieces : splitWhere (· == '\n') ("\n".intercalate (before ++ line :: after)).toList =
        (before ++ line :: after).map String.toList := by
      rw [String.toList_intercalate]
      refine splitWhere_intercalate rfl (by simp) fun piece hp => ?_
      obtain ⟨l, hl, rfl⟩ := List.mem_map.1 hp
      exact hfree (h l hl)
    have hid : String.ofList ∘ String.toList = id := funext fun _ => String.ofList_toList
    rw [decodeLines_eq, hpieces, List.map_map, hid, List.map_id, outcomes_append, outcomes, Nat.add_comm 1,
      List.append_assoc]

/-- A blank line and a bad record between good ones, the last of them before a carriage return. -/
theorem decodeLines_linewise_bad :
    let good := "\x7b\"vehicle\":\"V1\",\"source\":\x7b\"tag\":\"front\"\x7d,\"value\":1\x7d"
    let r : Report := ⟨"V1", .tag "front", .one, .delta⟩
    decodeLines "not json" = [.error (.malformedLine 1 ⟨.expectedIdent, 1, 2⟩)] ∧
      decodeLines ("\n".intercalate [good, "", "not json", good ++ "\r"]) =
        [.ok r, .error (.malformedLine 3 ⟨.expectedIdent, 1, 2⟩), .ok r] := by
  intro good r
  obtain ⟨-, hline, hlines⟩ := decodeLines_linewise
  have hbad : decode "not json" = .error (.malformed ⟨.expectedIdent, 1, 2⟩) := by decide +kernel
  have hbefore : outcomes 1 [good, ""] = [.ok r] := by decide +kernel
  have hafter : outcomes 4 [good ++ "\r"] = [.ok r] := by decide +kernel
  constructor
  · rw [hline "not json" (by decide), hbad]
    rfl
  · have hall := hlines [good, ""] [good ++ "\r"] "not json" (by decide +kernel)
    refine hall.trans ?_
    rw [hbefore, outcome?, hbad]
    exact congrArg _ hafter

end Report

end VehicleDamage
