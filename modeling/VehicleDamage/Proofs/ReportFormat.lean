import VehicleDamage.Command
import VehicleDamage.Proofs.Json.Numbers
import VehicleDamage.Proofs.Json.Objects
import VehicleDamage.Proofs.Text.Blank

/-!
Reports, snapshots and summaries are read back from what is written of them.
-/

namespace VehicleDamage

open Json Reader Text

/-- The text written for a number is read, to its end, as that number. -/
def Binary32.ReadsBack (x : Binary32) : Prop :=
  (Reader.binary32 ⟨writeBinary32 x, 0⟩).map (fun taken => (taken.1, taken.2.rest)) = .ok (x, [])

instance (x : Binary32) : Decidable x.ReadsBack :=
  inferInstanceAs (Decidable (_ = _))

theorem Binary32.ReadsBack.reads {x : Binary32} (h : x.ReadsBack) : Reads Reader.binary32 (writeBinary32 x) x := by
  rw [ReadsBack] at h
  cases hx : Reader.binary32 ⟨writeBinary32 x, 0⟩ with
  | error fault =>
      rw [hx] at h
      cases h
  | ok taken =>
      obtain ⟨y, rest, offset⟩ := taken
      rw [hx] at h
      cases h
      exact reads_binary32 hx

/-- What a number that is not finite is written as is refused. -/
theorem Binary32.refuses {x : Binary32} (h : x.isFinite = false) :
    Refuses Reader.binary32 (writeBinary32 x) (.wrongType .null "f32") := by
  have hnull : writeBinary32 x = "null".toList := by
    cases x with
    | nan | infinite => rfl
    | finite => cases h
  rw [hnull]
  exact (refuses_null "f32").bind

def ImpactVector.components (v : ImpactVector) : List (String × Binary32) :=
  [("x", v.x), ("y", v.y), ("z", v.z)]

def ImpactVector.numbers (v : ImpactVector) : List Binary32 :=
  v.components.map Prod.snd

theorem ImpactVector.numbers_eq (v : ImpactVector) : v.numbers = [v.x, v.y, v.z] := rfl

def ZoneSource.numbers : ZoneSource → List Binary32
  | .tag _ => []
  | .impact v => v.numbers

def Report.numbers (r : Report) : List Binary32 :=
  r.source.numbers ++ [r.value]

def Snapshot.numbers (s : Snapshot) : List Binary32 :=
  s.severities.entries.map (·.2)

def ZoneSummary.numbers (s : ZoneSummary) : List Binary32 :=
  [s.severity, s.opacity]

theorem isTrimmed_writeObject (members : List (String × List Char)) : IsTrimmed (writeObject members) := by
  rw [writeObject_eq]
  constructor
  · rintro c hc
    cases hc
    decide
  · rw [← List.cons_append, List.getLast?_concat]
    rintro c hc
    cases hc
    decide

/-! ### Vectors and sources -/

namespace ImpactVector

variable {v : ImpactVector}

theorem reads (h : ∀ x ∈ v.numbers, x.ReadsBack) : Reads (Reader.record shape) v.write v := by
  have hx : IsMember shape ("x", writeBinary32 v.x) fun u => { u with x := v.x } :=
    ⟨_, rfl, (h v.x (by simp [numbers_eq])).reads.map _⟩
  have hy : IsMember shape ("y", writeBinary32 v.y) fun u => { u with y := v.y } :=
    ⟨_, rfl, (h v.y (by simp [numbers_eq])).reads.map _⟩
  have hz : IsMember shape ("z", writeBinary32 v.z) fun u => { u with z := v.z } :=
    ⟨_, rfl, (h v.z (by simp [numbers_eq])).reads.map _⟩
  exact reads_record (.cons hx (.cons hy (.cons hz .nil))) (by simp) (by simp [shape])

theorem exists_field {c : String × Binary32} (hc : c ∈ v.components) : ∃ set : Binary32 → ImpactVector → ImpactVector,
    shape.fields.find? (fun f => f.name == c.1) = some ⟨c.1, true, do let x ← Reader.binary32; return set x⟩ := by
  simp only [components, List.mem_cons, List.not_mem_nil, or_false] at hc
  rcases hc with rfl | rfl | rfl <;> exact ⟨_, rfl⟩

/-- A vector with a component that is not finite is refused. -/
theorem refuses (hc : ∀ x ∈ v.numbers, x.isFinite = true → x.ReadsBack) (h : ∃ x ∈ v.numbers, x.isFinite = false) :
    Refuses (Reader.record shape) v.write (.wrongType .null "f32") := by
  have hrefused {c : String × Binary32} (hm : c ∈ v.components) (hn : c.2.isFinite = false) :
      IsRefused shape (c.1, writeBinary32 c.2) (.wrongType .null "f32") := by
    obtain ⟨set, hf⟩ := exists_field hm
    exact ⟨_, hf, (Binary32.refuses hn).bind⟩
  have hmembers : ∀ m ∈ v.components.map fun c => (c.1, writeBinary32 c.2),
      (∃ change, IsMember shape m change) ∨ IsRefused shape m (.wrongType .null "f32") := by
    intro m hmem
    obtain ⟨c, hm, rfl⟩ := List.mem_map.1 hmem
    cases hn : c.2.isFinite with
    | false => exact .inr (hrefused hm hn)
    | true =>
        obtain ⟨set, hf⟩ := exists_field hm
        exact .inl ⟨_, _, hf, (hc c.2 (List.mem_map_of_mem hm) hn).reads.map set⟩
  obtain ⟨x, hx, hn⟩ := h
  obtain ⟨c, hm, rfl⟩ := List.mem_map.1 hx
  have hrecord := refuses_record hmembers ⟨_, List.mem_map_of_mem hm, hrefused hm hn⟩ (by simp [components])
  exact hrecord

end ImpactVector

namespace ZoneSource

variable {s : ZoneSource}

theorem reads (h : ∀ x ∈ s.numbers, x.ReadsBack) : Reads reader s.write s := by
  cases s with
  | tag name => exact reads_holding rfl ((reads_text name).map ZoneSource.tag)
  | impact v => exact reads_holding rfl ((ImpactVector.reads h).map ZoneSource.impact)

theorem refuses (hc : ∀ x ∈ s.numbers, x.isFinite = true → x.ReadsBack) (h : ∃ x ∈ s.numbers, x.isFinite = false) :
    Refuses reader s.write (.wrongType .null "f32") := by
  cases s with
  | tag name =>
      obtain ⟨x, hx, -⟩ := h
      cases hx
  | impact v => exact refuses_holding rfl ((ImpactVector.refuses hc h).map ZoneSource.impact)

end ZoneSource

theorem ApplyMode.reads (mode : ApplyMode) : Reads reader (writeText mode.name) mode := by
  cases mode with
  | absolute | delta => exact reads_bare rfl

/-! ### Reports -/

namespace Report

variable {r : Report}

theorem isMember_vehicle (r : Report) :
    IsMember shape ("vehicle", writeText r.vehicle) fun u => { u with vehicle := r.vehicle } :=
  ⟨_, rfl, (reads_text r.vehicle).map _⟩

theorem isMember_mode (r : Report) :
    IsMember shape ("mode", writeText r.mode.name) fun u => { u with mode := r.mode } :=
  ⟨_, rfl, r.mode.reads.map _⟩

theorem isMember_value (h : r.value.ReadsBack) :
    IsMember shape ("value", writeBinary32 r.value) fun u => { u with value := r.value } :=
  ⟨_, rfl, h.reads.map _⟩

theorem reads (h : ∀ x ∈ r.numbers, x.ReadsBack) : Reads (Reader.record shape) r.write r := by
  obtain ⟨hs, hv⟩ := List.forall_mem_append.1 h
  have hsource : IsMember shape ("source", r.source.write) fun u => { u with source := r.source } :=
    ⟨_, rfl, (ZoneSource.reads hs).map _⟩
  have hvalue := isMember_value (hv r.value (List.mem_singleton_self _))
  exact reads_record (.cons r.isMember_vehicle (.cons hsource (.cons hvalue (.cons r.isMember_mode .nil)))) (by simp)
    (by simp [shape])

/-- A report with a finite value is refused for its source only. -/
theorem refuses (hv : r.value.ReadsBack) (hc : ∀ x ∈ r.source.numbers, x.isFinite = true → x.ReadsBack)
    (h : ∃ x ∈ r.source.numbers, x.isFinite = false) :
    Refuses (Reader.record shape) r.write (.wrongType .null "f32") := by
  have hsource : IsRefused shape ("source", r.source.write) (.wrongType .null "f32") :=
    ⟨_, rfl, (ZoneSource.refuses hc h).bind⟩
  refine refuses_record (fun m hm => ?_) ⟨_, by simp, hsource⟩ (by simp)
  simp only [List.mem_cons, List.not_mem_nil, or_false] at hm
  rcases hm with rfl | rfl | rfl | rfl
  · exact .inl ⟨_, r.isMember_vehicle⟩
  · exact .inr hsource
  · exact .inl ⟨_, isMember_value hv⟩
  · exact .inl ⟨_, r.isMember_mode⟩

theorem isTrimmed_write (r : Report) : IsTrimmed r.write :=
  isTrimmed_writeObject _

theorem decode_encode (hf : ∀ x ∈ r.numbers, x.isFinite = true)
    (hc : ∀ x ∈ r.numbers, x.isFinite = true → x.ReadsBack) : decode r.encode = .ok r := by
  rw [decode, decodeChars, encode, String.toList_ofList, trim_eq_self r.isTrimmed_write,
    read_eq_ok (reads fun x hx => hc x hx (hf x hx))]
  exact if_pos (hf r.value (by simp [numbers]))

/-- A report with a finite value and an infinite component is written as a text that is refused. -/
theorem decode_encode_infinite (hv : r.value.isFinite = true)
    (hc : ∀ x ∈ r.numbers, x.isFinite = true → x.ReadsBack) (h : ∃ x ∈ r.source.numbers, x.isFinite = false) :
    ∃ error, decode r.encode = .error (.malformed error) ∧ error.cause = .wrongType .null "f32" := by
  have hvalue := hc r.value (List.mem_append_right _ (List.mem_singleton_self _)) hv
  obtain ⟨error, hread, hcause⟩ := read_eq_error (refuses hvalue (fun x hm => hc x (List.mem_append_left _ hm)) h)
  refine ⟨error, ?_, hcause⟩
  rw [decode, decodeChars, encode, String.toList_ofList, trim_eq_self r.isTrimmed_write, hread]

end Report

/-- A line with an event is the command that its text is decoded as. -/
theorem Command.parse_event {text : List Char} (hne : text ≠ []) (ht : IsTrimmed text) :
    parse ("event " ++ String.ofList text) = parseEvent text := by
  have hline : ("event " ++ String.ofList text).toList = "event".toList ++ ' ' :: text := by
    rw [String.toList_append, show (String.ofList text).toList = text from String.toList_ofList]
    rfl
  have hlast : ("event".toList ++ ' ' :: text).getLast? = text.getLast? := by
    rw [List.append_cons, List.getLast?_append, Option.or_of_isSome (by simpa using hne)]
  have htrim : trim ("event".toList ++ ' ' :: text) = "event".toList ++ ' ' :: text := by
    refine trim_eq_self ⟨?_, hlast ▸ ht.last⟩
    rintro c hc
    cases hc
    decide
  have hblank : ∀ c ∈ "event".toList, Text.isBlank c = false := by
    simpa using List.any_eq_false.1 (by decide : "event".toList.any Text.isBlank = false)
  have hsplit : splitVerb ("event".toList ++ ' ' :: text) = ("event".toList, text) := by
    rw [splitVerb, splitOnce?_append hblank (by decide) text]
    dsimp only
    rw [trim_eq_self ht]
    rfl
  have hverb : verbs.lookup (String.ofList "event".toList) = some .event := by decide
  rw [parse, hline, htrim]
  dsimp only
  rw [if_neg (by simp), hsplit]
  dsimp only
  rw [hverb]
  rfl

/-! ### Snapshots and summaries -/

theorem Snapshot.reads {s : Snapshot} (hr : s.revision < UInt64.size) (h : ∀ x ∈ s.numbers, x.ReadsBack) :
    Reads (Reader.record shape)
      (writeObject
        [("revision", writeNatural s.revision), ("severities", writeMap writeBinary32 s.severities)]) s := by
  have hrevision : IsMember shape ("revision", writeNatural s.revision) fun u => { u with revision := s.revision } :=
    ⟨_, rfl, (reads_natural hr "u64").map _⟩
  have hseverities : IsMember shape ("severities", writeMap writeBinary32 s.severities) fun u =>
      { u with severities := s.severities } :=
    ⟨_, rfl, (reads_map fun e he => (h e.2 (List.mem_map_of_mem he)).reads).map _⟩
  exact reads_record (.cons hrevision (.cons hseverities .nil)) (by simp) (by simp [shape])

theorem ZoneSummary.reads {s : ZoneSummary} (h : ∀ x ∈ s.numbers, x.ReadsBack) :
    Reads (Reader.record shape)
      (writeObject [("zone", writeText s.zone), ("severity", writeBinary32 s.severity), ("fill", writeText s.fill),
        ("opacity", writeBinary32 s.opacity)]) s := by
  have hzone : IsMember shape ("zone", writeText s.zone) fun u => { u with zone := s.zone } :=
    ⟨_, rfl, (reads_text s.zone).map _⟩
  have hseverity : IsMember shape ("severity", writeBinary32 s.severity) fun u => { u with severity := s.severity } :=
    ⟨_, rfl, (h s.severity (by simp [numbers])).reads.map _⟩
  have hfill : IsMember shape ("fill", writeText s.fill) fun u => { u with fill := s.fill } :=
    ⟨_, rfl, (reads_text s.fill).map _⟩
  have hopacity : IsMember shape ("opacity", writeBinary32 s.opacity) fun u => { u with opacity := s.opacity } :=
    ⟨_, rfl, (h s.opacity (by simp [numbers])).reads.map _⟩
  exact reads_record (.cons hzone (.cons hseverity (.cons hfill (.cons hopacity .nil)))) (by simp) (by simp [shape])

/-! ### What is written is read back -/

/-- Reports, snapshots and summaries whose numbers are finite are decoded from what they are encoded as, a report by
the console as well. Of numbers it is taken that the finite ones are read back. -/
theorem encoded_decodes :
    (∀ r : Report, (∀ x ∈ r.numbers, x.isFinite = true) → (∀ x ∈ r.numbers, x.isFinite = true → x.ReadsBack) →
      Report.decode r.encode = .ok r ∧ Command.parse ("event " ++ r.encode) = .ok (.record r)) ∧
    (∀ s : Snapshot, s.revision < UInt64.size → (∀ x ∈ s.numbers, x.isFinite = true) →
      (∀ x ∈ s.numbers, x.isFinite = true → x.ReadsBack) → Snapshot.decode s.encode = .ok s) ∧
    ∀ s : ZoneSummary, (∀ x ∈ s.numbers, x.isFinite = true) → (∀ x ∈ s.numbers, x.isFinite = true → x.ReadsBack) →
      ZoneSummary.decode s.encode = .ok s := by
  refine ⟨fun r hf hc => ?_, fun s hr hf hc => ?_, fun s hf hc => ?_⟩
  · have hd := Report.decode_encode hf hc
    have hne : r.write ≠ [] := List.cons_ne_nil _ _
    have hparse : Command.parse ("event " ++ r.encode) = Command.parseEvent r.write :=
      Command.parse_event hne r.isTrimmed_write
    refine ⟨hd, ?_⟩
    rw [hparse, Command.parseEvent, if_neg (by simpa using hne), ← Report.encode, hd]
  · rw [Snapshot.decode, Snapshot.encode, String.toList_ofList]
    exact read_eq_ok (Snapshot.reads hr fun x hx => hc x hx (hf x hx))
  · rw [ZoneSummary.decode, ZoneSummary.encode, String.toList_ofList]
    exact read_eq_ok (ZoneSummary.reads fun x hx => hc x hx (hf x hx))

/-- Escapes, a character beyond the basic plane, numbers of every form, and the last revision. -/
theorem encoded_decodes_escapes : ∃ (r : Report) (s : Snapshot) (z : ZoneSummary),
    (r.vehicle = "V\"1\\\n\x01𝄞" ∧ r.source.numbers.map Binary32.toText = ["-1.5", "0.00000003", "16777216"] ∧
      Report.decode r.encode = .ok r ∧ Command.parse ("event " ++ r.encode) = .ok (.record r)) ∧
    (s.revision = UInt64.size - 1 ∧ s.severities.keys = ["", "\"roof\""] ∧ Snapshot.decode s.encode = .ok s) ∧
    z.fill = "#ff0000" ∧ ZoneSummary.decode z.encode = .ok z := by
  let number (text : String) : Binary32 := (Binary32.ofLiteral? text).getD .zero
  obtain ⟨hreport, hsnapshot, hsummary⟩ := encoded_decodes
  refine ⟨⟨"V\"1\\\n\x01𝄞", .impact ⟨number "-1.5", number "3e-8", number "16777216"⟩, number "0.1", .absolute⟩,
    ⟨UInt64.size - 1, (SortedMap.empty.insert "\"roof\"" (number "0.3")).insert "" .one⟩,
    ⟨"roof", number "0.7", "#ff0000", number "0.85"⟩,
    ⟨rfl, by decide +kernel, ?_⟩, ⟨rfl, by decide +kernel, ?_⟩, rfl, ?_⟩
  · exact hreport _ (by decide +kernel) (by decide +kernel)
  · exact hsnapshot _ (by decide) (by decide +kernel) (by decide +kernel)
  · exact hsummary _ (by decide +kernel) (by decide +kernel)

/-! ### What is accepted -/

theorem ImpactVector.yields : Yields (Reader.record shape) fun v => ∀ x ∈ v.numbers, x ≠ .nan := by
  have hnumbers (v : ImpactVector) : (∀ x ∈ v.numbers, x ≠ .nan) ↔ v.x ≠ .nan ∧ v.y ≠ .nan ∧ v.z ≠ .nan := by
    simp [numbers_eq]
  simp only [hnumbers]
  refine yields_record (fun f hf => ?_) ⟨nofun, nofun, nofun⟩
  simp only [shape, List.mem_cons, List.not_mem_nil, or_false] at hf
  rcases hf with rfl | rfl | rfl
  · exact yields_binary32.map fun x hx v ⟨_, hy, hz⟩ => ⟨hx, hy, hz⟩
  · exact yields_binary32.map fun y hy v ⟨hx, _, hz⟩ => ⟨hx, hy, hz⟩
  · exact yields_binary32.map fun z hz v ⟨hx, hy, _⟩ => ⟨hx, hy, hz⟩

theorem ZoneSource.yields : Yields reader fun s => ∀ x ∈ s.numbers, x ≠ .nan := by
  refine yields_choice fun v hv => ?_
  simp only [List.mem_cons, List.not_mem_nil, or_false] at hv
  rcases hv with rfl | rfl
  · exact (yields_true Reader.text).map fun name _ x hx => nomatch hx
  · exact ImpactVector.yields.map fun v hv => hv

theorem Report.yields : Yields (Reader.record shape) fun r => ∀ x ∈ r.numbers, x ≠ .nan := by
  have hbase : ∀ x ∈ shape.base.numbers, x ≠ .nan := by
    simp [shape, numbers, ZoneSource.numbers, Binary32.zero, Binary32.signedZero]
  refine yields_record (fun f hf => ?_) hbase
  simp only [shape, List.mem_cons, List.not_mem_nil, or_false] at hf
  rcases hf with rfl | rfl | rfl | rfl
  · exact (yields_true Reader.text).map fun vehicle _ r hr => hr
  · exact ZoneSource.yields.map fun source hs r hr => List.forall_mem_append.2 ⟨hs, (List.forall_mem_append.1 hr).2⟩
  · exact yields_binary32.map fun value hv r hr =>
      List.forall_mem_append.2 ⟨(List.forall_mem_append.1 hr).1, List.forall_mem_singleton.2 hv⟩
  · exact (yields_true ApplyMode.reader).map fun mode _ r hr => hr

/-- An accepted report has a finite value, and its other numbers are at least numbers. -/
theorem Report.of_decode {text : String} {r : Report} (h : decode text = .ok r) :
    r.value.isFinite = true ∧ ∀ x ∈ r.numbers, x ≠ .nan := by
  rw [decode, decodeChars] at h
  split at h
  · cases h
  · next hread =>
    rw [validate] at h
    split at h
    · next hf =>
      cases h
      exact ⟨hf, of_read_eq_ok yields hread⟩
    · cases h

/-- An accepted report is decoded from what it is encoded as exactly if its point of collision is finite: only the
value is looked at when a report is accepted, and an infinite component is written as null, which is refused. -/
theorem Report.decode_accepted {text : String} {r : Report} (h : decode text = .ok r)
    (hc : ∀ x ∈ r.numbers, x.isFinite = true → x.ReadsBack) :
    r.value.isFinite = true ∧ (∀ x ∈ r.source.numbers, x.isFinite = false → ∃ negative, x = .infinite negative) ∧
      (decode r.encode = .ok r ↔ ∀ x ∈ r.source.numbers, x.isFinite = true) ∧
      ((∃ x ∈ r.source.numbers, x.isFinite = false) → ∃ error, decode r.encode = .error (.malformed error) ∧
        error.cause = .wrongType .null "f32") := by
  obtain ⟨hvalue, hnan⟩ := of_decode h
  refine ⟨hvalue, fun x hx hf => ?_, ⟨fun hd => ?_, fun hf => ?_⟩, decode_encode_infinite hvalue hc⟩
  · cases x with
    | nan => exact absurd rfl (hnan _ (List.mem_append_left _ hx))
    | infinite negative => exact ⟨negative, rfl⟩
    | finite => cases hf
  · refine fun x hx => Bool.of_not_eq_false fun hf => ?_
    obtain ⟨error, he, -⟩ := decode_encode_infinite hvalue hc ⟨x, hx, hf⟩
    rw [hd] at he
    cases he
  · exact decode_encode (List.forall_mem_append.2 ⟨hf, List.forall_mem_singleton.2 hvalue⟩) hc

theorem Report.decode_accepted_impact : ∃ r,
    decode
        "\x7b\"vehicle\":\"V1\",\"source\":\x7b\"impact\":\x7b\"x\":-1.5,\"y\":0,\"z\":2e3\x7d\x7d,\"value\":0.3\x7d" =
      .ok r ∧
      r.source.numbers.map Binary32.toText = ["-1.5", "0", "2000"] ∧ decode r.encode = .ok r := by
  let number (text : String) : Binary32 := (Binary32.ofLiteral? text).getD .zero
  have h : decode
      "\x7b\"vehicle\":\"V1\",\"source\":\x7b\"impact\":\x7b\"x\":-1.5,\"y\":0,\"z\":2e3\x7d\x7d,\"value\":0.3\x7d" =
        .ok ⟨"V1", .impact ⟨number "-1.5", number "0", number "2000"⟩, number "0.3", .delta⟩ := by
    decide +kernel
  obtain ⟨-, -, hd, -⟩ := decode_accepted h (by decide +kernel)
  exact ⟨_, h, by decide +kernel, hd.2 (by decide +kernel)⟩

/-- A component out of range: the report is accepted, and what it is encoded as is not. -/
theorem Report.infinite_accepted : ∃ r,
    decode
        "\x7b\"vehicle\":\"V1\",\"source\":\x7b\"impact\":\x7b\"x\":1e39,\"y\":0,\"z\":0\x7d\x7d,\"value\":0.5\x7d" =
      .ok r ∧
      r.source = .impact ⟨.infinite false, .zero, .zero⟩ ∧ decode r.encode ≠ .ok r :=
  ⟨⟨"V1", .impact ⟨.infinite false, .zero, .zero⟩, (Binary32.ofLiteral? "0.5").getD .zero, .delta⟩,
    by decide +kernel, rfl, by decide +kernel⟩

end VehicleDamage
