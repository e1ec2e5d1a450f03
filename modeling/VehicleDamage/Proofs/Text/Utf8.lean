import VehicleDamage.Proofs.Text.Bytes

/-!
Texts as the bytes that encode them. Bytes of the ASCII range encode themselves and appear nowhere else, and texts are
in the order of their bytes.
-/

namespace VehicleDamage.Text

/-- The bytes of a text. -/
def utf8 (cs : List Char) : List UInt8 :=
  cs.flatMap String.utf8EncodeChar

@[simp]
theorem utf8_nil : utf8 [] = [] := rfl

@[simp]
theorem utf8_cons (c : Char) (cs : List Char) : utf8 (c :: cs) = String.utf8EncodeChar c ++ utf8 cs := rfl

theorem utf8_append (cs ds : List Char) : utf8 (cs ++ ds) = utf8 cs ++ utf8 ds :=
  List.flatMap_append

theorem length_utf8 (cs : List Char) : (utf8 cs).length = byteLength cs := by
  induction cs with
  | nil => rfl
  | cons c cs ih => rw [utf8_cons, List.length_append, String.length_utf8EncodeChar, ih, byteLength_cons]

theorem utf8EncodeChar_of_ascii {c : Char} (h : c.toNat < 128) : String.utf8EncodeChar c = [UInt8.ofNat c.toNat] :=
  if_pos (Nat.le_of_lt_succ h)

theorem of_mem_utf8EncodeChar {c : Char} (h : 128 ≤ c.toNat) : ∀ b ∈ String.utf8EncodeChar c, 128 ≤ b.toNat := by
  have hv : ¬c.val.toNat ≤ 0x7f := Nat.not_le_of_gt h
  intro b hb
  simp only [String.utf8EncodeChar, if_neg hv] at hb
  split at hb
  · simp only [List.mem_cons, List.not_mem_nil, or_false] at hb
    rcases hb with rfl | rfl <;> rw [UInt8.toNat_ofNat'] <;> omega
  · split at hb
    · simp only [List.mem_cons, List.not_mem_nil, or_false] at hb
      rcases hb with rfl | rfl | rfl <;> rw [UInt8.toNat_ofNat'] <;> omega
    · simp only [List.mem_cons, List.not_mem_nil, or_false] at hb
      rcases hb with rfl | rfl | rfl | rfl <;> rw [UInt8.toNat_ofNat'] <;> omega

/-! ### Tests of single bytes -/

/-- A test that does not tell characters beyond ASCII apart. -/
def IsAsciiTest (p : Char → Bool) : Prop :=
  ∀ c d : Char, 128 ≤ c.toNat → 128 ≤ d.toNat → p c = p d

namespace IsAsciiTest

variable {p q : Char → Bool}

theorem eq {a : Char} (h : a.toNat < 128) : IsAsciiTest fun c => decide (c = a) := by
  intro c d hc hd
  have hne {e : Char} (he : 128 ≤ e.toNat) : e ≠ a := by
    rintro rfl
    omega
  exact (decide_eq_false (hne hc)).trans (decide_eq_false (hne hd)).symm

theorem or (hp : IsAsciiTest p) (hq : IsAsciiTest q) : IsAsciiTest fun c => p c || q c :=
  fun c d hc hd => congr (congrArg Bool.or (hp c d hc hd)) (hq c d hc hd)

theorem not (hp : IsAsciiTest p) : IsAsciiTest fun c => !p c :=
  fun c d hc hd => congrArg Bool.not (hp c d hc hd)

/-- Of each byte of a character the test says what it says of the character. -/
theorem ofUInt8 (hp : IsAsciiTest p) {c : Char} {b : UInt8} (hb : b ∈ String.utf8EncodeChar c) :
    p (.ofUInt8 b) = p c := by
  rcases Nat.lt_or_ge c.toNat 128 with h | h
  · rw [utf8EncodeChar_of_ascii h, List.mem_singleton] at hb
    have hc : Char.ofUInt8 b = c := Char.toNat_inj.1 <| calc
      (Char.ofUInt8 b).toNat = b.toNat := rfl
      _ = c.toNat := by rw [hb, UInt8.toNat_ofNat_of_lt' (Nat.lt_trans h (by decide))]
    rw [hc]
  · exact hp _ _ (of_mem_utf8EncodeChar h b hb) h

theorem takeWhile_utf8 (hp : IsAsciiTest p) (cs : List Char) :
    (utf8 cs).takeWhile (fun b => p (.ofUInt8 b)) = utf8 (cs.takeWhile p) := by
  induction cs with
  | nil => rfl
  | cons c cs ih =>
      cases hc : p c with
      | true =>
          rw [utf8_cons, List.takeWhile_append_of_pos fun b hb => (hp.ofUInt8 hb).trans hc, ih,
            List.takeWhile_cons_of_pos hc, utf8_cons]
      | false =>
          obtain ⟨b, bs, hb⟩ := List.exists_cons_of_ne_nil (String.utf8EncodeChar_ne_nil (c := c))
          have hfirst : p (.ofUInt8 b) = false := (hp.ofUInt8 (hb ▸ List.mem_cons_self)).trans hc
          rw [utf8_cons, hb, List.cons_append, List.takeWhile_cons_of_neg (by simp [hfirst]),
            List.takeWhile_cons_of_neg (by simp [hc]), utf8_nil]

end IsAsciiTest

/-- The byte at an offset, as the character of its number. -/
def byteAt? (cs : List Char) (i : Nat) : Option Char :=
  (utf8 cs)[i]?.map Char.ofUInt8

theorem byteAt?_byteLength (cs : List Char) : byteAt? cs (byteLength cs) = none := by
  rw [byteAt?, List.getElem?_eq_none (Nat.le_of_eq (length_utf8 cs))]
  rfl

/-- Where a character begins there is a byte that such tests take for it. -/
theorem exists_byteAt? (before : List Char) (c : Char) (after : List Char) :
    ∃ d, byteAt? (before ++ c :: after) (byteLength before) = some d ∧ ∀ p, IsAsciiTest p → p d = p c := by
  obtain ⟨b, bs, hb⟩ := List.exists_cons_of_ne_nil (String.utf8EncodeChar_ne_nil (c := c))
  refine ⟨.ofUInt8 b, ?_, fun p hp => hp.ofUInt8 (hb ▸ List.mem_cons_self)⟩
  rw [byteAt?, utf8_append, List.getElem?_append_right (Nat.le_of_eq (length_utf8 before)), length_utf8, Nat.sub_self,
    utf8_cons, hb]
  rfl

/-- An ASCII character is met exactly where it stands. -/
theorem byteAt?_eq_iff (before : List Char) {c d : Char} (h : d.toNat < 128) (after : List Char) :
    byteAt? (before ++ c :: after) (byteLength before) = some d ↔ c = d := by
  obtain ⟨b, hb, htest⟩ := exists_byteAt? before c after
  have hd : b = d ↔ c = d := by simpa using htest _ (IsAsciiTest.eq h)
  rw [hb, Option.some_inj, hd]

theorem byteAt?_ascii (before : List Char) {c : Char} (h : c.toNat < 128) (after : List Char) :
    byteAt? (before ++ c :: after) (byteLength before) = some c :=
  (byteAt?_eq_iff before h after).2 rfl

/-- Of a byte of a part such tests say what they say of a character of that part. -/
theorem exists_of_byteAt? {before part after : List Char} {i : Nat} {d : Char}
    (h : byteAt? (before ++ part ++ after) i = some d) (hi : byteLength before ≤ i)
    (hlt : i < byteLength (before ++ part)) : ∃ c ∈ part, ∀ p, IsAsciiTest p → p d = p c := by
  rw [← length_utf8] at hi hlt
  rw [byteAt?, utf8_append, List.getElem?_append_left hlt, utf8_append, List.getElem?_append_right hi] at h
  obtain ⟨b, hb, rfl⟩ := Option.map_eq_some_iff.1 h
  obtain ⟨c, hc, hbc⟩ := List.mem_flatMap.1 (List.mem_of_getElem? hb)
  exact ⟨c, hc, fun p hp => hp.ofUInt8 hbc⟩

/-! ### The order of bytes -/

/-- Bytes in front of others come first if they are the lesser, or the same with lesser ones after them. -/
theorem byte_cons_lt {a b : Nat} {as bs : List UInt8} (hb : b < 256) (hle : a ≤ b) (h : a = b → as < bs) :
    UInt8.ofNat a :: as < UInt8.ofNat b :: bs := by
  rw [List.cons_lt_cons_iff]
  rcases Nat.lt_or_eq_of_le hle with hlt | rfl
  · left
    rwa [UInt8.lt_iff_toNat_lt, UInt8.toNat_ofNat_of_lt' (Nat.lt_trans hlt hb), UInt8.toNat_ofNat_of_lt' hb]
  · exact .inr ⟨rfl, h rfl⟩

/-- The bytes of a character say before all that follow how it stands to another one. -/
theorem utf8EncodeChar_append_lt {c d : Char} (h : c < d) (as bs : List UInt8) :
    String.utf8EncodeChar c ++ as < String.utf8EncodeChar d ++ bs := by
  have hlt : c.val.toNat < d.val.toNat := h
  have hd : d.val.toNat < 0x110000 := d.valid.elim (fun h => Nat.lt_trans h (by decide)) And.right
  simp only [String.utf8EncodeChar]
  generalize c.val.toNat = v at *
  generalize d.val.toNat = w at *
  -- by the length of the one and of the other; the first byte tells different lengths apart
  split
  · split
    · exact byte_cons_lt (by omega) (by omega) fun h => by omega
    · split
      · exact byte_cons_lt (by omega) (by omega) fun h => by omega
      · split <;> exact byte_cons_lt (by omega) (by omega) fun h => by omega
  · rw [if_neg (show ¬w ≤ 127 by omega)]
    split
    · split
      · exact byte_cons_lt (by omega) (by omega) fun h1 => byte_cons_lt (by omega) (by omega) fun h2 => by omega
      · split <;> exact byte_cons_lt (by omega) (by omega) fun h => by omega
    · rw [if_neg (show ¬w ≤ 2047 by omega)]
      split
      · split
        · exact byte_cons_lt (by omega) (by omega) fun h1 => byte_cons_lt (by omega) (by omega) fun h2 =>
            byte_cons_lt (by omega) (by omega) fun h3 => by omega
        · exact byte_cons_lt (by omega) (by omega) fun h => by omega
      · rw [if_neg (show ¬w ≤ 65535 by omega)]
        exact byte_cons_lt (by omega) (by omega) fun h1 => byte_cons_lt (by omega) (by omega) fun h2 =>
          byte_cons_lt (by omega) (by omega) fun h3 => byte_cons_lt (by omega) (by omega) fun h4 => by omega

theorem utf8_lt {cs ds : List Char} (h : cs < ds) : utf8 cs < utf8 ds := by
  induction h with
  | @nil d ds =>
      obtain ⟨b, bs, hb⟩ := List.exists_cons_of_ne_nil (String.utf8EncodeChar_ne_nil (c := d))
      rw [utf8_cons, hb]
      exact List.nil_lt_cons _ _
  | cons _ ih => exact List.append_left_lt ih
  | rel h => exact utf8EncodeChar_append_lt h _ _

/-- Texts are in the order of their bytes. -/
theorem utf8_lt_iff {cs ds : List Char} : utf8 cs < utf8 ds ↔ cs < ds := by
  refine ⟨fun h => ?_, utf8_lt⟩
  rcases Std.lt_trichotomy cs ds with hlt | rfl | hgt
  · exact hlt
  · exact absurd h (List.lt_irrefl _)
  · exact absurd h (List.lt_asymm (utf8_lt hgt))

end VehicleDamage.Text
