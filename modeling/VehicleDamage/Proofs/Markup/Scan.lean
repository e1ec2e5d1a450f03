import VehicleDamage.Proofs.Markup.Layout
import VehicleDamage.Proofs.Markup.Written
import VehicleDamage.Proofs.Text.Utf8

/-!
A start tag scanned by its bytes, one key a round. The scan is over within as many rounds as the tag has bytes, every
slice that it takes of the tag can be had, and what it comes to is the layout.
-/

namespace VehicleDamage.Markup

open Text

/-! ### The scan -/

/-- The first offset from `i` on at which no byte satisfies `p`. -/
def passWhile (p : Char → Bool) (tag : List Char) (i : Nat) : Nat :=
  if h : i < (utf8 tag).length then
    if p (.ofUInt8 (utf8 tag)[i]) then passWhile p tag (i + 1) else i
  else i
termination_by (utf8 tag).length - i

/-- The text from byte `start` to byte `stop`; `none` when these are not in order, or one of them is out of range or
within a character. -/
def slice? (tag : List Char) (start stop : Nat) : Option (List Char) :=
  (splitBytes? stop tag).bind fun r => (splitBytes? start r.1).map Prod.snd

/-- How far a scan has come: it goes on from an offset with the style it has found, a slice of the tag could not be
had, or it is over and the tag may have been unreadable. -/
inductive Progress (α : Type) where
  | goesOn (offset : Nat) (style : Option (Nat × Nat))
  | fault
  | over (result : Option α)
deriving DecidableEq, Repr

/-- Where the value in quotes after `offset` lies. The outer `none` stands for a slice that cannot be had. -/
def quotedRange? (tag : List Char) (offset : Nat) : Option (Option (Nat × Nat)) :=
  let i := passWhile isGap tag offset
  match byteAt? tag i with
  | none => some none
  | some quote =>
    if isQuote quote then
      (splitBytes? (i + 1) tag).map fun r =>
        if quote ∈ r.2 then some (i + 1, i + 1 + byteLength (r.2.takeWhile (· != quote))) else none
    else some none

/-- A key with an equals sign at `offset` has a value in quotes, and one without is passed over. -/
def assign (tag key : List Char) (offset : Nat) (style : Option (Nat × Nat)) : Progress (Option (Nat × Nat)) :=
  if byteAt? tag offset = some '=' then
    match quotedRange? tag (offset + 1) with
    | none => .fault
    | some none => .over none
    | some (some (start, stop)) => .goesOn (stop + 1) (if key = "style".toList then some (start, stop) else style)
  else .goesOn offset style

def closesTag (c : Char) : Bool :=
  c = '>' || c = '/'

/-- One round: the next key, if the tag does not end before it. -/
def round (tag : List Char) (offset : Nat) (style : Option (Nat × Nat)) : Progress (Option (Nat × Nat)) :=
  let keyFrom := passWhile isGap tag offset
  if (byteAt? tag keyFrom).all closesTag then .over (some style)
  else
    let keyStop := passWhile (fun c => !endsName c) tag keyFrom
    match slice? tag keyFrom keyStop with
    | none => .fault
    | some key => assign tag key (passWhile isGap tag keyStop) style

def rounds (tag : List Char) : Nat → Nat → Option (Nat × Nat) → Progress (Option (Nat × Nat))
  | 0, offset, style => .goesOn offset style
  | n + 1, offset, style =>
    match round tag offset style with
    | .goesOn offset style => rounds tag n offset style
    | .fault => .fault
    | .over result => .over result

/-- The scan of a tag, as far as it comes in `n` rounds. -/
def scan (tag : List Char) (n : Nat) : Progress Layout :=
  if byteAt? tag 0 = some '<' then
    let nameEnd := passWhile (fun c => !endsName c) tag 1
    match rounds tag n nameEnd none with
    | .goesOn offset style => .goesOn offset style
    | .fault => .fault
    | .over result => .over (result.map fun style => ⟨nameEnd, style⟩)
  else .over none

/-! ### Bytes and characters -/

theorem isAsciiTest_isGap : IsAsciiTest isGap :=
  ((((IsAsciiTest.eq (by decide)).or (.eq (by decide))).or (.eq (by decide))).or (.eq (by decide))).or (.eq (by decide))

theorem isAsciiTest_endsName : IsAsciiTest endsName :=
  ((isAsciiTest_isGap.or (.eq (by decide))).or (.eq (by decide))).or (.eq (by decide))

theorem isAsciiTest_isQuote : IsAsciiTest isQuote :=
  (IsAsciiTest.eq (by decide)).or (.eq (by decide))

theorem isAsciiTest_closesTag : IsAsciiTest closesTag :=
  (IsAsciiTest.eq (by decide)).or (.eq (by decide))

theorem ascii_of_isQuote {quote : Char} (h : isQuote quote = true) : quote.toNat < 128 := by
  simp only [isQuote, Bool.or_eq_true, decide_eq_true_eq] at h
  rcases h with rfl | rfl <;> decide

theorem passWhile_eq_add (p : Char → Bool) (tag : List Char) (i : Nat) :
    passWhile p tag i = i + (((utf8 tag).drop i).takeWhile fun b => p (.ofUInt8 b)).length := by
  fun_induction passWhile p tag i with
  | case1 i h hp ih =>
      rw [ih, List.drop_eq_getElem_cons h]
      simp only [List.takeWhile_cons, hp, if_true, List.length_cons]
      omega
  | case2 i h hp =>
      rw [List.drop_eq_getElem_cons h]
      simp [hp]
  | case3 i h => rw [List.drop_eq_nil_of_le (Nat.le_of_not_lt h), List.takeWhile_nil, List.length_nil, Nat.add_zero]

section

variable {p : Char → Bool} {tag before cs : List Char}

/-- Whole characters are passed. -/
theorem passWhile_eq (hp : IsAsciiTest p) (h : tag = before ++ cs) :
    passWhile p tag (byteLength before) = byteLength (before ++ cs.takeWhile p) := by
  rw [passWhile_eq_add, h, utf8_append, ← length_utf8 before, List.drop_left, hp.takeWhile_utf8, length_utf8,
    length_utf8, byteLength_append]

theorem cut_takeWhile (p : Char → Bool) (h : tag = before ++ cs) :
    tag = before ++ cs.takeWhile p ++ cs.dropWhile p := by
  rw [List.append_assoc, List.takeWhile_append_dropWhile, h]

theorem slice?_eq {key after : List Char} (h : tag = before ++ key ++ after) :
    slice? tag (byteLength before) (byteLength (before ++ key)) = some key := by
  rw [slice?, h, splitBytes?_append, Option.bind_some, splitBytes?_append]
  rfl

/-- Behind a quote there is a value exactly if the quote comes again. -/
theorem map_quotedValue? {quote : Char} {text : List Char} (offset : Nat) (hd : cs.dropWhile isGap = quote :: text)
    (hq : isQuote quote = true) :
    (quotedValue? offset cs).map (fun v => (v.1, v.1 + byteLength v.2.1)) =
      let start := offset + byteLength (cs.takeWhile isGap) + 1
      if quote ∈ text then some (start, start + byteLength (text.takeWhile (· != quote))) else none := by
  simp only [quotedValue?, hd, hq, if_true]
  cases hr : text.dropWhile (· != quote) with
  | nil =>
      have hfree : quote ∉ text := fun hm => by simpa using List.dropWhile_eq_nil_iff.1 hr quote hm
      rw [if_neg hfree]
      rfl
  | cons c rest =>
      obtain ⟨ht, hc⟩ := eq_of_dropWhile hr
      have hm : quote ∈ text := by
        rw [ht]
        simp [show c = quote by simpa using hc]
      rw [if_pos hm]
      rfl

/-- A value in quotes is found where it is read. -/
theorem quotedRange?_eq (h : tag = before ++ cs) :
    quotedRange? tag (byteLength before) =
      some ((quotedValue? (byteLength before) cs).map fun v => (v.1, v.1 + byteLength v.2.1)) := by
  have hcut := cut_takeWhile isGap h
  rw [quotedRange?, passWhile_eq isAsciiTest_isGap h]
  cases hd : cs.dropWhile isGap with
  | nil =>
      rw [hd, List.append_nil] at hcut
      rw [hcut, byteAt?_byteLength, quotedValue?, hd]
      rfl
  | cons quote text =>
      rw [hd] at hcut
      by_cases hq : isQuote quote = true
      · have hbyte : byteAt? tag (byteLength (before ++ cs.takeWhile isGap)) = some quote := by
          rw [hcut, byteAt?_ascii _ (ascii_of_isQuote hq)]
        have hsplit : splitBytes? (byteLength (before ++ cs.takeWhile isGap) + 1) tag =
            some (before ++ cs.takeWhile isGap ++ [quote], text) := by
          rw [splitBytes?_iff, byteLength_append _ [quote], byteLength_cons, utf8Size_of_isQuote hq]
          exact ⟨by simp [hcut], rfl⟩
        rw [hbyte]
        dsimp only
        rw [if_pos hq, hsplit, map_quotedValue? _ hd hq, byteLength_append]
        rfl
      · obtain ⟨d, hbyte, htest⟩ := exists_byteAt? (before ++ cs.takeWhile isGap) quote text
        have hn : ¬isQuote d = true := by rwa [htest _ isAsciiTest_isQuote]
        rw [← hcut] at hbyte
        rw [hbyte, quotedValue?, hd]
        dsimp only
        rw [if_neg hn, if_neg hq]
        rfl

/-- After a key with an equals sign the scan goes on behind the value in quotes, if there is one. -/
theorem assign_equals {key after : List Char} {style : Option (Nat × Nat)} (h : tag = before ++ '=' :: after) :
    assign tag key (byteLength before) style = (quotedValue? (byteLength before + 1) after).elim (.over none) fun v =>
      .goesOn (v.1 + byteLength v.2.1 + 1)
        (if key = "style".toList then some (v.1, v.1 + byteLength v.2.1) else style) := by
  have hbyte : byteAt? tag (byteLength before) = some '=' := by rw [h, byteAt?_ascii _ (by decide)]
  have hafter : tag = before ++ ['='] ++ after := by rw [h, List.append_assoc]; rfl
  have hrange := quotedRange?_eq hafter
  rw [byteLength_append, show byteLength ['='] = 1 from rfl] at hrange
  rw [assign, if_pos hbyte, hrange]
  cases quotedValue? (byteLength before + 1) after <;> rfl

/-- A key without an equals sign is passed over. -/
theorem assign_other {key rest : List Char} {style : Option (Nat × Nat)} (h : tag = before ++ rest)
    (hr : ∀ c ∈ rest.head?, c ≠ '=') :
    assign tag key (byteLength before) style = .goesOn (byteLength before) style := by
  refine if_neg ?_
  cases rest with
  | nil =>
      rw [h, List.append_nil, byteAt?_byteLength]
      exact fun he => by cases he
  | cons c rest =>
      rw [h, byteAt?_eq_iff before (by decide)]
      exact hr c rfl

/-- A round in front of the end of the tag is the last. -/
theorem round_over {style : Option (Nat × Nat)} (h : tag = before ++ cs) (he : EndsTag cs) :
    round tag (byteLength before) style = .over (some style) := by
  have hcut := cut_takeWhile isGap h
  rw [round, passWhile_eq isAsciiTest_isGap h]
  refine if_pos ?_
  rw [EndsTag] at he
  cases hd : cs.dropWhile isGap with
  | nil =>
      rw [hd, List.append_nil] at hcut
      rw [hcut, byteAt?_byteLength]
      rfl
  | cons c text =>
      rw [hd] at hcut he
      have hascii : c.toNat < 128 := by rcases he c rfl with rfl | rfl <;> decide
      rw [hcut, byteAt?_ascii _ hascii]
      simpa [closesTag] using he c rfl

/-- Any other round takes a key, and passes the blanks around it. -/
theorem round_key {text : List Char} {c : Char} {style : Option (Nat × Nat)} (h : tag = before ++ cs)
    (hd : cs.dropWhile isGap = c :: text) (hc : ¬(c = '>' ∨ c = '/')) :
    let key := (c :: text).takeWhile fun c => !endsName c
    let afterKey := (c :: text).dropWhile fun c => !endsName c
    ∃ passed, tag = passed ++ afterKey.dropWhile isGap ∧
      byteLength passed = byteLength before + byteLength (cs.takeWhile isGap) + byteLength key +
        byteLength (afterKey.takeWhile isGap) ∧
      round tag (byteLength before) style = assign tag key (byteLength passed) style := by
  intro key afterKey
  have hcut := cut_takeWhile isGap h
  rw [hd] at hcut
  have hkey : tag = before ++ cs.takeWhile isGap ++ key ++ afterKey := cut_takeWhile _ hcut
  refine ⟨before ++ cs.takeWhile isGap ++ key ++ afterKey.takeWhile isGap, cut_takeWhile isGap hkey, ?_, ?_⟩
  · simp only [byteLength_append]
  · obtain ⟨d, hbyte, htest⟩ := exists_byteAt? (before ++ cs.takeWhile isGap) c text
    have hgoes : closesTag d = false := (htest _ isAsciiTest_closesTag).trans (by simpa [closesTag] using hc)
    rw [← hcut] at hbyte
    rw [round, passWhile_eq isAsciiTest_isGap h, hbyte, if_neg (by simp [hgoes]),
      passWhile_eq isAsciiTest_endsName.not hcut]
    dsimp only
    rw [slice?_eq hkey]
    dsimp only
    rw [passWhile_eq isAsciiTest_isGap hkey]

end

/-! ### The whole scan -/

section

variable {tag : List Char} {offset offset' n : Nat} {style style' : Option (Nat × Nat)}

theorem rounds_over {result : Option (Option (Nat × Nat))} (hn : 0 < n) (h : round tag offset style = .over result) :
    rounds tag n offset style = .over result := by
  obtain ⟨n, rfl⟩ := Nat.exists_eq_add_one_of_ne_zero (Nat.ne_of_gt hn)
  rw [rounds, h]

theorem rounds_goesOn (hn : 0 < n) (h : round tag offset style = .goesOn offset' style') :
    rounds tag n offset style = rounds tag (n - 1) offset' style' := by
  obtain ⟨n, rfl⟩ := Nat.exists_eq_add_one_of_ne_zero (Nat.ne_of_gt hn)
  rw [rounds, h]
  rfl

end

/-- From where a character begins, one round more than there are characters left is enough, and what is found is the
style that is read. -/
theorem rounds_eq {tag before cs : List Char} {offset n : Nat} {style : Option (Nat × Nat)} (h : tag = before ++ cs)
    (hl : byteLength before = offset) (hn : cs.length < n) :
    rounds tag n offset style = .over (styleValue? offset style cs) := by
  fun_induction styleValue? offset style cs generalizing before n with
  | case1 offset style cs hd =>
      subst hl
      exact rounds_over (Nat.zero_lt_of_lt hn) (round_over h (by simp [EndsTag, hd]))
  | case2 offset style cs c text hd hc =>
      subst hl
      exact rounds_over (Nat.zero_lt_of_lt hn) (round_over h (by simpa [EndsTag, hd] using hc))
  | case3 offset style cs c text hd hc =>
      rename_i he
      subst hl
      obtain ⟨passed, htag, -, hround⟩ := round_key h hd hc
      rw [he] at htag
      rw [assign_other htag fun c hc => by cases hc] at hround
      have hcs : 0 < cs.length := by
        have hle := length_dropWhile_le isGap cs
        rw [hd, List.length_cons] at hle
        omega
      rw [rounds_goesOn (by omega) hround]
      exact rounds_over (by omega) (round_over htag fun c hc => by cases hc)
  | case4 offset style cs c text hd hc key afterKey keyStop nextFrom after =>
      rename_i hq he
      subst hl
      obtain ⟨passed, htag, (hpassed : byteLength passed = nextFrom), hround⟩ := round_key h hd hc
      rw [he] at htag
      rw [assign_equals htag, hpassed, hq] at hround
      exact rounds_over (Nat.zero_lt_of_lt hn) hround
  | case5 offset style cs c text hd hc key afterKey keyStop nextFrom after valueFrom value rest hq valueStop style'
      he =>
      rename_i hlt ih
      subst hl
      obtain ⟨passed, htag, (hpassed : byteLength passed = nextFrom), hround⟩ := round_key h hd hc
      rw [he] at htag
      rw [assign_equals htag, hpassed, hq] at hround
      obtain ⟨lead, quote, ha, hfrom, hquote, -⟩ := quotedValue?_eq hq
      rw [rounds_goesOn (Nat.zero_lt_of_lt hn) hround]
      refine @ih (passed ++ '=' :: lead ++ quote :: value ++ [quote]) (n - 1) ?_ ?_ (by omega)
      · rw [htag, ha]
        simp
      · simp only [byteLength_append, byteLength_cons, byteLength_nil, utf8Size_of_isQuote hquote, hpassed, valueStop,
          hfrom, show ('=' : Char).utf8Size = 1 from rfl]
        omega
  | case6 offset style cs c text hd hc key afterKey keyStop nextFrom next after he hne =>
      rename_i hlt ih
      subst hl
      obtain ⟨passed, htag, (hpassed : byteLength passed = nextFrom), hround⟩ := round_key h hd hc
      rw [he] at htag
      rw [assign_other htag (fun d hd => Option.some.inj hd ▸ hne)] at hround
      rw [rounds_goesOn (Nat.zero_lt_of_lt hn) hround, hpassed]
      exact ih htag hpassed (by omega)

/-- The scan is over within as many rounds as there are bytes, and what it comes to is the layout. -/
theorem scan_eq (tag : List Char) : scan tag (byteLength tag) = .over (layout? tag) := by
  cases tag with
  | nil => rfl
  | cons c cs =>
      by_cases hc : c = '<'
      · subst hc
        have hopen : byteAt? ('<' :: cs) 0 = some '<' := byteAt?_ascii [] (by decide) cs
        have htag : '<' :: cs = ['<'] ++ cs := rfl
        have hname : passWhile (fun c => !endsName c) ('<' :: cs) 1 =
            1 + byteLength (cs.takeWhile fun c => !endsName c) := passWhile_eq isAsciiTest_endsName.not htag
        have hlen : (cs.dropWhile fun c => !endsName c).length < byteLength ('<' :: cs) := by
          have hdrop := length_dropWhile_le (fun c => !endsName c) cs
          have hbytes := length_le_byteLength ('<' :: cs)
          rw [List.length_cons] at hbytes
          omega
        have hcut := cut_takeWhile (fun c => !endsName c) htag
        have hrounds := @rounds_eq _ _ _ _ _ none hcut hname.symm hlen
        rw [scan, if_pos hopen]
        dsimp only
        rw [hrounds, hname]
        rfl
      · have hclosed : ¬byteAt? (c :: cs) 0 = some '<' := fun h => hc ((byteAt?_eq_iff [] (by decide) cs).1 h)
        rw [scan, if_neg hclosed, layout?]
        exact fun cs' he => hc (List.cons.inj he).1

/-! ### Where things are found -/

/-- The name ends before any byte that could end one, and the style comes after it, between two of the same quote. -/
structure Layout.InBounds (layout : Layout) (tag : List Char) : Prop where
  one_le_nameEnd : 1 ≤ layout.nameEnd
  nameEnd_le : layout.nameEnd ≤ byteLength tag
  name_free : ∀ i b, 1 ≤ i → i < layout.nameEnd → byteAt? tag i = some b → endsName b = false
  style_quoted : ∀ start stop, layout.styleValue = some (start, stop) →
    layout.nameEnd < start ∧ start ≤ stop ∧ stop < byteLength tag ∧
      ∃ quote, isQuote quote = true ∧ byteAt? tag (start - 1) = some quote ∧ byteAt? tag stop = some quote ∧
        ∀ i, start ≤ i → i < stop → byteAt? tag i ≠ some quote

/-- A value in quotes, told by its bytes. -/
theorem Quoted.bytes {before cs : List Char} {start stop : Nat} (h : Quoted (byteLength before) cs start stop) :
    byteLength before < start ∧ start ≤ stop ∧ stop < byteLength (before ++ cs) ∧
      ∃ quote, isQuote quote = true ∧ byteAt? (before ++ cs) (start - 1) = some quote ∧
        byteAt? (before ++ cs) stop = some quote ∧
        ∀ i, start ≤ i → i < stop → byteAt? (before ++ cs) i ≠ some quote := by
  obtain ⟨lead, quote, value, rest, rfl, hq, hv, rfl, rfl⟩ := h
  have hone := utf8Size_of_isQuote hq
  have hascii := ascii_of_isQuote hq
  have hstart : byteLength (before ++ lead ++ [quote]) = byteLength before + byteLength lead + 1 := by
    simp [hone, Nat.add_assoc]
  have hfirst : before ++ (lead ++ quote :: (value ++ quote :: rest)) =
      before ++ lead ++ quote :: (value ++ quote :: rest) := (List.append_assoc ..).symm
  have hpart : before ++ (lead ++ quote :: (value ++ quote :: rest)) =
      before ++ lead ++ [quote] ++ value ++ quote :: rest := by simp
  refine ⟨by omega, by omega, ?_, quote, hq, ?_, ?_, fun i hi hlt hbyte => ?_⟩
  · simp [hone]
    omega
  · rw [hfirst, ← byteLength_append, Nat.add_sub_cancel, byteAt?_ascii _ hascii]
  · rw [hpart, ← hstart, ← byteLength_append, byteAt?_ascii _ hascii]
  · rw [hpart] at hbyte
    rw [← hstart] at hi hlt
    rw [← byteLength_append] at hlt
    obtain ⟨c, hc, htest⟩ := exists_of_byteAt? hbyte hi hlt
    have he : c = quote := by simpa using htest _ (IsAsciiTest.eq hascii)
    exact hv (he ▸ hc)

theorem Layout.inBounds {tag : List Char} {layout : Layout} (h : layout? tag = some layout) : layout.InBounds tag := by
  obtain ⟨name, rest, rfl, hfree, hname, hstyle⟩ := exists_name_of_layout? h
  rw [hname] at hstyle
  constructor
  · rw [hname]
    exact Nat.le_add_right 1 _
  · rw [hname, byteLength_append]
    exact Nat.le_add_right _ _
  · intro i b hi hlt hbyte
    rw [hname] at hlt
    obtain ⟨c, hc, htest⟩ := @exists_of_byteAt? ['<'] name rest i b hbyte hi hlt
    exact (htest _ isAsciiTest_endsName).trans (hfree c hc)
  · intro start stop hs
    rw [hname]
    exact (hstyle start stop hs).bytes

/-- Every scan comes to an end, without a fault on the way, and gives the layout, which is in bounds. -/
theorem scan_ends (tag : List Char) : scan tag (byteLength tag) = .over (layout? tag) ∧
    ∀ layout, layout? tag = some layout → layout.InBounds tag :=
  ⟨scan_eq tag, fun _ => Layout.inBounds⟩

theorem scan_ends_quoted :
    let tag := "<é a b = ''style\n='\"né\"'x>".toList
    layout? tag = some ⟨3, some (20, 25)⟩ ∧ scan tag (byteLength tag) = .over (some ⟨3, some (20, 25)⟩) ∧
      Layout.InBounds ⟨3, some (20, 25)⟩ tag := by
  intro tag
  have hlayout : layout? tag = some ⟨3, some (20, 25)⟩ := by decide +kernel
  obtain ⟨hscan, hbounds⟩ := scan_ends tag
  exact ⟨hlayout, hlayout ▸ hscan, hbounds _ hlayout⟩

end VehicleDamage.Markup
