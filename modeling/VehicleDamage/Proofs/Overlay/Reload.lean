import VehicleDamage.Proofs.Overlay.StartTag

/-!
A rendered document is a template again, with the zones it was rendered of, as long as no style has lost a reference.
-/

namespace VehicleDamage

open Text Markup

namespace Overlay

variable {palette : Palette} {snapshot : Snapshot} {markers : Markers}

/-- The element is clear if it declares a damaged zone. -/
def IsClearWhereDamaged (markers : Markers) (template : List Char) (snapshot : Snapshot) (e : Element) : Prop :=
  ∀ zone, Zone.ofElement? markers template e = .ok (some zone) → snapshot.isDamaged zone = true →
    ∀ attributes, e.attributes = .ok attributes → e.IsClear attributes

theorem isTail_append {slash : List Char} (h : slash = [] ∨ slash = ['/']) : IsTail (slash ++ ['>']) := by
  rcases h with rfl | rfl
  · exact .inl rfl
  · exact .inr rfl

theorem Replaces.refl {content slash rest : List Char} {size : Nat} (hl : slash = [] → content.getLast? ≠ some '/')
    (h : cutToken (content ++ slash ++ '>' :: rest) = .token (.tag (content ++ slash)) size rest) :
    Replaces slash content content := by
  obtain ⟨hh, hc, -⟩ := cutToken_tag_iff.1 h
  refine ⟨rfl, hl, fun rest' => cutToken_tag_iff.2 ⟨?_, cutTag_local hc rest', rfl⟩⟩
  rwa [List.head?_append] at hh ⊢

/-- What stands in place of a start tag declares what that declared, if the references of its style are kept, and
else it cannot be read. -/
structure Redeclares (markers : Markers) (palette : Palette) (snapshot : Snapshot) (mark slash : List Char)
    (zone? : Option Zone) (content' : List Char) : Prop where
  declares : (∀ zone ∈ zone?, KeepsReferences palette snapshot zone) → ∀ before rest, ∃ zone?',
    Zone.declaredIn markers mark before content' slash rest = .ok zone?' ∧
      Option.Rel (Reloads palette snapshot) zone? zone?'
  keeps : ∀ before rest zone?', Zone.declaredIn markers mark before content' slash rest = .ok zone?' →
    ∀ zone ∈ zone?, KeepsReferences palette snapshot zone

section

variable {mark before rest content slash : List Char} {size : Nat}

/-- In place of a start tag stands one that declares the same. -/
theorem exists_redeclares {zone? : Option Zone} (hmarker : markers.zoneAttribute ≠ "style")
    (hp : palette.opacity.isFinite = true) (hm : byteLength mark ≤ 3) (hs : slash = [] ∨ slash = ['/'])
    (hl : slash = [] → content.getLast? ≠ some '/')
    (hcut : cutToken (content ++ slash ++ '>' :: rest) = .token (.tag (content ++ slash)) size rest)
    (hz : Zone.declaredIn markers mark before content slash rest = .ok zone?)
    (hr : ∀ zone ∈ zone?, snapshot.isDamaged zone = true → ∀ attributes, (Element.ofContent content
      (byteLength (before ++ '<' :: (content ++ (slash ++ ['>']))))).attributes = .ok attributes →
      (Element.ofContent content (byteLength (before ++ '<' :: (content ++ (slash ++ ['>']))))).IsClear attributes) :
    ∃ content', Restyled palette snapshot (byteLength (mark ++ before)) ('<' :: (content ++ (slash ++ ['>'])))
        zone?.toList ('<' :: (content' ++ (slash ++ ['>']))) ∧ Replaces slash content content' ∧
      Redeclares markers palette snapshot mark slash zone? content' := by
  cases zone? with
  | none =>
      refine ⟨content, .done _ _, .refl hl hcut, fun _ before' rest' => ⟨none, ?_, .none⟩, fun _ _ _ _ => nofun⟩
      have ha (stop stop' : Nat) :
          (Element.ofContent content stop').attributes = (Element.ofContent content stop).attributes := rfl
      exact Zone.ofElement?_eq_none (ha _ _) hz
  | some zone =>
      cases hd : snapshot.isDamaged zone with
      | false =>
          have hkeeps : KeepsReferences palette snapshot zone := fun h => by
            rw [hd] at h
            cases h
          refine ⟨content, .intact hd (.done _ _), .refl hl hcut, fun _ before' rest' => ?_,
            fun _ _ _ _ zone' hz' => ?_⟩
          · obtain ⟨zone', hz', hreloads⟩ := exists_reloads_moved hm hd hz
            exact ⟨some zone', hz', .some hreloads⟩
          · exact Option.some.inj hz' ▸ hkeeps
      | true =>
          have hhead : ∀ c ∈ content.head?, marksOther c = false := fun c hc => by
            refine (cutToken_tag_iff.1 hcut).1 c ?_
            rw [List.append_assoc, List.head?_append, Option.mem_def.1 hc]
            rfl
          obtain ⟨t⟩ := ClearTag.nonempty hm (isTail_append hs) hz (hr zone rfl hd)
          obtain ⟨ws', hrestyles, hrestyled⟩ := t.exists_restyled hd hp
          refine ⟨_, hrestyled, t.replaces hrestyles hhead, fun hk before' rest' => ?_, fun _ _ _ h zone' hz' => ?_⟩
          · obtain ⟨zone', hz', hreloads⟩ := t.exists_reloads hd hp hrestyles (hk zone rfl) hmarker before' rest'
            exact ⟨some zone', hz', .some hreloads⟩
          · exact Option.some.inj hz' ▸ (t.resolvable_shown_iff hd hp).1 (t.resolvable_of_declared hrestyles h)

end

/-- How far two readings have come, the one of a template and the other of a document rendered of it. -/
structure Alike (palette : Palette) (snapshot : Snapshot) (p p' : Catalog.Progress) : Prop where
  depth_eq : p'.depth = p.depth
  zones : List.Forall₂ (Reloads palette snapshot) p.zones p'.zones

theorem map_eq_of_reloads {α : Type} {f g : Zone → α} {zones zones' : List Zone}
    (h : List.Forall₂ (Reloads palette snapshot) zones zones')
    (hfg : ∀ zone zone', Reloads palette snapshot zone zone' → g zone' = f zone) : zones'.map g = zones.map f := by
  induction h with
  | nil => rfl
  | cons hz _ ih => rw [List.map_cons, List.map_cons, ih, hfg _ _ hz]

theorem any_eq_of_reloads {zones zones' : List Zone} (h : List.Forall₂ (Reloads palette snapshot) zones zones')
    (id : String) : (zones'.any fun z => Tag.normalize z.id == id) = zones.any fun z => Tag.normalize z.id == id := by
  have hids : zones'.map Zone.id = zones.map Zone.id := map_eq_of_reloads h fun _ _ hz => hz.id_eq
  have hany : (zones'.map Zone.id).any (Tag.normalize · == id) = (zones.map Zone.id).any (Tag.normalize · == id) := by
    rw [hids]
  rwa [List.any_map, List.any_map] at hany

namespace Alike

variable {template template' : List Char} {p p' q : Catalog.Progress}

theorem visit (h : Alike palette snapshot p p') {e e' : Element} {zone? zone?' : Option Zone}
    (hz : Zone.ofElement? markers template e = .ok zone?) (hz' : Zone.ofElement? markers template' e' = .ok zone?')
    (hr : Option.Rel (Reloads palette snapshot) zone? zone?') (hv : p.visit markers template e = .ok q) :
    ∃ q', p'.visit markers template' e' = .ok q' ∧ Alike palette snapshot q q' := by
  rw [Catalog.Progress.visit, hz] at hv
  rw [Catalog.Progress.visit, hz']
  cases hr with
  | none =>
      cases hv
      exact ⟨p', rfl, h⟩
  | @some zone zone' hreloads =>
      have hany := any_eq_of_reloads h.zones (Tag.normalize zone.id)
      have hd : p.declare zone = .ok q := hv
      show ∃ q', p'.declare zone' = .ok q' ∧ _
      rw [Catalog.Progress.declare] at hd ⊢
      rw [hreloads.id_eq, hany]
      split at hd
      · cases hd
      · next hfree =>
        cases hd
        rw [if_neg hfree]
        exact ⟨_, rfl, h.depth_eq, List.rel_append h.zones (.cons hreloads .nil)⟩

theorem deepen (h : Alike palette snapshot p p') (n : Nat) :
    Alike palette snapshot { p with depth := p.depth + n } { p' with depth := p'.depth + n } :=
  ⟨congrArg (· + n) h.depth_eq, h.zones⟩

/-- A piece that is no start tag moves both readings alike. -/
theorem step (h : Alike palette snapshot p p') {piece : Piece} (hs : piece.startTag? = none)
    (hv : p.step markers template piece = .ok q) :
    ∃ q', p'.step markers template' piece = .ok q' ∧ Alike palette snapshot q q' := by
  cases piece with
  | opening | empty => cases hs
  | closing name =>
      cases hv
      exact ⟨_, rfl, by rw [h.depth_eq], h.zones⟩
  | passedOver =>
      cases hv
      exact ⟨_, rfl, h⟩
  | broken fault => cases hv

end Alike

theorem step_ofElement (template : List Char) (p : Catalog.Progress) (slash : List Char) (e : Element) :
    p.step markers template (.ofElement slash e) =
      { p with depth := p.depth + if slash = [] then 1 else 0 }.visit markers template e := by
  unfold Piece.ofElement
  split <;> rfl

/-- What is rendered in place of a text: it is restyled, and its reading has the same effect wherever it stands, if
the styles keep their references, and fails if they do not. The text begins at byte `cursor`; its reading takes `p` to
`q`. -/
structure Renders (markers : Markers) (palette : Palette) (snapshot : Snapshot) (mark : List Char)
    (opened : List (List Char)) (cursor : Nat) (cs : List Char) (zones : List Zone) (p q : Catalog.Progress)
    (out : List Char) : Prop where
  head_eq : out.head? = cs.head?
  restyled : Restyled palette snapshot cursor cs zones out
  reads : (∀ zone ∈ zones, KeepsReferences palette snapshot zone) → ∀ before p', Alike palette snapshot p p' →
    ∃ q', (pieces opened (byteLength before) out).foldlM
        (Catalog.Progress.step markers (mark ++ before ++ out)) p' = .ok q' ∧ Alike palette snapshot q q'
  keeps : ∀ before p' q', Alike palette snapshot p p' → (pieces opened (byteLength before) out).foldlM
      (Catalog.Progress.step markers (mark ++ before ++ out)) p' = .ok q' →
    ∀ zone ∈ zones, KeepsReferences palette snapshot zone

namespace Renders

variable {mark gap markup rest out template : List Char} {opened opened' : List (List Char)} {cursor size : Nat}
  {zones : List Zone} {p p₁ q : Catalog.Progress}

/-- Where no token follows, the text stays. -/
theorem ended (h : ∀ offset, pieces opened offset markup = []) (cursor : Nat) :
    Renders markers palette snapshot mark opened cursor markup [] p p markup where
  head_eq := rfl
  restyled := .done _ _
  reads _ before p' hp := ⟨p', by rw [h]; rfl, hp⟩
  keeps _ _ _ _ _ := nofun

theorem byteLength_open (gap used : List Char) :
    byteLength (gap ++ '<' :: used) = byteLength gap + 1 + byteLength used := by
  rw [byteLength_append, byteLength_cons, show ('<' : Char).utf8Size = 1 from rfl, Nat.add_assoc]

/-- A token other than a start tag stays. -/
theorem other {token : Token} {piece : Piece} {start cursor' : Nat} (hg : '<' ∉ gap)
    (hc : cutToken markup = .token token size rest) (hp : token.piece opened start (start + size) = (piece, opened'))
    (hs : piece.startTag? = none) (hb : ∀ fault, piece ≠ .broken fault)
    (hstep : p.step markers template piece = .ok p₁) (hcursor : cursor' = cursor + (byteLength gap + 1 + size))
    (h : Renders markers palette snapshot mark opened' cursor' rest zones p₁ q out) :
    ∃ out', Renders markers palette snapshot mark opened cursor (gap ++ '<' :: markup) zones p q out' := by
  obtain ⟨used, rfl, hlocal⟩ := cutToken_local hc
  have hsize : byteLength used = size := by
    obtain ⟨used', he, hl, -⟩ := cutToken_eq hc
    rwa [List.append_cancel_right he]
  have hcut : cutToken (used ++ out) = .token token size out := by
    refine hlocal out fun hr => ?_
    have hh := h.head_eq
    rw [hr] at hh
    exact List.head?_eq_none_iff.1 hh
  rw [← hsize, ← byteLength_open] at hcursor
  -- The piece is read first, and then all that follows it.
  have hread (before : List Char) (p' : Catalog.Progress) (ha : Alike palette snapshot p p') :
      ∃ p₁', Alike palette snapshot p₁ p₁' ∧
        (pieces opened (byteLength before) (gap ++ '<' :: (used ++ out))).foldlM
            (Catalog.Progress.step markers (mark ++ before ++ (gap ++ '<' :: (used ++ out)))) p' =
          (pieces opened' (byteLength (before ++ (gap ++ '<' :: used))) out).foldlM
            (Catalog.Progress.step markers (mark ++ (before ++ (gap ++ '<' :: used)) ++ out)) p₁' := by
    obtain ⟨p₁', hp₁, ha₁⟩ := ha.step hs hstep
    have hstop : byteLength before + byteLength gap + 1 + size = byteLength (before ++ (gap ++ '<' :: used)) := by
      rw [byteLength_append, byteLength_open, hsize]
      omega
    have htext : mark ++ (before ++ (gap ++ '<' :: used)) ++ out =
        mark ++ before ++ (gap ++ '<' :: (used ++ out)) := by
      simp
    refine ⟨p₁', ha₁, ?_⟩
    rw [pieces_token hg hcut (piece_local hp hs hb _ _) hb, List.foldlM_cons, hp₁, hstop, htext]
    rfl
  refine ⟨gap ++ '<' :: (used ++ out), by cases gap <;> rfl, ?_, fun hk before p' ha => ?_,
    fun before p' q' ha hq => ?_⟩
  · simpa using h.restyled.skip hcursor
  · obtain ⟨p₁', ha₁, hp₁⟩ := hread before p' ha
    rw [hp₁]
    exact h.reads hk _ p₁' ha₁
  · obtain ⟨p₁', ha₁, hp₁⟩ := hread before p' ha
    rw [hp₁] at hq
    exact h.keeps _ p₁' q' ha₁ hq

/-- A start tag is read first, and then all that follows it. -/
theorem foldlM_pieces_tag {content slash : List Char} (hg : '<' ∉ gap) (hs : slash = [] ∨ slash = ['/'])
    (hl : slash = [] → content.getLast? ≠ some '/')
    (hcut : cutToken (content ++ slash ++ '>' :: rest) =
      .token (.tag (content ++ slash)) (byteLength (content ++ slash) + 1) rest)
    (before : List Char) :
    let e := Element.ofContent content (byteLength (before ++ gap ++ '<' :: (content ++ (slash ++ ['>']))))
    (pieces opened (byteLength before) (gap ++ '<' :: (content ++ slash ++ '>' :: rest))).foldlM
        (Catalog.Progress.step markers template) p =
      Catalog.Progress.visit markers template { p with depth := p.depth + if slash = [] then 1 else 0 } e >>=
        (pieces (openAfter slash e opened) e.stop rest).foldlM (Catalog.Progress.step markers template) := by
  intro e
  have hstop : byteLength before + byteLength gap + 1 + (byteLength (content ++ slash) + 1) = e.stop := by
    simp only [e, Element.ofContent, byteLength_append, byteLength_cons, byteLength_nil,
      show ('<' : Char).utf8Size = 1 from rfl, show ('>' : Char).utf8Size = 1 from rfl]
    omega
  have hb : ∀ fault, Piece.ofElement slash e ≠ .broken fault := by
    unfold Piece.ofElement
    split <;> exact fun _ h => by cases h
  have he : Element.ofContent content e.stop = e := rfl
  rw [pieces_token hg hcut (piece_tag hs hl _ _ _) (by rw [hstop, he]; exact hb), List.foldlM_cons, hstop, he,
    step_ofElement]

/-- A start tag is replaced by one that declares the same. -/
theorem tag {content content' slash : List Char} {cursor' stop : Nat} {zone? : Option Zone} (hg : '<' ∉ gap)
    (hs : slash = [] ∨ slash = ['/'])
    (hrestyled : Restyled palette snapshot (cursor + byteLength gap) ('<' :: (content ++ (slash ++ ['>'])))
      zone?.toList ('<' :: (content' ++ (slash ++ ['>']))))
    (hreplaces : Replaces slash content content')
    (hredeclares : Redeclares markers palette snapshot mark slash zone? content')
    (hz : Zone.ofElement? markers template (.ofContent content stop) = .ok zone?)
    (hstep : p.step markers template (.ofElement slash (.ofContent content stop)) = .ok p₁)
    (hcursor : cursor' = cursor + byteLength (gap ++ '<' :: (content ++ (slash ++ ['>']))))
    (h : Renders markers palette snapshot mark (openAfter slash (.ofContent content stop) opened) cursor' rest zones
      p₁ q out) :
    Renders markers palette snapshot mark opened cursor (gap ++ '<' :: (content ++ slash ++ '>' :: rest))
      (zone?.toList ++ zones) p q (gap ++ '<' :: (content' ++ slash ++ '>' :: out)) := by
  rw [step_ofElement] at hstep
  let used (before : List Char) := before ++ gap ++ '<' :: (content' ++ (slash ++ ['>']))
  let text (before : List Char) := mark ++ before ++ (gap ++ '<' :: (content' ++ slash ++ '>' :: out))
  have hread (before : List Char) (p' : Catalog.Progress) :
      (pieces opened (byteLength before) (gap ++ '<' :: (content' ++ slash ++ '>' :: out))).foldlM
          (Catalog.Progress.step markers (text before)) p' =
        Catalog.Progress.visit markers (text before) { p' with depth := p'.depth + if slash = [] then 1 else 0 }
            (.ofContent content' (byteLength (used before))) >>=
          (pieces (openAfter slash (.ofContent content stop) opened) (byteLength (used before)) out).foldlM
            (Catalog.Progress.step markers (mark ++ used before ++ out)) := by
    have htext : mark ++ used before ++ out = text before := by
      simp [used, text]
    have hopen : openAfter slash (.ofContent content' (byteLength (used before))) opened =
        openAfter slash (.ofContent content stop) opened := by
      have hname : (Element.ofContent content' (byteLength (used before))).name =
          (Element.ofContent content stop).name := hreplaces.name_eq
      rw [openAfter, openAfter, hname]
    rw [htext, ← hopen]
    exact foldlM_pieces_tag hg hs hreplaces.last_ne (hreplaces.cut out) before
  have hdeclared (before : List Char) : Zone.declaredIn markers mark (before ++ gap) content' slash out =
      Zone.ofElement? markers (text before) (.ofContent content' (byteLength (used before))) := by
    rw [Zone.declaredIn]
    simp [text, used]
  refine ⟨by cases gap <;> rfl, ?_, fun hk before p' ha => ?_, fun before p' q' ha hq => ?_⟩
  · have hlen : cursor' =
        cursor + byteLength gap + byteLength ('<' :: (content ++ (slash ++ ['>']))) := by
      rw [hcursor, byteLength_append, Nat.add_assoc]
    simpa using (hrestyled.append h.restyled hlen).skip rfl
  · obtain ⟨zone?', hz', hrel⟩ := hredeclares.declares
      (fun zone hm => hk zone (List.mem_append_left _ (by simpa using hm))) (before ++ gap) out
    obtain ⟨p₁', hp₁, ha₁⟩ := (ha.deepen _).visit hz ((hdeclared before).symm.trans hz') hrel hstep
    obtain ⟨q', hq, ha'⟩ := h.reads (fun zone hm => hk zone (List.mem_append_right _ hm)) (used before) p₁' ha₁
    refine ⟨q', ?_, ha'⟩
    rw [hread, hp₁]
    exact hq
  · obtain ⟨p₁', hp₁, hq⟩ := ok_of_bind ((hread before p').symm.trans hq)
    obtain ⟨zone?', hz', -⟩ := ok_of_bind hp₁
    have hkeeps := hredeclares.keeps (before ++ gap) out zone?' ((hdeclared before).trans hz')
    obtain ⟨zone?'', hz'', hrel⟩ := hredeclares.declares hkeeps (before ++ gap) out
    obtain ⟨p₁'', hp₁', ha₁⟩ := (ha.deepen _).visit hz ((hdeclared before).symm.trans hz'') hrel hstep
    cases hp₁.symm.trans hp₁'
    intro zone hm
    rcases List.mem_append.1 hm with hm | hm
    · exact hkeeps zone (by simpa using hm)
    · exact h.keeps (used before) p₁' q' ha₁ hq zone hm

/-- In place of a start tag, and of what follows it, something is rendered. -/
theorem exists_tag {done content slash : List Char} {stop : Nat} {zone? : Option Zone}
    (hmarker : markers.zoneAttribute ≠ "style") (hp : palette.opacity.isFinite = true) (hm : byteLength mark ≤ 3)
    (hg : '<' ∉ gap) (hs : slash = [] ∨ slash = ['/']) (hl : slash = [] → content.getLast? ≠ some '/')
    (hcut : cutToken (content ++ slash ++ '>' :: rest) = .token (.tag (content ++ slash)) size rest)
    (ht : template = mark ++ done ++ (gap ++ '<' :: (content ++ slash ++ '>' :: rest)))
    (hstop : stop = byteLength (done ++ gap ++ '<' :: (content ++ (slash ++ ['>']))))
    (hz : Zone.ofElement? markers template (.ofContent content stop) = .ok zone?)
    (hr : IsClearWhereDamaged markers template snapshot (.ofContent content stop))
    (hstep : p.step markers template (.ofElement slash (.ofContent content stop)) = .ok p₁)
    (h : Renders markers palette snapshot mark (openAfter slash (.ofContent content stop) opened)
      (byteLength (mark ++ (done ++ (gap ++ '<' :: (content ++ (slash ++ ['>'])))))) rest zones p₁ q out) :
    ∃ out', Renders markers palette snapshot mark opened (byteLength (mark ++ done))
      (gap ++ '<' :: (content ++ slash ++ '>' :: rest)) (zone?.toList ++ zones) p q out' := by
  have htemplate : mark ++ (done ++ gap) ++ '<' :: (content ++ (slash ++ ['>'])) ++ rest = template := by
    rw [ht]
    simp
  have hdeclared : Zone.declaredIn markers mark (done ++ gap) content slash rest = .ok zone? := by
    rw [Zone.declaredIn, ← hstop, htemplate]
    exact hz
  obtain ⟨content', hrestyled, hreplaces, hredeclares⟩ := exists_redeclares hmarker hp hm hs hl hcut hdeclared
    (fun zone hzone hd => by
      rw [← hstop]
      exact hr zone (by rw [hz, Option.mem_def.1 hzone]) hd)
  rw [← List.append_assoc, byteLength_append (mark ++ done)] at hrestyled
  exact ⟨_, .tag hg hs hrestyled hreplaces hredeclares hz hstep
    (by rw [← List.append_assoc mark, byteLength_append (mark ++ done)]) h⟩

end Renders

/-- Where the pieces of a text can be read, so can those of what is rendered in its place. -/
theorem exists_renders (hmarker : markers.zoneAttribute ≠ "style") (hp : palette.opacity.isFinite = true)
    {mark template : List Char} (hm : byteLength mark ≤ 3) (opened : List (List Char)) (offset : Nat)
    (cs : List Char) {done : List Char} {p q : Catalog.Progress} (ht : template = mark ++ done ++ cs)
    (ho : offset = byteLength done)
    (hf : (pieces opened offset cs).foldlM (Catalog.Progress.step markers template) p = .ok q)
    (hr : ∀ t ∈ (pieces opened offset cs).filterMap Piece.startTag?,
      IsClearWhereDamaged markers template snapshot t.1) :
    ∃ out, Renders markers palette snapshot mark opened (byteLength (mark ++ done)) cs
      (((pieces opened offset cs).filterMap Piece.startTag?).filterMap fun t =>
        Zone.declared? markers template t.1) p q out := by
  -- What follows a token is rendered first: a token other than a start tag is then kept, a start tag replaced.
  fun_induction pieces opened offset cs generalizing done p with
  | case1 opened offset cs hd =>
      cases hf
      have hopen : '<' ∉ cs := fun hm => by simpa using List.dropWhile_eq_nil_iff.1 hd _ hm
      exact ⟨cs, .ended (pieces_of_notMem hopen opened) _⟩
  | case2 opened offset cs c markup hd hc =>
      cases hf
      obtain ⟨gap, rfl, hg, -⟩ := exists_gap hd
      refine ⟨_, .ended (fun offset' => ?_) _⟩
      rw [pieces_open hg, hc]
  | case3 => cases hf
  | case4 => cases hf
  | case5 opened offset cs c markup hd start token size rest hc _ piece opened' hb hpiece =>
      rename_i ih
      obtain ⟨gap, rfl, hg, hgap⟩ := exists_gap hd
      have hstart : start = offset + byteLength gap + 1 := congrArg (offset + byteLength · + 1) hgap
      clear_value start
      obtain ⟨used, rfl, hsize, htag⟩ := cutToken_eq hc
      obtain ⟨p₁, hstep, hf⟩ := ok_of_foldlM_cons hf
      have hstop : start + size = byteLength (done ++ (gap ++ '<' :: used)) := by
        rw [byteLength_append, Renders.byteLength_open, hsize, hstart, ho]
        omega
      have htemplate : template = mark ++ (done ++ (gap ++ '<' :: used)) ++ rest := by
        rw [ht]
        simp
      rw [List.filterMap_cons] at hr ⊢
      rcases startTag?_piece hpiece with ⟨raw, element, rfl, hst, -⟩ | hst
      · rw [hst] at hr ⊢
        obtain ⟨hclear, hmore⟩ := List.forall_mem_cons.1 hr
        obtain ⟨out, h⟩ := ih htemplate hstop hf hmore
        obtain rfl := htag raw rfl
        obtain ⟨content, slash, rfl, hs, hl⟩ := exists_slash raw
        rw [piece_tag hs hl] at hpiece
        cases hpiece
        obtain ⟨tag, htag'⟩ := startTag?_ofElement slash (.ofContent content (start + size))
        obtain ⟨rfl, -⟩ := Prod.mk.inj (Option.some.inj (htag'.symm.trans hst))
        obtain ⟨zone?, hz, -⟩ := ok_of_bind ((step_ofElement template p slash _).symm.trans hstep)
        have hdeclared : Zone.declared? markers template (.ofContent content (start + size)) = zone? := by
          rw [Zone.declared?, hz]
          rfl
        simp only [List.append_assoc, List.cons_append, List.nil_append] at hc hstop h ⊢
        obtain ⟨out', hrenders⟩ := h.exists_tag hmarker hp hm hg hs hl (by simpa using hc) (by simpa using ht)
          (by simpa using hstop) hz hclear hstep
        rw [List.append_assoc] at hrenders
        refine ⟨out', ?_⟩
        rw [List.filterMap_cons, hdeclared]
        cases zone? with
        | none | some => exact hrenders
      · rw [hst] at hr ⊢
        obtain ⟨out, h⟩ := ih htemplate hstop hf hr
        have hcursor : byteLength (mark ++ (done ++ (gap ++ '<' :: used))) =
            byteLength (mark ++ done) + (byteLength gap + 1 + size) := by
          rw [← List.append_assoc mark, byteLength_append (mark ++ done), Renders.byteLength_open, hsize]
        exact h.other hg hc hpiece hst hb hstep hcursor

theorem Restyled.document_eq {template : String} {catalog : Catalog} {out : List Char}
    (hr : Restyled palette snapshot 0 template.toList catalog.zones out)
    (h : Catalog.load markers template = .ok catalog) :
    (render palette catalog snapshot).document.toList = out := by
  obtain ⟨ht, -⟩ := Catalog.zones_of_load h
  rw [← ht] at hr
  rw [render, document?, hr.splice?_eq catalog.template]
  exact String.toList_ofList

/-- The document that is rendered of a template is what is rendered in place of its text. -/
theorem exists_renders_document {template : String} {catalog : Catalog}
    (h : Catalog.load markers template = .ok catalog) (hmarker : markers.zoneAttribute ≠ "style")
    (hp : palette.opacity.isFinite = true)
    (hr : ∀ t ∈ (Markup.read template.toList).filterMap Piece.startTag?,
      IsClearWhereDamaged markers template.toList snapshot t.1) :
    ∃ mark out text p, (render palette catalog snapshot).document.toList = mark ++ out ∧
      Markup.read (mark ++ out) = pieces [] 0 out ∧ p.depth = 0 ∧ p.zones = catalog.zones ∧
      Renders markers palette snapshot mark [] (byteLength mark) text catalog.zones ⟨0, []⟩ p out := by
  obtain ⟨mark, text, htext, hm, hread⟩ := Markup.exists_mark template.toList
  obtain ⟨p, hf, hdepth, -, rfl⟩ := Catalog.load_eq_ok.1 h
  obtain ⟨-, hz⟩ := Catalog.zones_of_load h
  have hpieces : Markup.read template.toList = pieces [] 0 text := by
    rw [htext]
    exact hread text rfl
  rw [hpieces] at hf hr hz
  have hstart : template.toList = mark ++ [] ++ text := by simpa using htext
  obtain ⟨out, hrenders⟩ := exists_renders hmarker hp hm [] 0 text hstart rfl hf hr
  rw [← hz, List.append_nil] at hrenders
  refine ⟨mark, out, text, p, ?_, hread out hrenders.head_eq, hdepth, rfl, hrenders⟩
  have hskip : Restyled palette snapshot 0 (mark ++ text) p.zones (mark ++ out) :=
    hrenders.restyled.skip (by simp)
  rw [← htext] at hskip
  exact hskip.document_eq h

/-- A rendered overlay is a template again exactly if every style that is shown keeps its references, and then it has
the same zones, each by default as it is shown. The tags of damaged zones are to be clear, for the style of another
tag need not be found where the reader has it. A zone attribute named `style` is overwritten with the style. -/
theorem reload_render {template : String} {catalog : Catalog} (h : Catalog.load markers template = .ok catalog)
    (hmarker : markers.zoneAttribute ≠ "style") (hp : palette.opacity.isFinite = true)
    (hr : ∀ t ∈ (Markup.read template.toList).filterMap Piece.startTag?,
      IsClearWhereDamaged markers template.toList snapshot t.1) :
    ((∃ catalog', Catalog.load markers (render palette catalog snapshot).document = .ok catalog') ↔
        ∀ zone ∈ catalog.zones, KeepsReferences palette snapshot zone) ∧
      ∀ catalog', Catalog.load markers (render palette catalog snapshot).document = .ok catalog' →
        catalog'.zones.map (fun z => (z.id, z.label, z.geometry.element, z.geometry.elementId)) =
            catalog.zones.map (fun z => (z.id, z.label, z.geometry.element, z.geometry.elementId)) ∧
          catalog'.zones.map (fun z => (z.id, z.defaultStyle.fill.toHex, z.defaultStyle.opacity)) =
            (render palette catalog snapshot).zones.map fun s => (s.zone, s.fill, s.opacity) := by
  obtain ⟨mark, out, text, p, hdocument, hread, hdepth, hzones, hrenders⟩ :=
    exists_renders_document h hmarker hp hr
  have hload (catalog' : Catalog) :
      Catalog.load markers (render palette catalog snapshot).document = .ok catalog' ↔ ∃ q,
        (pieces [] (byteLength []) out).foldlM (Catalog.Progress.step markers (mark ++ [] ++ out)) ⟨0, []⟩ = .ok q ∧
          q.depth = 0 ∧ q.zones ≠ [] ∧ catalog' = ⟨(render palette catalog snapshot).document, q.zones⟩ := by
    rw [Catalog.load_eq_ok, hdocument, hread, List.append_nil, byteLength_nil]
  have hkeeps (catalog' : Catalog)
      (h' : Catalog.load markers (render palette catalog snapshot).document = .ok catalog') :
      ∀ zone ∈ catalog.zones, KeepsReferences palette snapshot zone := by
    obtain ⟨q, hq, -⟩ := (hload catalog').1 h'
    exact hrenders.keeps [] ⟨0, []⟩ q ⟨rfl, .nil⟩ hq
  refine ⟨⟨fun ⟨catalog', h'⟩ => hkeeps catalog' h', fun hk => ?_⟩, fun catalog' h' => ?_⟩
  · obtain ⟨q, hq, halike⟩ := hrenders.reads hk [] ⟨0, []⟩ ⟨rfl, .nil⟩
    refine ⟨_, (hload _).2 ⟨q, hq, halike.depth_eq.trans hdepth, fun hnil => ?_, rfl⟩⟩
    obtain ⟨p, -, -, hne, rfl⟩ := Catalog.load_eq_ok.1 h
    have hlength := halike.zones.length_eq
    rw [hnil, hzones] at hlength
    exact hne (List.length_eq_zero_iff.1 hlength)
  · obtain ⟨q, hq, halike⟩ := hrenders.reads (hkeeps catalog' h') [] ⟨0, []⟩ ⟨rfl, .nil⟩
    obtain ⟨q', hq', -, -, rfl⟩ := (hload catalog').1 h'
    cases hq.symm.trans hq'
    have hreloads := halike.zones
    rw [hzones] at hreloads
    refine ⟨map_eq_of_reloads hreloads fun z z' hz => ?_, ?_⟩
    · rw [hz.id_eq, hz.label_eq, hz.element_eq, hz.elementId_eq]
    · rw [render, List.map_map]
      refine map_eq_of_reloads hreloads fun z z' hz => ?_
      rw [hz.id_eq, hz.fill_eq, hz.opacity_eq]
      rfl

theorem reload_render_roof :
    let template := "<svg><a data-zone='roof' style='fill:#fff;stroke:red'/><b data-zone='hood'/></svg>"
    let snapshot : Snapshot := ⟨1, SortedMap.empty.insert "roof" .one⟩
    ∃ catalog catalog', Catalog.load .standard template = .ok catalog ∧
      Catalog.load .standard (render .standard catalog snapshot).document = .ok catalog' ∧
      catalog'.zones.map (fun z => (z.id, z.defaultStyle.fill.toHex, z.defaultStyle.opacity)) =
        (render .standard catalog snapshot).zones.map fun s => (s.zone, s.fill, s.opacity) := by
  intro template snapshot
  have hclear : ∀ t ∈ (Markup.read template.toList).filterMap Piece.startTag?,
      ∀ attributes ∈ t.1.attributes.toOption, t.1.IsClear attributes := by
    decide +kernel
  have hok : ((Catalog.load .standard template).toOption.bind fun catalog =>
      (Catalog.load .standard (render .standard catalog snapshot).document).toOption).isSome = true := by
    decide +kernel
  cases h : Catalog.load .standard template with
  | error fault =>
      rw [h] at hok
      cases hok
  | ok catalog =>
      cases h' : Catalog.load .standard (render .standard catalog snapshot).document with
      | error fault =>
          rw [h] at hok
          simp [Except.toOption, h'] at hok
      | ok catalog' =>
          refine ⟨catalog, catalog', rfl, h', ?_⟩
          exact ((reload_render h (by decide) (by decide +kernel) fun t ht zone _ _ attributes ha =>
            hclear t ht attributes (by rw [ha]; rfl)).2 catalog' h').2

/-- The last declaration ends in a reference: split at the semicolons, the style has lost that of the reference. -/
theorem reload_render_severed :
    let template := "<svg><a data-zone='roof' style='fill:#fff;fill-opacity:1;font-family:&quot;Arial&quot;'/></svg>"
    let snapshot : Snapshot := ⟨1, SortedMap.empty.insert "roof" .one⟩
    Palette.standard.opacity.isFinite = true ∧ (∀ entry ∈ snapshot.severities.entries, entry.2.isNaN = false) ∧
      ((Catalog.load .standard template).toOption.map fun catalog =>
        (Catalog.load .standard (render .standard catalog snapshot).document).isOk) = some false := by
  decide +kernel

end Overlay

end VehicleDamage
