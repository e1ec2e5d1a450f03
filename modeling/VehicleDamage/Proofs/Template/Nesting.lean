import VehicleDamage.Proofs.Markup.Nesting
import VehicleDamage.Proofs.Template.Recognition

/-!
Only templates whose tags are properly nested are loaded, but that the end of the text may cut off the last end tag.
-/

namespace VehicleDamage

open Markup

namespace Catalog

variable {markers : Markers} {template : List Char}

theorem depth_visit {p p' : Progress} {element : Element} (h : p.visit markers template element = .ok p') :
    p'.depth = p.depth := by
  obtain ⟨zone?, -, h⟩ := ok_of_bind h
  cases zone? with
  | none =>
      cases h
      rfl
  | some zone =>
      simp only [Progress.declare] at h
      split at h <;> cases h
      rfl

/-- What is read without a fault is sound. -/
theorem sound_of_foldlM {p p' : Progress} {pieces : List Piece}
    (h : pieces.foldlM (Progress.step markers template) p = .ok p') (fault : Fault) : .broken fault ∉ pieces := by
  intro hm
  obtain ⟨before, after, rfl⟩ := List.append_of_mem hm
  obtain ⟨q, -, h⟩ := ok_of_foldlM_append h
  obtain ⟨r, hr, -⟩ := ok_of_foldlM_cons h
  cases hr

/-- The depth counts the elements that are open, piece by piece. -/
theorem depth_of_follows {opened final : List (List Char)} {brackets : List Bracket} {pieces : List Piece}
    (hp : Follows opened brackets pieces final) {p p' : Progress} (hd : p.depth = opened.length)
    (h : pieces.foldlM (Progress.step markers template) p = .ok p') : p'.depth = final.length := by
  induction hp generalizing p with
  | nil opened =>
      cases h
      exact hd
  | passedOver follows ih =>
      obtain ⟨q, hq, h⟩ := ok_of_foldlM_cons h
      cases hq
      exact ih hd h
  | start element follows ih =>
      obtain ⟨q, hq, h⟩ := ok_of_foldlM_cons h
      exact ih ((depth_visit hq).trans (congrArg (· + 1) hd)) h
  | empty element follows ih =>
      obtain ⟨q, hq, h⟩ := ok_of_foldlM_cons h
      exact ih ((depth_visit hq).trans hd) h
  | finish name closed follows ih =>
      obtain ⟨q, hq, h⟩ := ok_of_foldlM_cons h
      cases hq
      exact ih (congrArg (· - 1) hd) h

/-- A template that is loaded has its tags properly nested, unless its text ends in an end tag before the `>`. No end
tag is met at depth zero, and the zones are those that its start tags and empty tags declare, in their order. -/
theorem load_nested {template : String} {catalog : Catalog} (h : load markers template = .ok catalog) :
    ∃ brackets, (∀ other, Bracketed 0 (body template.toList) other ↔ other = brackets) ∧
      NestedToEnd brackets ∧ (Nested brackets ↔ ∀ name, .finish name false ∉ brackets) ∧
      (∀ before name after, Markup.read template.toList = before ++ .closing name :: after →
        ∃ p, before.foldlM (Progress.step markers template.toList) ⟨0, []⟩ = .ok p ∧ 0 < p.depth) ∧
      (∀ element ∈ brackets.filterMap Bracket.element?,
        ∃ zone?, Zone.ofElement? markers template.toList element = .ok zone?) ∧
      catalog.zones = (brackets.filterMap Bracket.element?).filterMap (Zone.declared? markers template.toList) := by
  obtain ⟨p, hf, hdepth, -⟩ := load_eq_ok.1 h
  have hsound := sound_of_foldlM hf
  rw [read_eq_body] at hsound
  obtain ⟨brackets, final, hbracketed, hfollows⟩ := exists_bracketed hsound
  rw [← read_eq_body] at hfollows
  obtain rfl : final = [] := List.length_eq_zero_iff.1 ((depth_of_follows hfollows rfl hf).symm.trans hdepth)
  have hends : NestedToEnd brackets := ⟨hfollows.nested, fun name => hbracketed.last_of_cut⟩
  refine ⟨brackets, fun other => ⟨fun ho => ho.unique hbracketed, fun ho => ho ▸ hbracketed⟩, hends, hends.nested_iff,
    fun before name after hread => ?_, ?_, ?_⟩
  · rw [hread] at hfollows hf
    obtain ⟨middle, xs, ys, -, hbefore, hafter⟩ := hfollows.split
    obtain ⟨q, hq, -⟩ := ok_of_foldlM_append hf
    refine ⟨q, hq, ?_⟩
    rw [depth_of_follows hbefore rfl hq]
    cases hafter with
    | finish => exact Nat.succ_pos _
  · rw [hfollows.elements_eq]
    intro element hm
    obtain ⟨t, ht, rfl⟩ := List.mem_map.1 hm
    exact ofElement?_of_load h t ht
  · rw [hfollows.elements_eq, List.filterMap_map]
    exact (zones_of_load h).2

/-- Tags in a comment and in character data are no brackets. -/
theorem load_nested_comment : ∃ catalog brackets,
    load .standard "<svg><!-- <a> --><g data-zone='roof'><![CDATA[</g>]]><b/></g></svg>" = .ok catalog ∧
      Bracketed 0 (body "<svg><!-- <a> --><g data-zone='roof'><![CDATA[</g>]]><b/></g></svg>".toList) brackets ∧
      NestedToEnd brackets ∧ catalog.ids = ["roof"] := by
  have hids : (load .standard "<svg><!-- <a> --><g data-zone='roof'><![CDATA[</g>]]><b/></g></svg>").toOption.map ids =
      some ["roof"] := by
    decide +kernel
  obtain ⟨catalog, h, hroof⟩ := ok_of_toOption hids
  obtain ⟨brackets, hbracketed, hnested, -⟩ := load_nested h
  exact ⟨catalog, brackets, h, (hbracketed brackets).2 rfl, hnested, hroof⟩

/-- An end tag that the end of the text cuts off closes the element of its name. -/
theorem load_unclosed : ∃ catalog brackets, load .standard "<svg><a data-zone='roof'/></svg" = .ok catalog ∧
    Bracketed 0 (body "<svg><a data-zone='roof'/></svg".toList) brackets ∧ ¬Nested brackets := by
  have hids : (load .standard "<svg><a data-zone='roof'/></svg").toOption.map ids = some ["roof"] := by
    decide +kernel
  have hsvg : Bracketed 0 (body "<svg><a data-zone='roof'/></svg".toList) _ :=
    @Bracketed.token 0 5 4 [] _ _ (.tag "svg".toList) _ List.not_mem_nil rfl rfl <|
      @Bracketed.token 5 26 20 [] _ _ (.tag "a data-zone='roof'/".toList) _ List.not_mem_nil rfl rfl <|
        @Bracketed.token 26 31 4 [] _ _ (.endTag "/svg".toList false) _ List.not_mem_nil rfl rfl <|
          .text 31 List.not_mem_nil
  obtain ⟨catalog, h, -⟩ := ok_of_toOption hids
  exact ⟨catalog, _, h, hsvg, fun hn => hn.not_cut "svg".toList (.tail _ (.tail _ (.head _)))⟩

end Catalog

end VehicleDamage
