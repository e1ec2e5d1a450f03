import Mathlib.Data.List.Induction
import VehicleDamage.Proofs.Tag.Canonical
import VehicleDamage.Proofs.Template.Placement

/-!
What a tag means: a zone by its own name, else the zones of the last alias that stands for any.
-/

namespace VehicleDamage

/-- Where at most one element has a property, it is the first that has it. -/
theorem filter_eq_toList_find? {α : Type} {p : α → Bool} {as : List α}
    (h : as.Pairwise fun a b => ¬(p a = true ∧ p b = true)) : as.filter p = (as.find? p).toList := by
  induction as with
  | nil => rfl
  | cons a as ih =>
      obtain ⟨ha, has⟩ := List.pairwise_cons.1 h
      rw [List.filter_cons, List.find?_cons]
      split
      · next hp =>
        have hnone : as.filter p = [] := List.filter_eq_nil_iff.2 fun b hb hpb => ha b hb ⟨hp, hpb⟩
        simp [hp, hnone]
      · next hp => simp [hp, ih has]

namespace Resolver

variable {c : Catalog} {aliases : SortedMap (List String)} {impact : ImpactConfig} {tag : String}

/-- A name stands for the zone that normalises alike. -/
def Names (c : Catalog) (name zone : String) : Prop :=
  zone ∈ c.ids ∧ Tag.normalize zone = Tag.normalize name

/-- The zones that targets stand for, each where it comes up first. -/
def targetZones (c : Catalog) (targets : List String) : List String :=
  (targets.flatMap fun target => c.ids.filter fun zone => Tag.normalize zone == Tag.normalize target).eraseDups

/-- An alias that normalises like the tag, and a target of which names a zone. -/
def Speaks (c : Catalog) (tag : String) (entry : String × List String) : Prop :=
  Tag.normalize entry.1 = Tag.normalize tag ∧ ∃ target ∈ entry.2, ∃ zone, Names c target zone

/-- What a tag means over a catalog and a table of aliases. -/
inductive Means (c : Catalog) (aliases : SortedMap (List String)) (tag : String) : List String → Prop
  | blank (normal_eq : Tag.normalize tag = "") : Means c aliases tag []
  | ownName {zone : String} (normal_ne : Tag.normalize tag ≠ "") (names : Names c tag zone)
      (only : ∀ zone', Names c tag zone' → zone' = zone) : Means c aliases tag [zone]
  | byAlias {before after : List (String × List String)} {entry : String × List String}
      (normal_ne : Tag.normalize tag ≠ "") (no_zone : ∀ zone, ¬Names c tag zone)
      (entries_eq : aliases.entries = before ++ entry :: after) (speaks : Speaks c tag entry)
      (last : ∀ e ∈ after, ¬Speaks c tag e) : Means c aliases tag (targetZones c entry.2)
  | unknown (normal_ne : Tag.normalize tag ≠ "") (no_zone : ∀ zone, ¬Names c tag zone)
      (no_alias : ∀ e ∈ aliases.entries, ¬Speaks c tag e) : Means c aliases tag []

/-! ### Zones by name -/

theorem pairwise_normal (hc : c.IsSound) : c.ids.Pairwise fun id id' => Tag.normalize id ≠ Tag.normalize id' :=
  List.pairwise_map.2 hc.distinct

theorem zoneNamed?_eq_some (hc : c.IsSound) {name zone : String} :
    zoneNamed? c (Tag.normalize name) = some zone ↔ Names c name zone :=
  find?_eq_some_iff_of_nodup (List.pairwise_map.2 (pairwise_normal hc))

theorem zoneNamed?_eq_none {name : String} :
    zoneNamed? c (Tag.normalize name) = none ↔ ∀ zone, ¬Names c name zone := by
  simp [zoneNamed?, Names]

theorem filter_ids (hc : c.IsSound) (name : String) :
    (c.ids.filter fun zone => Tag.normalize zone == Tag.normalize name) =
      (zoneNamed? c (Tag.normalize name)).toList := by
  refine filter_eq_toList_find? ((pairwise_normal hc).imp fun hne hp => hne ?_)
  exact (beq_iff_eq.1 hp.1).trans (beq_iff_eq.1 hp.2).symm

/-! ### Zones by alias -/

theorem eraseDups_concat (zones : List String) (zone : String) :
    (zones ++ [zone]).eraseDups = if zone ∈ zones then zones.eraseDups else zones.eraseDups ++ [zone] := by
  rw [List.eraseDups_append]
  by_cases h : zone ∈ zones <;> simp [List.removeAll, List.eraseDups_cons, h]

/-- The zones settled for an alias are those its targets stand for. -/
theorem aliasZones_eq (hc : c.IsSound) (targets : List String) : aliasZones c targets = targetZones c targets := by
  induction targets using List.reverseRecOn with
  | nil => rfl
  | append_singleton targets target ih =>
      have hmem (zone : String) : (aliasZones c targets).contains zone = true ↔
          zone ∈ targets.flatMap fun target => c.ids.filter fun zone =>
            Tag.normalize zone == Tag.normalize target := by
        rw [ih, targetZones, List.contains_iff_mem, List.mem_eraseDups]
      rw [targetZones, List.flatMap_append, List.flatMap_singleton, filter_ids hc, aliasZones, List.foldl_concat,
        ← aliasZones]
      cases zoneNamed? c (Tag.normalize target) with
      | none =>
          rw [Option.toList_none, List.append_nil]
          exact ih
      | some zone =>
          rw [Option.toList_some, eraseDups_concat, ← targetZones, ← ih]
          simp only [hmem]

theorem mem_targetZones {targets : List String} {zone : String} :
    zone ∈ targetZones c targets ↔ ∃ target ∈ targets, Names c target zone := by
  simp [targetZones, List.mem_eraseDups, Names]

theorem targetZones_isEmpty_iff {targets : List String} :
    (targetZones c targets).isEmpty = true ↔ ¬∃ target ∈ targets, ∃ zone, Names c target zone := by
  rw [List.isEmpty_iff, List.eq_nil_iff_forall_not_mem]
  simp only [mem_targetZones]
  grind

/-- What an alias puts into the table. -/
def enter (c : Catalog) (table : SortedMap (List String)) (entry : String × List String) : SortedMap (List String) :=
  if (aliasZones c entry.2).isEmpty then table
  else table.insert (Tag.normalize entry.1) (aliasZones c entry.2)

theorem resolvedAliases_eq (c : Catalog) (aliases : SortedMap (List String)) :
    resolvedAliases c aliases = aliases.entries.foldl (enter c) .empty := rfl

/-- An alias decides about the tags it speaks for, and about no others. -/
theorem get?_enter (hc : c.IsSound) (table : SortedMap (List String)) (entry : String × List String) :
    (Speaks c tag entry → (enter c table entry).get? (Tag.normalize tag) = some (targetZones c entry.2)) ∧
      (¬Speaks c tag entry → (enter c table entry).get? (Tag.normalize tag) = table.get? (Tag.normalize tag)) := by
  rw [enter, aliasZones_eq hc]
  split
  · next he =>
    exact ⟨fun hs => absurd hs.2 (targetZones_isEmpty_iff.1 he), fun _ => rfl⟩
  · next he =>
    have hz := not_not.1 (mt targetZones_isEmpty_iff.2 he)
    rw [SortedMap.get?_insert]
    exact ⟨fun hs => if_pos hs.1.symm, fun hs => if_neg fun hk => hs ⟨hk.symm, hz⟩⟩

theorem get?_foldl_enter (hc : c.IsSound) {entries : List (String × List String)} (h : ∀ e ∈ entries, ¬Speaks c tag e)
    (table : SortedMap (List String)) :
    (entries.foldl (enter c) table).get? (Tag.normalize tag) = table.get? (Tag.normalize tag) := by
  induction entries generalizing table with
  | nil => rfl
  | cons e entries ih =>
      obtain ⟨he, hentries⟩ := List.forall_mem_cons.1 h
      rw [List.foldl_cons, ih hentries, (get?_enter hc table e).2 he]

/-- The table of a resolver holds the zones of the last alias that speaks for a tag. -/
theorem get?_resolvedAliases (hc : c.IsSound) {before after : List (String × List String)}
    {entry : String × List String} (he : aliases.entries = before ++ entry :: after) (hs : Speaks c tag entry)
    (hlast : ∀ e ∈ after, ¬Speaks c tag e) :
    (resolvedAliases c aliases).get? (Tag.normalize tag) = some (targetZones c entry.2) := by
  rw [resolvedAliases_eq, he, List.foldl_append, List.foldl_cons, get?_foldl_enter hc hlast,
    (get?_enter hc _ entry).1 hs]

theorem get?_resolvedAliases_eq_none (hc : c.IsSound) (h : ∀ e ∈ aliases.entries, ¬Speaks c tag e) :
    (resolvedAliases c aliases).get? (Tag.normalize tag) = none := by
  rw [resolvedAliases_eq, get?_foldl_enter hc h, SortedMap.get?_empty]

/-- Among entries none speaks for a tag, or there is a last one that does. -/
theorem exists_last_speaking (c : Catalog) (tag : String) (entries : List (String × List String)) :
    (∀ e ∈ entries, ¬Speaks c tag e) ∨ ∃ before entry after, entries = before ++ entry :: after ∧
      Speaks c tag entry ∧ ∀ e ∈ after, ¬Speaks c tag e := by
  induction entries with
  | nil => exact .inl nofun
  | cons e entries ih =>
      rcases ih with hnone | ⟨before, entry, after, rfl, hs, hlast⟩
      · by_cases he : Speaks c tag e
        · exact .inr ⟨[], e, entries, rfl, he, hnone⟩
        · exact .inl (List.forall_mem_cons.2 ⟨he, hnone⟩)
      · exact .inr ⟨e :: before, entry, after, rfl, hs, hlast⟩

/-! ### Tags -/

theorem resolveTag_blank (r : Resolver) (h : Tag.normalize tag = "") : r.resolveTag tag = [] := by
  rw [resolveTag, h]
  rfl

theorem resolveTag_eq (h : Tag.normalize tag ≠ "") : (ofCatalog c aliases impact).resolveTag tag =
    match zoneNamed? c (Tag.normalize tag) with
    | some zone => [zone]
    | none => (((resolvedAliases c aliases).get? (Tag.normalize tag)).getD []).filter c.contains := by
  have hne : (Tag.normalize tag).isEmpty = false := by
    rw [← Bool.not_eq_true, String.isEmpty_iff]
    exact h
  rw [resolveTag]
  simp only [hne, Bool.false_eq_true, if_false]
  rfl

/-- A name that stands for a zone means that zone, whatever the aliases. -/
theorem resolveTag_of_names (hc : c.IsSound) (h : Tag.normalize tag ≠ "") {zone : String} (hz : Names c tag zone) :
    (ofCatalog c aliases impact).resolveTag tag = [zone] := by
  rw [resolveTag_eq h, (zoneNamed?_eq_some hc).2 hz]

/-- What the resolver makes of a tag is what the tag means. -/
theorem Means.resolveTag_eq (hc : c.IsSound) {zones : List String} (h : Means c aliases tag zones) :
    (ofCatalog c aliases impact).resolveTag tag = zones := by
  cases h with
  | blank normal_eq => exact resolveTag_blank _ normal_eq
  | ownName normal_ne names only => exact resolveTag_of_names hc normal_ne names
  | @byAlias before after entry normal_ne no_zone entries_eq speaks last =>
      have hzones : ∀ zone ∈ targetZones c entry.2, c.contains zone = true := fun zone hz => by
        obtain ⟨target, -, hn⟩ := mem_targetZones.1 hz
        exact Catalog.contains_iff.2 hn.1
      rw [Resolver.resolveTag_eq normal_ne, zoneNamed?_eq_none.2 no_zone,
        get?_resolvedAliases hc entries_eq speaks last]
      exact List.filter_eq_self.2 hzones
  | unknown normal_ne no_zone no_alias =>
      rw [Resolver.resolveTag_eq normal_ne, zoneNamed?_eq_none.2 no_zone, get?_resolvedAliases_eq_none hc no_alias]
      rfl

/-- Every tag means something. -/
theorem exists_means (hc : c.IsSound) (aliases : SortedMap (List String)) (tag : String) :
    ∃ zones, Means c aliases tag zones := by
  by_cases hn : Tag.normalize tag = ""
  · exact ⟨_, .blank hn⟩
  · cases hz : zoneNamed? c (Tag.normalize tag) with
    | some zone =>
        refine ⟨_, .ownName hn ((zoneNamed?_eq_some hc).1 hz) fun zone' hz' => ?_⟩
        exact Option.some.inj (((zoneNamed?_eq_some hc).2 hz').symm.trans hz)
    | none =>
        have hnone := zoneNamed?_eq_none.1 hz
        rcases exists_last_speaking c tag aliases.entries with hs | ⟨before, entry, after, he, hs, hlast⟩
        · exact ⟨_, .unknown hn hnone hs⟩
        · exact ⟨_, .byAlias hn hnone he hs hlast⟩

/-- Over a catalog that is loaded a tag resolves to what it means, and every source to distinct zones of the
catalog. -/
theorem resolves_as_meant {markers : Markers} {template : String} (h : Catalog.load markers template = .ok c)
    (aliases : SortedMap (List String)) (impact : ImpactConfig) :
    (∀ tag zones, (ofCatalog c aliases impact).resolveTag tag = zones ↔ Means c aliases tag zones) ∧
      ∀ source, ((ofCatalog c aliases impact).resolve source).Nodup ∧
        ∀ zone ∈ (ofCatalog c aliases impact).resolve source, zone ∈ c.ids := by
  have hc := Catalog.IsSound.of_load h
  refine ⟨fun tag zones => ⟨fun hr => ?_, fun hm => hm.resolveTag_eq hc⟩, fun source => ?_⟩
  · obtain ⟨zones', hm⟩ := exists_means hc aliases tag
    rw [← hr, hm.resolveTag_eq hc]
    exact hm
  · exact ⟨nodup_resolve c aliases impact source, fun zone hz => mem_ids_of_mem_resolve hz⟩

/-- Of two aliases that normalise alike the last stands for no zone, so the first counts; it names a zone twice. -/
theorem resolves_as_meant_top : ∃ c,
    Catalog.load .standard "<svg><a data-zone='Roof'/><b data-zone='rear tire'/></svg>" = .ok c ∧
      Means c (.ofList [("TOP", ["roof", "bonnet", "ROOF", "Rear_Tyre"]), ("top ", ["bonnet"])]) "Top"
        ["roof", "rear tire"] := by
  have hzones : ((Catalog.load .standard "<svg><a data-zone='Roof'/><b data-zone='rear tire'/></svg>").toOption.map
      fun c => (ofCatalog c (.ofList [("TOP", ["roof", "bonnet", "ROOF", "Rear_Tyre"]), ("top ", ["bonnet"])])
        Config.standard.impact).resolveTag "Top") = some ["roof", "rear tire"] := by
    decide +kernel
  cases h : Catalog.load .standard "<svg><a data-zone='Roof'/><b data-zone='rear tire'/></svg>" with
  | error fault =>
      rw [h] at hzones
      cases hzones
  | ok c =>
      rw [h] at hzones
      exact ⟨c, rfl, ((resolves_as_meant h _ _).1 _ _).1 (Option.some.inj hzones)⟩

/-- Tags that normalise like a zone mean that zone, whatever the aliases, unless its identifier is made of
separators only: then they mean nothing. -/
theorem addressed_iff {markers : Markers} {template : String} (h : Catalog.load markers template = .ok c)
    (aliases : SortedMap (List String)) (impact : ImpactConfig) {zone : Zone} (hz : zone ∈ c.zones)
    (ht : Tag.normalize tag = Tag.normalize zone.id) :
    ((ofCatalog c aliases impact).resolveTag tag = [zone.id] ↔
        ∃ ch ∈ zone.id.toList, Tag.isSeparator ch = false) ∧
      ((∀ ch ∈ zone.id.toList, Tag.isSeparator ch = true) → (ofCatalog c aliases impact).resolveTag tag = []) := by
  have hc := Catalog.IsSound.of_load h
  have hempty : Tag.normalize tag = "" ↔ ∀ ch ∈ zone.id.toList, Tag.isSeparator ch = true := by
    rw [ht, Tag.normalize_eq_empty_iff]
  have hseparators (hall : ∀ ch ∈ zone.id.toList, Tag.isSeparator ch = true) :
      (ofCatalog c aliases impact).resolveTag tag = [] := resolveTag_blank _ (hempty.2 hall)
  refine ⟨⟨fun hr => ?_, fun ⟨ch, hch, hs⟩ => ?_⟩, hseparators⟩
  · by_contra hn
    rw [hseparators (by simpa using hn)] at hr
    cases hr
  · have hne : Tag.normalize tag ≠ "" := fun he => by
      rw [hempty.1 he ch hch] at hs
      cases hs
    exact resolveTag_of_names hc hne ⟨List.mem_map_of_mem hz, ht.symm⟩

/-- An alias with the name of a zone does not stand in its way. -/
theorem addressed_iff_roof : ∃ c zone, Catalog.load .standard "<svg><a data-zone='Roof'/><b data-zone='hood'/></svg>" =
    .ok c ∧ zone ∈ c.zones ∧ Tag.normalize "ROOF_" = Tag.normalize zone.id ∧
      (ofCatalog c (.ofList [("roof", ["hood"])]) Config.standard.impact).resolveTag "ROOF_" = [zone.id] := by
  have hzone : ((Catalog.load .standard "<svg><a data-zone='Roof'/><b data-zone='hood'/></svg>").toOption.bind
      fun c => c.zones.head?).map Zone.id = some "roof" := by
    decide +kernel
  cases h : Catalog.load .standard "<svg><a data-zone='Roof'/><b data-zone='hood'/></svg>" with
  | error fault =>
      rw [h] at hzone
      cases hzone
  | ok c =>
      rw [h] at hzone
      obtain ⟨zone, hz, hid⟩ := Option.map_eq_some_iff.1 hzone
      have hmem : zone ∈ c.zones := List.mem_of_head? hz
      have ht : Tag.normalize "ROOF_" = Tag.normalize zone.id := by
        rw [hid]
        decide +kernel
      refine ⟨c, zone, rfl, hmem, ht, (addressed_iff h _ _ hmem ht).1.2 ⟨'r', ?_, by decide⟩⟩
      rw [hid]
      decide

/-- A zone that is loaded, that an alias stands for, and that its own identifier does not mean. -/
theorem separators_unaddressed : let catalog := Catalog.load .standard "<svg><a data-zone='---'/></svg>"
    catalog.toOption.map Catalog.ids = some ["---"] ∧
      (catalog.toOption.map fun c =>
        (ofCatalog c (.ofList [("gap", ["---"])]) Config.standard.impact).resolveTag "gap") =
        some ["---"] ∧
      (catalog.toOption.map fun c =>
        (ofCatalog c (.ofList [("gap", ["---"])]) Config.standard.impact).resolveTag "---") =
        some [] := by
  decide +kernel

end Resolver

end VehicleDamage
