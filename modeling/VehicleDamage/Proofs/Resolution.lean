import VehicleDamage.Resolver
import Mathlib.Data.List.Nodup

/-!
What a source resolves to: zones of the catalog, none of them twice.
-/

namespace VehicleDamage

theorem Catalog.contains_iff {c : Catalog} {id : String} : c.contains id = true ↔ id ∈ c.ids := by
  simp [contains, ids]

namespace Resolver

theorem zoneNamed?_some {c : Catalog} {normal id : String} (h : zoneNamed? c normal = some id) :
    id ∈ c.ids ∧ Tag.normalize id = normal :=
  ⟨List.mem_of_find?_eq_some h, by simpa using List.find?_some h⟩

/-- What holds of a list of zones that an alias may stand for. -/
def Targets (c : Catalog) (zones : List String) : Prop :=
  zones.Nodup ∧ ∀ zone ∈ zones, zone ∈ c.ids

theorem Targets.concat {c : Catalog} {zones : List String} {zone : String} (h : Targets c zones)
    (hz : zone ∈ c.ids) (hn : zone ∉ zones) : Targets c (zones ++ [zone]) := by
  refine ⟨?_, ?_⟩
  · rw [List.nodup_append]
    refine ⟨h.1, by simp, ?_⟩
    intro a ha b hb he
    obtain rfl := List.mem_singleton.1 hb
    exact hn (he ▸ ha)
  · intro a ha
    rcases List.mem_append.1 ha with ha | ha
    · exact h.2 a ha
    · exact List.mem_singleton.1 ha ▸ hz

theorem targets_aliasZones (c : Catalog) (targets : List String) : Targets c (aliasZones c targets) := by
  rw [aliasZones]
  refine List.foldlRecOn targets _ ⟨List.nodup_nil, by simp⟩ ?_
  intro zones h target _
  split
  · next zone hz =>
    split
    · exact h
    · next hn => exact h.concat (zoneNamed?_some hz).1 (by simpa using hn)
  · exact h

theorem targets_resolvedAliases (c : Catalog) (aliases : SortedMap (List String)) :
    ∀ e ∈ (resolvedAliases c aliases).entries, Targets c e.2 := by
  rw [resolvedAliases]
  refine List.foldlRecOn (motive := fun table : SortedMap (List String) => ∀ e ∈ table.entries, Targets c e.2)
    aliases.entries _ (by simp [SortedMap.empty]) ?_
  intro table h entry _
  dsimp only
  split
  · exact h
  · intro e he
    rcases SortedMap.mem_place he with rfl | he
    · exact targets_aliasZones c entry.2
    · exact h e he

/-- A tag means distinct zones. The resolver has to be one that is built from a catalog, for the zones of an
alias are settled there. -/
theorem nodup_resolveTag (c : Catalog) (aliases : SortedMap (List String)) (impact : ImpactConfig)
    (tag : String) :
    ((ofCatalog c aliases impact).resolveTag tag).Nodup := by
  unfold resolveTag
  dsimp only
  split
  · exact List.nodup_nil
  · split
    · exact List.nodup_singleton _
    · apply List.Nodup.filter
      cases h : (ofCatalog c aliases impact).aliases.get? (Tag.normalize tag) with
      | none => exact List.nodup_nil
      | some zones => exact (targets_resolvedAliases c aliases _ (SortedMap.mem_of_get? h)).1

theorem nodup_zoneNames (k : ImpactClass) (v : ImpactVector) : (k.zoneNames v.sideName v.endName).Nodup := by
  have hs : v.sideName = "right" ∨ v.sideName = "left" := by
    rw [ImpactVector.sideName]
    split <;> simp
  have hf : v.endName = "front" ∨ v.endName = "rear" := by
    rw [ImpactVector.endName]
    split <;> simp
  rcases hs with hs | hs <;> rcases hf with hf | hf <;> rw [hs, hf] <;> cases k <;> decide

theorem nodup_resolveImpact (r : Resolver) (v : ImpactVector) : (r.resolveImpact v).Nodup := by
  rw [resolveImpact]
  split
  · exact List.nodup_nil
  · refine (nodup_zoneNames _ v).filterMap ?_
    -- two names that find the same zone are both its normal form
    intro name name' zone h h'
    exact (zoneNamed?_some h).2.symm.trans (zoneNamed?_some h').2

theorem nodup_resolve (c : Catalog) (aliases : SortedMap (List String)) (impact : ImpactConfig)
    (source : ZoneSource) : ((ofCatalog c aliases impact).resolve source).Nodup := by
  cases source with
  | tag tag => exact nodup_resolveTag c aliases impact tag
  | impact v => exact nodup_resolveImpact _ v

theorem mem_ids_of_mem_resolve {r : Resolver} {source : ZoneSource} {zone : String}
    (h : zone ∈ r.resolve source) : zone ∈ r.catalog.ids := by
  cases source with
  | tag tag =>
      simp only [resolve, resolveTag] at h
      split at h
      · cases h
      · split at h
        · next zone' hz =>
          obtain rfl := List.mem_singleton.1 h
          exact (zoneNamed?_some hz).1
        · exact Catalog.contains_iff.1 (List.mem_filter.1 h).2
  | impact v =>
      simp only [resolve, resolveImpact] at h
      split at h
      · cases h
      · obtain ⟨name, -, hz⟩ := List.mem_filterMap.1 h
        exact (zoneNamed?_some hz).1

end Resolver

end VehicleDamage
