import VehicleDamage.Proofs.Tag.Meaning

/-!
Look-ups by index. The zones of a catalog are searched for; maps that are filled in the order of the document, with the
place of each zone under its identifier and its identifier under the normal form of that, find the same, since no two
zones of a loaded catalog go by one name.
-/

namespace VehicleDamage

namespace SortedMap

variable {α : Type}

theorem get?_foldl_insert {es : List (String × α)} (h : es.Pairwise fun d e => d.1 ≠ e.1) (m : SortedMap α)
    (key : String) :
    (es.foldl (fun m e => m.insert e.1 e.2) m).get? key = (es.lookup key).or (m.get? key) := by
  induction es generalizing m with
  | nil => rfl
  | cons e es ih =>
      obtain ⟨he, hes⟩ := List.pairwise_cons.1 h
      rw [List.foldl_cons, ih hes, get?_insert, lookup_entry]
      by_cases hk : key = e.1
      · have hnone : es.lookup key = none := List.lookup_eq_none_iff.2 fun d hd => by
          rw [hk]
          exact bne_iff_ne.2 (he d hd)
        rw [if_pos hk, if_pos hk, hnone]
        rfl
      · rw [if_neg hk, if_neg hk]

/-- Entries with a key each are found where they are listed. -/
theorem get?_ofList {es : List (String × α)} (h : es.Pairwise fun d e => d.1 ≠ e.1) (key : String) :
    (ofList es).get? key = es.lookup key := by
  rw [ofList, get?_foldl_insert h, get?_empty, Option.or_none]

end SortedMap

theorem lookup_map_eq_find? {α β : Type} (key : α → String) (value : α → β) (as : List α) (k : String) :
    (as.map fun a => (key a, value a)).lookup k = (as.find? fun a => key a == k).map value := by
  induction as with
  | nil => rfl
  | cons a as ih =>
      rw [List.map_cons, SortedMap.lookup_entry, List.find?_cons]
      by_cases hk : k = key a
      · rw [if_pos hk, beq_iff_eq.2 hk.symm]
        rfl
      · rw [if_neg hk, beq_false_of_ne (Ne.symm hk), ih]

namespace Catalog

variable {c : Catalog}

/-- The place of each zone, by its identifier. -/
def index (c : Catalog) : SortedMap Nat :=
  .ofList (c.zones.zipIdx.map fun e => (e.1.id, e.2))

theorem get?_index (h : c.IsSound) (id : String) : c.index.get? id = c.zones.findIdx? (·.id == id) := by
  have hzones : (c.zones.zipIdx.map Prod.fst).Pairwise fun zone zone' => zone.id ≠ zone'.id := by
    rw [List.zipIdx_map_fst]
    exact List.pairwise_map.1 h.nodup
  have hkeys : (c.zones.zipIdx.map fun e => (e.1.id, e.2)).Pairwise fun d e => d.1 ≠ e.1 :=
    List.pairwise_map.2 (hzones.of_map Prod.fst fun _ _ hne => hne)
  rw [index, SortedMap.get?_ofList hkeys, List.findIdx?_eq_fst_find?_zipIdx]
  exact lookup_map_eq_find? (fun e : Zone × Nat => e.1.id) Prod.snd _ _

/-- The zone at the place that the index gives is the one that a search finds. -/
theorem zone?_eq_index (h : c.IsSound) (id : String) : c.zone? id = (c.index.get? id).bind (c.zones[·]?) := by
  rw [get?_index h, zone?, List.find?_eq_bind_findIdx?_getElem?]

theorem contains_eq_index (h : c.IsSound) (id : String) : c.contains id = c.index.contains id := by
  rw [SortedMap.contains, get?_index h, contains, List.findIdx?_isSome]

end Catalog

namespace Resolver

variable {c : Catalog}

/-- The identifiers of the zones, by their normal forms. -/
def byName (c : Catalog) : SortedMap String :=
  .ofList (c.ids.map fun id => (Tag.normalize id, id))

theorem zoneNamed?_eq_byName (h : c.IsSound) (normal : String) : zoneNamed? c normal = (byName c).get? normal := by
  have hkeys : (c.ids.map fun id => (Tag.normalize id, id)).Pairwise fun d e => d.1 ≠ e.1 :=
    List.pairwise_map.2 (pairwise_normal h)
  have hfind := lookup_map_eq_find? Tag.normalize id c.ids normal
  rw [Option.map_id] at hfind
  rw [byName, SortedMap.get?_ofList hkeys]
  exact hfind.symm

end Resolver

end VehicleDamage
