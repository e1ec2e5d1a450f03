import VehicleDamage.Proofs.Service.Tracking

/-!
Putting a new catalog in place: what is reported of it, what becomes of the vehicles, and that afterwards sources
resolve as if the service had been made with the new catalog.
-/

namespace VehicleDamage

theorem Catalog.contains_eq (c : Catalog) (id : String) : c.contains id = decide (id ∈ c.ids) := by
  rw [Bool.eq_iff_iff, contains_iff, decide_eq_true_iff]

namespace State

/-- A catalog drops the severities of the zones that it does not have. -/
theorem droppedBy_eq (s : State) (catalog : Catalog) :
    s.droppedBy catalog = s.severities.keys.countP (· ∉ catalog.ids) := by
  have hl := List.length_eq_length_filter_add (l := s.severities.entries) fun e => catalog.contains e.1
  have hc : s.severities.keys.countP (· ∉ catalog.ids) =
      (s.severities.entries.filter fun e => !catalog.contains e.1).length := by
    rw [SortedMap.keys, List.countP_map, List.countP_eq_length_filter]
    simp only [Catalog.contains_eq, Function.comp_def, decide_not]
  rw [hc]
  show s.severities.entries.length - (s.severities.entries.filter fun e => catalog.contains e.1).length = _
  omega

theorem get?_rebind (s : State) (catalog : Catalog) (zone : String) :
    (s.rebind catalog).severities.get? zone = if zone ∈ catalog.ids then s.severities.get? zone else none := by
  rw [rebind, SortedMap.get?_filterKeys, Catalog.contains_eq]
  simp only [decide_eq_true_iff]

end State

namespace Service

theorem tracked_reload (s : Service) (catalog : Catalog) : (s.reload catalog).tracked = s.tracked := by
  simp only [tracked, SortedMap.keys, reload, SortedMap.mapValues, List.map_map]
  rfl

theorem resolver_reload (s : Service) (catalog : Catalog) :
    (s.reload catalog).resolver = (new catalog s.options).resolver :=
  rfl

theorem entriesDropped_eq (s : Service) (catalog : Catalog) :
    (s.reloadReport catalog).entriesDropped =
      (s.vehicles.entries.flatMap fun e => e.2.severities.keys).countP (· ∉ catalog.ids) := by
  simp only [reloadReport, State.droppedBy_eq, List.countP_flatMap, List.sum_eq_foldr, List.foldr_map,
    Function.comp_apply]

/-- A reload reports the zones it adds and removes in the order of their documents, and how many vehicles and
entries it touched. Each tracked vehicle keeps the severities of the zones that remain, its revision goes up by one,
and sources resolve from then on as in a service made anew. A template that cannot be read or loaded changes
nothing. -/
theorem reload_exact (first : Catalog) (options : Options) (operations : List Operation) (catalog : Catalog) :
    let s := (new first options).run operations
    let report := s.reloadReport catalog
    let next := s.reload catalog
    (report.added = catalog.ids.filter (· ∉ s.catalog.ids) ∧
      report.removed = s.catalog.ids.filter (· ∉ catalog.ids) ∧
      report.vehiclesRebound = s.tracked.length ∧
      report.entriesDropped =
        (s.vehicles.entries.flatMap fun e => e.2.severities.keys).countP (· ∉ catalog.ids)) ∧
    next.tracked = s.tracked ∧
    (∀ vehicle before, s.vehicles.get? vehicle = some before →
      ∃ after, next.vehicles.get? vehicle = some after ∧ after.catalog = catalog ∧
        after.revision = before.revision + 1 ∧
        ∀ zone, after.severities.get? zone =
          if zone ∈ catalog.ids then before.severities.get? zone else none) ∧
    (∀ later source, (∀ other, .reload other ∉ later) →
      (next.run later).resolver.resolve source = (new catalog options).resolver.resolve source) ∧
    ∀ (c : Console) path content, c.service = s →
      ((∃ fault, content = .error fault) ∨
          (∃ text fault, content = .ok text ∧ Catalog.load c.markers text = .error fault) →
        (c.reload path content).2 = c) ∧
      ∀ text loaded, content = .ok text → Catalog.load c.markers text = .ok loaded →
        (c.reload path content).2 = { c with service := s.reload loaded } := by
  intro s report next
  refine ⟨⟨?_, ?_, ?_, s.entriesDropped_eq catalog⟩, s.tracked_reload catalog, ?_, ?_, ?_⟩
  · simp only [report, reloadReport, Catalog.contains_eq, decide_not]
  · simp only [report, reloadReport, Catalog.contains_eq, decide_not]
  · simp only [report, reloadReport, tracked, SortedMap.keys, SortedMap.size, List.length_map]
  · intro vehicle before hb
    refine ⟨before.rebind catalog, ?_, rfl, rfl, before.get?_rebind catalog⟩
    rw [get?_reload, hb]
    rfl
  · intro later source hl
    have ho : s.options = options := (new first options).options_run operations
    rw [next.resolver_run hl, resolver_reload, ho]
  · intro c path content hc
    rw [← hc]
    refine ⟨?_, ?_⟩
    · rintro (⟨fault, rfl⟩ | ⟨text, fault, rfl, hf⟩)
      · rfl
      · simp only [Console.reload, Catalog.ofFile, Catalog.ofText, hf]
    · rintro text loaded rfl hl
      simp only [Console.reload, Catalog.ofFile, Catalog.ofText, hl]

end Service

end VehicleDamage
