import VehicleDamage.Service
import VehicleDamage.Proofs.Severities

/-!
Runs of a service: calls in any order, what each of them can come to, and what they all keep.
-/

namespace VehicleDamage

/-- A call that may change a service. -/
inductive Operation where
  | register (vehicle : String)
  | record (report : Report)
  | reset (vehicle : String)
  | evict (vehicle : String)
  | reload (catalog : Catalog)

/-- What a call answers. -/
inductive Answer where
  | registered (created : Bool)
  | recorded (result : Except ServiceFault Outcome)
  | reset (result : Except ServiceFault Nat)
  | evicted (last : Option Snapshot)
  | reloaded (report : ReloadReport)

namespace Service

def perform (s : Service) : Operation → Answer × Service
  | .register vehicle => (.registered (s.register vehicle).1, (s.register vehicle).2)
  | .record report => (.recorded (s.record report).1, (s.record report).2)
  | .reset vehicle => (.reset (s.reset vehicle).1, (s.reset vehicle).2)
  | .evict vehicle => (.evicted (s.evict vehicle).1, (s.evict vehicle).2)
  | .reload catalog => (.reloaded (s.reloadReport catalog), s.reload catalog)

/-- The service after calls made one after another. -/
def run (s : Service) (operations : List Operation) : Service :=
  operations.foldl (fun s operation => (s.perform operation).2) s

theorem get?_withVehicle (s : Service) (vehicle other : String) (state : State) :
    (s.withVehicle other state).vehicles.get? vehicle =
      if vehicle = other then some state else s.vehicles.get? vehicle :=
  SortedMap.get?_insert s.vehicles other vehicle state

theorem get?_reset (s : Service) (vehicle other : String) :
    (s.reset other).2.vehicles.get? vehicle =
      if vehicle = other then (s.vehicles.get? vehicle).map State.reset else s.vehicles.get? vehicle := by
  rw [reset, state]
  cases hs : s.vehicles.get? other with
  | none =>
      by_cases hv : vehicle = other
      · simp [hv, hs]
      · simp [hv]
  | some state =>
      simp only [get?_withVehicle]
      by_cases hv : vehicle = other
      · simp [hv, hs]
      · simp [hv]

theorem get?_evict (s : Service) (vehicle other : String) :
    (s.evict other).2.vehicles.get? vehicle = if vehicle = other then none else s.vehicles.get? vehicle := by
  rw [evict]
  cases hs : s.vehicles.get? other with
  | none =>
      by_cases hv : vehicle = other
      · simp [hv, hs]
      · simp [hv]
  | some state => exact SortedMap.get?_erase s.vehicles other vehicle

theorem get?_reload (s : Service) (catalog : Catalog) (vehicle : String) :
    (s.reload catalog).vehicles.get? vehicle = (s.vehicles.get? vehicle).map fun state => state.rebind catalog :=
  SortedMap.get?_mapValues s.vehicles _ vehicle

theorem isTracked_eq (s : Service) (vehicle : String) :
    s.isTracked vehicle = (s.vehicles.get? vehicle).isSome :=
  rfl

/-! ### What a call can come to -/

/-- Whether reports of a vehicle are taken: of one that is tracked always. -/
def admits (s : Service) (vehicle : String) : Bool :=
  s.isTracked vehicle || !s.options.requireRegistration

/-- The state a report is applied to; a vehicle that is not tracked starts out new. -/
def stateOf (s : Service) (vehicle : String) : State :=
  (s.vehicles.get? vehicle).getD (.new s.catalog)

theorem applyTracked_cases (s : Service) (state : State) (zones : List String) (report : Report) :
    (report.value.isFinite = false ∧
      s.applyTracked state zones report = (.error (.state (.nonFiniteSeverity report.value)), s)) ∨
    (∃ zone ∈ zones, zone ∉ state.catalog.ids ∧
      s.applyTracked state zones report = (.error (.state (.unknownZone zone)), s)) ∨
    (report.value.isFinite = true ∧ (∀ zone ∈ zones, zone ∈ state.catalog.ids) ∧
      s.applyTracked state zones report = (.ok ⟨state.revision + 1, zones⟩,
        s.withVehicle report.vehicle (state.updated zones report.value report.mode))) := by
  rcases state.applyAll_cases zones report.value report.mode with
    ⟨hv, he⟩ | ⟨zone, hm, hn, he⟩ | ⟨hv, hz, _, he⟩
  · exact .inl ⟨hv, by simp only [applyTracked, applyTo, he]⟩
  · exact .inr (.inl ⟨zone, hm, hn, by simp only [applyTracked, applyTo, he]⟩)
  · exact .inr (.inr ⟨hv, hz, by simp only [applyTracked, applyTo, he]; rfl⟩)

theorem record_cases (s : Service) (report : Report) :
    (s.admits report.vehicle = false ∧ s.record report = (.error (.notTracked report.vehicle), s)) ∨
    (s.admits report.vehicle = true ∧ s.resolver.resolve report.source = [] ∧
      s.record report = (s.unresolved report, s)) ∨
    (s.admits report.vehicle = true ∧ s.resolver.resolve report.source ≠ [] ∧
      s.record report =
        s.applyTracked (s.stateOf report.vehicle) (s.resolver.resolve report.source) report) := by
  unfold record beginRecord admits isTracked SortedMap.contains stateOf finishRecord
  cases hg : s.vehicles.get? report.vehicle with
  | some state =>
      right
      by_cases hz : s.resolver.resolve report.source = []
      · exact .inl ⟨rfl, hz, by simp [hz]⟩
      · exact .inr ⟨rfl, hz, by simp [hz]⟩
  | none =>
      cases hr : s.options.requireRegistration with
      | true => exact .inl ⟨rfl, rfl⟩
      | false =>
          right
          by_cases hz : s.resolver.resolve report.source = []
          · exact .inl ⟨rfl, hz, by simp [hz]⟩
          · exact .inr ⟨rfl, hz, by simp [hz]⟩

/-! ### What every call keeps -/

/-- One catalog throughout: the resolver is built from it, and every tracked vehicle's state is bound to it and
holds severities of its zones alone. -/
structure Sound (s : Service) : Prop where
  resolver_eq : s.resolver = .ofCatalog s.catalog s.options.aliases s.options.impact
  states : ∀ e ∈ s.vehicles.entries, e.2.Sound s.catalog

variable {s : Service}

theorem sound_new (catalog : Catalog) (options : Options) : (new catalog options).Sound :=
  ⟨rfl, fun _ he => nomatch he⟩

theorem Sound.state (h : s.Sound) {vehicle : String} {state : State}
    (hg : s.vehicles.get? vehicle = some state) :
    state.Sound s.catalog :=
  h.states _ (SortedMap.mem_of_get? hg)

theorem Sound.stateOf (h : s.Sound) (vehicle : String) : (s.stateOf vehicle).Sound s.catalog := by
  simp only [Service.stateOf]
  cases hg : s.vehicles.get? vehicle with
  | none => exact State.sound_new s.catalog
  | some state => exact h.state hg

theorem Sound.nodup_resolve (h : s.Sound) (source : ZoneSource) : (s.resolver.resolve source).Nodup := by
  rw [h.resolver_eq]
  exact Resolver.nodup_resolve _ _ _ source

theorem Sound.withVehicle (h : s.Sound) (vehicle : String) {state : State} (hs : state.Sound s.catalog) :
    (s.withVehicle vehicle state).Sound := by
  refine ⟨h.resolver_eq, fun e he => ?_⟩
  rcases SortedMap.mem_place he with rfl | he
  · exact hs
  · exact h.states e he

/-- The zones of a report belong to the catalog its state is bound to, so only the value can be refused. -/
theorem Sound.applyTracked_cases (h : s.Sound) (report : Report) :
    (report.value.isFinite = false ∧
      s.applyTracked (s.stateOf report.vehicle) (s.resolver.resolve report.source) report =
        (.error (.state (.nonFiniteSeverity report.value)), s)) ∨
    (report.value.isFinite = true ∧
      s.applyTracked (s.stateOf report.vehicle) (s.resolver.resolve report.source) report =
        (.ok ⟨(s.stateOf report.vehicle).revision + 1, s.resolver.resolve report.source⟩,
          s.withVehicle report.vehicle ((s.stateOf report.vehicle).updated
            (s.resolver.resolve report.source) report.value report.mode))) := by
  rcases s.applyTracked_cases (s.stateOf report.vehicle) (s.resolver.resolve report.source) report with
    hc | ⟨zone, hm, hn, -⟩ | ⟨hv, -, he⟩
  · exact .inl hc
  · rw [(h.stateOf _).catalog_eq] at hn
    exact absurd (Resolver.mem_ids_of_mem_resolve hm) hn
  · exact .inr ⟨hv, he⟩

theorem Sound.applyTracked (h : s.Sound) {state : State} (hs : state.Sound s.catalog) (zones : List String)
    (report : Report) : (s.applyTracked state zones report).2.Sound := by
  rcases s.applyTracked_cases state zones report with ⟨-, he⟩ | ⟨_, -, -, he⟩ | ⟨hv, hz, he⟩
  · rwa [he]
  · rwa [he]
  · rw [he]
    exact h.withVehicle _ (hs.updated _ hv (hs.catalog_eq ▸ hz))

theorem Sound.record (h : s.Sound) (report : Report) : (s.record report).2.Sound := by
  rcases s.record_cases report with ⟨-, he⟩ | ⟨-, -, he⟩ | ⟨-, -, he⟩
  · rwa [he]
  · rwa [he]
  · rw [he]
    exact h.applyTracked (h.stateOf _) _ _

theorem Sound.register (h : s.Sound) (vehicle : String) : (s.register vehicle).2.Sound := by
  rw [Service.register]
  split
  · exact h
  · exact h.withVehicle vehicle (State.sound_new s.catalog)

theorem Sound.reset (h : s.Sound) (vehicle : String) : (s.reset vehicle).2.Sound := by
  rw [Service.reset, Service.state]
  cases hg : s.vehicles.get? vehicle with
  | none => exact h
  | some state => exact h.withVehicle vehicle (h.state hg).reset

theorem Sound.evict (h : s.Sound) (vehicle : String) : (s.evict vehicle).2.Sound := by
  rw [Service.evict]
  split
  · exact h
  · exact ⟨h.resolver_eq, fun e he => h.states e (List.mem_filter.1 he).1⟩

theorem Sound.reload (h : s.Sound) (catalog : Catalog) : (s.reload catalog).Sound := by
  refine ⟨rfl, fun e he => ?_⟩
  obtain ⟨e', hm, rfl⟩ := List.mem_map.1 he
  exact (h.states e' hm).rebind catalog

theorem Sound.perform (h : s.Sound) (operation : Operation) : (s.perform operation).2.Sound := by
  cases operation with
  | register vehicle => exact h.register vehicle
  | record report => exact h.record report
  | reset vehicle => exact h.reset vehicle
  | evict vehicle => exact h.evict vehicle
  | reload catalog => exact h.reload catalog

theorem Sound.run (h : s.Sound) (operations : List Operation) : (s.run operations).Sound := by
  induction operations generalizing s with
  | nil => exact h
  | cons operation operations ih => exact ih (h.perform operation)

/-- Whatever calls have been made, every vehicle's state is bound to the catalog in use and holds severities from
zero to one for zones of it; so recording never meets an unknown zone. -/
theorem run_sound (catalog : Catalog) (options : Options) (operations : List Operation) :
    let s := (new catalog options).run operations
    (∀ vehicle state, s.vehicles.get? vehicle = some state →
      state.catalog = s.resolver.catalog ∧
      ∀ e ∈ state.severities.entries,
        e.1 ∈ s.catalog.ids ∧ e.2.isNaN = false ∧ Binary32.zero.le e.2 = true ∧ e.2.le .one = true) ∧
    ∀ report fault, (s.record report).1 = .error fault →
      fault = .notTracked report.vehicle ∨ fault = .unresolved report.vehicle report.source ∨
        fault = .state (.nonFiniteSeverity report.value) := by
  intro s
  have h : s.Sound := (sound_new catalog options).run operations
  refine ⟨fun vehicle state hg => ?_, fun report fault hf => ?_⟩
  · have hs := h.state hg
    refine ⟨hs.catalog_eq, fun e he => ?_⟩
    obtain ⟨hm, hu⟩ := hs.held e he
    exact ⟨hm, hu.isNaN_eq, hu.zero_le, hu.le_one⟩
  · rcases s.record_cases report with ⟨-, he⟩ | ⟨-, -, he⟩ | ⟨-, -, he⟩
    · rw [he] at hf
      exact .inl (Except.error.inj hf).symm
    · rw [he] at hf
      rw [unresolved] at hf
      split at hf
      · exact .inr (.inl (Except.error.inj hf).symm)
      · cases hf
    · rw [he] at hf
      rcases h.applyTracked_cases report with ⟨-, he⟩ | ⟨-, he⟩
      · rw [he] at hf
        exact .inr (.inr (Except.error.inj hf).symm)
      · rw [he] at hf
        cases hf

end Service

end VehicleDamage
