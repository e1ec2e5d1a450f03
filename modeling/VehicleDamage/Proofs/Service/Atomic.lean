import VehicleDamage.Proofs.Service.Run

/-!
Recording is all or nothing: a report changes the zones it lists of its own vehicle, or the service stays as it
was.
-/

namespace VehicleDamage.Service

/-- The change that an accepted report makes. -/
structure Accepted (s : Service) (report : Report) (outcome : Outcome) (next : Service) : Prop where
  nodup : outcome.zones.Nodup
  zones_mem : ∀ zone ∈ outcome.zones, zone ∈ s.catalog.ids
  resolver_eq : next.resolver = s.resolver
  options_eq : next.options = s.options
  other_vehicle : ∀ vehicle, vehicle ≠ report.vehicle → next.vehicles.get? vehicle = s.vehicles.get? vehicle
  revision_eq : outcome.revision = ((s.vehicles.get? report.vehicle).map (·.revision)).getD 0 + 1
  tracked : ∃ state, next.vehicles.get? report.vehicle = some state ∧ state.catalog = s.catalog ∧
    state.revision = outcome.revision ∧
    ∀ zone, zone ∉ outcome.zones →
      state.severities.get? zone =
        (s.vehicles.get? report.vehicle).bind fun before => before.severities.get? zone

/-- An error and an empty outcome leave the service as it was. -/
def AllOrNothing (s : Service) (report : Report) (answer : Except ServiceFault Outcome × Service) : Prop :=
  match answer.1 with
  | .error _ => answer.2 = s
  | .ok outcome => if outcome.zones = [] then answer.2 = s else Accepted s report outcome answer.2

variable {s : Service}

theorem stateOf_revision (s : Service) (vehicle : String) :
    (s.stateOf vehicle).revision = ((s.vehicles.get? vehicle).map (·.revision)).getD 0 := by
  rw [stateOf]
  cases s.vehicles.get? vehicle <;> rfl

theorem get?_stateOf (s : Service) (vehicle zone : String) :
    (s.stateOf vehicle).severities.get? zone =
      (s.vehicles.get? vehicle).bind fun state => state.severities.get? zone := by
  rw [stateOf]
  cases s.vehicles.get? vehicle <;> rfl

theorem Sound.accepted (h : s.Sound) (report : Report) :
    Accepted s report ⟨(s.stateOf report.vehicle).revision + 1, s.resolver.resolve report.source⟩
      (s.withVehicle report.vehicle ((s.stateOf report.vehicle).updated
        (s.resolver.resolve report.source) report.value report.mode)) where
  nodup := h.nodup_resolve report.source
  zones_mem := fun _ hz => Resolver.mem_ids_of_mem_resolve hz
  resolver_eq := rfl
  options_eq := rfl
  other_vehicle := fun vehicle hv => by rw [get?_withVehicle, if_neg hv]
  revision_eq := by rw [stateOf_revision]
  tracked := by
    refine ⟨_, (s.get?_withVehicle _ _ _).trans (if_pos rfl), (h.stateOf report.vehicle).catalog_eq, rfl, ?_⟩
    intro zone hz
    rw [← get?_stateOf]
    exact State.get?_updateAll_of_not_mem _ _ _ hz

theorem Sound.allOrNothing_applyTracked (h : s.Sound) {report : Report}
    (hz : s.resolver.resolve report.source ≠ []) :
    AllOrNothing s report
      (s.applyTracked (s.stateOf report.vehicle) (s.resolver.resolve report.source) report) := by
  rcases h.applyTracked_cases report with ⟨-, he⟩ | ⟨-, he⟩
  · rw [he, AllOrNothing]
  · rw [he, AllOrNothing]
    exact (if_neg hz).mpr (h.accepted report)

theorem Sound.allOrNothing_record (h : s.Sound) (report : Report) :
    AllOrNothing s report (s.record report) := by
  rcases s.record_cases report with ⟨-, he⟩ | ⟨-, -, he⟩ | ⟨-, hz, he⟩
  · rw [he, AllOrNothing]
  · rw [he, unresolved, AllOrNothing]
    split
    · rfl
    · next ho =>
      split at ho
      · cases ho
      · cases ho
        rw [if_pos rfl]
  · rw [he]
    exact h.allOrNothing_applyTracked hz

theorem beginRecord_create {report : Report} {zones : List String} {catalog : Catalog}
    (hb : s.beginRecord report = .create zones catalog) :
    zones = s.resolver.resolve report.source ∧ zones ≠ [] ∧ catalog = s.catalog := by
  rw [beginRecord] at hb
  dsimp only at hb
  split at hb
  · cases hb
  · split at hb
    · cases hb
    · next hz =>
      split at hb
      · cases hb
      · cases hb
        exact ⟨rfl, by simpa using hz, rfl⟩

theorem resolver_applyTracked (s : Service) (state : State) (zones : List String) (report : Report) :
    (s.applyTracked state zones report).2.resolver = s.resolver := by
  rw [applyTracked]
  split <;> rfl

theorem resolver_record (s : Service) (report : Report) : (s.record report).2.resolver = s.resolver := by
  rcases s.record_cases report with ⟨-, he⟩ | ⟨-, -, he⟩ | ⟨-, -, he⟩
  · rw [he]
  · rw [he]
  · rw [he]
    exact s.resolver_applyTracked _ _ _

/-- Only a reload touches the resolver. -/
theorem resolver_perform (s : Service) {operation : Operation} (ho : ∀ catalog, operation ≠ .reload catalog) :
    (s.perform operation).2.resolver = s.resolver := by
  cases operation with
  | register vehicle =>
      simp only [perform, register]
      split
      · rfl
      · rfl
  | record report => exact s.resolver_record report
  | reset vehicle =>
      simp only [perform, reset]
      split <;> rfl
  | evict vehicle =>
      simp only [perform, evict]
      split <;> rfl
  | reload catalog => exact absurd rfl (ho catalog)

theorem resolver_run (s : Service) {operations : List Operation}
    (ho : ∀ catalog, .reload catalog ∉ operations) : (s.run operations).resolver = s.resolver := by
  induction operations generalizing s with
  | nil => rfl
  | cons operation operations ih =>
      have hne : ∀ catalog, operation ≠ .reload catalog :=
        fun catalog he => ho catalog (he ▸ List.mem_cons_self)
      rw [← s.resolver_perform hne]
      exact ih _ fun catalog hm => ho catalog (List.mem_cons_of_mem _ hm)

/-- The catalog in use is the one of the start or one that was put in place since. -/
theorem catalog_run (s : Service) (operations : List Operation) :
    (s.run operations).catalog = s.catalog ∨ .reload (s.run operations).catalog ∈ operations := by
  induction operations generalizing s with
  | nil => exact .inl rfl
  | cons operation operations ih =>
      obtain he | hm := ih (s.perform operation).2
      · cases operation with
        | reload catalog => exact .inr (List.mem_cons.2 (.inl (congrArg Operation.reload he)))
        | register | record | reset | evict =>
            exact .inl (he.trans (congrArg Resolver.catalog (s.resolver_perform fun _ hr => by cases hr)))
      · exact .inr (List.mem_cons_of_mem _ hm)

/-- The second section of a recording works on the service it finds, as if it had begun there. -/
theorem Sound.allOrNothing_finishRecord (h : s.Sound) {report : Report} {between : List Operation}
    {zones : List String} {known : Catalog} (ho : ∀ replaced, .reload replaced ∉ between)
    (hb : s.beginRecord report = .create zones known) :
    AllOrNothing (s.run between) report ((s.run between).finishRecord zones known report) := by
  obtain ⟨rfl, hz, rfl⟩ := beginRecord_create hb
  have hr := s.resolver_run ho
  have hc : s.catalog = (s.run between).catalog := congrArg Resolver.catalog hr.symm
  rw [← hr] at hz
  have ha := (h.run between).allOrNothing_applyTracked hz
  rw [Service.stateOf, hr, ← hc] at ha
  rwa [finishRecord]

/-- Recording is all or nothing in every service that calls can lead to. The same holds of the second section of a
recording that began before other calls were made, as long as no catalog has been put in place since. -/
theorem record_allOrNothing (catalog : Catalog) (options : Options) (operations : List Operation)
    (report : Report) :
    let s := (new catalog options).run operations
    AllOrNothing s report (s.record report) ∧
    ∀ (between : List Operation) (zones : List String) (known : Catalog),
      (∀ replaced, .reload replaced ∉ between) → s.beginRecord report = .create zones known →
      AllOrNothing (s.run between) report ((s.run between).finishRecord zones known report) := by
  intro s
  have h : s.Sound := (sound_new catalog options).run operations
  exact ⟨h.allOrNothing_record report, fun _ _ _ ho hb => h.allOrNothing_finishRecord ho hb⟩

theorem record_allOrNothing_roof :
    let catalog : Catalog := ⟨"", [⟨"roof", "Roof", ⟨"path", none, ⟨0, 0⟩, none, 0⟩, .ofAttributes none none⟩]⟩
    let s := (new catalog Config.standard.options).run [.evict "V1"]
    let report : Report := ⟨"V1", .tag "Roof", .one, .absolute⟩
    s.beginRecord report = .create ["roof"] catalog ∧
      AllOrNothing (s.run [.register "V1"]) report
        ((s.run [.register "V1"]).finishRecord ["roof"] catalog report) := by
  intro catalog s report
  have hz : s.resolver.resolve report.source = ["roof"] := by decide +kernel
  have hb : s.beginRecord report = .create ["roof"] catalog := by
    rw [beginRecord]
    rw [hz]
    rfl
  clear_value catalog report
  obtain ⟨-, hf⟩ := record_allOrNothing catalog Config.standard.options [.evict "V1"] report
  exact ⟨hb, hf [.register "V1"] ["roof"] catalog (by simp) hb⟩

end VehicleDamage.Service
