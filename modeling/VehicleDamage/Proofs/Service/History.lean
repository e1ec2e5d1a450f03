import VehicleDamage.Proofs.Service.Run

/-!
Severities as a reading of the calls made: what a service stores for a zone of a vehicle is the value that its
accepted reports add up to.
-/

namespace VehicleDamage

/-- A call of a run, by the service it met. -/
structure Call where
  before : Service
  operation : Operation

/-- What a call means for one zone of one vehicle. -/
inductive Mark where
  | restart
  | reported (mode : ApplyMode) (value : Binary32)

def Mark.apply (current : Binary32) : Mark → Binary32
  | restart => .zero
  | reported .absolute value => clampSeverity value
  | reported .delta value => clampSeverity (current + value)

/-- What an answered call means for a zone of a vehicle that was tracked before. -/
def Operation.marks (vehicle zone : String) : Operation → Answer → List Mark
  | .record report, .recorded (.ok outcome) =>
    if report.vehicle = vehicle ∧ zone ∈ outcome.zones then [.reported report.mode report.value] else []
  | .reset other, _ => if other = vehicle then [.restart] else []
  | .reload catalog, _ => if catalog.contains zone then [] else [.restart]
  | _, _ => []

namespace Call

def answer (c : Call) : Answer :=
  (c.before.perform c.operation).1

def after (c : Call) : Service :=
  (c.before.perform c.operation).2

/-- The vehicle becomes tracked. -/
def starts (c : Call) (vehicle : String) : Bool :=
  !c.before.isTracked vehicle && c.after.isTracked vehicle

def marks (vehicle zone : String) (c : Call) : List Mark :=
  (if c.starts vehicle then [.restart] else []) ++ c.operation.marks vehicle zone c.answer

end Call

namespace Service

def calls : Service → List Operation → List Call
  | _, [] => []
  | s, operation :: operations => ⟨s, operation⟩ :: calls (s.perform operation).2 operations

end Service

/-- The value that calls come to for a zone of a vehicle, from zero on. -/
def replay (vehicle zone : String) (calls : List Call) : Binary32 :=
  (calls.flatMap (Call.marks vehicle zone)).foldl Mark.apply .zero

theorem Mark.apply_reported (mode : ApplyMode) (current value : Binary32) :
    Mark.apply current (.reported mode value) = mode.update current value := by
  cases mode <;> rfl

namespace Service

/-- As far as the vehicle is tracked, its zone is stored at `x`. -/
def Stores (vehicle zone : String) (s : Service) (x : Binary32) : Prop :=
  ∀ state, s.vehicles.get? vehicle = some state → State.recorded state.severities zone = x

end Service

open Service

variable {vehicle zone : String} {c : Call} {x : Binary32}

/-- A call that leaves the vehicle alone. -/
theorem Call.stores_of_get?_eq (h : c.before.Stores vehicle zone x)
    (hg : c.after.vehicles.get? vehicle = c.before.vehicles.get? vehicle)
    (hm : c.operation.marks vehicle zone c.answer = []) :
    c.after.Stores vehicle zone ((c.marks vehicle zone).foldl Mark.apply x) := by
  have hs : c.starts vehicle = false := by
    rw [starts, isTracked_eq, isTracked_eq, hg, Bool.not_and_self]
  rw [marks, hs, hm]
  intro state hstate
  exact h state (hg ▸ hstate)

/-- What the zone holds when the call's own part begins: zero if the vehicle has just become tracked. -/
theorem Call.foldl_starts (h : c.before.Stores vehicle zone x) (ht : c.after.isTracked vehicle = true) :
    (if c.starts vehicle then [Mark.restart] else []).foldl Mark.apply x =
      State.recorded (c.before.stateOf vehicle).severities zone := by
  rw [starts, ht, Bool.and_true, isTracked_eq, stateOf]
  cases hg : c.before.vehicles.get? vehicle with
  | none => rfl
  | some state => exact (h state hg).symm

theorem stores_register {s : Service} (other : String) (h : s.Stores vehicle zone x) :
    (Call.after ⟨s, .register other⟩).Stores vehicle zone
      ((Call.marks vehicle zone ⟨s, .register other⟩).foldl Mark.apply x) := by
  have ha : Call.after ⟨s, .register other⟩ = (s.register other).2 := rfl
  by_cases ht : s.isTracked other = true
  · refine Call.stores_of_get?_eq h ?_ rfl
    rw [ha, register, if_pos ht]
  · rw [register, if_neg ht] at ha
    have hg := s.get?_withVehicle vehicle other (.new s.catalog)
    by_cases hv : vehicle = other
    · subst hv
      rw [if_pos rfl] at hg
      intro state hstate
      rw [ha, hg] at hstate
      cases hstate
      rw [Call.marks, List.foldl_append, Call.foldl_starts h (by rw [ha, isTracked_eq, hg]; rfl), stateOf]
      have hn : s.vehicles.get? vehicle = none := by simpa [isTracked_eq] using ht
      rw [hn]
      rfl
    · rw [if_neg hv] at hg
      exact Call.stores_of_get?_eq h (by rw [ha, hg]) rfl

theorem stores_reset {s : Service} (other : String) (h : s.Stores vehicle zone x) :
    (Call.after ⟨s, .reset other⟩).Stores vehicle zone
      ((Call.marks vehicle zone ⟨s, .reset other⟩).foldl Mark.apply x) := by
  have ha : Call.after ⟨s, .reset other⟩ = (s.reset other).2 := rfl
  by_cases hv : other = vehicle
  · subst hv
    intro state hstate
    rw [Call.marks, Operation.marks, if_pos rfl, List.foldl_append, List.foldl_cons, List.foldl_nil, Mark.apply]
    rw [ha, get?_reset, if_pos rfl] at hstate
    obtain ⟨previous, -, rfl⟩ := Option.map_eq_some_iff.1 hstate
    rfl
  · refine Call.stores_of_get?_eq h ?_ (if_neg hv)
    rw [ha, get?_reset, if_neg (Ne.symm hv)]

theorem stores_evict {s : Service} (other : String) (h : s.Stores vehicle zone x) :
    (Call.after ⟨s, .evict other⟩).Stores vehicle zone
      ((Call.marks vehicle zone ⟨s, .evict other⟩).foldl Mark.apply x) := by
  have ha : (Call.after ⟨s, .evict other⟩).vehicles.get? vehicle = _ := s.get?_evict vehicle other
  by_cases hv : vehicle = other
  · intro state hstate
    rw [ha, if_pos hv] at hstate
    cases hstate
  · exact Call.stores_of_get?_eq h (by rw [ha, if_neg hv]) rfl

theorem stores_reload {s : Service} (catalog : Catalog) (h : s.Stores vehicle zone x) :
    (Call.after ⟨s, .reload catalog⟩).Stores vehicle zone
      ((Call.marks vehicle zone ⟨s, .reload catalog⟩).foldl Mark.apply x) := by
  have ha : (Call.after ⟨s, .reload catalog⟩).vehicles.get? vehicle = _ := s.get?_reload catalog vehicle
  intro state hstate
  rw [ha] at hstate
  obtain ⟨previous, hg, rfl⟩ := Option.map_eq_some_iff.1 hstate
  have hs : Call.starts ⟨s, .reload catalog⟩ vehicle = false := by
    rw [Call.starts, isTracked_eq, isTracked_eq, ha, hg]
    rfl
  rw [Call.marks, hs, Operation.marks]
  simp only [State.rebind, State.recorded, SortedMap.get?_filterKeys]
  cases catalog.contains zone with
  | true => exact h previous hg
  | false => rfl

/-- A report that is refused or dropped. -/
theorem stores_unchanged {s : Service} {report : Report} {result : Except ServiceFault Outcome}
    (h : s.Stores vehicle zone x) (he : s.record report = (result, s))
    (hr : ∀ outcome, result = .ok outcome → outcome.zones = []) :
    (Call.after ⟨s, .record report⟩).Stores vehicle zone
      ((Call.marks vehicle zone ⟨s, .record report⟩).foldl Mark.apply x) := by
  refine Call.stores_of_get?_eq h ?_ ?_
  · show (s.record report).2.vehicles.get? vehicle = _
    rw [he]
  · show Operation.marks vehicle zone (.record report) (.recorded (s.record report).1) = []
    rw [he]
    cases result with
    | error fault => rfl
    | ok outcome => simp [Operation.marks, hr outcome rfl]

/-- A report that is accepted, with zones that are distinct: each of them is updated once. -/
theorem stores_accepted {s : Service} {report : Report} {revision : Nat} {zones : List String}
    (hd : zones.Nodup) (h : s.Stores vehicle zone x)
    (he : s.record report = (.ok ⟨revision, zones⟩,
      s.withVehicle report.vehicle ((s.stateOf report.vehicle).updated zones report.value report.mode))) :
    (Call.after ⟨s, .record report⟩).Stores vehicle zone
      ((Call.marks vehicle zone ⟨s, .record report⟩).foldl Mark.apply x) := by
  have hr : Call.answer ⟨s, .record report⟩ = .recorded (.ok ⟨revision, zones⟩) :=
    congrArg (Answer.recorded ∘ Prod.fst) he
  have ha : Call.after ⟨s, .record report⟩ = s.withVehicle report.vehicle
      ((s.stateOf report.vehicle).updated zones report.value report.mode) := congrArg Prod.snd he
  have hg := get?_withVehicle s vehicle report.vehicle
    ((s.stateOf report.vehicle).updated zones report.value report.mode)
  by_cases hv : vehicle = report.vehicle
  · subst hv
    rw [if_pos rfl] at hg
    intro state hstate
    rw [ha, hg] at hstate
    cases hstate
    rw [Call.marks, List.foldl_append, Call.foldl_starts h (by rw [ha, isTracked_eq, hg]; rfl), hr]
    simp only [Operation.marks, State.updated, State.recorded_updateAll, true_and]
    by_cases hz : zone ∈ zones
    · rw [if_pos hz, List.count_eq_one_of_mem hd hz, Function.iterate_one, List.foldl_cons, List.foldl_nil,
        Mark.apply_reported]
    · rw [if_neg hz, List.count_eq_zero_of_not_mem hz]
      rfl
  · rw [if_neg hv] at hg
    refine Call.stores_of_get?_eq h (by rw [ha, hg]) ?_
    rw [hr]
    exact if_neg fun hn => hv hn.1.symm

theorem stores_record {s : Service} (hs : s.Sound) (report : Report) (h : s.Stores vehicle zone x) :
    (Call.after ⟨s, .record report⟩).Stores vehicle zone
      ((Call.marks vehicle zone ⟨s, .record report⟩).foldl Mark.apply x) := by
  rcases s.record_cases report with ⟨-, he⟩ | ⟨-, -, he⟩ | ⟨-, -, he⟩
  · exact stores_unchanged h he fun _ ho => by cases ho
  · refine stores_unchanged h he fun outcome ho => ?_
    rw [unresolved] at ho
    split at ho
    · cases ho
    · cases ho
      rfl
  · rcases hs.applyTracked_cases report with ⟨-, hk⟩ | ⟨-, hk⟩
    · exact stores_unchanged h (he.trans hk) fun _ ho => by cases ho
    · exact stores_accepted (hs.nodup_resolve report.source) h (he.trans hk)

/-- One call changes what is stored as its marks say. -/
theorem Call.stores_after (hs : c.before.Sound) (h : c.before.Stores vehicle zone x) :
    c.after.Stores vehicle zone ((c.marks vehicle zone).foldl Mark.apply x) := by
  obtain ⟨s, operation⟩ := c
  cases operation with
  | register other => exact stores_register other h
  | record report => exact stores_record hs report h
  | reset other => exact stores_reset other h
  | evict other => exact stores_evict other h
  | reload catalog => exact stores_reload catalog h

theorem stores_run {s : Service} (hs : s.Sound) (operations : List Operation) (h : s.Stores vehicle zone x) :
    (s.run operations).Stores vehicle zone
      (((s.calls operations).flatMap (Call.marks vehicle zone)).foldl Mark.apply x) := by
  induction operations generalizing s x with
  | nil => exact h
  | cons operation operations ih =>
      rw [calls, List.flatMap_cons, List.foldl_append]
      exact ih (hs.perform operation) (Call.stores_after (c := ⟨s, operation⟩) hs h)

/-- The severity of a zone is the fold of the reports that were accepted for it, from zero on and from zero again
whenever the vehicle becomes tracked or is reset, and when a catalog without the zone is put in place. -/
theorem Service.severity_eq_replay (catalog : Catalog) (options : Options) (operations : List Operation)
    (vehicle zone : String) :
    let start := new catalog options
    let s := start.run operations
    (s.severity vehicle zone =
      if s.isTracked vehicle then
        if s.catalog.contains zone then .ok (replay vehicle zone (start.calls operations))
        else .error (.state (.unknownZone zone))
      else .error (.notTracked vehicle)) ∧
    ∀ severity, s.severity vehicle zone = .ok severity → severity.isNaN = false := by
  intro start s
  have hs : s.Sound := (sound_new catalog options).run operations
  have hr : s.Stores vehicle zone (replay vehicle zone (start.calls operations)) :=
    stores_run (sound_new catalog options) operations nofun
  cases hg : s.vehicles.get? vehicle with
  | none => simp [severity, Service.state, isTracked_eq, hg]
  | some state =>
      have hk := (hs.state hg).catalog_eq
      have hn := ((hs.state hg).held.inUnit_recorded zone).isNaN_eq
      rw [hr state hg] at hn
      cases hz : s.catalog.contains zone with
      | true => simp [severity, Service.state, isTracked_eq, hg, State.get, hk, hz, hr state hg, hn]
      | false => simp [severity, Service.state, isTracked_eq, hg, State.get, hk, hz]

end VehicleDamage
