import VehicleDamage.Ingest
import VehicleDamage.Proofs.Service.Run

/-!
Reports of different vehicles do not disturb one another: what recording comes to depends only on the order in
which each vehicle has its own reports recorded.
-/

namespace VehicleDamage

namespace Service

variable {s : Service} {report : Report} {other : String}

theorem withVehicle_comm (s : Service) {vehicle other : String} (h : vehicle ≠ other) (state state' : State) :
    (s.withVehicle vehicle state).withVehicle other state' =
      (s.withVehicle other state').withVehicle vehicle state := by
  simp only [withVehicle, SortedMap.insert_comm _ h]

theorem get?_withVehicle_of_ne (s : Service) {vehicle other : String} (h : vehicle ≠ other) (state : State) :
    (s.withVehicle other state).vehicles.get? vehicle = s.vehicles.get? vehicle := by
  rw [get?_withVehicle, if_neg h]

/-- The first section of a recording, of a vehicle other than the one whose state was replaced. -/
theorem beginRecord_withVehicle {zones : List String} {catalog : Catalog} (h : report.vehicle ≠ other)
    (hb : s.beginRecord report = .create zones catalog) (state : State) :
    (s.withVehicle other state).beginRecord report = .create zones catalog := by
  rw [beginRecord] at hb ⊢
  rw [get?_withVehicle_of_ne s h]
  dsimp only at hb ⊢
  split at hb
  · cases hb
  · next ha =>
    rw [if_neg (by exact ha)]
    split at hb
    · cases hb
    · next hz =>
      rw [if_neg (by exact hz)]
      split at hb
      · cases hb
      · exact hb

theorem record_eq (s : Service) (report : Report) :
    s.record report =
      if s.admits report.vehicle then
        if s.resolver.resolve report.source = [] then (s.unresolved report, s)
        else s.applyTracked (s.stateOf report.vehicle) (s.resolver.resolve report.source) report
      else (.error (.notTracked report.vehicle), s) := by
  rcases s.record_cases report with ⟨ha, he⟩ | ⟨ha, hz, he⟩ | ⟨ha, hz, he⟩
  · rw [he, if_neg (Bool.eq_false_iff.1 ha)]
  · rw [he, if_pos ha, if_pos hz]
  · rw [he, if_pos ha, if_neg hz]

theorem applyTracked_withVehicle (h : report.vehicle ≠ other) (state' state : State) (zones : List String) :
    (s.withVehicle other state').applyTracked state zones report =
      ((s.applyTracked state zones report).1, (s.applyTracked state zones report).2.withVehicle other state') := by
  simp only [applyTracked]
  split
  · rfl
  · simp only [withVehicle_comm s h]

/-- A recording neither sees nor touches the state of another vehicle. -/
theorem record_withVehicle (h : report.vehicle ≠ other) (state : State) :
    (s.withVehicle other state).record report =
      ((s.record report).1, (s.record report).2.withVehicle other state) := by
  have hg := get?_withVehicle_of_ne s h state
  have ha : (s.withVehicle other state).admits report.vehicle = s.admits report.vehicle := by
    simp only [admits, isTracked_eq, hg]
    rfl
  have hs : (s.withVehicle other state).stateOf report.vehicle = s.stateOf report.vehicle := by
    simp only [stateOf, hg]
    rfl
  have hu : (s.withVehicle other state).unresolved report = s.unresolved report := by
    simp only [unresolved, hg]
    rfl
  rw [record_eq, record_eq, ha, hs, hu]
  split
  · split
    · next hz =>
      rw [if_pos (by exact hz)]
    · next hz =>
      rw [if_neg (by exact hz)]
      exact applyTracked_withVehicle h state _ _
  · rfl

/-- A recording changes at most the state of its own vehicle. -/
theorem record_eq_withVehicle (s : Service) (report : Report) :
    (s.record report).2 = s ∨ ∃ state, (s.record report).2 = s.withVehicle report.vehicle state := by
  rcases s.record_cases report with ⟨-, he⟩ | ⟨-, -, he⟩ | ⟨-, -, he⟩
  · exact .inl (by rw [he])
  · exact .inl (by rw [he])
  · rcases s.applyTracked_cases (s.stateOf report.vehicle) (s.resolver.resolve report.source) report with
      ⟨-, ht⟩ | ⟨_, -, -, ht⟩ | ⟨-, -, ht⟩
    · exact .inl (by rw [he, ht])
    · exact .inl (by rw [he, ht])
    · exact .inr ⟨_, by rw [he, ht]⟩

/-- What the first of two reports of different vehicles leaves behind, the second answers as if it came first. -/
theorem record_record {report' : Report} (h : report.vehicle ≠ report'.vehicle) :
    ((s.record report).2.record report').1 = (s.record report').1 ∧
      ((s.record report).2.record report').2 = ((s.record report').2.record report).2 := by
  rcases s.record_eq_withVehicle report with he | ⟨state, he⟩
  · rw [he]
    rcases s.record_eq_withVehicle report' with he' | ⟨state', he'⟩
    · exact ⟨rfl, by rw [he', he]⟩
    · exact ⟨rfl, by rw [he', record_withVehicle h, he]⟩
  · rw [he, record_withVehicle (Ne.symm h)]
    refine ⟨rfl, ?_⟩
    rcases s.record_eq_withVehicle report' with he' | ⟨state', he'⟩
    · rw [he', he]
    · simp only [he', record_withVehicle h, he, withVehicle_comm s h]

/-- A service and the counts of its answers, after one more report. -/
def tally (done : Service × Stats) (report : Report) : Service × Stats :=
  ((done.1.record report).2, done.2.count (done.1.record report).1)

end Service

theorem Stats.count_comm (stats : Stats) (a b : Except ServiceFault Outcome) :
    (stats.count a).count b = (stats.count b).count a := by
  have hc (c : Except ServiceFault Outcome) : (∀ t : Stats, t.count c = { t with failed := t.failed + 1 }) ∨
      (∀ t : Stats, t.count c = { t with dropped := t.dropped + 1 }) ∨
      (∀ t : Stats, t.count c = { t with applied := t.applied + 1 }) := by
    cases c with
    | error fault => exact .inl fun _ => rfl
    | ok outcome =>
        right
        cases hd : outcome.isDropped
        · exact .inr fun t => by simp [count, hd]
        · exact .inl fun t => by simp [count, hd]
  rcases hc a with ha | ha | ha <;> rcases hc b with hb | hb | hb <;> simp [ha, hb]

theorem Service.tally_comm (done : Service × Stats) {report report' : Report}
    (h : report.vehicle ≠ report'.vehicle) :
    tally (tally done report) report' = tally (tally done report') report := by
  obtain ⟨hr, hs⟩ := record_record (s := done.1) h
  obtain ⟨hr', -⟩ := record_record (s := done.1) (Ne.symm h)
  simp only [tally, hr, hr', hs]
  rw [Stats.count_comm]

/-! ### Lists of reports that agree vehicle by vehicle -/

variable {β : Type} {f : β → Report → β}

theorem foldl_of_vehicle_notMem (hf : ∀ b x y, x.vehicle ≠ y.vehicle → f (f b x) y = f (f b y) x)
    {report : Report} {before : List Report} (hn : ∀ r ∈ before, r.vehicle ≠ report.vehicle) (b : β) :
    f (before.foldl f b) report = before.foldl f (f b report) := by
  induction before generalizing b with
  | nil => rfl
  | cons r before ih =>
      obtain ⟨hr, hn⟩ := List.forall_mem_cons.1 hn
      rw [List.foldl_cons, List.foldl_cons, ih hn, hf b r report hr]

/-- If steps of different vehicles commute, only the order of each vehicle's own ones counts. -/
theorem foldl_eq_of_filter_eq (hf : ∀ b x y, x.vehicle ≠ y.vehicle → f (f b x) y = f (f b y) x)
    {xs ys : List Report}
    (h : ∀ vehicle, xs.filter (·.vehicle = vehicle) = ys.filter (·.vehicle = vehicle)) (b : β) :
    xs.foldl f b = ys.foldl f b := by
  induction xs generalizing ys b with
  | nil =>
      cases ys with
      | nil => rfl
      | cons y ys => simpa using h y.vehicle
  | cons x xs ih =>
      have hx := h x.vehicle
      rw [List.filter_cons_of_pos (by simp)] at hx
      obtain ⟨before, after, rfl, hn, -, -⟩ := List.filter_eq_cons_iff.1 hx.symm
      have hn : ∀ r ∈ before, r.vehicle ≠ x.vehicle := by simpa using hn
      have hxs : ∀ vehicle, xs.filter (·.vehicle = vehicle) = (before ++ after).filter (·.vehicle = vehicle) := by
        intro vehicle
        have hv := h vehicle
        by_cases he : x.vehicle = vehicle
        · subst he
          have hb : before.filter (·.vehicle = x.vehicle) = [] := by simpa using hn
          simpa [List.filter_cons, hb] using hv
        · simpa [List.filter_cons, he] using hv
      rw [List.foldl_cons, ih hxs, List.foldl_append, List.foldl_append, List.foldl_cons,
        foldl_of_vehicle_notMem hf hn]

end VehicleDamage
