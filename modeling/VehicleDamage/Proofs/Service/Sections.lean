import VehicleDamage.Proofs.Service.Atomic

/-!
Calls that are in progress at the same time. Each call is done in sections under its locks, and the sections of
different calls take turns in any order. Every vehicle has its mutations numbered one after another, whoever made
them.
-/

namespace VehicleDamage

/-- A recording between its two sections: its zones are known, and its vehicle was not tracked. -/
structure Pending where
  report : Report
  zones : List String
  catalog : Catalog

/-- A service and the recordings that stand between their sections. -/
structure Busy where
  service : Service
  pending : List Pending

/-- The first section of a call, or the second one of a pending recording. -/
inductive Section where
  | call (operation : Operation)
  | finish (position : Nat)

/-- A section as it was done. `answered` is the call that it brought to an end, with its answer. -/
structure Moment where
  before : Busy
  answered : Option (Operation × Answer)
  after : Busy

namespace Busy

/-- A section that does all of a call. -/
def whole (b : Busy) (operation : Operation) : Option (Operation × Answer) × Busy :=
  (some (operation, (b.service.perform operation).1), { b with service := (b.service.perform operation).2 })

/-- Do a section, if its locks are free: a recording keeps the resolver to the end, so a reload has to wait. -/
def next? (b : Busy) : Section → Option (Option (Operation × Answer) × Busy)
  | .call (.record report) => match b.service.beginRecord report with
    | .finished result next => some (some (.record report, .recorded result), { b with service := next })
    | .create zones catalog => some (none, { b with pending := b.pending ++ [⟨report, zones, catalog⟩] })
  | .call (.reload catalog) => if b.pending.isEmpty then some (b.whole (.reload catalog)) else none
  | .call operation => some (b.whole operation)
  | .finish position => b.pending[position]?.map fun p =>
    let (result, next) := b.service.finishRecord p.zones p.catalog p.report
    (some (.record p.report, .recorded result), ⟨next, b.pending.eraseIdx position⟩)

/-- Sections done one after another. -/
inductive Runs : Busy → List Moment → Busy → Prop
  | nil (b : Busy) : Runs b [] b
  | cons {b next last : Busy} {sec : Section} {answered : Option (Operation × Answer)} {more : List Moment}
      (done : b.next? sec = some (answered, next)) (rest : Runs next more last) :
      Runs b (⟨b, answered, next⟩ :: more) last

def state? (b : Busy) (vehicle : String) : Option State :=
  b.service.vehicles.get? vehicle

/-- A recording is left pending only if it names zones. -/
def Proper (b : Busy) : Prop :=
  ∀ p ∈ b.pending, p.zones ≠ []

end Busy

/-- The revisions of a vehicle that a call gives: those acknowledged for a report that was not dropped and for a
reset, and the one that a reload takes the vehicle to. -/
def Moment.revisions (vehicle : String) (m : Moment) : List Nat :=
  match m.answered with
  | some (.record report, .recorded (.ok outcome)) =>
    if report.vehicle = vehicle ∧ outcome.isDropped = false then [outcome.revision] else []
  | some (.reset other, .reset (.ok revision)) => if other = vehicle then [revision] else []
  | some (.reload _, _) => ((m.after.state? vehicle).map State.revision).toList
  | _ => []

/-- All that a section can do to a vehicle. -/
inductive Moment.Effect (vehicle : String) (m : Moment) : Prop
  | kept (same : m.after.state? vehicle = m.before.state? vehicle) (silent : m.revisions vehicle = [])
  | advanced (state : State) (reached : m.after.state? vehicle = some state)
      (counted : state.revision = ((m.before.state? vehicle).map State.revision).getD 0 + 1)
      (acknowledged : m.revisions vehicle = [state.revision])
  | started (state : State) (untracked : m.before.state? vehicle = none)
      (reached : m.after.state? vehicle = some state) (fresh : state.revision = 0)
      (silent : m.revisions vehicle = [])
  | evicted (gone : m.after.state? vehicle = none)

namespace Busy

variable {b next last : Busy} {vehicle : String} {answered : Option (Operation × Answer)}

/-- Applying a report to the state of its vehicle, new if need be. -/
theorem effect_applyTracked {state : State} {zones : List String} {report : Report} {pending : List Pending}
    (hs : state.revision = ((b.state? report.vehicle).map State.revision).getD 0) (hz : zones ≠ []) :
    Moment.Effect vehicle ⟨b,
      some (.record report, .recorded (b.service.applyTracked state zones report).1),
      ⟨(b.service.applyTracked state zones report).2, pending⟩⟩ := by
  rcases b.service.applyTracked_cases state zones report with ⟨-, he⟩ | ⟨_, -, -, he⟩ | ⟨-, -, he⟩
  · rw [he]
    exact .kept rfl rfl
  · rw [he]
    exact .kept rfl rfl
  · rw [he]
    have hd : Outcome.isDropped ⟨state.revision + 1, zones⟩ = false := by
      simpa [Outcome.isDropped] using hz
    have hg := b.service.get?_withVehicle vehicle report.vehicle (state.updated zones report.value report.mode)
    by_cases hv : vehicle = report.vehicle
    · subst hv
      rw [if_pos rfl] at hg
      refine .advanced _ hg ?_ ?_
      · rw [← hs]
        rfl
      · exact if_pos ⟨rfl, hd⟩
    · rw [if_neg hv] at hg
      exact .kept hg (if_neg fun hn => hv hn.1.symm)

/-- A report that is refused or dropped. -/
theorem effect_unresolved (b : Busy) (report : Report) :
    Moment.Effect vehicle ⟨b, some (.record report, .recorded (b.service.unresolved report)), b⟩ := by
  rw [Service.unresolved]
  split
  · exact .kept rfl rfl
  · exact .kept rfl (if_neg fun hd => by cases hd.2)

theorem effect_recorded (b : Busy) (report : Report) :
    Moment.Effect vehicle ⟨b, (b.whole (.record report)).1, (b.whole (.record report)).2⟩ := by
  simp only [whole, Service.perform]
  rcases b.service.record_cases report with ⟨-, he⟩ | ⟨-, -, he⟩ | ⟨-, hz, he⟩
  · rw [he]
    exact .kept rfl rfl
  · rw [he]
    exact effect_unresolved b report
  · rw [he]
    exact effect_applyTracked (b.service.stateOf_revision report.vehicle) hz

theorem effect_register (b : Busy) (other : String) :
    Moment.Effect vehicle ⟨b, (b.whole (.register other)).1, (b.whole (.register other)).2⟩ := by
  simp only [whole, Service.perform, Service.register]
  split
  · exact .kept rfl rfl
  · next ht =>
    have hg := b.service.get?_withVehicle vehicle other (.new b.service.catalog)
    by_cases hv : vehicle = other
    · subst hv
      rw [if_pos rfl] at hg
      have hn : b.service.vehicles.get? vehicle = none := by simpa [Service.isTracked_eq] using ht
      exact .started _ hn hg rfl rfl
    · rw [if_neg hv] at hg
      exact .kept hg rfl

theorem effect_reset (b : Busy) (other : String) :
    Moment.Effect vehicle ⟨b, (b.whole (.reset other)).1, (b.whole (.reset other)).2⟩ := by
  simp only [whole, Service.perform, Service.reset, Service.state]
  cases hs : b.service.vehicles.get? other with
  | none => exact .kept rfl rfl
  | some state =>
      have hg := b.service.get?_withVehicle vehicle other state.reset
      by_cases hv : vehicle = other
      · subst hv
        rw [if_pos rfl] at hg
        have hb : b.state? vehicle = some state := hs
        refine .advanced _ hg ?_ (if_pos rfl)
        rw [hb]
        rfl
      · rw [if_neg hv] at hg
        exact .kept hg (if_neg fun he => hv he.symm)

theorem effect_evict (b : Busy) (other : String) :
    Moment.Effect vehicle ⟨b, (b.whole (.evict other)).1, (b.whole (.evict other)).2⟩ := by
  have hg : (b.whole (.evict other)).2.state? vehicle = _ := b.service.get?_evict vehicle other
  by_cases hv : vehicle = other
  · rw [if_pos hv] at hg
    exact .evicted hg
  · rw [if_neg hv] at hg
    exact .kept hg rfl

theorem effect_reload (b : Busy) (catalog : Catalog) :
    Moment.Effect vehicle ⟨b, (b.whole (.reload catalog)).1, (b.whole (.reload catalog)).2⟩ := by
  have hg : (b.whole (.reload catalog)).2.state? vehicle = (b.state? vehicle).map fun state => state.rebind catalog :=
    b.service.get?_reload catalog vehicle
  have hr : Moment.revisions vehicle ⟨b, (b.whole (.reload catalog)).1, (b.whole (.reload catalog)).2⟩ =
      (((b.whole (.reload catalog)).2.state? vehicle).map State.revision).toList := rfl
  cases hs : b.state? vehicle with
  | none =>
      rw [hs] at hg
      exact .kept (hg.trans hs.symm) (by rw [hr, hg]; rfl)
  | some state =>
      rw [hs] at hg
      refine .advanced _ hg ?_ (by rw [hr, hg]; rfl)
      rw [hs]
      rfl

theorem effect_whole (b : Busy) (operation : Operation) :
    Moment.Effect vehicle ⟨b, (b.whole operation).1, (b.whole operation).2⟩ := by
  cases operation with
  | register other => exact effect_register b other
  | record report => exact effect_recorded b report
  | reset other => exact effect_reset b other
  | evict other => exact effect_evict b other
  | reload catalog => exact effect_reload b catalog

/-- All that a section can be: a whole call, or either half of a recording. -/
inductive Did (b : Busy) : Section → Option (Operation × Answer) → Busy → Prop
  | whole (operation : Operation) (alone : ∀ catalog, operation = .reload catalog → b.pending = []) :
      Did b (.call operation) (b.whole operation).1 (b.whole operation).2
  | began {report : Report} {zones : List String} {catalog : Catalog}
      (create : b.service.beginRecord report = .create zones catalog) :
      Did b (.call (.record report)) none { b with pending := b.pending ++ [⟨report, zones, catalog⟩] }
  | finished {position : Nat} {p : Pending} (found : b.pending[position]? = some p) :
      Did b (.finish position)
        (some (.record p.report, .recorded (b.service.finishRecord p.zones p.catalog p.report).1))
        ⟨(b.service.finishRecord p.zones p.catalog p.report).2, b.pending.eraseIdx position⟩

theorem did_next {sec : Section} (h : b.next? sec = some (answered, next)) : b.Did sec answered next := by
  cases sec with
  | call operation =>
      cases operation with
      | record report =>
          simp only [next?] at h
          split at h
          · next result service hb =>
            cases h
            have hr : b.service.record report = (result, service) := by rw [Service.record, hb]
            have hw : b.whole (.record report) = (some (.record report, .recorded result), { b with service }) := by
              rw [whole, Service.perform, hr]
            have hd : b.Did (.call (.record report)) (b.whole (.record report)).1 (b.whole (.record report)).2 :=
              .whole _ fun _ hc => by cases hc
            rwa [hw] at hd
          · next hb =>
            cases h
            exact .began hb
      | reload catalog =>
          simp only [next?] at h
          split at h
          · next hp =>
            cases h
            exact .whole _ fun _ _ => List.isEmpty_iff.1 hp
          · cases h
      | register | reset | evict =>
          cases h
          exact .whole _ fun _ hc => by cases hc
  | finish position =>
      obtain ⟨p, hg, he⟩ := Option.map_eq_some_iff.1 h
      cases he
      exact .finished hg

theorem effect_next {sec : Section} (hp : b.Proper) (h : b.next? sec = some (answered, next)) :
    Moment.Effect vehicle ⟨b, answered, next⟩ := by
  cases did_next h with
  | whole operation => exact effect_whole b operation
  | began => exact .kept rfl rfl
  | @finished position p found =>
      refine effect_applyTracked ?_ (hp p (List.mem_of_getElem? found))
      rw [state?]
      cases b.service.vehicles.get? p.report.vehicle <;> rfl

theorem proper_next {sec : Section} (hp : b.Proper) (h : b.next? sec = some (answered, next)) : next.Proper := by
  cases did_next h with
  | whole => exact hp
  | began create =>
      refine List.forall_mem_append.2 ⟨hp, List.forall_mem_singleton.2 ?_⟩
      exact (Service.beginRecord_create create).2.1
  | finished => exact fun p hm => hp p (List.mem_of_mem_eraseIdx hm)

theorem Runs.proper {moments : List Moment} (h : Runs b moments last) (hp : b.Proper) : last.Proper := by
  induction h with
  | nil => exact hp
  | cons done rest ih => exact ih (proper_next hp done)

/-- From a state with its revision on, the revisions that calls give for the vehicle go on one by one. -/
theorem Runs.revisions {life : List Moment} (h : Runs b life last) (hp : b.Proper) {state : State}
    (hs : b.state? vehicle = some state)
    (ht : ∀ m ∈ life, m.after.service.isTracked vehicle = true) :
    ∃ final, last.state? vehicle = some final ∧
      List.range' 1 state.revision ++ life.flatMap (Moment.revisions vehicle) = List.range' 1 final.revision := by
  induction h generalizing state with
  | nil => exact ⟨state, hs, List.append_nil _⟩
  | @cons b next last sec answered more done rest ih =>
      obtain ⟨hm, hmore⟩ := List.forall_mem_cons.1 ht
      rw [List.flatMap_cons]
      cases (effect_next hp done : Moment.Effect vehicle _) with
      | kept same silent =>
          rw [silent]
          exact ih (proper_next hp done) (same.trans hs) hmore
      | advanced state' reached counted acknowledged =>
          have hc : state'.revision = state.revision + 1 := by
            rw [counted]
            dsimp only
            rw [hs]
            rfl
          obtain ⟨final, hf, hr⟩ := ih (proper_next hp done) reached hmore
          refine ⟨final, hf, ?_⟩
          rw [← hr, acknowledged, ← List.append_assoc, hc, List.range'_1_concat, Nat.add_comm 1]
      | started state' untracked reached fresh silent =>
          rw [hs] at untracked
          cases untracked
      | evicted gone =>
          rw [Service.isTracked_eq] at hm
          rw [state?] at gone
          rw [gone] at hm
          cases hm

end Busy

/-- No acknowledged mutation of a vehicle is lost, and none is made twice. From the section that makes a vehicle
tracked on, for as long as it stays tracked, the revisions that reports, resets and reloads give it are one, two,
three and so on to the revision it has; and that is the revision in the snapshot if it is evicted next. The calls
may be any number, and their sections take turns in any order. -/
theorem Service.revisions_consecutive {s : Service} {earlier life : List Moment} {birth : Moment} {b last : Busy}
    {vehicle : String} (hb : Busy.Runs ⟨s, []⟩ earlier b) (hl : Busy.Runs b (birth :: life) last)
    (hn : b.service.isTracked vehicle = false)
    (ht : ∀ m ∈ birth :: life, m.after.service.isTracked vehicle = true) :
    ∃ state, last.service.vehicles.get? vehicle = some state ∧
      (birth :: life).flatMap (Moment.revisions vehicle) = List.range' 1 state.revision ∧
      ∃ next, last.next? (.call (.evict vehicle)) =
        some (some (.evict vehicle, .evicted (some ⟨state.revision, state.severities⟩)), next) ∧
        next.service.isTracked vehicle = false := by
  have hp : b.Proper := hb.proper (List.forall_mem_nil _)
  have hu : b.service.vehicles.get? vehicle = none := by simpa [isTracked_eq] using hn
  obtain ⟨hbirth, hlife⟩ := List.forall_mem_cons.1 ht
  have hr : ∃ state, last.service.vehicles.get? vehicle = some state ∧
      (birth :: life).flatMap (Moment.revisions vehicle) = List.range' 1 state.revision := by
    cases hl with
    | @cons _ next _ sec answered _ done rest =>
        rw [List.flatMap_cons]
        cases (Busy.effect_next hp done : Moment.Effect vehicle _) with
        | kept same silent =>
            rw [isTracked_eq] at hbirth
            rw [Busy.state?] at same
            rw [same, Busy.state?, hu] at hbirth
            cases hbirth
        | advanced state reached counted acknowledged =>
            rw [Busy.state?, hu] at counted
            obtain ⟨final, hf, hr⟩ := rest.revisions (Busy.proper_next hp done) reached hlife
            refine ⟨final, hf, ?_⟩
            rw [← hr, acknowledged, counted]
            rfl
        | started state untracked reached fresh silent =>
            obtain ⟨final, hf, hr⟩ := rest.revisions (Busy.proper_next hp done) reached hlife
            refine ⟨final, hf, ?_⟩
            rw [← hr, silent, fresh]
            rfl
        | evicted gone =>
            rw [isTracked_eq] at hbirth
            rw [Busy.state?] at gone
            rw [gone] at hbirth
            cases hbirth
  obtain ⟨state, hs, hr⟩ := hr
  have he : last.service.evict vehicle =
      (some state.snapshot, { last.service with vehicles := last.service.vehicles.erase vehicle }) := by
    rw [evict, hs]
  have hnext : last.next? (.call (.evict vehicle)) = some (last.whole (.evict vehicle)) := rfl
  refine ⟨state, hs, hr, (last.whole (.evict vehicle)).2, ?_, ?_⟩
  · rw [hnext, Busy.whole, perform, he]
    rfl
  · rw [Busy.whole, perform, he, isTracked_eq, SortedMap.get?_erase, if_pos rfl]
    rfl

/-- A recording finds the vehicle untracked, another call registers it, and then the recording and a reset land. -/
theorem Service.revisions_consecutive_registered :
    let catalog : Catalog := ⟨"", [⟨"roof", "Roof", ⟨"path", none, ⟨0, 0⟩, none, 0⟩, .ofAttributes none none⟩]⟩
    let s := new catalog Config.standard.options
    let report : Report := ⟨"V1", .tag "Roof", .one, .absolute⟩
    let waiting : Busy := ⟨s, [⟨report, ["roof"], catalog⟩]⟩
    let registered := waiting.whole (.register "V1")
    let answer := registered.2.service.finishRecord ["roof"] catalog report
    let recorded : Busy := ⟨answer.2, []⟩
    let reset := recorded.whole (.reset "V1")
    let birth : Moment := ⟨waiting, registered.1, registered.2⟩
    let life : List Moment :=
      [⟨registered.2, some (.record report, .recorded answer.1), recorded⟩, ⟨recorded, reset.1, reset.2⟩]
    Busy.Runs ⟨s, []⟩ [⟨⟨s, []⟩, none, waiting⟩] waiting ∧ Busy.Runs waiting (birth :: life) reset.2 ∧
      (∀ m ∈ birth :: life, m.after.service.isTracked "V1" = true) ∧
      ∃ state, reset.2.service.vehicles.get? "V1" = some state ∧
        (birth :: life).flatMap (Moment.revisions "V1") = List.range' 1 state.revision ∧
        ∃ next, reset.2.next? (.call (.evict "V1")) =
          some (some (.evict "V1", .evicted (some ⟨state.revision, state.severities⟩)), next) ∧
          next.service.isTracked "V1" = false := by
  intro catalog s report waiting registered
  have hz : s.resolver.resolve report.source = ["roof"] := by decide +kernel
  have hb : s.beginRecord report = .create ["roof"] catalog := by
    rw [beginRecord, hz]
    rfl
  have hw : Busy.next? ⟨s, []⟩ (.call (.record report)) = some (none, waiting) := by
    simp only [Busy.next?, hb]
    rfl
  have hwait : Busy.Runs ⟨s, []⟩ [⟨⟨s, []⟩, none, waiting⟩] waiting := .cons hw (.nil _)
  intro answer recorded reset birth life
  have hf : registered.2.next? (.finish 0) = some (some (.record report, .recorded answer.1), recorded) := by
    simp only [Busy.next?, waiting, registered, Busy.whole]
    rfl
  have hr : recorded.next? (.call (.reset "V1")) = some reset := rfl
  have hg : waiting.next? (.call (.register "V1")) = some registered := rfl
  have hlife : Busy.Runs waiting (birth :: life) reset.2 := .cons hg (.cons hf (.cons hr (.nil _)))
  have htracked : ∀ m ∈ birth :: life, m.after.service.isTracked "V1" = true := by decide +kernel
  exact ⟨hwait, hlife, htracked, revisions_consecutive hwait hlife (by decide +kernel) htracked⟩

end VehicleDamage
