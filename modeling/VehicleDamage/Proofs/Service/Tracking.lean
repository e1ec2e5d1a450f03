import VehicleDamage.Console
import VehicleDamage.Proofs.Service.History
import VehicleDamage.Proofs.Service.Sections
import Mathlib.Data.List.DropRight

/-!
Which vehicles are tracked, and what a revision counts. A vehicle lives from the step that makes it tracked to its
eviction; its revision is the number of mutations in the life it is in.
-/

namespace VehicleDamage

/-- A report of the vehicle that is accepted with zones. -/
def Operation.lands (vehicle : String) : Operation → Answer → Bool
  | .record report, .recorded (.ok outcome) => report.vehicle == vehicle && !outcome.isDropped
  | _, _ => false

/-- Whether an answered call is a mutation of a vehicle that is tracked. -/
def Operation.mutates (vehicle : String) : Operation → Answer → Bool
  | .reset other, .reset (.ok _) => other == vehicle
  | .reload _, _ => true
  | operation, answer => operation.lands vehicle answer

/-- All that a step can do to a vehicle, by its state before and after, and whether it is counted as a mutation. -/
inductive Change (before after : Option State) (mutates : Bool) : Prop
  | kept (same : after = before) (silent : after.isSome = true → mutates = false)
  | advanced (state : State) (reached : after = some state)
      (counted : state.revision = (before.map State.revision).getD 0 + 1) (noted : mutates = true)
  | started (state : State) (untracked : before = none) (reached : after = some state)
      (fresh : state.revision = 0) (silent : mutates = false)
  | evicted (gone : after = none)

theorem Operation.mutates_of_lands {vehicle : String} {operation : Operation} {answer : Answer}
    (h : operation.lands vehicle answer = true) : operation.mutates vehicle answer = true := by
  cases operation with
  | record report => exact h
  | register | reset | evict | reload => cases h

section Life

variable {α : Type} (state? : α → Option State) (mutates : α → Bool)

/-- The steps of the life a vehicle is in, from the one that made it tracked on. -/
def life (steps : List α) : List α :=
  steps.rtakeWhile fun a => (state? a).isSome

/-- The state that a life had right after so many mutations; before the first one, what it began with. -/
def IsStateAt (life : List α) (revision : Nat) (state : State) : Prop :=
  ∃ sooner step later, life = sooner ++ step :: later ∧ state? step = some state ∧
    (sooner ++ [step]).countP mutates = revision ∧ (sooner = [] ∨ mutates step = true)

/-- Steps one after another, the vehicle being untracked at first, and its state after them. -/
inductive Log : List α → Option State → Prop
  | nil : Log [] none
  | snoc {steps : List α} {before : Option State} {a : α} (rest : Log steps before)
      (change : Change before (state? a) (mutates a)) : Log (steps ++ [a]) (state? a)

variable {state? mutates} {steps : List α} {current : Option State} {state : State}

theorem life_concat {a : α} (h : state? a = some state) : life state? (steps ++ [a]) = life state? steps ++ [a] :=
  List.rtakeWhile_concat_pos _ _ _ (by rw [h]; rfl)

theorem IsStateAt.concat {revision : Nat} (h : IsStateAt state? mutates steps revision state) (a : α) :
    IsStateAt state? mutates (steps ++ [a]) revision state := by
  obtain ⟨sooner, step, later, rfl, hs, hc, hm⟩ := h
  exact ⟨sooner, step, later ++ [a], List.append_assoc _ _ _, hs, hc, hm⟩

theorem isStateAt_last (sooner : List α) {a : α} (hs : state? a = some state)
    (hm : sooner = [] ∨ mutates a = true) :
    IsStateAt state? mutates (sooner ++ [a]) ((sooner ++ [a]).countP mutates) state :=
  ⟨sooner, a, [], rfl, hs, rfl, hm⟩

theorem Log.life_eq_nil (h : Log state? mutates steps current) (hc : current = none) : life state? steps = [] := by
  cases h with
  | nil => rfl
  | snoc rest change => exact List.rtakeWhile_concat_neg _ _ _ (by rw [hc]; exact Bool.false_ne_true)

/-- The revision counts the mutations of the life that the vehicle is in, and its state is the one that the last of
them left. -/
theorem Log.revision_eq (h : Log state? mutates steps current) (hc : current = some state) :
    state.revision = (life state? steps).countP mutates ∧
      IsStateAt state? mutates (life state? steps) state.revision state := by
  induction h generalizing state with
  | nil => cases hc
  | @snoc steps before a rest change ih =>
      -- A life is extended by its last step, and where that step began it, there is nothing before to count.
      rw [life_concat hc]
      cases change with
      | kept same silent =>
          obtain ⟨hr, hs⟩ := ih (same.symm.trans hc)
          refine ⟨?_, hs.concat a⟩
          rw [List.countP_append, List.countP_singleton, silent (by rw [hc]; rfl), hr]
          rfl
      | advanced state' reached counted noted =>
          obtain rfl := Option.some.inj (reached.symm.trans hc)
          have hr : state'.revision = (life state? steps ++ [a]).countP mutates := by
            rw [counted, List.countP_append, List.countP_singleton, noted]
            cases before with
            | none =>
                rw [rest.life_eq_nil rfl]
                rfl
            | some previous =>
                rw [← (ih rfl).1]
                rfl
          exact ⟨hr, hr ▸ isStateAt_last _ reached (.inr noted)⟩
      | started state' untracked reached fresh silent =>
          obtain rfl := Option.some.inj (reached.symm.trans hc)
          rw [rest.life_eq_nil untracked, List.nil_append]
          have hr : state'.revision = [a].countP mutates := by
            rw [fresh, List.countP_singleton, silent]
            rfl
          exact ⟨hr, hr ▸ isStateAt_last [] reached (.inl rfl)⟩
      | evicted gone =>
          rw [hc] at gone
          cases gone

end Life

/-! ### Calls -/

/-- Whether a section that may have answered a call is a mutation of the vehicle. -/
def answerMutates (vehicle : String) : Option (Operation × Answer) → Bool
  | some (operation, answer) => operation.mutates vehicle answer
  | none => false

def Moment.mutates (vehicle : String) (m : Moment) : Bool :=
  answerMutates vehicle m.answered

theorem Moment.revisions_eq_nil {vehicle : String} {m : Moment} (h : m.mutates vehicle = false) :
    m.revisions vehicle = [] := by
  obtain ⟨before, answered, after⟩ := m
  simp only [mutates, answerMutates] at h
  simp only [revisions]
  split
  · next report outcome =>
    refine if_neg fun hl => ?_
    simp [Operation.mutates, Operation.lands, hl.1, hl.2] at h
  · next other revision =>
    refine if_neg fun ho => ?_
    simp [Operation.mutates, ho] at h
  · cases h
  · rfl

theorem Moment.revisions_ne_nil {vehicle : String} {m : Moment} (h : m.mutates vehicle = true) {state : State}
    (hs : m.after.state? vehicle = some state) : m.revisions vehicle ≠ [] := by
  obtain ⟨before, answered, after⟩ := m
  simp only [mutates, answerMutates] at h
  split at h
  · next operation answer =>
    cases operation with
    | register | evict => cases answer <;> cases h
    | record report =>
        cases answer with
        | recorded result =>
            cases result with
            | error => cases h
            | ok outcome =>
                have hl : report.vehicle = vehicle ∧ outcome.isDropped = false := by
                  simpa [Operation.mutates, Operation.lands] using h
                simp [revisions, hl.1, hl.2]
        | registered | reset | evicted | reloaded => cases h
    | reset other =>
        cases answer with
        | reset result =>
            cases result with
            | error => cases h
            | ok revision =>
                have ho : other = vehicle := by simpa [Operation.mutates] using h
                simp [revisions, ho]
        | registered | recorded | evicted | reloaded => cases h
    | reload catalog => simp [revisions, hs]
  · cases h

theorem Moment.Effect.change {vehicle : String} {m : Moment} (h : m.Effect vehicle) :
    Change (m.before.state? vehicle) (m.after.state? vehicle) (m.mutates vehicle) := by
  have hsilent : m.revisions vehicle = [] → (m.after.state? vehicle).isSome = true → m.mutates vehicle = false := by
    intro hr ht
    obtain ⟨state, hs⟩ := Option.isSome_iff_exists.1 ht
    exact Bool.eq_false_iff.2 fun hm => revisions_ne_nil hm hs hr
  cases h with
  | kept same silent => exact .kept same (hsilent silent)
  | advanced state reached counted acknowledged =>
      refine .advanced state reached counted (Bool.of_not_eq_false fun hm => ?_)
      rw [revisions_eq_nil hm] at acknowledged
      cases acknowledged
  | started state untracked reached fresh silent =>
      exact .started state untracked reached fresh (hsilent silent (by rw [reached]; rfl))
  | evicted gone => exact .evicted gone

namespace Call

def mutates (vehicle : String) (c : Call) : Bool :=
  c.operation.mutates vehicle c.answer

def lands (vehicle : String) (c : Call) : Bool :=
  c.operation.lands vehicle c.answer

def evicts (vehicle : String) (c : Call) : Bool :=
  match c.operation with
  | .evict other => other == vehicle
  | _ => false

def state? (vehicle : String) (c : Call) : Option State :=
  c.after.vehicles.get? vehicle

/-- Whether a call makes sure that the vehicle is tracked. -/
def enlists (options : Options) (vehicle : String) (c : Call) : Prop :=
  c.operation = .register vehicle ∨ (options.requireRegistration = false ∧ c.lands vehicle = true)

/-- The calls since the vehicle was last evicted; all of them if it never was. -/
def sinceEviction (vehicle : String) (calls : List Call) : List Call :=
  calls.rtakeWhile fun c => !c.evicts vehicle

theorem sinceEviction_concat {vehicle : String} {c : Call} (h : c.evicts vehicle = false) (calls : List Call) :
    sinceEviction vehicle (calls ++ [c]) = sinceEviction vehicle calls ++ [c] :=
  List.rtakeWhile_concat_pos _ _ _ (by rw [h]; rfl)

theorem sinceEviction_eq_nil {vehicle : String} {c : Call} (h : c.evicts vehicle = true) (calls : List Call) :
    sinceEviction vehicle (calls ++ [c]) = [] :=
  List.rtakeWhile_concat_neg _ _ _ (by rw [h]; exact Bool.false_ne_true)

theorem change (vehicle : String) (c : Call) :
    Change (c.before.vehicles.get? vehicle) (c.state? vehicle) (c.mutates vehicle) :=
  (Busy.effect_whole ⟨c.before, []⟩ c.operation).change

end Call

namespace Service

theorem run_concat (s : Service) (operations : List Operation) (operation : Operation) :
    s.run (operations ++ [operation]) = ((s.run operations).perform operation).2 := by
  rw [run, List.foldl_append]
  rfl

theorem calls_concat (s : Service) (operations : List Operation) (operation : Operation) :
    s.calls (operations ++ [operation]) = s.calls operations ++ [⟨s.run operations, operation⟩] := by
  induction operations generalizing s with
  | nil => rfl
  | cons first operations ih => exact congrArg _ (ih _)

theorem options_applyTracked (s : Service) (state : State) (zones : List String) (report : Report) :
    (s.applyTracked state zones report).2.options = s.options := by
  rw [applyTracked]
  split <;> rfl

theorem options_perform (s : Service) (operation : Operation) : (s.perform operation).2.options = s.options := by
  cases operation with
  | register vehicle =>
      simp only [perform, register]
      split <;> rfl
  | record report =>
      simp only [perform]
      rcases s.record_cases report with ⟨-, he⟩ | ⟨-, -, he⟩ | ⟨-, -, he⟩
      · rw [he]
      · rw [he]
      · rw [he]
        exact s.options_applyTracked _ _ _
  | reset vehicle =>
      simp only [perform, reset]
      split <;> rfl
  | evict vehicle =>
      simp only [perform, evict]
      split <;> rfl
  | reload catalog => rfl

theorem options_run (s : Service) (operations : List Operation) : (s.run operations).options = s.options := by
  induction operations generalizing s with
  | nil => rfl
  | cons operation operations ih => exact (ih _).trans (s.options_perform operation)

theorem log_calls (catalog : Catalog) (options : Options) (vehicle : String) (operations : List Operation) :
    Log (Call.state? vehicle) (Call.mutates vehicle) ((new catalog options).calls operations)
      (((new catalog options).run operations).vehicles.get? vehicle) := by
  induction operations using List.reverseRecOn with
  | nil => exact .nil
  | append_singleton operations operation ih =>
      rw [calls_concat, run_concat]
      exact .snoc ih (Call.change vehicle ⟨_, operation⟩)

theorem length_calls (s : Service) (operations : List Operation) : (s.calls operations).length = operations.length := by
  induction operations generalizing s with
  | nil => rfl
  | cons operation operations ih => exact congrArg Nat.succ (ih _)

/-- A vehicle's revision is never above the number of calls made, so a counter of 64 bits holds it as long as there are
fewer than `2 ^ 64` of them. -/
theorem revision_le_length (catalog : Catalog) (options : Options) (operations : List Operation) {vehicle : String}
    {state : State} (h : ((new catalog options).run operations).vehicles.get? vehicle = some state) :
    state.revision ≤ operations.length := by
  have hrevision := ((log_calls catalog options vehicle operations).revision_eq h).1
  have hlife : (life (Call.state? vehicle) ((new catalog options).calls operations)).length ≤ operations.length := by
    rw [← length_calls (new catalog options) operations]
    exact (List.rtakeWhile_suffix _ _).length_le
  rw [hrevision]
  exact Nat.le_trans List.countP_le_length hlife

theorem isTracked_withVehicle (s : Service) (vehicle other : String) (state : State) :
    (s.withVehicle other state).isTracked vehicle = true ↔ vehicle = other ∨ s.isTracked vehicle = true := by
  rw [isTracked_eq, isTracked_eq, get?_withVehicle]
  by_cases hv : vehicle = other <;> simp [hv]

theorem isTracked_recorded (s : Service) (vehicle : String) (report : Report) :
    (s.record report).2.isTracked vehicle = true ↔ s.isTracked vehicle = true ∨
      (s.options.requireRegistration = false ∧
        Operation.lands vehicle (.record report) (.recorded (s.record report).1) = true) := by
  rcases s.record_cases report with ⟨-, he⟩ | ⟨-, -, he⟩ | ⟨ha, hz, he⟩
  · simp [he, Operation.lands]
  · have hl : Operation.lands vehicle (.record report) (.recorded (s.unresolved report)) = false := by
      rw [unresolved]
      split <;> simp [Operation.lands, Outcome.isDropped]
    simp [he, hl]
  · rw [he]
    rcases s.applyTracked_cases (s.stateOf report.vehicle) (s.resolver.resolve report.source) report with
      ⟨-, he⟩ | ⟨_, -, -, he⟩ | ⟨-, -, he⟩
    · simp [he, Operation.lands]
    · simp [he, Operation.lands]
    · rw [he, isTracked_withVehicle]
      have hd : s.resolver.resolve report.source ≠ [] := hz
      simp only [admits, Bool.or_eq_true, Bool.not_eq_true'] at ha
      simp only [Operation.lands, Outcome.isDropped, Bool.and_eq_true, beq_iff_eq, Bool.not_eq_true',
        List.isEmpty_eq_false_iff]
      by_cases hv : vehicle = report.vehicle
      · subst hv
        simp [hd, ha]
      · simp [hv, Ne.symm hv]

/-- A vehicle is tracked after a call that enlists it, and otherwise if it was before and is not evicted. -/
theorem isTracked_perform (s : Service) (vehicle : String) (operation : Operation) :
    (s.perform operation).2.isTracked vehicle = true ↔
      Call.evicts vehicle ⟨s, operation⟩ = false ∧
        (s.isTracked vehicle = true ∨ Call.enlists s.options vehicle ⟨s, operation⟩) := by
  cases operation with
  | register other =>
      simp only [perform, register, Call.evicts, Call.enlists, Call.lands, Operation.lands]
      split
      · next ht =>
        by_cases hv : other = vehicle
        · simp [hv, hv ▸ ht]
        · simp [hv]
      · rw [isTracked_withVehicle]
        by_cases hv : other = vehicle <;> simp [hv, Ne.symm]
  | record report =>
      have h := s.isTracked_recorded vehicle report
      simpa [Call.evicts, Call.enlists, Call.lands, Call.answer, perform] using h
  | reset other =>
      have hg : (s.reset other).2.isTracked vehicle = s.isTracked vehicle := by
        rw [isTracked_eq, isTracked_eq, get?_reset]
        split
        · exact Option.isSome_map
        · rfl
      simp [perform, hg, Call.evicts, Call.enlists, Call.lands, Operation.lands]
  | evict other =>
      simp only [perform, isTracked_eq, get?_evict, Call.evicts, Call.enlists, Call.lands, Operation.lands]
      by_cases hv : vehicle = other
      · simp [hv]
      · simp [hv, Ne.symm hv]
  | reload catalog =>
      simp [perform, isTracked_eq, get?_reload, Call.evicts, Call.enlists, Call.lands, Operation.lands]

/-- A call that neither enlists nor evicts a vehicle, and is no mutation of it, leaves it alone. -/
theorem get?_perform (s : Service) (vehicle : String) (operation : Operation)
    (hm : Call.mutates vehicle ⟨s, operation⟩ = false) (he : Call.evicts vehicle ⟨s, operation⟩ = false)
    (hr : operation = .register vehicle → s.isTracked vehicle = true) :
    (s.perform operation).2.vehicles.get? vehicle = s.vehicles.get? vehicle := by
  have ht := s.isTracked_perform vehicle operation
  cases Call.change vehicle ⟨s, operation⟩ with
  | kept same => exact same
  | advanced state reached counted noted => cases hm.symm.trans noted
  | started state untracked reached =>
      have hafter : (s.perform operation).2.isTracked vehicle = true := congrArg Option.isSome reached
      have hbefore : s.isTracked vehicle = false := congrArg Option.isSome untracked
      obtain hb | hb | hb := (ht.1 hafter).2
      · cases hbefore.symm.trans hb
      · cases hbefore.symm.trans (hr hb)
      · cases hm.symm.trans (Operation.mutates_of_lands hb.2)
  | evicted gone =>
      have hafter : (s.perform operation).2.isTracked vehicle = false := congrArg Option.isSome gone
      have hbefore : s.vehicles.get? vehicle = none := by
        refine Option.not_isSome_iff_eq_none.1 fun hb => ?_
        cases hafter.symm.trans (ht.2 ⟨he, .inl hb⟩)
      exact gone.trans hbefore.symm

theorem isTracked_run (catalog : Catalog) (options : Options) (vehicle : String) (operations : List Operation) :
    ((new catalog options).run operations).isTracked vehicle = true ↔
      ∃ c ∈ Call.sinceEviction vehicle ((new catalog options).calls operations), c.enlists options vehicle := by
  induction operations using List.reverseRecOn with
  | nil =>
      refine iff_of_false Bool.false_ne_true ?_
      rintro ⟨c, hc, -⟩
      cases hc
  | append_singleton operations operation ih =>
      -- An eviction leaves no call that counts; any other call is one more of them.
      rw [run_concat, calls_concat, isTracked_perform, ih, options_run]
      cases he : Call.evicts vehicle ⟨(new catalog options).run operations, operation⟩ with
      | true =>
          rw [Call.sinceEviction_eq_nil he]
          simp
      | false =>
          rw [Call.sinceEviction_concat he]
          simp [new, or_and_right, exists_or]

theorem state_untracked (s : Service) {vehicle : String} (h : s.isTracked vehicle = false) :
    s.state vehicle = .error (.notTracked vehicle) := by
  have hn : s.vehicles.get? vehicle = none := by simpa [isTracked_eq] using h
  rw [state, hn]

theorem snapshot_of_get? {s : Service} {vehicle : String} {state : State}
    (h : s.vehicles.get? vehicle = some state) : s.snapshot vehicle = .ok state.snapshot := by
  rw [snapshot, Service.state, h]
  rfl

theorem overlay_of_get? {s : Service} {vehicle : String} {state : State}
    (h : s.vehicles.get? vehicle = some state) :
    s.overlay vehicle = .ok (.render s.options.palette s.catalog state.snapshot) := by
  rw [overlay, snapshot_of_get? h]
  rfl

/-- Tracking and revisions follow from the calls made. A vehicle is tracked if, since it was last evicted, it was
registered or, where that is not required, a report of it was accepted. Its revision counts the accepted reports,
resets and reloads since it last became tracked. Nothing else changes it, reading least of all; and what is not
tracked cannot be read or reset. -/
theorem tracking_accounted (catalog : Catalog) (options : Options) (operations : List Operation)
    (vehicle : String) :
    let start := new catalog options
    let s := start.run operations
    let calls := start.calls operations
    (s.isTracked vehicle = true ↔
      ∃ c ∈ Call.sinceEviction vehicle calls,
        c.operation = .register vehicle ∨ (options.requireRegistration = false ∧ c.lands vehicle = true)) ∧
    (∀ state, s.vehicles.get? vehicle = some state →
      state.revision = (life (Call.state? vehicle) calls).countP (Call.mutates vehicle)) ∧
    (∀ operation, (s.perform operation).2.vehicles.get? vehicle ≠ s.vehicles.get? vehicle →
      operation = .evict vehicle ∨ (operation = .register vehicle ∧ s.isTracked vehicle = false) ∨
        operation.mutates vehicle (s.perform operation).1 = true) ∧
    (∀ workers path, (Console.execute workers s (.render vehicle path)).2 = s ∧
      (Console.execute workers s .status).2 = s) ∧
    (s.isTracked vehicle = false →
      (∀ zone, s.severity vehicle zone = .error (.notTracked vehicle)) ∧
      s.snapshot vehicle = .error (.notTracked vehicle) ∧ s.overlay vehicle = .error (.notTracked vehicle) ∧
      s.reset vehicle = (.error (.notTracked vehicle), s)) := by
  intro start s calls
  refine ⟨isTracked_run catalog options vehicle operations, fun state hs => ?_, fun operation hc => ?_,
    fun workers path => ⟨rfl, rfl⟩, fun hn => ?_⟩
  · exact ((log_calls catalog options vehicle operations).revision_eq hs).1
  · by_contra hk
    obtain ⟨he, hk⟩ := not_or.1 hk
    obtain ⟨hr, hm⟩ := not_or.1 hk
    refine hc (s.get?_perform vehicle operation (Bool.eq_false_iff.2 hm) ?_ fun ho => ?_)
    · cases operation with
      | evict other => simpa [Call.evicts] using he
      | register | record | reset | reload => rfl
    · exact Bool.of_not_eq_false fun hn => hr ⟨ho, hn⟩
  · have hs := s.state_untracked hn
    refine ⟨fun zone => ?_, ?_, ?_, ?_⟩
    · rw [severity, hs]
    · rw [snapshot, hs]
      rfl
    · rw [overlay, snapshot, hs]
      rfl
    · rw [reset, hs]

end Service

end VehicleDamage
