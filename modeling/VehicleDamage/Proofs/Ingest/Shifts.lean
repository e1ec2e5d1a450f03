import VehicleDamage.Proofs.Ingest.Order
import Mathlib

/-!
Workers that take turns in any order, section by section, while reports are still coming in: whichever way they
take them, the service ends up as if the reports had been recorded one by one.
-/

namespace VehicleDamage

/-- What a worker has in hand: a report whose vehicle it is about to create, or an answer it has yet to count. -/
inductive Hand where
  | free
  | creating (report : Report) (zones : List String) (catalog : Catalog)
  | answered (report : Report) (result : Except ServiceFault Outcome)

/-- A pipeline at work: the reports still to be enqueued, and the hand of each worker. -/
structure Shift where
  pipeline : Pipeline
  incoming : List Report
  hands : List Hand

inductive Move where
  | enqueue
  | work (shard : Nat)

namespace Shift

def start (service : Service) (workers : Nat) (reports : List Report) : Shift :=
  ⟨.spawn service workers, reports, List.replicate (max workers 1) .free⟩

/-- Take a report from a queue and begin to record it. -/
def take (s : Shift) (shard : Nat) (report : Report) (more : List Report) : Shift :=
  let p := { s.pipeline with
    queues := s.pipeline.queues.set shard more
    notes := s.pipeline.notes ++ s.pipeline.service.recordNotes report }
  match p.service.beginRecord report with
  | .finished result next =>
    { s with pipeline := { p with service := next }, hands := s.hands.set shard (.answered report result) }
  | .create zones catalog =>
    { s with pipeline := p, hands := s.hands.set shard (.creating report zones catalog) }

/-- The second section of a recording. -/
def create (s : Shift) (shard : Nat) (report : Report) (zones : List String) (catalog : Catalog) : Shift :=
  let (result, next) := s.pipeline.service.finishRecord zones catalog report
  { s with pipeline := { s.pipeline with service := next }, hands := s.hands.set shard (.answered report result) }

def count (s : Shift) (shard : Nat) (report : Report) (result : Except ServiceFault Outcome) : Shift :=
  let failure := match result with
    | .error fault => [.reportFailed shard report.vehicle fault]
    | .ok _ => []
  let p := { s.pipeline with
    stats := s.pipeline.stats.count result
    notes := s.pipeline.notes ++ failure }
  { s with pipeline := p, hands := s.hands.set shard .free }

/-- What the worker of a queue does next, if it can do anything. -/
def work? (s : Shift) (shard : Nat) : Option Shift :=
  match s.hands[shard]? with
  | none => none
  | some .free => match s.pipeline.queues[shard]? with
    | some (report :: more) => some (s.take shard report more)
    | _ => none
  | some (.creating report zones catalog) => some (s.create shard report zones catalog)
  | some (.answered report result) => some (s.count shard report result)

def move? (s : Shift) : Move → Option Shift
  | .enqueue => match s.incoming with
    | [] => none
    | report :: more => some { s with pipeline := s.pipeline.enqueue report, incoming := more }
  | .work shard => s.work? shard

/-- The moves made one after another, if each of them can be made. -/
def run? (s : Shift) (moves : List Move) : Option Shift :=
  moves.foldlM move? s

/-- Nothing is left to do. -/
structure Finished (s : Shift) : Prop where
  incoming_eq : s.incoming = []
  queues_empty : ∀ queue ∈ s.pipeline.queues, queue = []
  hands_free : ∀ hand ∈ s.hands, hand = .free

end Shift

/-! ### One list with an entry replaced -/

section Replaced

variable {α : Type} {xs : List α} {i : Nat} {a : α}

theorem perm_of_getElem? (h : xs[i]? = some a) : xs.Perm (a :: xs.eraseIdx i) := by
  obtain ⟨hi, rfl⟩ := List.getElem?_eq_some_iff.1 h
  exact (List.getElem_cons_eraseIdx_perm hi).symm

theorem perm_set (h : xs[i]? = some a) (b : α) : (xs.set i b).Perm (b :: xs.eraseIdx i) := by
  obtain ⟨hi, -⟩ := List.getElem?_eq_some_iff.1 h
  exact List.set_perm_cons_eraseIdx hi b

theorem sum_map_set (h : xs[i]? = some a) (b : α) (f : α → Nat) :
    ((xs.set i b).map f).sum + f a = (xs.map f).sum + f b := by
  have h1 := ((perm_of_getElem? h).map f).sum_eq
  have h2 := ((perm_set h b).map f).sum_eq
  rw [List.map_cons, List.sum_cons] at h1 h2
  omega

end Replaced

namespace Hand

/-- The report whose recording stands between its two sections. -/
def opened : Hand → List Report
  | creating report _ _ => [report]
  | _ => []

def uncounted : Hand → List (Except ServiceFault Outcome)
  | answered _ result => [result]
  | _ => []

/-- The moves it takes to free the hand. -/
def left : Hand → Nat
  | free => 0
  | answered _ _ => 1
  | creating _ _ _ => 2

end Hand

theorem foldl_count_perm {xs ys : List (Except ServiceFault Outcome)} (h : xs.Perm ys) (stats : Stats) :
    xs.foldl Stats.count stats = ys.foldl Stats.count stats :=
  h.foldl_eq' (fun a _ b _ stats => stats.count_comm a b) stats

theorem shardFor_lt {n : Nat} (key : String) (h : 0 < n) : shardFor key n < n := by
  rw [shardFor, Nat.max_eq_left h]
  exact Nat.mod_lt _ h

namespace Shift

/-- The reports of a queue that are not recorded yet, the one in its worker's hand first. -/
def awaiting (s : Shift) (shard : Nat) : List Report :=
  ((s.hands[shard]?.map Hand.opened).getD []) ++ s.pipeline.queues[shard]?.getD []

/-- The service, with the counts as they will be when every answer is counted. -/
def recorded (s : Shift) : Service × Stats :=
  (s.pipeline.service, (s.hands.flatMap Hand.uncounted).foldl Stats.count s.pipeline.stats)

/-- What every move keeps: the reports of `done` have been recorded, in this order, and the others wait where
their vehicle's turn comes, behind the vehicle's earlier ones. -/
structure Keeps (origin : Service) (reports : List Report) (s : Shift) (done : List Report) : Prop where
  workers_pos : 0 < s.pipeline.workerCount
  hands_length : s.hands.length = s.pipeline.workerCount
  recorded_eq : s.recorded = done.foldl Service.tally (origin, ⟨0, 0, 0⟩)
  order : ∀ vehicle, (done ++ s.awaiting (shardFor vehicle s.pipeline.workerCount) ++ s.incoming).filter
    (·.vehicle = vehicle) = reports.filter (·.vehicle = vehicle)
  placed : ∀ shard, ∀ report ∈ s.awaiting shard, shardFor report.vehicle s.pipeline.workerCount = shard
  opened : ∀ (shard : Nat) (report : Report) (zones : List String) (catalog : Catalog),
    s.hands[shard]? = some (.creating report zones catalog) →
    s.pipeline.service.beginRecord report = .create zones catalog

variable {origin : Service} {reports done moved : List Report} {s s' : Shift} {shard : Nat}

theorem keeps_start (service : Service) (workers : Nat) (reports : List Report) :
    Keeps service reports (start service workers reports) [] := by
  have hw : (start service workers reports).pipeline.workerCount = max workers 1 := by
    simp [start, Pipeline.spawn, Pipeline.workerCount]
  have ha (shard : Nat) : (start service workers reports).awaiting shard = [] := by
    simp only [awaiting, start, Pipeline.spawn, List.getElem?_replicate]
    split <;> rfl
  constructor
  · omega
  · rw [hw, start, List.length_replicate]
  · simp [recorded, start, Pipeline.spawn, Hand.uncounted, List.flatMap_replicate]
  · intro vehicle
    rw [ha]
    rfl
  · intro shard report hm
    rw [ha] at hm
    cases hm
  · intro shard report zones catalog hg
    simp [start, List.getElem?_replicate] at hg

/-- A report that waits in another queue is of another vehicle. -/
theorem Keeps.vehicle_ne (h : s.Keeps origin reports done) {other : Nat} {report report' : Report}
    (hr : report ∈ s.awaiting shard) (hr' : report' ∈ s.awaiting other) (ho : other ≠ shard) :
    report'.vehicle ≠ report.vehicle := by
  intro he
  have hp := h.placed shard report hr
  rw [← he, h.placed other report' hr'] at hp
  exact ho hp

/-- A move of one worker, in which it has recorded the reports of `moved`. -/
theorem Keeps.work (h : s.Keeps origin reports done) (hi : s'.incoming = s.incoming)
    (hw : s'.pipeline.workerCount = s.pipeline.workerCount) (hl : s'.hands.length = s.hands.length)
    (ha : s.awaiting shard = moved ++ s'.awaiting shard)
    (ho : ∀ other, other ≠ shard → s'.awaiting other = s.awaiting other)
    (hr : s'.recorded = moved.foldl Service.tally s.recorded)
    (hc : ∀ (other : Nat) (report : Report) (zones : List String) (catalog : Catalog),
      s'.hands[other]? = some (.creating report zones catalog) →
      s'.pipeline.service.beginRecord report = .create zones catalog) :
    s'.Keeps origin reports (done ++ moved) := by
  constructor
  · rw [hw]
    exact h.workers_pos
  · rw [hl, hw, h.hands_length]
  · rw [hr, h.recorded_eq, List.foldl_append]
  · intro vehicle
    rw [← h.order vehicle, hw, hi]
    by_cases hv : shardFor vehicle s.pipeline.workerCount = shard
    · rw [hv, ha]
      simp only [List.append_assoc]
    · rw [ho _ hv]
      -- what has moved is of vehicles that belong to another queue
      have hm : moved.filter (·.vehicle = vehicle) = [] := by
        rw [List.filter_eq_nil_iff]
        intro report hm hve
        have hp := h.placed shard report (ha ▸ List.mem_append_left _ hm)
        rw [of_decide_eq_true hve] at hp
        exact hv hp
      simp [hm]
  · intro other report hm
    rw [hw]
    by_cases he : other = shard
    · subst he
      exact h.placed other report (ha ▸ List.mem_append_right _ hm)
    · exact h.placed other report (ho other he ▸ hm)
  · exact hc

theorem awaiting_enqueue (s : Shift) (report : Report) (more : List Report) (hw : 0 < s.pipeline.workerCount)
    (shard : Nat) :
    awaiting { s with pipeline := s.pipeline.enqueue report, incoming := more } shard =
      s.awaiting shard ++ if shardFor report.vehicle s.pipeline.workerCount = shard then [report] else [] := by
  have hlt := shardFor_lt report.vehicle hw
  simp only [awaiting, Pipeline.enqueue, List.getElem?_modify, List.append_assoc]
  congr 1
  split
  · next he =>
    subst he
    obtain ⟨queue, hq⟩ : ∃ queue, s.pipeline.queues[shardFor report.vehicle s.pipeline.workerCount]? = some queue :=
      ⟨_, List.getElem?_eq_getElem hlt⟩
    simp [hq]
  · simp

theorem Keeps.enqueue (h : s.Keeps origin reports done) {report : Report} {more : List Report}
    (hi : s.incoming = report :: more) :
    Keeps origin reports { s with pipeline := s.pipeline.enqueue report, incoming := more } done := by
  have hw : (s.pipeline.enqueue report).workerCount = s.pipeline.workerCount := by
    simp [Pipeline.enqueue, Pipeline.workerCount]
  constructor
  · rw [hw]
    exact h.workers_pos
  · rw [hw]
    exact h.hands_length
  · exact h.recorded_eq
  · intro vehicle
    rw [← h.order vehicle, hw, awaiting_enqueue s report more h.workers_pos, hi]
    split
    · simp only [List.append_assoc, List.singleton_append]
    · next hne =>
      have hv : ¬report.vehicle = vehicle := fun he => hne (he ▸ rfl)
      simp [hv]
  · intro shard report' hm
    rw [hw]
    rw [awaiting_enqueue s report more h.workers_pos] at hm
    rcases List.mem_append.1 hm with hm | hm
    · exact h.placed shard report' hm
    · split at hm
      · next he => rwa [List.mem_singleton.1 hm]
      · cases hm
  · exact h.opened

/-- The hand of one worker contributes to what is recorded whatever answer it holds. -/
theorem recorded_set {hand : Hand} (hg : s.hands[shard]? = some hand) (hand' : Hand) :
    ∃ others, s.recorded.2 = (hand.uncounted ++ others).foldl Stats.count s.pipeline.stats ∧
      ∀ stats, ((s.hands.set shard hand').flatMap Hand.uncounted).foldl Stats.count stats =
        (hand'.uncounted ++ others).foldl Stats.count stats :=
  ⟨(s.hands.eraseIdx shard).flatMap Hand.uncounted,
    foldl_count_perm ((perm_of_getElem? hg).flatMap_right Hand.uncounted) _,
    fun stats => foldl_count_perm ((perm_set hg hand').flatMap_right Hand.uncounted) stats⟩

theorem awaiting_set {hand hand' : Hand} {queues : List (List Report)} {p : Pipeline}
    (hg : s.hands[shard]? = some hand) (hp : p.queues = queues)
    (hq : ∀ other, other ≠ shard → queues[other]? = s.pipeline.queues[other]?) (other : Nat) :
    awaiting { s with pipeline := p, hands := s.hands.set shard hand' } other =
      if other = shard then hand'.opened ++ queues[shard]?.getD [] else s.awaiting other := by
  subst hp
  split
  · next he =>
    subst he
    simp [awaiting, List.getElem?_set_self (List.getElem?_eq_some_iff.1 hg).1]
  · next he => simp only [awaiting, List.getElem?_set_ne (Ne.symm he), hq other he]

/-- The worker of a queue records the first report that waits there, and holds the answer. -/
theorem Keeps.answer (h : s.Keeps origin reports done) {report : Report} {hand : Hand} {p : Pipeline}
    (hg : s.hands[shard]? = some hand) (hu : hand.uncounted = [])
    (ha : s.awaiting shard = report :: p.queues[shard]?.getD [])
    (hq : ∀ other, other ≠ shard → p.queues[other]? = s.pipeline.queues[other]?)
    (hl : p.queues.length = s.pipeline.queues.length) (hs : p.service = (s.pipeline.service.record report).2)
    (ht : p.stats = s.pipeline.stats) :
    Keeps origin reports
      { s with
        pipeline := p
        hands := s.hands.set shard (.answered report (s.pipeline.service.record report).1) }
      (done ++ [report]) := by
  refine h.work rfl hl (List.length_set ..) (?_ : s.awaiting shard = _) ?_ ?_ ?_
  · rw [awaiting_set hg rfl hq, if_pos rfl, ha]
    rfl
  · intro other ho
    rw [awaiting_set hg rfl hq, if_neg ho]
  · obtain ⟨others, hr, hr'⟩ := recorded_set hg (.answered report (s.pipeline.service.record report).1)
    rw [hu] at hr
    have hp := foldl_count_perm (List.perm_append_singleton (s.pipeline.service.record report).1 others).symm
      s.pipeline.stats
    rw [List.foldl_append] at hp
    refine Prod.ext hs ?_
    show ((s.hands.set shard _).flatMap Hand.uncounted).foldl Stats.count p.stats = s.recorded.2.count _
    rw [hr', ht, hr]
    exact hp
  · intro other report' zones catalog hc
    have ho : other ≠ shard := by
      intro he
      subst he
      rw [List.getElem?_set_self (List.getElem?_eq_some_iff.1 hg).1] at hc
      cases hc
    dsimp only at hc
    rw [List.getElem?_set_ne (Ne.symm ho)] at hc
    have hb := h.opened other report' zones catalog hc
    have hw : report' ∈ s.awaiting other := by simp [awaiting, hc, Hand.opened]
    have hv := h.vehicle_ne (by rw [ha]; exact List.mem_cons_self) hw ho
    dsimp only
    rw [hs]
    rcases s.pipeline.service.record_eq_withVehicle report with he | ⟨state, he⟩
    · rwa [he]
    · rw [he]
      exact Service.beginRecord_withVehicle hv hb state

/-- A move in which nothing is recorded. -/
theorem Keeps.idle (h : s.Keeps origin reports done) {hand hand' : Hand} {p : Pipeline}
    (hg : s.hands[shard]? = some hand)
    (ha : s.awaiting shard = hand'.opened ++ p.queues[shard]?.getD [])
    (hq : ∀ other, other ≠ shard → p.queues[other]? = s.pipeline.queues[other]?)
    (hl : p.queues.length = s.pipeline.queues.length) (hs : p.service = s.pipeline.service)
    (hr : ∀ others : List (Except ServiceFault Outcome), (hand'.uncounted ++ others).foldl Stats.count p.stats =
      (hand.uncounted ++ others).foldl Stats.count s.pipeline.stats)
    (hc : ∀ (report : Report) (zones : List String) (catalog : Catalog),
      hand' = .creating report zones catalog →
      s.pipeline.service.beginRecord report = .create zones catalog) :
    Keeps origin reports { s with pipeline := p, hands := s.hands.set shard hand' } done := by
  rw [← List.append_nil done]
  refine h.work rfl hl (List.length_set ..) (?_ : s.awaiting shard = _) ?_ ?_ ?_
  · rw [awaiting_set hg rfl hq, if_pos rfl, ha]
    rfl
  · intro other ho
    rw [awaiting_set hg rfl hq, if_neg ho]
  · obtain ⟨others, he, he'⟩ := recorded_set hg hand'
    refine Prod.ext hs ?_
    exact (he' p.stats).trans ((hr others).trans he.symm)
  · intro other report zones catalog hg'
    dsimp only at hg' ⊢
    rw [hs]
    by_cases ho : other = shard
    · subst ho
      rw [List.getElem?_set_self (List.getElem?_eq_some_iff.1 hg).1] at hg'
      exact hc report zones catalog (Option.some.inj hg')
    · rw [List.getElem?_set_ne (Ne.symm ho)] at hg'
      exact h.opened other report zones catalog hg'

theorem Keeps.take (h : s.Keeps origin reports done) {report : Report} {more : List Report}
    (hg : s.hands[shard]? = some .free) (hq : s.pipeline.queues[shard]? = some (report :: more)) :
    ∃ done', (s.take shard report more).Keeps origin reports done' := by
  have ha : s.awaiting shard = report :: (s.pipeline.queues.set shard more)[shard]?.getD [] := by
    simp [awaiting, hg, hq, Hand.opened, List.getElem?_set_self (List.getElem?_eq_some_iff.1 hq).1]
  have ho (other : Nat) (ho : other ≠ shard) :
      (s.pipeline.queues.set shard more)[other]? = s.pipeline.queues[other]? :=
    List.getElem?_set_ne (Ne.symm ho)
  have hl : (s.pipeline.queues.set shard more).length = s.pipeline.queues.length := List.length_set ..
  rw [Shift.take]
  dsimp only
  cases hb : s.pipeline.service.beginRecord report with
  | finished result next =>
      have he : s.pipeline.service.record report = (result, next) := by rw [Service.record, hb]
      have hk := h.answer (p := { s.pipeline with
        service := next
        queues := s.pipeline.queues.set shard more
        notes := s.pipeline.notes ++ s.pipeline.service.recordNotes report }) hg rfl ha ho hl (by rw [he]) rfl
      rw [he] at hk
      exact ⟨_, hk⟩
  | create zones catalog =>
      refine ⟨done, h.idle hg ha ho hl rfl (fun _ => rfl) ?_⟩
      intro report' zones' catalog' he
      cases he
      exact hb

theorem Keeps.create (h : s.Keeps origin reports done) {report : Report} {zones : List String}
    {catalog : Catalog} (hg : s.hands[shard]? = some (.creating report zones catalog)) :
    ∃ done', (s.create shard report zones catalog).Keeps origin reports done' := by
  have hb := h.opened shard report zones catalog hg
  have he : s.pipeline.service.record report = s.pipeline.service.finishRecord zones catalog report := by
    rw [Service.record, hb]
  have ha : s.awaiting shard = report :: s.pipeline.queues[shard]?.getD [] := by
    simp [awaiting, hg, Hand.opened]
  rw [Shift.create, ← he]
  exact ⟨_, h.answer hg rfl ha (fun _ _ => rfl) rfl rfl rfl⟩

theorem Keeps.count (h : s.Keeps origin reports done) {report : Report}
    {result : Except ServiceFault Outcome} (hg : s.hands[shard]? = some (.answered report result)) :
    (s.count shard report result).Keeps origin reports done := by
  refine h.idle hg ?_ (fun _ _ => rfl) rfl rfl (fun _ => rfl) (fun _ _ _ he => by cases he)
  simp [awaiting, hg, Hand.opened]

theorem Keeps.move (h : s.Keeps origin reports done) {move : Move} (hm : s.move? move = some s') :
    ∃ done', s'.Keeps origin reports done' := by
  cases move with
  | enqueue =>
      simp only [move?] at hm
      split at hm
      · cases hm
      · next report more hi =>
        cases hm
        exact ⟨done, h.enqueue hi⟩
  | work shard =>
      simp only [move?, work?] at hm
      split at hm
      · cases hm
      · next hg =>
        split at hm
        · next report more hq =>
          cases hm
          exact h.take hg hq
        · cases hm
      · next report zones catalog hg =>
        cases hm
        exact h.create hg
      · next report result hg =>
        cases hm
        exact ⟨done, h.count hg⟩

theorem run?_cons {move : Move} {moves : List Move} (h : s.run? (move :: moves) = some s') :
    ∃ next, s.move? move = some next ∧ next.run? moves = some s' := by
  rw [run?, List.foldlM_cons] at h
  exact Option.bind_eq_some_iff.1 h

theorem Keeps.run {moves : List Move} (h : s.Keeps origin reports done) (hr : s.run? moves = some s') :
    ∃ done', s'.Keeps origin reports done' := by
  induction moves generalizing s done with
  | nil =>
      cases hr
      exact ⟨done, h⟩
  | cons move moves ih =>
      obtain ⟨next, hm, hr⟩ := run?_cons hr
      obtain ⟨done', h'⟩ := h.move hm
      exact ih h' hr

/-- When nothing is left to do, each vehicle's reports have been recorded in the order they came in. -/
theorem Keeps.finished (h : s.Keeps origin reports done) (hf : s.Finished) :
    (s.pipeline.service, s.pipeline.stats) = reports.foldl Service.tally (origin, ⟨0, 0, 0⟩) := by
  have ha (shard : Nat) : s.awaiting shard = [] := by
    rw [awaiting, List.append_eq_nil_iff]
    constructor
    · cases hg : s.hands[shard]? with
      | none => rfl
      | some hand => rw [hf.hands_free hand (List.mem_of_getElem? hg)]; rfl
    · cases hg : s.pipeline.queues[shard]? with
      | none => rfl
      | some queue => rw [hf.queues_empty queue (List.mem_of_getElem? hg)]; rfl
  have hu : s.hands.flatMap Hand.uncounted = [] := by
    rw [List.flatMap_eq_nil_iff]
    intro hand hm
    rw [hf.hands_free hand hm]
    rfl
  have hr := h.recorded_eq
  rw [Shift.recorded, hu, List.foldl_nil] at hr
  rw [hr]
  apply foldl_eq_of_filter_eq fun b _ _ hv => Service.tally_comm b hv
  intro vehicle
  rw [← h.order vehicle, ha, hf.incoming_eq, List.append_nil, List.append_nil]

/-! ### Every order of moves comes to an end -/

/-- A bound on the moves that can still be made. -/
def left (s : Shift) : Nat :=
  4 * s.incoming.length + 3 * (s.pipeline.queues.map List.length).sum + (s.hands.map Hand.left).sum

theorem sum_enqueue_le (p : Pipeline) (report : Report) :
    ((p.enqueue report).queues.map List.length).sum ≤ (p.queues.map List.length).sum + 1 := by
  simp only [Pipeline.enqueue]
  generalize shardFor report.vehicle p.workerCount = shard
  cases hq : p.queues[shard]? with
  | none =>
      rw [List.modify_eq_self (by simpa using hq)]
      omega
  | some queue =>
      have hs := sum_map_set hq (queue ++ [report]) List.length
      rw [List.length_append, List.length_singleton] at hs
      have he : p.queues.modify shard (· ++ [report]) = p.queues.set shard (queue ++ [report]) := by
        rw [List.modify_eq_set_getElem?, hq]
        rfl
      rw [he]
      omega

theorem left_take {report : Report} {more : List Report} (hg : s.hands[shard]? = some .free)
    (hq : s.pipeline.queues[shard]? = some (report :: more)) : (s.take shard report more).left + 1 ≤ s.left := by
  have hs := sum_map_set hq more List.length
  have hh (hand : Hand) := sum_map_set hg hand Hand.left
  rw [take]
  dsimp only
  split
  · next result next _ =>
    have ha := hh (.answered report result)
    simp only [left, List.length_cons, Hand.left] at *
    omega
  · next zones catalog _ =>
    have hc := hh (.creating report zones catalog)
    simp only [left, List.length_cons, Hand.left] at *
    omega

theorem left_move {move : Move} (hm : s.move? move = some s') : s'.left + 1 ≤ s.left := by
  cases move with
  | enqueue =>
      simp only [move?] at hm
      split at hm
      · cases hm
      · next report more hi =>
        cases hm
        have hs := sum_enqueue_le s.pipeline report
        simp only [left, hi, List.length_cons]
        omega
  | work shard =>
      simp only [move?, work?] at hm
      split at hm
      · cases hm
      · next hg =>
        split at hm
        · next report more hq =>
          cases hm
          exact left_take hg hq
        · cases hm
      · next report zones catalog hg =>
        cases hm
        have hs := sum_map_set hg
          (.answered report (s.pipeline.service.finishRecord zones catalog report).1) Hand.left
        simp only [left, create, Hand.left] at *
        omega
      · next report result hg =>
        cases hm
        have hs := sum_map_set hg .free Hand.left
        simp only [left, count, Hand.left] at *
        omega

theorem length_add_left_le {moves : List Move} (hr : s.run? moves = some s') :
    moves.length + s'.left ≤ s.left := by
  induction moves generalizing s with
  | nil =>
      cases hr
      simp
  | cons move moves ih =>
      obtain ⟨next, hm, hr⟩ := run?_cons hr
      have hl := left_move hm
      have hi := ih hr
      rw [List.length_cons]
      omega

theorem left_start (service : Service) (workers : Nat) (reports : List Report) :
    (start service workers reports).left = 4 * reports.length := by
  simp [left, start, Pipeline.spawn, Hand.left]

/-- As long as something is left to do, somebody can do it. -/
theorem Keeps.exists_move (h : s.Keeps origin reports done) (hf : ¬s.Finished) :
    ∃ move, (s.move? move).isSome = true := by
  cases hi : s.incoming with
  | cons report more => exact ⟨.enqueue, by simp [move?, hi]⟩
  | nil =>
      by_cases hh : ∀ hand ∈ s.hands, hand = .free
      · obtain ⟨queue, hm, hq⟩ : ∃ queue ∈ s.pipeline.queues, queue ≠ [] := by
          by_contra hn
          push Not at hn
          exact hf ⟨hi, hn, hh⟩
        obtain ⟨shard, hs, rfl⟩ := List.getElem_of_mem hm
        have hs' : shard < s.hands.length := by rwa [h.hands_length]
        refine ⟨.work shard, ?_⟩
        simp only [move?, work?, List.getElem?_eq_getElem hs', hh _ (List.getElem_mem hs'),
          List.getElem?_eq_getElem hs]
        cases hq' : s.pipeline.queues[shard] with
        | nil => exact absurd hq' hq
        | cons report more => rfl
      · push Not at hh
        obtain ⟨hand, hm, hne⟩ := hh
        obtain ⟨shard, hs, rfl⟩ := List.getElem_of_mem hm
        refine ⟨.work shard, ?_⟩
        simp only [move?, work?, List.getElem?_eq_getElem hs]
        cases hg : s.hands[shard] with
        | free => exact absurd hg hne
        | creating | answered => rfl

/-! ### Worker after worker -/

theorem run?_append {moves : List Move} (hr : s.run? moves = some s') (moves' : List Move) :
    s.run? (moves ++ moves') = s'.run? moves' := by
  rw [run?, List.foldlM_append, ← run?, hr]
  rfl

/-- A pipeline whose workers have nothing in hand, and nothing comes in. -/
def idle (p : Pipeline) : Shift :=
  ⟨p, [], List.replicate p.workerCount .free⟩

theorem move?_answered {report : Report} {result : Except ServiceFault Outcome}
    (hg : s.hands[shard]? = some (.answered report result)) :
    s.move? (.work shard) = some (s.count shard report result) := by
  simp only [move?, work?, hg]

/-- A pipeline in which one report of a queue has been recorded and only its answer is not counted. -/
def answering (p : Pipeline) (shard : Nat) (report : Report) (more : List Report) : Shift :=
  { idle p with
    pipeline := { p with
      service := (p.service.record report).2
      queues := p.queues.set shard more
      notes := p.notes ++ p.service.recordNotes report }
    hands := (idle p).hands.set shard (.answered report (p.service.record report).1) }

theorem count_answering {p : Pipeline} {report : Report} {more : List Report}
    (hq : p.queues[shard]? = some (report :: more)) :
    (answering p shard report more).count shard report (p.service.record report).1 = idle (p.step shard) := by
  have hw : ({ p with queues := p.queues.set shard more }.handle shard report).workerCount = p.workerCount :=
    List.length_set ..
  simp only [Pipeline.step, hq, idle, hw]
  simp only [count, answering, idle, List.set_set, List.set_replicate_self]
  rfl

theorem run?_take {p : Pipeline} {report : Report} {more : List Report}
    (hq : p.queues[shard]? = some (report :: more)) :
    ∃ moves, (idle p).run? moves = some (answering p shard report more) := by
  have hs : shard < p.workerCount := (List.getElem?_eq_some_iff.1 hq).1
  have hg : (idle p).hands[shard]? = some .free := by simp [idle, hs]
  have ht : (idle p).move? (.work shard) = some ((idle p).take shard report more) := by
    simp only [move?, work?, hg]
    rw [show (idle p).pipeline.queues[shard]? = some (report :: more) from hq]
  cases hb : p.service.beginRecord report with
  | finished result next =>
      refine ⟨[.work shard], ?_⟩
      have he : p.service.record report = (result, next) := by rw [Service.record, hb]
      simp only [run?, List.foldlM_cons, List.foldlM_nil, ht, Option.bind_eq_bind, Option.bind_some, take,
        answering, he, show (idle p).pipeline = p from rfl, hb]
      rfl
  | create zones catalog =>
      refine ⟨[.work shard, .work shard], ?_⟩
      have he : p.service.record report = p.service.finishRecord zones catalog report := by
        rw [Service.record, hb]
      have hc : (idle p).take shard report more = { idle p with
          pipeline := { p with
            queues := p.queues.set shard more
            notes := p.notes ++ p.service.recordNotes report }
          hands := (idle p).hands.set shard (.creating report zones catalog) } := by
        simp only [take, show (idle p).pipeline = p from rfl, hb]
      have hm : ((idle p).take shard report more).move? (.work shard) = some (answering p shard report more) := by
        rw [hc]
        simp [move?, work?, create, answering, idle, hs, he]
      simp only [run?, List.foldlM_cons, List.foldlM_nil, ht, hm, Option.bind_eq_bind, Option.bind_some]
      rfl

/-- A step of a pipeline is what one worker does from taking a report to counting the answer. -/
theorem exists_run?_step (p : Pipeline) (shard : Nat) :
    ∃ moves, (idle p).run? moves = some (idle (p.step shard)) := by
  cases hq : p.queues[shard]? with
  | none => exact ⟨[], by simp only [Pipeline.step, hq]; rfl⟩
  | some queue =>
      cases queue with
      | nil => exact ⟨[], by simp only [Pipeline.step, hq]; rfl⟩
      | cons report more =>
          obtain ⟨moves, hm⟩ := run?_take hq
          have hs : shard < p.workerCount := (List.getElem?_eq_some_iff.1 hq).1
          have hg : (answering p shard report more).hands[shard]? =
              some (.answered report (p.service.record report).1) := by
            simp [answering, idle, hs]
          refine ⟨moves ++ [.work shard], ?_⟩
          rw [run?_append hm, run?, List.foldlM_cons, move?_answered hg, count_answering hq]
          rfl

theorem exists_run?_run (p : Pipeline) (schedule : List Nat) :
    ∃ moves, (idle p).run? moves = some (idle (p.run schedule)) := by
  induction schedule generalizing p with
  | nil => exact ⟨[], rfl⟩
  | cons shard schedule ih =>
      obtain ⟨moves, hm⟩ := exists_run?_step p shard
      obtain ⟨moves', hm'⟩ := ih (p.step shard)
      exact ⟨moves ++ moves', by rw [run?_append hm, hm']; rfl⟩

/-- All reports are enqueued before a worker moves. -/
theorem run?_enqueue (p : Pipeline) (reports : List Report) (hands : List Hand) :
    run? ⟨p, reports, hands⟩ (List.replicate reports.length .enqueue) =
      some ⟨reports.foldl Pipeline.enqueue p, [], hands⟩ := by
  induction reports generalizing p with
  | nil => rfl
  | cons report reports ih => exact ih (p.enqueue report)

end Shift

namespace Pipeline

theorem workerCount_foldl_enqueue (p : Pipeline) (reports : List Report) :
    (reports.foldl enqueue p).workerCount = p.workerCount := by
  induction reports generalizing p with
  | nil => rfl
  | cons report reports ih => rw [List.foldl_cons, ih, enqueue, workerCount, List.length_modify]; rfl

theorem queues_step (p : Pipeline) (shard i : Nat) :
    (p.step shard).queues[i]? = p.queues[i]?.map (·.drop (if i = shard then 1 else 0)) := by
  rw [step]
  by_cases he : i = shard
  · subst he
    rw [if_pos rfl]
    cases hq : p.queues[i]? with
    | none => simp [hq]
    | some queue =>
        cases queue with
        | nil => simp [hq]
        | cons report more =>
            have hi := (List.getElem?_eq_some_iff.1 hq).1
            simp [handle, hi]
  · rw [if_neg he]
    split
    · simp [handle, List.getElem?_set_ne (Ne.symm he)]
    · simp

theorem queues_run (p : Pipeline) (schedule : List Nat) (i : Nat) :
    (p.run schedule).queues[i]? = p.queues[i]?.map (·.drop (schedule.count i)) := by
  induction schedule generalizing p with
  | nil => simp [run]
  | cons shard schedule ih =>
      rw [show p.run (shard :: schedule) = (p.step shard).run schedule from rfl, ih, queues_step, Option.map_map]
      congr 1
      funext queue
      rw [Function.comp_apply, List.drop_drop, List.count_cons]
      congr 1
      by_cases he : i = shard <;> simp [he, Ne.symm, Nat.add_comm]

theorem count_drainSchedule (p : Pipeline) {i : Nat} {queue : List Report} (hq : p.queues[i]? = some queue) :
    queue.length ≤ p.drainSchedule.count i := by
  have hm : (queue, i) ∈ p.queues.zipIdx := by
    rw [List.mem_zipIdx_iff_getElem?]
    exact hq
  rw [drainSchedule, List.count_flatMap]
  refine Nat.le_trans ?_ (List.le_sum_of_mem (List.mem_map_of_mem hm))
  simp

theorem shutdown_queues (p : Pipeline) : ∀ queue ∈ p.shutdown.queues, queue = [] := by
  intro queue hm
  obtain ⟨i, hi⟩ := List.getElem?_of_mem hm
  have hr : p.shutdown.queues[i]? = _ := p.queues_run p.drainSchedule i
  rw [hi] at hr
  obtain ⟨before, hq, rfl⟩ := Option.map_eq_some_iff.1 hr.symm
  exact List.drop_eq_nil_iff.2 (p.count_drainSchedule hq)

end Pipeline

namespace Stats

def total (s : Stats) : Nat :=
  s.applied + s.dropped + s.failed

theorem total_count (s : Stats) (result : Except ServiceFault Outcome) : (s.count result).total = s.total + 1 := by
  cases result with
  | error fault =>
      simp only [count, total]
      omega
  | ok outcome =>
      simp only [count]
      split <;> simp only [total] <;> omega

theorem total_tally (done : Service × Stats) (reports : List Report) :
    (reports.foldl Service.tally done).2.total = done.2.total + reports.length := by
  induction reports generalizing done with
  | nil => rfl
  | cons report reports ih =>
      rw [List.foldl_cons, ih, Service.tally, total_count, List.length_cons]
      omega

end Stats

/-- Feeding reports through queues is recording them one by one. However the workers' moves and the enqueueing take
turns, nobody is stuck before all is done, all is done after a bounded number of moves, and then the vehicles and
the counts are those of recording the reports in the order they came in. Draining queue after queue is one such
order of moves. -/
theorem Service.ingest_eq_tally (s : Service) (workers : Nat) (reports : List Report) :
    let sequential := reports.foldl tally (s, ⟨0, 0, 0⟩)
    (∀ moves shift, (Shift.start s workers reports).run? moves = some shift →
      moves.length ≤ 4 * reports.length ∧
      (¬shift.Finished → ∃ move, (shift.move? move).isSome = true) ∧
      (shift.Finished → shift.pipeline.service = sequential.1 ∧ shift.pipeline.stats = sequential.2)) ∧
    (∃ moves shift, (Shift.start s workers reports).run? moves = some shift ∧ shift.Finished ∧
      shift.pipeline = s.ingest workers reports) ∧
    (s.ingest workers reports).service = sequential.1 ∧ (s.ingest workers reports).stats = sequential.2 ∧
    sequential.2.applied + sequential.2.dropped + sequential.2.failed = reports.length := by
  intro sequential
  have hall (moves : List Move) (shift : Shift) (hr : (Shift.start s workers reports).run? moves = some shift) :
      moves.length ≤ 4 * reports.length ∧
      (¬shift.Finished → ∃ move, (shift.move? move).isSome = true) ∧
      (shift.Finished → shift.pipeline.service = sequential.1 ∧ shift.pipeline.stats = sequential.2) := by
    obtain ⟨done, hk⟩ := (Shift.keeps_start s workers reports).run hr
    refine ⟨?_, hk.exists_move, fun hf => ?_⟩
    · have hl := Shift.length_add_left_le hr
      rw [Shift.left_start] at hl
      omega
    · exact Prod.mk.inj (hk.finished hf)
  have hone : ∃ moves shift, (Shift.start s workers reports).run? moves = some shift ∧ shift.Finished ∧
      shift.pipeline = s.ingest workers reports := by
    have he := Shift.run?_enqueue (.spawn s workers) reports (List.replicate (max workers 1) .free)
    obtain ⟨moves, hm⟩ := Shift.exists_run?_run (reports.foldl Pipeline.enqueue (.spawn s workers))
      (reports.foldl Pipeline.enqueue (.spawn s workers)).drainSchedule
    have hi : (⟨reports.foldl Pipeline.enqueue (.spawn s workers), [], List.replicate (max workers 1) .free⟩ : Shift) =
        Shift.idle (reports.foldl Pipeline.enqueue (.spawn s workers)) := by
      rw [Shift.idle, Pipeline.workerCount_foldl_enqueue]
      simp [Pipeline.spawn, Pipeline.workerCount]
    rw [hi] at he
    refine ⟨_, _, (Shift.run?_append he moves).trans hm, ⟨rfl, ?_, ?_⟩, rfl⟩
    · exact Pipeline.shutdown_queues _
    · intro hand hh
      exact List.eq_of_mem_replicate hh
  obtain ⟨moves, shift, hr, hf, hp⟩ := hone
  have he := (hall moves shift hr).2.2 hf
  rw [hp] at he
  refine ⟨hall, ⟨moves, shift, hr, hf, hp⟩, he.1, he.2, ?_⟩
  have ht := Stats.total_tally (s, ⟨0, 0, 0⟩) reports
  simpa [Stats.total] using ht

end VehicleDamage
