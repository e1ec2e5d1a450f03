import VehicleDamage.Proofs.Ingest.Order
import VehicleDamage.Proofs.Number.Same
import VehicleDamage.Proofs.Service.Reload

/-!
Vehicles with equal severities. Nothing tells a zone without an entry from one at zero of either sign, so two vehicles
whose severities are equal as numbers go on alike under like steps. They are told apart by their revisions alone.
-/

namespace VehicleDamage

namespace State

variable {c : Catalog} {a b : State}

theorem Held.recorded_of_notMem {severities : SortedMap Binary32} (h : Held c severities) {zone : String}
    (hz : zone ∉ c.ids) : recorded severities zone = .zero := by
  rw [recorded]
  cases hg : severities.get? zone with
  | none => rfl
  | some severity => exact absurd (h _ (SortedMap.mem_of_get? hg)).1 hz

/-- Equal severities in every zone. -/
def Twin (a b : State) : Prop :=
  ∀ zone, (recorded a.severities zone).Same (recorded b.severities zone)

theorem Twin.updated (h : a.Twin b) (zones : List String) {value : Binary32} (hv : value.isFinite = true)
    (mode : ApplyMode) : (a.updated zones value mode).Twin (b.updated zones value mode) := by
  intro zone
  simp only [State.updated, recorded_updateAll]
  induction zones.count zone with
  | zero => exact h zone
  | succ n ih =>
      rw [Function.iterate_succ_apply', Function.iterate_succ_apply']
      exact mode.same_update ih hv

theorem twin_reset (a b : State) : a.reset.Twin b.reset :=
  fun _ => Binary32.same_refl rfl

theorem Twin.rebind (h : a.Twin b) (c : Catalog) : (a.rebind c).Twin (b.rebind c) := by
  intro zone
  rw [recorded, recorded, get?_rebind, get?_rebind]
  split
  · exact h zone
  · exact Binary32.same_refl rfl

/-- Twins look alike. -/
theorem Twin.render (h : a.Twin b) (palette : Palette) (c : Catalog) :
    (Overlay.render palette c a.snapshot).document = (Overlay.render palette c b.snapshot).document ∧
      (Overlay.render palette c a.snapshot).zones.map (fun z => (z.zone, z.fill, z.opacity)) =
        (Overlay.render palette c b.snapshot).zones.map fun z => (z.zone, z.fill, z.opacity) := by
  have hs : Overlay.shown palette a.snapshot = Overlay.shown palette b.snapshot := by
    funext zone
    exact zone.defaultStyle.shown_eq_of_same palette (h zone.id)
  refine ⟨?_, ?_⟩
  · simp only [Overlay.render, Overlay.document?, Overlay.edits, hs]
  · simp only [Overlay.render, Overlay.summary, List.map_map, Function.comp_def, hs]

end State

/-- A step that is done to two vehicles alike. -/
inductive Common where
  | record (source : ZoneSource) (value : Binary32) (mode : ApplyMode)
  | reset
  | reload (catalog : Catalog)

def Common.operation (vehicle : String) : Common → Operation
  | record source value mode => .record ⟨vehicle, source, value, mode⟩
  | reset => .reset vehicle
  | reload catalog => .reload catalog

/-- Answers that differ in the vehicle they name, and by `d` in the revision, but in nothing else. -/
inductive Answer.Alike (v w : String) (d : Int) : Answer → Answer → Prop
  | recorded {m n : Nat} (zones : List String) (apart : (m : Int) - n = d) :
      Alike v w d (.recorded (.ok ⟨m, zones⟩)) (.recorded (.ok ⟨n, zones⟩))
  | unresolved (source : ZoneSource) :
      Alike v w d (.recorded (.error (.unresolved v source))) (.recorded (.error (.unresolved w source)))
  | refused (fault : StateFault) :
      Alike v w d (.recorded (.error (.state fault))) (.recorded (.error (.state fault)))
  | reset {m n : Nat} (apart : (m : Int) - n = d) : Alike v w d (.reset (.ok m)) (.reset (.ok n))
  | reloaded (report : ReloadReport) : Alike v w d (.reloaded report) (.reloaded report)

namespace Service

variable {s : Service} {v w : String} {d : Int} {a b : State}

/-- Do a step to one vehicle and then to another; a reload is one step for both. The answers that the two get, and
the service after. -/
def both (s : Service) (v w : String) (step : Common) : (Answer × Answer) × Service :=
  let first := s.perform (step.operation v)
  match step with
  | .reload _ => ((first.1, first.1), first.2)
  | _ =>
    let second := first.2.perform (step.operation w)
    ((first.1, second.1), second.2)

def runBoth (s : Service) (v w : String) (steps : List Common) : Service :=
  steps.foldl (fun s step => (s.both v w step).2) s

/-- Two tracked vehicles whose severities are equal as numbers in every zone of the catalog. -/
structure Matched (s : Service) (v w : String) : Prop where
  ne : v ≠ w
  tracked : s.isTracked v = true ∧ s.isTracked w = true
  same : ∀ zone ∈ s.catalog.ids, ∃ x y, s.severity v zone = .ok x ∧ s.severity w zone = .ok y ∧ x.Same y

/-- What cannot tell two vehicles apart: their severities, their overlays but for the revision, and the answers to a
step that is done to both. -/
structure Indistinct (s : Service) (v w : String) (d : Int) : Prop where
  matched : s.Matched v w
  unknown : ∀ zone, zone ∉ s.catalog.ids → s.severity v zone = s.severity w zone
  overlays : ∃ first second, s.overlay v = .ok first ∧ s.overlay w = .ok second ∧
    first.document = second.document ∧
    first.zones.map (fun z => (z.zone, z.fill, z.opacity)) =
      second.zones.map (fun z => (z.zone, z.fill, z.opacity)) ∧
    (first.revision : Int) - second.revision = d
  answers : ∀ step, Answer.Alike v w d (s.both v w step).1.1 (s.both v w step).1.2

/-- Two vehicles in a sound service that are twins, the revisions `d` apart. -/
structure Twins (s : Service) (v w : String) (d : Int) : Prop where
  sound : s.Sound
  ne : v ≠ w
  states : ∃ a b, s.vehicles.get? v = some a ∧ s.vehicles.get? w = some b ∧ a.Twin b ∧
    (a.revision : Int) - b.revision = d

theorem severity_of_get? (h : s.Sound) (hg : s.vehicles.get? v = some a) (zone : String) :
    s.severity v zone = if zone ∈ s.catalog.ids then .ok (State.recorded a.severities zone)
      else .error (.state (.unknownZone zone)) := by
  rw [severity, state, hg]
  simp only [State.get, (h.state hg).catalog_eq, Catalog.contains_eq, decide_eq_true_iff]
  split
  · next hz => split at hz <;> simp_all
  · next hz => split at hz <;> simp_all

theorem Matched.twins (hm : s.Matched v w) (h : s.Sound) : ∃ d, s.Twins v w d := by
  obtain ⟨a, ha⟩ := Option.isSome_iff_exists.1 hm.tracked.1
  obtain ⟨b, hb⟩ := Option.isSome_iff_exists.1 hm.tracked.2
  refine ⟨_, h, hm.ne, a, b, ha, hb, fun zone => ?_, rfl⟩
  by_cases hz : zone ∈ s.catalog.ids
  · obtain ⟨x, y, hx, hy, hs⟩ := hm.same zone hz
    rw [severity_of_get? h ha, if_pos hz] at hx
    rw [severity_of_get? h hb, if_pos hz] at hy
    cases hx
    cases hy
    exact hs
  · rw [(h.state ha).held.recorded_of_notMem hz, (h.state hb).held.recorded_of_notMem hz]
    exact Binary32.same_refl rfl

theorem Twins.matched (h : s.Twins v w d) : s.Matched v w := by
  obtain ⟨a, b, ha, hb, ht, -⟩ := h.states
  refine ⟨h.ne, ⟨congrArg Option.isSome ha, congrArg Option.isSome hb⟩, fun zone hz => ?_⟩
  refine ⟨_, _, ?_, ?_, ht zone⟩
  · rw [severity_of_get? h.sound ha, if_pos hz]
  · rw [severity_of_get? h.sound hb, if_pos hz]

/-- Recording a report of a vehicle that is tracked. -/
theorem Sound.record_tracked (h : s.Sound) {report : Report} (hg : s.vehicles.get? report.vehicle = some a) :
    s.record report =
      if s.resolver.resolve report.source = [] then (s.unresolved report, s)
      else if report.value.isFinite then
        (.ok ⟨a.revision + 1, s.resolver.resolve report.source⟩,
          s.withVehicle report.vehicle (a.updated (s.resolver.resolve report.source) report.value report.mode))
      else (.error (.state (.nonFiniteSeverity report.value)), s) := by
  have ha : s.admits report.vehicle = true := by
    rw [admits, isTracked_eq, hg]
    rfl
  have hs : s.stateOf report.vehicle = a := by
    rw [Service.stateOf, hg]
    rfl
  rw [record_eq, if_pos ha]
  split
  · rfl
  · rcases h.applyTracked_cases report with ⟨hv, he⟩ | ⟨hv, he⟩
    · rw [he, hv]
      rfl
    · rw [he, hv, hs]
      rfl

theorem twins_withVehicle (h : s.Sound) (hne : v ≠ w) (ha : a.Sound s.catalog) (hb : b.Sound s.catalog)
    (ht : a.Twin b) (hd : (a.revision : Int) - b.revision = d) :
    ((s.withVehicle v a).withVehicle w b).Twins v w d := by
  refine ⟨(h.withVehicle v ha).withVehicle w hb, hne, a, b, ?_, ?_, ht, hd⟩
  · rw [get?_withVehicle, if_neg hne, get?_withVehicle, if_pos rfl]
  · rw [get?_withVehicle, if_pos rfl]

/-- A report whose source names no zone is answered alike for both. -/
theorem Twins.unresolved (h : s.Twins v w d) (source : ZoneSource) (value : Binary32) (mode : ApplyMode) :
    Answer.Alike v w d (.recorded (s.unresolved ⟨v, source, value, mode⟩))
      (.recorded (s.unresolved ⟨w, source, value, mode⟩)) := by
  obtain ⟨a, b, ha, hb, -, hd⟩ := h.states
  rw [Service.unresolved, Service.unresolved]
  cases s.options.unknownTags with
  | reject => exact .unresolved source
  | drop =>
      rw [ha, hb]
      exact .recorded [] hd

theorem Twins.record (h : s.Twins v w d) (source : ZoneSource) (value : Binary32) (mode : ApplyMode) :
    Answer.Alike v w d (s.both v w (.record source value mode)).1.1 (s.both v w (.record source value mode)).1.2 ∧
      (s.both v w (.record source value mode)).2.Twins v w d := by
  obtain ⟨a, b, ha, hb, ht, hd⟩ := h.states
  let zones := s.resolver.resolve source
  let first : Report := ⟨v, source, value, mode⟩
  let second : Report := ⟨w, source, value, mode⟩
  have hfirst : s.record first = _ := h.sound.record_tracked ha
  have hsecond : s.record second = _ := h.sound.record_tracked hb
  have he : s.both v w (.record source value mode) =
      ((.recorded (s.record first).1, .recorded ((s.record first).2.record second).1),
        ((s.record first).2.record second).2) := rfl
  rw [he]
  by_cases hz : zones = []
  · rw [if_pos hz] at hfirst hsecond
    rw [hfirst, hsecond]
    exact ⟨h.unresolved source value mode, h⟩
  · rw [if_neg hz] at hfirst hsecond
    cases hv : value.isFinite with
    | false =>
        rw [if_neg (by rw [hv]; exact Bool.false_ne_true)] at hfirst hsecond
        rw [hfirst, hsecond]
        exact ⟨.refused _, h⟩
    | true =>
        rw [if_pos hv] at hfirst hsecond
        have hm : ∀ zone ∈ zones, zone ∈ s.catalog.ids := fun _ hm => Resolver.mem_ids_of_mem_resolve hm
        -- The second report meets a service in which the first vehicle has changed, which is nothing to it.
        have hr : (s.withVehicle v (a.updated zones value mode)).record second = _ :=
          record_withVehicle h.ne.symm _
        rw [hfirst]
        dsimp only
        rw [hr, hsecond]
        dsimp only
        rw [withVehicle_comm s h.ne.symm]
        refine ⟨.recorded zones ?_, twins_withVehicle h.sound h.ne ((h.sound.state ha).updated mode hv hm)
          ((h.sound.state hb).updated mode hv hm) (ht.updated zones hv mode) ?_⟩
        · omega
        · simp only [State.updated]
          omega

theorem reset_of_get? (hg : s.vehicles.get? v = some a) :
    s.reset v = (.ok a.reset.revision, s.withVehicle v a.reset) := by
  rw [Service.reset, Service.state, hg]

theorem Twins.reset (h : s.Twins v w d) :
    Answer.Alike v w d (s.both v w .reset).1.1 (s.both v w .reset).1.2 ∧ (s.both v w .reset).2.Twins v w d := by
  obtain ⟨a, b, ha, hb, -, hd⟩ := h.states
  have hfirst := reset_of_get? ha
  have hb' : (s.withVehicle v a.reset).vehicles.get? w = some b := by
    rw [get?_withVehicle, if_neg h.ne.symm, hb]
  have hsecond := reset_of_get? hb'
  have he : s.both v w .reset =
      ((.reset (s.reset v).1, .reset ((s.reset v).2.reset w).1), ((s.reset v).2.reset w).2) := rfl
  have hd' : (a.reset.revision : Int) - b.reset.revision = d := by
    simp only [State.reset]
    omega
  rw [he, hfirst]
  dsimp only
  rw [hsecond]
  exact ⟨.reset hd', twins_withVehicle h.sound h.ne (h.sound.state ha).reset (h.sound.state hb).reset
    (State.twin_reset a b) hd'⟩

theorem Twins.reload (h : s.Twins v w d) (catalog : Catalog) : (s.reload catalog).Twins v w d := by
  obtain ⟨a, b, ha, hb, ht, hd⟩ := h.states
  refine ⟨h.sound.reload catalog, h.ne, a.rebind catalog, b.rebind catalog, ?_, ?_, ht.rebind catalog, ?_⟩
  · rw [get?_reload, ha]
    rfl
  · rw [get?_reload, hb]
    rfl
  · simp only [State.rebind]
    omega

/-- Twins stay twins under a step that is done to both, and the step is answered alike. -/
theorem Twins.both (h : s.Twins v w d) (step : Common) :
    Answer.Alike v w d (s.both v w step).1.1 (s.both v w step).1.2 ∧ (s.both v w step).2.Twins v w d := by
  cases step with
  | record source value mode => exact h.record source value mode
  | reset => exact h.reset
  | reload catalog => exact ⟨.reloaded _, h.reload catalog⟩

theorem Twins.runBoth (h : s.Twins v w d) (steps : List Common) : (s.runBoth v w steps).Twins v w d := by
  induction steps generalizing s with
  | nil => exact h
  | cons step steps ih => exact ih (h.both step).2

theorem Twins.indistinct (h : s.Twins v w d) : s.Indistinct v w d := by
  obtain ⟨a, b, ha, hb, ht, hd⟩ := h.states
  obtain ⟨hdocument, hzones⟩ := ht.render s.options.palette s.catalog
  refine ⟨h.matched, fun zone hz => ?_, ⟨_, _, overlay_of_get? ha, overlay_of_get? hb, hdocument, hzones, hd⟩,
    fun step => (h.both step).1⟩
  rw [severity_of_get? h.sound ha, severity_of_get? h.sound hb, if_neg hz, if_neg hz]

/-- A vehicle that has just been reset and one that has just been registered. -/
theorem Sound.twins_reset_register (h : s.Sound) (hne : v ≠ w) (hv : s.isTracked v = true)
    (hw : s.isTracked w = false) : ∃ d, (s.run [.reset v, .register w]).Twins v w d := by
  obtain ⟨a, ha⟩ := Option.isSome_iff_exists.1 hv
  have hw' : (s.withVehicle v a.reset).isTracked w = false := by
    rw [isTracked_eq, get?_withVehicle, if_neg hne.symm]
    exact hw
  have he : s.run [.reset v, .register w] = (s.withVehicle v a.reset).withVehicle w (.new s.catalog) := by
    show ((s.reset v).2.register w).2 = _
    rw [reset_of_get? ha]
    dsimp only
    rw [Service.register, hw']
    rfl
  rw [he]
  exact ⟨_, twins_withVehicle h hne (h.state ha).reset (State.sound_new s.catalog)
    (fun _ => Binary32.same_refl rfl) rfl⟩

/-- Two vehicles whose severities are equal as numbers cannot be told apart but by their revisions, and these stay
apart by the same number, whatever steps are done to both. A vehicle just reset and one just registered are such. -/
theorem twins_indistinct (catalog : Catalog) (options : Options) (operations : List Operation) :
    let s := (new catalog options).run operations
    (∀ v w, v ≠ w → s.isTracked v = true → s.isTracked w = false →
      (s.run [.reset v, .register w]).Matched v w) ∧
    ∀ v w, s.Matched v w → ∃ d, ∀ steps, (s.runBoth v w steps).Indistinct v w d := by
  intro s
  have hs : s.Sound := (sound_new catalog options).run operations
  refine ⟨fun v w hne hv hw => ?_, fun v w hm => ?_⟩
  · obtain ⟨d, ht⟩ := hs.twins_reset_register hne hv hw
    exact ht.matched
  · obtain ⟨d, ht⟩ := hm.twins hs
    exact ⟨d, fun steps => (ht.runBoth steps).indistinct⟩

/-- One vehicle has a roof at negative zero, another has no entry for it. -/
theorem twins_indistinct_negativeZero :
    let catalog : Catalog := ⟨"", [⟨"roof", "Roof", ⟨"path", none, ⟨0, 0⟩, none, 0⟩, .ofAttributes none none⟩]⟩
    let s := (new catalog Config.standard.options).run
      [.register "V1", .record ⟨"V1", .tag "Roof", .signedZero true, .absolute⟩, .register "V2"]
    s.severity "V1" "roof" = .ok (.signedZero true) ∧ s.severity "V2" "roof" = .ok .zero ∧
      s.Matched "V1" "V2" ∧ ∃ d, ∀ steps, (s.runBoth "V1" "V2" steps).Indistinct "V1" "V2" d := by
  intro catalog s
  have h1 : s.severity "V1" "roof" = .ok (.signedZero true) := by decide +kernel
  have h2 : s.severity "V2" "roof" = .ok .zero := by decide +kernel
  have hids : s.catalog.ids = ["roof"] := by decide +kernel
  have hm : s.Matched "V1" "V2" := by
    refine ⟨by decide, by decide +kernel, fun zone hz => ?_⟩
    rw [hids, List.mem_singleton] at hz
    subst hz
    exact ⟨_, _, h1, h2, 0, rfl, rfl⟩
  exact ⟨h1, h2, hm, (twins_indistinct catalog Config.standard.options _).2 "V1" "V2" hm⟩

end Service

end VehicleDamage
