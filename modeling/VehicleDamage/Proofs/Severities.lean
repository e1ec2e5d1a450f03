import VehicleDamage.Proofs.Number.Order
import VehicleDamage.Proofs.Resolution
import Mathlib.Logic.Function.Iterate

/-!
The severities of one vehicle: what an update of several zones does to each of them, and what every state keeps.
-/

namespace VehicleDamage.State

/-- Entries for zones of a catalog, each a number from zero to one. -/
def Held (c : Catalog) (severities : SortedMap Binary32) : Prop :=
  ∀ e ∈ severities.entries, e.1 ∈ c.ids ∧ e.2.InUnit

/-- A state bound to a catalog, with severities of its zones alone. -/
structure Sound (c : Catalog) (s : State) : Prop where
  catalog_eq : s.catalog = c
  held : Held c s.severities

variable {c : Catalog} {severities : SortedMap Binary32}

theorem held_empty (c : Catalog) : Held c .empty := by
  intro e he
  cases he

/-- What a catalog keeps of severities held under another one. -/
theorem Held.rebind {d : Catalog} (h : Held d severities) : Held c (severities.filterKeys c.contains) := by
  intro e he
  obtain ⟨hm, hk⟩ := List.mem_filter.1 he
  exact ⟨Catalog.contains_iff.1 hk, (h e hm).2⟩

theorem Held.inUnit_recorded (h : Held c severities) (zone : String) : (recorded severities zone).InUnit := by
  rw [recorded]
  cases hg : severities.get? zone with
  | none => exact Binary32.inUnit_zero
  | some severity => exact (h _ (SortedMap.mem_of_get? hg)).2

/-- What holds of all entries, and of each new severity of a listed zone, holds of all entries after an update. -/
theorem forall_updateAll {P : String → Binary32 → Prop} {value : Binary32} {mode : ApplyMode} {zones : List String}
    (hz : ∀ zone ∈ zones, ∀ current, current = .zero ∨ P zone current → P zone (mode.update current value))
    (h : ∀ e ∈ severities.entries, P e.1 e.2) :
    ∀ e ∈ (updateAll value mode severities zones).2.entries, P e.1 e.2 := by
  induction zones generalizing severities with
  | nil => exact h
  | cons zone zones ih =>
      obtain ⟨hzone, hzones⟩ := List.forall_mem_cons.1 hz
      have hcurrent : recorded severities zone = .zero ∨ P zone (recorded severities zone) := by
        rw [recorded]
        cases hg : severities.get? zone with
        | none => exact .inl rfl
        | some severity => exact .inr (h _ (SortedMap.mem_of_get? hg))
      refine ih hzones fun e he => ?_
      rcases SortedMap.mem_place he with rfl | he
      · exact hzone _ hcurrent
      · exact h e he

theorem inUnit_update_of {current value : Binary32} (hv : value.isFinite = true) (mode : ApplyMode)
    (h : current = .zero ∨ current.InUnit) : (mode.update current value).InUnit := by
  rcases h with rfl | h
  · exact mode.inUnit_update rfl hv
  · exact mode.inUnit_update h.isNaN_eq hv

theorem Held.updateAll {value : Binary32} (hv : value.isFinite = true) (mode : ApplyMode) {zones : List String}
    (hz : ∀ zone ∈ zones, zone ∈ c.ids) (h : Held c severities) :
    Held c (updateAll value mode severities zones).2 :=
  forall_updateAll (P := fun zone severity => zone ∈ c.ids ∧ severity.InUnit)
    (fun zone hm _ hc => ⟨hz zone hm, inUnit_update_of hv mode (hc.imp_right And.right)⟩) h

theorem recorded_insert (severities : SortedMap Binary32) (zone zone' : String) (severity : Binary32) :
    recorded (severities.insert zone severity) zone' =
      if zone' = zone then severity else recorded severities zone' := by
  rw [recorded, SortedMap.get?_insert]
  split <;> rfl

/-- A zone is updated as often as it is listed. -/
theorem recorded_updateAll (value : Binary32) (mode : ApplyMode) (severities : SortedMap Binary32)
    (zones : List String) (zone : String) :
    recorded (updateAll value mode severities zones).2 zone =
      (fun current => mode.update current value)^[zones.count zone] (recorded severities zone) := by
  induction zones generalizing severities with
  | nil => rfl
  | cons z zones ih =>
      simp only [updateAll]
      rw [ih, recorded_insert]
      by_cases hz : zone = z
      · subst hz
        rw [if_pos rfl, List.count_cons_self, Function.iterate_succ_apply]
      · rw [if_neg hz, List.count_cons_of_ne (Ne.symm hz)]

theorem get?_updateAll_of_not_mem (value : Binary32) (mode : ApplyMode) (severities : SortedMap Binary32)
    {zones : List String} {zone : String} (h : zone ∉ zones) :
    (updateAll value mode severities zones).2.get? zone = severities.get? zone := by
  induction zones generalizing severities with
  | nil => rfl
  | cons z zones ih =>
      obtain ⟨hz, hm⟩ : zone ≠ z ∧ zone ∉ zones := by simpa using h
      simp only [updateAll]
      rw [ih _ hm, SortedMap.get?_insert, if_neg hz]

/-- The state after a value has reached the listed zones. -/
def updated (s : State) (zones : List String) (value : Binary32) (mode : ApplyMode) : State :=
  { s with severities := (updateAll value mode s.severities zones).2, revision := s.revision + 1 }

/-- All that applying a value can come to. -/
theorem applyAll_cases (s : State) (zones : List String) (value : Binary32) (mode : ApplyMode) :
    (value.isFinite = false ∧ s.applyAll zones value mode = .error (.nonFiniteSeverity value)) ∨
    (∃ zone ∈ zones, zone ∉ s.catalog.ids ∧ s.applyAll zones value mode = .error (.unknownZone zone)) ∨
    (value.isFinite = true ∧ (∀ zone ∈ zones, zone ∈ s.catalog.ids) ∧
      ∃ severities, s.applyAll zones value mode = .ok (severities, s.updated zones value mode)) := by
  rw [applyAll]
  cases hv : value.isFinite with
  | false => exact .inl ⟨rfl, rfl⟩
  | true =>
      right
      simp only [Bool.not_true, Bool.false_eq_true, if_false]
      cases hf : zones.find? fun zone => !s.catalog.contains zone with
      | some zone =>
          have hn := List.find?_some hf
          simp only [Bool.not_eq_true'] at hn
          exact .inl ⟨zone, List.mem_of_find?_eq_some hf, by simp [← Catalog.contains_iff, hn], rfl⟩
      | none =>
          refine .inr ⟨trivial, fun zone hm => ?_, _, rfl⟩
          have hk := List.find?_eq_none.1 hf zone hm
          exact Catalog.contains_iff.1 (by simpa using hk)

theorem sound_new (c : Catalog) : (new c).Sound c :=
  ⟨rfl, held_empty c⟩

theorem Sound.inUnit_severity {s : State} (h : s.Sound c) (id : String) : (s.snapshot.severity id).InUnit :=
  h.held.inUnit_recorded id

theorem Sound.updated {s : State} (h : s.Sound c) {zones : List String} {value : Binary32} (mode : ApplyMode)
    (hv : value.isFinite = true) (hz : ∀ zone ∈ zones, zone ∈ c.ids) : (s.updated zones value mode).Sound c :=
  ⟨h.catalog_eq, h.held.updateAll hv mode hz⟩

theorem Sound.reset {s : State} (h : s.Sound c) : s.reset.Sound c :=
  ⟨h.catalog_eq, held_empty c⟩

theorem Sound.rebind {s : State} (h : s.Sound c) (d : Catalog) : (s.rebind d).Sound d :=
  ⟨rfl, h.held.rebind⟩

end VehicleDamage.State
