import VehicleDamage.Proofs.Overlay.Summary
import VehicleDamage.Proofs.Service.Tracking

/-!
Overlays taken while other calls are in progress. A reload holds the resolver while it binds the vehicles one after
another, and other calls may come between. What an overlay shows is still a vehicle as one of its mutations left it,
on the catalog that the vehicle was bound to then.
-/

namespace VehicleDamage

/-- How far a reload has come. It holds the registry while it binds vehicles; those still to be bound are waiting. -/
inductive Stage where
  | entered
  | binding (waiting : List String)
  | bound

/-- A reload in progress. It holds the resolver from beginning to end. -/
structure Exchange where
  catalog : Catalog
  stage : Stage

/-- A service in use: calls that are between their sections, and perhaps a reload in progress. -/
structure Live where
  busy : Busy
  exchange : Option Exchange

/-- What is seen of a step. -/
inductive Happening where
  | called (answered : Option (Operation × Answer))
  | bound (vehicle : String)
  | quiet

/-- A step as it was done. -/
structure Instant where
  happening : Happening
  after : Live

namespace Live

def idle (service : Service) : Live :=
  ⟨⟨service, []⟩, none⟩

def state? (l : Live) (vehicle : String) : Option State :=
  l.busy.state? vehicle

/-- The steps that the locks leave room for. With no reload in progress any section of another call can be done. A
reload is not one section here: it enters, binds the vehicles in any order, and puts the new resolver in place at the
end. In the meantime there is room for resets, and for evictions unless the reload holds the registry. -/
inductive Step : Live → Happening → Live → Prop
  | part {b next : Busy} {sec : Section} {answered : Option (Operation × Answer)}
      (apart : ∀ catalog, sec ≠ .call (.reload catalog)) (done : b.next? sec = some (answered, next)) :
      Step ⟨b, none⟩ (.called answered) ⟨next, none⟩
  | enter (service : Service) (catalog : Catalog) :
      Step ⟨⟨service, []⟩, none⟩ .quiet ⟨⟨service, []⟩, some ⟨catalog, .entered⟩⟩
  | list (b : Busy) (catalog : Catalog) :
      Step ⟨b, some ⟨catalog, .entered⟩⟩ .quiet ⟨b, some ⟨catalog, .binding b.service.tracked⟩⟩
  | bind {b : Busy} {catalog : Catalog} {waiting : List String} {vehicle : String} {state : State}
      (left : vehicle ∈ waiting) (found : b.state? vehicle = some state) :
      Step ⟨b, some ⟨catalog, .binding waiting⟩⟩ (.bound vehicle)
        ⟨{ b with service := b.service.withVehicle vehicle (state.rebind catalog) },
          some ⟨catalog, .binding (waiting.filter (· ≠ vehicle))⟩⟩
  | leave (b : Busy) (catalog : Catalog) :
      Step ⟨b, some ⟨catalog, .binding []⟩⟩ .quiet ⟨b, some ⟨catalog, .bound⟩⟩
  | swap (b : Busy) (catalog : Catalog) :
      Step ⟨b, some ⟨catalog, .bound⟩⟩ .quiet
        ⟨{ b with service := { b.service with
            resolver := .ofCatalog catalog b.service.options.aliases b.service.options.impact } }, none⟩
  | reset (b : Busy) (exchange : Exchange) (vehicle : String) :
      Step ⟨b, some exchange⟩ (.called (b.whole (.reset vehicle)).1)
        ⟨(b.whole (.reset vehicle)).2, some exchange⟩
  | evict (b : Busy) {exchange : Exchange} (vehicle : String) (free : ∀ waiting, exchange.stage ≠ .binding waiting) :
      Step ⟨b, some exchange⟩ (.called (b.whole (.evict vehicle)).1)
        ⟨(b.whole (.evict vehicle)).2, some exchange⟩

/-- Steps done one after another. -/
inductive Runs (start : Live) : List Instant → Live → Prop
  | nil : Runs start [] start
  | snoc {instants : List Instant} {l next : Live} {happening : Happening} (rest : Runs start instants l)
      (done : Step l happening next) : Runs start (instants ++ [⟨happening, next⟩]) next

/-- The catalog that a vehicle is bound to. -/
def catalogOf (l : Live) (vehicle : String) : Catalog :=
  match l.exchange with
  | none => l.busy.service.catalog
  | some ⟨_, .entered⟩ => l.busy.service.catalog
  | some ⟨catalog, .binding waiting⟩ => if vehicle ∈ waiting then l.busy.service.catalog else catalog
  | some ⟨catalog, .bound⟩ => catalog

/-- Steps done while the resolver is held for reading: no reload is in progress, and none begins. -/
structure Held (start : Live) (instants : List Instant) (last : Live) : Prop where
  free : start.exchange = none
  runs : Runs start instants last
  apart : ∀ i ∈ instants, i.after.exchange = none

/-- A call for an overlay. It takes the resolver, some steps later it copies the state of the vehicle, and some steps
after that it reads the catalog and lets go of the resolver. The overlay is rendered from these two alone. -/
inductive Look (vehicle : String) (begun : Live) :
    List Instant → Live → List Instant → Live → Except ServiceFault Overlay → Prop
  | refused {before : List Instant} {seen : Live} {fault : ServiceFault} (reached : Held begun before seen)
      (absent : seen.busy.service.snapshot vehicle = .error fault) :
      Look vehicle begun before seen [] seen (.error fault)
  | shown {before after : List Instant} {seen done : Live} {snapshot : Snapshot}
      (reached : Held begun before seen) (copied : seen.busy.service.snapshot vehicle = .ok snapshot)
      (kept : Held seen after done) :
      Look vehicle begun before seen after done
        (.ok (.render done.busy.service.options.palette done.busy.service.catalog snapshot))

/-- Every vehicle is bound to its catalog. The recordings between their sections know the catalog in use, and there
are none while a reload is in progress. -/
structure Sound (l : Live) : Prop where
  resolver_eq : l.busy.service.resolver =
    .ofCatalog l.busy.service.catalog l.busy.service.options.aliases l.busy.service.options.impact
  states : ∀ vehicle state, l.state? vehicle = some state → state.Sound (l.catalogOf vehicle)
  proper : l.busy.Proper
  known : ∀ p ∈ l.busy.pending, p.catalog = l.busy.service.catalog
  alone : l.exchange.isSome = true → l.busy.pending = []

end Live

namespace Instant

def state? (vehicle : String) (i : Instant) : Option State :=
  i.after.state? vehicle

/-- Whether a step is a mutation of the vehicle: a call that is one, or a reload binding the vehicle. -/
def mutates (vehicle : String) (i : Instant) : Bool :=
  match i.happening with
  | .called answered => answerMutates vehicle answered
  | .bound other => other == vehicle
  | _ => false

end Instant

variable {b next : Busy} {l m : Live} {happening : Happening} {vehicle : String}

namespace Service

theorem sound_of_get? {s : Service} (hr : s.resolver = .ofCatalog s.catalog s.options.aliases s.options.impact)
    (hs : ∀ vehicle state, s.vehicles.get? vehicle = some state → state.Sound s.catalog) : s.Sound :=
  ⟨hr, fun e he => hs e.1 e.2 (SortedMap.get?_of_mem he)⟩

end Service

theorem Busy.resolver_next {sec : Section} {answered : Option (Operation × Answer)}
    (apart : ∀ catalog, sec ≠ .call (.reload catalog)) (h : b.next? sec = some (answered, next)) :
    next.service.resolver = b.service.resolver := by
  cases did_next h with
  | whole operation => exact b.service.resolver_perform fun catalog hc => apart catalog (hc ▸ rfl)
  | began => rfl
  | finished => exact b.service.resolver_applyTracked _ _ _

theorem Busy.sound_next {sec : Section} {answered : Option (Operation × Answer)} (hs : b.service.Sound)
    (hk : ∀ p ∈ b.pending, p.catalog = b.service.catalog) (h : b.next? sec = some (answered, next)) :
    next.service.Sound := by
  cases did_next h with
  | whole operation => exact hs.perform operation
  | began => exact hs
  | @finished position p found =>
      -- The state that a pending recording starts from is bound to the catalog it has kept.
      refine hs.applyTracked ?_ p.zones p.report
      rw [hk p (List.mem_of_getElem? found)]
      exact hs.stateOf p.report.vehicle

theorem Busy.known_next {sec : Section} {answered : Option (Operation × Answer)}
    (apart : ∀ catalog, sec ≠ .call (.reload catalog)) (hk : ∀ p ∈ b.pending, p.catalog = b.service.catalog)
    (h : b.next? sec = some (answered, next)) : ∀ p ∈ next.pending, p.catalog = next.service.catalog := by
  have hc : next.service.catalog = b.service.catalog := congrArg Resolver.catalog (resolver_next apart h)
  rw [hc]
  cases did_next h with
  | whole => exact hk
  | began create =>
      refine List.forall_mem_append.2 ⟨hk, List.forall_mem_singleton.2 ?_⟩
      exact (Service.beginRecord_create create).2.2
  | finished => exact fun p hp => hk p (List.mem_of_mem_eraseIdx hp)

theorem Busy.options_next {sec : Section} {answered : Option (Operation × Answer)}
    (h : b.next? sec = some (answered, next)) : next.service.options = b.service.options := by
  cases did_next h with
  | whole operation => exact b.service.options_perform operation
  | began => rfl
  | finished => exact b.service.options_applyTracked _ _ _

namespace Live

theorem Sound.service (h : Sound ⟨b, none⟩) : b.service.Sound :=
  Service.sound_of_get? h.resolver_eq h.states

theorem catalogOf_eq (hc : m.busy.service.catalog = l.busy.service.catalog) (he : m.exchange = l.exchange) :
    m.catalogOf vehicle = l.catalogOf vehicle := by
  rw [catalogOf, catalogOf, hc, he]

/-- A reset or an eviction while a reload is in progress. -/
theorem Sound.whole {exchange : Exchange} (h : Sound ⟨b, some exchange⟩) {operation : Operation}
    (ho : ∀ catalog, operation ≠ .reload catalog)
    (hs : ∀ other state, (b.whole operation).2.state? other = some state →
      ∃ before, b.state? other = some before ∧ (state = before ∨ state = before.reset)) :
    Sound ⟨(b.whole operation).2, some exchange⟩ := by
  have hr : (b.whole operation).2.service.resolver = b.service.resolver := b.service.resolver_perform ho
  have hc : (b.whole operation).2.service.catalog = b.service.catalog := congrArg Resolver.catalog hr
  have hn : b.pending = [] := h.alone rfl
  refine ⟨?_, fun other state hstate => ?_, h.proper, ?_, h.alone⟩
  · have hopt : (b.whole operation).2.service.options = b.service.options := b.service.options_perform operation
    rw [hr, hc, hopt]
    exact h.resolver_eq
  · have hcat : Live.catalogOf ⟨(b.whole operation).2, some exchange⟩ other =
        Live.catalogOf ⟨b, some exchange⟩ other := catalogOf_eq hc rfl
    rw [hcat]
    obtain ⟨before, hb, rfl | rfl⟩ := hs other state hstate
    · exact h.states other _ hb
    · exact (h.states other before hb).reset
  · intro p hp
    rw [Busy.whole, hn] at hp
    cases hp

theorem Sound.step (h : l.Sound) (hs : Step l happening m) : m.Sound := by
  cases hs with
  | part apart done =>
      have hservice := Busy.sound_next h.service h.known done
      exact ⟨hservice.resolver_eq, fun _ _ => hservice.state, Busy.proper_next h.proper done,
        Busy.known_next apart h.known done, nofun⟩
  | enter service catalog => exact ⟨h.resolver_eq, h.states, h.proper, h.known, fun _ => rfl⟩
  | list b catalog =>
      refine ⟨h.resolver_eq, fun vehicle state hstate => ?_, h.proper, h.known, h.alone⟩
      have hm : vehicle ∈ b.service.tracked := List.mem_map_of_mem (SortedMap.mem_of_get? hstate)
      rw [catalogOf]
      simp only [hm, if_true]
      exact h.states vehicle state hstate
  | @bind b catalog waiting other state left found =>
      -- The vehicle that is bound leaves the waiting ones, and with this its catalog becomes the new one.
      refine ⟨h.resolver_eq, fun vehicle state' hstate => ?_, h.proper, h.known, h.alone⟩
      have hg := b.service.get?_withVehicle vehicle other (state.rebind catalog)
      by_cases hv : vehicle = other
      · rw [if_pos hv] at hg
        obtain rfl := Option.some.inj (hg.symm.trans hstate)
        simpa [catalogOf, hv] using (h.states other state found).rebind catalog
      · rw [if_neg hv] at hg
        have hcat : (b.service.withVehicle other (state.rebind catalog)).catalog = b.service.catalog := rfl
        simpa [catalogOf, hv, hcat] using h.states vehicle state' (hg.symm.trans hstate)
  | leave b catalog =>
      refine ⟨h.resolver_eq, fun vehicle state hstate => ?_, h.proper, h.known, h.alone⟩
      simpa [catalogOf] using h.states vehicle state hstate
  | swap b catalog =>
      have hn : b.pending = [] := h.alone rfl
      refine ⟨rfl, h.states, h.proper, fun p hp => ?_, nofun⟩
      rw [hn] at hp
      cases hp
  | reset b exchange vehicle =>
      refine h.whole nofun fun other state hstate => ?_
      have hg : (b.whole (.reset vehicle)).2.state? other = _ := b.service.get?_reset other vehicle
      rw [hg] at hstate
      split at hstate
      · obtain ⟨before, hb, rfl⟩ := Option.map_eq_some_iff.1 hstate
        exact ⟨before, hb, .inr rfl⟩
      · exact ⟨state, hstate, .inl rfl⟩
  | evict b vehicle free =>
      refine h.whole nofun fun other state hstate => ?_
      have hg : (b.whole (.evict vehicle)).2.state? other = _ := b.service.get?_evict other vehicle
      rw [hg] at hstate
      split at hstate
      · cases hstate
      · exact ⟨state, hstate, .inl rfl⟩

theorem Step.options_eq (h : Step l happening m) : m.busy.service.options = l.busy.service.options := by
  cases h with
  | part apart done => exact Busy.options_next done
  | reset b exchange vehicle => exact b.service.options_perform (.reset vehicle)
  | evict b vehicle => exact b.service.options_perform (.evict vehicle)
  | enter | list | bind | leave | swap => rfl

theorem Step.catalog_eq (h : Step l happening m) (hl : l.exchange = none) (hm : m.exchange = none) :
    m.busy.service.catalog = l.busy.service.catalog := by
  cases h with
  | part apart done => exact congrArg Resolver.catalog (Busy.resolver_next apart done)
  | enter => cases hm
  | list | bind | leave | swap | reset | evict => cases hl

/-- What a step does to one vehicle. -/
theorem Step.change (h : Step l happening m) (hs : l.Sound) (vehicle : String) :
    Change (l.state? vehicle) (m.state? vehicle) (Instant.mutates vehicle ⟨happening, m⟩) := by
  cases h with
  | part apart done => exact (Busy.effect_next hs.proper done).change
  | reset b exchange other => exact (Busy.effect_whole b (.reset other)).change
  | evict b other => exact (Busy.effect_whole b (.evict other)).change
  | @bind b catalog waiting other state left found =>
      have hg := b.service.get?_withVehicle vehicle other (state.rebind catalog)
      by_cases hv : vehicle = other
      · rw [if_pos hv] at hg
        refine .advanced _ hg ?_ ?_
        · rw [hv, Live.state?, found]
          rfl
        · simp [Instant.mutates, hv]
      · rw [if_neg hv] at hg
        exact .kept hg fun _ => by simp [Instant.mutates, Ne.symm hv]
  | enter | list | leave | swap => exact .kept rfl fun _ => rfl

namespace Runs

variable {start : Live} {instants : List Instant}

theorem append {more : List Instant} (h : Runs start instants l) (hm : Runs l more m) :
    Runs start (instants ++ more) m := by
  induction hm with
  | nil => rwa [List.append_nil]
  | snoc rest done ih =>
      rw [← List.append_assoc]
      exact .snoc ih done

theorem sound (h : Runs start instants l) (hs : start.Sound) : l.Sound := by
  induction h with
  | nil => exact hs
  | snoc rest done ih => exact ih.step done

theorem options_eq (h : Runs start instants l) : l.busy.service.options = start.busy.service.options := by
  induction h with
  | nil => rfl
  | snoc rest done ih => exact done.options_eq.trans ih

theorem log (h : Runs start instants l) (hs : start.Sound) (hn : start.state? vehicle = none) :
    Log (Instant.state? vehicle) (Instant.mutates vehicle) instants (l.state? vehicle) := by
  induction h with
  | nil =>
      rw [hn]
      exact .nil
  | snoc rest done ih => exact .snoc ih (done.change (rest.sound hs) vehicle)

end Runs

theorem Held.unchanged {start : Live} {instants : List Instant} (h : Held start instants l) :
    l.exchange = none ∧ l.busy.service.catalog = start.busy.service.catalog := by
  obtain ⟨hfree, hruns, hapart⟩ := h
  induction hruns with
  | nil => exact ⟨hfree, rfl⟩
  | @snoc instants l next happening rest done ih =>
      obtain ⟨hmore, hlast⟩ := List.forall_mem_append.1 hapart
      obtain ⟨he, hc⟩ := ih hmore
      have hnext : next.exchange = none := hlast _ (List.mem_singleton_self _)
      exact ⟨hnext, (done.catalog_eq he hnext).trans hc⟩

namespace Look

variable {begun seen done : Live} {before after : List Instant} {result : Except ServiceFault Overlay}

theorem reached (h : Look vehicle begun before seen after done result) : Held begun before seen := by
  cases h with
  | refused reached | shown reached => exact reached

end Look

end Live

end VehicleDamage
