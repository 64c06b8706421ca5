import AsyncFiles.Proofs.Bystanders.Entries
import AsyncFiles.Proofs.Transparent.Exchange
import AsyncFiles.Proofs.Transparent.Reordered

namespace AsyncFiles

open Access Error Host

namespace System

variable {Handler : Type} {system : System Handler} {service : ServiceId}
  {registry : Registry StateId}

def relist (system : System Handler) (service : ServiceId) (registry : Registry StateId) :
    System Handler :=
  system.updateRegistry service fun _ => registry

theorem relist_updateService (other : ServiceId) {change : Service Handler → Service Handler}
    (alone : ∀ found, change { found with registry } = { change found with registry }) :
    (system.relist service registry).updateService other change =
      (system.updateService other change).relist service registry := by
  by_cases same : other = service
  · subst same
    simp only [relist, updateRegistry, updateService, List.modify_modify_eq]
    congr 2
    funext found
    exact alone found
  · exact updateService_comm same _ change

theorem relist_updateRegistry_other {other : ServiceId} (apart : other ≠ service)
    (change : Registry StateId → Registry StateId) :
    (system.relist service registry).updateRegistry other change =
      (system.updateRegistry other change).relist service registry :=
  updateService_comm apart _ _

theorem relist_updateRegistry (change next : Registry StateId → Registry StateId) :
    (system.relist service registry).updateRegistry service change =
      (system.updateRegistry service next).relist service (change registry) := by
  simp only [relist, updateRegistry, updateService, List.modify_modify_eq]
  rfl

theorem destroy_eq (system : System Handler) (service : ServiceId) (imp : Implementation) :
    system.destroy service imp = (system.closeState imp.state).2.unlist service imp := rfl

theorem register_eq {found : Service Handler} (present : system.service? service = some found)
    (state : StateId) : system.register service state =
      (((system.registryOf service).insert state).1,
        system.updateRegistry service fun _ => ((system.registryOf service).insert state).2) := by
  simp only [register, registryOf, present]
  rfl

end System

namespace Exchange

variable {Handler : Type} {exchange : Exchange} {system other : System Handler}

/-- Implementations of the service are listed under translated keys, the others as they are. -/
def implementation (exchange : Exchange) (imp : Implementation) : Implementation :=
  if imp.owner = exchange.service then { imp with key := exchange.key imp.key } else imp

def Twins (exchange : Exchange) (system other : System Handler) : Prop :=
  ∃ registry, exchange.Mirrors (system.registryOf exchange.service) registry ∧
    other = system.relist exchange.service registry

@[simp] theorem owner_implementation (exchange : Exchange) (imp : Implementation) :
    (exchange.implementation imp).owner = imp.owner := by
  rw [implementation]
  split <;> rfl

@[simp] theorem state_implementation (exchange : Exchange) (imp : Implementation) :
    (exchange.implementation imp).state = imp.state := by
  rw [implementation]
  split <;> rfl

theorem implementation_inj {imp next : Implementation}
    (same : exchange.implementation imp = exchange.implementation next) : imp = next := by
  have owner := congrArg Implementation.owner same
  have state := congrArg Implementation.state same
  rw [owner_implementation, owner_implementation] at owner
  rw [state_implementation, state_implementation] at state
  simp only [implementation, owner] at same
  cases imp
  cases next
  simp only at owner state
  subst owner state
  split at same
  next =>
    simp only [Implementation.mk.injEq, and_true] at same
    rw [exchange.key_inj same]
  next => exact same

theorem implementation_restate (exchange : Exchange) (imp : Implementation) (state : StateId) :
    exchange.implementation { imp with state } = { exchange.implementation imp with state } := by
  simp only [implementation]
  split <;> rfl

theorem implementation_own (exchange : Exchange) (key : RegistryKey) (state : StateId) :
    exchange.implementation ⟨key, exchange.service, state⟩ =
      ⟨exchange.key key, exchange.service, state⟩ := if_pos rfl

theorem implementation_other {owner : ServiceId} (apart : owner ≠ exchange.service)
    (key : RegistryKey) (state : StateId) :
    exchange.implementation ⟨key, owner, state⟩ = ⟨key, owner, state⟩ := if_neg apart

namespace Twins

variable (twins : exchange.Twins system other)
include twins

theorem present : ∃ found, system.service? exchange.service = some found := by
  obtain ⟨registry, mirrors, _⟩ := twins
  cases located : system.service? exchange.service with
  | some found => exact ⟨found, rfl⟩
  | none =>
    have inside := mirrors.inside.1
    simp [System.registryOf, located] at inside

theorem map (change : System Handler → System Handler)
    (alone : ∀ (system : System Handler) registry,
      change (system.relist exchange.service registry) =
        (change system).relist exchange.service registry)
    (kept : (change system).registryOf exchange.service = system.registryOf exchange.service) :
    exchange.Twins (change system) (change other) := by
  obtain ⟨registry, mirrors, rfl⟩ := twins
  exact ⟨registry, kept ▸ mirrors, alone system registry⟩

theorem updateService (service : ServiceId) (change : Service Handler → Service Handler)
    (kept : ∀ found, (change found).registry = found.registry)
    (alone : ∀ found registry, change { found with registry } = { change found with registry }) :
    exchange.Twins (system.updateService service change) (other.updateService service change) :=
  twins.map (fun system => system.updateService service change)
    (fun _ _ => System.relist_updateService service fun found => alone found _)
    (system.registryOf_updateService service change kept _)

theorem updateOwn (change next : Registry StateId → Registry StateId)
    (mirrored : ∀ registry other, exchange.Mirrors registry other →
      exchange.Mirrors (change registry) (next other)) :
    exchange.Twins (system.updateRegistry exchange.service change)
      (other.updateRegistry exchange.service next) := by
  obtain ⟨found, present⟩ := twins.present
  obtain ⟨registry, mirrors, rfl⟩ := twins
  refine ⟨next registry, ?_, System.relist_updateRegistry next change⟩
  rw [System.registryOf_updateRegistry present, if_pos rfl]
  exact mirrored _ _ mirrors

theorem updateOther {service : ServiceId} (apart : service ≠ exchange.service)
    (change : Registry StateId → Registry StateId) :
    exchange.Twins (system.updateRegistry service change)
      (other.updateRegistry service change) := by
  refine twins.map (fun system => system.updateRegistry service change)
    (fun _ _ => System.relist_updateRegistry_other apart change) ?_
  cases located : system.service? service with
  | none => exact System.registryOf_updateRegistry_absent located change _
  | some found =>
    rw [System.registryOf_updateRegistry located]
    exact if_neg (Ne.symm apart)

theorem shared : other.states = system.states ∧ other.contexts = system.contexts ∧
    other.host = system.host := by
  obtain ⟨registry, _, rfl⟩ := twins
  exact ⟨rfl, rfl, rfl⟩

theorem state (state : StateId) : other.state state = system.state state := by
  rw [System.state, System.state, twins.shared.1]

theorem view {View : Type} (view : Service Handler → View)
    (blind : ∀ found registry, view { found with registry } = view found) (service : ServiceId) :
    (other.service? service).map view = (system.service? service).map view := by
  obtain ⟨registry, _, rfl⟩ := twins
  exact system.view_updateService exchange.service _ (fun found => blind found registry) service

theorem references (service : ServiceId) :
    other.references service = system.references service :=
  congrArg (fun found => Option.getD found 0)
    (twins.view Service.references (fun _ _ => rfl) service)

theorem isShutDown (service : ServiceId) :
    other.isShutDown service = system.isShutDown service :=
  congrArg (fun found => Option.getD found false)
    (twins.view Service.shutDown (fun _ _ => rfl) service)

theorem service_other {service : ServiceId} (apart : service ≠ exchange.service) :
    other.service? service = system.service? service := by
  obtain ⟨registry, _, rfl⟩ := twins
  exact System.service_updateService_other apart _

theorem registryOf_other {service : ServiceId} (apart : service ≠ exchange.service) :
    other.registryOf service = system.registryOf service := by
  rw [System.registryOf, System.registryOf, twins.service_other apart]

theorem mirrors :
    exchange.Mirrors (system.registryOf exchange.service) (other.registryOf exchange.service) := by
  obtain ⟨found, present⟩ := twins.present
  obtain ⟨registry, mirrors, rfl⟩ := twins
  rw [System.relist, System.registryOf_updateRegistry present, if_pos rfl]
  exact mirrors

theorem registered (service : ServiceId) :
    (other.registered service).Perm (system.registered service) := by
  rw [System.registered_eq, System.registered_eq]
  by_cases own : service = exchange.service
  · subst own
    exact twins.mirrors.values_perm
  · rw [twins.registryOf_other own]

theorem closeState (state : StateId) : (other.closeState state).1 = (system.closeState state).1 ∧
    exchange.Twins (system.closeState state).2 (other.closeState state).2 := by
  obtain ⟨registry, mirrors, rfl⟩ := twins
  exact ⟨rfl, registry, mirrors, rfl⟩

theorem addState : exchange.Twins system.addState.2 other.addState.2 := by
  obtain ⟨registry, mirrors, rfl⟩ := twins
  exact ⟨registry, mirrors, rfl⟩

theorem register (service : ServiceId) (state : StateId) :
    exchange.implementation ⟨(system.register service state).1, service, state⟩ =
        ⟨(other.register service state).1, service, state⟩ ∧
      exchange.Twins (system.register service state).2 (other.register service state).2 := by
  by_cases own : service = exchange.service
  · subst own
    obtain ⟨found, present⟩ := twins.present
    obtain ⟨next, located, _⟩ := Option.map_eq_some_iff.mp
      ((twins.view Service.context (fun _ _ => rfl) exchange.service).trans
        (congrArg (Option.map Service.context) present))
    obtain ⟨key, inserted⟩ := twins.mirrors.insert state
    rw [System.register_eq present, System.register_eq located, implementation_own, key]
    exact ⟨rfl, twins.updateOwn _ _ fun _ _ _ => inserted⟩
  · rw [implementation_other own]
    simp only [System.register, twins.service_other own]
    cases system.service? service with
    | none => exact ⟨rfl, twins⟩
    | some found => exact ⟨rfl, twins.updateOther own _⟩

theorem unlist (service : ServiceId) (imp : Implementation) :
    exchange.Twins (system.unlist service imp)
      (other.unlist service (exchange.implementation imp)) := by
  simp only [System.unlist, owner_implementation]
  split
  next home =>
    subst home
    by_cases own : imp.owner = exchange.service
    · rw [implementation, if_pos own, own]
      exact twins.updateOwn _ _ fun _ _ mirrors => mirrors.remove imp.key
    · rw [implementation, if_neg own]
      exact twins.updateOther own _
  next => exact twins

theorem detach (service : ServiceId) (imp : Implementation) :
    (other.detach service (exchange.implementation imp)).1 = (system.detach service imp).1 ∧
      (other.detach service (exchange.implementation imp)).2.1 =
        exchange.implementation (system.detach service imp).2.1 ∧
      exchange.Twins (system.detach service imp).2.2
        (other.detach service (exchange.implementation imp)).2.2 := by
  have fresh : other.addState.1 = system.addState.1 := congrArg List.length twins.shared.1
  have added := twins.addState
  refine ⟨exchange.state_implementation imp, ?_, ?_⟩
  · simp only [System.detach, implementation_restate]
    rw [fresh]
  · simp only [System.detach, owner_implementation, fresh]
    split
    next home =>
      subst home
      by_cases own : imp.owner = exchange.service
      · rw [implementation, if_pos own, own]
        exact added.updateOwn _ _ fun _ _ mirrors => mirrors.replace imp.key _
      · rw [implementation, if_neg own]
        exact added.updateOther own _
    next => exact added

theorem retain (service : ServiceId) :
    exchange.Twins (system.retain service) (other.retain service) :=
  twins.updateService service _ (by intro found; rfl) (by intro found registry; rfl)

theorem construct (service : ServiceId) :
    (other.construct service).1 = exchange.implementation (system.construct service).1 ∧
      exchange.Twins (system.construct service).2 (other.construct service).2 := by
  have fresh : other.addState.1 = system.addState.1 := congrArg List.length twins.shared.1
  obtain ⟨key, registered⟩ := twins.addState.register service system.addState.1
  simp only [System.construct, fresh]
  exact ⟨key.symm, registered⟩

theorem moveConstruct (service otherService : ServiceId) (source : Implementation) :
    (other.moveConstruct service otherService (exchange.implementation source)).1 =
        exchange.implementation (system.moveConstruct service otherService source).1 ∧
      (other.moveConstruct service otherService (exchange.implementation source)).2.1 =
        exchange.implementation (system.moveConstruct service otherService source).2.1 ∧
      exchange.Twins (system.moveConstruct service otherService source).2.2
        (other.moveConstruct service otherService (exchange.implementation source)).2.2 := by
  obtain ⟨moved, left, detached⟩ := twins.detach otherService source
  obtain ⟨key, registered⟩ :=
    detached.register service (system.detach otherService source).1
  simp only [System.moveConstruct, moved]
  exact ⟨key.symm, left, registered⟩

theorem destroy (service : ServiceId) (imp : Implementation) :
    exchange.Twins (system.destroy service imp)
      (other.destroy service (exchange.implementation imp)) := by
  rw [System.destroy_eq, System.destroy_eq, state_implementation]
  exact (twins.closeState imp.state).2.unlist service imp

end Twins

/-- A move within a service into an implementation of another one, where the exchange translates the
key but not for both of them. -/
def Strays (exchange : Exchange) : Act → Prop
  | .implementation (.moveAssign taker imp giver _) =>
    taker = giver ∧ imp.owner ≠ taker ∧
      (taker = exchange.service ∨ imp.owner = exchange.service) ∧ exchange.key imp.key ≠ imp.key
  | _ => False

namespace Twins

variable (twins : exchange.Twins system other)
include twins

theorem overwrite {service : ServiceId} {imp : Implementation}
    (tame : imp.owner ≠ service → service = exchange.service ∨ imp.owner = exchange.service →
      exchange.key imp.key = imp.key) (state : StateId) :
    exchange.Twins (system.updateRegistry service fun registry => registry.replace imp.key state)
      (other.updateRegistry service fun registry =>
        registry.replace (exchange.implementation imp).key state) := by
  by_cases own : service = exchange.service
  · subst own
    have key : (exchange.implementation imp).key = exchange.key imp.key := by
      rw [implementation]
      split
      next => rfl
      next foreign => exact (tame foreign (.inl rfl)).symm
    rw [key]
    exact twins.updateOwn _ _ fun _ _ mirrors => mirrors.replace imp.key state
  · have key : (exchange.implementation imp).key = imp.key := by
      rw [implementation]
      split
      next foreign =>
        refine tame ?_ (.inr foreign)
        rw [foreign]
        exact Ne.symm own
      next => rfl
    rw [key]
    exact twins.updateOther own _

theorem takeOver {service otherService : ServiceId} {imp : Implementation}
    (source : Implementation)
    (tame : service = otherService → imp.owner ≠ service →
      service = exchange.service ∨ imp.owner = exchange.service →
        exchange.key imp.key = imp.key) :
    (other.takeOver service (exchange.implementation imp) otherService
        (exchange.implementation source)).1 =
          exchange.implementation (system.takeOver service imp otherService source).1 ∧
      (other.takeOver service (exchange.implementation imp) otherService
        (exchange.implementation source)).2.1 =
          exchange.implementation (system.takeOver service imp otherService source).2.1 ∧
      exchange.Twins (system.takeOver service imp otherService source).2.2
        (other.takeOver service (exchange.implementation imp) otherService
          (exchange.implementation source)).2.2 := by
  obtain ⟨moved, left, detached⟩ := twins.detach otherService source
  simp only [System.takeOver, moved]
  split
  next within =>
    refine ⟨(exchange.implementation_restate imp _).symm, left, ?_⟩
    exact detached.overwrite (tame within) _
  next =>
    obtain ⟨key, registered⟩ := (detached.unlist service imp).register otherService
      (system.detach otherService source).1
    exact ⟨key.symm, left, registered⟩

theorem moveAssign {service otherService : ServiceId} {imp : Implementation}
    (source : Implementation)
    (tame : service = otherService → imp.owner ≠ service →
      service = exchange.service ∨ imp.owner = exchange.service →
        exchange.key imp.key = imp.key) :
    (other.moveAssign service (exchange.implementation imp) otherService
        (exchange.implementation source)).1 =
          exchange.implementation (system.moveAssign service imp otherService source).1 ∧
      (other.moveAssign service (exchange.implementation imp) otherService
        (exchange.implementation source)).2.1 =
          exchange.implementation (system.moveAssign service imp otherService source).2.1 ∧
      exchange.Twins (system.moveAssign service imp otherService source).2.2
        (other.moveAssign service (exchange.implementation imp) otherService
          (exchange.implementation source)).2.2 := by
  rw [System.moveAssign_eq, System.moveAssign_eq, state_implementation]
  exact (twins.closeState imp.state).2.takeOver source tame

theorem closeStates (states : List StateId) :
    exchange.Twins (system.closeStates states) (other.closeStates states) :=
  twins.map (fun system => system.closeStates states)
    (fun system _ => system.closeStates_updateService exchange.service _ states)
    (System.registryOf_of_services (system.services_closeStates states) _)

theorem closeAll (service : ServiceId) : ∃ next, exchange.Twins (system.closeAll service) next ∧
    next.Reordered (other.closeAll service) := by
  refine ⟨other.closeStates (system.registered service), twins.closeStates _, ?_⟩
  exact System.reordered_closeStates (twins.registered service).symm other

theorem shutdown (service : ServiceId) : ∃ next, exchange.Twins (system.shutdown service) next ∧
    next.Reordered (other.shutdown service) := by
  have marked : exchange.Twins (system.markShutDown service) (other.markShutDown service) :=
    twins.updateService service _ (fun _ => rfl) (fun _ _ => rfl)
  obtain ⟨next, closed, reordered⟩ := marked.closeAll service
  simp only [System.shutdown, twins.isShutDown]
  split
  next => exact ⟨other, twins, .refl _⟩
  next =>
    exact ⟨_, closed.updateService service _ (fun _ => rfl) (fun _ _ => rfl),
      reordered.updateService service _⟩

theorem dropReference (service : ServiceId) :
    ∃ next, exchange.Twins (system.dropReference service) next ∧
      next.Reordered (other.dropReference service) := by
  have gaveUp : exchange.Twins (system.giveUp service) (other.giveUp service) :=
    twins.updateService service _ (fun _ => rfl) (fun _ _ => rfl)
  have seen := gaveUp.view (fun found => (found.references, found.shutDown)) (fun _ _ => rfl)
    service
  have dropped (system : System Handler) : system.updateService service (fun found =>
    { found with references := found.references - 1 }) = system.giveUp service := rfl
  simp only [System.dropReference, dropped]
  cases present : (system.giveUp service).service? service with
  | none =>
    rw [present, Option.map_none, Option.map_eq_none_iff] at seen
    rw [seen]
    exact ⟨_, gaveUp, .refl _⟩
  | some found =>
    rw [present, Option.map_some] at seen
    obtain ⟨next, located, same⟩ := Option.map_eq_some_iff.mp seen
    rw [Prod.mk.injEq] at same
    simp only [located, same]
    split
    next => exact ⟨_, gaveUp, .refl _⟩
    split
    next => exact gaveUp.closeAll service
    next => exact gaveUp.shutdown service

theorem pool (service : ServiceId) : (other.service? service).map Service.pool =
    (system.service? service).map Service.pool :=
  twins.view Service.pool (fun _ _ => rfl) service

theorem updatePool (service : ServiceId) (change : Pool (Task Handler) → Pool (Task Handler)) :
    exchange.Twins (system.updatePool service change) (other.updatePool service change) :=
  twins.updateService service _ (fun _ => rfl) (fun _ _ => rfl)

theorem updateContext (context : ContextId)
    (change : Context (Invocation Handler) → Context (Invocation Handler)) :
    exchange.Twins (system.updateContext context change) (other.updateContext context change) := by
  obtain ⟨registry, mirrors, rfl⟩ := twins
  exact ⟨registry, mirrors, rfl⟩

theorem submit (service : ServiceId) (imp : Implementation) (request : Request)
    (buffers : List Bytes) (handler : Handler) :
    exchange.Twins (system.submit service imp request buffers handler)
      (other.submit service (exchange.implementation imp) request buffers handler) := by
  have seen := twins.view (fun found => (found.context, found.pool)) (fun _ _ => rfl) service
  simp only [System.submit, System.handleOf, state_implementation, twins.state]
  cases present : system.service? service with
  | none =>
    rw [present, Option.map_none, Option.map_eq_none_iff] at seen
    rw [seen]
    exact twins
  | some found =>
    rw [present, Option.map_some] at seen
    obtain ⟨next, located, same⟩ := Option.map_eq_some_iff.mp seen
    rw [Prod.mk.injEq] at same
    simp only [located, same]
    cases found.pool.execute _ with
    | ok pool => exact (twins.updateContext found.context _).updatePool service _
    | error error =>
      exact ((twins.updateContext found.context _).updateContext found.context _).updateContext
        found.context _

theorem follow (service : ServiceId) (worker : Nat) (operation : Operation Handler)
    (attempt : Attempt) : exchange.Twins (system.follow service worker operation attempt)
      (other.follow service worker operation attempt) := by
  cases attempt with
  | stalled call => exact twins.updatePool service _
  | finished result buffers =>
    exact (twins.updateContext operation.context _).updatePool service _

theorem host (host : Host) : exchange.Twins { system with host } { other with host } := by
  obtain ⟨registry, mirrors, rfl⟩ := twins
  exact ⟨registry, mirrors, rfl⟩

theorem workerStep (held : Operation Handler → Bool) (service : ServiceId) (worker : Nat) :
    Option.Rel exchange.Twins (system.workerStep? held service worker)
      (other.workerStep? held service worker) := by
  have task : other.heldTask? service worker = system.heldTask? service worker := by
    have workers := congrArg (fun found => (found.bind fun pool => pool.workers[worker]?).bind
      Worker.task?) (twins.pool service)
    simp only [Option.bind_map] at workers
    exact workers
  have asked := twins.shared.2.2
  have seen := twins.pool service
  simp only [System.workerStep?, task]
  cases present : system.service? service with
  | none =>
    rw [present, Option.map_none, Option.map_eq_none_iff] at seen
    rw [seen]
    exact .none
  | some found =>
    rw [present, Option.map_some] at seen
    obtain ⟨next, located, same⟩ := Option.map_eq_some_iff.mp seen
    simp only [located, same]
    cases system.heldTask? service worker with
    | none =>
      dsimp only
      cases found.pool.dequeue? worker with
      | some pool => exact .some (twins.updatePool service _)
      | none =>
        cases found.pool.leave? worker with
        | none => exact .none
        | some pool => exact .some (twins.updatePool service _)
    | some task =>
      cases task with
      | issued operation =>
        refine .some ?_
        have known : other.isCancelled operation = system.isCancelled operation := by
          rw [System.isCancelled, System.isCancelled, twins.state]
        simp only [System.checkToken, known]
        split
        next => exact (twins.updateContext operation.context _).updatePool service _
        next => exact twins.updatePool service _
      | admitted operation =>
        dsimp only
        split
        next => exact .none
        next =>
          refine .some ?_
          simp only [System.transfer, asked]
          exact (twins.host _).follow service worker operation _
      | stalled operation call =>
        simp only [System.resume?, asked]
        cases Attempt.resume? operation.buffers call system.host with
        | none => exact .none
        | some outcome => exact .some ((twins.host _).follow service worker operation _)
      | delivered context =>
        exact .some ((twins.updateContext context _).updatePool service _)
      | settled => exact .some (twins.updatePool service _)

end Twins

end Exchange

end AsyncFiles
