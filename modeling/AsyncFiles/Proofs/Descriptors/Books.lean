import AsyncFiles.Proofs.Descriptors.Adoption
import AsyncFiles.Proofs.Registry

/-!
The registries as books of implementations. Every implementation that was not destroyed is under its
key in the registry of its owner, with its state; nothing else is in a registry, and no two
implementations share a state.
-/
namespace AsyncFiles.System

open Access Error Host

variable {Handler : Type} {system later : System Handler} {service : ServiceId}
  {imp other : Implementation} {rest all : List Implementation} {state : StateId}

def registryOf (system : System Handler) (service : ServiceId) : Registry StateId :=
  ((system.service? service).map Service.registry).getD {}

structure Books (system : System Handler) (all : List Implementation) : Prop where
  wellFormed : ∀ service, (system.registryOf service).WellFormed
  entry : ∀ imp : Implementation,
    (system.registryOf imp.owner).get? imp.key = some imp.state ↔ imp ∈ all
  nodup : (all.map Implementation.state).Nodup
  bound : ∀ imp ∈ all, imp.state < system.states.length

/-- Every state with an open handle belongs to an implementation of a service in use. -/
def Borne (system : System Handler) (all : List Implementation) : Prop :=
  ∀ state, (system.state state).handle.isOpen = true →
    ∃ imp ∈ all, imp.state = state ∧ 0 < system.references imp.owner

theorem service_of_references (held : 0 < system.references service) :
    ∃ found, system.service? service = some found := by
  cases present : system.service? service with
  | some found => exact ⟨found, rfl⟩
  | none => simp [references, present] at held

theorem service_of_length (known : service < system.services.length) :
    ∃ found, system.service? service = some found :=
  ⟨_, List.getElem?_eq_getElem known⟩

theorem length_of_references (held : 0 < system.references service) :
    service < system.services.length := by
  obtain ⟨found, present⟩ := service_of_references held
  exact (List.getElem?_eq_some_iff.mp present).1

theorem registryOf_of_services (same : later.services = system.services) (service : ServiceId) :
    later.registryOf service = system.registryOf service := by
  simp only [registryOf, service?, same]

theorem references_of_services (same : later.services = system.services) (service : ServiceId) :
    later.references service = system.references service := by
  simp only [references, service?, same]

theorem registryOf_updateService (system : System Handler) (service : ServiceId)
    (change : Service Handler → Service Handler)
    (same : ∀ found, (change found).registry = found.registry) (other : ServiceId) :
    (system.updateService service change).registryOf other = system.registryOf other := by
  simp only [registryOf]
  rw [system.view_updateService service change same]

theorem registryOf_updateRegistry {found : Service Handler}
    (present : system.service? service = some found)
    (change : Registry StateId → Registry StateId) (other : ServiceId) :
    (system.updateRegistry service change).registryOf other =
      if other = service then change (system.registryOf service) else system.registryOf other := by
  have located : system.services[service]? = some found := present
  by_cases same : other = service
  · subst same
    simp [registryOf, updateRegistry, updateService, service?, located]
  · simp [registryOf, updateRegistry, updateService, service?, same, Ne.symm same]

theorem registryOf_updateRegistry_absent (absent : system.service? service = none)
    (change : Registry StateId → Registry StateId) (other : ServiceId) :
    (system.updateRegistry service change).registryOf other = system.registryOf other := by
  have beyond : system.services[service]? = none := absent
  exact registryOf_of_services (List.modify_eq_self (List.getElem?_eq_none_iff.mp beyond)) other

theorem forall_updateRegistry {holds : Registry StateId → Prop}
    {change : Registry StateId → Registry StateId}
    (every : ∀ service, holds (system.registryOf service))
    (kept : ∀ registry, holds registry → holds (change registry)) (service other : ServiceId) :
    holds ((system.updateRegistry service change).registryOf other) := by
  cases present : system.service? service with
  | some found =>
    rw [registryOf_updateRegistry present]
    split
    next => exact kept _ (every _)
    next => exact every other
  | none =>
    rw [registryOf_updateRegistry_absent present]
    exact every other

theorem Books.of_registries (books : system.Books all)
    (registries : ∀ service, later.registryOf service = system.registryOf service)
    (grown : system.states.length ≤ later.states.length) : later.Books all where
  wellFormed service := by
    rw [registries]
    exact books.wellFormed service
  entry imp := by
    rw [registries]
    exact books.entry imp
  nodup := books.nodup
  bound imp member := Nat.lt_of_lt_of_le (books.bound imp member) grown

theorem Books.perm (books : system.Books all) (same : all.Perm rest) : system.Books rest where
  wellFormed := books.wellFormed
  entry imp := (books.entry imp).trans same.mem_iff
  nodup := (same.map Implementation.state).nodup_iff.mp books.nodup
  bound imp member := books.bound imp (same.mem_iff.mpr member)

theorem registered_eq (system : System Handler) (service : ServiceId) :
    system.registered service = (system.registryOf service).values := by
  simp only [registered, registryOf]
  cases system.service? service <;> rfl

theorem Books.mem_registered (books : system.Books all) :
    state ∈ system.registered service ↔ ∃ imp ∈ all, imp.owner = service ∧ imp.state = state := by
  rw [registered_eq, Registry.mem_values]
  constructor
  · rintro ⟨key, present⟩
    exact ⟨⟨key, service, state⟩, (books.entry ⟨key, service, state⟩).mp present, rfl, rfl⟩
  · rintro ⟨imp, member, rfl, rfl⟩
    exact ⟨imp.key, (books.entry imp).mpr member⟩

theorem Books.register {found : Service Handler} (books : system.Books all)
    (present : system.service? service = some found) (fresh : state ∉ all.map Implementation.state)
    (bound : state < system.states.length) :
    (system.register service state).2.Books
      ({ key := (system.register service state).1, owner := service, state } :: all) := by
  have home : system.registryOf service = found.registry := by simp [registryOf, present]
  have wellFormed := books.wellFormed service
  rw [home] at wellFormed
  obtain ⟨unused, finds⟩ := wellFormed.get?_insert state
  have changed := registryOf_updateRegistry present fun _ => (found.registry.insert state).2
  simp only [System.register, present]
  refine ⟨fun other => ?_, fun imp => ?_, List.nodup_cons.mpr ⟨fresh, books.nodup⟩, ?_⟩
  · rw [changed]
    split
    next => exact wellFormed.insert state
    next => exact books.wellFormed other
  · rw [changed, List.mem_cons, ← books.entry]
    by_cases here : imp.owner = service
    · rw [if_pos here, finds, here, home]
      by_cases new : imp.key = (found.registry.insert state).1
      · rw [if_pos new, new, unused]
        obtain ⟨key, owner, held⟩ := imp
        cases here
        cases new
        simp [eq_comm]
      · rw [if_neg new]
        cases imp
        simp_all
    · rw [if_neg here]
      cases imp
      simp_all
  · simp only [List.forall_mem_cons]
    exact ⟨bound, books.bound⟩

section

variable (books : system.Books (imp :: rest))
include books

theorem Books.not_mem_rest (key : other.key = imp.key) (owner : other.owner = imp.owner) :
    other ∉ rest := by
  intro member
  have mine := (books.entry imp).mpr (List.mem_cons_self)
  have theirs := (books.entry other).mpr (List.mem_cons_of_mem _ member)
  rw [owner, key, mine, Option.some.injEq] at theirs
  have alone := (List.nodup_cons.mp books.nodup).1
  exact alone (theirs ▸ List.mem_map_of_mem member)

theorem Books.entry_change {change : Registry StateId → Registry StateId} {value : Option StateId}
    (changed : ∀ key, (change (system.registryOf imp.owner)).get? key =
      if key = imp.key then value else (system.registryOf imp.owner).get? key)
    (other : Implementation) :
    ((system.updateRegistry imp.owner change).registryOf other.owner).get? other.key =
        some other.state ↔
      (other.key = imp.key ∧ other.owner = imp.owner ∧ value = some other.state) ∨
        other ∈ rest := by
  obtain ⟨found, present⟩ : ∃ found, system.service? imp.owner = some found := by
    have mine := (books.entry imp).mpr List.mem_cons_self
    cases present : system.service? imp.owner with
    | some found => exact ⟨found, rfl⟩
    | none => simp [registryOf, present, Registry.get?_empty] at mine
  have before := books.entry other
  rw [List.mem_cons] at before
  rw [registryOf_updateRegistry present]
  by_cases owner : other.owner = imp.owner
  · rw [if_pos owner, changed]
    by_cases key : other.key = imp.key
    · have gone := books.not_mem_rest key owner
      simp [key, owner, gone]
    · have apart : other ≠ imp := fun same => key (congrArg Implementation.key same)
      rw [owner] at before
      simp [key, before, apart]
  · have apart : other ≠ imp := fun same => owner (congrArg Implementation.owner same)
    simp [owner, before, apart]

theorem Books.wellFormed_change {change : Registry StateId → Registry StateId}
    (kept : ∀ registry : Registry StateId, registry.WellFormed → (change registry).WellFormed)
    (service : ServiceId) :
    ((system.updateRegistry imp.owner change).registryOf service).WellFormed :=
  forall_updateRegistry books.wellFormed kept imp.owner service

theorem Books.rebind (fresh : state ∉ rest.map Implementation.state)
    (bound : state < system.states.length) :
    (system.updateRegistry imp.owner fun registry => registry.replace imp.key state).Books
      ({ imp with state } :: rest) where
  wellFormed := books.wellFormed_change fun _ wellFormed => wellFormed.replace _ _
  entry other := by
    have mine := (books.entry imp).mpr List.mem_cons_self
    rw [books.entry_change (Registry.get?_replace mine state), List.mem_cons]
    cases other
    simp [eq_comm]
  nodup := List.nodup_cons.mpr ⟨fresh, (List.nodup_cons.mp books.nodup).2⟩
  bound := by
    simp only [List.forall_mem_cons]
    exact ⟨bound, fun other member => books.bound other (List.mem_cons_of_mem _ member)⟩

theorem Books.unbind :
    (system.updateRegistry imp.owner fun registry => registry.remove imp.key).Books rest where
  wellFormed := books.wellFormed_change fun _ wellFormed => wellFormed.remove _
  entry other := by
    have mine := (books.entry imp).mpr List.mem_cons_self
    rw [books.entry_change (Registry.get?_remove mine)]
    simp
  nodup := (List.nodup_cons.mp books.nodup).2
  bound other member := books.bound other (List.mem_cons_of_mem _ member)

end

theorem fresh_of_bound (bound : ∀ imp ∈ all, imp.state < system.states.length) :
    system.states.length ∉ all.map Implementation.state := by
  intro member
  obtain ⟨imp, known, same⟩ := List.mem_map.mp member
  exact Nat.lt_irrefl _ (same ▸ bound imp known)

theorem free_detach (nodup : ((other :: rest).map Implementation.state).Nodup)
    (bound : other.state < system.states.length) (service : ServiceId) :
    other.state ∉ ((system.detach service other).2.1 :: rest).map Implementation.state ∧
      other.state < (system.detach service other).2.2.states.length := by
  constructor
  · rw [List.map_cons, List.mem_cons, not_or]
    exact ⟨Nat.ne_of_lt bound, (List.nodup_cons.mp nodup).1⟩
  · rw [states_detach]
    exact Nat.lt_of_lt_of_le bound (by simp [addState])

theorem books_construct (books : system.Books all) (held : 0 < system.references service) :
    (system.construct service).2.Books ((system.construct service).1 :: all) := by
  obtain ⟨found, present⟩ := service_of_references held
  have wider : system.addState.2.Books all :=
    books.of_registries (fun _ => rfl) (by simp [addState])
  have bound : system.states.length < system.addState.2.states.length := by simp [addState]
  exact wider.register (show system.addState.2.service? service = some found from present)
    (fresh_of_bound books.bound) bound

theorem books_detach (books : system.Books (other :: rest)) :
    (system.detach other.owner other).2.2.Books
      ((system.detach other.owner other).2.1 :: rest) := by
  have wider : system.addState.2.Books (other :: rest) :=
    books.of_registries (fun _ => rfl) (by simp [addState])
  have fresh := fresh_of_bound (List.forall_mem_cons.mp books.bound).2
  have bound : system.states.length < system.addState.2.states.length := by simp [addState]
  have rebound := wider.rebind fresh bound
  simp only [detach, if_true]
  exact rebound

theorem references_detach (system : System Handler) (service : ServiceId) (imp : Implementation)
    (other : ServiceId) :
    (system.detach service imp).2.2.references other = system.references other := by
  simp only [detach]
  split
  next => exact references_updateService _ service _ (by intro found; rfl) other
  next => rfl

theorem references_construct (system : System Handler) (service other : ServiceId) :
    (system.construct service).2.references other = system.references other :=
  references_register _ service _ other

theorem references_moveConstruct (system : System Handler) (service otherService : ServiceId)
    (imp : Implementation) (other : ServiceId) :
    (system.moveConstruct service otherService imp).2.2.references other =
      system.references other :=
  (references_register _ service _ other).trans (system.references_detach otherService imp other)

theorem references_moveAssign (system : System Handler) (service : ServiceId)
    (imp : Implementation) (otherService : ServiceId) (source : Implementation)
    (other : ServiceId) :
    (system.moveAssign service imp otherService source).2.2.references other =
      system.references other := by
  have begun := (system.closeState imp.state).2.references_detach otherService source other
  simp only [moveAssign]
  split
  next => exact (references_updateService _ service _ (by intro found; rfl) other).trans begun
  next =>
    exact (references_register _ otherService _ other).trans
      ((references_unlist _ service imp other).trans begun)

theorem books_moveConstruct (books : system.Books (other :: rest))
    (held : 0 < system.references service) :
    (system.moveConstruct service other.owner other).2.2.Books
      ((system.moveConstruct service other.owner other).1 ::
        (system.moveConstruct service other.owner other).2.1 :: rest) := by
  have free := free_detach books.nodup (books.bound other List.mem_cons_self) other.owner
  rw [← system.references_detach other.owner other service] at held
  obtain ⟨found, present⟩ := service_of_references held
  exact (books_detach books).register present free.1 free.2

theorem books_closeState (books : system.Books all) (closed : StateId) :
    (system.closeState closed).2.Books all :=
  books.of_registries (fun _ => rfl) (Nat.le_of_eq (length_closeState system closed).symm)

theorem books_moveAssign (books : system.Books (imp :: other :: rest))
    (held : 0 < system.references other.owner) :
    (system.moveAssign imp.owner imp other.owner other).2.2.Books
      ((system.moveAssign imp.owner imp other.owner other).1 ::
        (system.moveAssign imp.owner imp other.owner other).2.1 :: rest) := by
  have closed := (books_closeState books imp.state).perm (.swap other imp rest)
  have free := free_detach closed.nodup (closed.bound other List.mem_cons_self) other.owner
  have detached := (books_detach closed).perm (.swap imp _ rest)
  have unshared : other.state ∉ (((system.closeState imp.state).2.detach other.owner other).2.1 ::
      rest).map Implementation.state := by
    simp only [List.map_cons, List.mem_cons, not_or] at free ⊢
    exact ⟨free.1.1, free.1.2.2⟩
  simp only [moveAssign]
  split
  next => exact detached.rebind unshared free.2
  next =>
    simp only [if_true]
    let apart := ((system.closeState imp.state).2.detach other.owner other).2.2
    have referenced : 0 < (apart.updateRegistry imp.owner fun registry =>
        registry.remove imp.key).references other.owner := by
      have kept := apart.references_updateService imp.owner
        (fun found => { found with registry := found.registry.remove imp.key })
        (by intro found; rfl) other.owner
      calc
        0 < system.references other.owner := held
        _ = apart.references other.owner :=
          ((system.closeState imp.state).2.references_detach other.owner other other.owner).symm
        _ = _ := kept.symm
    obtain ⟨found, present⟩ := service_of_references referenced
    exact detached.unbind.register present unshared free.2

theorem books_destroy (books : system.Books (imp :: rest)) :
    (system.destroy imp.owner imp).Books rest := by
  have unbound := (books_closeState books imp.state).unbind
  simp only [destroy, if_true]
  exact unbound

theorem services_closeStates (system : System Handler) (states : List StateId) :
    (system.closeStates states).services = system.services := by
  induction states generalizing system with
  | nil => rfl
  | cons first rest ih => exact ih (system.closeState first).2

theorem view_shutdown {View : Type} {view : Service Handler → View} (system : System Handler)
    (service : ServiceId)
    (same : ∀ found shutDown pool, view { found with shutDown, pool } = view found)
    (other : ServiceId) :
    ((system.shutdown service).service? other).map view = (system.service? other).map view := by
  simp only [shutdown]
  split
  next => rfl
  next =>
    let closed := (system.markShutDown service).closeAll service
    calc
      ((closed.updatePool service Pool.close).service? other).map view =
          (closed.service? other).map view :=
        closed.view_updateService service _ (fun found => same found found.shutDown _) other
      _ = ((system.markShutDown service).service? other).map view := by
        simp only [service?, closed, closeAll, services_closeStates]
      _ = (system.service? other).map view :=
        system.view_updateService service _ (fun found => same found true found.pool) other

theorem view_dropReference {View : Type} {view : Service Handler → View} (system : System Handler)
    (service : ServiceId)
    (same : ∀ found shutDown pool, view { found with shutDown, pool } = view found)
    (other : ServiceId) :
    ((system.dropReference service).service? other).map view =
      ((system.giveUp service).service? other).map view := by
  cases system.dropped_dropReference service with
  | unknown absent gone => rw [gone]
  | referenced left gone => rw [gone]
  | closed last down gone =>
    rw [gone]
    simp only [service?, closeAll, services_closeStates]
  | shutDown last on gone =>
    rw [gone]
    exact (system.giveUp service).view_shutdown service same other

theorem registryOf_shutdown (system : System Handler) (service other : ServiceId) :
    (system.shutdown service).registryOf other = system.registryOf other := by
  simp only [registryOf]
  rw [system.view_shutdown service fun _ _ _ => rfl]

theorem references_shutdown (system : System Handler) (service other : ServiceId) :
    (system.shutdown service).references other = system.references other := by
  simp only [references]
  rw [system.view_shutdown service fun _ _ _ => rfl]

theorem registryOf_dropReference (system : System Handler) (service other : ServiceId) :
    (system.dropReference service).registryOf other = system.registryOf other := by
  have gaveUp := system.registryOf_updateService service
    (fun found => { found with references := found.references - 1 }) (by intro found; rfl) other
  simp only [registryOf] at gaveUp ⊢
  rw [system.view_dropReference service fun _ _ _ => rfl]
  exact gaveUp

theorem references_dropReference (system : System Handler) (service other : ServiceId) :
    (system.dropReference service).references other =
      if other = service then system.references other - 1 else system.references other := by
  simp only [references]
  rw [system.view_dropReference service fun _ _ _ => rfl]
  by_cases same : other = service
  · subst same
    rw [if_pos rfl, service_giveUp]
    cases system.service? other <;> rfl
  · simp [giveUp, service?, updateService, same, Ne.symm same]

theorem references_le_retain (system : System Handler) (service other : ServiceId) :
    system.references other ≤ (system.retain service).references other := by
  by_cases same : service = other
  · subst same
    cases present : system.services[service]? with
    | none => simp [references, service?, present]
    | some found => simp [references, retain, service?, updateService, present]
  · simp [references, retain, service?, updateService, same]

theorem registryOf_retain (system : System Handler) (service other : ServiceId) :
    (system.retain service).registryOf other = system.registryOf other :=
  system.registryOf_updateService service _ (by intro found; rfl) other

end AsyncFiles.System
