import AsyncFiles.Proofs.Descriptors.Books

/-!
What the registries hold when implementations are passed to any service, owner or not. A key means
something in one registry only. Still no two implementations are listed at one address, and each has
something there; what it is may be another's.
-/
namespace AsyncFiles

open Access Error Host

namespace Registry

variable {Value : Type} {registry : Registry Value}

theorem get?_replace_any (registry : Registry Value) (key : RegistryKey) (value : Value)
    (other : RegistryKey) :
    (registry.replace key value).get? other =
      if other = key then (registry.get? key).map fun _ => value else registry.get? other := by
  cases present : registry.get? key with
  | some before => exact get?_replace present value other
  | none =>
    simp only [replace, present]
    split
    next same => exact same ▸ present
    next => rfl

theorem get?_remove_any (registry : Registry Value) (key other : RegistryKey) :
    (registry.remove key).get? other = if other = key then none else registry.get? other := by
  cases present : registry.get? key with
  | some before => exact get?_remove present other
  | none =>
    simp only [remove, present]
    split
    next same => exact same ▸ present
    next => rfl

end Registry

def Implementation.address (imp : Implementation) : ServiceId × RegistryKey := (imp.owner, imp.key)

namespace System

variable {Handler : Type} {system later : System Handler} {service otherService : ServiceId}
  {imp other bystander : Implementation} {all rest next : List Implementation} {state : StateId}

def find? (system : System Handler) (address : ServiceId × RegistryKey) : Option StateId :=
  (system.registryOf address.1).get? address.2

/-- Each implementation has an address and a state of its own, and something is at the address. -/
structure Keyed (system : System Handler) (all : List Implementation) : Prop where
  wellFormed : ∀ service, (system.registryOf service).WellFormed
  filled : ∀ imp ∈ all, (system.find? imp.address).isSome = true
  apart : (all.map Implementation.address).Nodup
  nodup : (all.map Implementation.state).Nodup
  bound : ∀ imp ∈ all, imp.state < system.states.length

theorem length_services_detach (system : System Handler) (service : ServiceId)
    (imp : Implementation) :
    (system.detach service imp).2.2.services.length = system.services.length := by
  simp only [detach]
  split
  next => exact List.length_modify ..
  next => rfl

theorem length_services_register (system : System Handler) (service : ServiceId)
    (state : StateId) :
    (system.register service state).2.services.length = system.services.length := by
  simp only [register]
  split
  next => rfl
  next => exact List.length_modify ..

theorem length_services_unlist (system : System Handler) (service : ServiceId)
    (imp : Implementation) :
    (system.unlist service imp).services.length = system.services.length := by
  simp only [unlist]
  split
  next => exact List.length_modify ..
  next => rfl

theorem find?_of_registries
    (registries : ∀ service, later.registryOf service = system.registryOf service)
    (address : ServiceId × RegistryKey) : later.find? address = system.find? address := by
  simp only [find?, registries]

theorem mem_registered_of_find? {address : ServiceId × RegistryKey}
    (found : system.find? address = some state) : state ∈ system.registered address.1 := by
  rw [registered_eq, Registry.mem_values]
  exact ⟨address.2, found⟩

theorem find?_updateRegistry {change : Registry StateId → Registry StateId} {key : RegistryKey}
    {value : Option StateId → Option StateId} (unused : value none = none)
    (changed : ∀ (registry : Registry StateId) other, (change registry).get? other =
      if other = key then value (registry.get? key) else registry.get? other)
    (system : System Handler) (service : ServiceId) (address : ServiceId × RegistryKey) :
    (system.updateRegistry service change).find? address =
      if address = (service, key) then value (system.find? address) else system.find? address := by
  obtain ⟨owner, found⟩ := address
  simp only [find?, Prod.mk.injEq]
  cases present : system.service? service with
  | none =>
    rw [registryOf_updateRegistry_absent present]
    split
    next here =>
      have nothing : (system.registryOf owner).get? found = none := by
        simp [registryOf, here.1, present, Registry.get?_empty]
      rw [nothing, unused]
    next => rfl
  | some _ =>
    rw [registryOf_updateRegistry present]
    by_cases here : owner = service
    · subst here
      rw [if_pos rfl, changed]
      by_cases same : found = key
      · simp [same]
      · simp [same]
    · simp [here]

theorem find?_replace (system : System Handler) (service : ServiceId) (key : RegistryKey)
    (value : StateId) (address : ServiceId × RegistryKey) :
    (system.updateRegistry service fun registry => registry.replace key value).find? address =
      if address = (service, key) then (system.find? address).map fun _ => value
      else system.find? address :=
  find?_updateRegistry rfl (fun registry other => registry.get?_replace_any key value other) system
    service address

theorem find?_remove (system : System Handler) (service : ServiceId) (key : RegistryKey)
    (address : ServiceId × RegistryKey) :
    (system.updateRegistry service fun registry => registry.remove key).find? address =
      if address = (service, key) then none else system.find? address := by
  let nothing : Option StateId → Option StateId := fun _ => none
  have unused : nothing none = none := rfl
  exact find?_updateRegistry unused (fun registry other => registry.get?_remove_any key other)
    system service address

theorem find?_register {found : Service Handler} (present : system.service? service = some found)
    (wellFormed : (system.registryOf service).WellFormed) (state : StateId) :
    system.find? (service, (system.register service state).1) = none ∧
      ∀ address, (system.register service state).2.find? address =
        if address = (service, (system.register service state).1) then some state
        else system.find? address := by
  have home : system.registryOf service = found.registry := by simp [registryOf, present]
  rw [home] at wellFormed
  obtain ⟨unused, finds⟩ := wellFormed.get?_insert state
  have changed := registryOf_updateRegistry present fun _ => (found.registry.insert state).2
  simp only [System.register, present, find?, home]
  refine ⟨unused, ?_⟩
  rintro ⟨owner, key⟩
  rw [changed]
  by_cases here : owner = service
  · subst here
    simp only [if_true, finds, home, Prod.mk.injEq, true_and]
  · simp [here]

theorem find?_detach (system : System Handler) (service : ServiceId) (imp : Implementation)
    (address : ServiceId × RegistryKey) :
    (system.detach service imp).2.2.find? address =
      if imp.owner = service ∧ address = imp.address then
        (system.find? address).map fun _ => system.states.length
      else system.find? address := by
  simp only [detach]
  by_cases own : imp.owner = service
  · rw [if_pos own, find?_replace, ← own]
    simp only [true_and]
    rfl
  · simp only [own, if_false, false_and]
    rfl

section

variable (keyed : system.Keyed all)
include keyed

theorem Keyed.perm (same : all.Perm next) : system.Keyed next where
  wellFormed := keyed.wellFormed
  filled imp member := keyed.filled imp (same.mem_iff.mpr member)
  apart := (same.map Implementation.address).nodup_iff.mp keyed.apart
  nodup := (same.map Implementation.state).nodup_iff.mp keyed.nodup
  bound imp member := keyed.bound imp (same.mem_iff.mpr member)

theorem Keyed.of_registries
    (registries : ∀ service, later.registryOf service = system.registryOf service)
    (grown : system.states.length ≤ later.states.length) : later.Keyed all where
  wellFormed service := by
    rw [registries]
    exact keyed.wellFormed service
  filled imp member := by
    rw [find?_of_registries registries]
    exact keyed.filled imp member
  apart := keyed.apart
  nodup := keyed.nodup
  bound imp member := Nat.lt_of_lt_of_le (keyed.bound imp member) grown

theorem Keyed.replace (service : ServiceId) (key : RegistryKey) (value : StateId) :
    (system.updateRegistry service fun registry => registry.replace key value).Keyed all where
  wellFormed := forall_updateRegistry keyed.wellFormed
    (fun _ wellFormed => wellFormed.replace key value) service
  filled imp member := by
    rw [find?_replace]
    split
    next => simpa using keyed.filled imp member
    next => exact keyed.filled imp member
  apart := keyed.apart
  nodup := keyed.nodup
  bound := keyed.bound

theorem Keyed.register (known : service < system.services.length)
    (fresh : state ∉ all.map Implementation.state) (bound : state < system.states.length) :
    (system.register service state).2.Keyed
      ({ key := (system.register service state).1, owner := service, state } :: all) := by
  obtain ⟨found, present⟩ := service_of_length known
  obtain ⟨unused, finds⟩ := find?_register present (keyed.wellFormed service) state
  have elsewhere (imp : Implementation) (member : imp ∈ all) :
      imp.address ≠ (service, (system.register service state).1) := by
    intro same
    have something := keyed.filled imp member
    rw [same, unused] at something
    cases something
  refine ⟨fun other => ?_, ?_, List.nodup_cons.mpr ⟨?_, keyed.apart⟩,
    List.nodup_cons.mpr ⟨fresh, keyed.nodup⟩, ?_⟩
  · have home : system.registryOf service = found.registry := by simp [registryOf, present]
    have wellFormed := keyed.wellFormed service
    rw [home] at wellFormed
    simp only [System.register, present]
    exact forall_updateRegistry keyed.wellFormed (fun _ _ => wellFormed.insert state) service
      other
  · intro imp member
    rw [finds]
    rcases List.mem_cons.mp member with rfl | known
    · exact congrArg Option.isSome (if_pos rfl)
    · rw [if_neg (elsewhere imp known)]
      exact keyed.filled imp known
  · intro listed
    obtain ⟨imp, member, same⟩ := List.mem_map.mp listed
    exact elsewhere imp member same
  · simp only [List.forall_mem_cons]
    refine ⟨?_, ?_⟩ <;> simp only [System.register, present]
    · exact bound
    · exact keyed.bound

end

section

variable (keyed : system.Keyed (imp :: rest))
include keyed

theorem Keyed.tail : system.Keyed rest where
  wellFormed := keyed.wellFormed
  filled other member := keyed.filled other (List.mem_cons_of_mem _ member)
  apart := (List.nodup_cons.mp keyed.apart).2
  nodup := (List.nodup_cons.mp keyed.nodup).2
  bound other member := keyed.bound other (List.mem_cons_of_mem _ member)

theorem Keyed.address_ne (member : bystander ∈ rest) : bystander.address ≠ imp.address := by
  intro same
  exact (List.nodup_cons.mp keyed.apart).1 (same ▸ List.mem_map_of_mem member)

theorem Keyed.restate (fresh : state ∉ rest.map Implementation.state)
    (bound : state < system.states.length) : system.Keyed ({ imp with state } :: rest) where
  wellFormed := keyed.wellFormed
  filled := by
    rw [List.forall_mem_cons]
    exact ⟨keyed.filled imp List.mem_cons_self, keyed.tail.filled⟩
  apart := keyed.apart
  nodup := List.nodup_cons.mpr ⟨fresh, keyed.tail.nodup⟩
  bound := List.forall_mem_cons.mpr ⟨bound, keyed.tail.bound⟩

theorem Keyed.remove :
    (system.updateRegistry imp.owner fun registry => registry.remove imp.key).Keyed rest where
  wellFormed := forall_updateRegistry keyed.wellFormed
    (fun _ wellFormed => wellFormed.remove imp.key) imp.owner
  filled other member := by
    have kept := system.find?_remove imp.owner imp.key other.address
    rw [kept.trans (if_neg (keyed.address_ne member))]
    exact keyed.tail.filled other member
  apart := keyed.tail.apart
  nodup := keyed.tail.nodup
  bound := keyed.tail.bound

theorem Keyed.unlist (service : ServiceId) : (system.unlist service imp).Keyed rest := by
  simp only [System.unlist]
  split
  next own =>
    subst own
    exact keyed.remove
  next => exact keyed.tail

theorem Keyed.kept_unlist (service : ServiceId) (member : bystander ∈ rest) :
    (system.unlist service imp).find? bystander.address = system.find? bystander.address := by
  simp only [System.unlist]
  split
  next own =>
    subst own
    rw [find?_remove]
    exact if_neg (keyed.address_ne member)
  next => rfl

theorem Keyed.detach (service : ServiceId) :
    (system.detach service imp).2.2.Keyed ((system.detach service imp).2.1 :: rest) := by
  have wider : system.addState.2.Keyed (imp :: rest) :=
    keyed.of_registries (fun _ => rfl) (by simp [addState])
  have restated := wider.restate (fresh_of_bound keyed.tail.bound)
    (show system.states.length < system.addState.2.states.length by simp [addState])
  simp only [System.detach]
  split
  next => exact restated.replace service imp.key system.states.length
  next => exact restated

theorem Keyed.kept_detach (service : ServiceId) (member : bystander ∈ rest) :
    (system.detach service imp).2.2.find? bystander.address =
      system.find? bystander.address := by
  rw [find?_detach]
  exact if_neg fun both => keyed.address_ne member both.2

end

theorem Keyed.kept_register (keyed : system.Keyed all) (known : service < system.services.length)
    (member : bystander ∈ all) (state : StateId) :
    (system.register service state).2.find? bystander.address =
      system.find? bystander.address := by
  obtain ⟨found, present⟩ := service_of_length known
  obtain ⟨unused, finds⟩ := find?_register present (keyed.wellFormed service) state
  rw [finds]
  apply if_neg
  intro same
  have something := keyed.filled bystander member
  rw [same, unused] at something
  cases something

theorem Keyed.construct (keyed : system.Keyed all) (known : service < system.services.length) :
    (system.construct service).2.Keyed ((system.construct service).1 :: all) ∧
      ∀ bystander ∈ all, (system.construct service).2.find? bystander.address =
        system.find? bystander.address := by
  have wider : system.addState.2.Keyed all :=
    keyed.of_registries (fun _ => rfl) (by simp [addState])
  have bound : system.states.length < system.addState.2.states.length := by simp [addState]
  have same : service < system.addState.2.services.length := known
  exact ⟨wider.register same (fresh_of_bound keyed.bound) bound,
    fun bystander member => wider.kept_register same member _⟩

theorem Keyed.moveConstruct (keyed : system.Keyed (other :: rest))
    (known : service < system.services.length) (otherService : ServiceId) :
    (system.moveConstruct service otherService other).2.2.Keyed
        ((system.moveConstruct service otherService other).1 ::
          (system.moveConstruct service otherService other).2.1 :: rest) ∧
      ∀ bystander ∈ rest,
        (system.moveConstruct service otherService other).2.2.find? bystander.address =
          system.find? bystander.address := by
  have free := free_detach keyed.nodup (keyed.bound other List.mem_cons_self) otherService
  have detached := keyed.detach otherService
  rw [← system.length_services_detach otherService other] at known
  refine ⟨detached.register known free.1 free.2, fun bystander member => ?_⟩
  calc
    _ = (system.detach otherService other).2.2.find? bystander.address :=
      detached.kept_register known (List.mem_cons_of_mem _ member) _
    _ = system.find? bystander.address := keyed.kept_detach otherService member

theorem Keyed.closeState (keyed : system.Keyed all) (closed : StateId) :
    (system.closeState closed).2.Keyed all :=
  keyed.of_registries (fun _ => rfl) (Nat.le_of_eq (length_closeState system closed).symm)

/-- Within one service the slot under the target's key is written whoever owns the target; across
services the target loses its slot only in a registry of its own. -/
theorem Keyed.moveAssign (keyed : system.Keyed (imp :: other :: rest))
    (known : otherService < system.services.length) (service : ServiceId) :
    (system.moveAssign service imp otherService other).2.2.Keyed
        ((system.moveAssign service imp otherService other).1 ::
          (system.moveAssign service imp otherService other).2.1 :: rest) ∧
      ∀ bystander ∈ rest,
        (system.moveAssign service imp otherService other).2.2.find? bystander.address =
          if service = otherService ∧ bystander.address = (service, imp.key) then
            (system.find? bystander.address).map fun _ => other.state
          else system.find? bystander.address := by
  let closed := (system.closeState imp.state).2
  have begun : closed.Keyed (other :: imp :: rest) :=
    (keyed.closeState imp.state).perm (.swap other imp rest)
  let apart := (closed.detach otherService other).2.2
  have detached : apart.Keyed (imp :: (closed.detach otherService other).2.1 :: rest) :=
    (begun.detach otherService).perm (.swap imp _ rest)
  have free := free_detach begun.nodup (begun.bound other List.mem_cons_self) otherService
  have unshared : other.state ∉
      ((closed.detach otherService other).2.1 :: rest).map Implementation.state := by
    simp only [List.map_cons, List.mem_cons, not_or] at free ⊢
    exact ⟨free.1.1, free.1.2.2⟩
  have kept (bystander : Implementation) (member : bystander ∈ rest) :
      apart.find? bystander.address = system.find? bystander.address :=
    begun.kept_detach otherService (List.mem_cons_of_mem _ member)
  simp only [System.moveAssign]
  by_cases same : service = otherService
  · simp only [same, if_true, true_and]
    refine ⟨(detached.restate unshared free.2).replace otherService imp.key _,
      fun bystander member => ?_⟩
    rw [find?_replace, kept bystander member]
    rfl
  · simp only [same, if_false, false_and]
    have there : otherService < (apart.unlist service imp).services.length := by
      rw [length_services_unlist, length_services_detach]
      exact known
    have unlisted := detached.unlist service
    refine ⟨unlisted.register there unshared ?_, fun bystander member => ?_⟩
    · exact Nat.lt_of_lt_of_eq free.2 (congrArg List.length (apart.states_unlist service imp)).symm
    · calc
        _ = (apart.unlist service imp).find? bystander.address :=
          unlisted.kept_register there (List.mem_cons_of_mem _ member) _
        _ = apart.find? bystander.address :=
          detached.kept_unlist service (List.mem_cons_of_mem _ member)
        _ = system.find? bystander.address := kept bystander member

theorem Keyed.destroy (keyed : system.Keyed (imp :: rest)) (service : ServiceId) :
    (system.destroy service imp).Keyed rest ∧
      ∀ bystander ∈ rest,
        (system.destroy service imp).find? bystander.address =
          system.find? bystander.address := by
  have closed := keyed.closeState imp.state
  exact ⟨closed.unlist service, fun bystander member => closed.kept_unlist service member⟩

end System

end AsyncFiles
