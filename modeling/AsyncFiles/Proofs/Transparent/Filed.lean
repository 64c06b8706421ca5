import AsyncFiles.Proofs.Bystanders.Spared
import AsyncFiles.Proofs.Transparent.Exchange

/-!
What a registry lists is a state that there is, also where the entry is another's. So a service that
ends closes no state that is added later, and a new file in another service comes to the same before
and after.
-/
namespace AsyncFiles

open Access Error Host

namespace Registry

variable {count : Nat} {registry : Registry StateId} {state : StateId}

def Below (count : Nat) (registry : Registry StateId) : Prop :=
  ∀ state ∈ registry.values, state < count

theorem Below.set (below : registry.Below count) {index : Nat} {slot : Slot StateId}
    (filled : ∀ state, slot.value = some state → state < count) (vacant : List Nat) :
    Below count { slots := registry.slots.set index slot, vacant } := by
  intro state member
  simp only [values_eq, List.mem_filterMap] at member
  obtain ⟨found, located, same⟩ := member
  rcases List.mem_or_eq_of_mem_set located with before | rfl
  · refine below state ?_
    rw [values_eq, List.mem_filterMap]
    exact ⟨found, before, same⟩
  · exact filled state same

theorem Below.fill (below : registry.Below count) (bound : state < count) (index version : Nat)
    (vacant : List Nat) :
    Below count { slots := registry.slots.set index ⟨version, some state⟩, vacant } := by
  refine below.set ?_ vacant
  rintro _ ⟨⟩
  exact bound

theorem Below.insert (below : registry.Below count) (bound : state < count) :
    (registry.insert state).2.Below count := by
  simp only [Registry.insert]
  split
  next =>
    intro listed member
    simp only [values_eq, List.filterMap_append, List.mem_append] at member
    rcases member with before | new
    · exact below listed (registry.values_eq ▸ before)
    · obtain rfl : listed = state := by simpa using new
      exact bound
  next => exact below.fill bound _ _ _

theorem Below.replace (below : registry.Below count) (bound : state < count) (key : RegistryKey) :
    (registry.replace key state).Below count := by
  simp only [Registry.replace]
  split
  next => exact below
  next => exact below.fill bound _ _ _

theorem Below.remove (below : registry.Below count) (key : RegistryKey) :
    (registry.remove key).Below count := by
  simp only [Registry.remove]
  split
  next => exact below
  next => exact below.set (by simp) _

end Registry

namespace System

variable {Handler : Type} {system later : System Handler} {service : ServiceId} {state : StateId}

def Filed (system : System Handler) : Prop :=
  ∀ service, (system.registryOf service).Below system.states.length

section

variable (filed : system.Filed)
include filed

theorem Filed.of_registries
    (registries : ∀ service, later.registryOf service = system.registryOf service)
    (grown : system.states.length ≤ later.states.length) : later.Filed := by
  intro service state member
  rw [registries] at member
  exact Nat.lt_of_lt_of_le (filed service state member) grown

theorem Filed.addState : system.addState.2.Filed :=
  filed.of_registries (fun _ => rfl) (by simp [System.addState])

theorem Filed.closeState (closed : StateId) : (system.closeState closed).2.Filed :=
  filed.of_registries (fun _ => rfl) (Nat.le_of_eq (system.length_closeState closed).symm)

theorem Filed.replace (bound : state < system.states.length) (service : ServiceId)
    (key : RegistryKey) :
    (system.updateRegistry service fun registry => registry.replace key state).Filed :=
  forall_updateRegistry filed (fun _ below => below.replace bound key) service

theorem Filed.unlist (service : ServiceId) (imp : Implementation) :
    (system.unlist service imp).Filed := by
  simp only [System.unlist]
  split
  next => exact forall_updateRegistry filed (fun _ below => below.remove imp.key) service
  next => exact filed

theorem Filed.register (bound : state < system.states.length) (service : ServiceId) :
    (system.register service state).2.Filed := by
  simp only [System.register]
  cases present : system.service? service with
  | none => exact filed
  | some found =>
    have home : system.registryOf service = found.registry := by simp [registryOf, present]
    have own := filed service
    rw [home] at own
    exact forall_updateRegistry filed (fun _ _ => own.insert bound) service

theorem Filed.detach (service : ServiceId) (imp : Implementation) :
    (system.detach service imp).2.2.Filed := by
  simp only [System.detach]
  split
  next => exact filed.addState.replace (by simp [System.addState]) service imp.key
  next => exact filed.addState

theorem Filed.construct (service : ServiceId) : (system.construct service).2.Filed :=
  filed.addState.register (by simp [System.addState]) service

theorem Filed.moveConstruct {source : Implementation}
    (bound : source.state < system.states.length) (service otherService : ServiceId) :
    (system.moveConstruct service otherService source).2.2.Filed := by
  refine (filed.detach otherService source).register ?_ service
  rw [states_detach]
  exact Nat.lt_of_lt_of_le bound (by simp [System.addState])

theorem Filed.moveAssign {source : Implementation} (bound : source.state < system.states.length)
    (service : ServiceId) (imp : Implementation) (otherService : ServiceId) :
    (system.moveAssign service imp otherService source).2.2.Filed := by
  let closed := (system.closeState imp.state).2
  have detached := (filed.closeState imp.state).detach otherService source
  have wider : source.state < (closed.detach otherService source).2.2.states.length := by
    rw [states_detach]
    refine Nat.lt_of_lt_of_le bound ?_
    simp [closed, System.addState, length_closeState]
  simp only [System.moveAssign]
  split
  next => exact detached.replace wider service imp.key
  next =>
    refine (detached.unlist service imp).register ?_ otherService
    rwa [states_unlist]

theorem Filed.destroy (service : ServiceId) (imp : Implementation) :
    (system.destroy service imp).Filed := (filed.closeState imp.state).unlist service imp

end

end System

namespace Program

variable {program : Program}

theorem filed_onImplementation (filed : program.system.Filed) (grounded : program.Grounded)
    {act : ImplementationAct} (allowed : program.allows (.implementation act) = true) :
    (program.onImplementation act).system.Filed := by
  cases act with
  | construct service => exact filed.construct service
  | moveConstruct service otherService source =>
    simp only [allows, Bool.and_eq_true, List.contains_iff_mem] at allowed
    have bound := grounded source (mem_live.mpr (.inl allowed.2))
    exact filed.moveConstruct bound service otherService
  | moveAssign service imp otherService source =>
    simp only [allows, Bool.and_eq_true, List.contains_iff_mem] at allowed
    have bound := grounded source (mem_live.mpr (.inl (List.mem_of_mem_erase allowed.2)))
    exact filed.moveAssign bound service imp otherService
  | destroy service imp => exact filed.destroy service imp
  | forget imp => exact filed
  | call service imp call =>
    have steady := program.steady_onCall service imp call
    exact filed.of_registries steady.registries steady.grown

theorem filed_onNew (filed : program.system.Filed) (service : ServiceId) :
    (program.onFile (.new service)).system.Filed :=
  (filed.construct service).of_registries (System.registryOf_retain _ service) (Nat.le_refl _)

theorem filed_onDrop (filed : program.system.Filed) (file : File) :
    (program.onFile (.drop file)).system.Filed := by
  let rest := program.system.destroy file.service file.implementation
  exact (filed.destroy file.service file.implementation).of_registries
    (rest.registryOf_dropReference file.service)
    (rest.destroyed_dropReference file.service 0).grown

theorem filed_onFile (filed : program.system.Filed) (grounded : program.Grounded)
    {act : FileAct} (allowed : program.allows (.file act) = true) :
    (program.onFile act).system.Filed := by
  cases act with
  | new service => exact filed_onNew filed service
  | openNew service path args =>
    have steady := program.steady_opening service path args
    have opened := (filed_onNew filed service).of_registries steady.registries steady.grown
    rcases program.onFile_openNew service path args with same | same
    · exact same ▸ opened
    · exact same ▸ filed_onDrop opened _
  | take file =>
    simp only [allows, List.contains_iff_mem] at allowed
    have bound := grounded file.implementation (mem_live.mpr (.inr ⟨file, allowed, rfl⟩))
    exact (filed.moveConstruct bound file.service file.service).of_registries
      (System.registryOf_retain _ file.service) (Nat.le_refl _)
  | moveFrom file source =>
    simp only [allows, Bool.and_eq_true, List.contains_iff_mem] at allowed
    have bound := grounded source.implementation
      (mem_live.mpr (.inr ⟨source, List.mem_of_mem_erase allowed.2, rfl⟩))
    exact (filed.moveAssign bound file.service file.implementation source.service).of_registries
      (registryOf_moveFrom file source program.system) (grown_moveFrom file source program.system)
  | drop file => exact filed_onDrop filed file

theorem filed_perform (filed : program.system.Filed) (grounded : program.Grounded) {act : Act}
    (allowed : program.allows act = true) : (program.perform act).system.Filed := by
  cases act with
  | implementation act => exact filed_onImplementation filed grounded allowed
  | file act => exact filed_onFile filed grounded allowed
  | _ =>
    have steady := steady_perform allowed rfl
    exact filed.of_registries steady.registries steady.grown

theorem filed_run (host : Host) (acts : List Act) : ((fresh host).run acts).system.Filed := by
  have kept (program : Program) (act : Act) (both : program.system.Filed ∧ program.Grounded)
      (allowed : program.allows act = true) :
      (program.perform act).system.Filed ∧ (program.perform act).Grounded :=
    ⟨filed_perform both.1 both.2 allowed, both.2.perform allowed⟩
  have first : (fresh host).system.Filed ∧ (fresh host).Grounded := by
    refine ⟨?_, Grounded.run host []⟩
    simp [System.Filed, Registry.Below, fresh, System.registryOf, System.service?,
      Registry.values, Registry.entries]
  exact (run_keeps kept first acts).1

end Program

namespace System

variable {Handler : Type} {system : System Handler} {service other : ServiceId} {state : StateId}

theorem closeState_addState (bound : state < system.states.length) :
    system.addState.2.closeState state =
      ((system.closeState state).1, (system.closeState state).2.addState.2) := by
  have same := system.state_addState state
  have modified (change : FileState → FileState) :
      (system.states ++ [({} : FileState)]).modify state change =
        system.states.modify state change ++ [({} : FileState)] := by
    apply List.ext_getElem?
    grind
  simp only [closeState, releaseState, same]
  simp only [addState, updateState, modified]
  rfl

theorem length_closeStates (system : System Handler) (states : List StateId) :
    (system.closeStates states).states.length = system.states.length := by
  induction states generalizing system with
  | nil => rfl
  | cons first rest ih =>
    exact (ih (system.closeState first).2).trans (system.length_closeState first)

theorem closeStates_addState {states : List StateId}
    (bound : ∀ state ∈ states, state < system.states.length) :
    system.addState.2.closeStates states = (system.closeStates states).addState.2 := by
  induction states generalizing system with
  | nil => rfl
  | cons first rest ih =>
    rw [List.forall_mem_cons] at bound
    have rests := @ih (system.closeState first).2
    rw [length_closeState] at rests
    calc
      system.addState.2.closeStates (first :: rest) =
          (system.closeState first).2.addState.2.closeStates rest := by
        rw [closeStates, List.foldl_cons, closeState_addState bound.1]
        rfl
      _ = (system.closeStates (first :: rest)).addState.2 := rests bound.2

theorem length_shutdown (system : System Handler) (service : ServiceId) :
    (system.shutdown service).states.length = system.states.length := by
  simp only [shutdown]
  split
  next => rfl
  next => exact (system.markShutDown service).length_closeStates _

theorem length_dropReference (system : System Handler) (service : ServiceId) :
    (system.dropReference service).states.length = system.states.length := by
  cases system.dropped_dropReference service with
  | unknown absent same | referenced left same => exact congrArg (fun x => x.states.length) same
  | closed last down same =>
    rw [same]
    exact (system.giveUp service).length_closeStates _
  | shutDown last on same =>
    rw [same]
    exact (system.giveUp service).length_shutdown service

section

variable (filed : system.Filed) (service : ServiceId)
include filed

theorem Filed.closeAll_addState :
    system.addState.2.closeAll service = (system.closeAll service).addState.2 := by
  refine closeStates_addState fun state member => ?_
  rw [registered_eq] at member
  exact filed service state member

theorem Filed.shutdown_addState :
    system.addState.2.shutdown service = (system.shutdown service).addState.2 := by
  have alike : system.addState.2.isShutDown service = system.isShutDown service := rfl
  have marked : (system.markShutDown service).Filed :=
    filed.of_registries (system.registryOf_updateService service _ (by intro found; rfl))
      (Nat.le_refl _)
  simp only [shutdown, alike]
  by_cases down : system.isShutDown service = true
  · simp only [down, if_true]
  · simp only [down]
    exact congrArg (fun closed => System.updatePool closed service Pool.close)
      (marked.closeAll_addState service)

theorem Filed.dropReference_addState :
    system.addState.2.dropReference service = (system.dropReference service).addState.2 := by
  have lowered : (system.giveUp service).Filed :=
    filed.of_registries (system.registryOf_updateService service _ (by intro found; rfl))
      (Nat.le_refl _)
  have closed := lowered.closeAll_addState service
  have ended := lowered.shutdown_addState service
  have same : system.addState.2.updateService service (fun found =>
    { found with references := found.references - 1 }) = (system.giveUp service).addState.2 := rfl
  have also : system.updateService service (fun found =>
    { found with references := found.references - 1 }) = system.giveUp service := rfl
  have known : (system.giveUp service).addState.2.service? service =
    (system.giveUp service).service? service := rfl
  simp only [dropReference, same, also, known, closed, ended]
  cases (system.giveUp service).service? service with
  | none => rfl
  | some found =>
    dsimp only
    split
    next => rfl
    next => split <;> rfl

end

end System

end AsyncFiles
