import AsyncFiles.Proofs.Transparent.Filed
import AsyncFiles.Proofs.Transparent.Traded

/-!
Moves between file objects. The object that is moved into gives its own service up and takes over
that of the other; within one service it keeps its reference. Beside it stands a program that drops
the object and makes a new one in the service of the other.
-/
namespace AsyncFiles

open Access Error Host

namespace System

variable {Handler : Type} {system : System Handler} {service other : ServiceId}

theorem relist_giveUp (system : System Handler) (service : ServiceId)
    (registry : Registry StateId) : (system.relist service registry).giveUp service =
      (system.giveUp service).relist service registry :=
  relist_updateService service (by intro found; rfl)

theorem retain_giveUp (used : 0 < system.references service) :
    (system.giveUp service).retain service = system := by
  obtain ⟨found, present⟩ := service_of_references used
  have counted : system.references service = found.references := by simp [references, present]
  rw [counted] at used
  rw [service?] at present
  have same : (system.services.modify service (fun found =>
      { found with references := found.references - 1 })).modify service (fun found =>
        { found with references := found.references + 1 }) = system.services := by
    apply List.ext_getElem?
    intro index
    by_cases here : service = index
    · subst here
      simp [present, Nat.sub_add_cancel used]
    · simp [here]
  simp only [retain, giveUp, updateService, same]

theorem new_giveUp (used : 0 < system.references service) :
    File.new service (system.giveUp service) =
      (⟨service, (system.construct service).1⟩, (system.construct service).2) := by
  obtain ⟨found, present⟩ := service_of_references used
  have known := (system.service_giveUp service).trans (congrArg (Option.map _) present)
  have home : (system.giveUp service).registryOf service = system.registryOf service :=
    system.registryOf_updateService service _ (by intro found; rfl) service
  have constructed : (system.giveUp service).construct service =
      ((system.construct service).1, (system.construct service).2.giveUp service) := by
    rw [construct_eq known, construct_eq present, home]
    exact congrArg (Prod.mk _) (system.addState.2.relist_giveUp service _).symm
  simp only [File.new, constructed]
  rw [retain_giveUp (by rwa [references_construct])]

section

variable (apart : other ≠ service)
include apart

theorem registryOf_destroy_other (imp : Implementation) :
    (system.destroy other imp).registryOf service = system.registryOf service := by
  have closed : (system.closeState imp.state).2.service? service = system.service? service := rfl
  rw [destroy_eq, unlist, registryOf, registryOf]
  split
  next => rw [updateRegistry, service_updateService_other (Ne.symm apart), closed]
  next => rw [closed]

theorem new_dropReference (filed : system.Filed) (used : 0 < system.references service) :
    File.new service (system.dropReference other) =
      ((File.new service system).1, (File.new service system).2.dropReference other) := by
  have still : 0 < (system.dropReference other).references service := by
    rwa [references_dropReference, if_neg (Ne.symm apart)]
  obtain ⟨found, present⟩ := service_of_references used
  obtain ⟨_, known⟩ := service_of_references still
  have relisted (registry : Registry StateId) :
      (system.addState.2.relist service registry).dropReference other =
        (system.dropReference other).addState.2.relist service registry := by
    rw [← filed.dropReference_addState other]
    exact dropReference_updateService_other apart _
  have constructed : (system.dropReference other).construct service =
      ((system.construct service).1, (system.construct service).2.dropReference other) := by
    rw [construct_eq known, construct_eq present, registryOf_dropReference, length_dropReference,
      relisted]
  have retained : ((system.construct service).2.retain service).dropReference other =
      ((system.construct service).2.dropReference other).retain service :=
    dropReference_updateService_other apart _
  simp only [File.new, constructed, retained]

theorem detach_unlist (target source : Implementation) :
    (system.unlist other target).detach service source =
      ((system.detach service source).1, (system.detach service source).2.1,
        (system.detach service source).2.2.unlist other target) := by
  simp only [detach, unlist]
  by_cases own : target.owner = other
  · simp only [own, if_true]
    split
    next =>
      have swapped := @updateService_comm Handler system.addState.2 other service (Ne.symm apart)
      exact congrArg (Prod.mk _) (congrArg (Prod.mk _) (swapped _ _))
    next => rfl
  · simp only [own, if_false]

theorem moveAssign_across (target source : Implementation) :
    system.moveAssign other target service source =
      (system.destroy other target).moveConstruct service service source := by
  rw [moveAssign_eq, takeOver, destroy_eq, moveConstruct, detach_unlist apart]
  exact if_neg apart

end

end System

namespace Exchange

variable {Handler : Type} {system : System Handler} {file source : File}

/-- The move has traded two slots with what stands beside it; but the host may have been asked for
the same in another order, where the service of the object ends. -/
def Hands (exchange : Exchange) (file source : File) (system : System Handler) : Prop :=
  ∃ next, exchange.Trades source.implementation
      (File.new source.service (file.drop system)).1.implementation
      (file.moveFrom source system).1.implementation
      (file.moveFrom source system).2.1.implementation (file.moveFrom source system).2.2 next ∧
    next.Reordered (File.new source.service (file.drop system)).2

theorem hands_within {rest : List Implementation}
    (keyed : system.Keyed (file.implementation :: source.implementation :: rest))
    (home : file.implementation.owner = file.service)
    (otherHome : source.implementation.owner = source.service)
    (within : file.service = source.service) (used : 1 < system.references file.service)
    (listed : system.find? source.implementation.address = some source.implementation.state) :
    ∃ exchange : Exchange, exchange.service = source.service ∧
      exchange.Hands file source system := by
  obtain ⟨service, target⟩ := file
  obtain ⟨_, source⟩ := source
  obtain rfl : service = _ := within
  obtain rfl : source.owner = service := otherHome
  obtain ⟨exchange, service, trades⟩ := trades_moveAssign keyed home listed
  let destroyed := system.destroy source.owner target
  have held : 1 < destroyed.references source.owner :=
    Nat.lt_of_lt_of_eq used (system.references_destroy source.owner target source.owner).symm
  have dropped : File.drop ⟨source.owner, target⟩ system = destroyed.giveUp source.owner :=
    System.dropReference_of_held held
  have new : File.new source.owner (File.drop ⟨source.owner, target⟩ system) =
      (⟨source.owner, (destroyed.construct source.owner).1⟩,
        (destroyed.construct source.owner).2) := by
    rw [dropped]
    exact System.new_giveUp (Nat.lt_of_succ_lt held)
  have moved := File.moveFrom_within ⟨source.owner, target⟩ ⟨source.owner, source⟩ rfl system
  refine ⟨exchange, service, (destroyed.construct source.owner).2, ?_, ?_⟩
  · rw [moved, new]
    exact trades
  · rw [new]
    exact .refl _

/-- The end of the object's own service comes after the move, where without it the new object comes
after that. -/
theorem hands_across (filed : system.Filed)
    (wellFormed : (system.registryOf source.service).WellFormed)
    (home : source.implementation.owner = source.service)
    (across : file.service ≠ source.service) (used : 0 < system.references source.service)
    (listed : system.find? source.implementation.address = some source.implementation.state) :
    ∃ exchange : Exchange, exchange.service = source.service ∧
      exchange.Hands file source system := by
  obtain ⟨service, source⟩ := source
  obtain rfl : source.owner = service := home
  let destroyed := system.destroy file.service file.implementation
  have same : destroyed.registryOf source.owner = system.registryOf source.owner :=
    System.registryOf_destroy_other across file.implementation
  have found : destroyed.find? source.address = some source.state :=
    (congrArg (Registry.get? · source.key) same).trans listed
  obtain ⟨exchange, service, trades⟩ := trades_moveConstruct (same ▸ wellFormed) found
  obtain ⟨next, twins, reordered⟩ :=
    (trades.twins.retain source.owner).dropReference file.service
  have still : 0 < destroyed.references source.owner :=
    Nat.lt_of_lt_of_eq used
      (system.references_destroy file.service file.implementation source.owner).symm
  have new : File.new source.owner (file.drop system) =
      ((File.new source.owner destroyed).1,
        (File.new source.owner destroyed).2.dropReference file.service) :=
    System.new_dropReference across (filed.destroy file.service file.implementation) still
  have moved : file.moveFrom ⟨source.owner, source⟩ system =
      (⟨source.owner, (destroyed.moveConstruct source.owner source.owner source).1⟩,
        ⟨source.owner, (destroyed.moveConstruct source.owner source.owner source).2.1⟩,
        ((destroyed.moveConstruct source.owner source.owner source).2.2.retain
          source.owner).dropReference file.service) := by
    simp only [File.moveFrom, System.moveAssign_across across, if_neg across]
    rfl
  refine ⟨exchange, service, next, ?_, ?_⟩
  · rw [moved, new]
    exact { trades with twins }
  · rw [new]
    exact reordered

end Exchange

end AsyncFiles
