import AsyncFiles.Proofs.Steady

/-!
What does not look at a service goes the same way whatever becomes of that service, and whatever
implementations and files there are: opening, closing and cancelling, contexts and owners.
-/
namespace AsyncFiles

open Access Error Host

namespace System

variable {Handler : Type}

variable (system : System Handler) (service : ServiceId)
  (change : Service Handler → Service Handler)

theorem closeStates_updateService (states : List StateId) :
    (system.updateService service change).closeStates states =
      (system.closeStates states).updateService service change := by
  induction states generalizing system with
  | nil => rfl
  | cons first rest ih => exact ih (system.closeState first).2

theorem adopt_updateService (state : StateId) (handle : FileHandle) :
    (system.updateService service change).adopt? state handle =
      (system.adopt? state handle).map fun later => later.updateService service change := by
  simp only [adopt?, Option.map_map]
  rfl

variable (imp : Implementation)

theorem openFile_updateService (path : Path) (args : OpenArgs) :
    (system.updateService service change).openFile imp path args =
      ((system.openFile imp path args).1,
        (system.openFile imp path args).2.updateService service change) := by
  have onHost : (system.updateService service change).onHost (FileHandle.openPath path args) =
      ((system.onHost (FileHandle.openPath path args)).1,
        (system.onHost (FileHandle.openPath path args)).2.updateService service change) := rfl
  have held : (system.updateService service change).handleOf imp = system.handleOf imp := rfl
  simp only [openFile, openDuring, onHost, held]
  split
  next => rfl
  next =>
    rcases system.onHost (FileHandle.openPath path args) with ⟨error | handle, later⟩
    · rfl
    · simp only [adoptOpened, id, adopt_updateService]
      cases later.adopt? imp.state handle <;> rfl

theorem assign_updateService (handle : FileHandle) :
    (system.updateService service change).assign imp handle =
      ((system.assign imp handle).1,
        (system.assign imp handle).2.updateService service change) := by
  simp only [assign, adopt_updateService]
  cases system.adopt? imp.state handle <;> rfl

theorem cancel_updateService :
    (system.updateService service change).cancel imp =
      ((system.cancel imp).1, (system.cancel imp).2.updateService service change) := by
  have held : (system.updateService service change).handleOf imp = system.handleOf imp := rfl
  simp only [cancel, held]
  split <;> rfl

section

variable {system : System Handler} {service other : ServiceId} (apart : other ≠ service)
  (change : Service Handler → Service Handler)
include apart

theorem service_updateService_other :
    (system.updateService service change).service? other = system.service? other := by
  simp [updateService, service?, Ne.symm apart]

theorem updateService_comm (next : Service Handler → Service Handler) :
    (system.updateService service change).updateService other next =
      (system.updateService other next).updateService service change := by
  simp only [updateService]
  rw [List.modify_modify_ne _ _ _ (Ne.symm apart)]

theorem registered_updateService_other :
    (system.updateService service change).registered other = system.registered other := by
  rw [registered, registered, service_updateService_other apart]

theorem closeAll_updateService_other : (system.updateService service change).closeAll other =
    (system.closeAll other).updateService service change := by
  rw [closeAll, closeAll, registered_updateService_other apart, closeStates_updateService]

theorem shutdown_updateService_other : (system.updateService service change).shutdown other =
    (system.shutdown other).updateService service change := by
  have marked : (system.updateService service change).markShutDown other =
      (system.markShutDown other).updateService service change := updateService_comm apart _ _
  have alike : (system.updateService service change).isShutDown other =
      system.isShutDown other := by
    rw [isShutDown, isShutDown, service_updateService_other apart]
  simp only [shutdown, alike]
  by_cases down : system.isShutDown other = true
  · simp only [down, if_true]
  · simp only [down, marked, closeAll_updateService_other apart]
    exact updateService_comm apart _ _

theorem dropReference_updateService_other :
    (system.updateService service change).dropReference other =
      (system.dropReference other).updateService service change := by
  simp only [dropReference, updateService_comm apart, service_updateService_other apart]
  generalize system.updateService other _ = lowered
  cases lowered.service? other with
  | none => rfl
  | some found =>
    simp only [closeAll_updateService_other apart, shutdown_updateService_other apart]
    split
    next => rfl
    next => split <;> rfl

end

end System

namespace Program

variable (program : Program) (service : ServiceId) (change : Service Ticket → Service Ticket)
  (lists : Program)

/-- The same program with one service changed and the implementations and files of another program.
-/
def refit : Program :=
  { program with
    system := program.system.updateService service change
    implementations := lists.implementations
    forgotten := lists.forgotten
    files := lists.files }

theorem refit_onContext (act : ContextAct) :
    (program.refit service change lists).onContext act =
      (program.onContext act).refit service change lists := by
  cases act with
  | serve context =>
    have same : (program.refit service change lists).system.context? context =
        program.system.context? context := rfl
    simp only [onContext, same]
    cases ((program.system.context? context).getD {}).turn <;> rfl
  | _ => rfl

theorem refit_keep (handle : FileHandle) :
    (program.refit service change lists).keep handle =
      (program.keep handle).refit service change lists := by
  simp only [keep]
  cases handle.isOpen <;> rfl

theorem refit_onOwner (act : OwnerAct) :
    (program.refit service change lists).onOwner act =
      (program.onOwner act).refit service change lists := by
  have host : (program.refit service change lists).system.host = program.system.host := rfl
  cases act with
  | openPath path args =>
    simp only [onOwner, host]
    rcases Owner.openPath path args program.system.host with ⟨error | owner, later⟩ <;> rfl
  | duplicate handle =>
    simp only [onOwner, host]
    rcases Owner.duplicate handle program.system.host with ⟨error | owner, later⟩ <;> rfl
  | reset owner handle =>
    simp only [onOwner, host]
    rcases owner.reset handle program.system.host with ⟨error | done, next, later⟩ <;> rfl
  | release owner =>
    let left : Program :=
      { program with owners := owner.release.2 :: program.owners.erase owner }
    exact left.refit_keep service change lists owner.release.1
  | _ => rfl

theorem refit_onCall (called : ServiceId) (imp : Implementation) {call : ImplementationCall}
    (apart : (Act.implementation (.call called imp call)).apart = true) :
    (program.refit service change lists).onCall called imp call =
      (program.onCall called imp call).refit service change lists := by
  have system : (program.refit service change lists).system =
    program.system.updateService service change := rfl
  cases call with
  | openPath path args =>
    simp only [onCall, system, System.openFile_updateService]
    rfl
  | assign handle =>
    simp only [onCall, system, System.assign_updateService]
    rcases program.system.assign imp handle with ⟨error | done, later⟩ <;> rfl
  | close | ask => rfl
  | release =>
    let left : Program := { program with system := (program.system.release imp).2 }
    exact left.refit_keep service change lists (program.system.release imp).1
  | cancel =>
    simp only [onCall, system, System.cancel_updateService]
    rfl
  | submit => cases apart

theorem refit_perform {act : Act} (apart : act.apart = true) :
    (program.refit service change lists).perform act =
      (program.perform act).refit service change lists := by
  cases act with
  | context act => exact program.refit_onContext service change lists act
  | implementation act =>
    cases act with
    | call called imp call => exact program.refit_onCall service change lists called imp apart
    | _ => cases apart
  | owner act => exact program.refit_onOwner service change lists act
  | outside host => rfl
  | service act | file act | work called worker => cases apart

theorem refit_self {act : Act} (apart : act.apart = true) :
    (program.refit service change program).perform act =
      (program.perform act).refit service change (program.perform act) := by
  have lists := program.apart_perform apart
  rw [refit_perform _ _ _ _ apart]
  simp only [refit, lists.implementations, lists.forgotten, lists.files]

end Program

end AsyncFiles
