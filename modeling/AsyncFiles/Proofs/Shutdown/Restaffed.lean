import AsyncFiles.Proofs.Refitted
import AsyncFiles.Proofs.Shutdown.Standing

/-!
Synchronous calls do not ask how a service stands. With any other pool, running or not, they give
the same answers and make the same of the files; so a service that is shut down goes on opening,
moving and closing files as one that runs.
-/
namespace AsyncFiles

open Access Error Host

namespace System

variable {Handler : Type} {system : System Handler} {service : ServiceId}
  {standing : Standing Handler}

def restaff (system : System Handler) (service : ServiceId) (standing : Standing Handler) :
    System Handler :=
  system.updateService service fun found =>
    { found with pool := standing.1, shutDown := standing.2 }

theorem references_restaff (system : System Handler) (service : ServiceId)
    (standing : Standing Handler) (other : ServiceId) :
    (system.restaff service standing).references other = system.references other :=
  system.references_updateService service _ (by intro found; rfl) other

theorem restaff_updateService (other : ServiceId) {change : Service Handler → Service Handler}
    (alone : ∀ found, change { found with pool := standing.1, shutDown := standing.2 } =
      { change found with pool := standing.1, shutDown := standing.2 }) :
    (system.restaff service standing).updateService other change =
      (system.updateService other change).restaff service standing := by
  by_cases same : other = service
  · subst same
    simp only [restaff, updateService, List.modify_modify_eq]
    congr 2
    funext found
    exact alone found
  · exact updateService_comm same _ change

theorem restaff_updateRegistry (other : ServiceId) (change : Registry StateId → Registry StateId) :
    (system.restaff service standing).updateRegistry other change =
      (system.updateRegistry other change).restaff service standing :=
  restaff_updateService other fun _ => rfl

theorem restaff_retain (other : ServiceId) :
    (system.restaff service standing).retain other =
      (system.retain other).restaff service standing :=
  restaff_updateService other fun _ => rfl

theorem restaff_giveUp (other : ServiceId) :
    (system.restaff service standing).giveUp other =
      (system.giveUp other).restaff service standing :=
  restaff_updateService other fun _ => rfl

theorem restaff_register (other : ServiceId) (state : StateId) :
    (system.restaff service standing).register other state =
      ((system.register other state).1,
        (system.register other state).2.restaff service standing) := by
  have registries : ((system.restaff service standing).service? other).map Service.registry =
      (system.service? other).map Service.registry :=
    system.view_updateService service (fun found =>
      { found with pool := standing.1, shutDown := standing.2 }) (fun _ => rfl) other
  simp only [register]
  cases present : system.service? other with
  | none =>
    rw [present, Option.map_none, Option.map_eq_none_iff] at registries
    rw [registries]
  | some found =>
    rw [present] at registries
    obtain ⟨next, located, same⟩ := Option.map_eq_some_iff.mp registries
    rw [located]
    simp only [same, restaff_updateRegistry]

theorem restaff_unlist (system : System Handler) (service : ServiceId)
    (standing : Standing Handler) (other : ServiceId) (imp : Implementation) :
    (system.restaff service standing).unlist other imp =
      (system.unlist other imp).restaff service standing := by
  simp only [unlist]
  split
  next => exact restaff_updateRegistry other _
  next => rfl

theorem restaff_detach (other : ServiceId) (imp : Implementation) :
    (system.restaff service standing).detach other imp =
      ((system.detach other imp).1, (system.detach other imp).2.1,
        (system.detach other imp).2.2.restaff service standing) := by
  simp only [detach]
  split
  next =>
    have updated : (system.addState.2.restaff service standing).updateRegistry other
          (·.replace imp.key system.addState.1) =
        (system.addState.2.updateRegistry other
          (·.replace imp.key system.addState.1)).restaff service standing :=
      restaff_updateRegistry other _
    exact congrArg _ (congrArg _ updated)
  next => rfl

theorem restaff_construct (other : ServiceId) :
    (system.restaff service standing).construct other =
      ((system.construct other).1, (system.construct other).2.restaff service standing) := by
  have added : (system.restaff service standing).addState =
      (system.addState.1, system.addState.2.restaff service standing) := rfl
  simp only [construct, added, restaff_register]

theorem restaff_moveConstruct (other otherService : ServiceId) (imp : Implementation) :
    (system.restaff service standing).moveConstruct other otherService imp =
      ((system.moveConstruct other otherService imp).1,
        (system.moveConstruct other otherService imp).2.1,
        (system.moveConstruct other otherService imp).2.2.restaff service standing) := by
  simp only [moveConstruct, restaff_detach, restaff_register]

theorem restaff_closeState (state : StateId) :
    (system.restaff service standing).closeState state =
      ((system.closeState state).1, (system.closeState state).2.restaff service standing) := rfl

theorem restaff_destroy (other : ServiceId) (imp : Implementation) :
    (system.restaff service standing).destroy other imp =
      (system.destroy other imp).restaff service standing :=
  (system.closeState imp.state).2.restaff_unlist service standing other imp

theorem restaff_moveAssign (other otherService : ServiceId) (imp source : Implementation) :
    (system.restaff service standing).moveAssign other imp otherService source =
      ((system.moveAssign other imp otherService source).1,
        (system.moveAssign other imp otherService source).2.1,
        (system.moveAssign other imp otherService source).2.2.restaff service standing) := by
  simp only [moveAssign, restaff_closeState, restaff_detach]
  split
  next => rw [restaff_updateRegistry]
  next =>
    have unlisted := ((system.closeState imp.state).2.detach otherService source).2.2.restaff_unlist
      service standing other imp
    simp only [unlist] at unlisted
    simp only [unlisted, restaff_register]

theorem restaff_shutdown {other : ServiceId} (apart : other ≠ service) :
    (system.restaff service standing).shutdown other =
      (system.shutdown other).restaff service standing :=
  shutdown_updateService_other apart _

/-- To give a reference up is as good for a service that stands otherwise, unless that retires. -/
theorem restaff_dropReference {other : ServiceId}
    (stays : ¬ (other = service ∧ system.references service ≤ 1)) :
    (system.restaff service standing).dropReference other =
      (system.dropReference other).restaff service standing := by
  by_cases apart : other = service
  · subst apart
    have held := Nat.lt_of_not_le fun last => stays ⟨rfl, last⟩
    have same := system.references_restaff other standing other
    rw [dropReference_of_held held, dropReference_of_held (same.symm ▸ held), restaff_giveUp]
  · exact dropReference_updateService_other apart _

theorem restaff_openFile (system : System Handler) (service : ServiceId)
    (standing : Standing Handler) (imp : Implementation) (path : Path) (args : OpenArgs) :
    (system.restaff service standing).openFile imp path args =
      ((system.openFile imp path args).1,
        (system.openFile imp path args).2.restaff service standing) :=
  system.openFile_updateService service _ imp path args

end System

namespace File

variable {Handler : Type} {system : System Handler} {service : ServiceId}
  {standing : Standing Handler}

theorem restaff_new (other : ServiceId) :
    File.new other (system.restaff service standing) =
      ((File.new other system).1, (File.new other system).2.restaff service standing) := by
  simp only [new, System.restaff_construct, System.restaff_retain]

theorem restaff_take (file : File) :
    file.take (system.restaff service standing) =
      ((file.take system).1, (file.take system).2.1,
        (file.take system).2.2.restaff service standing) := by
  simp only [take, System.restaff_moveConstruct, System.restaff_retain]

theorem restaff_drop {file : File}
    (stays : ¬ (file.service = service ∧ system.references service ≤ 1)) :
    file.drop (system.restaff service standing) = (file.drop system).restaff service standing := by
  simp only [drop, System.restaff_destroy]
  exact System.restaff_dropReference (by rwa [System.references_destroy])

theorem restaff_moveFrom {file other : File}
    (stays : ¬ (file.service = service ∧ other.service ≠ service ∧
      system.references service ≤ 1)) :
    file.moveFrom other (system.restaff service standing) =
      ((file.moveFrom other system).1, (file.moveFrom other system).2.1,
        (file.moveFrom other system).2.2.restaff service standing) := by
  simp only [moveFrom, System.restaff_moveAssign]
  split
  next => rfl
  next apart =>
    rw [System.restaff_retain, System.restaff_dropReference]
    rintro ⟨rfl, last⟩
    refine stays ⟨rfl, Ne.symm apart, ?_⟩
    rwa [System.references_retain_other (Ne.symm apart), System.references_moveAssign] at last

theorem restaff_openNew {other : ServiceId} (used : 0 < system.references other) (path : Path)
    (args : OpenArgs) :
    File.openNew other path args (system.restaff service standing) =
      ((File.openNew other path args system).1,
        (File.openNew other path args system).2.restaff service standing) := by
  have services := (File.new other system).2.services_openFile
    (File.new other system).1.implementation path args
  simp only [openNew, restaff_new, System.restaff_openFile]
  cases opened : (File.new other system).2.openFile (File.new other system).1.implementation path
    args with
  | mk result later =>
    rw [opened] at services
    cases result with
    | ok done => rfl
    | error error =>
      have counted := references_new used other
      rw [← System.references_of_services services, if_pos rfl] at counted
      have held : ¬ ((File.new other system).1.service = service ∧
          later.references service ≤ 1) := by
        rintro ⟨rfl, last⟩
        rw [show (File.new other system).1.service = other from rfl, counted] at last
        omega
      simp only [restaff_drop held]

end File

/-- What a call gives back at once. One that starts an operation gives nothing back. -/
inductive Answer
  | settled (result : Except FileError Unit)
  | handle (handle : FileHandle)
  | reply (reply : Script.Reply)
  | nothing

namespace Program

variable {program : Program} {service : ServiceId} {standing : Standing Ticket} {act : Act}

def answer (program : Program) : Act → Answer
  | .implementation (.call _ imp (.openPath path args)) =>
    .settled (program.system.openFile imp path args).1
  | .implementation (.call _ imp (.assign handle)) => .settled (program.system.assign imp handle).1
  | .implementation (.call _ imp .close) => .settled (program.system.close imp).1
  | .implementation (.call _ imp .release) => .handle (program.system.release imp).1
  | .implementation (.call _ imp .cancel) => .settled (program.system.cancel imp).1
  | .implementation (.call _ imp (.ask question)) =>
    .reply (question.ask (program.system.handleOf imp) program.system.host).1
  | .file (.openNew service path args) =>
    .settled ((File.openNew service path args program.system).1.map fun _ => ())
  | _ => .nothing

theorem answer_refit (program : Program) (service : ServiceId)
    (change : Service Ticket → Service Ticket) (lists : Program) {act : Act}
    (apart : act.apart = true) :
    (program.refit service change lists).answer act = program.answer act := by
  have system : (program.refit service change lists).system =
    program.system.updateService service change := rfl
  cases act with
  | implementation act =>
    cases act with
    | call called imp call =>
      cases call with
      | openPath path args => simp only [answer, system, System.openFile_updateService]
      | assign handle => simp only [answer, system, System.assign_updateService]
      | cancel => simp only [answer, system, System.cancel_updateService]
      | close | release | ask | submit => rfl
    | _ => rfl
  | file act => cases apart
  | _ => rfl

def restaff (program : Program) (service : ServiceId) (standing : Standing Ticket) : Program :=
  { program with system := program.system.restaff service standing }

theorem allows_restaff (program : Program) (service : ServiceId) (standing : Standing Ticket)
    (act : Act) : (program.restaff service standing).allows act = program.allows act := by
  have references := program.system.references_restaff service standing
  cases act with
  | service act =>
    cases act with
    | start => rfl
    | drop =>
      simp only [allows, restaff, references]
      rfl
    | retain | shutdown => simp only [allows, restaff, references]
  | implementation act =>
    cases act with
    | forget => rfl
    | call =>
      simp only [allows, restaff, references]
      rfl
    | _ => simp only [allows, restaff, references]
  | file act =>
    cases act
    all_goals simp only [allows, restaff, references]
  | context act => cases act <;> rfl
  | owner act => cases act <;> rfl
  | work | outside => rfl

theorem answer_restaff (allowed : program.allows act = true) (standing : Standing Ticket) :
    (program.restaff service standing).answer act = program.answer act := by
  cases act with
  | implementation act =>
    cases act with
    | call other imp call =>
      cases call with
      | submit => rfl
      | _ => exact program.answer_refit service _ program rfl
    | _ => rfl
  | file act =>
    cases act with
    | openNew other path args =>
      simp only [answer, restaff, File.restaff_openNew (by simpa [allows] using allowed)]
    | _ => rfl
  | _ => rfl

theorem restaff_perform (allowed : program.allows act = true) (leisurely : act.leisurely = true)
    (stays : ¬ program.Retires service act) :
    (program.restaff service standing).perform act =
      (program.perform act).restaff service standing := by
  have system : (program.restaff service standing).system =
    program.system.restaff service standing := rfl
  cases act with
  | context act => exact program.refit_self service _ rfl
  | service act =>
    cases act with
    | start => cases leisurely
    | retain other =>
      simp only [perform, onService, system, System.restaff_retain]
      rfl
    | drop other =>
      simp only [perform, onService, system]
      rw [System.restaff_dropReference]
      · rfl
      · rintro ⟨rfl, last⟩
        exact stays ⟨rfl, last⟩
    | shutdown other =>
      simp only [perform, onService, system, System.restaff_shutdown (fun same => stays same)]
      rfl
  | implementation act =>
    cases act with
    | construct other =>
      simp only [perform, onImplementation, system, System.restaff_construct]
      rfl
    | moveConstruct other otherService imp =>
      simp only [perform, onImplementation, system, System.restaff_moveConstruct]
      rfl
    | moveAssign other imp otherService source =>
      simp only [perform, onImplementation, system, System.restaff_moveAssign]
      rfl
    | destroy other imp =>
      simp only [perform, onImplementation, system, System.restaff_destroy]
      rfl
    | forget imp => rfl
    | call other imp call =>
      cases call with
      | submit => cases leisurely
      | _ => exact program.refit_self service _ rfl
  | file act =>
    cases act with
    | new other =>
      simp only [perform, onFile, system, File.restaff_new]
      rfl
    | openNew other path args =>
      simp only [perform, onFile, system, File.restaff_openNew (by simpa [allows] using allowed)]
      rcases File.openNew other path args program.system with ⟨error | file, later⟩ <;> rfl
    | take file =>
      simp only [perform, onFile, system, File.restaff_take]
      rfl
    | moveFrom file other =>
      simp only [perform, onFile, system]
      rw [File.restaff_moveFrom]
      · rfl
      · rintro ⟨rfl, apart, last⟩
        exact stays ⟨rfl, apart, last⟩
    | drop file =>
      simp only [perform, onFile, system]
      rw [File.restaff_drop]
      · rfl
      · rintro ⟨rfl, last⟩
        exact stays ⟨rfl, last⟩
  | owner act => exact program.refit_self service _ rfl
  | work => cases leisurely
  | outside host => rfl

/-- Whatever is called synchronously, a run goes as if the service stood otherwise, until it
retires. -/
theorem restaff_run {acts : List Act}
    (calls : program.Throughout (fun program act =>
      act.leisurely = true ∧ ¬ program.Retires service act) acts) :
    (program.restaff service standing).run acts =
      (program.run acts).restaff service standing := by
  induction acts generalizing program with
  | nil => rfl
  | cons act rest ih =>
    have stepped : (program.restaff service standing).step act =
        (program.step act).restaff service standing := by
      simp only [step, allows_restaff]
      split
      next allowed =>
        obtain ⟨leisurely, stays⟩ := calls.1 allowed
        exact restaff_perform allowed leisurely stays
      next => rfl
    rw [run_cons, stepped, ih calls.2, run_cons]

end Program

end AsyncFiles
