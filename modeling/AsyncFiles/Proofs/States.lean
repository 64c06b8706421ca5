import AsyncFiles.Proofs.Outcome.Bearers

/-!
What holds of every state of a system whatever a program does. Nothing becomes of a state but that a
handle is adopted or released and that its operations are cancelled, so what holds of a fresh state
and is kept by these three holds of all states at any time.
-/
namespace AsyncFiles

open Access Error Host

structure FileState.Lasting (holds : FileState → Prop) : Prop where
  fresh : holds {}
  adopt : ∀ state handle next, holds state → state.adopt? handle = some next → holds next
  release : ∀ state, holds state → holds state.release.2
  cancel : ∀ state, holds state → state.handle.isOpen = true → holds state.cancel

namespace System

variable {Handler : Type} {holds : FileState → Prop} {system later : System Handler}

def Each (holds : FileState → Prop) (system : System Handler) : Prop :=
  ∀ id, holds (system.state id)

theorem Each.of_states (each : system.Each holds) (same : later.states = system.states) :
    later.Each holds := by
  intro id
  have state : later.state id = system.state id := by simp only [System.state, same]
  exact state ▸ each id

theorem Each.addState (each : system.Each holds) : system.addState.2.Each holds :=
  fun id => (system.state_addState id).symm ▸ each id

theorem Each.updateState (each : system.Each holds) {changed : StateId}
    {change : FileState → FileState} (kept : holds (change (system.state changed))) :
    (system.updateState changed change).Each holds := by
  intro id
  by_cases bound : changed < system.states.length
  · rw [system.state_updateState change bound id]
    split
    next same => exact same ▸ kept
    next => exact each id
  · have same : (system.updateState changed change).states = system.states :=
      List.modify_eq_self (Nat.le_of_not_lt bound)
    exact each.of_states same id

variable (lasting : FileState.Lasting holds)

include lasting

theorem Each.adopt (each : system.Each holds) {id : StateId} {handle : FileHandle}
    (taken : system.adopt? id handle = some later) : later.Each holds := by
  obtain ⟨next, adopted, rfl⟩ := Option.map_eq_some_iff.mp taken
  exact each.updateState (lasting.adopt _ handle next (each id) adopted)

theorem Each.releaseState (each : system.Each holds) (id : StateId) :
    (system.releaseState id).2.Each holds :=
  each.updateState (lasting.release _ (each id))

theorem Each.closeState (each : system.Each holds) (id : StateId) :
    (system.closeState id).2.Each holds :=
  (each.releaseState lasting id).of_states rfl

theorem Each.closeStates (each : system.Each holds) (ids : List StateId) :
    (system.closeStates ids).Each holds := by
  induction ids generalizing system with
  | nil => exact each
  | cons first rest ih => exact ih (each.closeState lasting first)

theorem Each.assign (each : system.Each holds) (imp : Implementation) (handle : FileHandle) :
    (system.assign imp handle).2.Each holds := by
  simp only [System.assign]
  split
  next taken => exact each.adopt lasting taken
  next => exact each

theorem Each.openFile (each : system.Each holds) (imp : Implementation) (path : Path)
    (args : OpenArgs) : (system.openFile imp path args).2.Each holds := by
  simp only [System.openFile, openDuring, onHost]
  split
  next => exact each
  next =>
    cases FileHandle.openPath path args system.host with
    | mk result host =>
      have asked : System.Each holds { system with host } := each.of_states rfl
      cases result with
      | error error => exact asked
      | ok handle =>
        simp only [adoptOpened, id_eq]
        split
        next taken => exact asked.adopt lasting taken
        next => exact asked.of_states rfl

theorem Each.cancel (each : system.Each holds) (imp : Implementation) :
    (system.cancel imp).2.Each holds := by
  simp only [System.cancel]
  split
  next opened => exact each.updateState (lasting.cancel _ (each imp.state) opened)
  next => exact each

theorem Each.destroy (each : system.Each holds) (service : ServiceId) (imp : Implementation) :
    (system.destroy service imp).Each holds :=
  (each.closeState lasting imp.state).of_states (states_unlist _ service imp)

theorem Each.moveAssign (each : system.Each holds) (service : ServiceId) (imp : Implementation)
    (otherService : ServiceId) (other : Implementation) :
    (system.moveAssign service imp otherService other).2.2.Each holds :=
  (each.closeState lasting imp.state).addState.of_states
    (system.states_moveAssign service imp otherService other)

theorem Each.closeAll (each : system.Each holds) (service : ServiceId) :
    (system.closeAll service).Each holds :=
  each.closeStates lasting (system.registered service)

theorem Each.shutdown (each : system.Each holds) (service : ServiceId) :
    (system.shutdown service).Each holds := by
  simp only [System.shutdown]
  split
  next => exact each
  next =>
    have marked : (system.markShutDown service).Each holds := each.of_states rfl
    exact (marked.closeAll lasting service).of_states rfl

theorem Each.dropReference (each : system.Each holds) (service : ServiceId) :
    (system.dropReference service).Each holds := by
  have gaveUp : (system.giveUp service).Each holds := each.of_states rfl
  cases system.dropped_dropReference service with
  | unknown absent same => exact same ▸ gaveUp
  | referenced left same => exact same ▸ gaveUp
  | closed last down same => exact same ▸ gaveUp.closeAll lasting service
  | shutDown last on same => exact same ▸ gaveUp.shutdown lasting service

omit lasting

theorem Each.construct (each : system.Each holds) (service : ServiceId) :
    (system.construct service).2.Each holds :=
  each.addState.of_states (system.states_construct service)

theorem Each.moveConstruct (each : system.Each holds) (service otherService : ServiceId)
    (other : Implementation) :
    (system.moveConstruct service otherService other).2.2.Each holds :=
  each.addState.of_states (system.states_moveConstruct service otherService other)

end System

namespace Program

variable {holds : FileState → Prop} {program : Program}

theorem states_onContext (program : Program) (act : ContextAct) :
    (program.onContext act).system.states = program.system.states := by
  cases act with
  | serve context =>
    simp only [onContext]
    split <;> rfl
  | _ => rfl

variable (lasting : FileState.Lasting holds)

include lasting

theorem each_onService (each : program.system.Each holds) (act : ServiceAct) :
    (program.onService act).system.Each holds := by
  cases act with
  | start context config =>
    simp only [onService]
    split
    next started =>
      obtain ⟨pool, _, rfl⟩ := System.started_service started
      exact each.of_states rfl
    next => exact each
  | retain service => exact each.of_states rfl
  | drop service => exact each.dropReference lasting service
  | shutdown service => exact each.shutdown lasting service

theorem each_onCall (each : program.system.Each holds) (service : ServiceId)
    (imp : Implementation) (call : ImplementationCall) :
    (program.onCall service imp call).system.Each holds := by
  cases call with
  | openPath path args => exact each.openFile lasting imp path args
  | assign handle =>
    have assigned := each.assign lasting imp handle
    simp only [onCall]
    split
    all_goals
      next same =>
        rw [same] at assigned
        exact assigned
  | close => exact each.closeState lasting imp.state
  | release =>
    have released := each.releaseState lasting imp.state
    simp only [onCall, keep]
    split <;> exact released
  | cancel => exact each.cancel lasting imp
  | ask question => exact each.of_states rfl
  | submit request buffers =>
    simp only [onCall, submit]
    split
    next => exact each
    next => exact each.of_states (program.system.states_submit service imp request buffers _)

theorem each_onImplementation (each : program.system.Each holds) (act : ImplementationAct) :
    (program.onImplementation act).system.Each holds := by
  cases act with
  | construct service => exact each.construct service
  | moveConstruct service otherService other => exact each.moveConstruct service otherService other
  | moveAssign service imp otherService other =>
    exact each.moveAssign lasting service imp otherService other
  | destroy service imp => exact each.destroy lasting service imp
  | forget imp => exact each
  | call service imp call => exact each_onCall lasting each service imp call

theorem each_onFile (each : program.system.Each holds) (act : FileAct) :
    (program.onFile act).system.Each holds := by
  cases act with
  | new service => exact (each.construct service).of_states rfl
  | openNew service path args =>
    have made : (File.new service program.system).2.Each holds :=
      (each.construct service).of_states rfl
    have opened := made.openFile lasting (File.new service program.system).1.implementation path
      args
    simp only [onFile]
    rcases File.openNew_cases service path args program.system with
      ⟨later, same, new⟩ | ⟨error, later, same, new⟩
    · rw [same] at opened
      simpa only [new] using opened
    · rw [same] at opened
      simp only [new]
      exact (opened.destroy lasting service _).dropReference lasting service
  | take file =>
    exact (each.moveConstruct file.service file.service file.implementation).of_states rfl
  | moveFrom file other =>
    have moved := each.moveAssign lasting file.service file.implementation other.service
      other.implementation
    simp only [onFile, File.moveFrom]
    split
    next => exact moved
    next =>
      have retained : ((program.system.moveAssign file.service file.implementation other.service
          other.implementation).2.2.retain other.service).Each holds := moved.of_states rfl
      exact retained.dropReference lasting file.service
  | drop file =>
    exact (each.destroy lasting file.service file.implementation).dropReference lasting file.service

theorem each_perform (each : program.system.Each holds) (act : Act) :
    (program.perform act).system.Each holds := by
  cases act with
  | context act => exact each.of_states (program.states_onContext act)
  | service act => exact each_onService lasting each act
  | implementation act => exact each_onImplementation lasting each act
  | file act => exact each_onFile lasting each act
  | owner act => exact each.of_states (program.states_onOwner act)
  | work service worker =>
    simp only [perform]
    split
    next stepped => exact each.of_states (System.states_workerStep stepped)
    next => exact each
  | outside host => exact each.of_states rfl

theorem each_run (host : Host) (acts : List Act) :
    ((fresh host).run acts).system.Each holds := by
  have kept (program : Program) (act : Act) (each : program.system.Each holds)
      (_ : program.allows act = true) : (program.perform act).system.Each holds :=
    each_perform lasting each act
  have first : (fresh host).system.Each holds := fun _ => lasting.fresh
  exact run_keeps kept first acts

end Program

end AsyncFiles
