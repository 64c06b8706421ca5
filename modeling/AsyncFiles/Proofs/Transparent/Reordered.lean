import AsyncFiles.Proofs.Shutdown.Restaffed
import AsyncFiles.Proofs.Transparent.Records

namespace AsyncFiles

open Access Error Host

namespace System

variable {Handler : Type} {system other : System Handler}

def relog (system : System Handler) (calls : List Call) : System Handler :=
  { system with host := system.host.relog calls }

def Reordered (system other : System Handler) : Prop :=
  ∃ calls, calls.Perm system.host.calls ∧ other = system.relog calls

theorem Reordered.refl (system : System Handler) : system.Reordered system :=
  ⟨system.host.calls, .refl _, rfl⟩

theorem Reordered.trans {later : System Handler} (first : system.Reordered other)
    (second : other.Reordered later) : system.Reordered later := by
  obtain ⟨calls, same, rfl⟩ := first
  obtain ⟨last, again, rfl⟩ := second
  exact ⟨last, again.trans same, rfl⟩

theorem Reordered.map (change : System Handler → System Handler)
    (quiet : ∀ system calls, change (system.relog calls) = (change system).relog calls)
    (same : system.Reordered other) : (change system).Reordered (change other) := by
  obtain ⟨calls, perm, rfl⟩ := same
  have own := congrArg (fun later => later.host.calls) (quiet system system.host.calls)
  exact ⟨calls, perm.trans (.of_eq own.symm), quiet system calls⟩

theorem Reordered.onHost {α : Type} {call : Host → α × Host} (unlogged : Unlogged call)
    (same : system.Reordered other) : ∃ later, (system.onHost call).2.Reordered later ∧
      other.onHost call = ((system.onHost call).1, later) := by
  obtain ⟨calls, perm, rfl⟩ := same
  obtain ⟨later, ⟨last, moved, rfl⟩, asked⟩ := unlogged.reordered ⟨calls, perm, rfl⟩
  refine ⟨(system.onHost call).2.relog last, ⟨last, moved, rfl⟩, ?_⟩
  simp only [System.onHost, relog, asked]

theorem relog_adopt (system : System Handler) (calls : List Call) (state : StateId)
    (handle : FileHandle) : (system.relog calls).adopt? state handle =
      (system.adopt? state handle).map fun later => later.relog calls := by
  simp only [adopt?, Option.map_map]
  rfl

theorem relog_register (system : System Handler) (calls : List Call) (service : ServiceId)
    (state : StateId) : (system.relog calls).register service state =
      ((system.register service state).1, (system.register service state).2.relog calls) := by
  have same : (system.relog calls).service? service = system.service? service := rfl
  simp only [register, same]
  cases system.service? service <;> rfl

theorem relog_unlist (system : System Handler) (calls : List Call) (service : ServiceId)
    (imp : Implementation) :
    (system.relog calls).unlist service imp = (system.unlist service imp).relog calls := by
  simp only [unlist]
  split <;> rfl

theorem relog_detach (system : System Handler) (calls : List Call) (service : ServiceId)
    (imp : Implementation) : (system.relog calls).detach service imp =
      ((system.detach service imp).1, (system.detach service imp).2.1,
        (system.detach service imp).2.2.relog calls) := by
  simp only [detach]
  split <;> rfl

theorem relog_construct (system : System Handler) (calls : List Call) (service : ServiceId) :
    (system.relog calls).construct service =
      ((system.construct service).1, (system.construct service).2.relog calls) := by
  have added : (system.relog calls).addState =
    (system.addState.1, system.addState.2.relog calls) := rfl
  simp only [construct, added, relog_register]

theorem relog_moveConstruct (system : System Handler) (calls : List Call)
    (service otherService : ServiceId) (imp : Implementation) :
    (system.relog calls).moveConstruct service otherService imp =
      ((system.moveConstruct service otherService imp).1,
        (system.moveConstruct service otherService imp).2.1,
        (system.moveConstruct service otherService imp).2.2.relog calls) := by
  simp only [moveConstruct, relog_detach, relog_register]

def takeOver (system : System Handler) (service : ServiceId) (imp : Implementation)
    (otherService : ServiceId) (other : Implementation) :
    Implementation × Implementation × System Handler :=
  let (moved, other, system) := system.detach otherService other
  if service = otherService then
    ({ imp with state := moved }, other,
      system.updateRegistry service fun registry => registry.replace imp.key moved)
  else
    let (key, system) := (system.unlist service imp).register otherService moved
    ({ key, owner := otherService, state := moved }, other, system)

theorem moveAssign_eq (system : System Handler) (service : ServiceId) (imp : Implementation)
    (otherService : ServiceId) (other : Implementation) :
    system.moveAssign service imp otherService other =
      (system.closeState imp.state).2.takeOver service imp otherService other := rfl

theorem relog_takeOver (system : System Handler) (calls : List Call) (service : ServiceId)
    (imp : Implementation) (otherService : ServiceId) (other : Implementation) :
    (system.relog calls).takeOver service imp otherService other =
      ((system.takeOver service imp otherService other).1,
        (system.takeOver service imp otherService other).2.1,
        (system.takeOver service imp otherService other).2.2.relog calls) := by
  simp only [takeOver, relog_detach]
  split
  next => rfl
  next => simp only [relog_unlist, relog_register]

namespace Reordered

variable (same : system.Reordered other)
include same

theorem state (state : StateId) : other.state state = system.state state := by
  obtain ⟨calls, _, rfl⟩ := same
  rfl

theorem service (service : ServiceId) : other.service? service = system.service? service := by
  obtain ⟨calls, _, rfl⟩ := same
  rfl

theorem closeState (state : StateId) :
    ∃ later, (system.closeState state).2.Reordered later ∧
      other.closeState state = ((system.closeState state).1, later) := by
  obtain ⟨calls, perm, rfl⟩ := same
  have released : (system.releaseState state).2.Reordered
    ((system.relog calls).releaseState state).2 := ⟨calls, perm, rfl⟩
  exact released.onHost (FileHandle.unlogged_close (system.releaseState state).1)

theorem ask (question : Question) (imp : Implementation) :
    ∃ later, (system.onHost (question.ask (system.handleOf imp))).2.Reordered later ∧
      (other.onHost (question.ask (other.handleOf imp))).1 =
        (system.onHost (question.ask (system.handleOf imp))).1 ∧
      (other.onHost (question.ask (other.handleOf imp))).2 = later := by
  have handle : other.handleOf imp = system.handleOf imp :=
    congrArg FileState.handle (same.state imp.state)
  obtain ⟨later, reordered, asked⟩ :=
    same.onHost (question.gentle_ask (system.handleOf imp)).unlogged
  rw [handle, asked]
  exact ⟨later, reordered, rfl, rfl⟩

theorem unlist (service : ServiceId) (imp : Implementation) :
    (system.unlist service imp).Reordered (other.unlist service imp) :=
  same.map (fun system => system.unlist service imp)
    fun system calls => system.relog_unlist calls service imp

theorem destroy (service : ServiceId) (imp : Implementation) :
    (system.destroy service imp).Reordered (other.destroy service imp) := by
  obtain ⟨later, closed, equation⟩ := same.closeState imp.state
  have unlisted := closed.unlist service imp
  rw [show later = (other.closeState imp.state).2 by rw [equation]] at unlisted
  exact unlisted

theorem construct (service : ServiceId) :
    ∃ later, (system.construct service).2.Reordered later ∧
      other.construct service = ((system.construct service).1, later) := by
  have moved := same.map (fun system => (system.construct service).2)
    fun system calls => congrArg Prod.snd (system.relog_construct calls service)
  obtain ⟨calls, _, rfl⟩ := same
  refine ⟨_, moved, ?_⟩
  rw [relog_construct]

theorem moveConstruct (service otherService : ServiceId) (imp : Implementation) :
    ∃ later, (system.moveConstruct service otherService imp).2.2.Reordered later ∧
      other.moveConstruct service otherService imp =
        ((system.moveConstruct service otherService imp).1,
          (system.moveConstruct service otherService imp).2.1, later) := by
  have moved := same.map (fun system => (system.moveConstruct service otherService imp).2.2)
    fun system calls => congrArg (fun outcome => outcome.2.2)
      (system.relog_moveConstruct calls service otherService imp)
  obtain ⟨calls, _, rfl⟩ := same
  refine ⟨_, moved, ?_⟩
  rw [relog_moveConstruct]

theorem takeOver (service : ServiceId) (imp : Implementation) (otherService : ServiceId)
    (source : Implementation) :
    ∃ later, (system.takeOver service imp otherService source).2.2.Reordered later ∧
      other.takeOver service imp otherService source =
        ((system.takeOver service imp otherService source).1,
          (system.takeOver service imp otherService source).2.1, later) := by
  have moved := same.map (fun system => (system.takeOver service imp otherService source).2.2)
    fun system calls => congrArg (fun outcome => outcome.2.2)
      (system.relog_takeOver calls service imp otherService source)
  obtain ⟨calls, _, rfl⟩ := same
  refine ⟨_, moved, ?_⟩
  rw [relog_takeOver]

theorem moveAssign (service : ServiceId) (imp : Implementation) (otherService : ServiceId)
    (source : Implementation) :
    ∃ later, (system.moveAssign service imp otherService source).2.2.Reordered later ∧
      other.moveAssign service imp otherService source =
        ((system.moveAssign service imp otherService source).1,
          (system.moveAssign service imp otherService source).2.1, later) := by
  obtain ⟨closed, reordered, equation⟩ := same.closeState imp.state
  rw [moveAssign_eq, moveAssign_eq, equation]
  exact reordered.takeOver service imp otherService source

theorem closeStates (states : List StateId) :
    (system.closeStates states).Reordered (other.closeStates states) := by
  induction states generalizing system other with
  | nil => exact same
  | cons first rest ih =>
    obtain ⟨closed, reordered, equation⟩ := same.closeState first
    have rests := ih reordered
    rw [show closed = (other.closeState first).2 by rw [equation]] at rests
    exact rests

theorem registered (service : ServiceId) :
    other.registered service = system.registered service := by
  rw [System.registered, System.registered, same.service]

theorem closeAll (service : ServiceId) :
    (system.closeAll service).Reordered (other.closeAll service) := by
  rw [System.closeAll, System.closeAll, same.registered]
  exact same.closeStates _

theorem updateService (service : ServiceId) (change : Service Handler → Service Handler) :
    (system.updateService service change).Reordered (other.updateService service change) :=
  same.map (fun system => system.updateService service change) fun _ _ => rfl

theorem shutdown (service : ServiceId) :
    (system.shutdown service).Reordered (other.shutdown service) := by
  have down : other.isShutDown service = system.isShutDown service := by
    rw [isShutDown, isShutDown, same.service]
  rw [System.shutdown, System.shutdown, down]
  split
  next => exact same
  next => exact ((same.updateService service _).closeAll service).updateService service _

theorem dropReference (service : ServiceId) :
    (system.dropReference service).Reordered (other.dropReference service) := by
  have lowered := same.updateService service
    fun found => { found with references := found.references - 1 }
  simp only [System.dropReference, lowered.service]
  split
  next => exact lowered
  next =>
    split
    next => exact lowered
    split
    next => exact lowered.closeAll service
    next => exact lowered.shutdown service

theorem adoptOpened (imp : Implementation) (path : Path) (handle : FileHandle) :
    ∃ later, (system.adoptOpened imp path handle).2.Reordered later ∧
      other.adoptOpened imp path handle =
        ((system.adoptOpened imp path handle).1, later) := by
  obtain ⟨closed, reordered, equation⟩ := same.onHost handle.unlogged_close
  obtain ⟨calls, perm, rfl⟩ := same
  simp only [System.adoptOpened, relog_adopt, equation]
  cases taken : system.adopt? imp.state handle with
  | none => exact ⟨closed, reordered, rfl⟩
  | some later =>
    obtain ⟨adopted, _, rfl⟩ := Option.map_eq_some_iff.mp taken
    exact ⟨_, ⟨calls, perm, rfl⟩, rfl⟩

theorem openFile (imp : Implementation) (path : Path) (args : OpenArgs) :
    ∃ later, (system.openFile imp path args).2.Reordered later ∧
      other.openFile imp path args = ((system.openFile imp path args).1, later) := by
  obtain ⟨opened, reordered, equation⟩ := same.onHost (FileHandle.unlogged_openPath path args)
  have held : other.handleOf imp = system.handleOf imp := congrArg _ (same.state imp.state)
  simp only [System.openFile, openDuring, held, equation]
  split
  next => exact ⟨other, same, rfl⟩
  next =>
    generalize system.onHost (FileHandle.openPath path args) = outcome at reordered
    rcases outcome with ⟨error | handle, later⟩
    · exact ⟨opened, reordered, rfl⟩
    · exact reordered.adoptOpened imp path handle

theorem assign (imp : Implementation) (handle : FileHandle) :
    ∃ later, (system.assign imp handle).2.Reordered later ∧
      other.assign imp handle = ((system.assign imp handle).1, later) := by
  obtain ⟨calls, perm, rfl⟩ := same
  simp only [System.assign, relog_adopt]
  cases taken : system.adopt? imp.state handle with
  | none => exact ⟨system.relog calls, ⟨calls, perm, rfl⟩, rfl⟩
  | some later =>
    obtain ⟨adopted, _, rfl⟩ := Option.map_eq_some_iff.mp taken
    exact ⟨_, ⟨calls, perm, rfl⟩, rfl⟩

theorem cancel (imp : Implementation) :
    ∃ later, (system.cancel imp).2.Reordered later ∧
      other.cancel imp = ((system.cancel imp).1, later) := by
  obtain ⟨calls, perm, rfl⟩ := same
  have held : (system.relog calls).handleOf imp = system.handleOf imp := rfl
  simp only [System.cancel, held]
  split
  next => exact ⟨_, ⟨calls, perm, rfl⟩, rfl⟩
  next => exact ⟨_, ⟨calls, perm, rfl⟩, rfl⟩

theorem submit (service : ServiceId) (imp : Implementation) (request : Request)
    (buffers : List Bytes) (handler : Handler) :
    (system.submit service imp request buffers handler).Reordered
      (other.submit service imp request buffers handler) := by
  refine same.map (fun system => system.submit service imp request buffers handler)
    fun system calls => ?_
  have found : (system.relog calls).service? service = system.service? service := rfl
  have held : (system.relog calls).state imp.state = system.state imp.state := rfl
  simp only [System.submit, found, handleOf, held]
  cases system.service? service with
  | none => rfl
  | some found =>
    dsimp only
    cases found.pool.execute _ <;> rfl

theorem follow (service : ServiceId) (worker : Nat) (operation : Operation Handler)
    (attempt : Attempt) : (system.follow service worker operation attempt).Reordered
      (other.follow service worker operation attempt) :=
  same.map (fun system => system.follow service worker operation attempt)
    fun _ _ => by cases attempt <;> rfl

theorem transfer (service : ServiceId) (worker : Nat) (operation : Operation Handler) :
    (system.transfer service worker operation).Reordered
      (other.transfer service worker operation) := by
  obtain ⟨later, reordered, equation⟩ := same.onHost
    (operation.request.unlogged_attempt operation.handle operation.buffers)
  have moved := reordered.follow service worker operation
    (system.onHost (operation.request.attempt operation.handle operation.buffers)).1
  have whole : other.transfer service worker operation =
      (other.onHost (operation.request.attempt operation.handle operation.buffers)).2.follow
        service worker operation
        (other.onHost (operation.request.attempt operation.handle operation.buffers)).1 := rfl
  rw [whole, equation]
  exact moved

theorem resume (service : ServiceId) (worker : Nat) (operation : Operation Handler)
    (call : Stalled) : Option.Rel Reordered (system.resume? service worker operation call)
      (other.resume? service worker operation call) := by
  obtain ⟨calls, perm, rfl⟩ := same
  have hosts : system.host.Reordered (system.relog calls).host := ⟨calls, perm, rfl⟩
  have resumed := Attempt.reordered_resume hosts operation.buffers call
  simp only [resume?]
  generalize Attempt.resume? operation.buffers call (system.relog calls).host = next at resumed ⊢
  generalize Attempt.resume? operation.buffers call system.host = outcome at resumed ⊢
  cases resumed with
  | none => exact .none
  | some both =>
    obtain ⟨answer, last, moved, asked⟩ := both
    rw [Option.map_some, Option.map_some, answer, asked]
    have went : Reordered { system with host := _ } { system.relog calls with host := _ } :=
      ⟨last, moved, rfl⟩
    exact .some (went.follow service worker operation _)

theorem workerStep (held : Operation Handler → Bool) (service : ServiceId) (worker : Nat) :
    Option.Rel Reordered (system.workerStep? held service worker)
      (other.workerStep? held service worker) := by
  have task : other.heldTask? service worker = system.heldTask? service worker := by
    rw [heldTask?, heldTask?, same.service]
  have pools (change : Pool (Task Handler) → Pool (Task Handler)) :
      (system.updatePool service change).Reordered (other.updatePool service change) :=
    same.updateService service _
  simp only [workerStep?, same.service, task]
  cases system.service? service with
  | none => exact .none
  | some found =>
    cases system.heldTask? service worker with
    | none =>
      dsimp only
      cases found.pool.dequeue? worker with
      | some pool => exact .some (pools _)
      | none =>
        cases found.pool.leave? worker with
        | none => exact .none
        | some pool => exact .some (pools _)
    | some task =>
      cases task with
      | issued operation =>
        refine .some (same.map (fun system => system.checkToken service worker operation)
          fun system calls => ?_)
        have known : (system.relog calls).isCancelled operation = system.isCancelled operation :=
          rfl
        simp only [checkToken, known]
        split <;> rfl
      | admitted operation =>
        dsimp only
        split
        next => exact .none
        next =>
          exact .some (same.transfer service worker operation)
      | stalled operation call =>
        exact same.resume service worker operation call
      | delivered context =>
        exact .some (same.map (fun system => (system.workFinished context).holdTask service worker
          .settled) fun _ _ => rfl)
      | settled => exact .some (pools _)

end Reordered

theorem closed_eq (system : System Handler) (state : StateId) : (system.closeState state).2 =
    { system with
      states := system.states.modify state fun _ => (system.state state).release.2
      host := ((system.state state).release.1.close system.host).2 } := rfl

theorem reordered_closeState (system : System Handler) (first second : StateId) :
    ((system.closeState first).2.closeState second).2.Reordered
      ((system.closeState second).2.closeState first).2 := by
  by_cases same : first = second
  · rw [same]
    exact .refl _
  · have kept : (system.closeState first).2.state second = system.state second := by
      simp [System.state, closed_eq, same]
    have still : (system.closeState second).2.state first = system.state first := by
      simp [System.state, closed_eq, Ne.symm same]
    obtain ⟨calls, perm, closed⟩ := (system.state first).release.1.reordered_close
      (system.state second).release.1 system.host
    rw [closed_eq (system.closeState first).2, closed_eq (system.closeState second).2, kept, still,
      closed_eq system first, closed_eq system second]
    refine ⟨calls, perm, ?_⟩
    simp only [closed, List.modify_modify_ne _ _ _ same]
    rfl

theorem reordered_closeStates {states next : List StateId} (perm : states.Perm next)
    (system : System Handler) :
    (system.closeStates states).Reordered (system.closeStates next) := by
  induction perm generalizing system with
  | nil => exact .refl _
  | cons first _ ih => exact ih (system.closeState first).2
  | swap first second rest => exact (system.reordered_closeState second first).closeStates rest
  | trans _ _ ih further => exact (ih system).trans (further system)

end System

namespace File

variable {Handler : Type} {system other : System Handler}
  (same : system.Reordered other)
include same

theorem reordered_new (service : ServiceId) :
    ∃ later, (File.new service system).2.Reordered later ∧
      File.new service other = ((File.new service system).1, later) := by
  obtain ⟨constructed, reordered, equation⟩ := same.construct service
  exact ⟨_, reordered.updateService service _, by simp only [new, equation]; rfl⟩

theorem reordered_drop (file : File) : (file.drop system).Reordered (file.drop other) :=
  (same.destroy file.service file.implementation).dropReference file.service

theorem reordered_openNew (service : ServiceId) (path : Path) (args : OpenArgs) :
    ∃ later, (File.openNew service path args system).2.Reordered later ∧
      File.openNew service path args other =
        ((File.openNew service path args system).1, later) := by
  obtain ⟨made, reordered, equation⟩ := reordered_new same service
  obtain ⟨opened, further, outcome⟩ :=
    reordered.openFile (File.new service system).1.implementation path args
  simp only [openNew, equation, outcome]
  generalize (File.new service system).2.openFile _ path args = result at further
  rcases result with ⟨error | done, later⟩
  · exact ⟨_, reordered_drop further _, rfl⟩
  · exact ⟨_, further, rfl⟩

theorem reordered_take (file : File) :
    ∃ later, (file.take system).2.2.Reordered later ∧
      file.take other = ((file.take system).1, (file.take system).2.1, later) := by
  obtain ⟨moved, reordered, equation⟩ :=
    same.moveConstruct file.service file.service file.implementation
  exact ⟨_, reordered.updateService file.service _, by simp only [take, equation]; rfl⟩

theorem reordered_moveFrom (file source : File) :
    ∃ later, (file.moveFrom source system).2.2.Reordered later ∧
      file.moveFrom source other =
        ((file.moveFrom source system).1, (file.moveFrom source system).2.1, later) := by
  obtain ⟨moved, reordered, equation⟩ :=
    same.moveAssign file.service file.implementation source.service source.implementation
  simp only [moveFrom, equation]
  split
  next => exact ⟨_, reordered, rfl⟩
  next => exact ⟨_, (reordered.updateService source.service _).dropReference file.service, rfl⟩

end File

namespace Program

variable {program other : Program}

def Reordered (program other : Program) : Prop :=
  ∃ system, program.system.Reordered system ∧ other = { program with system }

namespace Reordered

theorem refl (program : Program) : program.Reordered program := ⟨program.system, .refl _, rfl⟩

theorem trans {later : Program} (first : program.Reordered other)
    (second : other.Reordered later) : program.Reordered later := by
  obtain ⟨system, same, rfl⟩ := first
  obtain ⟨last, again, rfl⟩ := second
  exact ⟨last, same.trans again, rfl⟩

variable (same : program.Reordered other)
include same

theorem allows (act : Act) : other.allows act = program.allows act := by
  obtain ⟨system, ⟨calls, _, rfl⟩, rfl⟩ := same
  cases act with
  | service act => cases act <;> rfl
  | implementation act => cases act <;> rfl
  | file act => cases act <;> rfl
  | context act => cases act <;> rfl
  | owner act => cases act <;> rfl
  | work | outside => rfl

theorem answer (act : Act) : other.answer act = program.answer act := by
  obtain ⟨system, same, rfl⟩ := same
  cases act with
  | implementation act =>
    cases act with
    | call service imp call =>
      cases call with
      | openPath path args =>
        obtain ⟨_, _, equation⟩ := same.openFile imp path args
        simp only [Program.answer, equation]
      | assign handle =>
        obtain ⟨_, _, equation⟩ := same.assign imp handle
        simp only [Program.answer, equation]
      | close =>
        obtain ⟨_, _, equation⟩ := same.closeState imp.state
        simp only [Program.answer, System.close, equation]
      | release => exact congrArg _ (congrArg FileState.handle (same.state imp.state))
      | cancel =>
        obtain ⟨_, _, equation⟩ := same.cancel imp
        simp only [Program.answer, equation]
      | ask question =>
        obtain ⟨_, _, equation⟩ := same.ask question imp
        exact congrArg Answer.reply equation.1
      | submit => rfl
    | _ => rfl
  | file act =>
    cases act with
    | openNew service path args =>
      obtain ⟨_, _, equation⟩ := File.reordered_openNew same service path args
      simp only [Program.answer, equation]
    | _ => rfl
  | _ => rfl

theorem onContext (act : ContextAct) :
    (program.onContext act).Reordered (other.onContext act) := by
  obtain ⟨system, ⟨calls, perm, rfl⟩, rfl⟩ := same
  cases act with
  | serve context =>
    have found : (program.system.relog calls).context? context =
      program.system.context? context := rfl
    simp only [Program.onContext, found]
    cases ((program.system.context? context).getD {}).turn with
    | take invocation rest => exact ⟨_, ⟨calls, perm, rfl⟩, rfl⟩
    | wait | leave => exact ⟨_, ⟨calls, perm, rfl⟩, rfl⟩
  | _ => exact ⟨_, ⟨calls, perm, rfl⟩, rfl⟩

theorem onService (act : ServiceAct) :
    (program.onService act).Reordered (other.onService act) := by
  obtain ⟨system, same, rfl⟩ := same
  cases act with
  | start context config =>
    obtain ⟨calls, perm, rfl⟩ := same
    simp only [Program.onService, System.startService]
    cases Pool.start config with
    | error error => exact ⟨_, ⟨calls, perm, rfl⟩, rfl⟩
    | ok pool => exact ⟨_, ⟨calls, perm, rfl⟩, rfl⟩
  | retain service => exact ⟨_, same.updateService service _, rfl⟩
  | drop service => exact ⟨_, same.dropReference service, rfl⟩
  | shutdown service => exact ⟨_, same.shutdown service, rfl⟩

theorem keep (handle : FileHandle) : (program.keep handle).Reordered (other.keep handle) := by
  obtain ⟨system, same, rfl⟩ := same
  simp only [Program.keep]
  split
  next => exact ⟨_, same, rfl⟩
  next => exact ⟨_, same, rfl⟩

theorem submit (service : ServiceId) (imp : Implementation) (request : Request)
    (buffers : List Bytes) : (program.submit service imp request buffers).Reordered
      (other.submit service imp request buffers) := by
  obtain ⟨system, same, rfl⟩ := same
  simp only [Program.submit, same.service]
  cases program.system.service? service with
  | none => exact ⟨_, same, rfl⟩
  | some found =>
    have begun : program.operation found.context imp request buffers =
        ({ program with system } : Program).operation found.context imp request buffers := by
      simp only [Program.operation, System.handleOf, same.state]
    exact ⟨_, same.submit service imp request buffers _, by simp only [begun]⟩

theorem onCall (service : ServiceId) (imp : Implementation) (call : ImplementationCall) :
    (program.onCall service imp call).Reordered (other.onCall service imp call) := by
  cases call with
  | submit request buffers => exact same.submit service imp request buffers
  | release =>
    obtain ⟨system, ⟨calls, perm, rfl⟩, rfl⟩ := same
    have released : Reordered { program with system := (program.system.release imp).2 }
        { program with system := ((program.system.relog calls).release imp).2 } :=
      ⟨_, ⟨calls, perm, rfl⟩, rfl⟩
    exact released.keep (program.system.release imp).1
  | openPath path args =>
    obtain ⟨system, same, rfl⟩ := same
    obtain ⟨later, reordered, equation⟩ := same.openFile imp path args
    exact ⟨later, reordered, by simp only [Program.onCall, equation]⟩
  | assign handle =>
    obtain ⟨system, same, rfl⟩ := same
    obtain ⟨later, reordered, equation⟩ := same.assign imp handle
    simp only [Program.onCall, equation]
    rcases assigned : program.system.assign imp handle with ⟨error | done, _⟩
    all_goals
      rw [assigned] at reordered
      exact ⟨later, reordered, rfl⟩
  | close =>
    obtain ⟨system, same, rfl⟩ := same
    obtain ⟨later, reordered, equation⟩ := same.closeState imp.state
    exact ⟨later, reordered, by simp only [Program.onCall, System.close, equation]⟩
  | cancel =>
    obtain ⟨system, same, rfl⟩ := same
    obtain ⟨later, reordered, equation⟩ := same.cancel imp
    exact ⟨later, reordered, by simp only [Program.onCall, equation]⟩
  | ask question =>
    obtain ⟨system, same, rfl⟩ := same
    obtain ⟨later, reordered, equation⟩ := same.ask question imp
    exact ⟨later, reordered, congrArg (fun system => { program with system }) equation.2⟩

theorem onImplementation (act : ImplementationAct) :
    (program.onImplementation act).Reordered (other.onImplementation act) := by
  cases act with
  | call service imp call => exact same.onCall service imp call
  | construct service =>
    obtain ⟨system, same, rfl⟩ := same
    obtain ⟨later, reordered, equation⟩ := same.construct service
    exact ⟨later, reordered, by simp only [Program.onImplementation, equation]⟩
  | moveConstruct service otherService source =>
    obtain ⟨system, same, rfl⟩ := same
    obtain ⟨later, reordered, equation⟩ := same.moveConstruct service otherService source
    exact ⟨later, reordered, by simp only [Program.onImplementation, equation]⟩
  | moveAssign service imp otherService source =>
    obtain ⟨system, same, rfl⟩ := same
    obtain ⟨later, reordered, equation⟩ := same.moveAssign service imp otherService source
    exact ⟨later, reordered, by simp only [Program.onImplementation, equation]⟩
  | destroy service imp =>
    obtain ⟨system, same, rfl⟩ := same
    exact ⟨_, same.destroy service imp, rfl⟩
  | forget imp =>
    obtain ⟨system, same, rfl⟩ := same
    exact ⟨system, same, rfl⟩

theorem onFile (act : FileAct) : (program.onFile act).Reordered (other.onFile act) := by
  obtain ⟨system, same, rfl⟩ := same
  cases act with
  | new service =>
    obtain ⟨later, reordered, equation⟩ := File.reordered_new same service
    exact ⟨later, reordered, by simp only [Program.onFile, equation]⟩
  | openNew service path args =>
    obtain ⟨later, reordered, equation⟩ := File.reordered_openNew same service path args
    simp only [Program.onFile, equation]
    rcases opened : File.openNew service path args program.system with ⟨error | file, _⟩
    all_goals
      rw [opened] at reordered
      exact ⟨later, reordered, rfl⟩
  | take file =>
    obtain ⟨later, reordered, equation⟩ := File.reordered_take same file
    exact ⟨later, reordered, by simp only [Program.onFile, equation]⟩
  | moveFrom file source =>
    obtain ⟨later, reordered, equation⟩ := File.reordered_moveFrom same file source
    exact ⟨later, reordered, by simp only [Program.onFile, equation]⟩
  | drop file => exact ⟨_, File.reordered_drop same file, rfl⟩

theorem onOwner (act : OwnerAct) : (program.onOwner act).Reordered (other.onOwner act) := by
  obtain ⟨system, ⟨calls, perm, rfl⟩, rfl⟩ := same
  have called {α : Type} {call : Host → α × Host} (unlogged : Unlogged call) :
      ∃ later, (call program.system.host).2.Reordered later ∧
        call (program.system.relog calls).host = ((call program.system.host).1, later) :=
    unlogged.reordered ⟨calls, perm, rfl⟩
  cases act with
  | wrap handle => exact ⟨_, ⟨calls, perm, rfl⟩, rfl⟩
  | release owner =>
    have left : Reordered { program with owners := owner.release.2 :: program.owners.erase owner }
        { program with
          system := program.system.relog calls
          owners := owner.release.2 :: program.owners.erase owner } :=
      ⟨_, ⟨calls, perm, rfl⟩, rfl⟩
    exact left.keep owner.release.1
  | openPath path args =>
    obtain ⟨_, ⟨last, moved, rfl⟩, asked⟩ := called (FileHandle.unlogged_openPath path args)
    simp only [Program.onOwner, Owner.openPath, asked]
    rcases opened : FileHandle.openPath path args program.system.host with ⟨error | handle, _⟩
    all_goals
      rw [opened] at moved
      exact ⟨_, ⟨last, moved, rfl⟩, rfl⟩
  | duplicate handle =>
    obtain ⟨_, ⟨last, moved, rfl⟩, asked⟩ := called handle.unlogged_duplicate
    simp only [Program.onOwner, Owner.duplicate, asked]
    rcases copied : handle.duplicate program.system.host with ⟨error | copy, _⟩
    all_goals
      rw [copied] at moved
      exact ⟨_, ⟨last, moved, rfl⟩, rfl⟩
  | reset owner handle =>
    obtain ⟨_, ⟨last, moved, rfl⟩, asked⟩ := called owner.handle.unlogged_close
    simp only [Program.onOwner, Owner.reset, Owner.close, asked]
    rcases closed : owner.handle.close program.system.host with ⟨error | done, _⟩
    all_goals
      rw [closed] at moved
      exact ⟨_, ⟨last, moved, rfl⟩, rfl⟩
  | close owner | drop owner =>
    obtain ⟨_, ⟨last, moved, rfl⟩, asked⟩ := called owner.handle.unlogged_close
    simp only [Program.onOwner, Owner.drop, Owner.close, asked]
    exact ⟨_, ⟨last, moved, rfl⟩, rfl⟩
  | discard handle =>
    obtain ⟨_, ⟨last, moved, rfl⟩, asked⟩ := called handle.unlogged_close
    simp only [Program.onOwner, asked]
    exact ⟨_, ⟨last, moved, rfl⟩, rfl⟩

theorem work (service : ServiceId) (worker : Nat) :
    (program.perform (.work service worker)).Reordered (other.perform (.work service worker)) := by
  obtain ⟨system, same, rfl⟩ := same
  have stepped := same.workerStep (fun _ => false) service worker
  simp only [Program.perform]
  generalize program.system.workerStep? (fun _ => false) service worker = outcome at stepped ⊢
  generalize system.workerStep? (fun _ => false) service worker = next at stepped ⊢
  cases stepped with
  | none => exact ⟨system, same, rfl⟩
  | some moved => exact ⟨_, moved, rfl⟩

theorem perform (act : Act) : (program.perform act).Reordered (other.perform act) := by
  cases act with
  | context act => exact same.onContext act
  | service act => exact same.onService act
  | implementation act => exact same.onImplementation act
  | file act => exact same.onFile act
  | owner act => exact same.onOwner act
  | work service worker => exact same.work service worker
  | outside host =>
    obtain ⟨system, ⟨calls, perm, rfl⟩, rfl⟩ := same
    exact ⟨_, .refl _, rfl⟩

end Reordered

end Program

end AsyncFiles
