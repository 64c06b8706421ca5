import AsyncFiles.Script.Session

/-!
Programs over the library: what a caller, its handlers, the threads that run contexts, the workers
and the rest of the world can do, one call or one worker's step at a time and in any order. A
program keeps the values that it was given and that only it can hand back, and it remembers which
operations it has started and which handlers were called.
-/
namespace AsyncFiles

open Access Error Host

/-- A handler, known by the operation it was given to. One that was merely posted has none. -/
abbrev Ticket := Option Nat

structure Initiation where
  service : ServiceId
  operation : Operation Ticket

structure Program where
  system : System Ticket
  implementations : List Implementation := []
  /-- Implementations that went out of use without being destroyed. -/
  forgotten : List Implementation := []
  files : List File := []
  owners : List Owner := []
  /-- Open handles that are the caller's own. -/
  loose : List FileHandle := []
  initiated : List Initiation := []
  serving : List ContextId := []
  /-- The handlers called so far, with the contexts that called them. -/
  invoked : List (ContextId × Invocation Ticket) := []

inductive ContextAct
  | create
  | post (context : ContextId)
  /-- A thread that runs the context looks for a handler, and calls it. -/
  | serve (context : ContextId)
  /-- A handler that runs comes to its end. -/
  | leave (context : ContextId)
  | guard (context : ContextId)
  | unguard (context : ContextId)
  | stop (context : ContextId)
  | restart (context : ContextId)

inductive ServiceAct
  | start (context : ContextId) (config : PoolConfig)
  | retain (service : ServiceId)
  | drop (service : ServiceId)
  | shutdown (service : ServiceId)

/-- What can be asked synchronously of the file behind a handle. Bytes are read into buffers of the
caller's, or into fresh ones. -/
inductive Question
  | inquire (inquiry : Script.Inquiry)
  | read (buffers : List Bytes) (offset : Option Nat)

def Question.ask (question : Question) (handle : FileHandle) (host : Host) :
    Script.Reply × Host :=
  match question with
  | .inquire inquiry => Script.Session.inquire handle inquiry host
  | .read buffers offset =>
    let (result, buffers, host) := handle.readSome buffers offset host
    (.transferred result buffers, host)

/-- Calls that leave an implementation in place. -/
inductive ImplementationCall
  | openPath (path : Path) (args : OpenArgs)
  | assign (handle : FileHandle)
  | close
  | release
  | cancel
  | ask (question : Question)
  | submit (request : Request) (buffers : List Bytes)

inductive ImplementationAct
  | construct (service : ServiceId)
  | moveConstruct (service otherService : ServiceId) (other : Implementation)
  | moveAssign (service : ServiceId) (imp : Implementation) (otherService : ServiceId)
    (other : Implementation)
  | destroy (service : ServiceId) (imp : Implementation)
  | forget (imp : Implementation)
  | call (service : ServiceId) (imp : Implementation) (call : ImplementationCall)

inductive FileAct
  | new (service : ServiceId)
  | openNew (service : ServiceId) (path : Path) (args : OpenArgs)
  | take (file : File)
  | moveFrom (file other : File)
  | drop (file : File)

inductive OwnerAct
  | openPath (path : Path) (args : OpenArgs)
  | wrap (handle : FileHandle)
  | duplicate (handle : FileHandle)
  | reset (owner : Owner) (handle : FileHandle)
  | release (owner : Owner)
  | close (owner : Owner)
  | drop (owner : Owner)
  | discard (handle : FileHandle)

inductive Act
  | context (act : ContextAct)
  | service (act : ServiceAct)
  | implementation (act : ImplementationAct)
  | file (act : FileAct)
  | owner (act : OwnerAct)
  | work (service : ServiceId) (worker : Nat)
  /-- What else becomes of the host: other programs, transfers through a handle itself, and what the
  caller opens by other means. -/
  | outside (host : Host)

namespace System

def references {Handler : Type} (system : System Handler) (service : ServiceId) : Nat :=
  ((system.service? service).map Service.references).getD 0

end System

namespace Host

def openHandles (host : Host) : List FileHandle :=
  ((List.range host.descriptors.length).filter fun raw : Nat =>
    (host.descriptor? raw).isSome).map fun raw : Nat => ⟨raw⟩

/-- The handles of the descriptors that only the later of two hosts has open. -/
def newHandles (host later : Host) : List FileHandle :=
  later.openHandles.filter fun handle => (host.descriptor? handle.raw).isNone

end Host

namespace Program

/-- A program that has not begun. Everything open is the caller's. -/
def fresh (host : Host) : Program := { system := { host }, loose := host.openHandles }

def live (program : Program) : List Implementation :=
  program.implementations ++ program.files.map File.implementation

def bound (program : Program) (service : ServiceId) : Nat :=
  program.files.countP fun file => file.service = service

def keep (program : Program) (handle : FileHandle) : Program :=
  if handle.isOpen then { program with loose := handle :: program.loose } else program

def withHost (program : Program) (host : Host) : Program :=
  { program with system := { program.system with host } }

def onContext (program : Program) : ContextAct → Program
  | .create => { program with system := program.system.newContext.2 }
  | .post context => { program with system := program.system.post context { handler := none } }
  | .serve context =>
    match ((program.system.context? context).getD {}).turn with
    | .take invocation rest =>
      { program with
        system := program.system.updateContext context fun _ => rest
        serving := context :: program.serving
        invoked := program.invoked ++ [(context, invocation)] }
    | .wait | .leave => program
  | .leave context =>
    { program with
      system := program.system.workFinished context
      serving := program.serving.erase context }
  | .guard context => { program with system := program.system.workStarted context }
  | .unguard context => { program with system := program.system.workFinished context }
  | .stop context => { program with system := program.system.updateContext context Context.stop }
  | .restart context =>
    { program with system := program.system.updateContext context Context.restart }

def onService (program : Program) : ServiceAct → Program
  | .start context config =>
    match program.system.startService context config with
    | .ok (_, system) => { program with system }
    | .error _ => program
  | .retain service => { program with system := program.system.retain service }
  | .drop service => { program with system := program.system.dropReference service }
  | .shutdown service => { program with system := program.system.shutdown service }

def operation (program : Program) (context : ContextId) (imp : Implementation) (request : Request)
    (buffers : List Bytes) : Operation Ticket :=
  { context
    state := imp.state
    token := (program.system.state imp.state).source.token
    handle := program.system.handleOf imp
    request
    buffers
    handler := some program.initiated.length }

def submit (program : Program) (service : ServiceId) (imp : Implementation) (request : Request)
    (buffers : List Bytes) : Program :=
  match program.system.service? service with
  | none => program
  | some found =>
    { program with
      system := program.system.submit service imp request buffers (some program.initiated.length)
      initiated := program.initiated ++
        [{ service, operation := program.operation found.context imp request buffers }] }

def onCall (program : Program) (service : ServiceId) (imp : Implementation) :
    ImplementationCall → Program
  | .openPath path args => { program with system := (program.system.openFile imp path args).2 }
  | .assign handle =>
    match program.system.assign imp handle with
    | (.ok (), system) => { program with system, loose := program.loose.erase handle }
    | (.error _, system) => { program with system }
  | .close => { program with system := (program.system.close imp).2 }
  | .release =>
    let (handle, system) := program.system.release imp
    { program with system }.keep handle
  | .cancel => { program with system := (program.system.cancel imp).2 }
  | .ask question =>
    program.withHost (question.ask (program.system.handleOf imp) program.system.host).2
  | .submit request buffers => program.submit service imp request buffers

def onImplementation (program : Program) : ImplementationAct → Program
  | .construct service =>
    let (imp, system) := program.system.construct service
    { program with system, implementations := imp :: program.implementations }
  | .moveConstruct service otherService other =>
    let (imp, rest, system) := program.system.moveConstruct service otherService other
    { program with
      system
      implementations := imp :: rest :: program.implementations.erase other }
  | .moveAssign service imp otherService other =>
    let (target, rest, system) := program.system.moveAssign service imp otherService other
    { program with
      system
      implementations := target :: rest :: (program.implementations.erase imp).erase other }
  | .destroy service imp =>
    { program with
      system := program.system.destroy service imp
      implementations := program.implementations.erase imp }
  | .forget imp =>
    { program with
      implementations := program.implementations.erase imp
      forgotten := imp :: program.forgotten }
  | .call service imp call => program.onCall service imp call

def onFile (program : Program) : FileAct → Program
  | .new service =>
    let (file, system) := File.new service program.system
    { program with system, files := file :: program.files }
  | .openNew service path args =>
    match File.openNew service path args program.system with
    | (.ok file, system) => { program with system, files := file :: program.files }
    | (.error _, system) => { program with system }
  | .take file =>
    let (taken, rest, system) := file.take program.system
    { program with system, files := taken :: rest :: program.files.erase file }
  | .moveFrom file other =>
    let (target, rest, system) := file.moveFrom other program.system
    { program with system, files := target :: rest :: (program.files.erase file).erase other }
  | .drop file =>
    { program with system := file.drop program.system, files := program.files.erase file }

def onOwner (program : Program) : OwnerAct → Program
  | .openPath path args =>
    match Owner.openPath path args program.system.host with
    | (.ok owner, host) => { program.withHost host with owners := owner :: program.owners }
    | (.error _, host) => program.withHost host
  | .wrap handle =>
    { program with owners := ⟨handle⟩ :: program.owners, loose := program.loose.erase handle }
  | .duplicate handle =>
    match Owner.duplicate handle program.system.host with
    | (.ok owner, host) => { program.withHost host with owners := owner :: program.owners }
    | (.error _, host) => program.withHost host
  | .reset owner handle =>
    match owner.reset handle program.system.host with
    | (.ok (), next, host) =>
      { program.withHost host with
        owners := next :: program.owners.erase owner
        loose := program.loose.erase handle }
    | (.error _, next, host) =>
      { program.withHost host with owners := next :: program.owners.erase owner }
  | .release owner =>
    let (handle, next) := owner.release
    { program with owners := next :: program.owners.erase owner }.keep handle
  | .close owner =>
    let (_, next, host) := owner.close program.system.host
    { program.withHost host with owners := next :: program.owners.erase owner }
  | .drop owner =>
    { program.withHost (owner.drop program.system.host) with owners := program.owners.erase owner }
  | .discard handle =>
    { program.withHost (handle.close program.system.host).2 with
      loose := program.loose.erase handle }

def perform (program : Program) : Act → Program
  | .context act => program.onContext act
  | .service act => program.onService act
  | .implementation act => program.onImplementation act
  | .file act => program.onFile act
  | .owner act => program.onOwner act
  | .work service worker =>
    match program.system.workerStep? (fun _ => false) service worker with
    | some system => { program with system }
    | none => program
  | .outside host =>
    { program.withHost host with
      loose := program.system.host.newHandles host ++ program.loose }

/-- Whether a program has what an act takes: values that were not handed back, and a reference to
every service that is called. -/
def allows (program : Program) : Act → Bool
  | .context (.leave context) => program.serving.contains context
  | .context _ => true
  | .service (.start context _) => context < program.system.contexts.length
  | .service (.drop service) => program.bound service < program.system.references service
  | .service (.retain service) | .service (.shutdown service) =>
    0 < program.system.references service
  | .implementation (.construct service) => 0 < program.system.references service
  | .implementation (.moveConstruct service otherService other) =>
    0 < program.system.references service && 0 < program.system.references otherService &&
      program.implementations.contains other
  | .implementation (.moveAssign service imp otherService other) =>
    0 < program.system.references service && 0 < program.system.references otherService &&
      program.implementations.contains imp && (program.implementations.erase imp).contains other
  | .implementation (.destroy service imp) =>
    0 < program.system.references service && program.implementations.contains imp
  | .implementation (.forget imp) => program.implementations.contains imp
  | .implementation (.call service imp _) =>
    0 < program.system.references service && program.live.contains imp
  | .file (.new service) | .file (.openNew service _ _) => 0 < program.system.references service
  | .file (.take file) | .file (.drop file) => program.files.contains file
  | .file (.moveFrom file other) =>
    program.files.contains file && (program.files.erase file).contains other
  | .owner (.reset owner _) | .owner (.release owner) | .owner (.close owner)
  | .owner (.drop owner) => program.owners.contains owner
  | .owner _ | .work _ _ | .outside _ => true

/-- An act that the program has not the values for does not happen. -/
def step (program : Program) (act : Act) : Program :=
  if program.allows act then program.perform act else program

def run (program : Program) (acts : List Act) : Program := acts.foldl step program

@[simp] theorem run_nil (program : Program) : program.run [] = program := rfl

@[simp] theorem run_cons (program : Program) (act : Act) (rest : List Act) :
    program.run (act :: rest) = (program.step act).run rest := rfl

theorem run_append (program : Program) (first rest : List Act) :
    program.run (first ++ rest) = (program.run first).run rest :=
  List.foldl_append

theorem run_keeps {holds : Program → Prop}
    (kept : ∀ program act, holds program → program.allows act = true →
      holds (program.perform act))
    {program : Program} (first : holds program) (acts : List Act) : holds (program.run acts) := by
  induction acts generalizing program with
  | nil => exact first
  | cons act rest ih =>
    apply ih
    simp only [step]
    split
    next allowed => exact kept program act first allowed
    next => exact first

end Program

end AsyncFiles
