import AsyncFiles.Cancellation
import AsyncFiles.Context
import AsyncFiles.Handle.Metadata
import AsyncFiles.Handle.Transfer
import AsyncFiles.Pool.Basic
import AsyncFiles.Registry

/-!
File services over a shared host. Each implementation of a file points to a state, which holds the
current handle and a cancellation source; the service that owns the implementation has the same
state in its registry. Handlers are of any type.
-/
namespace AsyncFiles

open Access Error Host

abbrev ContextId := Nat
abbrev StateId := Nat
abbrev ServiceId := Nat

structure FileState where
  handle : FileHandle := .closed
  source : Cancellation.Source := {}
  deriving DecidableEq, Inhabited

namespace FileState

/-- First half of adoption: the handle goes in if nothing is open. -/
def install? (state : FileState) (handle : FileHandle) : Option FileState :=
  if state.handle.isOpen then none else some { state with handle }

def revive (state : FileState) : FileState := { state with source := state.source.reset }

def adopt? (state : FileState) (handle : FileHandle) : Option FileState :=
  (state.install? handle).map revive

/-- First half of release. -/
def endSource (state : FileState) : FileState := { state with source := state.source.destroy }

def takeHandle (state : FileState) : FileHandle × FileState :=
  (state.handle, { state with handle := .closed })

def release (state : FileState) : FileHandle × FileState := state.endSource.takeHandle

def cancel (state : FileState) : FileState := { state with source := state.source.cancel }

end FileState

structure Implementation where
  key : RegistryKey
  owner : ServiceId
  state : StateId
  deriving DecidableEq, Inhabited

inductive Direction
  | read
  | write
  deriving DecidableEq

structure Request where
  direction : Direction
  offset : Option Nat := none
  deriving DecidableEq

structure Operation (Handler : Type) where
  context : ContextId
  state : StateId
  token : Cancellation.Token
  handle : FileHandle
  request : Request
  buffers : List Bytes
  handler : Handler

/-- How far a worker has come with an operation. Its transfer may stall at a pipe. Once its outcome
is delivered only the guard on the context and the pool's count are left to give back. -/
inductive Task (Handler : Type)
  | issued (operation : Operation Handler)
  | admitted (operation : Operation Handler)
  | stalled (operation : Operation Handler) (call : Stalled)
  | delivered (context : ContextId)
  | settled

structure Completion where
  result : Except FileError Nat
  buffers : List Bytes

/-- A handler in a context's queue. One that was merely posted has no completion. -/
structure Invocation (Handler : Type) where
  handler : Handler
  completion : Option Completion := none

structure Service (Handler : Type) where
  context : ContextId
  config : PoolConfig
  pool : Pool (Task Handler)
  registry : Registry StateId := {}
  shutDown : Bool := false
  references : Nat := 1

structure System (Handler : Type) where
  host : Host
  contexts : List (Context (Invocation Handler)) := []
  states : List FileState := []
  services : List (Service Handler) := []

namespace System

variable {Handler : Type}

def context? (system : System Handler) (context : ContextId) :
    Option (Context (Invocation Handler)) := system.contexts[context]?

def service? (system : System Handler) (service : ServiceId) : Option (Service Handler) :=
  system.services[service]?

def state (system : System Handler) (state : StateId) : FileState :=
  (system.states[state]?).getD {}

def updateContext (system : System Handler) (context : ContextId)
    (change : Context (Invocation Handler) → Context (Invocation Handler)) : System Handler :=
  { system with contexts := system.contexts.modify context change }

def updateState (system : System Handler) (state : StateId)
    (change : FileState → FileState) : System Handler :=
  { system with states := system.states.modify state change }

def updateService (system : System Handler) (service : ServiceId)
    (change : Service Handler → Service Handler) : System Handler :=
  { system with services := system.services.modify service change }

def updatePool (system : System Handler) (service : ServiceId)
    (change : Pool (Task Handler) → Pool (Task Handler)) : System Handler :=
  system.updateService service fun found => { found with pool := change found.pool }

def updateRegistry (system : System Handler) (service : ServiceId)
    (change : Registry StateId → Registry StateId) : System Handler :=
  system.updateService service fun found => { found with registry := change found.registry }

def onHost {α : Type} (system : System Handler) (call : Host → α × Host) : α × System Handler :=
  let (result, host) := call system.host
  (result, { system with host })

def newContext (system : System Handler) : ContextId × System Handler :=
  (system.contexts.length, { system with contexts := system.contexts ++ [{}] })

def post (system : System Handler) (context : ContextId) (invocation : Invocation Handler) :
    System Handler :=
  system.updateContext context fun found => found.post invocation

def workStarted (system : System Handler) (context : ContextId) : System Handler :=
  system.updateContext context Context.workStarted

def workFinished (system : System Handler) (context : ContextId) : System Handler :=
  system.updateContext context Context.workFinished

/-- A service with no files. Its first reference belongs to the caller. -/
def startService (system : System Handler) (context : ContextId) (config : PoolConfig) :
    Except StartError (ServiceId × System Handler) :=
  (Pool.start config).map fun pool =>
    (system.services.length,
      { system with services := system.services ++ [{ context, config, pool }] })

def addState (system : System Handler) : StateId × System Handler :=
  (system.states.length, { system with states := system.states ++ [{}] })

def register (system : System Handler) (service : ServiceId) (state : StateId) :
    RegistryKey × System Handler :=
  match system.service? service with
  | none => (default, system)
  | some found =>
    let (key, registry) := found.registry.insert state
    (key, system.updateRegistry service fun _ => registry)

def handleOf (system : System Handler) (imp : Implementation) : FileHandle :=
  (system.state imp.state).handle

def isShutDown (system : System Handler) (service : ServiceId) : Bool :=
  ((system.service? service).map Service.shutDown).getD false

end System

end AsyncFiles
