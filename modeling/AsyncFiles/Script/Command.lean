import AsyncFiles.Handle.WholeFile
import AsyncFiles.Script.Names
import AsyncFiles.Service.Basic

/-!
Scripts: commands on named contexts, services, files and handles. A command may carry handlers, each
with commands of its own that run when the handler is called.
-/
namespace AsyncFiles.Script

open Access Error Host Time

/-- What can be asked of any open file, through a file object or through an owning handle. -/
inductive Inquiry
  | isOpen
  | size
  | position
  | setSize (size : Nat)
  | seek (origin : Origin) (offset : Int)
  | permissions
  | setPermissions (perms : FilePerms) (change : Change)
  | attributes
  | setAttributes (attrs : FileAttrs) (change : Change)
  | times
  | setTimes (times : FileTimes)
  | read (sizes : List Nat) (offset : Option Nat)
  | write (buffers : List Bytes) (offset : Option Nat)
  | readAll

inductive ContextAction
  | new
  | clone (copy : Name)
  | workStarted
  | workFinished
  | stop
  | restart
  | inside
  | state
  | guard (guard : Name)

inductive ServiceAction
  | new (context : Name) (config : PoolConfig)
  | clone (copy : Name)
  | drop
  | shutdown
  | shutdownReleasing
  | same (other : Name)
  | sameContext (context : Name)
  | isShutDown
  | live
  | settle
  | describe
  | registry

inductive FileAction
  | new (service : Name)
  | openNew (service : Name) (path : Path) (args : OpenArgs)
  | openFile (path : Path) (args : OpenArgs)
  | openRaced (path : Path) (args : OpenArgs) (rival : Int)
  | close
  | cancel
  | assign (owner : Name)
  | assignRaw (raw : Int)
  | release (owner : Name)
  | take (target : Name)
  | moveFrom (source : Name)
  | drop
  | rawIsSet
  | serviceIs (service : Name)
  | describe
  | inquire (inquiry : Inquiry)

inductive ImplementationAction
  | construct
  | openFile (path : Path) (args : OpenArgs)
  | assign (owner : Name)
  | assignRaw (raw : Int)
  | close
  | cancel
  | size
  | isOpen
  | describe
  | moveConstruct (source otherService : Name)
  | moveAssign (source otherService : Name)
  | destroy
  | forget

inductive OwnerAction
  | new
  | openPath (path : Path) (args : OpenArgs)
  | fromRaw (raw : Int)
  | duplicate (source : Name)
  | pipe (writer : Name)
  | drop
  | reset (source : Name)
  | close
  | release (target : Name)
  | same (other : Name)
  | closeCopy
  | readExact (count : Nat)
  | writeAll (data : Bytes)
  | describe
  | inquire (inquiry : Inquiry)

inductive StorageAction
  | writeWhole (data : Bytes)
  | readWhole
  | readText
  | pathExists
  | makeDirectory
  | remove

inductive Action
  | context (name : Name) (action : ContextAction)
  | resetGuard (guard : Name)
  | dropGuard (guard : Name)
  | service (name : Name) (action : ServiceAction)
  | file (name : Name) (action : FileAction)
  | implementation (name service : Name) (action : ImplementationAction)
  | owner (name : Name) (action : OwnerAction)
  | storage (path : Path) (action : StorageAction)
  | releaseGate (gate : Name)

inductive Drive
  | run
  | runOne
  | poll
  | pollOne
  deriving DecidableEq

namespace Drive

def isSingle : Drive → Bool
  | .runOne | .pollOne => true
  | .run | .poll => false

def waits : Drive → Bool
  | .run | .runOne => true
  | .poll | .pollOne => false

end Drive

inductive Target
  | file (name : Name)
  | implementation (name service : Name)

inductive Command
  | act (action : Action)
  | post (context handler : Name) (body : List Command)
  | dispatch (context handler : Name) (body : List Command)
  | submit (target : Target) (request : Request) (buffers : List Bytes) (gate : Option Name)
      (handler : Name) (body : List Command)
  | drive (context : Name) (drive : Drive)
  | remoteRun (context : Name) (posts : List (Name × List Command))
  | runThreads (context : Name) (threads : Nat)
  | panic (text : String)

/-- A handler with a gate waits with its transfer until the gate is released. -/
structure Handler where
  name : Name
  body : List Command
  gate : Option Name := none

/-- How many bytes an action can move at most, where it may take several steps to move them. -/
def Action.bytes : Action → Nat
  | .file _ (.inquire (.write buffers _)) | .owner _ (.inquire (.write buffers _)) =>
    buffers.flatten.length
  | .owner _ (.readExact count) => count
  | .owner _ (.writeAll data) => data.length
  | _ => 0

mutual

/-- A bound on the steps that a command takes, those of its handlers included. -/
def Command.weight : Command → Nat
  | .post _ _ body | .dispatch _ _ body | .submit _ _ _ _ _ body => 8 + weights body
  | .remoteRun _ posts => 8 + postWeights posts
  | .runThreads _ threads => 8 + 8 * threads
  | .act action => 8 + 3 * action.bytes
  | _ => 8

def weights : List Command → Nat
  | [] => 0
  | command :: rest => command.weight + weights rest

def postWeights : List (Name × List Command) → Nat
  | [] => 0
  | (_, body) :: rest => 8 + weights body + postWeights rest

end

def Handler.weight (handler : Handler) : Nat := 8 + weights handler.body

end AsyncFiles.Script
