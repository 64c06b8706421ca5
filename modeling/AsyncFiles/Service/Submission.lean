import AsyncFiles.Service.Basic

/-!
Asynchronous operations from their submission to the delivery of their outcome. Every outcome goes
through the context's queue, also that of an operation the pool refuses; nothing is called from
within the submission.
-/
namespace AsyncFiles

open Access Error Host

/-- What a transfer has come to: it waits for the other end of a pipe, or it has its result and the
buffers to hand back. -/
inductive Attempt
  | stalled (call : Stalled)
  | finished (result : Except FileError Nat) (buffers : List Bytes)

namespace Request

def perform (request : Request) (handle : FileHandle) (buffers : List Bytes) (host : Host) :
    Except FileError Nat × List Bytes × Host :=
  match request.direction with
  | .read => handle.readSome buffers request.offset host
  | .write =>
    let (result, host) := handle.writeSome buffers request.offset host
    (result, buffers, host)

/-- Begins a transfer that has to wait. One at an offset never does. -/
def stall? (request : Request) (handle : FileHandle) (buffers : List Bytes) (host : Host) :
    Option (Stalled × Host) :=
  match request.direction, request.offset with
  | .read, none => host.stallReading? handle.raw (Buffers.capacity buffers)
  | .write, none => host.stallWriting? handle.raw (Buffers.gather buffers)
  | _, some _ => none

def attempt (request : Request) (handle : FileHandle) (buffers : List Bytes) (host : Host) :
    Attempt × Host :=
  match request.stall? handle buffers host with
  | some (call, host) => (.stalled call, host)
  | none =>
    let (result, buffers, host) := request.perform handle buffers host
    (.finished result buffers, host)

end Request

def Attempt.resume? (buffers : List Bytes) (call : Stalled) (host : Host) :
    Option (Attempt × Host) :=
  match host.resume? call with
  | none => none
  | some (.stalled call, host) => some (.stalled call, host)
  | some (.received data, host) =>
    let (result, buffers) := FileHandle.received buffers data
    some (.finished result buffers, host)
  | some (.sent result, host) => some (.finished (FileHandle.lift result) buffers, host)

namespace System

variable {Handler : Type}

def deliver (system : System Handler) (operation : Operation Handler)
    (result : Except FileError Nat) (buffers : List Bytes) : System Handler :=
  system.post operation.context
    { handler := operation.handler, completion := some { result, buffers } }

/-- The token is taken before the handle, so a close in between ends the operation. The operation
keeps its context busy from before it is offered to the pool. -/
def submit (system : System Handler) (service : ServiceId) (imp : Implementation)
    (request : Request) (buffers : List Bytes) (handler : Handler) : System Handler :=
  match system.service? service with
  | none => system
  | some found =>
    let token := (system.state imp.state).source.token
    let operation : Operation Handler :=
      { context := found.context, state := imp.state, token, handle := system.handleOf imp,
        request, buffers, handler }
    let system := system.workStarted found.context
    match found.pool.execute (.issued operation) with
    | .ok pool => system.updatePool service fun _ => pool
    | .error _ =>
      (system.deliver operation (.error .aborted) buffers).workFinished found.context

def heldTask? (system : System Handler) (service : ServiceId) (worker : Nat) :
    Option (Task Handler) :=
  ((system.service? service).bind fun found => found.pool.workers[worker]?).bind Worker.task?

def holdTask (system : System Handler) (service : ServiceId) (worker : Nat)
    (task : Task Handler) : System Handler :=
  system.updatePool service fun pool => pool.setWorker worker (.busy task)

def isCancelled (system : System Handler) (operation : Operation Handler) : Bool :=
  operation.token.isCancelled (system.state operation.state).source

/-- A worker looks at the token: a cancelled operation is over, any other goes on to its
transfer. -/
def checkToken (system : System Handler) (service : ServiceId) (worker : Nat)
    (operation : Operation Handler) : System Handler :=
  if system.isCancelled operation then
    (system.deliver operation (.error .aborted) operation.buffers).holdTask service worker
      (.delivered operation.context)
  else system.holdTask service worker (.admitted operation)

def follow (system : System Handler) (service : ServiceId) (worker : Nat)
    (operation : Operation Handler) : Attempt → System Handler
  | .stalled call => system.holdTask service worker (.stalled operation call)
  | .finished result buffers =>
    (system.deliver operation result buffers).holdTask service worker
      (.delivered operation.context)

def transfer (system : System Handler) (service : ServiceId) (worker : Nat)
    (operation : Operation Handler) : System Handler :=
  let (attempt, host) :=
    operation.request.attempt operation.handle operation.buffers system.host
  { system with host }.follow service worker operation attempt

def resume? (system : System Handler) (service : ServiceId) (worker : Nat)
    (operation : Operation Handler) (call : Stalled) : Option (System Handler) :=
  (Attempt.resume? operation.buffers call system.host).map fun (attempt, host) =>
    { system with host }.follow service worker operation attempt

/-- The next step of a worker, if it has one: taking a task, looking at its token, its transfer,
giving back the guard and the count, leaving. `held` names operations whose transfer is not to
begin yet. -/
def workerStep? (system : System Handler) (held : Operation Handler → Bool) (service : ServiceId)
    (worker : Nat) : Option (System Handler) :=
  match system.service? service with
  | none => none
  | some found =>
    match system.heldTask? service worker with
    | some (.issued operation) => some (system.checkToken service worker operation)
    | some (.admitted operation) =>
      if held operation then none else some (system.transfer service worker operation)
    | some (.stalled operation call) => system.resume? service worker operation call
    | some (.delivered context) =>
      some ((system.workFinished context).holdTask service worker .settled)
    | some .settled => some (system.updatePool service fun pool => pool.finish worker)
    | none =>
      match found.pool.dequeue? worker with
      | some pool => some (system.updatePool service fun _ => pool)
      | none => (found.pool.leave? worker).map fun pool => system.updatePool service fun _ => pool

end System

end AsyncFiles
