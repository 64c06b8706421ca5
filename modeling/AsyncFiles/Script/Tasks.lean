import AsyncFiles.Pool.Basic
import AsyncFiles.Script.Names

/-!
Scripts on a worker pool. Tasks leave notes in one log. Workers are eager: they go on until they
have nothing to do, stand at a blocking task that is not released, or wait for the others to leave.
-/
namespace AsyncFiles.Script

open Error

inductive Job
  | plain
  | tellThread
  | panic
  | shutDown
  /-- Has shut the pool down and waits for the other workers to leave. -/
  | joining
  | submit (inner : Name)
  | block

structure NamedTask where
  name : Name
  job : Job := .plain

inductive Note
  | ran (task : Name)
  | ranOn (task : Name) (thread : String)
  | panicking (task : Name)
  | shutDownFrom (task : Name)
  | submitted (task : Name) (result : Except PoolError Unit)
  | dropped (task : Name)

inductive PoolCommand
  | execute (task : NamedTask)
  | release (task : Name)
  | idle
  | pending
  | state
  | log
  | shutdown
  /-- Shuts the pool down while tasks block, offers one more, then releases those that block. -/
  | shutdownReleasing (task : Name)

inductive PoolReply
  | nothing
  | number (value : Nat)
  | accepted (result : Except PoolError Unit)
  | state (running : Bool) (threads : Nat) (text : String)
  | notes (notes : List Note)

structure PoolSession where
  config : PoolConfig
  pool : Pool NamedTask
  blocking : List Name := []
  notes : List Note := []

namespace PoolSession

def start (config : PoolConfig) : Except StartError PoolSession :=
  (Pool.start config).map fun pool => { config, pool }

def note (session : PoolSession) (note : Note) : PoolSession :=
  { session with notes := session.notes ++ [note] }

/-- Offers a task. A refused one is dropped, and says so unless it only blocks. -/
def offer (session : PoolSession) (task : NamedTask) : Except PoolError Unit × PoolSession :=
  match session.pool.execute task with
  | .ok pool => (.ok (), { session with pool })
  | .error error =>
    match task.job with
    | .block => (.error error, session)
    | _ => (.error error, session.note (.dropped task.name))

def finish (session : PoolSession) (worker : Nat) : PoolSession :=
  { session with pool := session.pool.finish worker }

def othersLeft (session : PoolSession) (worker : Nat) : Bool :=
  session.pool.workers.zipIdx.all fun (state, other) => other == worker || state.hasLeft

def taskStep? (session : PoolSession) (worker : Nat) (task : NamedTask) : Option PoolSession :=
  match task.job with
  | .plain => some ((session.note (.ran task.name)).finish worker)
  | .tellThread =>
    some ((session.note (.ranOn task.name (session.config.workerName worker))).finish worker)
  | .panic => some ((session.note (.panicking task.name)).finish worker)
  | .shutDown =>
    let pool := session.pool.close
    if pool.joined then
      some (({ session with pool }.note (.shutDownFrom task.name)).finish worker)
    else
      let joining := { pool with joined := true }
      some { session with pool := joining.setWorker worker (.busy { task with job := .joining }) }
  | .joining =>
    if session.othersLeft worker then
      some ((session.note (.shutDownFrom task.name)).finish worker)
    else none
  | .submit inner =>
    let (result, session) := session.offer { name := inner }
    some ((session.note (.submitted task.name result)).finish worker)
  | .block =>
    if session.blocking.contains task.name then none else some (session.finish worker)

def workerStep? (session : PoolSession) (worker : Nat) : Option PoolSession :=
  match session.pool.workers[worker]? with
  | some (.busy task) => session.taskStep? worker task
  | some .idle =>
    ((session.pool.dequeue? worker).or (session.pool.leave? worker)).map fun pool =>
      { session with pool }
  | _ => none

/-- A bound on the steps that a task takes, those of a task it submits included. -/
def taskWeight (task : NamedTask) : Nat :=
  match task.job with
  | .submit _ => 6
  | _ => 3

def weight (session : PoolSession) : Nat :=
  ((session.pool.queue ++ session.pool.held).map taskWeight).foldl (· + ·) 0 +
    session.pool.workers.length

def settle : Nat → PoolSession → PoolSession
  | 0, session => session
  | fuel + 1, session =>
    match (List.range session.pool.workers.length).findSome? session.workerStep? with
    | none => session
    | some session => session.settle fuel

def work (session : PoolSession) : PoolSession := session.settle (session.weight + 1)

def shutdown (session : PoolSession) : PoolSession :=
  { session with pool := { session.pool.close with joined := true } }

def respond (session : PoolSession) : PoolCommand → PoolReply × PoolSession
  | .execute task =>
    let session := match task.job with
      | .block => { session with blocking := task.name :: session.blocking }
      | _ => session
    let (result, session) := session.offer task
    (.accepted result, session)
  | .release task =>
    (.nothing,
      { session with blocking := session.blocking.filter fun blocking => blocking ≠ task })
  | .idle => (.nothing, session)
  | .pending => (.number session.pool.pending, session)
  | .state =>
    (.state session.pool.running session.pool.workers.length session.pool.describe, session)
  | .log => (.notes session.notes, { session with notes := [] })
  | .shutdown => (.nothing, session.shutdown)
  | .shutdownReleasing task =>
    let (result, session) := session.shutdown.offer { name := task }
    (.accepted result, { session with blocking := [] })

/-- Answers a command; the workers have settled before it and settle again after it. -/
def perform (session : PoolSession) (command : PoolCommand) : PoolReply × PoolSession :=
  let (reply, session) := session.respond command
  (reply, session.work)

def performAll (session : PoolSession) : List PoolCommand → List PoolReply
  | [] => []
  | command :: rest =>
    let (reply, session) := session.perform command
    reply :: session.performAll rest

end PoolSession

end AsyncFiles.Script
