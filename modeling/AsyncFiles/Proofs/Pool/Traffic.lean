import AsyncFiles.Proofs.Pool.Calls

/-!
A pool in use. Any number of submissions and shutdowns are under way, begun by threads outside or by
workers from within their tasks, and their steps and those of the workers come in any order.
-/
namespace AsyncFiles

open Error

/-- A task in a pool: the submission it came with, and whether it has come to its end. -/
structure Job where
  number : Nat
  spent : Bool := false

def Worker.running? : Worker Job → Option Nat
  | .busy job => if job.spent then none else some job.number
  | .idle | .left => none

/-- How a task ends. A worker catches what unwinds. -/
inductive Ending
  | returned
  | unwound

/-- A call under way, with the worker it is made from. Threads outside have no number. -/
structure PoolCall (Stage : Type) where
  caller : Option Nat
  stage : Stage

structure Traffic where
  pool : Pool Job
  /-- All submissions, in the order in which they began. A task has the number of its submission. -/
  submissions : List (PoolCall Submission) := []
  closings : List (PoolCall Closing) := []
  accepted : List Nat := []
  /-- The tasks that workers have taken and begun to run, in order. -/
  taken : List Nat := []
  ended : List (Nat × Ending) := []
  /-- The tasks dropped by their submissions. -/
  dropped : List Nat := []

namespace Traffic

inductive Act
  | submit (caller : Option Nat)
  /-- The next step of a submission. A worker that waits can be handed the task. -/
  | advance (number receiver : Nat)
  | close (caller : Option Nat)
  | wind (closing : Nat)
  | take (worker : Nat)
  | endTask (worker : Nat) (ending : Ending)
  | countOff (worker : Nat)
  | leave (worker : Nat)

def fresh (capacity : Option Nat) (threads : Nat) : Traffic := { pool := .fresh capacity threads }

def job? (traffic : Traffic) (worker : Nat) : Option Job :=
  (traffic.pool.workers[worker]?).bind Worker.task?

/-- A worker begins calls only from within its task. -/
def canCall (traffic : Traffic) : Option Nat → Bool
  | none => true
  | some worker => (traffic.job? worker).any fun job => !job.spent

def engaged (traffic : Traffic) (worker : Nat) : Bool :=
  (traffic.submissions.any fun call => call.caller = some worker && !call.stage.isOver) ||
    traffic.closings.any fun call => call.caller = some worker && !call.stage.isOver

def note (traffic : Traffic) (number : Nat) : Submission → Submission → Traffic
  | .counted, .accepted =>
    { traffic with
      accepted := traffic.accepted ++ [number]
      taken := if traffic.pool.capacity = some 0 then traffic.taken ++ [number] else traffic.taken }
  | .discounted _, _ | .turnedAway, _ => { traffic with dropped := traffic.dropped ++ [number] }
  | _, _ => traffic

def put (traffic : Traffic) (number : Nat) (call : PoolCall Submission)
    (next : Pool Job × Submission) : Traffic :=
  { traffic with
    pool := next.1
    submissions := traffic.submissions.set number { call with stage := next.2 } }

def advance (traffic : Traffic) (number receiver : Nat) : Traffic :=
  match traffic.submissions[number]? with
  | none => traffic
  | some call =>
    let next := call.stage.next traffic.pool { number } receiver
    (traffic.put number call next).note number call.stage next.2

def wind (traffic : Traffic) (closing : Nat) : Traffic :=
  match traffic.closings[closing]? with
  | none => traffic
  | some call =>
    let (pool, stage) := call.stage.next call.caller traffic.pool
    { traffic with pool, closings := traffic.closings.set closing { call with stage } }

def take (traffic : Traffic) (worker : Nat) : Traffic :=
  match traffic.pool.dequeue? worker with
  | none => traffic
  | some pool =>
    { traffic with pool, taken := traffic.taken ++ (traffic.pool.queue.take 1).map Job.number }

def endTask (traffic : Traffic) (worker : Nat) (ending : Ending) : Traffic :=
  match traffic.job? worker with
  | none => traffic
  | some job =>
    if job.spent || traffic.engaged worker then traffic
    else
      { traffic with
        pool := traffic.pool.setWorker worker (.busy { job with spent := true })
        ended := traffic.ended ++ [(job.number, ending)] }

def countOff (traffic : Traffic) (worker : Nat) : Traffic :=
  if (traffic.job? worker).any Job.spent then { traffic with pool := traffic.pool.finish worker }
  else traffic

def leave (traffic : Traffic) (worker : Nat) : Traffic :=
  match traffic.pool.leave? worker with
  | none => traffic
  | some pool => { traffic with pool }

/-- What an act makes of the traffic. One that is not possible changes nothing. -/
def step (traffic : Traffic) : Act → Traffic
  | .submit caller =>
    if traffic.canCall caller then
      { traffic with submissions := traffic.submissions ++ [{ caller, stage := .begun }] }
    else traffic
  | .advance number receiver => traffic.advance number receiver
  | .close caller =>
    if traffic.canCall caller then
      { traffic with closings := traffic.closings ++ [{ caller, stage := .begun }] }
    else traffic
  | .wind closing => traffic.wind closing
  | .take worker => traffic.take worker
  | .endTask worker ending => traffic.endTask worker ending
  | .countOff worker => traffic.countOff worker
  | .leave worker => traffic.leave worker

def run (traffic : Traffic) (acts : List Act) : Traffic := acts.foldl step traffic

def running (traffic : Traffic) : List Nat := traffic.pool.workers.filterMap Worker.running?

/-- How many submissions have counted in a task that is not accepted. -/
def unsettled (traffic : Traffic) : Nat := traffic.submissions.countP fun call => call.stage.counts

end Traffic

end AsyncFiles
