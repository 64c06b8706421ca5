import AsyncFiles.Pool.Config

/-!
A fixed number of workers that share one queue. A task is pending from before it is offered until
its worker has counted it off. Workers leave once nobody can offer a task any more and the queue is
empty, so everything accepted is run.
-/
namespace AsyncFiles

open Error

inductive Worker (Task : Type)
  | idle
  | busy (task : Task)
  | left

namespace Worker

variable {Task : Type}

def isIdle : Worker Task → Bool
  | .idle => true
  | _ => false

def hasLeft : Worker Task → Bool
  | .left => true
  | _ => false

def task? : Worker Task → Option Task
  | .busy task => some task
  | _ => none

end Worker

structure Pool (Task : Type) where
  capacity : Option Nat
  workers : List (Worker Task)
  queue : List Task := []
  running : Bool := true
  /-- The pool itself can still offer tasks. -/
  sending : Bool := true
  /-- Submissions under way that can still offer a task. -/
  lent : Nat := 0
  pending : Nat := 0
  joined : Bool := false

namespace Pool

variable {Task : Type}

def fresh (capacity : Option Nat) (threads : Nat) : Pool Task :=
  { capacity, workers := List.replicate threads .idle }

def start (config : PoolConfig) : Except StartError (Pool Task) :=
  if config.threads = 0 then .error (.refused .noThreads)
  else match config.misuse?, config.refusal? with
    | some misuse, _ => .error (.misused misuse)
    | none, some errno => .error (.refused (.spawn (.os errno)))
    | none, none => .ok (fresh config.queueCapacity config.threads)

def setWorker (pool : Pool Task) (worker : Nat) (state : Worker Task) : Pool Task :=
  { pool with workers := pool.workers.set worker state }

def lend (pool : Pool Task) : Pool Task := { pool with lent := pool.lent + 1 }

def giveBack (pool : Pool Task) : Pool Task := { pool with lent := pool.lent - 1 }

def countIn (pool : Pool Task) : Pool Task := { pool with pending := pool.pending + 1 }

def countOff (pool : Pool Task) : Pool Task := { pool with pending := pool.pending - 1 }

/-- Puts a task into the queue. With room for none, it is handed to a worker that waits for it. -/
def offer (pool : Pool Task) (task : Task) : Except PoolError (Pool Task) :=
  if pool.workers.all Worker.hasLeft then .error .shutDown
  else match pool.capacity with
    | some 0 =>
      match pool.workers.findIdx? Worker.isIdle with
      | some worker => .ok (pool.setWorker worker (.busy task))
      | none => .error .queueFull
    | some (room + 1) =>
      if pool.queue.length ≤ room then .ok { pool with queue := pool.queue ++ [task] }
      else .error .queueFull
    | none => .ok { pool with queue := pool.queue ++ [task] }

/-- Submits a task in one step. A refused task leaves no trace. -/
def execute (pool : Pool Task) (task : Task) : Except PoolError (Pool Task) :=
  if !pool.running || !pool.sending then .error .shutDown
  else (pool.lend.countIn.offer task).map giveBack

def dequeue? (pool : Pool Task) (worker : Nat) : Option (Pool Task) :=
  match pool.workers[worker]?, pool.queue with
  | some .idle, task :: rest => some ({ pool with queue := rest }.setWorker worker (.busy task))
  | _, _ => none

/-- A worker is done with its task, however that ended, and counts it off. -/
def finish (pool : Pool Task) (worker : Nat) : Pool Task := (pool.setWorker worker .idle).countOff

def leave? (pool : Pool Task) (worker : Nat) : Option (Pool Task) :=
  match pool.workers[worker]?, pool.queue with
  | some .idle, [] =>
    if !pool.sending && pool.lent = 0 then some (pool.setWorker worker .left) else none
  | _, _ => none

/-- First half of closing: submissions that begin now are refused. -/
def refuse (pool : Pool Task) : Pool Task := { pool with running := false }

/-- Second half of closing: only submissions under way can still offer a task. -/
def hangUp (pool : Pool Task) : Pool Task := { pool with sending := false }

def close (pool : Pool Task) : Pool Task := pool.refuse.hangUp

def allLeft (pool : Pool Task) : Bool := pool.workers.all Worker.hasLeft

def held (pool : Pool Task) : List Task := pool.workers.filterMap Worker.task?

def describe (pool : Pool Task) : String :=
  "ThreadPool \x7b num_threads: " ++ toString pool.workers.length ++ ", running: " ++
    toString pool.running ++ ", pending_tasks: " ++ toString pool.pending ++ " \x7d"

end Pool

end AsyncFiles
