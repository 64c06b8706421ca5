import AsyncFiles.Pool.Basic
import Mathlib.Logic.Function.Iterate

/-!
Calls on a pool, one step at a time. A submission looks at the flag, takes a sender of its own,
counts its task in and offers it; a refused task is counted off and dropped before the sender is
given back. A shutdown lowers the flag, takes the pool's own sender away, and the first to come that
far waits for the workers, except for the one that it is called from.
-/
namespace AsyncFiles

open Error

namespace Pool

variable {Task : Type} {pool later : Pool Task} {task : Task}

/-- Offers a task as `offer` does. With room for none it goes to the worker that is named, if that
waits for one. -/
def send (pool : Pool Task) (task : Task) (receiver : Nat) : Except PoolError (Pool Task) :=
  if pool.capacity = some 0 then
    if pool.allLeft then .error .shutDown
    else match pool.workers[receiver]? with
      | some .idle => .ok (pool.setWorker receiver (.busy task))
      | _ => .error .queueFull
  else pool.offer task

@[simp] theorem giveBack_countOff_countIn_lend (pool : Pool Task) :
    pool.lend.countIn.countOff.giveBack = pool := rfl

def isGone (pool : Pool Task) (worker : Nat) : Bool := (pool.workers[worker]?).any Worker.hasLeft

/-- What a task that is accepted makes of the pool: it waits in the queue, or with room for none the
worker named has it. -/
inductive Sent (pool : Pool Task) (task : Task) (receiver : Nat) : Pool Task → Prop
  | queued (room : ∀ capacity, pool.capacity = some capacity → pool.queue.length < capacity)
    (roomy : pool.capacity ≠ some 0) :
    Sent pool task receiver { pool with queue := pool.queue ++ [task] }
  | handed (roomless : pool.capacity = some 0) (waits : pool.workers[receiver]? = some .idle) :
    Sent pool task receiver (pool.setWorker receiver (.busy task))

theorem sent_of_send {receiver : Nat} (accepted : pool.send task receiver = .ok later) :
    pool.Sent task receiver later := by
  simp only [send] at accepted
  split at accepted
  next roomless =>
    split at accepted
    next => cases accepted
    next =>
      split at accepted
      next waits =>
        cases accepted
        exact .handed roomless waits
      next => cases accepted
  next roomy =>
    simp only [offer] at accepted
    split at accepted
    next => cases accepted
    next =>
      split at accepted
      next none => exact absurd none roomy
      next room bounded =>
        split at accepted
        next fits =>
          cases accepted
          refine .queued (fun capacity same => ?_) roomy
          rw [bounded, Option.some.injEq] at same
          omega
        next => cases accepted
      next unbounded =>
        cases accepted
        exact .queued (fun capacity same => by simp [unbounded] at same) roomy

theorem exists_send_eq_offer (pool : Pool Task) :
    ∃ receiver, ∀ task, pool.send task receiver = pool.offer task := by
  by_cases roomless : pool.capacity = some 0
  · cases waits : pool.workers.findIdx? Worker.isIdle with
    | none =>
      refine ⟨pool.workers.length, fun task => ?_⟩
      simp [send, offer, roomless, waits, allLeft]
    | some worker =>
      obtain ⟨bound, idle, _⟩ := List.findIdx?_eq_some_iff_getElem.mp waits
      have found : pool.workers[worker]? = some .idle := by
        rw [List.getElem?_eq_getElem bound]
        cases state : pool.workers[worker] <;> simp_all [Worker.isIdle]
      refine ⟨worker, fun task => ?_⟩
      simp [send, offer, roomless, waits, allLeft, found]
  · exact ⟨0, fun task => by simp [send, roomless]⟩

end Pool

inductive Submission
  | begun
  /-- It has found the pool running. -/
  | checked
  /-- It has a sender of its own. -/
  | lent
  | counted
  | accepted
  /-- Its task is refused and still counts. -/
  | refused (error : PoolError)
  | discounted (error : PoolError)
  /-- Its task is dropped; the sender is still its own. -/
  | dropped (error : PoolError)
  /-- It has found the pool closed and its task is still to be dropped. -/
  | turnedAway
  | returned (result : Except PoolError Unit)

namespace Submission

variable {Task : Type}

/-- The next step: what it makes of the pool, and how far the submission has come then. -/
def next (pool : Pool Task) (task : Task) (receiver : Nat) : Submission → Pool Task × Submission
  | .begun => (pool, if pool.running then .checked else .turnedAway)
  | .checked => if pool.sending then (pool.lend, .lent) else (pool, .turnedAway)
  | .lent => (pool.countIn, .counted)
  | .counted =>
    match pool.send task receiver with
    | .ok pool => (pool, .accepted)
    | .error error => (pool, .refused error)
  | .accepted => (pool.giveBack, .returned (.ok ()))
  | .refused error => (pool.countOff, .discounted error)
  | .discounted error => (pool, .dropped error)
  | .dropped error => (pool.giveBack, .returned (.error error))
  | .turnedAway => (pool, .returned (.error .shutDown))
  | .returned result => (pool, .returned result)

def lends : Submission → Bool
  | .lent | .counted | .accepted | .refused _ | .discounted _ | .dropped _ => true
  | .begun | .checked | .turnedAway | .returned _ => false

/-- A submission has counted a task in that the pool has not accepted. -/
def counts : Submission → Bool
  | .counted | .refused _ => true
  | _ => false

def succeeds : Submission → Bool
  | .accepted | .returned (.ok _) => true
  | _ => false

def drops : Submission → Bool
  | .dropped _ | .returned (.error _) => true
  | _ => false

def isOver : Submission → Bool
  | .returned _ => true
  | _ => false

def drop? : Submission → Option { rest : Submission // rest.drops = true }
  | .discounted error => some ⟨.dropped error, rfl⟩
  | .turnedAway => some ⟨.returned (.error .shutDown), rfl⟩
  | _ => none

/-- A submission that nothing interrupts does what `execute` does. -/
theorem alone (pool : Pool Task) (task : Task) :
    ∃ receiver, (fun call : Pool Task × Submission => call.2.next call.1 task receiver)^[7]
        (pool, .begun) =
      match pool.execute task with
      | .ok later => (later, .returned (.ok ()))
      | .error error => (pool, .returned (.error error)) := by
  obtain ⟨receiver, offers⟩ := pool.lend.countIn.exists_send_eq_offer
  refine ⟨receiver, ?_⟩
  by_cases running : pool.running = true
  · by_cases sending : pool.sending = true
    · cases offered : pool.lend.countIn.offer task with
      | ok later =>
        simp [next, running, sending, Pool.execute, offers, offered, Except.map]
      | error error =>
        simp [next, running, sending, Pool.execute, offers, offered, Except.map]
    · simp [next, running, sending, Pool.execute]
  · simp [next, running, Pool.execute]

end Submission

inductive Closing
  | begun
  | refusing
  /-- The pool's own sender is gone. -/
  | hungUp
  /-- The handles of the workers are its own; these are still to be waited for. -/
  | joining (rest : List Nat)
  /-- Whether it was the one that waited. -/
  | returned (drained : Bool)

namespace Closing

variable {Task : Type}

/-- The next step. Waiting for a worker that has not left changes nothing. -/
def next (caller : Option Nat) (pool : Pool Task) : Closing → Pool Task × Closing
  | .begun => (pool.refuse, .refusing)
  | .refusing => (pool.hangUp, .hungUp)
  | .hungUp =>
    if pool.joined then (pool, .returned false)
    else ({ pool with joined := true }, .joining (List.range pool.workers.length))
  | .joining [] => (pool, .returned true)
  | .joining (worker :: rest) =>
    if caller = some worker || pool.isGone worker then (pool, .joining rest)
    else (pool, .joining (worker :: rest))
  | .returned drained => (pool, .returned drained)

def refuses : Closing → Bool
  | .begun => false
  | _ => true

def hangsUp : Closing → Bool
  | .begun | .refusing => false
  | _ => true

def drains : Closing → Bool
  | .joining _ | .returned true => true
  | _ => false

def awaits : Closing → List Nat
  | .joining rest => rest
  | _ => []

def isOver : Closing → Bool
  | .returned _ => true
  | _ => false

theorem alone (caller : Option Nat) (pool : Pool Task) :
    (fun call : Pool Task × Closing => call.2.next caller call.1)^[2] (pool, .begun) =
      (pool.close, .hungUp) := rfl

end Closing

end AsyncFiles
