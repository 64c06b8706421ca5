import AsyncFiles.Proofs.Completion.Steps
import AsyncFiles.Proofs.Program

/-!
The places of an operation: with its task in the queue of a service, in the hands of a worker, with
its handler in the queue of a context, or called. Each step moves it from one place to the next.
-/
namespace AsyncFiles

open Error Host

def bears (ticket : Nat) (operation : Option (Operation Ticket)) : Bool :=
  operation.any fun found => found.handler = some ticket

theorem bears_eq_true {ticket : Nat} {operation : Option (Operation Ticket)} :
    bears ticket operation = true ↔
      ∃ found, operation = some found ∧ found.handler = some ticket := by
  cases operation <;> simp [bears]

theorem bears_issued (ticket : Nat) (operation : Operation Ticket) :
    bears ticket (Task.operation? (.issued operation)) =
      decide (operation.handler = some ticket) := rfl

namespace Desk

def queued (desk : Desk Ticket) (ticket : Nat) : Nat :=
  desk.queue.countP fun task => bears ticket task.operation?

def held (desk : Desk Ticket) (ticket : Nat) : Nat :=
  desk.workers.countP fun worker => bears ticket worker.operation?

theorem queued_append (desk : Desk Ticket) (task : Task Ticket) (ticket : Nat) :
    Desk.queued { desk with queue := desk.queue ++ [task] } ticket + 0 =
      desk.queued ticket + (if bears ticket task.operation? then 1 else 0) := by
  simp only [queued, List.countP_append, List.countP_singleton, Nat.add_zero]

theorem held_setWorker {desk : Desk Ticket} {worker : Nat} {before : Worker (Task Ticket)}
    (present : desk.workers[worker]? = some before) (after : Worker (Task Ticket)) (ticket : Nat) :
    (desk.setWorker worker after).held ticket + (if bears ticket before.operation? then 1 else 0) =
      desk.held ticket + (if bears ticket after.operation? then 1 else 0) := by
  obtain ⟨bound, same⟩ := List.getElem?_eq_some_iff.mp present
  have counted : bears ticket before.operation? = true → 0 < desk.held ticket := by
    intro bearing
    exact List.countP_pos_iff.mpr ⟨before, List.mem_of_getElem? present, bearing⟩
  simp only [held, setWorker] at counted ⊢
  rw [List.countP_set bound, same]
  by_cases bearing : bears ticket before.operation? = true
  · have positive := counted bearing
    simp only [bearing, if_true]
    omega
  · simp [bearing]

end Desk

namespace System

variable {system later : System Ticket}

def queued (system : System Ticket) (service : ServiceId) (ticket : Nat) : Nat :=
  ((system.desks[service]?).map fun desk => desk.queued ticket).getD 0

def held (system : System Ticket) (service : ServiceId) (ticket : Nat) : Nat :=
  ((system.desks[service]?).map fun desk => desk.held ticket).getD 0

def posted (system : System Ticket) (context : ContextId) (ticket : Nat) : Nat :=
  ((system.queues[context]?).map fun queue =>
    queue.countP fun invocation => invocation.handler = some ticket).getD 0

theorem getElem_desks_set {service : ServiceId} {desk : Desk Ticket}
    (found : system.desks[service]? = some desk) (next : Desk Ticket) (other : ServiceId) :
    (system.desks.set service next)[other]? =
      if service = other then some next else system.desks[other]? := by
  have bound := (List.getElem?_eq_some_iff.mp found).1
  rw [List.getElem?_set]
  by_cases same : service = other
  · subst same
    simp [bound]
  · simp [same]

theorem forall_desks_set {service : ServiceId} {desk next : Desk Ticket}
    (found : system.desks[service]? = some desk)
    (desks : later.desks = system.desks.set service next) {holds : ServiceId → Desk Ticket → Prop}
    (others : ∀ other desk, system.desks[other]? = some desk → holds other desk)
    (own : holds service next) :
    ∀ other desk, later.desks[other]? = some desk → holds other desk := by
  intro other present located
  rw [desks, getElem_desks_set found] at located
  split at located
  next same =>
    subst same
    cases located
    exact own
  next => exact others other present located

theorem queued_set {service : ServiceId} {desk next : Desk Ticket}
    (found : system.desks[service]? = some desk)
    (desks : later.desks = system.desks.set service next) {came went : Nat} {ticket : Nat}
    (moved : next.queued ticket + went = desk.queued ticket + came) (other : ServiceId) :
    later.queued other ticket + (if service = other then went else 0) =
      system.queued other ticket + (if service = other then came else 0) := by
  simp only [queued, desks, getElem_desks_set found]
  by_cases same : service = other
  · subst same
    simpa [found] using moved
  · simp [same]

theorem queued_setWorker {service : ServiceId} {desk : Desk Ticket} {worker : Nat}
    {state : Worker (Task Ticket)} (found : system.desks[service]? = some desk)
    (desks : later.desks = system.desks.set service (desk.setWorker worker state))
    (other : ServiceId) (ticket : Nat) :
    later.queued other ticket = system.queued other ticket := by
  simp only [queued, desks, getElem_desks_set found]
  by_cases same : service = other
  · subst same
    simp [found, Desk.queued, Desk.setWorker]
  · simp [same]

theorem held_setQueue {service : ServiceId} {desk : Desk Ticket} {queue : List (Task Ticket)}
    (found : system.desks[service]? = some desk)
    (desks : later.desks = system.desks.set service { desk with queue }) (other : ServiceId)
    (ticket : Nat) : later.held other ticket = system.held other ticket := by
  simp only [held, desks, getElem_desks_set found]
  by_cases same : service = other
  · subst same
    simp [found, Desk.held]
  · simp [same]

theorem held_set {service : ServiceId} {desk next : Desk Ticket}
    (found : system.desks[service]? = some desk)
    (desks : later.desks = system.desks.set service next) {came went : Nat} {ticket : Nat}
    (moved : next.held ticket + went = desk.held ticket + came) (other : ServiceId) :
    later.held other ticket + (if service = other then went else 0) =
      system.held other ticket + (if service = other then came else 0) := by
  simp only [held, desks, getElem_desks_set found]
  by_cases same : service = other
  · subst same
    simpa [found] using moved
  · simp [same]

theorem forall_queues_post {context : ContextId} {invocation : Invocation Ticket}
    (queues : later.queues = system.queues.modify context fun queue => queue ++ [invocation])
    {holds : ContextId → Invocation Ticket → Prop}
    (others : ∀ other queue, system.queues[other]? = some queue →
      ∀ found ∈ queue, holds other found)
    (own : holds context invocation) :
    ∀ other queue, later.queues[other]? = some queue → ∀ found ∈ queue, holds other found := by
  intro other queue present found member
  rw [queues, List.getElem?_modify] at present
  obtain ⟨before, was, rfl⟩ := Option.map_eq_some_iff.mp present
  by_cases same : context = other
  · subst same
    simp only [if_true, List.mem_append, List.mem_singleton] at member
    rcases member with earlier | rfl
    · exact others context before was found earlier
    · exact own
  · simp only [same, if_false] at member
    exact others other before was found member

theorem posted_post {context : ContextId} {invocation : Invocation Ticket}
    (bound : context < system.queues.length)
    (queues : later.queues = system.queues.modify context fun queue => queue ++ [invocation])
    (other : ContextId) (ticket : Nat) :
    later.posted other ticket = system.posted other ticket +
      if context = other ∧ invocation.handler = some ticket then 1 else 0 := by
  simp only [posted, queues, List.getElem?_modify]
  by_cases same : context = other
  · subst same
    rw [List.getElem?_eq_getElem bound]
    by_cases own : invocation.handler = some ticket <;> simp [own]
  · cases system.queues[other]? <;> simp [same]

theorem queued_congr (desks : later.desks = system.desks) (service : ServiceId) (ticket : Nat) :
    later.queued service ticket = system.queued service ticket := by
  simp only [queued, desks]

theorem held_congr (desks : later.desks = system.desks) (service : ServiceId) (ticket : Nat) :
    later.held service ticket = system.held service ticket := by
  simp only [held, desks]

theorem posted_congr (queues : later.queues = system.queues) (context : ContextId) (ticket : Nat) :
    later.posted context ticket = system.posted context ticket := by
  simp only [posted, queues]

end System

namespace Program

def called (program : Program) (context : ContextId) (ticket : Nat) : Nat :=
  program.invoked.countP fun entry => entry.1 = context && entry.2.handler = some ticket

/-- In how many places an operation is. -/
def places (program : Program) (start : Initiation) (ticket : Nat) : Nat :=
  program.system.queued start.service ticket + program.system.held start.service ticket +
    program.system.posted start.operation.context ticket +
    program.called start.operation.context ticket

def Started (program : Program) (service : ServiceId) (operation : Operation Ticket) : Prop :=
  { service, operation } ∈ program.initiated

/-- A handler of an operation comes with an answer to it, in the operation's context. -/
def Answered (program : Program) (context : ContextId) (invocation : Invocation Ticket) : Prop :=
  ∀ ticket, invocation.handler = some ticket → ∃ (start : Initiation) (completion : Completion),
    program.initiated[ticket]? = some start ∧ start.operation.context = context ∧
      invocation.completion = some completion ∧ start.operation.HandsBack completion

structure Keeps (program : Program) (service : ServiceId) (desk : Desk Ticket) : Prop where
  context : desk.context < program.system.queues.length
  tasks : ∀ task ∈ desk.queue, task.Sound ∧
    ∀ operation, task.operation? = some operation → program.Started service operation
  workers : ∀ worker ∈ desk.workers, worker.Sound ∧
    ∀ operation, worker.operation? = some operation → program.Started service operation

/-- Every operation that was started is in one place, and whatever is in a place belongs there. -/
structure Accounted (program : Program) : Prop where
  once : ∀ (ticket : Nat) (start : Initiation), program.initiated[ticket]? = some start →
    program.places start ticket = 1
  numbered : ∀ (ticket : Nat) (start : Initiation), program.initiated[ticket]? = some start →
    start.operation.handler = some ticket
  contexts : ∀ start ∈ program.initiated, start.operation.context < program.system.queues.length
  kept : ∀ service desk, program.system.desks[service]? = some desk → program.Keeps service desk
  queues : ∀ context queue, program.system.queues[context]? = some queue →
    ∀ invocation ∈ queue, program.Answered context invocation
  invoked : ∀ context invocation, (context, invocation) ∈ program.invoked →
    program.Answered context invocation

end Program

end AsyncFiles
