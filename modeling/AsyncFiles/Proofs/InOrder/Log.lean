import AsyncFiles.Proofs.InOrder.Line
import AsyncFiles.Proofs.Program

/-!
A service with one worker beside the same operations performed directly. The log has an entry for
each operation that is over: it was performed, or aborted before it started, or its descriptor was
closed after the worker had looked at its token and before the transfer. A transfer that waits at a
pipe is not over.
-/
namespace AsyncFiles

open Error Host

variable {Handler : Type}

def Operation.perform (operation : Operation Handler) (host : Host) : Completion × Host :=
  let (result, buffers, host) := operation.request.perform operation.handle operation.buffers host
  ({ result, buffers }, host)

def performAll (host : Host) : List (Operation Handler) → List Completion × Host
  | [] => ([], host)
  | operation :: rest =>
    let (completion, host) := operation.perform host
    let (completions, host) := performAll host rest
    (completion :: completions, host)

theorem performAll_concat (host : Host) (operations : List (Operation Handler))
    (last : Operation Handler) :
    performAll host (operations ++ [last]) =
      ((performAll host operations).1 ++ [(last.perform (performAll host operations).2).1],
        (last.perform (performAll host operations).2).2) := by
  induction operations generalizing host with
  | nil => rfl
  | cons operation rest ih => simp [performAll, ih]

/-- What the tasks of a service have done and not ended: a transfer that waits at a pipe has
begun. -/
def begun : List (Task Handler) → Host → Host
  | .stalled operation _ :: _, host =>
    (operation.request.attempt operation.handle operation.buffers host).2
  | _, host => host

inductive Fate
  | performed
  | aborted
  | cutOff
  deriving DecidableEq

structure Entry where
  operation : Operation Ticket
  completion : Completion
  fate : Fate

def performances (log : List Entry) : List Entry := log.filter fun entry => entry.fate = .performed

def Entry.invocation (entry : Entry) : Invocation Ticket :=
  { handler := entry.operation.handler, completion := some entry.completion }

/-- What a client does with the files of a service, what the worker of the service does, and what a
thread does that runs its context. Nobody closes an end of a pipe. -/
inductive Act.Pipelined (first : Program) (service : ServiceId) (context : ContextId) : Act → Prop
  | submit (imp : Implementation) (request : Request) (buffers : List Bytes) :
    Pipelined first service context (.implementation (.call service imp (.submit request buffers)))
  | cancel (imp : Implementation) :
    Pipelined first service context (.implementation (.call service imp .cancel))
  | close (imp : Implementation)
    (plain : first.system.host.Plain (first.system.handleOf imp).raw) :
    Pipelined first service context (.implementation (.call service imp .close))
  | work : Pipelined first service context (.work service 0)
  | serve : Pipelined first service context (.context (.serve context))
  | leave : Pipelined first service context (.context (.leave context))

namespace Program

/-- A service with one worker and nothing to do, on a context with nothing queued. No two files hold
the same open handle. -/
structure Waiting (program : Program) (service : ServiceId) (context : ContextId) : Prop where
  single : program.system.Single service context
  bound : context < program.system.contexts.length
  idle : program.system.line service = []
  unqueued : (program.system.view context).queue = []
  apart : ∀ state other, (program.system.state state).handle.isOpen = true →
    (program.system.state state).handle = (program.system.state other).handle → state = other

/-- The file of an operation was closed while its worker had looked at its token and had not begun
its transfer. -/
def CutOff (first : Program) (service : ServiceId) (acts : List Act)
    (operation : Operation Ticket) : Prop :=
  ∃ before imp after, acts = before ++ .implementation (.call service imp .close) :: after ∧
    (first.run before).allows (.implementation (.call service imp .close)) = true ∧
    imp.state = operation.state ∧
    (first.run before).system.handleOf imp = operation.handle ∧
    ((first.run before).system.line service).head? = some (.admitted operation)

theorem CutOff.append {first : Program} {service : ServiceId} {acts : List Act}
    {operation : Operation Ticket} (cut : CutOff first service acts operation) (act : Act) :
    CutOff first service (acts ++ [act]) operation := by
  obtain ⟨before, imp, after, rfl, rest⟩ := cut
  exact ⟨before, imp, after ++ [act], by simp, rest⟩

/-- The operations of a service whose handlers are still to be queued, in order. -/
def pending (program : Program) (service : ServiceId) : List (Operation Ticket) :=
  (program.system.line service).filterMap Task.operation?

structure Logged (first : Program) (service : ServiceId) (context : ContextId) (acts : List Act)
    (log : List Entry) : Prop where
  /-- Operations are over in the order in which they were issued. -/
  issued : (first.run acts).initiated.map Initiation.operation =
    first.initiated.map Initiation.operation ++ log.map Entry.operation ++
      (first.run acts).pending service
  /-- Handlers are called in that order, the first first. -/
  called : ∃ called : List (Invocation Ticket),
    (first.run acts).invoked = first.invoked ++ called.map (context, ·) ∧
      called ++ ((first.run acts).system.view context).queue = log.map Entry.invocation
  /-- Performed directly, one after the other and nothing besides, the operations that were
  performed have the same outcomes and leave the same files and positions. One that waits at a pipe
  has begun as it does directly. -/
  performed :
    let direct := performAll first.system.host ((performances log).map Entry.operation)
    let line := (first.run acts).system.line service
    direct.1 = (performances log).map Entry.completion ∧
      (begun line direct.2).Alike (first.run acts).system.host
  aborted : ∀ entry ∈ log, entry.fate = .aborted ↔ entry.completion.result = .error .aborted
  untouched : ∀ entry ∈ log, entry.fate = .aborted →
    entry.completion.buffers = entry.operation.buffers
  cutOff : ∀ entry ∈ log, entry.fate = .cutOff →
    entry.completion = { result := .error (.ofErrno .badDescriptor)
                         buffers := entry.operation.buffers } ∧
      CutOff first service acts entry.operation

end Program

end AsyncFiles
