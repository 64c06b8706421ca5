import AsyncFiles.Proofs.Completion.Still
import AsyncFiles.Proofs.Work.Tasks

/-!
Programs with every step that counts work. The submission of an operation takes its guard first and
then goes its way through the pool, and whatever others do may come between two of its steps. What
was started explicitly, the guards of the caller and the handlers that run are written down.
-/
namespace AsyncFiles

open Error Host

inductive Leg
  /-- The operation has its token and its handle; the guard is still to be taken. -/
  | captured
  | underway (stage : Submission)
  /-- The task was dropped and has posted its handler; the guard is still to be given back. -/
  | answered (rest : { rest : Submission // rest.drops = true })

structure Errand where
  service : ServiceId
  operation : Operation Ticket
  leg : Leg

namespace Leg

def keeps : Leg → Bool
  | .captured => true
  | .underway stage => !stage.succeeds && !stage.drops
  | .answered _ => false

def guards : Leg → Bool
  | .captured => false
  | .underway stage => !stage.succeeds && !stage.drops
  | .answered _ => true

def isAnswered : Leg → Bool
  | .answered _ => true
  | _ => false

/-- The operation counts as initiated, from when its guard is taken. -/
def initiated : Leg → Bool
  | .captured => false
  | _ => true

end Leg

/-- The next step of a submission: what it makes of the system, and how far it has come then. -/
def Errand.next (system : System Ticket) (receiver : Nat) (errand : Errand) :
    System Ticket × Leg :=
  match errand.leg with
  | .captured => (system.workStarted errand.operation.context, .underway .begun)
  | .answered rest => (system.workFinished errand.operation.context, .underway rest.val)
  | .underway stage =>
    match stage.drop?, system.service? errand.service with
    | some rest, _ =>
      (system.deliver errand.operation (.error .aborted) errand.operation.buffers, .answered rest)
    | none, none => (system, .underway stage)
    | none, some found =>
      let next := stage.next found.pool (.issued errand.operation) receiver
      (system.updatePool errand.service fun _ => next.1, .underway next.2)

namespace Errand

variable {system : System Ticket} {errand : Errand} {found : Service Ticket}

def inPool (errand : Errand) (system : System Ticket) (call : Pool (Task Ticket) × Submission) :
    System Ticket × Leg :=
  (system.updatePool errand.service fun _ => call.1, .underway call.2)

theorem next_inPool (present : system.service? errand.service = some found)
    {pool : Pool (Task Ticket)} {stage : Submission} (keeps : stage.drop? = none) (receiver : Nat) :
    { errand with leg := (errand.inPool system (pool, stage)).2 }.next
        (errand.inPool system (pool, stage)).1 receiver =
      errand.inPool system (stage.next pool (.issued errand.operation) receiver) := by
  simp only [inPool, next, keeps, System.service?_updatePool present, System.updatePool_updatePool]

theorem alone (system : System Ticket) (service : ServiceId) {found : Service Ticket}
    (present : system.service? service = some found) (imp : Implementation) (request : Request)
    (buffers : List Bytes) (handler : Ticket) :
    let errand : Errand :=
      { service, leg := .captured
        operation :=
          { context := found.context, state := imp.state, handle := system.handleOf imp
            token := (system.state imp.state).source.token, request, buffers, handler } }
    ∃ receiver, ((fun state : System Ticket × Leg =>
        { errand with leg := state.2 }.next state.1 receiver)^[9] (system, .captured)).1 =
      system.submit service imp request buffers handler := by
  intro errand
  obtain ⟨receiver, offers⟩ := found.pool.lend.countIn.exists_send_eq_offer
  refine ⟨receiver, ?_⟩
  let go (state : System Ticket × Leg) := { errand with leg := state.2 }.next state.1 receiver
  let busy := system.workStarted found.context
  let answered :=
    (busy.deliver errand.operation (.error .aborted) buffers).workFinished found.context
  have busyPool : (busy.updatePool service fun _ => found.pool) = busy :=
    System.updatePool_same present
  have answeredPool : (answered.updatePool service fun _ => found.pool) = answered :=
    System.updatePool_same present
  have begin : go (system, .captured) = errand.inPool busy (found.pool, .begun) :=
    congrArg (·, Leg.underway .begun) busyPool.symm
  have goes {pool : Pool (Task Ticket)} {stage : Submission} (keeps : stage.drop? = none) :
      go (errand.inPool busy (pool, stage)) =
        errand.inPool busy (stage.next pool (.issued errand.operation) receiver) :=
    next_inPool present keeps receiver
  have drops {pool : Pool (Task Ticket)} {stage : Submission}
      {rest : { rest : Submission // rest.drops = true }} (drops : stage.drop? = some rest) :
      go (go (errand.inPool busy (pool, stage))) = errand.inPool answered (pool, rest.val) := by
    simp only [go, inPool, next, drops]
    rfl
  have ends {pool : Pool (Task Ticket)} {stage : Submission} (keeps : stage.drop? = none) :
      go (errand.inPool answered (pool, stage)) =
        errand.inPool answered (stage.next pool (.issued errand.operation) receiver) :=
    next_inPool present keeps receiver
  have refused {error : PoolError} {stage : Submission}
      (fails : found.pool.execute (.issued errand.operation) = .error error) :
      (errand.inPool answered (found.pool, stage)).1 =
        system.submit service imp request buffers handler := by
    simp only [System.submit, present]
    rw [show found.pool.execute _ = _ from fails]
    exact answeredPool
  have accepted {pool : Pool (Task Ticket)} {stage : Submission}
      (runs : found.pool.execute (.issued errand.operation) = .ok pool) :
      (errand.inPool busy (pool, stage)).1 = system.submit service imp request buffers handler := by
    simp only [System.submit, present]
    rw [show found.pool.execute _ = _ from runs]
    rfl
  show (go (go (go (go (go (go (go (go (go (system, .captured)))))))))).1 = _
  rw [begin, goes rfl]
  by_cases running : found.pool.running = true
  · rw [Submission.next, if_pos running, goes rfl]
    by_cases sending : found.pool.sending = true
    · rw [Submission.next, if_pos sending, goes rfl, Submission.next, goes rfl]
      cases offered : found.pool.lend.countIn.offer (.issued errand.operation) with
      | ok later =>
        have accepts : Submission.counted.next found.pool.lend.countIn (.issued errand.operation)
            receiver = (later, .accepted) := by
          rw [Submission.next, offers, offered]
        rw [accepts]
        iterate 4 rw [goes rfl, Submission.next]
        exact accepted (by rw [Pool.execute, if_neg (by simp [running, sending]), offered]; rfl)
      | error error =>
        have refuses : Submission.counted.next found.pool.lend.countIn (.issued errand.operation)
            receiver = (found.pool.lend.countIn, .refused error) := by
          rw [Submission.next, offers, offered]
        rw [refuses, goes rfl, Submission.next, drops rfl, ends rfl, Submission.next,
          Pool.giveBack_countOff_countIn_lend]
        exact refused (by rw [Pool.execute, if_neg (by simp [running, sending]), offered]; rfl)
    · rw [Submission.next, if_neg sending, drops rfl]
      iterate 4 rw [ends rfl, Submission.next]
      exact refused (by rw [Pool.execute, if_pos (by simp [running, sending])])
  · rw [Submission.next, if_neg running, drops rfl]
    iterate 5 rw [ends rfl, Submission.next]
    exact refused (by rw [Pool.execute, if_pos (by simp [running])])

end Errand
structure Ledger where
  program : Program
  /-- All submissions, in the order in which they began. A handler has the number of its own. -/
  errands : List Errand := []
  /-- The handlers that run, with the contexts that called them. -/
  running : List (ContextId × Ticket) := []
  /-- Work that was started explicitly and is not finished. -/
  explicit : List ContextId := []
  /-- The caller's guards. One that was reset has no context. -/
  guards : List (Option ContextId) := []

def Act.uncounted : Act → Bool
  | .context act =>
    match act with
    | .create | .post _ | .stop _ | .restart _ => true
    | .serve _ | .leave _ | .guard _ | .unguard _ => false
  | .implementation (.call _ _ (.submit _ _)) => false
  | _ => true

namespace Ledger

inductive Act
  | program (act : AsyncFiles.Act)
  | serve (context : ContextId)
  /-- A handler that runs comes to its end, by return or by unwinding. -/
  | finish (context : ContextId) (handler : Ticket)
  | startWork (context : ContextId)
  /-- Explicit work is finished, no more of it than was started. -/
  | finishWork (context : ContextId)
  | takeGuard (context : ContextId)
  | resetGuard (guard : Nat)
  | dropGuard (guard : Nat)
  | capture (service : ServiceId) (imp : Implementation) (request : Request)
    (buffers : List Bytes)
  | advance (errand receiver : Nat)

def fresh (host : Host) : Ledger := { program := .fresh host }

def system (ledger : Ledger) : System Ticket := ledger.program.system

def withSystem (ledger : Ledger) (system : System Ticket) : Ledger :=
  { ledger with program := { ledger.program with system } }

def has (ledger : Ledger) (context : ContextId) : Bool := context < ledger.system.contexts.length

def serve (ledger : Ledger) (context : ContextId) : Ledger :=
  match (ledger.system.view context).turn with
  | .take invocation _ =>
    { ledger with
      program := ledger.program.onContext (.serve context)
      running := ledger.running ++ [(context, invocation.handler)] }
  | .wait | .leave => ledger

def finish (ledger : Ledger) (context : ContextId) (handler : Ticket) : Ledger :=
  if ledger.running.contains (context, handler) then
    { ledger with
      program := ledger.program.onContext (.leave context)
      running := ledger.running.erase (context, handler) }
  else ledger

def resetGuard (ledger : Ledger) (guard : Nat) : Ledger :=
  match ledger.guards[guard]? with
  | some (some context) =>
    { ledger.withSystem (ledger.system.workFinished context) with
      guards := ledger.guards.set guard none }
  | _ => ledger

def operation (ledger : Ledger) (context : ContextId) (imp : Implementation) (request : Request)
    (buffers : List Bytes) : Operation Ticket :=
  { ledger.program.operation context imp request buffers with
    handler := some ledger.errands.length }

def capture (ledger : Ledger) (service : ServiceId) (imp : Implementation) (request : Request)
    (buffers : List Bytes) : Ledger :=
  match ledger.system.service? service with
  | none => ledger
  | some found =>
    { ledger with
      errands := ledger.errands ++ [{
        service
        operation := ledger.operation found.context imp request buffers
        leg := .captured }] }

def put (ledger : Ledger) (number : Nat) (errand : Errand) (next : System Ticket × Leg) : Ledger :=
  { ledger with
    program := { ledger.program with system := next.1 }
    errands := ledger.errands.set number { errand with leg := next.2 } }

def advance (ledger : Ledger) (number receiver : Nat) : Ledger :=
  match ledger.errands[number]? with
  | none => ledger
  | some errand => ledger.put number errand (errand.next ledger.system receiver)

/-- What an act makes of the ledger. One that is not possible changes nothing. -/
def step (ledger : Ledger) : Act → Ledger
  | .program act =>
    if act.uncounted && ledger.program.allows act then
      { ledger with program := ledger.program.perform act }
    else ledger
  | .serve context => ledger.serve context
  | .finish context handler => ledger.finish context handler
  | .startWork context =>
    if ledger.has context then
      { ledger with
        program := ledger.program.onContext (.guard context)
        explicit := context :: ledger.explicit }
    else ledger
  | .finishWork context =>
    if ledger.explicit.contains context then
      { ledger with
        program := ledger.program.onContext (.unguard context)
        explicit := ledger.explicit.erase context }
    else ledger
  | .takeGuard context =>
    if ledger.has context then
      { ledger.withSystem (ledger.system.workStarted context) with
        guards := ledger.guards ++ [some context] }
    else ledger
  | .resetGuard guard => ledger.resetGuard guard
  | .dropGuard guard =>
    { ledger.resetGuard guard with guards := (ledger.resetGuard guard).guards.eraseIdx guard }
  | .capture service imp request buffers =>
    if ledger.program.allows (.implementation (.call service imp (.submit request buffers))) then
      ledger.capture service imp request buffers
    else ledger
  | .advance number receiver => ledger.advance number receiver

def run (ledger : Ledger) (acts : List Act) : Ledger := acts.foldl step ledger

/-- The guards on a context that operations hold: those being submitted and those with tasks. -/
def operationGuards (ledger : Ledger) (context : ContextId) : Nat :=
  ledger.system.guards.count context +
    ledger.errands.countP fun errand => errand.leg.guards && errand.operation.context = context

def active (ledger : Ledger) (context : ContextId) : Nat :=
  ledger.running.countP fun entry => entry.1 = context

/-- How many places an operation that was initiated is in: with its submission, with a task, or
with its handler in the queue of its context or called. -/
def places (ledger : Ledger) (number : Nat) (errand : Errand) : Nat :=
  errand.leg.keeps.toNat +
    (ledger.system.operations.countP fun operation => operation.handler = some number) +
    ((ledger.system.view errand.operation.context).queue.countP fun invocation =>
      invocation.handler = some number) +
    ledger.program.invoked.countP fun entry => entry.2.handler = some number

end Ledger

end AsyncFiles
