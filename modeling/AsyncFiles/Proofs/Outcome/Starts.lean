import AsyncFiles.Proofs.Outcome.Bearers
import AsyncFiles.Proofs.Transfers

namespace AsyncFiles

open Access Cancellation Error Host

namespace System

variable {Handler : Type} {system : System Handler} {service : ServiceId} {worker : Nat}
  {task : Task Handler}

theorem heldTask_holdTask (held : system.heldTask? service worker = some task)
    (next : Task Handler) :
    (system.holdTask service worker next).heldTask? service worker = some next := by
  obtain ⟨found, present, busy⟩ := heldTask_eq_some.mp held
  have bound := (List.getElem?_eq_some_iff.mp busy).1
  have there : system.services[service]? = some found := present
  refine heldTask_eq_some.mpr
    ⟨{ found with pool := found.pool.setWorker worker (.busy next) }, ?_, ?_⟩
  · simp [holdTask, updatePool, updateService, service?, there]
  · simp [Pool.setWorker, bound]

theorem service_of_held (held : system.heldTask? service worker = some task) :
    ∃ found, system.service? service = some found := by
  obtain ⟨found, present, _⟩ := heldTask_eq_some.mp held
  exact ⟨found, present⟩

theorem workerStep_issued {operation : Operation Handler} {paused : Operation Handler → Bool}
    (held : system.heldTask? service worker = some (.issued operation)) :
    system.workerStep? paused service worker =
      some (system.checkToken service worker operation) := by
  obtain ⟨found, present⟩ := service_of_held held
  simp [workerStep?, present, held]

theorem workerStep_admitted {operation : Operation Handler}
    (held : system.heldTask? service worker = some (.admitted operation)) :
    system.workerStep? (fun _ => false) service worker =
      some (system.transfer service worker operation) := by
  obtain ⟨found, present⟩ := service_of_held held
  simp [workerStep?, present, held]

end System

namespace Program

variable {program : Program} {service : ServiceId} {worker : Nat} {operation : Operation Ticket}

/-- A worker starts its operation in one step: it looks at the token and, if that is live, begins
the transfer. -/
def start (program : Program) (service : ServiceId) (worker : Nat) : Program :=
  let checked := program.perform (.work service worker)
  match checked.system.heldTask? service worker with
  | some (.admitted _) => checked.perform (.work service worker)
  | _ => checked

def Answers (program later : Program) (operation : Operation Ticket)
    (result : Except FileError Nat) (buffers : List Bytes) : Prop :=
  later.system.queues = program.system.queues.modify operation.context fun queue =>
    queue ++ [{ handler := operation.handler, completion := some { result, buffers } }]

/-- A worker's operation ends as aborted, without a call of the host. -/
def AbortsUnstarted (program : Program) (service : ServiceId) (worker : Nat)
    (operation : Operation Ticket) : Prop :=
  (program.start service worker).system.host = program.system.host ∧
    program.Answers (program.start service worker) operation (.error .aborted) operation.buffers

/-- A worker's operation makes its transfer, and ends with what that gave unless it has to wait. -/
def Transfers (program : Program) (service : ServiceId) (worker : Nat)
    (operation : Operation Ticket) : Prop :=
  let (attempt, host) :=
    operation.request.attempt operation.handle operation.buffers program.system.host
  (program.start service worker).system.host = host ∧
    match attempt with
    | .stalled call =>
      (program.start service worker).system.heldTask? service worker =
        some (.stalled operation call)
    | .finished result buffers =>
      program.Answers (program.start service worker) operation result buffers

theorem perform_work {later : System Ticket}
    (stepped : program.system.workerStep? (fun _ => false) service worker = some later) :
    program.perform (.work service worker) = { program with system := later } := by
  simp [perform, stepped]

theorem start_of_dead (held : program.system.heldTask? service worker = some (.issued operation))
    (dead : program.system.isCancelled operation = true) :
    program.AbortsUnstarted service worker operation := by
  let ended := program.system.deliver operation (.error .aborted) operation.buffers
  let checked := ended.holdTask service worker (.delivered operation.context)
  have stepped : program.system.workerStep? (fun _ => false) service worker = some checked := by
    rw [System.workerStep_issued held, System.checkToken, if_pos dead]
  have handed : checked.heldTask? service worker = some (.delivered operation.context) :=
    System.heldTask_holdTask (show ended.heldTask? service worker = _ from held) _
  have started : program.start service worker = { program with system := checked } := by
    simp only [start, perform_work stepped, handed]
  simp only [AbortsUnstarted, Answers]
  rw [started]
  exact ⟨rfl, System.queues_post program.system operation.context _⟩

theorem start_of_live (held : program.system.heldTask? service worker = some (.issued operation))
    (live : program.system.isCancelled operation = false) :
    program.Transfers service worker operation := by
  let checked := program.system.holdTask service worker (.admitted operation)
  have stepped : program.system.workerStep? (fun _ => false) service worker = some checked := by
    rw [System.workerStep_issued held, System.checkToken, if_neg (by simp [live])]
  have admitted : checked.heldTask? service worker = some (.admitted operation) :=
    System.heldTask_holdTask held _
  have started : program.start service worker =
      { program with system := checked.transfer service worker operation } := by
    simp only [start, perform_work stepped, admitted]
    exact perform_work (System.workerStep_admitted admitted)
  simp only [Transfers, Answers]
  rw [started]
  simp only [System.transfer]
  rw [show checked.host = program.system.host from rfl]
  cases operation.request.attempt operation.handle operation.buffers program.system.host with
  | mk attempt host =>
    cases attempt with
    | stalled call =>
      have waiting : System.heldTask? { checked with host } service worker =
          some (.admitted operation) := admitted
      exact ⟨rfl, System.heldTask_holdTask waiting _⟩
    | finished result buffers => exact ⟨rfl, System.queues_post program.system operation.context _⟩

theorem Accounted.started_of_held (accounted : program.Accounted)
    (held : program.system.heldTask? service worker = some (.issued operation)) :
    program.Started service operation := by
  obtain ⟨found, present, busy⟩ := System.heldTask_eq_some.mp held
  have located : program.system.desks[service]? = some found.desk := by
    rw [System.desks_getElem, present, Option.map_some]
  exact ((accounted.kept service _ located).workers _ (List.mem_of_getElem? busy)).2 operation rfl

theorem not_aborts_of_transfers (bound : operation.context < program.system.queues.length)
    (transfers : program.Transfers service worker operation) :
    ¬ program.AbortsUnstarted service worker operation := by
  rintro ⟨quiet, aborted⟩
  have reaches := operation.request.reaches_attempt operation.handle operation.buffers
    program.system.host
  simp only [Transfers] at transfers
  cases attempted : operation.request.attempt operation.handle operation.buffers
      program.system.host with
  | mk attempt host =>
    simp only [attempted] at transfers reaches
    rw [quiet] at transfers
    cases reaches with
    | called call _ kept =>
      have counted := congrArg List.length kept.calls
      rw [← transfers.1] at counted
      simp [note] at counted
    | refused error buffers result other same =>
      subst result
      have answers := transfers.2
      simp only [Answers] at aborted answers
      rw [aborted] at answers
      have last := congrArg (fun queues => queues[operation.context]?) answers
      simp [List.getElem?_eq_getElem bound] at last
      exact other last.1.symm

end Program

/-- A run in which an operation is issued, up to the moment when a worker is to start it. -/
structure Course where
  host : Host
  before : List Act := []
  service : ServiceId
  imp : Implementation
  request : Request
  buffers : List Bytes
  after : List Act := []

namespace Course

def issuing (course : Course) : Act :=
  .implementation (.call course.service course.imp (.submit course.request course.buffers))

def atIssue (course : Course) : Program := (Program.fresh course.host).run course.before

def issued (course : Course) : Program := course.atIssue.step course.issuing

def atStart (course : Course) : Program := course.issued.run course.after

/-- The state was ended when the operation was issued, or an act has ended it since. -/
def Ended (course : Course) : Prop :=
  (course.atIssue.system.state course.imp.state).source.destroyed = true ∨
    course.issued.EndsIn course.imp.state course.after

variable {course : Course}

theorem issued_eq (allowed : course.atIssue.allows course.issuing = true) :
    course.issued = course.atIssue.submit course.service course.imp course.request
      course.buffers := by
  simp only [issued, Program.step, allowed, if_true]
  rfl

theorem atStart_eq (course : Course) :
    course.atStart = (Program.fresh course.host).run
      (course.before ++ course.issuing :: course.after) := by
  simp only [atStart, issued, atIssue, Program.run_append, Program.run_cons]

theorem accounted_atStart (course : Course) : course.atStart.Accounted :=
  course.atStart_eq ▸ Program.Accounted.run course.host _

theorem states_issued (course : Course) :
    course.issued.system.states = course.atIssue.system.states := by
  simp only [issued, Program.step]
  split
  next =>
    simp only [issuing, Program.perform, Program.onImplementation, Program.onCall, Program.submit]
    split
    next => rfl
    next => exact System.states_submit _ _ _ _ _ _
  next => rfl

theorem operation_of_started (allowed : course.atIssue.allows course.issuing = true)
    {home : ServiceId} {operation : Operation Ticket}
    (started : course.atStart.Started home operation)
    (own : operation.handler = some course.atIssue.initiated.length) :
    home = course.service ∧ ∃ context, operation =
      course.atIssue.operation context course.imp course.request course.buffers := by
  have recorded := course.accounted_atStart.start_unique started own
  have referenced : 0 < course.atIssue.system.references course.service := by
    simp only [issuing, Program.allows, Bool.and_eq_true, decide_eq_true_eq] at allowed
    exact allowed.1
  have first : ∃ context, course.issued.initiated[course.atIssue.initiated.length]? =
      some ⟨course.service,
        course.atIssue.operation context course.imp course.request course.buffers⟩ := by
    rw [issued_eq allowed]
    simp only [Program.submit]
    cases served : course.atIssue.system.service? course.service with
    | none => simp [System.references, served] at referenced
    | some found => exact ⟨found.context, List.getElem?_concat_length⟩
  obtain ⟨context, first⟩ := first
  obtain ⟨bound, same⟩ := List.getElem?_eq_some_iff.mp first
  have grown := List.prefix_iff_getElem?.mp (course.issued.initiated_run course.after) _ bound
  rw [same] at grown
  have both := recorded.symm.trans grown
  simp only [Option.some.injEq, Initiation.mk.injEq] at both
  exact ⟨both.1, context, both.2⟩

theorem operation_eq (allowed : course.atIssue.allows course.issuing = true) {home : ServiceId}
    {worker : Nat} {operation : Operation Ticket}
    (held : course.atStart.system.heldTask? home worker = some (.issued operation))
    (own : operation.handler = some course.atIssue.initiated.length) :
    home = course.service ∧ ∃ context, operation =
      course.atIssue.operation context course.imp course.request course.buffers :=
  operation_of_started allowed (course.accounted_atStart.started_of_held held) own

end Course

theorem start_default {Task : Type} :
    (Pool.start {} : Except StartError (Pool Task)) = .ok (Pool.fresh none 1) := by
  simp [Pool.start, PoolConfig.misuse?, PoolConfig.refusal?, PoolConfig.capacityLimit,
    PoolConfig.roomLimit, PoolConfig.guardSize, PoolConfig.stackLimit, PoolConfig.workerLimit]

def served (host : Host) : Program :=
  { Program.fresh host with
    system :=
      { host, contexts := [{}]
        services := [{ context := 0, config := {}, pool := .fresh none 1 }] } }

theorem run_served (host : Host) :
    (Program.fresh host).run [.context .create, .service (.start 0 {})] = served host := by
  have started :
      System.startService { host, contexts := [({} : Context (Invocation Ticket))] } 0 {} =
        .ok (0, (served host).system) := by
    simp [System.startService, start_default, Except.map, served]
  simp only [Program.run_cons, Program.run_nil]
  simp [Program.step, Program.allows, Program.perform, Program.onContext, Program.onService,
    Program.fresh, System.newContext, started, served]

/-- A file is assigned; a read is issued, and cancelled before its worker starts it. -/
def cancelledRead : Course where
  host := .fresh default
  before :=
    [.context .create, .service (.start 0 {}), .implementation (.construct 0),
      .implementation (.call 0 ⟨⟨1, 1⟩, 0, 0⟩ (.assign ⟨0⟩))]
  service := 0
  imp := ⟨⟨1, 1⟩, 0, 0⟩
  request := { direction := .read }
  buffers := [[0]]
  after := [.implementation (.call 0 ⟨⟨1, 1⟩, 0, 0⟩ .cancel), .work 0 0]

theorem atIssue_cancelledRead : cancelledRead.atIssue = (served (.fresh default)).run
    [.implementation (.construct 0), .implementation (.call 0 ⟨⟨1, 1⟩, 0, 0⟩ (.assign ⟨0⟩))] := by
  rw [← run_served, ← Program.run_append]
  rfl

end AsyncFiles
