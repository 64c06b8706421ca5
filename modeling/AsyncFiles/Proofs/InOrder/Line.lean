import AsyncFiles.Proofs.Endings
import AsyncFiles.Proofs.InOrder.Stalled
import AsyncFiles.Proofs.Work.Tasks

/-!
A service with one worker and an unbounded queue. Its tasks form a line: the one that the worker
holds, then those that are queued. Submissions join the line at its end, and only what stands first
in it moves.
-/
namespace AsyncFiles

open Error Host

namespace Pool

variable {Task : Type} {pool : Pool Task} {task : Task}

/-- One worker, room for any number of tasks, and still running. -/
structure Alone (pool : Pool Task) : Prop where
  worker : ∃ worker, pool.workers = [worker] ∧ worker.hasLeft = false
  roomy : pool.capacity = none
  running : pool.running = true
  sending : pool.sending = true

/-- The tasks in the order in which a single worker comes to them. -/
def line (pool : Pool Task) : List Task := pool.held ++ pool.queue

namespace Alone

theorem setWorker (alone : pool.Alone) (worker : Worker Task) (stays : worker.hasLeft = false) :
    (pool.setWorker 0 worker).Alone ∧
      (pool.setWorker 0 worker).line = worker.task?.toList ++ pool.queue := by
  obtain ⟨before, only, _⟩ := alone.worker
  have now : (pool.setWorker 0 worker).workers = [worker] := by simp [Pool.setWorker, only]
  refine ⟨⟨⟨worker, now, stays⟩, alone.roomy, alone.running, alone.sending⟩, ?_⟩
  rw [line, held, now]
  cases taken : worker.task? <;> simp [taken, Pool.setWorker]

theorem execute (alone : pool.Alone) (task : Task) : ∃ later, pool.execute task = .ok later ∧
    later.Alone ∧ later.line = pool.line ++ [task] := by
  obtain ⟨worker, only, stays⟩ := alone.worker
  refine ⟨{ pool with queue := pool.queue ++ [task], pending := pool.pending + 1 }, ?_, ?_, ?_⟩
  · simp [Pool.execute, offer, lend, countIn, giveBack, alone.running, alone.sending, alone.roomy,
      only, stays, Except.map]
  · exact ⟨⟨worker, only, stays⟩, alone.roomy, alone.running, alone.sending⟩
  · simp [line, held]

theorem held_line (alone : pool.Alone) (busy : pool.workers[0]? = some (.busy task)) :
    pool.line = task :: pool.queue := by
  obtain ⟨worker, only, _⟩ := alone.worker
  rw [only] at busy
  cases busy
  simp [line, held, only, Worker.task?]

theorem idle_line (alone : pool.Alone) (free : ∀ task, pool.workers[0]? ≠ some (.busy task)) :
    pool.line = pool.queue := by
  obtain ⟨worker, only, stays⟩ := alone.worker
  cases worker with
  | idle => simp [line, held, only, Worker.task?]
  | busy task => exact absurd (by rw [only]; rfl) (free task)
  | left => cases stays

theorem dequeue {later : Pool Task} (alone : pool.Alone) (taken : pool.dequeue? 0 = some later) :
    later.Alone ∧ later.line = pool.line := by
  obtain ⟨task, rest, idle, queued, rfl⟩ := Pool.dequeue?_eq_some.mp taken
  have fewer : ({ pool with queue := rest } : Pool Task).Alone :=
    ⟨alone.worker, alone.roomy, alone.running, alone.sending⟩
  obtain ⟨stays, line⟩ := fewer.setWorker (.busy task) rfl
  have free (other : Task) : pool.workers[0]? ≠ some (.busy other) := by rw [idle]; simp
  refine ⟨stays, ?_⟩
  rw [line, alone.idle_line free, queued]
  rfl

end Alone

end Pool

def Attempt.task {Handler : Type} (operation : Operation Handler) : Attempt → Task Handler
  | .stalled call => .stalled operation call
  | .finished _ _ => .delivered operation.context

namespace System

variable {Handler : Type} {system later : System Handler} {service : ServiceId}
  {context : ContextId}

def line (system : System Handler) (service : ServiceId) : List (Task Handler) :=
  ((system.service? service).map fun found => found.pool.line).getD []

/-- A service that has one worker and hands its outcomes to a context. -/
def Single (system : System Handler) (service : ServiceId) (context : ContextId) : Prop :=
  ∃ found, system.service? service = some found ∧ found.context = context ∧ found.pool.Alone ∧
    0 < found.references

theorem line_of_service {found : Service Handler} (present : system.service? service = some found) :
    system.line service = found.pool.line := by
  simp [line, present]

theorem line_congr (services : later.services = system.services) (service : ServiceId) :
    later.line service = system.line service := by
  simp only [line, service?, services]

theorem Single.of_services (single : system.Single service context)
    (services : later.services = system.services) : later.Single service context := by
  obtain ⟨found, present, rest⟩ := single
  exact ⟨found, by simp only [service?, services]; exact present, rest⟩

theorem single_updatePool {found : Service Handler}
    (present : system.service? service = some found) (referenced : 0 < found.references)
    (change : Pool (Task Handler) → Pool (Task Handler)) (alone : (change found.pool).Alone) :
    (system.updatePool service change).Single service found.context ∧
      (system.updatePool service change).line service = (change found.pool).line := by
  have changed := service?_updatePool present change
  exact ⟨⟨_, changed, rfl, alone, referenced⟩, line_of_service changed⟩

theorem line_submit {found : Service Handler} (present : system.service? service = some found)
    (alone : found.pool.Alone) (referenced : 0 < found.references) (imp : Implementation)
    (request : Request) (buffers : List Bytes) (handler : Handler) :
    let later := system.submit service imp request buffers handler
    later.Single service found.context ∧
      later.line service = system.line service ++ [.issued
        { context := found.context, state := imp.state
          token := (system.state imp.state).source.token, handle := system.handleOf imp
          request, buffers, handler }] ∧
      later.host = system.host ∧ later.contexts.length = system.contexts.length ∧
      ∀ other, (later.view other).queue = (system.view other).queue := by
  obtain ⟨pool, accepted, stays, grown⟩ := alone.execute (.issued
    { context := found.context, state := imp.state
      token := (system.state imp.state).source.token, handle := system.handleOf imp
      request, buffers, handler })
  simp only [submit, present, accepted]
  have busy : (system.workStarted found.context).service? service = some found := present
  obtain ⟨single, line⟩ := single_updatePool busy referenced (fun _ => pool) stays
  refine ⟨single, ?_, rfl, length_updateContext .., fun other =>
    queue_view_updateContext _ _ _ fun _ => rfl⟩
  rw [line, grown, line_of_service present]

inductive Moved (system : System Handler) (service : ServiceId) (later : System Handler) : Prop
  | stays (line : later.line service = system.line service) (host : later.host = system.host)
    (queues : ∀ other, (later.view other).queue = (system.view other).queue)
  | aborts (operation : Operation Handler) (rest : List (Task Handler))
    (first : system.line service = .issued operation :: rest)
    (dead : system.isCancelled operation = true)
    (line : later.line service = .delivered operation.context :: rest)
    (host : later.host = system.host)
    (contexts : later.contexts =
      (system.deliver operation (.error .aborted) operation.buffers).contexts)
  | admits (operation : Operation Handler) (rest : List (Task Handler))
    (first : system.line service = .issued operation :: rest)
    (live : system.isCancelled operation = false)
    (line : later.line service = .admitted operation :: rest) (host : later.host = system.host)
    (contexts : later.contexts = system.contexts)
  | transfers (operation : Operation Handler) (rest : List (Task Handler))
    (first : system.line service = .admitted operation :: rest)
    (attempt : Attempt) (host : Host)
    (outcome : operation.request.attempt operation.handle operation.buffers system.host =
      (attempt, host))
    (line : later.line service = attempt.task operation :: rest)
    (next : later = { system with host }.follow service 0 operation attempt)
  | resumes (operation : Operation Handler) (call : Stalled) (rest : List (Task Handler))
    (first : system.line service = .stalled operation call :: rest)
    (able : system.host.resume? call ≠ none)
  | settles (context : ContextId) (rest : List (Task Handler))
    (first : system.line service = .delivered context :: rest)
    (line : later.line service = .settled :: rest) (host : later.host = system.host)
    (queues : ∀ other, (later.view other).queue = (system.view other).queue)
  | finishes (rest : List (Task Handler)) (first : system.line service = .settled :: rest)
    (line : later.line service = rest) (host : later.host = system.host)
    (queues : ∀ other, (later.view other).queue = (system.view other).queue)

section

variable {found : Service Handler}

theorem line_holdTask (present : system.service? service = some found) (alone : found.pool.Alone)
    (referenced : 0 < found.references) (task : Task Handler) :
    (system.holdTask service 0 task).Single service found.context ∧
      (system.holdTask service 0 task).line service = task :: found.pool.queue := by
  obtain ⟨stays, line⟩ := alone.setWorker (.busy task) rfl
  obtain ⟨single, same⟩ := single_updatePool present referenced
    (fun pool => pool.setWorker 0 (.busy task)) stays
  exact ⟨single, same.trans line⟩

theorem line_follow (present : system.service? service = some found) (alone : found.pool.Alone)
    (referenced : 0 < found.references) (operation : Operation Handler) (attempt : Attempt) :
    (system.follow service 0 operation attempt).Single service found.context ∧
      (system.follow service 0 operation attempt).line service =
        attempt.task operation :: found.pool.queue := by
  cases attempt with
  | stalled call => exact line_holdTask present alone referenced (.stalled operation call)
  | finished result buffers =>
    have posted : (system.deliver operation result buffers).service? service = some found := present
    exact line_holdTask posted alone referenced (.delivered operation.context)

theorem moved_idle (present : system.service? service = some found) (alone : found.pool.Alone)
    (referenced : 0 < found.references) (free : system.heldTask? service 0 = none)
    (stepped : system.workerStep? (fun _ => false) service 0 = some later) :
    later.Single service found.context ∧ system.Moved service later := by
  simp only [workerStep?, present, free] at stepped
  split at stepped
  next pool taken =>
    cases stepped
    obtain ⟨stays, line⟩ := alone.dequeue taken
    obtain ⟨single, same⟩ := single_updatePool present referenced (fun _ => pool) stays
    refine ⟨single, .stays ?_ rfl fun _ => rfl⟩
    rw [same, line, line_of_service present]
  next =>
    obtain ⟨pool, left, rfl⟩ := Option.map_eq_some_iff.mp stepped
    obtain ⟨_, _, hungUp, _⟩ := Pool.leave?_eq_some.mp left
    simp [alone.sending] at hungUp

theorem moved_of_step (single : system.Single service context)
    (stepped : system.workerStep? (fun _ => false) service 0 = some later) :
    later.Single service context ∧ system.Moved service later := by
  obtain ⟨found, present, rfl, alone, referenced⟩ := single
  cases held : system.heldTask? service 0 with
  | none => exact moved_idle present alone referenced held stepped
  | some task =>
    obtain ⟨_, again, busy⟩ := heldTask_eq_some.mp held
    cases present.symm.trans again
    have first := (line_of_service present).trans (alone.held_line busy)
    simp only [workerStep?, present, held] at stepped
    cases task with
    | issued operation =>
      simp only [Option.some.injEq, checkToken] at stepped
      subst stepped
      split
      next dead =>
        have posted : (system.deliver operation (.error .aborted) operation.buffers).service?
            service = some found := present
        obtain ⟨single, line⟩ :=
          line_holdTask posted alone referenced (.delivered operation.context)
        exact ⟨single, .aborts operation _ first dead line rfl rfl⟩
      next live =>
        obtain ⟨single, line⟩ := line_holdTask present alone referenced (.admitted operation)
        exact ⟨single, .admits operation _ first (by simpa using live) line rfl rfl⟩
    | admitted operation =>
      simp only [Bool.false_eq_true, if_false, Option.some.injEq] at stepped
      subst stepped
      cases outcome : operation.request.attempt operation.handle operation.buffers system.host with
      | mk attempt host =>
        have present : { system with host }.service? service = some found := present
        obtain ⟨single, line⟩ := line_follow present alone referenced operation attempt
        simp only [transfer, outcome]
        exact ⟨single, .transfers operation _ first attempt host outcome line rfl⟩
    | stalled operation call =>
      obtain ⟨⟨attempt, host⟩, resumed, rfl⟩ := Option.map_eq_some_iff.mp stepped
      have present : { system with host }.service? service = some found := present
      obtain ⟨single, _⟩ := line_follow present alone referenced operation attempt
      refine ⟨single, .resumes operation call _ first fun unable => ?_⟩
      simp only [Attempt.resume?, unable] at resumed
      cases resumed
    | delivered context =>
      simp only [Option.some.injEq] at stepped
      subst stepped
      have given : (system.workFinished context).service? service = some found := present
      obtain ⟨single, line⟩ := line_holdTask given alone referenced .settled
      exact ⟨single, .settles context _ first line rfl fun other =>
        queue_view_updateContext _ _ _ fun _ => rfl⟩
    | settled =>
      simp only [Option.some.injEq] at stepped
      subst stepped
      obtain ⟨stays, line⟩ := alone.setWorker .idle rfl
      have counted : (found.pool.finish 0).Alone :=
        ⟨stays.worker, stays.roomy, stays.running, stays.sending⟩
      obtain ⟨single, same⟩ := single_updatePool present referenced
        (fun pool => pool.finish 0) counted
      exact ⟨single, .finishes _ first (same.trans line) rfl fun _ => rfl⟩

end

end System

end AsyncFiles
