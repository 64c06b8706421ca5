import AsyncFiles.Proofs.Completion.Answers
import AsyncFiles.Proofs.Completion.Quiet

namespace AsyncFiles

open Error Host

variable {Handler : Type}

namespace Task

def operation? : Task Handler → Option (Operation Handler)
  | .issued operation | .admitted operation | .stalled operation _ => some operation
  | .delivered _ | .settled => none

/-- A stalled transfer belongs to the operation that it is held with. -/
def Sound : Task Handler → Prop
  | .stalled operation call => operation.Fits call
  | _ => True

end Task

namespace Worker

def operation? (worker : Worker (Task Handler)) : Option (Operation Handler) :=
  worker.task?.bind Task.operation?

def Sound (worker : Worker (Task Handler)) : Prop := ∀ task, worker.task? = some task → task.Sound

end Worker

namespace Desk

def setWorker (desk : Desk Handler) (worker : Nat) (state : Worker (Task Handler)) :
    Desk Handler := { desk with workers := desk.workers.set worker state }

end Desk

theorem Worker.eq_idle {Task : Type} {worker : Worker Task} (idle : worker.isIdle = true) :
    worker = .idle := by
  cases worker with
  | idle => rfl
  | busy task | left => cases idle

namespace Pool

variable {Task : Type}

theorem offer_cases {pool later : Pool Task} {task : Task}
    (accepted : pool.offer task = .ok later) :
    (later.queue = pool.queue ++ [task] ∧ later.workers = pool.workers) ∨
      ∃ worker, pool.workers[worker]? = some .idle ∧ later.queue = pool.queue ∧
        later.workers = pool.workers.set worker (.busy task) := by
  simp only [offer] at accepted
  split at accepted
  next => cases accepted
  next =>
    split at accepted
    next =>
      split at accepted
      next worker waits =>
        obtain ⟨bound, idle, _⟩ := List.findIdx?_eq_some_iff_getElem.mp waits
        cases accepted
        refine .inr ⟨worker, ?_, rfl, rfl⟩
        rw [List.getElem?_eq_getElem bound, Worker.eq_idle idle]
      next => cases accepted
    next =>
      split at accepted
      next =>
        cases accepted
        exact .inl ⟨rfl, rfl⟩
      next => cases accepted
    next =>
      cases accepted
      exact .inl ⟨rfl, rfl⟩

theorem execute_cases {pool later : Pool Task} {task : Task}
    (accepted : pool.execute task = .ok later) :
    (later.queue = pool.queue ++ [task] ∧ later.workers = pool.workers) ∨
      ∃ worker, pool.workers[worker]? = some .idle ∧ later.queue = pool.queue ∧
        later.workers = pool.workers.set worker (.busy task) := by
  simp only [execute] at accepted
  split at accepted
  next => cases accepted
  next =>
    cases offered : pool.lend.countIn.offer task with
    | error error => simp [offered, Except.map] at accepted
    | ok middle =>
      have same : later = middle.giveBack := by simpa [offered, Except.map] using accepted.symm
      have places := offer_cases offered
      rw [same]
      exact places

theorem idle_start {config : PoolConfig} {pool : Pool Task} (started : start config = .ok pool) :
    pool.queue = [] ∧ ∀ worker ∈ pool.workers, worker = .idle := by
  simp only [start] at started
  split at started
  next => cases started
  next =>
    split at started
    next => cases started
    next => cases started
    next =>
      cases started
      exact ⟨rfl, fun worker member => (List.mem_replicate.mp member).2⟩

end Pool

namespace System

theorem desks_getElem (system : System Handler) (service : ServiceId) :
    system.desks[service]? = (system.service? service).map Service.desk :=
  List.getElem?_map

theorem desks_updateService (system : System Handler) {service : ServiceId}
    {found : Service Handler} (present : system.service? service = some found)
    (change : Service Handler → Service Handler) :
    (system.updateService service change).desks =
      system.desks.set service (change found).desk := by
  apply List.ext_getElem?
  intro position
  have bound : service < system.services.length := (List.getElem?_eq_some_iff.mp present).1
  simp only [desks, updateService, List.getElem?_map, List.getElem?_modify, List.getElem?_set,
    List.length_map]
  by_cases here : service = position
  · subst here
    rw [show system.services[service]? = some found from present]
    simp [bound]
  · cases system.services[position]? <;> simp [here]

theorem queues_getElem {system : System Handler} {context : ContextId}
    {found : Context (Invocation Handler)} (present : system.context? context = some found) :
    system.queues[context]? = some found.queue := by
  rw [queues, List.getElem?_map, show system.contexts[context]? = some found from present,
    Option.map_some]

theorem queues_updateContext {system : System Handler} {context : ContextId}
    {found : Context (Invocation Handler)} (present : system.context? context = some found)
    (change : Context (Invocation Handler) → Context (Invocation Handler)) :
    (system.updateContext context change).queues =
      system.queues.set context (change found).queue := by
  apply List.ext_getElem?
  intro position
  have bound : context < system.contexts.length := (List.getElem?_eq_some_iff.mp present).1
  simp only [queues, updateContext, List.getElem?_map, List.getElem?_modify, List.getElem?_set,
    List.length_map]
  by_cases here : context = position
  · subst here
    rw [show system.contexts[context]? = some found from present]
    simp [bound]
  · cases system.contexts[position]? <;> simp [here]

theorem queues_post (system : System Handler) (context : ContextId)
    (invocation : Invocation Handler) :
    (system.post context invocation).queues =
      system.queues.modify context fun queue => queue ++ [invocation] := by
  apply List.ext_getElem?
  intro position
  simp only [queues, post, updateContext, List.getElem?_map, List.getElem?_modify]
  cases system.contexts[position]? with
  | none => rfl
  | some found => by_cases here : context = position <;> simp [here]

theorem started_service {system later : System Handler} {context : ContextId} {config : PoolConfig}
    {service : ServiceId} (started : system.startService context config = .ok (service, later)) :
    ∃ pool, Pool.start config = .ok pool ∧
      later = { system with services := system.services ++ [{ context, config, pool }] } := by
  simp only [startService] at started
  cases begun : (Pool.start config : Except StartError (Pool (Task Handler))) with
  | error error => simp [begun, Except.map] at started
  | ok pool =>
    simp only [begun, Except.map, Except.ok.injEq, Prod.mk.injEq] at started
    exact ⟨pool, rfl, started.2.symm⟩

theorem queues_workStarted (system : System Handler) (context : ContextId) :
    (system.workStarted context).queues = system.queues :=
  (system.quiet_workStarted context).queues

/-- The place of an operation after its submission: the queue, the hands of a worker that waited
for it, or, where the pool refused it, the queue of its context with its answer. -/
inductive Submitted (system : System Handler) (service : ServiceId) (desk : Desk Handler)
    (operation : Operation Handler) (later : System Handler) : Prop
  | queued
    (desks : later.desks =
      system.desks.set service { desk with queue := desk.queue ++ [.issued operation] })
    (queues : later.queues = system.queues)
  | handed (worker : Nat) (idle : desk.workers[worker]? = some .idle)
    (desks : later.desks =
      system.desks.set service (desk.setWorker worker (.busy (.issued operation))))
    (queues : later.queues = system.queues)
  | refused (desks : later.desks = system.desks)
    (queues : later.queues = system.queues.modify operation.context fun queue =>
      queue ++ [{
        handler := operation.handler
        completion := some { result := .error .aborted, buffers := operation.buffers } }])

theorem submitted_submit {system : System Handler} {service : ServiceId} {found : Service Handler}
    (present : system.service? service = some found) (imp : Implementation) (request : Request)
    (buffers : List Bytes) (handler : Handler) :
    system.Submitted service found.desk
      { context := found.context, state := imp.state
        token := (system.state imp.state).source.token, handle := system.handleOf imp
        request, buffers, handler }
      (system.submit service imp request buffers handler) := by
  simp only [submit, present]
  split
  next pool accepted =>
    rcases Pool.execute_cases accepted with ⟨queue, workers⟩ | ⟨worker, idle, queue, workers⟩
    · refine .queued ?_ (system.queues_workStarted found.context)
      rw [updatePool, desks_updateService (system.workStarted found.context) present]
      simp [Service.desk, queue, workers, desks, workStarted, updateContext]
    · refine .handed worker idle ?_ (system.queues_workStarted found.context)
      rw [updatePool, desks_updateService (system.workStarted found.context) present]
      simp [Service.desk, Desk.setWorker, queue, workers, desks, workStarted, updateContext]
  next =>
    refine .refused rfl ?_
    rw [(quiet_workFinished _ found.context).queues, deliver, queues_post, queues_workStarted]

/-- What the step of a worker does: it takes the first task of the queue, or answers its operation,
or keeps what it has to do for the operation, if it has any. -/
inductive Worked (system : System Handler) (service : ServiceId) (worker : Nat)
    (later : System Handler) : Prop
  | takes (desk : Desk Handler) (task : Task Handler) (rest : List (Task Handler))
    (found : system.desks[service]? = some desk) (idle : desk.workers[worker]? = some .idle)
    (queued : desk.queue = task :: rest)
    (desks : later.desks =
      system.desks.set service ({ desk with queue := rest }.setWorker worker (.busy task)))
    (queues : later.queues = system.queues)
  | answers (desk : Desk Handler) (state : Worker (Task Handler)) (operation : Operation Handler)
    (completion : Completion) (found : system.desks[service]? = some desk)
    (held : desk.workers[worker]? = some state) (bears : state.operation? = some operation)
    (handed : operation.HandsBack completion)
    (desks : later.desks = system.desks.set service
      (desk.setWorker worker (.busy (.delivered operation.context))))
    (queues : later.queues = system.queues.modify operation.context fun queue =>
      queue ++ [{ handler := operation.handler, completion := some completion }])
  | keeps (desk : Desk Handler) (before after : Worker (Task Handler))
    (found : system.desks[service]? = some desk) (held : desk.workers[worker]? = some before)
    (same : after.operation? = before.operation?) (sound : after.Sound)
    (desks : later.desks = system.desks.set service (desk.setWorker worker after))
    (queues : later.queues = system.queues)

theorem heldTask_eq_some {system : System Handler} {service : ServiceId} {worker : Nat}
    {task : Task Handler} :
    system.heldTask? service worker = some task ↔
      ∃ found, system.service? service = some found ∧
        found.pool.workers[worker]? = some (.busy task) := by
  simp only [heldTask?]
  cases system.service? service with
  | none => simp
  | some found =>
    cases present : found.pool.workers[worker]? with
    | none => simp [present]
    | some state => cases state <;> simp [present, Worker.task?]

theorem desks_holdTask (system : System Handler) {service : ServiceId} {found : Service Handler}
    (present : system.service? service = some found) (worker : Nat) (task : Task Handler) :
    (system.holdTask service worker task).desks =
      system.desks.set service (found.desk.setWorker worker (.busy task)) :=
  system.desks_updateService present _

section

variable {system : System Handler} {service : ServiceId} {worker : Nat} {found : Service Handler}
  {task : Task Handler} {operation : Operation Handler}

theorem worked_deliver (present : system.service? service = some found)
    (held : found.pool.workers[worker]? = some (.busy task))
    (bears : task.operation? = some operation) {completion : Completion}
    (handed : operation.HandsBack completion) (host : Host) :
    system.Worked service worker
      (({ system with host }.deliver operation completion.result completion.buffers).holdTask
        service worker (.delivered operation.context)) := by
  refine .answers found.desk (.busy task) operation completion ?_ held bears handed ?_ ?_
  · rw [desks_getElem, present, Option.map_some]
  · exact desks_holdTask ({ system with host }.deliver operation _ _) present worker _
  · exact queues_post { system with host } operation.context _

theorem worked_follow (present : system.service? service = some found)
    (held : found.pool.workers[worker]? = some (.busy task))
    (bears : task.operation? = some operation) {attempt : Attempt}
    (meets : operation.Meets attempt) (host : Host) :
    system.Worked service worker
      ({ system with host }.follow service worker operation attempt) := by
  cases attempt with
  | stalled call =>
    refine .keeps found.desk (.busy task) (.busy (.stalled operation call)) ?_ held bears.symm
      ?_ ?_ rfl
    · rw [desks_getElem, present, Option.map_some]
    · intro other same
      cases same
      exact meets
    · exact desks_holdTask { system with host } present worker _
  | finished result buffers => exact worked_deliver present held bears meets host

theorem worked_checkToken (present : system.service? service = some found)
    (held : found.pool.workers[worker]? = some (.busy (.issued operation))) :
    system.Worked service worker (system.checkToken service worker operation) := by
  simp only [checkToken]
  split
  next =>
    have handed : operation.HandsBack { result := .error .aborted, buffers := operation.buffers } :=
      .inl rfl
    exact worked_deliver present held rfl handed system.host
  next =>
    refine .keeps found.desk _ (.busy (.admitted operation)) ?_ held rfl ?_ ?_ rfl
    · rw [desks_getElem, present, Option.map_some]
    · intro other same
      cases same
      trivial
    · exact desks_holdTask system present worker _

theorem worked_dequeue (present : system.service? service = some found)
    {pool : Pool (Task Handler)} (taken : found.pool.dequeue? worker = some pool) :
    system.Worked service worker (system.updatePool service fun _ => pool) := by
  simp only [Pool.dequeue?] at taken
  split at taken
  next task rest idle queued =>
    cases taken
    refine .takes found.desk task rest ?_ idle queued ?_ rfl
    · rw [desks_getElem, present, Option.map_some]
    · exact system.desks_updateService present _
  next => cases taken

theorem worked_leave (present : system.service? service = some found)
    {pool : Pool (Task Handler)} (left : found.pool.leave? worker = some pool) :
    system.Worked service worker (system.updatePool service fun _ => pool) := by
  simp only [Pool.leave?] at left
  split at left
  next idle queued =>
    split at left
    next =>
      cases left
      refine .keeps found.desk .idle .left ?_ idle rfl (fun _ none => by cases none) ?_ rfl
      · rw [desks_getElem, present, Option.map_some]
      · exact system.desks_updateService present _
    next => cases left
  next => cases left

theorem worked_settle {context : ContextId} (present : system.service? service = some found)
    (held : found.pool.workers[worker]? = some (.busy (.delivered context))) :
    system.Worked service worker
      ((system.workFinished context).holdTask service worker .settled) := by
  refine .keeps found.desk _ (.busy .settled) ?_ held rfl ?_ ?_
    (system.quiet_workFinished context).queues
  · rw [desks_getElem, present, Option.map_some]
  · intro other same
    cases same
    trivial
  · exact desks_holdTask (system.workFinished context) present worker _

theorem worked_finish (present : system.service? service = some found)
    (held : found.pool.workers[worker]? = some (.busy .settled)) :
    system.Worked service worker (system.updatePool service fun pool => pool.finish worker) := by
  refine .keeps found.desk _ .idle ?_ held rfl (fun _ none => by cases none) ?_ rfl
  · rw [desks_getElem, present, Option.map_some]
  · exact system.desks_updateService present _

end

theorem worked_of_step {system later : System Handler} {paused : Operation Handler → Bool}
    {service : ServiceId} {worker : Nat}
    (sound : ∀ task, system.heldTask? service worker = some task → task.Sound)
    (stepped : system.workerStep? paused service worker = some later) :
    system.Worked service worker later := by
  simp only [workerStep?] at stepped
  cases present : system.service? service with
  | none => simp [present] at stepped
  | some found =>
    simp only [present] at stepped
    cases held : system.heldTask? service worker with
    | none =>
      simp only [held] at stepped
      split at stepped
      next pool taken =>
        cases stepped
        exact worked_dequeue present taken
      next =>
        obtain ⟨pool, left, rfl⟩ := Option.map_eq_some_iff.mp stepped
        exact worked_leave present left
    | some task =>
      obtain ⟨_, again, busy⟩ := heldTask_eq_some.mp held
      cases present.symm.trans again
      cases task with
      | issued operation =>
        simp only [held, Option.some.injEq] at stepped
        rw [← stepped]
        exact worked_checkToken present busy
      | admitted operation =>
        simp only [held] at stepped
        split at stepped
        next => cases stepped
        next =>
          cases stepped
          exact worked_follow present busy rfl (operation.meets_attempt system.host) _
      | stalled operation call =>
        simp only [held] at stepped
        obtain ⟨⟨attempt, host⟩, resumed, rfl⟩ := Option.map_eq_some_iff.mp stepped
        exact worked_follow present busy rfl
          (Operation.meets_resume (sound _ held) resumed) host
      | delivered context =>
        simp only [held, Option.some.injEq] at stepped
        rw [← stepped]
        exact worked_settle present busy
      | settled =>
        simp only [held, Option.some.injEq] at stepped
        rw [← stepped]
        exact worked_finish present busy

end System

end AsyncFiles
