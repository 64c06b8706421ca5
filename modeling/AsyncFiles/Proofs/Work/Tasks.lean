import AsyncFiles.Proofs.Completion.Steps
import AsyncFiles.Proofs.Pool.Balance

/-!
All tasks of a system, wherever they are, and the contexts that they keep busy. A step trades one
task for another; what it does to a context goes with the task that it trades.
-/
namespace AsyncFiles

open Error Host

variable {Handler : Type}

namespace Task

def guard? : Task Handler → Option ContextId
  | .issued operation | .admitted operation | .stalled operation _ => some operation.context
  | .delivered context => some context
  | .settled => none

theorem guard_of_operation {task : Task Handler} {operation : Operation Handler}
    (bears : task.operation? = some operation) : task.guard? = some operation.context := by
  cases task with
  | issued | admitted | stalled => cases bears; rfl
  | delivered | settled => cases bears

end Task

namespace Desk

def tasks (desk : Desk Handler) : List (Task Handler) :=
  desk.queue ++ desk.workers.filterMap Worker.task?

theorem tasks_setWorker {desk : Desk Handler} {worker : Nat} {before : Worker (Task Handler)}
    (present : desk.workers[worker]? = some before) (after : Worker (Task Handler)) :
    (before.task?.toList ++ (desk.setWorker worker after).tasks).Perm
      (after.task?.toList ++ desk.tasks) := by
  have traded := filterMap_set_perm (f := Worker.task?) present after
  refine (List.perm_append_comm_assoc _ _ _).trans ?_
  exact (traded.append_left desk.queue).trans (List.perm_append_comm_assoc _ _ _)

end Desk

namespace System

variable {system later : System Handler} {service : ServiceId} {context : ContextId}

def tasks (system : System Handler) : List (Task Handler) := system.desks.flatMap Desk.tasks

def operations (system : System Handler) : List (Operation Handler) :=
  system.tasks.filterMap Task.operation?

/-- The contexts that the tasks keep busy, each as often as it is kept. -/
def guards (system : System Handler) : List ContextId := system.tasks.filterMap Task.guard?

/-- A context, as one that was never created looks if there is none. -/
def view (system : System Handler) (context : ContextId) : Context (Invocation Handler) :=
  (system.context? context).getD {}

def homes (system : System Handler) : List ContextId := system.desks.map Desk.context

/-- Tasks that went and tasks that came, where all others stayed with their services. -/
structure Trades (system later : System Handler) (went came : List (Task Handler)) : Prop where
  perm : (went ++ later.tasks).Perm (came ++ system.tasks)
  homes : later.homes = system.homes

theorem Trades.operations {went came : List (Task Handler)}
    (trades : system.Trades later went came) :
    (went.filterMap Task.operation? ++ later.operations).Perm
      (came.filterMap Task.operation? ++ system.operations) := by
  simpa [System.operations] using trades.perm.filterMap Task.operation?

theorem Trades.guards {went came : List (Task Handler)} (trades : system.Trades later went came) :
    (went.filterMap Task.guard? ++ later.guards).Perm
      (came.filterMap Task.guard? ++ system.guards) := by
  simpa [System.guards] using trades.perm.filterMap Task.guard?

theorem desk_of_service {found : Service Handler} (present : system.service? service = some found) :
    system.desks[service]? = some found.desk := by
  rw [desks_getElem, present, Option.map_some]

theorem trades_set {desk next : Desk Handler} {went came : List (Task Handler)}
    (found : system.desks[service]? = some desk)
    (desks : later.desks = system.desks.set service next) (same : next.context = desk.context)
    (traded : (went ++ next.tasks).Perm (came ++ desk.tasks)) :
    system.Trades later went came where
  perm := by
    have moved : (desk.tasks ++ later.tasks).Perm (next.tasks ++ system.tasks) := by
      rw [tasks, desks]
      exact flatMap_set_perm found next
    apply (List.perm_append_left_iff next.tasks).mp
    refine (List.perm_append_comm_assoc _ _ _).trans ?_
    have own := traded.append_right later.tasks
    rw [List.append_assoc, List.append_assoc] at own
    exact own.trans ((moved.append_left came).trans (List.perm_append_comm_assoc _ _ _))
  homes := by
    rw [homes, desks, List.map_set, same]
    exact set_same (by rw [List.getElem?_map, found, Option.map_some])

theorem view_updateContext (system : System Handler) (context other : ContextId)
    (change : Context (Invocation Handler) → Context (Invocation Handler)) :
    (system.updateContext context change).view other =
      if context = other ∧ context < system.contexts.length then change (system.view other)
      else system.view other := by
  simp only [view, context?, updateContext, List.getElem?_modify]
  by_cases same : context = other
  · subst same
    by_cases bound : context < system.contexts.length
    · simp [bound]
    · simp [bound]
  · simp [same]

theorem tasks_start (system : System Handler) (context : ContextId) (config : PoolConfig)
    {pool : Pool (Task Handler)} (begun : Pool.start config = .ok pool) :
    tasks { system with services := system.services ++ [{ context, config, pool }] } =
      system.tasks := by
  obtain ⟨queue, idle⟩ := Pool.idle_start begun
  have nothing : pool.workers.filterMap Worker.task? = [] :=
    List.filterMap_eq_nil_iff.mpr fun worker member => by rw [idle worker member]; rfl
  simp [tasks, desks, Desk.tasks, Service.desk, queue, nothing]

theorem homes_start (system : System Handler) (context : ContextId) (config : PoolConfig)
    (pool : Pool (Task Handler)) :
    homes { system with services := system.services ++ [{ context, config, pool }] } =
      system.homes ++ [context] := by
  simp [homes, desks, Service.desk]

theorem view_newContext (system : System Handler) (context : ContextId) :
    system.newContext.2.view context = system.view context := by
  simp only [newContext, view, context?]
  rcases Nat.lt_trichotomy context system.contexts.length with earlier | rfl | later
  · rw [List.getElem?_append_left earlier]
  · simp
  · rw [List.getElem?_eq_none (by simp; omega), List.getElem?_eq_none (by omega)]

theorem view_congr (contexts : later.contexts = system.contexts) (context : ContextId) :
    later.view context = system.view context := by
  simp only [view, context?, contexts]

inductive Labored (system later : System Handler) : Prop
  /-- A task goes from hand to hand, or a worker comes further with one, or is done with it. -/
  | passes (operations : later.operations.Perm system.operations)
    (guards : later.guards.Perm system.guards) (contexts : later.contexts = system.contexts)
  | answers (operation : Operation Handler) (completion : Completion)
    (operations : (operation :: later.operations).Perm system.operations)
    (guards : later.guards.Perm system.guards)
    (contexts : later.contexts = (system.post operation.context
      { handler := operation.handler, completion := some completion }).contexts)
  | settles (context : ContextId) (operations : later.operations.Perm system.operations)
    (guards : (context :: later.guards).Perm system.guards)
    (contexts : later.contexts = (system.workFinished context).contexts)

theorem labored_pass {went came : List (Task Handler)} (trades : system.Trades later went came)
    (operations : came.filterMap Task.operation? = went.filterMap Task.operation?)
    (guards : came.filterMap Task.guard? = went.filterMap Task.guard?)
    (contexts : later.contexts = system.contexts) :
    system.Labored later ∧ later.homes = system.homes := by
  have moved := trades.operations
  have kept := trades.guards
  rw [operations] at moved
  rw [guards] at kept
  exact ⟨.passes ((List.perm_append_left_iff _).mp moved) ((List.perm_append_left_iff _).mp kept)
    contexts, trades.homes⟩

section

variable {worker : Nat} {found : Service Handler} {task : Task Handler}
  {operation : Operation Handler}

theorem trades_setWorker {before : Worker (Task Handler)}
    (present : system.service? service = some found)
    (held : found.pool.workers[worker]? = some before) (after : Worker (Task Handler))
    (desks : later.desks = system.desks.set service (found.desk.setWorker worker after)) :
    system.Trades later before.task?.toList after.task?.toList :=
  trades_set (desk_of_service present) desks rfl
    (Desk.tasks_setWorker held after)

theorem service?_updatePool (present : system.service? service = some found)
    (change : Pool (Task Handler) → Pool (Task Handler)) :
    (system.updatePool service change).service? service =
      some { found with pool := change found.pool } := by
  simp only [service?] at present
  simp [updatePool, updateService, service?, present]

theorem updatePool_updatePool (system : System Handler) (service : ServiceId)
    (first second : Pool (Task Handler)) :
    ((system.updatePool service fun _ => first).updatePool service fun _ => second) =
      system.updatePool service fun _ => second := by
  simp only [updatePool, updateService, List.modify_modify_eq]
  rfl

theorem updatePool_same (present : system.service? service = some found) :
    (system.updatePool service fun _ => found.pool) = system := by
  have known : system.services[service]? = some found := present
  simp only [updatePool, updateService]
  rw [List.modify_eq_set_getElem?, known]
  congr
  exact set_same known

theorem desks_updatePool (present : system.service? service = some found)
    {pool : Pool (Task Handler)} (queue : pool.queue = found.pool.queue)
    (workers : pool.workers = found.pool.workers) :
    (system.updatePool service fun _ => pool).desks = system.desks := by
  rw [updatePool, system.desks_updateService present]
  exact set_same (by rw [desk_of_service present]; simp [Service.desk, queue, workers])

theorem trades_sent (present : system.service? service = some found) {receiver : Nat}
    {pool : Pool (Task Handler)} (sent : found.pool.Sent task receiver pool) :
    system.Trades (system.updatePool service fun _ => pool) [] [task] := by
  cases sent with
  | queued =>
    refine trades_set (desk_of_service present) (system.desks_updateService present _) rfl ?_
    simp only [Desk.tasks, Service.desk, List.append_assoc]
    exact List.perm_middle
  | handed _ waits =>
    exact trades_setWorker present waits (.busy task) (system.desks_updateService present _)

theorem trades_dequeue {rest : List (Task Handler)} (present : system.service? service = some found)
    (idle : found.pool.workers[worker]? = some .idle) (queued : found.pool.queue = task :: rest) :
    system.Trades (system.updatePool service fun _ =>
      { found.pool with queue := rest }.setWorker worker (.busy task)) [] [] := by
  refine trades_set (desk_of_service present)
    (system.desks_updateService present _) rfl ?_
  have taken : ((found.desk.setWorker worker (.busy task)).workers.filterMap Worker.task?).Perm
      (task :: found.desk.workers.filterMap Worker.task?) :=
    filterMap_set_perm (f := Worker.task?) idle (.busy task)
  simp only [Desk.tasks, Service.desk, Pool.setWorker, Desk.setWorker, queued] at taken ⊢
  exact (taken.append_left rest).trans List.perm_middle

theorem labored_deliver (present : system.service? service = some found)
    (held : found.pool.workers[worker]? = some (.busy task))
    (bears : task.operation? = some operation) (result : Except FileError Nat)
    (buffers : List Bytes) (host : Host) :
    let later := ({ system with host }.deliver operation result buffers).holdTask service worker
      (.delivered operation.context)
    system.Labored later ∧ later.homes = system.homes := by
  have trades := trades_setWorker present held (.busy (.delivered operation.context))
    (desks_holdTask ({ system with host }.deliver operation result buffers) present worker _)
  have moved := trades.operations
  have kept := trades.guards
  have guard := Task.guard_of_operation bears
  simp only [Worker.task?, Option.toList, List.filterMap_cons, List.filterMap_nil, bears, guard]
    at moved kept
  exact ⟨.answers operation { result, buffers } moved ((List.perm_cons _).mp kept) rfl,
    trades.homes⟩

theorem labored_hold (present : system.service? service = some found)
    (held : found.pool.workers[worker]? = some (.busy task)) (next : Task Handler)
    (operations : next.operation? = task.operation?) (guards : next.guard? = task.guard?)
    (host : Host) :
    let later := { system with host }.holdTask service worker next
    system.Labored later ∧ later.homes = system.homes :=
  labored_pass (trades_setWorker present held (.busy next)
      (desks_holdTask { system with host } present worker next))
    (by simp [Worker.task?, List.filterMap_cons, operations])
    (by simp [Worker.task?, List.filterMap_cons, guards]) rfl

theorem labored_follow (present : system.service? service = some found)
    (held : found.pool.workers[worker]? = some (.busy task))
    (bears : task.operation? = some operation) (attempt : Attempt) (host : Host) :
    let later := { system with host }.follow service worker operation attempt
    system.Labored later ∧ later.homes = system.homes := by
  cases attempt with
  | stalled call =>
    exact labored_hold present held (.stalled operation call) bears.symm
      (Task.guard_of_operation bears).symm host
  | finished result buffers => exact labored_deliver present held bears result buffers host

theorem labored_settle (present : system.service? service = some found)
    (held : found.pool.workers[worker]? = some (.busy (.delivered context))) :
    let later := (system.workFinished context).holdTask service worker .settled
    system.Labored later ∧ later.homes = system.homes := by
  have trades := trades_setWorker present held (.busy .settled)
    (desks_holdTask (system.workFinished context) present worker _)
  have moved := trades.operations
  have kept := trades.guards
  simp only [Worker.task?, Option.toList, List.filterMap_cons, List.filterMap_nil,
    Task.operation?, Task.guard?] at moved kept
  exact ⟨.settles context moved kept rfl, trades.homes⟩

theorem labored_of_step {paused : Operation Handler → Bool}
    (stepped : system.workerStep? paused service worker = some later) :
    system.Labored later ∧ later.homes = system.homes := by
  simp only [workerStep?] at stepped
  cases present : system.service? service with
  | none => simp [present] at stepped
  | some found =>
    simp only [present] at stepped
    cases held : system.heldTask? service worker with
    | none =>
      simp only [held] at stepped
      split at stepped
      next pool taken =>
        cases stepped
        obtain ⟨task, rest, idle, queued, rfl⟩ := Pool.dequeue?_eq_some.mp taken
        exact labored_pass (trades_dequeue present idle queued) rfl rfl rfl
      next =>
        obtain ⟨pool, left, rfl⟩ := Option.map_eq_some_iff.mp stepped
        obtain ⟨idle, _, _, _, rfl⟩ := Pool.leave?_eq_some.mp left
        exact labored_pass (trades_setWorker present idle .left
          (system.desks_updateService present _)) rfl rfl rfl
    | some task =>
      obtain ⟨_, again, busy⟩ := heldTask_eq_some.mp held
      cases present.symm.trans again
      cases task with
      | issued operation =>
        simp only [held, Option.some.injEq] at stepped
        rw [← stepped, checkToken]
        split
        · exact labored_deliver present busy rfl (.error .aborted) operation.buffers system.host
        · exact labored_hold present busy (.admitted operation) rfl rfl system.host
      | admitted operation =>
        simp only [held] at stepped
        split at stepped
        next => cases stepped
        next =>
          cases stepped
          exact labored_follow present busy rfl _ _
      | stalled operation call =>
        simp only [held] at stepped
        obtain ⟨⟨attempt, host⟩, _, rfl⟩ := Option.map_eq_some_iff.mp stepped
        exact labored_follow present busy rfl attempt host
      | delivered context =>
        simp only [held, Option.some.injEq] at stepped
        rw [← stepped]
        exact labored_settle present busy
      | settled =>
        simp only [held, Option.some.injEq] at stepped
        rw [← stepped]
        exact labored_pass (trades_setWorker present busy .idle
          (system.desks_updateService present _)) rfl rfl rfl

end

theorem queue_view_updateContext (system : System Handler) (context other : ContextId)
    {change : Context (Invocation Handler) → Context (Invocation Handler)}
    (same : ∀ found, (change found).queue = found.queue) :
    ((system.updateContext context change).view other).queue = (system.view other).queue := by
  rw [view_updateContext]
  split
  · exact same _
  · rfl

theorem length_updateContext (system : System Handler) (context : ContextId)
    (change : Context (Invocation Handler) → Context (Invocation Handler)) :
    (system.updateContext context change).contexts.length = system.contexts.length := by
  simp [updateContext]

end System

end AsyncFiles
