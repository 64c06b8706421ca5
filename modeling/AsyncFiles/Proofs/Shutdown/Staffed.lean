import AsyncFiles.Proofs.Shutdown.Standing
import AsyncFiles.Proofs.Work.Tasks

namespace AsyncFiles

open Error Host

namespace Pool

variable {Task : Type} {pool later : Pool Task} {shut : Bool} {task : Task} {worker : Nat}

structure Staffed (pool : Pool Task) (shut : Bool) : Prop where
  running : pool.running = !shut
  sending : pool.sending = !shut
  workers : pool.workers ≠ []
  emptied : ∀ worker ∈ pool.workers, worker.hasLeft = true → shut = true ∧ pool.queue = []

inductive Labors (pool : Pool Task) (worker : Nat) : Pool Task → Prop
  | takes {task : Task} {rest : List Task} (idle : pool.workers[worker]? = some .idle)
    (queued : pool.queue = task :: rest) :
    Labors pool worker ({ pool with queue := rest }.setWorker worker (.busy task))
  | goesOn {task : Task} (held : pool.workers[worker]? = some (.busy task)) (next : Task) :
    Labors pool worker (pool.setWorker worker (.busy next))
  | finishes {task : Task} (held : pool.workers[worker]? = some (.busy task)) :
    Labors pool worker (pool.finish worker)
  | leaves (idle : pool.workers[worker]? = some .idle) (empty : pool.queue = [])
    (silent : pool.sending = false) : Labors pool worker (pool.setWorker worker .left)

theorem start_eq {config : PoolConfig} (started : start config = .ok pool) :
    config.threads ≠ 0 ∧ pool = fresh config.queueCapacity config.threads := by
  simp only [start] at started
  split at started
  next => cases started
  next some =>
    split at started
    next => cases started
    next => cases started
    next =>
      cases started
      exact ⟨some, rfl⟩

theorem staffed_start {config : PoolConfig} (started : start config = .ok pool) :
    pool.Staffed false := by
  obtain ⟨some, rfl⟩ := start_eq started
  refine ⟨rfl, rfl, by simp [fresh, some], fun worker member left => ?_⟩
  rw [(List.mem_replicate.mp member).2] at left
  cases left

theorem offer_settings (accepted : pool.offer task = .ok later) :
    later.running = pool.running ∧ later.sending = pool.sending := by
  simp only [offer] at accepted
  split at accepted
  next => cases accepted
  next =>
    split at accepted
    next =>
      split at accepted
      next =>
        cases accepted
        exact ⟨rfl, rfl⟩
      next => cases accepted
    next =>
      split at accepted
      next =>
        cases accepted
        exact ⟨rfl, rfl⟩
      next => cases accepted
    next =>
      cases accepted
      exact ⟨rfl, rfl⟩

theorem execute_settings (accepted : pool.execute task = .ok later) :
    pool.sending = true ∧ later.running = pool.running ∧ later.sending = pool.sending := by
  simp only [execute] at accepted
  split at accepted
  next => cases accepted
  next takes =>
    simp only [Bool.or_eq_true, Bool.not_eq_true', not_or, Bool.not_eq_false] at takes
    cases offered : pool.lend.countIn.offer task with
    | error error => simp [offered, Except.map] at accepted
    | ok middle =>
      have same : later = middle.giveBack := by simpa [offered, Except.map] using accepted.symm
      have settings := offer_settings offered
      rw [same]
      exact ⟨takes.2, settings⟩

namespace Staffed

theorem close (staffed : pool.Staffed shut) : pool.close.Staffed true where
  running := rfl
  sending := rfl
  workers := staffed.workers
  emptied worker member left := ⟨rfl, (staffed.emptied worker member left).2⟩

theorem refuses (staffed : pool.Staffed true) (task : Task) :
    pool.execute task = .error .shutDown := by
  rw [execute, staffed.running]
  rfl

theorem setWorker (staffed : pool.Staffed shut) (worker : Nat) (state : Worker Task)
    (left : state.hasLeft = true → shut = true ∧ pool.queue = []) :
    (pool.setWorker worker state).Staffed shut where
  running := staffed.running
  sending := staffed.sending
  workers := by simpa [Pool.setWorker] using staffed.workers
  emptied other member gone := by
    rcases List.mem_or_eq_of_mem_set member with before | rfl
    · exact staffed.emptied other before gone
    · exact left gone

theorem setQueue (staffed : pool.Staffed shut) (busy : shut = true → pool.queue ≠ [])
    (queue : List Task) : ({ pool with queue } : Pool Task).Staffed shut where
  running := staffed.running
  sending := staffed.sending
  workers := staffed.workers
  emptied worker member left := by
    obtain ⟨down, empty⟩ := staffed.emptied worker member left
    exact absurd empty (busy down)

theorem execute (staffed : pool.Staffed shut) (accepted : pool.execute task = .ok later) :
    later.Staffed shut := by
  obtain ⟨takes, running, sending⟩ := execute_settings accepted
  have up : shut = false := by simpa [staffed.sending] using takes
  have present (worker : Worker Task) (member : worker ∈ pool.workers) :
      worker.hasLeft = false := by
    rw [Bool.eq_false_iff]
    intro left
    have down := (staffed.emptied worker member left).1
    rw [up] at down
    cases down
  rcases execute_cases accepted with ⟨queue, workers⟩ | ⟨receiver, idle, queue, workers⟩
  · refine ⟨running.trans staffed.running, sending.trans staffed.sending,
      workers ▸ staffed.workers, fun worker member left => ?_⟩
    rw [workers] at member
    rw [present worker member] at left
    cases left
  · refine ⟨running.trans staffed.running, sending.trans staffed.sending, ?_,
      fun worker member left => ?_⟩
    · rw [workers]
      simpa using staffed.workers
    · rw [workers] at member
      rcases List.mem_or_eq_of_mem_set member with before | rfl
      · rw [present worker before] at left
        cases left
      · cases left

theorem labors (staffed : pool.Staffed shut) (labors : pool.Labors worker later) :
    later.Staffed shut := by
  cases labors with
  | @takes task rest idle queued =>
    have taken := staffed.setQueue (fun _ empty => by simp [queued] at empty) rest
    exact taken.setWorker worker _ fun left => by cases left
  | goesOn held next => exact staffed.setWorker worker _ fun left => by cases left
  | finishes held =>
    have idle := staffed.setWorker worker .idle fun left => by cases left
    exact { idle with }
  | leaves idle empty silent =>
    refine staffed.setWorker worker .left fun _ => ⟨?_, empty⟩
    simpa [staffed.sending] using silent

theorem nothing_left (staffed : pool.Staffed shut) (left : pool.allLeft = true) :
    pool.queue = [] ∧ ∀ worker ∈ pool.workers, worker.task? = none := by
  rw [allLeft, List.all_eq_true] at left
  obtain ⟨first, member⟩ := List.exists_mem_of_ne_nil _ staffed.workers
  refine ⟨(staffed.emptied first member (left first member)).2, fun worker known => ?_⟩
  have gone := left worker known
  cases worker with
  | left => rfl
  | idle | busy => cases gone

end Staffed

end Pool

namespace System

variable {Handler : Type} {system later : System Handler} {service : ServiceId} {worker : Nat}
  {found : Service Handler} {pool : Pool (Task Handler)}

def Staffed (system : System Handler) : Prop :=
  ∀ service standing, system.standing? service = some standing → standing.1.Staffed standing.2

theorem standing_updatePool (present : system.service? service = some found)
    (pool : Pool (Task Handler)) (other : ServiceId) :
    (system.updatePool service fun _ => pool).standing? other =
      if other = service then some (pool, found.shutDown) else system.standing? other := by
  by_cases same : other = service
  · subst same
    rw [if_pos rfl, standing?, service?_updatePool present]
    rfl
  · simp [standing?, service?, updatePool, updateService, same, Ne.symm same]

theorem updatePool_const (present : system.service? service = some found)
    (change : Pool (Task Handler) → Pool (Task Handler)) :
    system.updatePool service change = system.updatePool service fun _ => change found.pool := by
  have there : system.services[service]? = some found := present
  simp only [updatePool, updateService, List.modify_eq_set_getElem?, there]
  rfl

theorem labors_of_hold (present : system.service? service = some found) {task : Task Handler}
    (held : found.pool.workers[worker]? = some (.busy task)) (next : Task Handler) :
    ∃ pool, found.pool.Labors worker pool ∧
      (system.holdTask service worker next).services =
        (system.updatePool service fun _ => pool).services :=
  ⟨_, .goesOn held next, by rw [holdTask, updatePool_const present]⟩

theorem labors_of_follow (present : system.service? service = some found) {task : Task Handler}
    (held : found.pool.workers[worker]? = some (.busy task)) (operation : Operation Handler)
    (attempt : Attempt) (host : Host) :
    ∃ pool, found.pool.Labors worker pool ∧
      ({ system with host }.follow service worker operation attempt).services =
        (system.updatePool service fun _ => pool).services := by
  cases attempt with
  | stalled call => exact labors_of_hold present held (.stalled operation call)
  | finished result buffers => exact labors_of_hold present held (.delivered operation.context)

theorem labors_of_step {paused : Operation Handler → Bool}
    (stepped : system.workerStep? paused service worker = some later) :
    ∃ found pool, system.service? service = some found ∧ found.pool.Labors worker pool ∧
      later.services = (system.updatePool service fun _ => pool).services := by
  simp only [workerStep?] at stepped
  cases present : system.service? service with
  | none => simp [present] at stepped
  | some found =>
    refine ⟨found, ?_⟩
    simp only [present] at stepped
    cases held : system.heldTask? service worker with
    | none =>
      simp only [held] at stepped
      split at stepped
      next pool taken =>
        cases stepped
        obtain ⟨task, rest, idle, queued, rfl⟩ := Pool.dequeue?_eq_some.mp taken
        exact ⟨_, rfl, .takes idle queued, rfl⟩
      next =>
        obtain ⟨pool, left, rfl⟩ := Option.map_eq_some_iff.mp stepped
        obtain ⟨idle, empty, silent, _, rfl⟩ := Pool.leave?_eq_some.mp left
        exact ⟨_, rfl, .leaves idle empty silent, rfl⟩
    | some task =>
      obtain ⟨_, again, busy⟩ := heldTask_eq_some.mp held
      cases present.symm.trans again
      cases task with
      | issued operation =>
        simp only [held, Option.some.injEq] at stepped
        rw [← stepped, checkToken]
        split
        · obtain ⟨pool, labors, same⟩ := labors_of_hold present busy (.delivered operation.context)
          exact ⟨pool, rfl, labors, same⟩
        · obtain ⟨pool, labors, same⟩ := labors_of_hold present busy (.admitted operation)
          exact ⟨pool, rfl, labors, same⟩
      | admitted operation =>
        simp only [held] at stepped
        split at stepped
        next => cases stepped
        next =>
          cases stepped
          obtain ⟨pool, labors, same⟩ := labors_of_follow present busy operation _ _
          exact ⟨pool, rfl, labors, same⟩
      | stalled operation call =>
        simp only [held] at stepped
        obtain ⟨⟨attempt, host⟩, _, rfl⟩ := Option.map_eq_some_iff.mp stepped
        obtain ⟨pool, labors, same⟩ := labors_of_follow present busy operation attempt host
        exact ⟨pool, rfl, labors, same⟩
      | delivered context =>
        simp only [held, Option.some.injEq] at stepped
        rw [← stepped]
        obtain ⟨pool, labors, same⟩ := labors_of_hold present busy .settled
        exact ⟨pool, rfl, labors, same⟩
      | settled =>
        simp only [held, Option.some.injEq] at stepped
        rw [← stepped, updatePool_const present]
        exact ⟨_, rfl, .finishes busy, rfl⟩

theorem Staffed.of_stands (staffed : system.Staffed) (stands : system.Stands later) :
    later.Staffed := by
  intro service standing found
  exact staffed service standing ((stands service).symm.trans found)

theorem Staffed.updatePool (staffed : system.Staffed)
    (present : system.service? service = some found) {pool : Pool (Task Handler)}
    (own : pool.Staffed found.shutDown) :
    (system.updatePool service fun _ => pool).Staffed := by
  intro other standing known
  rw [standing_updatePool present] at known
  split at known
  next =>
    cases known
    exact own
  next => exact staffed other standing known

theorem Staffed.of_service (staffed : system.Staffed)
    (present : system.service? service = some found) : found.pool.Staffed found.shutDown :=
  staffed service found.standing (by rw [standing?, present, Option.map_some])

end System

namespace Program

variable {program : Program} {service : ServiceId}

theorem staffed_perform (staffed : program.system.Staffed) {act : Act}
    (allowed : program.allows act = true) : (program.perform act).system.Staffed := by
  by_cases leisurely : act.leisurely = true
  · intro service standing found
    by_cases retires : program.Retires service act
    · rw [standing_retired retires] at found
      obtain ⟨before, present, rfl⟩ := Option.map_eq_some_iff.mp found
      have own := staffed service before present
      simp only [Standing.retire]
      split
      next => exact own
      next => exact own.close
    · rw [standing_kept allowed leisurely retires] at found
      exact staffed service standing found
  · obtain ⟨context, config, rfl⟩ | ⟨other, imp, request, buffers, rfl⟩ | ⟨other, worker, rfl⟩ :=
      act.busy_cases leisurely
    · simp only [perform, onService]
      split
      next started =>
        obtain ⟨pool, begun, rfl⟩ := System.started_service started
        intro service standing found
        obtain ⟨own, present, rfl⟩ := Option.map_eq_some_iff.mp found
        rcases List.mem_append.mp (List.mem_of_getElem? present) with before | fresh
        · obtain ⟨index, located⟩ := List.mem_iff_getElem?.mp before
          exact staffed.of_service located
        · cases List.mem_singleton.mp fresh
          exact Pool.staffed_start begun
      next => exact staffed
    · simp only [perform, onImplementation, onCall, submit]
      split
      next => exact staffed
      next found present =>
        simp only [System.submit, present]
        split
        next pool accepted =>
          have started : (program.system.workStarted found.context).Staffed :=
            staffed.of_stands (System.stands_of_services rfl)
          exact started.updatePool present ((staffed.of_service present).execute accepted)
        next => exact staffed.of_stands (System.stands_of_services rfl)
    · simp only [perform]
      split
      next stepped =>
        obtain ⟨found, pool, present, labors, same⟩ := System.labors_of_step stepped
        have worked := staffed.updatePool present ((staffed.of_service present).labors labors)
        exact worked.of_stands (System.stands_of_services same)
      next => exact staffed

theorem staffed_run (host : Host) (acts : List Act) :
    ((fresh host).run acts).system.Staffed := by
  have none : (fresh host).system.Staffed := by
    intro service standing found
    simp [fresh, System.standing?, System.service?] at found
  have kept (program : Program) (act : Act) (staffed : program.system.Staffed)
      (allowed : program.allows act = true) : (program.perform act).system.Staffed :=
    staffed_perform staffed allowed
  exact run_keeps kept none acts

end Program

end AsyncFiles
