import AsyncFiles.Proofs.Completion.Accounts
import AsyncFiles.Proofs.Completion.Still

namespace AsyncFiles.Program

open Error Host

variable {program : Program}

namespace Accounted

theorem fresh (host : Host) : (Program.fresh host).Accounted where
  once ticket start found := by simp [Program.fresh] at found
  numbered ticket start found := by simp [Program.fresh] at found
  contexts start member := by simp [Program.fresh] at member
  kept service desk found := by simp [Program.fresh, System.desks] at found
  queues context queue found := by simp [Program.fresh, System.queues] at found
  invoked context invocation member := by simp [Program.fresh] at member

theorem onContext (accounted : program.Accounted) (act : ContextAct) :
    (program.onContext act).Accounted := by
  cases act with
  | create =>
    refine accounted.addContext rfl ?_ rfl rfl
    simp [Program.onContext, System.newContext, System.queues]
  | post context => exact accounted.post rfl rfl (System.queues_post _ context _) rfl rfl
  | serve context =>
    simp only [Program.onContext]
    split
    next invocation rest taken =>
      cases present : program.system.context? context with
      | none => simp [present, Context.turn] at taken
      | some found =>
        rw [present] at taken
        have queued : program.system.queues[context]? = some (invocation :: rest.queue) := by
          rw [← Context.queue_of_take taken]
          exact System.queues_getElem present
        exact accounted.serve queued rfl (System.queues_updateContext present _) rfl rfl
    next => exact accounted
    next => exact accounted
  | leave context => exact accounted.of_quiet (System.quiet_workFinished _ context) rfl rfl
  | guard context => exact accounted.of_quiet (System.quiet_workStarted _ context) rfl rfl
  | unguard context => exact accounted.of_quiet (System.quiet_workFinished _ context) rfl rfl
  | stop context =>
    exact accounted.of_quiet (System.quiet_updateContext _ context fun _ => rfl) rfl rfl
  | restart context =>
    exact accounted.of_quiet (System.quiet_updateContext _ context fun _ => rfl) rfl rfl

theorem of_still {later : Program} (accounted : program.Accounted) (still : program.Still later) :
    later.Accounted :=
  accounted.of_quiet still.calm.quiet still.initiated still.invoked

theorem start (accounted : program.Accounted) {context : ContextId} {config : PoolConfig}
    (bound : context < program.system.contexts.length) :
    (program.onService (.start context config)).Accounted := by
  simp only [Program.onService]
  split
  next started =>
    obtain ⟨pool, begun, rfl⟩ := System.started_service started
    have idle := Pool.idle_start begun
    let desk : Desk Ticket := { context, queue := pool.queue, workers := pool.workers }
    have bounded : desk.context < program.system.queues.length := by
      simpa [System.queues] using bound
    exact accounted.addDesk bounded idle.1 idle.2 (by simp [System.desks, Service.desk, desk])
      rfl rfl
      rfl
  next => exact accounted

theorem submit (accounted : program.Accounted) (service : ServiceId) (imp : Implementation)
    (request : Request) (buffers : List Bytes) :
    (program.submit service imp request buffers).Accounted := by
  simp only [Program.submit]
  split
  next => exact accounted
  next found present =>
    have located : program.system.desks[service]? = some found.desk := by
      rw [System.desks_getElem, present, Option.map_some]
    exact accounted.submitted located rfl rfl
      (System.submitted_submit present imp request buffers _) rfl rfl

theorem sound_of_held (accounted : program.Accounted) {service : ServiceId} {worker : Nat}
    {task : Task Ticket} (held : program.system.heldTask? service worker = some task) :
    task.Sound := by
  obtain ⟨found, present, busy⟩ := System.heldTask_eq_some.mp held
  have located : program.system.desks[service]? = some found.desk := by
    rw [System.desks_getElem, present, Option.map_some]
  exact ((accounted.kept service _ located).workers _ (List.mem_of_getElem? busy)).1 task rfl

theorem work (accounted : program.Accounted) (service : ServiceId) (worker : Nat) :
    (program.perform (.work service worker)).Accounted := by
  simp only [perform]
  split
  next stepped =>
    exact accounted.worked
      (System.worked_of_step (fun _ held => accounted.sound_of_held held) stepped) rfl rfl
  next => exact accounted

theorem perform (accounted : program.Accounted) {act : Act}
    (allowed : program.allows act = true) : (program.perform act).Accounted := by
  by_cases aside : act.aside = true
  · exact accounted.of_still (program.still_perform aside)
  · match act, aside with
    | .context act, _ => exact accounted.onContext act
    | .service (.start context config), _ => exact accounted.start (by simpa [allows] using allowed)
    | .implementation (.call service imp (.submit request buffers)), _ =>
      exact accounted.submit service imp request buffers
    | .work service worker, _ => exact accounted.work service worker

theorem run (host : Host) (acts : List Act) : ((Program.fresh host).run acts).Accounted :=
  run_keeps (fun _ _ accounted allowed => accounted.perform allowed) (.fresh host) acts

section

variable {ticket : Nat} {start : Initiation}

theorem with_own_service (accounted : program.Accounted)
    (found : program.initiated[ticket]? = some start) {service : ServiceId}
    (other : service ≠ start.service) :
    program.system.queued service ticket = 0 ∧ program.system.held service ticket = 0 := by
  have foreign {operation : Option (Operation Ticket)}
      (started : ∀ found, operation = some found → program.Started service found) :
      bears ticket operation ≠ true := by
    intro bearing
    obtain ⟨found', same, own⟩ := bears_eq_true.mp bearing
    have unique := accounted.start_unique (started found' same) own
    rw [found, Option.some.injEq] at unique
    exact other (by rw [unique])
  simp only [System.queued, System.held]
  cases present : program.system.desks[service]? with
  | none => exact ⟨rfl, rfl⟩
  | some desk =>
    have keeps := accounted.kept service desk present
    exact ⟨List.countP_eq_zero.mpr fun task member => foreign (keeps.tasks task member).2,
      List.countP_eq_zero.mpr fun worker member => foreign (keeps.workers worker member).2⟩

theorem in_own_context (accounted : program.Accounted)
    (found : program.initiated[ticket]? = some start) {context : ContextId}
    (other : context ≠ start.operation.context) :
    program.system.posted context ticket = 0 ∧ program.called context ticket = 0 := by
  have foreign {invocation : Invocation Ticket} (answered : program.Answered context invocation) :
      invocation.handler ≠ some ticket := by
    intro own
    obtain ⟨start', _, found', same, _⟩ := answered ticket own
    rw [found, Option.some.injEq] at found'
    exact other (by rw [found', same])
  constructor
  · simp only [System.posted]
    cases present : program.system.queues[context]? with
    | none => rfl
    | some queue =>
      apply List.countP_eq_zero.mpr
      intro invocation member own
      exact foreign (accounted.queues context queue present invocation member) (by simpa using own)
  · apply List.countP_eq_zero.mpr
    intro entry member own
    simp only [Bool.and_eq_true, decide_eq_true_eq] at own
    exact foreign (own.1 ▸ accounted.invoked entry.1 entry.2 member) own.2

theorem handed_back (accounted : program.Accounted)
    (found : program.initiated[ticket]? = some start) {context : ContextId}
    {invocation : Invocation Ticket} (called : (context, invocation) ∈ program.invoked)
    (own : invocation.handler = some ticket) :
    ∃ completion, invocation.completion = some completion ∧
      start.operation.HandsBack completion ∧
      completion.buffers.map List.length = start.operation.buffers.map List.length := by
  obtain ⟨start', completion, found', _, answer, handed⟩ :=
    accounted.invoked context invocation called ticket own
  rw [found, Option.some.injEq] at found'
  rw [found']
  exact ⟨completion, answer, handed, handed.lengths⟩

end

end Accounted

theorem submit_calls_nothing (program : Program) (service : ServiceId) (imp : Implementation)
    (request : Request) (buffers : List Bytes) :
    (program.submit service imp request buffers).invoked = program.invoked ∧
      (program.submit service imp request buffers).serving = program.serving := by
  simp only [submit]
  split
  next => exact ⟨rfl, rfl⟩
  next => exact ⟨rfl, rfl⟩

theorem initiated_submit {service : ServiceId} (referenced : 0 < program.system.references service)
    (imp : Implementation) (request : Request) (buffers : List Bytes) :
    ∃ operation, (program.submit service imp request buffers).initiated =
      program.initiated ++ [⟨service, operation⟩] ∧
      operation.request = request ∧ operation.buffers = buffers := by
  simp only [submit]
  cases present : program.system.service? service with
  | none => simp [System.references, present] at referenced
  | some found => exact ⟨program.operation found.context imp request buffers, rfl, rfl, rfl⟩

/-- After any run every operation is in one place: its task in the queue of its service or in the
hands of one worker, or its handler in the queue of its context or called, and that once. The
handler is called with the buffers that the operation was started with, as many, in their order and
as long as they were, into which a read has put what it gave. The call that starts an operation
calls no handler, whatever the pool makes of it. -/
theorem handler_called_once (host : Host) (acts : List Act) :
    let program := (Program.fresh host).run acts
    (∀ (ticket : Nat) (start : Initiation), program.initiated[ticket]? = some start →
      program.system.queued start.service ticket + program.system.held start.service ticket +
        program.system.posted start.operation.context ticket +
        program.called start.operation.context ticket = 1 ∧
      (∀ service, service ≠ start.service →
        program.system.queued service ticket = 0 ∧ program.system.held service ticket = 0) ∧
      (∀ context, context ≠ start.operation.context →
        program.system.posted context ticket = 0 ∧ program.called context ticket = 0) ∧
      ∀ context invocation, (context, invocation) ∈ program.invoked →
        invocation.handler = some ticket → ∃ completion, invocation.completion = some completion ∧
          start.operation.HandsBack completion ∧
          completion.buffers.map List.length = start.operation.buffers.map List.length) ∧
    ∀ service imp request buffers,
      let act := Act.implementation (.call service imp (.submit request buffers))
      (program.step act).invoked = program.invoked ∧
      (program.step act).serving = program.serving ∧
      (program.allows act = true → ∃ operation,
        (program.step act).initiated = program.initiated ++ [⟨service, operation⟩] ∧
          operation.request = request ∧ operation.buffers = buffers) := by
  intro program
  have accounted : program.Accounted := Accounted.run host acts
  constructor
  · intro ticket start found
    exact ⟨accounted.once ticket start found,
      fun _ other => accounted.with_own_service found other,
      fun _ other => accounted.in_own_context found other,
      fun _ _ called own => accounted.handed_back found called own⟩
  · intro service imp request buffers
    have quiet := program.submit_calls_nothing service imp request buffers
    intro act
    by_cases allowed : program.allows act = true
    · have stepped : program.step act = program.submit service imp request buffers := by
        simp only [step, allowed, if_true]
        rfl
      rw [stepped]
      have referenced : 0 < program.system.references service := by
        simp only [act, allows, Bool.and_eq_true, decide_eq_true_eq] at allowed
        exact allowed.1
      exact ⟨quiet.1, quiet.2, fun _ => initiated_submit referenced imp request buffers⟩
    · have stays : program.step act = program := by simp [step, allowed]
      rw [stays]
      exact ⟨rfl, rfl, fun possible => absurd possible allowed⟩

end AsyncFiles.Program
