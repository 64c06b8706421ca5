import AsyncFiles.Proofs.Outcome.Starts

/-!
Operations that no worker has started. Each waits in the queue of its service or in the hands of a
worker that has not looked at its token. Once the token is dead it comes to one thing only: it is
answered as aborted, and the answer stays until its handler is called with it.
-/
namespace AsyncFiles

open Error Host

theorem mem_set_of_mem {α : Type} {list : List α} {index : Nat} {before value : α}
    (member : value ∈ list) (present : list[index]? = some before) (other : before ≠ value)
    (after : α) : value ∈ list.set index after := by
  obtain ⟨position, found⟩ := List.mem_iff_getElem?.mp member
  have apart : index ≠ position := by
    rintro rfl
    exact other (Option.some.inj (present.symm.trans found))
  exact List.mem_of_getElem? ((List.getElem?_set_ne apart).trans found)

def Operation.aborted {Handler : Type} (operation : Operation Handler) : Completion :=
  { result := .error .aborted, buffers := operation.buffers }

namespace Desk

/-- An operation that is in the queue, or with a worker that has not looked at its token. -/
def Awaits {Handler : Type} (desk : Desk Handler) (operation : Operation Handler) : Prop :=
  .issued operation ∈ desk.queue ∨ .busy (.issued operation) ∈ desk.workers

end Desk

namespace System

variable {system later : System Ticket} {service other : ServiceId} {worker : Nat}
  {operation : Operation Ticket}

def Awaits (system : System Ticket) (service : ServiceId) (operation : Operation Ticket) : Prop :=
  ∃ desk, system.desks[service]? = some desk ∧ desk.Awaits operation

theorem Awaits.of_desks (awaits : system.Awaits service operation)
    (same : later.desks = system.desks) : later.Awaits service operation := by
  obtain ⟨desk, found, waits⟩ := awaits
  exact ⟨desk, same ▸ found, waits⟩

theorem Awaits.set (awaits : system.Awaits service operation) {desk next : Desk Ticket}
    (found : system.desks[other]? = some desk)
    (desks : later.desks = system.desks.set other next)
    (kept : desk.Awaits operation → next.Awaits operation) : later.Awaits service operation := by
  obtain ⟨own, located, waits⟩ := awaits
  simp only [Awaits, desks, getElem_desks_set found]
  by_cases same : other = service
  · subst same
    cases found.symm.trans located
    exact ⟨next, if_pos rfl, kept waits⟩
  · exact ⟨own, (if_neg same).trans located, waits⟩

theorem heldTask_of_desk {desk : Desk Ticket} (found : system.desks[service]? = some desk)
    (worker : Nat) :
    system.heldTask? service worker = (desk.workers[worker]?).bind Worker.task? := by
  rw [desks_getElem] at found
  obtain ⟨present, located, rfl⟩ := Option.map_eq_some_iff.mp found
  simp only [heldTask?, located, Option.bind_some]
  rfl

theorem Awaits.submitted (awaits : system.Awaits service operation) {desk : Desk Ticket}
    {submission : Operation Ticket} (found : system.desks[other]? = some desk)
    (place : system.Submitted other desk submission later) : later.Awaits service operation := by
  cases place with
  | queued desks queues =>
    exact awaits.set found desks fun waits => waits.imp_left (List.mem_append_left _)
  | handed worker idle desks queues =>
    exact awaits.set found desks fun waits =>
      waits.imp_right fun busy => mem_set_of_mem busy idle (by simp) _
  | refused desks queues => exact awaits.of_desks desks

theorem Awaits.worked (awaits : system.Awaits service operation)
    (worked : system.Worked other worker later)
    (apart : system.heldTask? other worker ≠ some (.issued operation)) :
    later.Awaits service operation := by
  have stays {desk : Desk Ticket} {state : Worker (Task Ticket)}
      (found : system.desks[other]? = some desk) (held : desk.workers[worker]? = some state)
      (next : Worker (Task Ticket)) (waits : desk.Awaits operation) :
      (desk.setWorker worker next).Awaits operation := by
    refine waits.imp_right fun busy => mem_set_of_mem busy held ?_ next
    rintro rfl
    apply apart
    rw [heldTask_of_desk found, held]
    rfl
  cases worked with
  | takes desk task rest found idle queued desks queues =>
    refine awaits.set found desks ?_
    rintro (waits | busy)
    · rw [queued] at waits
      rcases List.mem_cons.mp waits with rfl | behind
      · have bound := (List.getElem?_eq_some_iff.mp idle).1
        exact .inr (List.mem_set bound _)
      · exact .inl behind
    · exact .inr (mem_set_of_mem busy idle (by simp) _)
  | answers desk state answered completion found held bears handed desks queues =>
    exact awaits.set found desks (stays found held _)
  | keeps desk before after found held same sound desks queues =>
    exact awaits.set found desks (stays found held after)

end System

namespace Program

variable {program later : Program} {service : ServiceId} {worker : Nat}
  {operation : Operation Ticket} {completion : Completion}

def reply (operation : Operation Ticket) (completion : Completion) : Invocation Ticket :=
  { handler := operation.handler, completion := some completion }

def Replied (program : Program) (operation : Operation Ticket) (completion : Completion) : Prop :=
  (∃ queue, program.system.queues[operation.context]? = some queue ∧
    reply operation completion ∈ queue) ∨
    (operation.context, reply operation completion) ∈ program.invoked

theorem Replied.of_appended (replied : program.Replied operation completion)
    (queues : ∀ queue, program.system.queues[operation.context]? = some queue →
      ∃ more, later.system.queues[operation.context]? = some (queue ++ more))
    (invoked : later.invoked = program.invoked) : later.Replied operation completion := by
  rcases replied with ⟨queue, found, member⟩ | called
  · obtain ⟨more, located⟩ := queues queue found
    exact .inl ⟨queue ++ more, located, List.mem_append_left more member⟩
  · exact .inr (invoked ▸ called)

theorem Replied.of_queues (replied : program.Replied operation completion)
    (queues : later.system.queues = program.system.queues)
    (invoked : later.invoked = program.invoked) : later.Replied operation completion := by
  refine replied.of_appended (fun queue found => ⟨[], ?_⟩) invoked
  rw [queues, List.append_nil]
  exact found

theorem Replied.of_quiet (replied : program.Replied operation completion)
    (quiet : program.system.Quiet later.system) (invoked : later.invoked = program.invoked) :
    later.Replied operation completion :=
  replied.of_queues quiet.queues invoked

theorem Replied.of_post (replied : program.Replied operation completion) {context : ContextId}
    {invocation : Invocation Ticket}
    (queues : later.system.queues = program.system.queues.modify context fun queue =>
      queue ++ [invocation])
    (invoked : later.invoked = program.invoked) : later.Replied operation completion := by
  refine replied.of_appended (fun queue found => ?_) invoked
  rw [queues, List.getElem?_modify, found]
  by_cases same : context = operation.context
  · exact ⟨[invocation], by simp [same]⟩
  · exact ⟨[], by simp [same]⟩

theorem replied_of_post (bound : operation.context < program.system.queues.length)
    (queues : later.system.queues = program.system.queues.modify operation.context fun queue =>
      queue ++ [reply operation completion]) : later.Replied operation completion := by
  refine .inl ⟨program.system.queues[operation.context] ++ [reply operation completion], ?_,
    by simp⟩
  rw [queues, List.getElem?_modify, List.getElem?_eq_getElem bound]
  simp

theorem Replied.worked (replied : program.Replied operation completion)
    (worked : program.system.Worked service worker later.system)
    (invoked : later.invoked = program.invoked) : later.Replied operation completion := by
  cases worked with
  | takes desk task rest found idle queued desks queues => exact replied.of_queues queues invoked
  | answers desk state other answer found held bears handed desks queues =>
    exact replied.of_post queues invoked
  | keeps desk before after found held same sound desks queues =>
    exact replied.of_queues queues invoked

theorem Replied.onContext (replied : program.Replied operation completion) (act : ContextAct) :
    (program.onContext act).Replied operation completion := by
  cases act with
  | create =>
    refine replied.of_appended (fun queue found => ⟨[], ?_⟩) rfl
    have bound := (List.getElem?_eq_some_iff.mp found).1
    have grown : (program.onContext .create).system.queues = program.system.queues ++ [[]] := by
      simp [Program.onContext, System.newContext, System.queues]
    rw [grown, List.getElem?_append_left bound, found, List.append_nil]
  | post context => exact replied.of_post (System.queues_post _ context _) rfl
  | serve context =>
    simp only [Program.onContext]
    split
    next invocation rest taken =>
      cases present : program.system.context? context with
      | none => simp [present, Context.turn] at taken
      | some found =>
        rw [present] at taken
        have queued : program.system.queues[context]? = some (invocation :: rest.queue) := by
          rw [← Context.queue_of_take taken]
          exact System.queues_getElem present
        rcases replied with ⟨queue, located, member⟩ | called
        · by_cases own : context = operation.context
          · subst own
            cases queued.symm.trans located
            rcases List.mem_cons.mp member with rfl | behind
            · exact .inr (by simp)
            · refine .inl ⟨rest.queue, ?_, behind⟩
              have bound := (List.getElem?_eq_some_iff.mp located).1
              rw [System.queues_updateContext present]
              exact List.getElem?_set_self bound
          · refine .inl ⟨queue, ?_, member⟩
            rw [System.queues_updateContext present]
            exact (List.getElem?_set_ne own).trans located
        · exact .inr (List.mem_append_left _ called)
    next => exact replied
    next => exact replied
  | leave context => exact replied.of_quiet (System.quiet_workFinished _ context) rfl
  | guard context => exact replied.of_quiet (System.quiet_workStarted _ context) rfl
  | unguard context => exact replied.of_quiet (System.quiet_workFinished _ context) rfl
  | stop context =>
    exact replied.of_quiet (System.quiet_updateContext _ context fun _ => rfl) rfl
  | restart context =>
    exact replied.of_quiet (System.quiet_updateContext _ context fun _ => rfl) rfl

theorem Replied.submit (replied : program.Replied operation completion) (service : ServiceId)
    (imp : Implementation) (request : Request) (buffers : List Bytes) :
    (program.submit service imp request buffers).Replied operation completion := by
  simp only [Program.submit]
  split
  next => exact replied
  next found present =>
    cases System.submitted_submit present imp request buffers (some program.initiated.length) with
    | queued desks queues => exact replied.of_queues queues rfl
    | handed worker idle desks queues => exact replied.of_queues queues rfl
    | refused desks queues => exact replied.of_post queues rfl

theorem Replied.perform (replied : program.Replied operation completion)
    (accounted : program.Accounted) (act : Act) :
    (program.perform act).Replied operation completion := by
  by_cases aside : act.aside = true
  · have still := program.still_perform aside
    exact replied.of_quiet still.calm.quiet still.invoked
  · match act, aside with
    | .context act, _ => exact replied.onContext act
    | .service (.start context config), _ =>
      simp only [Program.perform, onService]
      split
      next started =>
        obtain ⟨pool, _, rfl⟩ := System.started_service started
        exact replied.of_queues rfl rfl
      next => exact replied
    | .implementation (.call service imp (.submit request buffers)), _ =>
      exact replied.submit service imp request buffers
    | .work service worker, _ =>
      simp only [Program.perform]
      split
      next stepped =>
        exact replied.worked
          (System.worked_of_step (fun _ held => accounted.sound_of_held held) stepped) rfl
      next => exact replied

theorem Accounted.step (accounted : program.Accounted) (act : Act) :
    (program.step act).Accounted := by
  simp only [Program.step]
  split
  next allowed => exact accounted.perform allowed
  next => exact accounted

theorem Replied.run (replied : program.Replied operation completion)
    (accounted : program.Accounted) (acts : List Act) :
    (program.run acts).Replied operation completion := by
  induction acts generalizing program with
  | nil => exact replied
  | cons act rest ih =>
    refine ih ?_ (accounted.step act)
    simp only [Program.step]
    split
    next => exact replied.perform accounted act
    next => exact replied

theorem Accounted.started_of_awaits (accounted : program.Accounted)
    (awaits : program.system.Awaits service operation) : program.Started service operation := by
  obtain ⟨desk, found, waits⟩ := awaits
  have keeps := accounted.kept service desk found
  rcases waits with queued | busy
  · exact (keeps.tasks _ queued).2 operation rfl
  · exact (keeps.workers _ busy).2 operation rfl

/-- Everybody but a worker that has the operation leaves it waiting; a worker that has it answers
it, as its token is dead. -/
theorem Accounted.awaits_perform (accounted : program.Accounted)
    (awaits : program.system.Awaits service operation)
    (dead : program.system.isCancelled operation = true) (act : Act) :
    (program.perform act).system.Awaits service operation ∨
      (program.perform act).Replied operation operation.aborted := by
  by_cases aside : act.aside = true
  · exact .inl (awaits.of_desks (program.still_perform aside).calm.desks)
  · match act, aside with
    | .context act, _ =>
      refine .inl (awaits.of_desks ?_)
      cases act with
      | serve context =>
        simp only [Program.perform, Program.onContext]
        split <;> rfl
      | _ => rfl
    | .service (.start context config), _ =>
      refine .inl ?_
      simp only [Program.perform, onService]
      split
      next started =>
        obtain ⟨pool, _, rfl⟩ := System.started_service started
        obtain ⟨desk, found, waits⟩ := awaits
        have bound := (List.getElem?_eq_some_iff.mp found).1
        refine ⟨desk, ?_, waits⟩
        simp only [System.desks, List.map_append]
        exact (List.getElem?_append_left bound).trans found
      next => exact awaits
    | .implementation (.call other imp (.submit request buffers)), _ =>
      refine .inl ?_
      simp only [Program.perform, onImplementation, onCall, Program.submit]
      split
      next => exact awaits
      next found present =>
        have located : program.system.desks[other]? = some found.desk := by
          rw [System.desks_getElem, present, Option.map_some]
        exact awaits.submitted located (System.submitted_submit present imp request buffers _)
    | .work other worker, _ =>
      -- Of all steps only one of the worker that has the operation can end the wait.
      by_cases own : program.system.heldTask? other worker = some (.issued operation)
      · have stepped : program.system.workerStep? (fun _ => false) other worker = _ :=
          System.workerStep_issued own
        rw [System.checkToken, if_pos dead] at stepped
        rw [perform_work stepped]
        have bound := accounted.contexts _ (accounted.started_of_awaits awaits)
        exact .inr (replied_of_post bound (System.queues_post program.system operation.context _))
      · refine .inl ?_
        simp only [Program.perform]
        split
        next stepped =>
          exact awaits.worked
            (System.worked_of_step (fun _ held => accounted.sound_of_held held) stepped) own
        next => exact awaits

theorem Accounted.awaits_run (accounted : program.Accounted)
    (awaits : program.system.Awaits service operation) {acts : List Act}
    (dead : ∀ first rest, acts = first ++ rest →
      (program.run first).system.isCancelled operation = true) :
    (program.run acts).system.Awaits service operation ∨
      (program.run acts).Replied operation operation.aborted := by
  induction acts generalizing program with
  | nil => exact .inl awaits
  | cons act rest ih =>
    have later : (program.step act).system.Awaits service operation ∨
        (program.step act).Replied operation operation.aborted := by
      simp only [Program.step]
      split
      next => exact accounted.awaits_perform awaits (dead [] (act :: rest) rfl) act
      next => exact .inl awaits
    rcases later with waits | replied
    · exact ih (accounted.step act) waits fun first others same =>
        dead (act :: first) others (by rw [same]; rfl)
    · exact .inr (replied.run (accounted.step act) rest)

end Program

end AsyncFiles
