import AsyncFiles.Proofs.Outcome.Starts
import Mathlib.Data.List.Induction

namespace AsyncFiles

open Access Cancellation Error Host

theorem FileError.ofErrno_ne_aborted (errno : Errno) : FileError.ofErrno errno ≠ .aborted := by
  intro same
  have faults := congrArg FileError.fault same
  cases faults

theorem FileHandle.lift_ne_aborted {α : Type} (result : Except Errno α) :
    FileHandle.lift result ≠ .error .aborted := by
  cases result with
  | ok value => simp [FileHandle.lift, Except.mapError]
  | error errno => simpa [FileHandle.lift, Except.mapError] using FileError.ofErrno_ne_aborted errno

theorem FileHandle.received_ne_aborted (buffers : List Bytes) (data : Bytes) :
    (FileHandle.received buffers data).1 ≠ .error .aborted := by
  simp only [FileHandle.received]
  split <;> simp [FileError.endOfFile, FileError.aborted, FileError.ofKind]

def Attempt.Unaborted : Attempt → Prop
  | .stalled _ => True
  | .finished result _ => result ≠ .error .aborted

namespace Request

theorem readSome_ne_aborted (handle : FileHandle) (buffers : List Bytes) (offset : Option Nat)
    (host : Host) : (handle.readSome buffers offset host).1 ≠ .error .aborted := by
  simp only [FileHandle.readSome]
  split
  next => simp [FileError.badDescriptor, FileError.aborted, FileError.ofKind]
  next =>
    split
    next error beyond =>
      rw [checkOffset_error beyond]
      simpa using tooFar_ne_aborted
    next =>
      split
      next errno _ _ => simpa using FileError.ofErrno_ne_aborted errno
      next data _ _ => exact FileHandle.received_ne_aborted buffers data

theorem writeSome_ne_aborted (handle : FileHandle) (buffers : List Bytes) (offset : Option Nat)
    (host : Host) : (handle.writeSome buffers offset host).1 ≠ .error .aborted := by
  simp only [FileHandle.writeSome]
  split
  next => simp [FileError.badDescriptor, FileError.aborted, FileError.ofKind]
  next =>
    split
    next error beyond =>
      rw [checkOffset_error beyond]
      simpa using tooFar_ne_aborted
    next => exact FileHandle.lift_ne_aborted _

theorem unaborted_attempt (request : Request) (handle : FileHandle) (buffers : List Bytes)
    (host : Host) : (request.attempt handle buffers host).1.Unaborted := by
  simp only [attempt]
  split
  next => trivial
  next =>
    simp only [perform]
    split
    next => exact readSome_ne_aborted handle buffers request.offset host
    next => exact writeSome_ne_aborted handle buffers request.offset host

end Request

theorem Attempt.unaborted_resume {buffers : List Bytes} {call : Stalled} {host later : Host}
    {attempt : Attempt} (resumed : Attempt.resume? buffers call host = some (attempt, later)) :
    attempt.Unaborted := by
  simp only [Attempt.resume?] at resumed
  split at resumed
  next => cases resumed
  next =>
    cases resumed
    trivial
  next data _ _ =>
    cases resumed
    exact FileHandle.received_ne_aborted buffers data
  next result _ _ =>
    cases resumed
    exact FileHandle.lift_ne_aborted result

namespace System

variable {Handler : Type} {system later : System Handler} {service : ServiceId} {worker : Nat}

/-- The step of a worker answers at most one operation, and with an abortion only the one it holds
and whose token it finds dead. -/
structure AnswersOne (system : System Handler) (service : ServiceId) (worker : Nat)
    (later : System Handler) (operation : Operation Handler) (completion : Completion) : Prop where
  queues : later.queues = system.queues.modify operation.context fun queue =>
    queue ++ [{ handler := operation.handler, completion := some completion }]
  dead : completion.result = .error .aborted →
    system.heldTask? service worker = some (.issued operation) ∧
      system.isCancelled operation = true

theorem answersOne_follow {attempt : Attempt} (unaborted : attempt.Unaborted)
    (operation : Operation Handler) (host : Host) :
    ({ system with host }.follow service worker operation attempt).queues = system.queues ∨
      ∃ completion, system.AnswersOne service worker
        ({ system with host }.follow service worker operation attempt) operation completion := by
  cases attempt with
  | stalled call => exact .inl rfl
  | finished result buffers =>
    exact .inr ⟨{ result, buffers }, queues_post { system with host } operation.context _,
      fun aborted => absurd aborted unaborted⟩

theorem answersOne_of_step {paused : Operation Handler → Bool}
    (stepped : system.workerStep? paused service worker = some later) :
    later.queues = system.queues ∨ ∃ operation completion,
      system.AnswersOne service worker later operation completion := by
  simp only [workerStep?] at stepped
  split at stepped
  next => cases stepped
  next found _ =>
    cases held : system.heldTask? service worker with
    | none =>
      left
      simp only [held] at stepped
      split at stepped
      next =>
        cases stepped
        rfl
      next =>
        obtain ⟨pool, _, rfl⟩ := Option.map_eq_some_iff.mp stepped
        rfl
    | some task =>
      cases task with
      | issued operation =>
        simp only [held, Option.some.injEq] at stepped
        rw [← stepped, checkToken]
        -- The one place where an operation is answered as aborted is the check of its token.
        split
        next dead =>
          exact .inr ⟨operation, _, queues_post system operation.context _, fun _ => ⟨held, dead⟩⟩
        next => exact .inl rfl
      | admitted operation =>
        simp only [held] at stepped
        split at stepped
        next => cases stepped
        next =>
          cases stepped
          have unaborted := operation.request.unaborted_attempt operation.handle operation.buffers
            system.host
          exact (answersOne_follow unaborted operation _).imp_right fun answers =>
            ⟨operation, answers⟩
      | stalled operation call =>
        simp only [held] at stepped
        obtain ⟨⟨attempt, host⟩, resumed, rfl⟩ := Option.map_eq_some_iff.mp stepped
        exact (answersOne_follow (Attempt.unaborted_resume resumed) operation host).imp_right
          fun answers => ⟨operation, answers⟩
      | delivered context =>
        simp only [held, Option.some.injEq] at stepped
        rw [← stepped]
        exact .inl (system.quiet_workFinished context).queues
      | settled =>
        simp only [held, Option.some.injEq] at stepped
        rw [← stepped]
        exact .inl rfl

end System

def Invocation.TellsAborted (invocation : Invocation Ticket) (ticket : Nat) : Prop :=
  invocation.handler = some ticket ∧
    ∃ buffers, invocation.completion = some { result := .error .aborted, buffers }

namespace Program

variable {program later : Program} {ticket : Nat}

/-- The answer that its operation was aborted was given to a handler, or is queued for it. -/
def ToldAborted (program : Program) (ticket : Nat) : Prop :=
  (∃ queue ∈ program.system.queues, ∃ invocation ∈ queue, invocation.TellsAborted ticket) ∨
    ∃ entry ∈ program.invoked, entry.2.TellsAborted ticket

theorem ToldAborted.of_same (told : later.ToldAborted ticket)
    (queues : later.system.queues = program.system.queues)
    (invoked : later.invoked = program.invoked) : program.ToldAborted ticket := by
  simpa only [ToldAborted, queues, invoked] using told

theorem ToldAborted.of_post (told : later.ToldAborted ticket) {context : ContextId}
    {invocation : Invocation Ticket}
    (queues : later.system.queues = program.system.queues.modify context fun queue =>
      queue ++ [invocation])
    (invoked : later.invoked = program.invoked) :
    program.ToldAborted ticket ∨ invocation.TellsAborted ticket := by
  rcases told with ⟨queue, member, answer, among, tells⟩ | called
  · rw [queues] at member
    obtain ⟨index, located⟩ := List.mem_iff_getElem?.mp member
    rw [List.getElem?_modify] at located
    obtain ⟨before, present, same⟩ := Option.map_eq_some_iff.mp located
    have queued := List.mem_of_getElem? present
    subst same
    split at among
    · rcases List.mem_append.mp among with earlier | new
      · exact .inl (.inl ⟨before, queued, answer, earlier, tells⟩)
      · exact .inr (List.mem_singleton.mp new ▸ tells)
    · exact .inl (.inl ⟨before, queued, answer, among, tells⟩)
  · exact .inl (.inr (invoked ▸ called))

theorem toldAborted_serve {context : ContextId}
    (told : (program.onContext (.serve context)).ToldAborted ticket) :
    program.ToldAborted ticket := by
  simp only [onContext] at told
  split at told
  next invocation rest taken =>
    cases present : program.system.context? context with
    | none => simp [present, Context.turn] at taken
    | some found =>
      rw [present] at taken
      have queued : program.system.queues[context]? = some (invocation :: rest.queue) := by
        rw [← Context.queue_of_take taken]
        exact System.queues_getElem present
      have listed := List.mem_of_getElem? queued
      rcases told with ⟨queue, member, answer, among, tells⟩ | ⟨entry, member, tells⟩
      · rw [System.queues_updateContext present] at member
        rcases List.mem_or_eq_of_mem_set member with before | rfl
        · exact .inl ⟨queue, before, answer, among, tells⟩
        · exact .inl ⟨_, listed, answer, List.mem_cons_of_mem _ among, tells⟩
      · rcases List.mem_append.mp member with before | new
        · exact .inr ⟨entry, before, tells⟩
        · exact .inl ⟨_, listed, invocation, List.mem_cons_self,
            by simpa [List.mem_singleton.mp new] using tells⟩
  next => exact told
  next => exact told

theorem toldAborted_onContext {act : ContextAct}
    (told : (program.onContext act).ToldAborted ticket) : program.ToldAborted ticket := by
  cases act with
  | create =>
    rcases told with ⟨queue, member, answer, among, tells⟩ | called
    · simp only [onContext, System.newContext, System.queues, List.map_append, List.map_cons,
        List.map_nil, List.mem_append, List.mem_singleton] at member
      rcases member with before | rfl
      · exact .inl ⟨queue, before, answer, among, tells⟩
      · simp at among
    · exact .inr called
  | post context =>
    have posted : program.ToldAborted ticket ∨ Invocation.TellsAborted { handler := none } ticket :=
      told.of_post (System.queues_post program.system context _) rfl
    rcases posted with before | ⟨own, _⟩
    · exact before
    · cases own
  | serve context => exact toldAborted_serve told
  | leave context | unguard context =>
    exact told.of_same (program.system.quiet_workFinished context).queues rfl
  | guard context =>
    exact told.of_same (program.system.quiet_workStarted context).queues rfl
  | stop context =>
    have quiet : program.system.Quiet (program.onContext (.stop context)).system :=
      System.quiet_updateContext _ context fun _ => rfl
    exact told.of_same quiet.queues rfl
  | restart context =>
    have quiet : program.system.Quiet (program.onContext (.restart context)).system :=
      System.quiet_updateContext _ context fun _ => rfl
    exact told.of_same quiet.queues rfl

def Takes (program : Program) (service : ServiceId) (imp : Implementation) (request : Request)
    (buffers : List Bytes) : Prop :=
  ∃ found pool, program.system.service? service = some found ∧
    found.pool.execute (.issued (program.operation found.context imp request buffers)) = .ok pool

theorem queues_of_takes {service : ServiceId} {imp : Implementation} {request : Request}
    {buffers : List Bytes} (takes : program.Takes service imp request buffers) :
    (program.submit service imp request buffers).system.queues = program.system.queues := by
  obtain ⟨found, pool, present, accepted⟩ := takes
  simp only [operation] at accepted
  simp only [submit, present, System.submit, accepted]
  exact program.system.queues_workStarted found.context

theorem toldAborted_submit {service : ServiceId} {imp : Implementation} {request : Request}
    {buffers : List Bytes}
    (told : (program.submit service imp request buffers).ToldAborted ticket) :
    program.ToldAborted ticket ∨ program.initiated.length = ticket := by
  cases present : program.system.service? service with
  | none => exact .inl (by simpa only [submit, present] using told)
  | some found =>
    simp only [submit, present] at told
    rcases System.submitted_submit present imp request buffers (some program.initiated.length) with
      ⟨_, queues⟩ | ⟨_, _, _, queues⟩ | ⟨_, queues⟩
    · exact .inl (told.of_same queues rfl)
    · exact .inl (told.of_same queues rfl)
    · exact (told.of_post queues rfl).imp_right fun tells => Option.some.inj tells.1

theorem toldAborted_start {context : ContextId} {config : PoolConfig}
    (told : (program.onService (.start context config)).ToldAborted ticket) :
    program.ToldAborted ticket := by
  simp only [onService] at told
  split at told
  next started =>
    obtain ⟨pool, _, rfl⟩ := System.started_service started
    exact told
  next => exact told

def FindsDead (program : Program) (ticket : Nat) : Prop :=
  ∃ service worker operation,
    program.system.heldTask? service worker = some (.issued operation) ∧
      operation.handler = some ticket ∧ program.system.isCancelled operation = true

theorem toldAborted_work {service : ServiceId} {worker : Nat}
    (told : (program.perform (.work service worker)).ToldAborted ticket) :
    program.ToldAborted ticket ∨ program.FindsDead ticket := by
  simp only [perform] at told
  split at told
  next stepped =>
    rcases System.answersOne_of_step stepped with queues | ⟨operation, completion, answers⟩
    · exact .inl (told.of_same queues rfl)
    · refine (told.of_post answers.queues rfl).imp_right ?_
      rintro ⟨own, buffers, aborted⟩
      have dead := answers.dead (by rw [Option.some.inj aborted])
      exact ⟨service, worker, operation, dead.1, own, dead.2⟩
  next => exact .inl told

/-- Why a handler is told that its operation was aborted: it was told before, or its operation is
turned away now, or a worker finds the operation's token dead. -/
theorem toldAborted_perform {act : Act} (told : (program.perform act).ToldAborted ticket) :
    program.ToldAborted ticket ∨ program.initiated.length = ticket ∨
      program.FindsDead ticket := by
  by_cases aside : act.aside = true
  · have still := program.still_perform aside
    exact .inl (told.of_same still.calm.quiet.queues still.invoked)
  · revert told
    match act, aside with
    | .context act, _ => exact fun told => .inl (toldAborted_onContext told)
    | .service (.start context config), _ => exact fun told => .inl (toldAborted_start told)
    | .implementation (.call service imp (.submit request buffers)), _ =>
      exact fun told => (toldAborted_submit told).imp_right .inl
    | .work service worker, _ => exact fun told => (toldAborted_work told).imp_right .inr

end Program

namespace Course

variable {course : Course}

def Accepted (course : Course) : Prop :=
  course.atIssue.Takes course.service course.imp course.request course.buffers

theorem not_told_atIssue (course : Course) :
    ¬ course.atIssue.ToldAborted course.atIssue.initiated.length := by
  have accounted : course.atIssue.Accounted := Program.Accounted.run course.host course.before
  have fresh {context : ContextId} {invocation : Invocation Ticket}
      (answered : course.atIssue.Answered context invocation) :
      ¬ invocation.TellsAborted course.atIssue.initiated.length := by
    rintro ⟨own, _⟩
    obtain ⟨start, _, known, _⟩ := answered _ own
    simp at known
  rintro (⟨queue, member, invocation, among, tells⟩ | ⟨⟨context, invocation⟩, member, tells⟩)
  · obtain ⟨context, located⟩ := List.mem_iff_getElem?.mp member
    exact fresh (accounted.queues context queue located invocation among) tells
  · exact fresh (accounted.invoked context invocation member) tells

theorem not_told_issued (allowed : course.atIssue.allows course.issuing = true)
    (accepted : course.Accepted) :
    ¬ course.issued.ToldAborted course.atIssue.initiated.length := by
  have invoked : (course.atIssue.submit course.service course.imp course.request
      course.buffers).invoked = course.atIssue.invoked := by
    simp only [Program.submit]
    split <;> rfl
  intro told
  rw [issued_eq allowed] at told
  exact course.not_told_atIssue (told.of_same (Program.queues_of_takes accepted) invoked)

theorem issued_longer (allowed : course.atIssue.allows course.issuing = true)
    (accepted : course.Accepted) :
    course.atIssue.initiated.length < course.issued.initiated.length := by
  obtain ⟨found, _, present, _⟩ := accepted
  simp [issued_eq allowed, Program.submit, present]

theorem live_of_spared (allowed : course.atIssue.allows course.issuing = true)
    (live : (course.atIssue.system.state course.imp.state).source.destroyed = false)
    (spared : ¬ course.issued.EndsIn course.imp.state course.after) {home : ServiceId}
    {worker : Nat} {operation : Operation Ticket}
    (held : course.atStart.system.heldTask? home worker = some (.issued operation))
    (own : operation.handler = some course.atIssue.initiated.length) :
    course.atStart.system.isCancelled operation = false := by
  obtain ⟨_, context, rfl⟩ := operation_eq allowed held own
  have member : course.imp ∈ course.atIssue.live := by
    simp only [issuing, Program.allows, Bool.and_eq_true, List.contains_iff_mem] at allowed
    exact allowed.2
  have bound : course.imp.state < course.issued.system.states.length := by
    rw [states_issued]
    exact Program.Grounded.run course.host course.before course.imp member
  have issued : course.issued.system.state course.imp.state =
      course.atIssue.system.state course.imp.state := by
    simp only [System.state, states_issued]
  have same := Program.source_run spared (issued ▸ live) bound
  rw [issued] at same
  refine (Token.isCancelled_eq_false_iff _ _).mpr ⟨same, ?_⟩
  exact (congrArg Source.destroyed same).trans live

/-- An operation that the pool took while its source was live is not answered as aborted unless
something ends it. -/
theorem not_told_of_spared (allowed : course.atIssue.allows course.issuing = true)
    (live : (course.atIssue.system.state course.imp.state).source.destroyed = false)
    (accepted : course.Accepted)
    (spared : ¬ course.issued.EndsIn course.imp.state course.after) :
    ¬ course.atStart.ToldAborted course.atIssue.initiated.length := by
  obtain ⟨host, before, service, imp, request, buffers, after⟩ := course
  -- On the acts after the issue, from the last one back.
  induction after using List.reverseRecOn with
  | nil => exact not_told_issued allowed accepted
  | append_singleton after act ih =>
    let course : Course := { host, before, service, imp, request, buffers, after }
    have earlier : ¬ course.issued.EndsIn imp.state after := by
      rintro ⟨first, ending, rest, rfl, ends⟩
      exact spared ⟨first, ending, rest ++ [act], by simp, ends⟩
    have quiet : ¬ course.atStart.ToldAborted course.atIssue.initiated.length :=
      ih allowed live accepted earlier
    have last : course.issued.run (after ++ [act]) = course.atStart.step act := by
      rw [Program.run_append]
      rfl
    change ¬ (course.issued.run (after ++ [act])).ToldAborted course.atIssue.initiated.length
    rw [last, Program.step]
    split
    next =>
      intro told
      rcases Program.toldAborted_perform told with before | turnedAway | found
      · exact quiet before
      · have longer : course.atIssue.initiated.length < course.issued.initiated.length :=
          issued_longer allowed accepted
        have grown := (course.issued.initiated_run after).length_le
        have same : (course.issued.run after).initiated.length =
          course.atIssue.initiated.length := turnedAway
        omega
      · obtain ⟨home, worker, operation, held, own, dead⟩ := found
        have alive : course.atStart.system.isCancelled operation = false :=
          @live_of_spared course allowed live earlier _ _ _ held own
        rw [alive] at dead
        cases dead
    next => exact quiet

end Course

end AsyncFiles
