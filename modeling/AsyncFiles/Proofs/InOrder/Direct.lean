import AsyncFiles.Proofs.InOrder.Replay
import AsyncFiles.Proofs.Outcome.Starts
import Mathlib.Data.List.Induction

namespace AsyncFiles

open Error Host

theorem System.Labored.length {Handler : Type} {system later : System Handler}
    (labored : system.Labored later) : later.contexts.length = system.contexts.length := by
  cases labored with
  | passes _ _ contexts => rw [contexts]
  | answers _ _ _ _ contexts => rw [contexts, System.post, System.length_updateContext]
  | settles _ _ _ contexts => rw [contexts, System.workFinished, System.length_updateContext]

namespace Program

variable {first now later : Program} {service : ServiceId} {context : ContextId} {acts : List Act}
  {log : List Entry} {hand : Hand} {waiting : List (Operation Ticket)}

structure Stage (first now : Program) (service : ServiceId) (context : ContextId) (acts : List Act)
    (log : List Entry) (hand : Hand) (waiting : List (Operation Ticket)) : Prop where
  setting : first.Setting now service context
  lined : first.Lined now service context acts hand waiting
  recorded : first.Recorded now context log (hand.operations ++ waiting)
  replayed : first.Replayed service acts hand now.system.host log

namespace Stage

theorem start (ready : first.Waiting service context) :
    first.Stage first service context [] [] .free [] where
  setting := ⟨ready.single, ready.bound, fun _ => .inl rfl, fun _ _ => rfl, .refl _⟩
  lined :=
    { line := ready.idle
      captured := fun _ member => by cases member
      waits := fun _ member => by cases member
      admitted := fun _ admitted => by cases admitted
      stuck := fun _ _ stalled => by cases stalled }
  recorded := ⟨by simp [Hand.operations], [], by simp, by simp [ready.unqueued]⟩
  replayed :=
    { performed := ⟨rfl, .refl _⟩
      aborted := fun _ member => by cases member
      untouched := fun _ member => by cases member
      cutOff := fun _ member => by cases member }

theorem of_same (stage : first.Stage now service context acts log hand waiting) (act : Act)
    (services : later.system.services = now.system.services)
    (states : later.system.states = now.system.states)
    (host : later.system.host = now.system.host)
    (length : later.system.contexts.length = now.system.contexts.length)
    (recorded : first.Recorded later context log (hand.operations ++ waiting)) :
    first.Stage later service context (acts ++ [act]) log hand waiting where
  setting := stage.setting.of_same (stage.setting.single.of_services services)
    (Nat.le_of_eq length.symm) states (congrArg Host.descriptors host) (host ▸ .refl _)
  lined := stage.lined.of_still act (System.line_congr services service) states host
  recorded := recorded
  replayed := by
    rw [host]
    exact stage.replayed.of_alike (.refl _) act hand rfl

theorem submit (stage : first.Stage now service context acts log hand waiting)
    (imp : Implementation) (request : Request) (buffers : List Bytes) (act : Act) :
    ∃ waiting, first.Stage (now.submit service imp request buffers) service context
      (acts ++ [act]) log hand waiting := by
  obtain ⟨found, present, rfl, alone, referenced⟩ := stage.setting.single
  obtain ⟨single, line, host, length, queues⟩ := System.line_submit present alone referenced imp
    request buffers (some now.initiated.length)
  have states := now.system.states_submit service imp request buffers (some now.initiated.length)
  simp only [Program.submit, present]
  refine ⟨waiting ++ [now.operation found.context imp request buffers], ?_, ?_, ?_, ?_⟩
  · exact stage.setting.of_same single (Nat.le_of_eq length.symm) states
      (congrArg Host.descriptors host) (host ▸ .refl _)
  · exact stage.lined.submit stage.setting act line rfl rfl states host
  · rw [← List.append_assoc]
    exact stage.recorded.submit
      ⟨service, now.operation found.context imp request buffers⟩ rfl rfl (queues _)
  · dsimp only
    rw [host]
    exact stage.replayed.of_alike (.refl _) act hand rfl

theorem cancel (stage : first.Stage now service context acts log hand waiting)
    (imp : Implementation) (act : Act) :
    first.Stage { now with system := (now.system.cancel imp).2 } service context (acts ++ [act])
      log hand waiting where
  setting := stage.setting.cancel imp
  lined := stage.lined.cancel imp act
  recorded := stage.recorded.of_same rfl rfl
    (congrArg Context.queue
      (System.view_congr (System.calm_cancel now.system imp).contexts context))
  replayed := by
    rw [System.host_cancel]
    exact stage.replayed.of_alike (.refl _) act hand rfl

theorem close (stage : first.Stage now service context acts log hand waiting)
    (ready : first.Waiting service context) (ran : first.run acts = now) {imp : Implementation}
    (allowed : now.allows (.implementation (.call service imp .close)) = true)
    (plain : first.system.host.Plain (first.system.handleOf imp).raw) :
    first.Stage { now with system := (now.system.close imp).2 } service context
      (acts ++ [.implementation (.call service imp .close)]) log hand waiting := by
  have ends : now.system.host.SameEnds (now.system.close imp).2.host :=
    FileHandle.sameEnds_close (stage.setting.plain plain)
  exact
    { setting := stage.setting.close ready imp ends
      lined := stage.lined.close ran allowed ends
      recorded := stage.recorded.of_same rfl rfl rfl
      replayed := stage.replayed.of_alike (FileHandle.alike_close _ _) _ hand rfl }

theorem serve (stage : first.Stage now service context acts log hand waiting) (act : Act) :
    first.Stage (now.onContext (.serve context)) service context (acts ++ [act]) log hand
      waiting := by
  simp only [onContext]
  split
  next invocation rest taken =>
    refine stage.of_same act rfl rfl rfl (System.length_updateContext ..) ?_
    refine stage.recorded.serve rfl rfl (Context.queue_of_take taken) ?_
    rw [System.view_updateContext, if_pos ⟨rfl, stage.setting.bound⟩]
  next => exact stage.of_same act rfl rfl rfl rfl stage.recorded
  next => exact stage.of_same act rfl rfl rfl rfl stage.recorded

theorem leave (stage : first.Stage now service context acts log hand waiting) (act : Act) :
    first.Stage (now.onContext (.leave context)) service context (acts ++ [act]) log hand
      waiting :=
  stage.of_same act rfl rfl rfl (System.length_updateContext ..)
    (stage.recorded.of_same rfl rfl (System.queue_view_updateContext _ _ _ fun _ => rfl))

theorem finished (stage : first.Stage now service context acts log hand waiting) (act : Act)
    (entry : Entry) {system : System Ticket} (single : system.Single service context)
    (labored : now.system.Labored system) (states : system.states = now.system.states)
    (descriptors : system.host.descriptors = now.system.host.descriptors)
    (ends : now.system.host.SameEnds system.host) {others : List (Operation Ticket)}
    (next : hand.operations ++ waiting = entry.operation :: others)
    (waits : ∀ operation ∈ others, operation ∈ waiting)
    (line : system.line service = .delivered entry.operation.context :: others.map Task.issued)
    (contexts : system.contexts = (now.system.deliver entry.operation entry.completion.result
      entry.completion.buffers).contexts)
    (replayed : first.Replayed service (acts ++ [act]) (.delivered entry.operation.context)
      system.host (log ++ [entry])) :
    first.Stage { now with system } service context (acts ++ [act]) (log ++ [entry])
      (.delivered entry.operation.context) others where
  setting :=
    stage.setting.of_same single (Nat.le_of_eq labored.length.symm) states descriptors ends
  lined := by
    refine stage.lined.of_same act line (fun operation member => ?_) waits
      (fun _ admitted => by cases admitted) (fun _ _ stalled => by cases stalled) states descriptors
    rw [next]
    exact List.mem_cons_of_mem _ member
  recorded := by
    have recorded := stage.recorded
    rw [next] at recorded
    refine recorded.finished rfl rfl ?_
    have home : entry.operation.context = context :=
      (stage.lined.captured entry.operation (by rw [next]; exact List.mem_cons_self)).1
    change (system.view context).queue = _
    rw [System.view_congr contexts, System.deliver, System.post, home, System.view_updateContext,
      if_pos ⟨rfl, stage.setting.bound⟩]
    rfl
  replayed := replayed

theorem pass (stage : first.Stage now service context acts log hand waiting) (act : Act)
    {system : System Ticket} (single : system.Single service context)
    (labored : now.system.Labored system) (states : system.states = now.system.states)
    (host : system.host = now.system.host)
    (queues : ∀ other, (system.view other).queue = (now.system.view other).queue)
    {ahead : Hand} {others : List (Operation Ticket)}
    (line : system.line service = ahead.tasks ++ others.map Task.issued)
    (same : ahead.operations ++ others = hand.operations ++ waiting)
    (waits : ∀ operation ∈ others, operation ∈ waiting)
    (admitted : ∀ operation, ahead = .admitted operation → now.system.Intact operation ∨
      hand = .admitted operation)
    (stuck : ∀ operation call, ahead = .stalled operation call → hand = .stalled operation call)
    (still : begun ahead.tasks = begun hand.tasks) :
    first.Stage { now with system } service context (acts ++ [act]) log ahead others where
  setting := stage.setting.of_same single (Nat.le_of_eq labored.length.symm) states
    (congrArg Host.descriptors host) (host ▸ .refl _)
  lined := stage.lined.of_same act line (fun _ member => same ▸ member) waits admitted
    (fun operation call stalled => host ▸ stage.lined.stuck operation call
      (stuck operation call stalled)) states (congrArg Host.descriptors host)
  recorded := by
    rw [same]
    exact stage.recorded.of_same rfl rfl (queues context)
  replayed := by
    dsimp only
    rw [host]
    exact stage.replayed.of_alike (.refl _) act ahead still

theorem transfer {operation : Operation Ticket}
    (stage : first.Stage now service context acts log (.admitted operation) waiting) (act : Act)
    {attempt : Attempt} {host : Host}
    (outcome : operation.request.attempt operation.handle operation.buffers now.system.host =
      (attempt, host)) {system : System Ticket}
    (follows : system = { now.system with host }.follow service 0 operation attempt)
    (single : system.Single service context) (labored : now.system.Labored system)
    (states : system.states = now.system.states)
    (line : system.line service = attempt.task operation :: waiting.map Task.issued) :
    ∃ log hand, first.Stage { now with system } service context (acts ++ [act]) log hand
      waiting := by
  have ends := operation.request.sameEnds_attempt operation.handle operation.buffers now.system.host
  have descriptors :=
    operation.request.descriptors_attempt operation.handle operation.buffers now.system.host
  rw [outcome] at ends descriptors
  rcases operation.request.attempt_cases operation.handle operation.buffers now.system.host with
    ⟨call, _, stalls, halts⟩ | finishes
  · rw [outcome, Prod.mk.injEq] at stalls
    obtain ⟨rfl, rfl⟩ := stalls
    rcases stage.lined.admitted operation rfl with intact | ⟨_, shut⟩
    · have replayed := stage.replayed.stall stage.setting intact act call
      rw [outcome] at replayed
      subst follows
      exact ⟨log, .stalled operation call,
        { setting := stage.setting.of_same single (Nat.le_of_eq labored.length.symm) states
            descriptors ends
          lined := stage.lined.of_same act line (fun _ => id) (fun _ => id)
            (fun _ admitted => by cases admitted)
            (fun _ _ stalled => by cases stalled; exact halts.stuck) states descriptors
          recorded := stage.recorded.of_same rfl rfl rfl
          replayed }⟩
    · rw [Request.attempt_shut shut] at outcome
      cases outcome
  · rw [outcome, Prod.mk.injEq] at finishes
    obtain ⟨rfl, rfl⟩ := finishes
    obtain ⟨fate, replayed⟩ : ∃ fate, first.Replayed service (acts ++ [act])
        (.delivered operation.context) (operation.perform now.system.host).2
        (log ++ [⟨operation, (operation.perform now.system.host).1, fate⟩]) := by
      rcases stage.lined.admitted operation rfl with intact | ⟨cut, shut⟩
      · exact ⟨.performed, stage.replayed.transfer_intact stage.setting intact act _⟩
      · exact stage.replayed.transfer_shut cut shut act _
    subst follows
    exact ⟨_, _, stage.finished act ⟨operation, (operation.perform now.system.host).1, fate⟩ single
      labored states descriptors ends rfl (fun _ => id) line rfl replayed⟩

theorem work (stage : first.Stage now service context acts log hand waiting) (act : Act) :
    ∃ log hand waiting, first.Stage (now.perform (.work service 0)) service context (acts ++ [act])
      log hand waiting := by
  simp only [Program.perform]
  split
  next system stepped =>
    obtain ⟨single, moved⟩ := System.moved_of_step stage.setting.single stepped
    have labored := (System.labored_of_step stepped).1
    have states := System.states_workerStep stepped
    cases moved with
    | stays line host queues =>
      exact ⟨log, hand, waiting, stage.pass act single labored states host queues
        (line.trans stage.lined.line) rfl (fun _ => id) (fun _ => .inr) (fun _ _ => id) rfl⟩
    | aborts operation rest next dead line host contexts =>
      obtain ⟨rfl, others, rfl, rfl⟩ := stage.lined.next next
      refine ⟨_, _, others, stage.finished act
        ⟨operation, { result := .error .aborted, buffers := operation.buffers }, .aborted⟩ single
        labored states (congrArg _ host) (host ▸ .refl _) rfl (fun _ => List.mem_cons_of_mem _)
        line contexts ?_⟩
      rw [host]
      exact stage.replayed.finished (.refl _) act (.delivered operation.context) rfl (by simp)
        (by simp) rfl (by simp)
    | admits operation rest next live line host contexts =>
      obtain ⟨rfl, others, rfl, rfl⟩ := stage.lined.next next
      refine ⟨log, .admitted operation, others, stage.pass act single labored states host
        (fun other => congrArg Context.queue (System.view_congr contexts other)) line rfl
        (fun _ => List.mem_cons_of_mem _) (fun other admitted => ?_)
        (fun _ _ stalled => by cases stalled) rfl⟩
      cases admitted
      -- An operation that outlived its file is aborted, not admitted.
      rcases stage.lined.waits operation List.mem_cons_self with intact | ended
      · exact .inl intact
      · rw [ended.cancelled] at live
        cases live
    | transfers operation rest next attempt host outcome line follows =>
      obtain ⟨rfl, rfl⟩ := stage.lined.inHand next
      obtain ⟨log, hand, later⟩ :=
        stage.transfer act outcome follows single labored states line
      exact ⟨log, hand, waiting, later⟩
    | resumes operation call rest next able => exact absurd (stage.lined.stuckInHand next) able
    | settles context rest next line host queues =>
      obtain ⟨none, rfl⟩ := stage.lined.past next rfl
      exact ⟨log, .settled, waiting, stage.pass act single labored states host queues line
        (by rw [none]; rfl) (fun _ => id) (fun _ admitted => by cases admitted)
        (fun _ _ stalled => by cases stalled) (Hand.begun_of_none none).symm⟩
    | finishes rest next line host queues =>
      obtain ⟨none, rfl⟩ := stage.lined.past next rfl
      exact ⟨log, .free, waiting, stage.pass act single labored states host queues line
        (by rw [none]; rfl) (fun _ => id) (fun _ admitted => by cases admitted)
        (fun _ _ stalled => by cases stalled) (Hand.begun_of_none none).symm⟩
  next => exact ⟨log, hand, waiting, stage.of_same act rfl rfl rfl rfl stage.recorded⟩

theorem step (stage : first.Stage now service context acts log hand waiting)
    (ready : first.Waiting service context) (ran : first.run acts = now) {act : Act}
    (pipelined : act.Pipelined first service context) : ∃ log hand waiting,
      first.Stage (now.step act) service context (acts ++ [act]) log hand waiting := by
  simp only [Program.step]
  split
  next allowed =>
    cases pipelined with
    | submit imp request buffers =>
      obtain ⟨waiting, next⟩ := stage.submit imp request buffers _
      exact ⟨log, hand, waiting, next⟩
    | cancel imp => exact ⟨log, hand, waiting, stage.cancel imp _⟩
    | close imp plain => exact ⟨log, hand, waiting, stage.close ready ran allowed plain⟩
    | work => exact stage.work _
    | serve => exact ⟨log, hand, waiting, stage.serve _⟩
    | leave => exact ⟨log, hand, waiting, stage.leave _⟩
  next => exact ⟨log, hand, waiting, stage.of_same act rfl rfl rfl rfl stage.recorded⟩

theorem run (ready : first.Waiting service context) (acts : List Act)
    (pipelined : ∀ act ∈ acts, act.Pipelined first service context) : ∃ log hand waiting,
      first.Stage (first.run acts) service context acts log hand waiting := by
  induction acts using List.reverseRecOn with
  | nil => exact ⟨[], .free, [], start ready⟩
  | append_singleton acts act ih =>
    obtain ⟨log, hand, waiting, stage⟩ := ih fun act member =>
      pipelined act (List.mem_append_left _ member)
    rw [run_append]
    exact stage.step ready rfl (pipelined act (by simp))

theorem logged (stage : first.Stage (first.run acts) service context acts log hand waiting) :
    first.Logged service context acts log where
  issued := by
    have left : (first.run acts).pending service = hand.operations ++ waiting := by
      rw [pending, stage.lined.line]
      cases hand <;> simp [Hand.tasks, Hand.operations, Task.operation?, List.filterMap_map,
        List.filterMap_cons, Function.comp_def]
    rw [left]
    exact stage.recorded.issued
  called := stage.recorded.called
  performed := by
    have line : begun ((first.run acts).system.line service) = begun hand.tasks := by
      rw [stage.lined.line]
      cases hand with
      | free => cases waiting <;> rfl
      | admitted | stalled | delivered | settled => rfl
    simp only [line]
    exact stage.replayed.performed
  aborted := stage.replayed.aborted
  untouched := stage.replayed.untouched
  cutOff := stage.replayed.cutOff

end Stage

end Program

end AsyncFiles
