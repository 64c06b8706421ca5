import AsyncFiles.Proofs.Completion.Places

namespace AsyncFiles.Program

open Error Host

variable {program later : Program}

theorem Started.mono {service : ServiceId} {operation : Operation Ticket}
    (grown : ∀ start ∈ program.initiated, start ∈ later.initiated)
    (started : program.Started service operation) : later.Started service operation :=
  grown _ started

theorem Answered.mono {context : ContextId} {invocation : Invocation Ticket}
    (grown : program.initiated <+: later.initiated)
    (answered : program.Answered context invocation) : later.Answered context invocation := by
  intro ticket own
  obtain ⟨start, completion, found, rest⟩ := answered ticket own
  obtain ⟨bound, same⟩ := List.getElem?_eq_some_iff.mp found
  refine ⟨start, completion, ?_, rest⟩
  rw [List.prefix_iff_getElem?.mp grown ticket bound, same]

theorem Keeps.mono {service : ServiceId} {desk : Desk Ticket}
    (grown : ∀ start ∈ program.initiated, start ∈ later.initiated)
    (wider : program.system.queues.length ≤ later.system.queues.length)
    (keeps : program.Keeps service desk) : later.Keeps service desk where
  context := Nat.lt_of_lt_of_le keeps.context wider
  tasks task member := ⟨(keeps.tasks task member).1,
    fun operation bore => ((keeps.tasks task member).2 operation bore).mono grown⟩
  workers worker member := ⟨(keeps.workers worker member).1,
    fun operation bore => ((keeps.workers worker member).2 operation bore).mono grown⟩

namespace Accounted

theorem start_unique (accounted : program.Accounted) {service : ServiceId}
    {operation : Operation Ticket} (started : program.Started service operation) {ticket : Nat}
    (own : operation.handler = some ticket) :
    program.initiated[ticket]? = some { service, operation } := by
  obtain ⟨index, bound, same⟩ := List.mem_iff_getElem.mp started
  have found : program.initiated[index]? = some { service, operation } := by
    rw [List.getElem?_eq_getElem bound, same]
  have number := accounted.numbered index _ found
  rw [own, Option.some.injEq] at number
  rw [number]
  exact found

theorem of_step (accounted : program.Accounted) (initiated : later.initiated = program.initiated)
    (wider : program.system.queues.length ≤ later.system.queues.length)
    (moved : ∀ (ticket : Nat) (start : Initiation), program.initiated[ticket]? = some start →
      later.places start ticket = program.places start ticket)
    (kept : ∀ service desk, later.system.desks[service]? = some desk → program.Keeps service desk)
    (queues : ∀ context queue, later.system.queues[context]? = some queue →
      ∀ invocation ∈ queue, program.Answered context invocation)
    (invoked : ∀ context invocation, (context, invocation) ∈ later.invoked →
      program.Answered context invocation) : later.Accounted where
  once ticket start found := by
    rw [initiated] at found
    rw [moved ticket start found]
    exact accounted.once ticket start found
  numbered ticket start found := accounted.numbered ticket start (initiated ▸ found)
  contexts start member :=
    Nat.lt_of_lt_of_le (accounted.contexts start (initiated ▸ member)) wider
  kept service desk found := (kept service desk found).mono (by simp [initiated]) wider
  queues context queue found invocation member :=
    (queues context queue found invocation member).mono (by simp [initiated])
  invoked context invocation member :=
    (invoked context invocation member).mono (by simp [initiated])

theorem of_quiet (accounted : program.Accounted) (quiet : program.system.Quiet later.system)
    (initiated : later.initiated = program.initiated) (invoked : later.invoked = program.invoked) :
    later.Accounted := by
  apply accounted.of_step initiated (by simp [quiet.queues])
  · intro ticket start _
    simp only [places, called, System.queued_congr quiet.desks, System.held_congr quiet.desks,
      System.posted_congr quiet.queues, invoked]
  · rw [quiet.desks]
    exact accounted.kept
  · rw [quiet.queues]
    exact accounted.queues
  · rw [invoked]
    exact accounted.invoked

theorem addContext (accounted : program.Accounted)
    (desks : later.system.desks = program.system.desks)
    (queues : later.system.queues = program.system.queues ++ [[]])
    (initiated : later.initiated = program.initiated) (invoked : later.invoked = program.invoked) :
    later.Accounted := by
  apply accounted.of_step initiated (by simp [queues])
  · intro ticket start found
    have bound := accounted.contexts start (List.mem_of_getElem? found)
    have same : later.system.posted start.operation.context ticket =
        program.system.posted start.operation.context ticket := by
      simp only [System.posted, queues, List.getElem?_append_left bound]
    simp only [places, called, System.queued_congr desks, System.held_congr desks, same, invoked]
  · rw [desks]
    exact accounted.kept
  · intro context queue found invocation member
    rw [queues, List.getElem?_append] at found
    split at found
    next => exact accounted.queues context queue found invocation member
    next =>
      have empty : queue = [] := by simpa using List.mem_of_getElem? found
      simp [empty] at member
  · rw [invoked]
    exact accounted.invoked

theorem addDesk (accounted : program.Accounted) {desk : Desk Ticket}
    (context : desk.context < program.system.queues.length) (empty : desk.queue = [])
    (idle : ∀ worker ∈ desk.workers, worker = .idle)
    (desks : later.system.desks = program.system.desks ++ [desk])
    (queues : later.system.queues = program.system.queues)
    (initiated : later.initiated = program.initiated) (invoked : later.invoked = program.invoked) :
    later.Accounted := by
  have nothing (ticket : Nat) : desk.queued ticket = 0 ∧ desk.held ticket = 0 := by
    constructor
    · simp [Desk.queued, empty]
    · simp only [Desk.held, List.countP_eq_zero]
      intro worker member
      rw [idle worker member]
      simp [Worker.operation?, Worker.task?, bears]
  apply accounted.of_step initiated (by simp [queues])
  · intro ticket start found
    have same : later.system.queued start.service ticket + later.system.held start.service ticket =
        program.system.queued start.service ticket +
          program.system.held start.service ticket := by
      simp only [System.queued, System.held, desks, List.getElem?_append]
      split
      next => rfl
      next outside =>
        have missing : program.system.desks[start.service]? = none :=
          List.getElem?_eq_none (by omega)
        rw [missing]
        cases beyond : [desk][start.service - program.system.desks.length]? with
        | none => rfl
        | some other =>
          have own : other = desk := by simpa using List.mem_of_getElem? beyond
          simp [own, nothing ticket]
    simp only [places, called, System.posted_congr queues, invoked]
    omega
  · intro service other found
    rw [desks, List.getElem?_append] at found
    split at found
    next => exact accounted.kept service other found
    next =>
      have own : other = desk := by simpa using List.mem_of_getElem? found
      rw [own]
      refine ⟨context, by simp [empty], fun worker member => ?_⟩
      rw [idle worker member]
      exact ⟨fun _ free => (by cases free), fun _ free => (by cases free)⟩
  · rw [queues]
    exact accounted.queues
  · rw [invoked]
    exact accounted.invoked

theorem post (accounted : program.Accounted) {context : ContextId}
    {invocation : Invocation Ticket} (nobody : invocation.handler = none)
    (desks : later.system.desks = program.system.desks)
    (queues : later.system.queues =
      program.system.queues.modify context fun queue => queue ++ [invocation])
    (initiated : later.initiated = program.initiated) (invoked : later.invoked = program.invoked) :
    later.Accounted := by
  have answered : program.Answered context invocation := by
    intro ticket own
    rw [nobody] at own
    cases own
  refine accounted.of_step initiated (by simp [queues]) ?_ ?_
    (System.forall_queues_post queues accounted.queues answered) ?_
  · intro ticket start _
    have same : later.system.posted start.operation.context ticket =
        program.system.posted start.operation.context ticket := by
      by_cases bound : context < program.system.queues.length
      · simp [System.posted_post bound queues, nobody]
      · refine System.posted_congr ?_ _ _
        rw [queues, List.modify_eq_self (Nat.le_of_not_lt bound)]
    simp only [places, called, System.queued_congr desks, System.held_congr desks, same, invoked]
  · rw [desks]
    exact accounted.kept
  · rw [invoked]
    exact accounted.invoked

theorem serve (accounted : program.Accounted) {context : ContextId}
    {invocation : Invocation Ticket} {rest : List (Invocation Ticket)}
    (present : program.system.queues[context]? = some (invocation :: rest))
    (desks : later.system.desks = program.system.desks)
    (queues : later.system.queues = program.system.queues.set context rest)
    (initiated : later.initiated = program.initiated)
    (invoked : later.invoked = program.invoked ++ [(context, invocation)]) :
    later.Accounted := by
  obtain ⟨bound, same⟩ := List.getElem?_eq_some_iff.mp present
  apply accounted.of_step initiated (by simp [queues])
  · intro ticket start _
    have moved : later.system.posted start.operation.context ticket +
        later.called start.operation.context ticket =
        program.system.posted start.operation.context ticket +
          program.called start.operation.context ticket := by
      simp only [System.posted, called, queues, invoked, List.getElem?_set, List.countP_append]
      by_cases here : context = start.operation.context
      · rw [← here, present]
        by_cases own : invocation.handler = some ticket
        · simp [bound, own]
          omega
        · simp [bound, own]
      · simp [here]
    simp only [places, System.queued_congr desks, System.held_congr desks]
    omega
  · rw [desks]
    exact accounted.kept
  · intro other queue found called member
    rw [queues, List.getElem?_set] at found
    split at found
    next here =>
      subst here
      simp only [Option.some.injEq] at found
      rw [← found] at member
      exact accounted.queues context _ present called (List.mem_cons_of_mem _ member)
    next => exact accounted.queues other queue found called member
  · intro other called member
    rw [invoked, List.mem_append, List.mem_singleton] at member
    rcases member with earlier | last
    · exact accounted.invoked other called earlier
    · cases last
      exact accounted.queues context _ present invocation List.mem_cons_self

theorem takes (accounted : program.Accounted) {service : ServiceId} {desk : Desk Ticket}
    {worker : Nat} {task : Task Ticket} {rest : List (Task Ticket)}
    (found : program.system.desks[service]? = some desk)
    (idle : desk.workers[worker]? = some .idle) (queued : desk.queue = task :: rest)
    (desks : later.system.desks = program.system.desks.set service
      ({ desk with queue := rest }.setWorker worker (.busy task)))
    (queues : later.system.queues = program.system.queues)
    (initiated : later.initiated = program.initiated) (invoked : later.invoked = program.invoked) :
    later.Accounted := by
  have keeps := accounted.kept service desk found
  apply accounted.of_step initiated (by simp [queues])
  · intro ticket start _
    have left : ({ desk with queue := rest }.setWorker worker (.busy task)).queued ticket +
        (if bears ticket task.operation? then 1 else 0) = desk.queued ticket + 0 := by
      simp [Desk.queued, Desk.setWorker, queued, List.countP_cons]
    have come : ({ desk with queue := rest }.setWorker worker (.busy task)).held ticket + 0 =
        desk.held ticket + (if bears ticket task.operation? then 1 else 0) :=
      Desk.held_setWorker idle (.busy task) ticket
    have first := System.queued_set found desks left start.service
    have second := System.held_set found desks come start.service
    simp only [places, called, System.posted_congr queues, invoked]
    split_ifs at first second <;> omega
  · refine System.forall_desks_set found desks accounted.kept ⟨keeps.context, ?_, ?_⟩
    · intro other member
      exact keeps.tasks other (by rw [queued]; exact List.mem_cons_of_mem _ member)
    · intro other member
      rcases List.mem_or_eq_of_mem_set member with earlier | rfl
      · exact keeps.workers other earlier
      · have own := keeps.tasks task (by rw [queued]; exact List.mem_cons_self)
        refine ⟨fun same held => ?_, own.2⟩
        cases held
        exact own.1
  · rw [queues]
    exact accounted.queues
  · rw [invoked]
    exact accounted.invoked

theorem answers (accounted : program.Accounted) {service : ServiceId} {desk : Desk Ticket}
    {worker : Nat} {state : Worker (Task Ticket)} {operation : Operation Ticket}
    {completion : Completion} (found : program.system.desks[service]? = some desk)
    (held : desk.workers[worker]? = some state) (bore : state.operation? = some operation)
    (handed : operation.HandsBack completion)
    (desks : later.system.desks = program.system.desks.set service
      (desk.setWorker worker (.busy (.delivered operation.context))))
    (queues : later.system.queues = program.system.queues.modify operation.context fun queue =>
      queue ++ [{ handler := operation.handler, completion := some completion }])
    (initiated : later.initiated = program.initiated) (invoked : later.invoked = program.invoked) :
    later.Accounted := by
  have keeps := accounted.kept service desk found
  have started := (keeps.workers state (List.mem_of_getElem? held)).2 operation bore
  have bound := accounted.contexts _ started
  apply accounted.of_step initiated (by simp [queues])
  · intro ticket start present
    have went := Desk.held_setWorker held (.busy (.delivered operation.context)) ticket
    have first := System.held_set found desks went start.service
    have second := System.posted_post bound queues start.operation.context ticket
    have delivered : bears ticket (Worker.operation? (.busy (.delivered operation.context))) =
        false := rfl
    simp only [places, called, invoked, System.queued_setWorker found desks]
    by_cases own : operation.handler = some ticket
    · have unique := accounted.start_unique started own
      rw [present, Option.some.injEq] at unique
      subst unique
      have bearing : bears ticket state.operation? = true := by simp [bore, bears, own]
      simp only [bearing, own, delivered, and_self, if_true, Bool.false_eq_true, if_false]
        at first second ⊢
      omega
    · have idle : bears ticket state.operation? = false := by simp [bore, bears, own]
      simp only [idle, own, delivered, and_false, Bool.false_eq_true, if_false, ite_self]
        at first second
      omega
  · refine System.forall_desks_set found desks accounted.kept ⟨keeps.context, keeps.tasks, ?_⟩
    intro other member
    rcases List.mem_or_eq_of_mem_set member with earlier | rfl
    · exact keeps.workers other earlier
    · constructor
      · intro same held
        cases held
        trivial
      · intro other bears
        cases bears
  · apply System.forall_queues_post queues accounted.queues
    intro ticket own
    exact ⟨_, completion, accounted.start_unique started own, rfl, rfl, handed⟩
  · rw [invoked]
    exact accounted.invoked

theorem keeps (accounted : program.Accounted) {service : ServiceId} {desk : Desk Ticket}
    {worker : Nat} {before after : Worker (Task Ticket)}
    (found : program.system.desks[service]? = some desk)
    (held : desk.workers[worker]? = some before) (same : after.operation? = before.operation?)
    (sound : after.Sound)
    (desks : later.system.desks = program.system.desks.set service (desk.setWorker worker after))
    (queues : later.system.queues = program.system.queues)
    (initiated : later.initiated = program.initiated) (invoked : later.invoked = program.invoked) :
    later.Accounted := by
  have keeps := accounted.kept service desk found
  apply accounted.of_step initiated (by simp [queues])
  · intro ticket start _
    have stays := Desk.held_setWorker held after ticket
    rw [same] at stays
    have first := System.held_set found desks stays start.service
    simp only [places, called, System.posted_congr queues, System.queued_setWorker found desks,
      invoked]
    omega
  · refine System.forall_desks_set found desks accounted.kept ⟨keeps.context, keeps.tasks, ?_⟩
    intro other member
    rcases List.mem_or_eq_of_mem_set member with earlier | rfl
    · exact keeps.workers other earlier
    · refine ⟨sound, fun operation bears => ?_⟩
      rw [same] at bears
      exact (keeps.workers before (List.mem_of_getElem? held)).2 operation bears
  · rw [queues]
    exact accounted.queues
  · rw [invoked]
    exact accounted.invoked

theorem worked (accounted : program.Accounted) {service : ServiceId} {worker : Nat}
    (step : program.system.Worked service worker later.system)
    (initiated : later.initiated = program.initiated) (invoked : later.invoked = program.invoked) :
    later.Accounted := by
  cases step with
  | takes desk task rest found idle queued desks queues =>
    exact accounted.takes found idle queued desks queues initiated invoked
  | answers desk state operation completion found held bears handed desks queues =>
    exact accounted.answers found held bears handed desks queues initiated invoked
  | keeps desk before after found held same sound desks queues =>
    exact accounted.keeps found held same sound desks queues initiated invoked

theorem ticket_used (accounted : program.Accounted) {service : ServiceId}
    {operation : Option (Operation Ticket)}
    (started : ∀ found, operation = some found → program.Started service found) {ticket : Nat}
    (bearing : bears ticket operation = true) : ticket < program.initiated.length := by
  obtain ⟨found, same, own⟩ := bears_eq_true.mp bearing
  exact (List.getElem?_eq_some_iff.mp (accounted.start_unique (started found same) own)).1

theorem answer_used {context : ContextId} {invocation : Invocation Ticket}
    (answered : program.Answered context invocation) {ticket : Nat}
    (own : invocation.handler = some ticket) : ticket < program.initiated.length := by
  obtain ⟨start, completion, found, _⟩ := answered ticket own
  exact (List.getElem?_eq_some_iff.mp found).1

theorem nowhere (accounted : program.Accounted) {start : Initiation} {ticket : Nat}
    (unused : program.initiated.length ≤ ticket) : program.places start ticket = 0 := by
  have queued : program.system.queued start.service ticket = 0 := by
    simp only [System.queued]
    cases found : program.system.desks[start.service]? with
    | none => rfl
    | some desk =>
      apply List.countP_eq_zero.mpr
      intro task member bearing
      have keeps := (accounted.kept _ desk found).tasks task member
      have used := accounted.ticket_used keeps.2 bearing
      omega
  have held : program.system.held start.service ticket = 0 := by
    simp only [System.held]
    cases found : program.system.desks[start.service]? with
    | none => rfl
    | some desk =>
      apply List.countP_eq_zero.mpr
      intro worker member bearing
      have keeps := (accounted.kept _ desk found).workers worker member
      have used := accounted.ticket_used keeps.2 bearing
      omega
  have posted : program.system.posted start.operation.context ticket = 0 := by
    simp only [System.posted]
    cases found : program.system.queues[start.operation.context]? with
    | none => rfl
    | some queue =>
      apply List.countP_eq_zero.mpr
      intro invocation member own
      have used := answer_used (accounted.queues _ queue found invocation member)
        (by simpa using own)
      omega
  have called : program.called start.operation.context ticket = 0 := by
    apply List.countP_eq_zero.mpr
    intro entry member own
    simp only [Bool.and_eq_true, decide_eq_true_eq] at own
    have used := answer_used (accounted.invoked entry.1 entry.2 member) own.2
    omega
  simp only [places, queued, held, posted, called]

theorem of_submit (accounted : program.Accounted) {service : ServiceId}
    {operation : Operation Ticket}
    (numbered : operation.handler = some program.initiated.length)
    (context : operation.context < program.system.queues.length)
    (initiated : later.initiated = program.initiated ++ [⟨service, operation⟩])
    (wide : later.system.queues.length = program.system.queues.length)
    (others : ∀ (ticket : Nat) (start : Initiation), operation.handler ≠ some ticket →
      later.places start ticket = program.places start ticket)
    (own : later.places ⟨service, operation⟩ program.initiated.length =
      program.places ⟨service, operation⟩ program.initiated.length + 1)
    (kept : ∀ service desk, later.system.desks[service]? = some desk → later.Keeps service desk)
    (queues : ∀ context queue, later.system.queues[context]? = some queue →
      ∀ invocation ∈ queue, later.Answered context invocation)
    (invoked : later.invoked = program.invoked) : later.Accounted where
  once ticket start found := by
    rw [initiated, List.getElem?_append] at found
    split at found
    next bound =>
      -- A number that was given out before: its operation stays where it is.
      have other : operation.handler ≠ some ticket := by
        rw [numbered]
        intro same
        cases same
        omega
      rw [others ticket start other]
      exact accounted.once ticket start found
    next unused =>
      have last : ticket = program.initiated.length := by
        have bound := (List.getElem?_eq_some_iff.mp found).1
        simp only [List.length_singleton] at bound
        omega
      have same : start = ⟨service, operation⟩ := by simpa using List.mem_of_getElem? found
      rw [same, last, own, accounted.nowhere (Nat.le_refl program.initiated.length)]
  numbered ticket start found := by
    rw [initiated, List.getElem?_append] at found
    split at found
    next => exact accounted.numbered ticket start found
    next unused =>
      have last : ticket = program.initiated.length := by
        have bound := (List.getElem?_eq_some_iff.mp found).1
        simp only [List.length_singleton] at bound
        omega
      have same : start = ⟨service, operation⟩ := by simpa using List.mem_of_getElem? found
      rw [same, last]
      exact numbered
  contexts start member := by
    rw [wide]
    rw [initiated, List.mem_append, List.mem_singleton] at member
    rcases member with earlier | rfl
    · exact accounted.contexts start earlier
    · exact context
  kept := kept
  queues := queues
  invoked context invocation member := by
    rw [invoked] at member
    exact (accounted.invoked context invocation member).mono (by simp [initiated])

/-- A submission puts its operation into one place, also when the pool refuses it. -/
theorem submitted (accounted : program.Accounted) {service : ServiceId} {desk : Desk Ticket}
    {operation : Operation Ticket} (found : program.system.desks[service]? = some desk)
    (own : operation.context = desk.context)
    (numbered : operation.handler = some program.initiated.length)
    (place : program.system.Submitted service desk operation later.system)
    (initiated : later.initiated = program.initiated ++ [⟨service, operation⟩])
    (invoked : later.invoked = program.invoked) : later.Accounted := by
  have keeps := accounted.kept service desk found
  have bound : operation.context < program.system.queues.length := own ▸ keeps.context
  have grown : program.initiated <+: later.initiated := by simp [initiated]
  have started : later.Started service operation := by simp [Started, initiated]
  have older : ∀ other desk, program.system.desks[other]? = some desk → later.system.queues.length =
      program.system.queues.length → later.Keeps other desk := fun other desk present wide =>
    (accounted.kept other desk present).mono (fun _ member => grown.mem member) (by omega)
  -- In each case one of the four counts grows by one for the new number, and none for another.
  cases place with
  | queued desks queues =>
    have wide : later.system.queues.length = program.system.queues.length := by rw [queues]
    have still := older service desk found wide
    have queued (ticket : Nat) (other : ServiceId) :=
      System.queued_set found desks (desk.queued_append (.issued operation) ticket) other
    refine accounted.of_submit numbered bound initiated wide ?_ ?_ ?_ ?_ invoked
    · intro ticket start other
      have same := queued ticket start.service
      simp only [bears_issued, other, decide_false, Bool.false_eq_true, if_false, ite_self] at same
      simp only [places, called, System.held_setQueue found desks, System.posted_congr queues,
        invoked]
      omega
    · have more := queued program.initiated.length service
      simp only [bears_issued, numbered, decide_true, if_true, ite_self] at more
      simp only [places, called, System.held_setQueue found desks, System.posted_congr queues,
        invoked]
      omega
    · refine System.forall_desks_set found desks
        (fun other desk present => older other desk present wide)
        ⟨still.context, ?_, still.workers⟩
      intro task member
      rcases List.mem_append.mp member with earlier | last
      · exact still.tasks task earlier
      · cases List.mem_singleton.mp last
        exact ⟨trivial, fun _ same => by cases same; exact started⟩
    · rw [queues]
      intro context queue present invocation member
      exact (accounted.queues context queue present invocation member).mono grown
  | handed worker idle desks queues =>
    have wide : later.system.queues.length = program.system.queues.length := by rw [queues]
    have still := older service desk found wide
    have held (ticket : Nat) (other : ServiceId) :=
      System.held_set found desks (Desk.held_setWorker idle (.busy (.issued operation)) ticket)
        other
    have waits (ticket : Nat) : bears ticket (Worker.operation? (.idle : Worker (Task Ticket))) =
        false := rfl
    have takes (ticket : Nat) : bears ticket (Worker.operation? (.busy (.issued operation))) =
        decide (operation.handler = some ticket) := rfl
    refine accounted.of_submit numbered bound initiated wide ?_ ?_ ?_ ?_ invoked
    · intro ticket start other
      have same := held ticket start.service
      simp only [waits, takes, other, decide_false, Bool.false_eq_true, if_false, ite_self] at same
      simp only [places, called, System.queued_setWorker found desks, System.posted_congr queues,
        invoked]
      omega
    · have more := held program.initiated.length service
      simp only [waits, takes, numbered, decide_true, Bool.false_eq_true, if_false, if_true] at more
      simp only [places, called, System.queued_setWorker found desks, System.posted_congr queues,
        invoked]
      omega
    · refine System.forall_desks_set found desks
        (fun other desk present => older other desk present wide) ⟨still.context, still.tasks, ?_⟩
      intro other member
      rcases List.mem_or_eq_of_mem_set member with earlier | rfl
      · exact still.workers other earlier
      · constructor
        · intro task same
          cases same
          trivial
        · intro _ same
          cases same
          exact started
    · rw [queues]
      intro context queue present invocation member
      exact (accounted.queues context queue present invocation member).mono grown
  | refused desks queues =>
    have wide : later.system.queues.length = program.system.queues.length := by simp [queues]
    have posted := System.posted_post bound queues
    refine accounted.of_submit numbered bound initiated wide ?_ ?_ ?_ ?_ invoked
    · intro ticket start other
      have same := posted start.operation.context ticket
      simp only [other, and_false, if_false] at same
      simp only [places, called, System.queued_congr desks, System.held_congr desks, same, invoked]
      omega
    · have more := posted operation.context program.initiated.length
      simp only [numbered, and_self, if_true] at more
      simp only [places, called, System.queued_congr desks, System.held_congr desks, more, invoked]
      omega
    · rw [desks]
      exact fun other desk present => older other desk present wide
    · refine System.forall_queues_post queues (fun context queue present invocation member =>
        (accounted.queues context queue present invocation member).mono grown) ?_
      intro ticket same
      have last : program.initiated.length = ticket := by
        rw [numbered, Option.some.injEq] at same
        exact same
      refine ⟨⟨service, operation⟩, _, ?_, rfl, rfl, .inl rfl⟩
      rw [initiated, ← last]
      exact List.getElem?_concat_length

end Accounted

end AsyncFiles.Program
