import AsyncFiles.Proofs.Threads.Tally

namespace AsyncFiles.Script

theorem isStopped_of_take {system : System Handler} {context : ContextId}
    {invocation : Invocation Handler} {left : Context (Invocation Handler)}
    (turn : ((system.context? context).getD {}).turn = .take invocation left) :
    system.isStopped context = false := by
  rw [System.isStopped]
  by_contra stopped
  have ended : ((system.context? context).getD {}).stopped = true := by simpa using stopped
  simp [Context.turn, ended] at turn

structure Takes (machine : Machine) (event : Event) (context : ContextId)
    (invocation : Invocation Handler) (thread next : Thread) : Prop where
  runs : machine.session.system.isStopped context = false
  first : machine.queueOf context = invocation :: (machine.react event).queueOf context
  only : machine.happenings event = [.taken context invocation]
  /-- The handler is called on the thread that takes it. -/
  called : next.frames =
    .body invocation.handler.name invocation.handler.body :: .serving context :: thread.frames
  inside : next.running = context :: thread.running

/-- What there is to say of an event with which a run returns: it hands over its count. -/
structure Returns (machine : Machine) (event : Event) (context : ContextId) (count : Nat)
    (drive : Drive) (rest : List Frame) (thread next : Thread) : Prop where
  runs : thread.frames = .driving context drive count :: rest
  only : machine.happenings event = [.returned context count]
  gives : ((machine.react event).session, next) =
    ({ thread with frames := rest } : Thread).deliver (.number count) machine.session

namespace Machine

variable {machine : Machine}

theorem takes_of_moved {event : Event} {index : Nat} {thread : Thread} {context : ContextId}
    {invocation : Invocation Handler} (found : machine.threads[index]? = some thread)
    (moved : Moved machine index thread (machine.react event) (machine.happenings event))
    (taken : .taken context invocation ∈ machine.happenings event) :
    ∃ next, (machine.react event).threads[index]? = some next ∧
      Takes machine event context invocation thread next := by
  have law := (machine.reaction event).queue context
  generalize same : machine.happenings event = happenings at moved taken law
  cases moved with
  | @moves next started progress threads runs =>
    have present : (machine.react event).threads[index]? = some next := by
      rw [threads]
      exact getElem?_set_append found next
    cases progress with
    | takes before first turn after running system =>
      cases List.mem_singleton.mp taken
      have stopped := isStopped_of_take turn
      have one : takenFrom context [.taken context invocation] = [invocation] := by
        simp [takenFrom, Happening.takenFrom?]
      have none : queuedIn context [.taken context invocation] = [] := rfl
      rw [one, none, List.append_nil] at law
      exact ⟨next, present, stopped, law.symm, same, after, running⟩
    | plain | unwinds => simp at taken
    | returns | serves => simp at taken

theorem takes_of_taken {event : Event} {context : ContextId} {invocation : Invocation Handler}
    (taken : .taken context invocation ∈ machine.happenings event) :
    ∃ (index : Nat) (thread next : Thread), machine.threads[index]? = some thread ∧
      (machine.react event).threads[index]? = some next ∧
        Takes machine event context invocation thread next := by
  have reaction := machine.reaction event
  generalize same : machine.happenings event = happenings at reaction
  cases reaction with
  | @moved index thread _ found moved =>
    rw [← same] at moved
    exact ⟨index, thread, (takes_of_moved found moved taken).imp fun next takes => ⟨found, takes⟩⟩
  | came progress threads runs =>
    rw [same] at taken
    cases progress with
    | takes before => cases before
    | plain | unwinds => simp at taken
    | returns | serves => simp at taken
  | worked => simp [same] at taken

theorem returns_of_returned {event : Event} {context : ContextId} {count : Nat}
    (returned : .returned context count ∈ machine.happenings event) :
    ∃ (index : Nat) (drive : Drive) (rest : List Frame) (thread next : Thread),
      machine.threads[index]? = some thread ∧ (machine.react event).threads[index]? = some next ∧
        Returns machine event context count drive rest thread next := by
  generalize same : machine.happenings event = happenings at returned
  have reaction := machine.reaction event
  rw [same] at reaction
  cases reaction with
  | @moved index thread _ found moved =>
    cases moved with
    | @moves next started progress threads runs =>
      have present : (machine.react event).threads[index]? = some next := by
        rw [threads]
        exact getElem?_set_append found next
      cases progress with
      | @returns _ _ _ drive _ rest before why gives =>
        cases List.mem_singleton.mp returned
        exact ⟨index, drive, rest, thread, next, found, present, before, same, gives⟩
      | plain | unwinds => simp at returned
      | takes | serves => simp at returned
  | came progress threads runs =>
    cases progress with
    | returns before => cases before
    | plain | unwinds => simp at returned
    | takes | serves => simp at returned
  | worked => simp at returned

/-- An event with which a command starts on a thread: its body comes to it, or it is asked for. -/
inductive Performs (machine : Machine) (command : Command) (thread : Thread) : Event → Prop
  | asked (fresh : thread = {}) : Performs machine command thread (.ask command)
  | body {index : Nat} {name : Name} {commands : List Command} {rest : List Frame}
      (found : machine.threads[index]? = some thread) (active : thread.result = none)
      (before : thread.frames = .body name (command :: commands) :: rest) :
      Performs machine command thread (.step index)

theorem happenings_of_performs {command : Command} {thread : Thread} {event : Event}
    (performs : machine.Performs command thread event) :
    machine.happenings event = machine.session.happenings thread command := by
  cases performs with
  | asked fresh => rw [happenings, fresh]
  | body found active before =>
    simp only [happenings, found, step_body found active before, stepHappenings, before]

theorem queueOf_of_act {action : Action} {thread : Thread} {event : Event}
    (performs : machine.Performs (.act action) thread event) (context : ContextId) :
    (machine.react event).queueOf context = machine.queueOf context := by
  have law := (machine.reaction event).queue context
  rw [happenings_of_performs performs, Session.happenings, Session.arrivals, List.map_nil,
    List.nil_append] at law
  split at law
  · simpa using law
  · simpa [takenFrom, queuedIn] using law

theorem happenings_dispatch_outside {context name : Name} {body : List Command} {id : ContextId}
    {thread : Thread} {event : Event} (nested : thread.Nested)
    (performs : machine.Performs (.dispatch context name body) thread event)
    (known : machine.session.contexts.get? context = some id)
    (exist : (machine.session.system.context? id).isSome)
    (outside : .serving id ∉ thread.frames) :
    machine.happenings event = [.queued (id, { handler := { name, body } })] := by
  have running : id ∉ thread.running := mt nested.mem_running_iff.mp outside
  rw [happenings_of_performs performs]
  simp [Session.happenings, Session.arrivals, Session.panics, known, running,
    System.postArrivals, exist]

theorem react_dispatch_inside {index : Nat} {thread : Thread} {caller context name : Name}
    {body commands : List Command} {rest : List Frame} {id : ContextId}
    (nested : thread.Nested) (found : machine.threads[index]? = some thread)
    (active : thread.result = none)
    (before : thread.frames = .body caller (.dispatch context name body :: commands) :: rest)
    (known : machine.session.contexts.get? context = some id)
    (inside : .serving id ∈ thread.frames) :
    machine.happenings (.step index) = [] ∧
      ∃ next, (machine.react (.step index)).threads[index]? = some next ∧
        next.frames = .body name body :: .body caller commands :: rest := by
  have running : id ∈ thread.running := nested.mem_running_iff.mpr inside
  have bound : index < machine.threads.length := (List.getElem?_eq_some_iff.mp found).1
  constructor
  · rw [happenings_of_performs (.body found active before)]
    simp [Session.happenings, Session.arrivals, Session.panics, known, running]
  · rw [react, step_body found active before]
    refine ⟨_, List.getElem?_set_self bound, ?_⟩
    simp [Thread.start, known, running, Thread.call, Thread.push]

end Machine

/-- What holds of the queues after any events on threads that begin with a session. -/
structure QueueLaw (session : Session) (machine : Machine) (history : List Happening) : Prop where
  /-- The handlers queued at first and since are those taken, followed by those queued now. -/
  conserved : ∀ context, session.system.queueOf context ++ queuedIn context history =
    takenFrom context history ++ machine.queueOf context
  taken : ∀ event context invocation, .taken context invocation ∈ machine.happenings event →
    ∃ (index : Nat) (thread next : Thread), machine.threads[index]? = some thread ∧
      (machine.react event).threads[index]? = some next ∧
        Takes machine event context invocation thread next
  returned : ∀ event context count, .returned context count ∈ machine.happenings event →
    ∃ (index : Nat) (drive : Drive) (rest : List Frame) (thread next : Thread),
      machine.threads[index]? = some thread ∧ (machine.react event).threads[index]? = some next ∧
        Returns machine event context count drive rest thread next
  act : ∀ event thread action, machine.Performs (.act action) thread event →
    ∀ context, (machine.react event).queueOf context = machine.queueOf context
  /-- Outside the context a dispatched handler is queued. -/
  outside : ∀ event (thread : Thread) context name body id,
    machine.Performs (.dispatch context name body) thread event →
      machine.session.contexts.get? context = some id →
        (machine.session.system.context? id).isSome → .serving id ∉ thread.frames →
          machine.happenings event = [.queued (id, { handler := { name, body } })]
  /-- Inside it runs at once, and its caller does not go on before it has ended. -/
  inside : ∀ index (thread : Thread) caller context name body commands rest id,
    machine.threads[index]? = some thread → thread.result = none →
      thread.frames = .body caller (.dispatch context name body :: commands) :: rest →
        machine.session.contexts.get? context = some id → .serving id ∈ thread.frames →
          machine.happenings (.step index) = [] ∧
            (∃ next, (machine.react (.step index)).threads[index]? = some next ∧
              next.frames = .body name body :: .body caller commands :: rest) ∧
            (machine.react (.step index)).Awaited index (.body caller commands :: rest)
              thread.running
  counted : ∀ context, returnedSum context history + lostSum context history +
    machine.inProgress context = (takenFrom context history).length
  countedInPeace : (∀ frame, .unwound frame ∉ history) → ∀ context,
    returnedSum context history + machine.inProgress context = (takenFrom context history).length

namespace Machine

theorem queues_lawful (session : Session) (events : List Event) :
    QueueLaw session ((ofSession session).after events) ((ofSession session).history events) where
  conserved context := ((ofSession session).history_queue events context).symm
  taken _ _ _ taken := takes_of_taken taken
  returned _ _ _ returned := returns_of_returned returned
  act _ _ _ performs context := queueOf_of_act performs context
  outside event thread context name body id performs known exist free := by
    have nested := (nested_ofSession session).after events
    have inside : thread.Nested := by
      cases performs with
      | asked fresh => exact fresh ▸ Thread.nested_fresh
      | body found => exact nested thread (List.mem_of_getElem? found)
    exact happenings_dispatch_outside inside performs known exist free
  inside index thread caller context name body commands rest id found active before known
      serves := by
    have nested := (nested_ofSession session).after events
    have inside := nested thread (List.mem_of_getElem? found)
    obtain ⟨nothing, next, present, frames⟩ :=
      react_dispatch_inside inside found active before known serves
    have above : Above next.frames (.body caller commands :: rest) := frames ▸ above_cons _ _
    have running : thread.running = served (.body caller commands :: rest) := by
      rw [inside.running, before]
      rfl
    rw [running]
    exact ⟨nothing, ⟨next, present, frames⟩,
      awaited_of_calling (nested.react (.step index)) trivial ⟨next, present, above⟩⟩
  counted context := by
    have claims := history_claims (nested_ofSession session) events context
    have none : (ofSession session).inProgress context = 0 := rfl
    omega
  countedInPeace peaceful context := by
    have claims := history_claims (nested_ofSession session) events context
    have none : (ofSession session).inProgress context = 0 := rfl
    have lost := lostSum_eq_zero peaceful context
    omega

end Machine

end AsyncFiles.Script
