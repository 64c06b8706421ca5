import AsyncFiles.Proofs.Completion.Steps
import AsyncFiles.Script.Machine

namespace AsyncFiles

open Access Error Host

abbrev Arrival (Handler : Type) := ContextId × Invocation Handler

namespace System

variable {Handler : Type}

def queueOf (system : System Handler) (context : ContextId) : List (Invocation Handler) :=
  ((system.context? context).getD {}).queue

def isStopped (system : System Handler) (context : ContextId) : Bool :=
  ((system.context? context).getD {}).stopped

theorem queueOf_eq (system : System Handler) (context : ContextId) :
    system.queueOf context = (system.queues[context]?).getD [] := by
  rw [queueOf, queues, List.getElem?_map, context?]
  cases system.contexts[context]? <;> rfl

def SameQueues (system later : System Handler) : Prop :=
  ∀ context, later.queueOf context = system.queueOf context

theorem SameQueues.refl (system : System Handler) : system.SameQueues system := fun _ => rfl

theorem SameQueues.trans {system middle later : System Handler}
    (first : system.SameQueues middle) (second : middle.SameQueues later) :
    system.SameQueues later :=
  fun context => (second context).trans (first context)

theorem Quiet.sameQueues {system later : System Handler} (quiet : system.Quiet later) :
    system.SameQueues later := by
  intro context
  rw [queueOf_eq, queueOf_eq, quiet.queues]

theorem Calm.sameQueues {system later : System Handler} (calm : system.Calm later) :
    system.SameQueues later :=
  calm.quiet.sameQueues

theorem sameQueues_newContext (system : System Handler) :
    system.SameQueues system.newContext.2 := by
  intro context
  have added : system.newContext.2.queues = system.queues ++ [[]] := List.map_append
  rw [queueOf_eq, queueOf_eq, added, List.getElem?_append]
  split
  next => rfl
  next beyond =>
    rw [List.getElem?_eq_none (Nat.le_of_not_lt beyond)]
    cases context - system.queues.length <;> rfl

theorem sameQueues_startService {system later : System Handler} {context : ContextId}
    {config : PoolConfig} {service : ServiceId}
    (started : system.startService context config = .ok (service, later)) :
    system.SameQueues later := by
  obtain ⟨_, _, rfl⟩ := started_service started
  exact .refl system

def arrivedAt (context : ContextId) (arrivals : List (Arrival Handler)) :
    List (Invocation Handler) :=
  arrivals.filterMap fun arrival => if arrival.1 = context then some arrival.2 else none

@[simp] theorem arrivedAt_nil (context : ContextId) :
    arrivedAt context ([] : List (Arrival Handler)) = [] := rfl

theorem arrivedAt_append (context : ContextId) (first rest : List (Arrival Handler)) :
    arrivedAt context (first ++ rest) = arrivedAt context first ++ arrivedAt context rest :=
  List.filterMap_append

/-- The queues have got these arrivals, each at its end, and nothing else has become of them. -/
def Grown (system : System Handler) (arrivals : List (Arrival Handler))
    (later : System Handler) : Prop :=
  ∀ context, later.queueOf context = system.queueOf context ++ arrivedAt context arrivals

theorem SameQueues.grown {system later : System Handler} (same : system.SameQueues later) :
    system.Grown [] later := by
  intro context
  rw [same context, arrivedAt_nil, List.append_nil]

theorem Grown.trans {system middle later : System Handler} {first rest : List (Arrival Handler)}
    (before : system.Grown first middle) (after : middle.Grown rest later) :
    system.Grown (first ++ rest) later := by
  intro context
  rw [after context, before context, arrivedAt_append, List.append_assoc]

theorem isSome_context (system : System Handler) (context : ContextId) :
    (system.context? context).isSome = (system.queues[context]?).isSome := by
  have lookup : system.queues[context]? = (system.context? context).map Context.queue :=
    List.getElem?_map
  rw [lookup, Option.isSome_map]

/-- What a post brings to a context. One that does not exist has no queue. -/
def postArrivals (system : System Handler) (context : ContextId) (invocation : Invocation Handler) :
    List (Arrival Handler) :=
  if (system.context? context).isSome then [(context, invocation)] else []

theorem grown_post (system : System Handler) (context : ContextId)
    (invocation : Invocation Handler) :
    system.Grown (system.postArrivals context invocation) (system.post context invocation) := by
  intro other
  rw [queueOf_eq, queueOf_eq, queues_post, List.getElem?_modify, postArrivals, isSome_context,
    arrivedAt]
  by_cases here : context = other
  · subst here
    cases system.queues[context]? <;> simp
  · cases system.queues[other]? <;> cases system.queues[context]? <;> simp [here]

theorem postArrivals_updateContext (system : System Handler) (changed : ContextId)
    (change : Context (Invocation Handler) → Context (Invocation Handler)) (context : ContextId)
    (invocation : Invocation Handler) :
    (system.updateContext changed change).postArrivals context invocation =
      system.postArrivals context invocation := by
  have same : ((system.updateContext changed change).context? context).isSome =
      (system.context? context).isSome := by
    simp only [context?, updateContext, List.getElem?_modify]
    cases system.contexts[context]? <;> rfl
  rw [postArrivals, postArrivals, same]

/-- What a submission itself queues: the answer to an operation that the pool refuses. -/
def submitArrivals (system : System Handler) (service : ServiceId) (imp : Implementation)
    (request : Request) (buffers : List Bytes) (handler : Handler) : List (Arrival Handler) :=
  match system.service? service with
  | none => []
  | some found =>
    match found.pool.execute (.issued
      { context := found.context, state := imp.state
        token := (system.state imp.state).source.token, handle := system.handleOf imp
        request, buffers, handler }) with
    | .ok _ => []
    | .error _ =>
      system.postArrivals found.context
        { handler, completion := some { result := .error .aborted, buffers } }

theorem grown_submit (system : System Handler) (service : ServiceId) (imp : Implementation)
    (request : Request) (buffers : List Bytes) (handler : Handler) :
    system.Grown (system.submitArrivals service imp request buffers handler)
      (system.submit service imp request buffers handler) := by
  rw [submit, submitArrivals]
  cases system.service? service with
  | none => exact (SameQueues.refl system).grown
  | some found =>
    have started := system.quiet_workStarted found.context
    dsimp only
    cases found.pool.execute _ with
    | ok pool => exact started.sameQueues.grown
    | error error =>
      have queued := grown_post (system.workStarted found.context) found.context
        { handler, completion := some { result := .error .aborted, buffers } }
      rw [workStarted, postArrivals_updateContext] at queued
      have finished := quiet_workFinished ((system.workStarted found.context).post found.context
        { handler, completion := some { result := .error .aborted, buffers } }) found.context
      have grown := (started.sameQueues.grown.trans queued).trans finished.sameQueues.grown
      rwa [List.nil_append, List.append_nil] at grown

def attemptArrivals (system : System Handler) (operation : Operation Handler) :
    Attempt → List (Arrival Handler)
  | .stalled _ => []
  | .finished result buffers =>
    system.postArrivals operation.context
      { handler := operation.handler, completion := some { result, buffers } }

/-- What the step of a worker queues: the answer to its operation, once there is one. -/
def workerArrivals (system : System Handler) (held : Operation Handler → Bool)
    (service : ServiceId) (worker : Nat) : List (Arrival Handler) :=
  match system.heldTask? service worker with
  | some (.issued operation) =>
    if system.isCancelled operation then
      system.attemptArrivals operation (.finished (.error .aborted) operation.buffers)
    else []
  | some (.admitted operation) =>
    if held operation then []
    else system.attemptArrivals operation
      (operation.request.attempt operation.handle operation.buffers system.host).1
  | some (.stalled operation call) =>
    match Attempt.resume? operation.buffers call system.host with
    | none => []
    | some (attempt, _) => system.attemptArrivals operation attempt
  | some (.delivered _) | some .settled | none => []

theorem grown_follow (system : System Handler) (service : ServiceId) (worker : Nat)
    (operation : Operation Handler) (attempt : Attempt) (host : Host) :
    system.Grown (system.attemptArrivals operation attempt)
      ({ system with host }.follow service worker operation attempt) := by
  cases attempt with
  | stalled call => exact (SameQueues.refl system).grown
  | finished result buffers => exact grown_post { system with host } operation.context _

theorem grown_workerStep {system later : System Handler} {held : Operation Handler → Bool}
    {service : ServiceId} {worker : Nat}
    (stepped : system.workerStep? held service worker = some later) :
    system.Grown (system.workerArrivals held service worker) later := by
  simp only [workerStep?] at stepped
  rw [workerArrivals]
  split at stepped
  next => cases stepped
  next found present =>
    cases task : system.heldTask? service worker with
    | none =>
      simp only [task] at stepped
      split at stepped
      next =>
        cases stepped
        exact (SameQueues.refl system).grown
      next =>
        obtain ⟨_, _, rfl⟩ := Option.map_eq_some_iff.mp stepped
        exact (SameQueues.refl system).grown
    | some task' =>
      cases task' with
      | issued operation =>
        simp only [task, Option.some.injEq] at stepped
        subst stepped
        dsimp only
        rw [checkToken]
        split
        next => exact grown_follow system service worker operation _ system.host
        next => exact (SameQueues.refl system).grown
      | admitted operation =>
        simp only [task] at stepped
        split at stepped
        next => cases stepped
        next free =>
          cases stepped
          dsimp only
          rw [if_neg free]
          exact grown_follow system service worker operation _ _
      | stalled operation call =>
        simp only [task] at stepped
        obtain ⟨⟨attempt, host⟩, resumed, rfl⟩ := Option.map_eq_some_iff.mp stepped
        dsimp only
        rw [resumed]
        exact grown_follow system service worker operation attempt host
      | delivered context =>
        simp only [task, Option.some.injEq] at stepped
        subst stepped
        exact (system.quiet_workFinished context).sameQueues.grown
      | settled =>
        simp only [task, Option.some.injEq] at stepped
        subst stepped
        exact (SameQueues.refl system).grown

end System

end AsyncFiles
