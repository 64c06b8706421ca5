import AsyncFiles.Proofs.Pool.Settlement
import AsyncFiles.Proofs.Threads.Calls

namespace AsyncFiles.Script

open Access Error Host

namespace Happening

def arrival? : Happening → Option (Arrival Handler)
  | .queued arrival => some arrival
  | .taken _ _ | .returned _ _ | .unwound _ => none

def takenFrom? (context : ContextId) : Happening → Option (Invocation Handler)
  | .taken other invocation => if other = context then some invocation else none
  | .queued _ | .returned _ _ | .unwound _ => none

def counted (context : ContextId) : Happening → Nat
  | .returned other count => if other = context then count else 0
  | .queued _ | .taken _ _ | .unwound _ => 0

end Happening

/-- The handlers that a frame has taken from the queue of a context: those that a run has served,
and the one that is served now. -/
def Frame.claimed (context : ContextId) : Frame → Nat
  | .driving other _ count => if other = context then count else 0
  | .serving other => if other = context then 1 else 0
  | .body _ _ | .waiting _ _ _ | .exchanging _ _ _ | .gathering _ => 0

def Happening.lost (context : ContextId) : Happening → Nat
  | .unwound frame => frame.claimed context
  | .queued _ | .taken _ _ | .returned _ _ => 0

section

variable (context : ContextId)

def queuedIn (history : List Happening) : List (Invocation Handler) :=
  System.arrivedAt context (history.filterMap Happening.arrival?)

def takenFrom (history : List Happening) : List (Invocation Handler) :=
  history.filterMap (Happening.takenFrom? context)

def returnedSum (history : List Happening) : Nat := (history.map (Happening.counted context)).sum

def lostSum (history : List Happening) : Nat := (history.map (Happening.lost context)).sum

def claimedOn (frames : List Frame) : Nat := (frames.map (Frame.claimed context)).sum

def Machine.inProgress (machine : Machine) : Nat :=
  (machine.threads.map fun thread => claimedOn context thread.frames).sum

def Machine.queueOf (machine : Machine) : List (Invocation Handler) :=
  machine.session.system.queueOf context

variable {context}

theorem queuedIn_append (first rest : List Happening) :
    queuedIn context (first ++ rest) = queuedIn context first ++ queuedIn context rest := by
  rw [queuedIn, List.filterMap_append, System.arrivedAt_append]
  rfl

theorem takenFrom_append (first rest : List Happening) :
    takenFrom context (first ++ rest) = takenFrom context first ++ takenFrom context rest :=
  List.filterMap_append

theorem returnedSum_append (first rest : List Happening) :
    returnedSum context (first ++ rest) = returnedSum context first + returnedSum context rest := by
  simp [returnedSum]

theorem lostSum_append (first rest : List Happening) :
    lostSum context (first ++ rest) = lostSum context first + lostSum context rest := by
  simp [lostSum]

theorem claimedOn_append (above rest : List Frame) :
    claimedOn context (above ++ rest) = claimedOn context above + claimedOn context rest := by
  simp [claimedOn]

@[simp] theorem queuedIn_queued (arrivals : List (Arrival Handler)) :
    queuedIn context (arrivals.map .queued) = System.arrivedAt context arrivals := by
  have same : (arrivals.map Happening.queued).filterMap Happening.arrival? = arrivals := by
    rw [List.filterMap_map]
    exact List.filterMap_some
  rw [queuedIn, same]

@[simp] theorem takenFrom_queued (arrivals : List (Arrival Handler)) :
    takenFrom context (arrivals.map .queued) = [] := by
  rw [takenFrom, List.filterMap_map]
  exact List.filterMap_eq_nil_iff.mpr fun _ _ => rfl

theorem sum_map_zero {α : Type} {list : List α} {f : α → Nat} (zero : ∀ value ∈ list, f value = 0) :
    (list.map f).sum = 0 := by
  induction list with
  | nil => rfl
  | cons value rest ih =>
    rw [List.map_cons, List.sum_cons, zero value List.mem_cons_self, Nat.zero_add]
    exact ih fun other member => zero other (List.mem_cons_of_mem value member)

@[simp] theorem returnedSum_queued (arrivals : List (Arrival Handler)) :
    returnedSum context (arrivals.map .queued) = 0 := by
  rw [returnedSum, List.map_map]
  exact sum_map_zero fun _ _ => rfl

@[simp] theorem lostSum_queued (arrivals : List (Arrival Handler)) :
    lostSum context (arrivals.map .queued) = 0 := by
  rw [lostSum, List.map_map]
  exact sum_map_zero fun _ _ => rfl

@[simp] theorem queuedIn_unwound (frames : List Frame) :
    queuedIn context (frames.map .unwound) = [] := by
  have none : (frames.map Happening.unwound).filterMap Happening.arrival? = [] := by
    rw [List.filterMap_map]
    exact List.filterMap_eq_nil_iff.mpr fun _ _ => rfl
  rw [queuedIn, none]
  rfl

@[simp] theorem takenFrom_unwound (frames : List Frame) :
    takenFrom context (frames.map .unwound) = [] := by
  rw [takenFrom, List.filterMap_map]
  exact List.filterMap_eq_nil_iff.mpr fun _ _ => rfl

@[simp] theorem returnedSum_unwound (frames : List Frame) :
    returnedSum context (frames.map .unwound) = 0 := by
  rw [returnedSum, List.map_map]
  exact sum_map_zero fun _ _ => rfl

@[simp] theorem lostSum_unwound (frames : List Frame) :
    lostSum context (frames.map .unwound) = claimedOn context frames := by
  rw [lostSum, List.map_map]
  rfl

theorem claimedOn_cons (frame : Frame) (rest : List Frame) :
    claimedOn context (frame :: rest) = frame.claimed context + claimedOn context rest := by
  simp [claimedOn]

variable (context) in
theorem claimedOn_eq_zero {frames : List Frame}
    (idle : ∀ frame ∈ frames, frame.isPlain ∨ frame.isCall) : claimedOn context frames = 0 := by
  apply sum_map_zero
  intro frame member
  have free := idle frame member
  cases frame with
  | driving other drive count =>
    have none : count = 0 := by simpa [Frame.isPlain, Frame.isCall] using free
    simp [Frame.claimed, none]
  | serving other => simp [Frame.isPlain, Frame.isCall] at free
  | _ => rfl

end

theorem Session.keeps_finishFrames (session : Session) (frames : List Frame) :
    session.Keeps (frames.foldl Thread.finishFrame session) := by
  induction frames generalizing session with
  | nil => exact .refl session
  | cons frame rest ih =>
    have first : session.Keeps (Thread.finishFrame session frame) := by
      cases frame with
      | serving context => exact session.keeps_workFinished context
      | _ => exact .refl session
    exact first.trans (ih _)

theorem queueOf_take {system : System Handler} {context : ContextId}
    {invocation : Invocation Handler} {left : Context (Invocation Handler)}
    (turn : ((system.context? context).getD {}).turn = .take invocation left)
    (other : ContextId) :
    takenFrom other [.taken context invocation] ++
        (system.updateContext context fun _ => left).queueOf other = system.queueOf other := by
  cases present : system.context? context with
  | none =>
    rw [present] at turn
    cases turn
  | some found =>
    rw [present] at turn
    have queued : found.queue = invocation :: left.queue := Context.queue_of_take turn
    have bound : context < system.queues.length := by
      rw [System.queues, List.length_map]
      exact (List.getElem?_eq_some_iff.mp present).1
    rw [System.queueOf_eq, System.queueOf_eq, System.queues_updateContext present,
      List.getElem?_set]
    by_cases here : context = other
    · subst here
      rw [System.queues_getElem present]
      simp [takenFrom, Happening.takenFrom?, bound, queued]
    · simp [takenFrom, Happening.takenFrom?, here]

section

variable {session later : Session} {thread next : Thread} {happenings : List Happening}

theorem Progress.queue (progress : Progress session thread later next happenings)
    (context : ContextId) :
    takenFrom context happenings ++ later.system.queueOf context =
      session.system.queueOf context ++ queuedIn context happenings := by
  cases progress with
  | plain before few leaving after begun running grown =>
    rw [takenFrom_queued, queuedIn_queued, List.nil_append, grown context]
  | takes before first turn after running system =>
    rw [system, queueOf_take turn]
    exact (List.append_nil _).symm
  | returns before why gives =>
    rw [(Progress.of_gives gives).2.2]
    exact (List.append_nil _).symm
  | @serves _ _ served _ before after running system =>
    have same := (session.system.quiet_workFinished served).sameQueues context
    rw [system]
    exact same.trans (List.append_nil _).symm
  | @unwinds middle _ _ kept keeps after running system =>
    have same := keeps.trans (middle.keeps_finishFrames (thread.gone kept)) context
    rw [takenFrom_unwound, queuedIn_unwound, List.append_nil, List.nil_append, system]
    exact same

theorem Progress.claims (progress : Progress session thread later next happenings)
    (stacked : Stacked thread.frames) (context : ContextId) :
    returnedSum context happenings + lostSum context happenings + claimedOn context next.frames =
      claimedOn context thread.frames + (takenFrom context happenings).length := by
  cases progress with
  | plain before few leaving after begun running grown =>
    have idle := claimedOn_eq_zero context fun frame member => .inr (begun frame member)
    have free := claimedOn_eq_zero context fun frame member => .inl (leaving frame member)
    simp [before, after, claimedOn_append, idle, free]
  | @takes _ _ taken _ _ _ _ _ before first turn after running system =>
    rw [after, claimedOn_cons, claimedOn_cons]
    by_cases here : taken = context
    · simp [here, takenFrom, Happening.takenFrom?, returnedSum, Happening.counted, lostSum,
        Happening.lost, Frame.claimed]
      omega
    · simp [here, takenFrom, Happening.takenFrom?, returnedSum, Happening.counted, lostSum,
        Happening.lost, Frame.claimed]
  | @returns _ _ ran _ _ _ before why gives =>
    obtain ⟨after, _⟩ := Progress.of_gives gives
    rw [before, after, claimedOn_cons]
    by_cases here : ran = context <;>
      simp [here, takenFrom, Happening.takenFrom?, returnedSum, Happening.counted, lostSum,
        Happening.lost, Frame.claimed]
  | @serves _ _ served _ before after running system =>
    rw [before] at stacked
    obtain ⟨⟨drive, count, below, run⟩, _⟩ := stacked
    rw [before, after, run, Thread.countServed, claimedOn_cons, claimedOn_cons, claimedOn_cons]
    by_cases here : served = context
    · simp [here, takenFrom, returnedSum, lostSum, Frame.claimed]
      omega
    · simp [here, takenFrom, returnedSum, lostSum, Frame.claimed]
  | unwinds kept keeps after running system =>
    have whole := congrArg (claimedOn context)
      (List.take_append_drop (thread.frames.length - kept) thread.frames)
    rw [claimedOn_append] at whole
    rw [returnedSum_unwound, lostSum_unwound, takenFrom_unwound, after, Thread.gone]
    simpa using whole

end

theorem claimedOn_runs (context : ContextId) {thread : Thread} (runs : thread.Runs) :
    claimedOn context thread.frames = 0 := by
  obtain ⟨other, rfl⟩ := runs
  exact claimedOn_eq_zero context (by simp [Frame.isCall])

section

variable {machine later : Machine} {happenings : List Happening}

theorem Reaction.queue (reaction : Reaction machine later happenings) (context : ContextId) :
    takenFrom context happenings ++ later.queueOf context =
      machine.queueOf context ++ queuedIn context happenings := by
  cases reaction with
  | moved found moved =>
    cases moved with
    | moves progress threads runs => exact progress.queue context
  | came progress threads runs => exact progress.queue context
  | worked grown threads =>
    rw [takenFrom_queued, queuedIn_queued, List.nil_append]
    exact grown context

theorem Reaction.claims (reaction : Reaction machine later happenings) (nested : machine.Nested)
    (context : ContextId) :
    returnedSum context happenings + lostSum context happenings + later.inProgress context =
      machine.inProgress context + (takenFrom context happenings).length := by
  have idle {started : List Thread} (runs : ∀ other ∈ started, other.Runs) :
      (started.map fun thread => claimedOn context thread.frames).sum = 0 :=
    sum_map_zero fun other member => claimedOn_runs context (runs other member)
  cases reaction with
  | moved found moved =>
    cases moved with
    | @moves next started progress threads runs =>
      have inside := nested _ (List.mem_of_getElem? found)
      have moved := progress.claims inside.stacked context
      have others := sum_map_set (fun thread => claimedOn context thread.frames) found next
      rw [Machine.inProgress, Machine.inProgress, threads, List.map_append, List.sum_append,
        idle runs]
      omega
  | @came next started _ progress threads runs =>
    have moved := progress.claims trivial context
    have none : claimedOn context ({} : Thread).frames = 0 := rfl
    rw [Machine.inProgress, Machine.inProgress, threads, List.map_append, List.sum_append,
      List.map_cons, List.sum_cons, idle runs]
    omega
  | worked grown threads =>
    rw [returnedSum_queued, lostSum_queued, takenFrom_queued, Machine.inProgress,
      Machine.inProgress, threads]
    simp

end

namespace Machine

theorem history_queue (machine : Machine) (events : List Event) (context : ContextId) :
    takenFrom context (machine.history events) ++ (machine.after events).queueOf context =
      machine.queueOf context ++ queuedIn context (machine.history events) := by
  induction events generalizing machine with
  | nil => exact (List.append_nil _).symm
  | cons event rest ih =>
    have first := (machine.reaction event).queue context
    rw [history, takenFrom_append, queuedIn_append, List.append_assoc]
    calc
      takenFrom context (machine.happenings event) ++
          (takenFrom context ((machine.react event).history rest) ++
            ((machine.react event).after rest).queueOf context) =
        takenFrom context (machine.happenings event) ++ ((machine.react event).queueOf context ++
          queuedIn context ((machine.react event).history rest)) := by rw [ih]
      _ = machine.queueOf context ++ (queuedIn context (machine.happenings event) ++
          queuedIn context ((machine.react event).history rest)) := by
        rw [← List.append_assoc, first, List.append_assoc]

theorem history_claims {machine : Machine} (nested : machine.Nested) (events : List Event)
    (context : ContextId) :
    returnedSum context (machine.history events) + lostSum context (machine.history events) +
        (machine.after events).inProgress context =
      machine.inProgress context + (takenFrom context (machine.history events)).length := by
  induction events generalizing machine with
  | nil => exact Nat.zero_add _
  | cons event rest ih =>
    have first := (machine.reaction event).claims nested context
    have more := ih (nested.react event)
    have whole : machine.after (event :: rest) = (machine.react event).after rest := rfl
    rw [whole, history, returnedSum_append, lostSum_append, takenFrom_append, List.length_append]
    omega

end Machine

theorem lostSum_eq_zero {history : List Happening} (peaceful : ∀ frame, .unwound frame ∉ history)
    (context : ContextId) : lostSum context history = 0 := by
  apply sum_map_zero
  intro happening member
  cases happening with
  | unwound frame => exact absurd member (peaceful frame)
  | _ => rfl

end AsyncFiles.Script
