import AsyncFiles.Proofs.Threads.Queues

/-!
Threads in any order. Any thread may make the next step, a handler may do anything next, also panic,
and a panic may be caught by any frame. Each event tells what it queues, takes from a queue, returns
and takes away.
-/
namespace AsyncFiles.Script

open Access Error Host

inductive Event
  | spawn (name : Name) (commands : List Command)
  /-- A new thread that is asked for one command. -/
  | ask (command : Command)
  /-- The body on top of a thread goes on with other commands. -/
  | choose (thread : Nat) (commands : List Command)
  | step (thread : Nat)
  | work (service : ServiceId) (worker : Nat)
  /-- A panic takes all frames of a thread away but the lowest. -/
  | panic (thread : Nat) (text : String) (kept : Nat)

inductive Happening
  | queued (arrival : Arrival Handler)
  | taken (context : ContextId) (invocation : Invocation Handler)
  | returned (context : ContextId) (count : Nat)
  | unwound (frame : Frame)

namespace Thread

/-- The frames that a panic takes away, the topmost first. -/
def gone (thread : Thread) (kept : Nat) : List Frame :=
  thread.frames.take (thread.frames.length - kept)

/-- A panic that is caught above the lowest frames, or ends the thread if none are kept. -/
def unwindTo (thread : Thread) (kept : Nat) (text : String) (session : Session) :
    Session × Thread :=
  ((thread.gone kept).foldl finishFrame session,
    { frames := thread.frames.drop (thread.frames.length - kept)
      running := thread.running.drop ((thread.gone kept).countP isServing)
      result := if kept = 0 then some (.panicked text) else thread.result })

theorem unwind_eq (thread : Thread) (text : String) (session : Session) :
    thread.unwind text session = thread.unwindTo 0 text session := by
  simp [unwind, unwindTo, gone]

def choose (thread : Thread) (commands : List Command) : Thread :=
  match thread.frames with
  | .body name _ :: rest => { thread with frames := .body name commands :: rest }
  | _ => thread

end Thread

namespace Session

/-- What a command itself queues when it starts on a thread. -/
def arrivals (session : Session) (thread : Thread) : Command → List (Arrival Handler)
  | .post context name body =>
    match session.contexts.get? context with
    | none => []
    | some context => session.system.postArrivals context { handler := { name, body } }
  | .dispatch context name body =>
    match session.contexts.get? context with
    | none => []
    | some context =>
      if thread.running.contains context then []
      else session.system.postArrivals context { handler := { name, body } }
  | .submit target request buffers gate name body =>
    match session.target? target with
    | none => []
    | some (service, imp) =>
      session.system.submitArrivals service imp request buffers { name, body, gate }
  | .remoteRun context posts =>
    match session.contexts.get? context with
    | none => []
    | some context => posts.flatMap fun post =>
        session.system.postArrivals context { handler := { name := post.1, body := post.2 } }
  | .act _ | .drive _ _ | .runThreads _ _ | .panic _ => []

def panics (session : Session) (thread : Thread) : Command → Bool
  | .act action =>
    (session.exchange? action).isNone &&
      ((session.retain (session.inUse? action)).act thread.running action).1.panic?.isSome
  | .panic _ => true
  | .post _ _ _ | .dispatch _ _ _ | .submit _ _ _ _ _ _ | .drive _ _ | .remoteRun _ _
  | .runThreads _ _ => false

def happenings (session : Session) (thread : Thread) (command : Command) : List Happening :=
  (session.arrivals thread command).map .queued ++
    if session.panics thread command then thread.frames.map .unwound else []

end Session

namespace Machine

def react (machine : Machine) : Event → Machine
  | .spawn name commands =>
    { machine with threads := machine.threads ++ [{ frames := [.body name commands] }] }
  | .ask command =>
    ({ machine with threads := machine.threads ++ [({} : Thread)] } : Machine).start
      machine.threads.length {} command
  | .choose thread commands =>
    match machine.threads[thread]? with
    | none => machine
    | some found => machine.put thread (machine.session, found.choose commands)
  | .step thread => (machine.step? thread).getD machine
  | .work service worker =>
    match machine.session.system.workerStep? machine.session.isHeld service worker with
    | none => machine
    | some system => { machine with session := { machine.session with system } }
  | .panic thread text kept =>
    match machine.threads[thread]? with
    | none => machine
    | some found =>
      if found.result.isSome then machine
      else machine.put thread (found.unwindTo kept text machine.session)

def stepHappenings (machine : Machine) (thread : Thread) : List Happening :=
  match thread.frames with
  | .body _ (command :: _) :: _ => machine.session.happenings thread command
  | .driving context drive count :: _ =>
    if drive.isSingle && 0 < count then [.returned context count]
    else
      match ((machine.session.system.context? context).getD {}).turn with
      | .take invocation _ => [.taken context invocation]
      | .leave | .wait => [.returned context count]
  | .gathering others :: _ =>
    match others.mapM fun other => (machine.threads[other]?).bind Thread.result with
    | none => []
    | some replies =>
      if (replies.findSome? Reply.panic?).isSome then thread.frames.map .unwound else []
  | _ => []

def happenings (machine : Machine) : Event → List Happening
  | .spawn _ _ | .choose _ _ => []
  | .ask command => machine.session.happenings {} command
  | .step thread =>
    match machine.threads[thread]?, machine.step? thread with
    | some found, some _ => machine.stepHappenings found
    | _, _ => []
  | .work service worker =>
    match machine.session.system.workerStep? machine.session.isHeld service worker with
    | none => []
    | some _ =>
      (machine.session.system.workerArrivals machine.session.isHeld service worker).map .queued
  | .panic thread _ kept =>
    match machine.threads[thread]? with
    | none => []
    | some found => if found.result.isSome then [] else (found.gone kept).map .unwound

def after (machine : Machine) (events : List Event) : Machine := events.foldl react machine

def history (machine : Machine) : List Event → List Happening
  | [] => []
  | event :: rest => machine.happenings event ++ (machine.react event).history rest

theorem after_append (machine : Machine) (first rest : List Event) :
    machine.after (first ++ rest) = (machine.after first).after rest :=
  List.foldl_append

def ofSession (session : Session) : Machine := { session, threads := [] }

def Reaches (machine later : Machine) : Prop := ∃ events, later = machine.after events

theorem Reaches.refl (machine : Machine) : machine.Reaches machine := ⟨[], rfl⟩

theorem Reaches.trans {machine middle later : Machine} (first : machine.Reaches middle)
    (second : middle.Reaches later) : machine.Reaches later := by
  obtain ⟨before, rfl⟩ := first
  obtain ⟨after, rfl⟩ := second
  exact ⟨before ++ after, (machine.after_append before after).symm⟩

theorem reaches_react (machine : Machine) (event : Event) :
    machine.Reaches (machine.react event) :=
  ⟨[event], rfl⟩

theorem reaches_step {machine later : Machine} {index : Nat}
    (stepped : machine.step? index = some later) : machine.Reaches later := by
  have same : machine.react (.step index) = later := by rw [react, stepped, Option.getD_some]
  exact same ▸ machine.reaches_react (.step index)

theorem reaches_workerStep {session later : Session} (threads : List Thread)
    (stepped : session.workerStep? = some later) :
    ({ session, threads } : Machine).Reaches { session := later, threads } := by
  obtain ⟨⟨_, service⟩, _, found⟩ := List.exists_of_findSome?_eq_some stepped
  obtain ⟨worker, _, moved⟩ := List.exists_of_findSome?_eq_some found
  obtain ⟨system, made, rfl⟩ := Option.map_eq_some_iff.mp moved
  have same : ({ session, threads } : Machine).react (.work service worker) =
      { session := { session with system }, threads } := by
    simp only [react, made]
  exact same ▸ reaches_react _ _

theorem reaches_settle (fuel : Nat) (session : Session) (threads : List Thread) :
    ({ session, threads } : Machine).Reaches { session := session.settle fuel, threads } := by
  induction fuel generalizing session with
  | zero => exact .refl _
  | succ fuel ih =>
    rw [Session.settle]
    split
    next => exact .refl _
    next later stepped => exact (reaches_workerStep threads stepped).trans (ih later)

theorem reaches_work (machine : Machine) :
    machine.Reaches { machine with session := machine.session.work } :=
  reaches_settle _ machine.session machine.threads

theorem reaches_advance {machine later : Machine} (advanced : machine.advance? = some later) :
    machine.Reaches later := by
  obtain ⟨middle, found, rfl⟩ := Option.map_eq_some_iff.mp advanced
  obtain ⟨index, _, stepped⟩ := List.exists_of_findSome?_eq_some found
  exact (reaches_step stepped).trans middle.reaches_work

theorem reaches_run (fuel : Nat) (machine : Machine) : machine.Reaches (machine.run fuel) := by
  induction fuel generalizing machine with
  | zero => exact .refl machine
  | succ fuel ih =>
    rw [run]
    split
    next => exact .refl machine
    next later advanced => exact (reaches_advance advanced).trans (ih later)

end Machine

theorem Session.perform_reaches (session : Session) (command : Command) :
    ∃ later, (Machine.ofSession { session with log := [] }).Reaches later ∧
      (session.perform command).2.2 = later.session := by
  have asked := (Machine.ofSession { session with log := [] }).reaches_react (.ask command)
  exact ⟨_, (asked.trans (Machine.reaches_work _)).trans (Machine.reaches_run _ _), rfl⟩

end AsyncFiles.Script
