import AsyncFiles.Script.Exchange

/-!
The steps of a script. A thread is a stack of frames: bodies of handlers, handlers being served from
a context's queue, runs of a context, waits, and exchanges with a pipe. A thread that waits leaves
all others alone.
Workers are eager: they go on until they have nothing to do, stand at a closed gate or wait for a
pipe. A panic takes all frames away, and what each was serving is reported as finished.
-/
namespace AsyncFiles.Script

open Access Error Host

inductive Wait
  | workersLeft (services : List ServiceId)
  /-- No task of a service is pending. -/
  | drained (service : ServiceId)
  /-- No operation with this gate is left to begin: a worker stands at the gate or is past it. -/
  | begun (gate : Name)

inductive Frame
  | body (handler : Name) (rest : List Command)
  | serving (context : ContextId)
  | driving (context : ContextId) (drive : Drive) (count : Nat)
  /-- A call that is carried out but for its wait. A service it uses stays alive until then. -/
  | waiting (wait : Wait) (reply : Reply) (inUse : Option ServiceId)
  | exchanging (handle : FileHandle) (exchange : Exchange) (stalled : Option Stalled)
  | gathering (threads : List Nat)

structure Thread where
  frames : List Frame := []
  /-- The contexts whose handlers the thread is serving, the latest in front. -/
  running : List ContextId := []
  result : Option Reply := none

structure Machine where
  session : Session
  threads : List Thread

namespace Session

def taskWeight : Task Handler → Nat
  | .issued operation | .admitted operation | .stalled operation _ => operation.handler.weight
  | .delivered _ | .settled => 0

def weight (session : Session) : Nat :=
  let invocations := session.system.contexts.flatMap fun context => context.queue
  let tasks := session.system.services.flatMap fun service =>
    service.pool.queue ++ service.pool.held
  (invocations.map fun invocation => invocation.handler.weight).foldl (· + ·) 0 +
    (tasks.map taskWeight).foldl (· + ·) 0

def isHeld (session : Session) (operation : Operation Handler) : Bool :=
  session.gates.any fun gate => operation.handler.gate = some gate

def workerStep? (session : Session) : Option Session :=
  session.system.services.zipIdx.findSome? fun (service, index) =>
    (List.range service.pool.workers.length).findSome? fun worker =>
      (session.system.workerStep? session.isHeld index worker).map fun system =>
        { session with system }

def settle : Nat → Session → Session
  | 0, session => session
  | fuel + 1, session =>
    match session.workerStep? with
    | none => session
    | some session => session.settle fuel

/-- Lets the workers go on as far as they can. A task takes six steps, a worker leaves once, and a
stalled write goes on only after some task has read. -/
def work (session : Session) : Session :=
  let tasks := (session.system.services.map fun service =>
    service.pool.queue.length + service.pool.workers.length).foldl (· + ·) 0
  session.settle ((tasks + 7) * tasks + 1)

def isBegun (gate : Name) : Task Handler → Bool
  | .issued operation => operation.handler.gate ≠ some gate
  | _ => true

def holds (session : Session) : Wait → Bool
  | .workersLeft services => services.all fun service =>
      ((session.system.service? service).map fun found => found.pool.allLeft).getD true
  | .drained service =>
    ((session.system.service? service).map fun found => found.pool.pending == 0).getD true
  | .begun gate => session.system.services.all fun service =>
      (service.pool.queue ++ service.pool.held).all (isBegun gate)

def closedIn (session later : Session) : List ServiceId :=
  (List.range session.system.services.length).filter fun service =>
    ((session.system.service? service).any fun found => found.pool.sending) &&
      ((later.system.service? service).any fun found => !found.pool.sending)

/-- The service that a call which may take its time holds on to. -/
def inUse? (session : Session) : Action → Option ServiceId
  | .service name .shutdown | .service name .shutdownReleasing | .service name .settle =>
    session.services.get? name
  | _ => none

/-- What remains to wait for when an action has led from `session` to `later`: settling waits for
the tasks of its service, anything else for the workers of the pools that it closed. -/
def waitAfter (session later : Session) (action : Action) : Wait :=
  match action, session.inUse? action with
  | .service _ .settle, some service => .drained service
  | _, _ => .workersLeft (session.closedIn later)

def retain (session : Session) (inUse : Option ServiceId) : Session :=
  match inUse with
  | none => session
  | some service => session.changeSystem fun system => system.retain service

def postHandler (session : Session) (context : ContextId) (handler : Handler) : Session :=
  session.changeSystem fun system => system.post context { handler }

def target? (session : Session) : Target → Option (ServiceId × Implementation)
  | .file name => (session.files.get? name).map fun file => (file.service, file.implementation)
  | .implementation name service =>
    match session.services.get? service, session.implementations.get? name with
    | some service, some imp => some (service, imp)
    | _, _ => none

def submit (session : Session) (target : Target) (request : Request) (buffers : List Bytes)
    (handler : Handler) : Session :=
  match session.target? target with
  | none => session
  | some (service, imp) =>
    let session := { session with gates := session.gates ++ handler.gate.toList }
    session.changeSystem fun system => system.submit service imp request buffers handler

end Session

namespace Thread

def push (thread : Thread) (frame : Frame) : Thread :=
  { thread with frames := frame :: thread.frames }

def deliver (thread : Thread) (reply : Reply) (session : Session) : Session × Thread :=
  match thread.frames with
  | .body handler _ :: _ => (session.note (.answered handler reply), thread)
  | _ => (session, { thread with result := some reply })

def call (thread : Thread) (handler : Handler) (completion : Option Completion)
    (session : Session) : Session × Thread :=
  (session.note (.called handler.name completion),
    thread.push (.body handler.name handler.body))

def finishFrame (session : Session) : Frame → Session
  | .serving context => session.changeSystem fun system => system.workFinished context
  | _ => session

def isServing : Frame → Bool
  | .serving _ => true
  | _ => false

def unwind (thread : Thread) (text : String) (session : Session) : Session × Thread :=
  (thread.frames.foldl finishFrame session,
    { frames := []
      running := thread.running.drop (thread.frames.countP isServing)
      result := some (.panicked text) })

def start (thread : Thread) (command : Command) (session : Session) : Session × Thread :=
  match command with
  | .act action =>
    match session.exchange? action with
    | some (handle, exchange) => (session, thread.push (.exchanging handle exchange none))
    | none =>
      let inUse := session.inUse? action
      match (session.retain inUse).act thread.running action with
      | (.panicked text, later) => thread.unwind text later
      | (reply, later) =>
        (later, thread.push (.waiting (session.waitAfter later action) reply inUse))
  | .post context name body =>
    match session.contexts.get? context with
    | none => thread.deliver .nothing session
    | some context => thread.deliver .nothing (session.postHandler context { name, body })
  | .dispatch context name body =>
    match session.contexts.get? context with
    | none => thread.deliver .nothing session
    | some context =>
      if thread.running.contains context then thread.call { name, body } none session
      else thread.deliver .nothing (session.postHandler context { name, body })
  | .submit target request buffers gate name body =>
    let session := session.submit target request buffers { name, body, gate }
    match gate with
    | none => thread.deliver .nothing session
    | some gate => (session, thread.push (.waiting (.begun gate) .nothing none))
  | .drive context drive =>
    match session.contexts.get? context with
    | none => thread.deliver .nothing session
    | some context => (session, thread.push (.driving context drive 0))
  | .remoteRun context posts =>
    match session.contexts.get? context with
    | none => thread.deliver .nothing session
    | some context =>
      let session := session.changeSystem fun system => system.workStarted context
      let session := posts.foldl
        (fun session post => session.postHandler context { name := post.1, body := post.2 }) session
      (session.changeSystem fun system => system.workFinished context,
        thread.push (.driving context .run 0))
  | .runThreads _ _ => thread.deliver .nothing session
  | .panic text => thread.unwind text session

/-- The end of a served handler: it counts for the run that took it. -/
def countServed : List Frame → List Frame
  | .driving context drive count :: rest => .driving context drive (count + 1) :: rest
  | frames => frames

end Thread

def Reply.count : Reply → Nat
  | .number value => value
  | _ => 0

def Reply.panic? : Reply → Option String
  | .panicked words => some words
  | _ => none

namespace Machine

def put (machine : Machine) (index : Nat) (next : Session × Thread) : Machine :=
  { session := next.1, threads := machine.threads.set index next.2 }

/-- Starts a command on a thread. New threads that run a context come after all others. -/
def start (machine : Machine) (index : Nat) (thread : Thread) (command : Command) : Machine :=
  match command with
  | .runThreads context count =>
    match machine.session.contexts.get? context with
    | none => machine.put index (thread.deliver .nothing machine.session)
    | some context =>
      let first := machine.threads.length
      let workers : List Thread :=
        List.replicate count { frames := [.driving context .run 0] }
      let thread := thread.push (.gathering ((List.range count).map fun offset => first + offset))
      { machine with threads := machine.threads.set index thread ++ workers }
  | command => machine.put index (thread.start command machine.session)

def step? (machine : Machine) (index : Nat) : Option Machine :=
  match machine.threads[index]? with
  | none => none
  | some thread =>
    if thread.result.isSome then none
    else match thread.frames with
      | [] => none
      | .body _ [] :: rest =>
        let popped := { thread with frames := rest }
        match rest with
        | .serving _ :: _ => some (machine.put index (machine.session, popped))
        | _ => some (machine.put index (popped.deliver .nothing machine.session))
      | .body handler (command :: commands) :: rest =>
        some (machine.start index { thread with frames := .body handler commands :: rest } command)
      | .serving context :: rest =>
        some (machine.put index
          (machine.session.changeSystem fun system => system.workFinished context,
            { thread with frames := Thread.countServed rest, running := thread.running.tail }))
      | .driving context drive count :: rest =>
        let done :=
          some (machine.put index
            ({ thread with frames := rest }.deliver (.number count) machine.session))
        if drive.isSingle && 0 < count then done
        else
          match ((machine.session.system.context? context).getD {}).turn with
          | .take invocation left =>
            let session := machine.session.changeSystem fun system =>
              system.updateContext context fun _ => left
            let serving := { thread.push (.serving context) with
              running := context :: thread.running }
            some (machine.put index
              (serving.call invocation.handler invocation.completion session))
          | .leave => done
          | .wait => if drive.waits then none else done
      | .waiting wait reply inUse :: rest =>
        if machine.session.holds wait then
          match inUse with
          | none =>
            some (machine.put index ({ thread with frames := rest }.deliver reply machine.session))
          | some service =>
            let later := machine.session.changeSystem fun system => system.dropReference service
            let last := Frame.waiting (.workersLeft (machine.session.closedIn later)) reply none
            some (machine.put index (later, { thread with frames := last :: rest }))
        else none
      | .exchanging handle exchange stalled :: rest =>
        let popped := { thread with frames := rest }
        match machine.session.exchangeStep? handle exchange stalled with
        | none => none
        | some (.stalled call, session) =>
          some (machine.put index (session, popped.push (.exchanging handle exchange (some call))))
        | some (.finished result buffers, session) =>
          match exchange.next result buffers with
          | .inl reply => some (machine.put index (popped.deliver reply session))
          | .inr exchange =>
            some (machine.put index (session, popped.push (.exchanging handle exchange none)))
      | .gathering others :: rest =>
        match others.mapM fun other => (machine.threads[other]?).bind Thread.result with
        | none => none
        | some replies =>
          match replies.findSome? Reply.panic? with
          | some text => some (machine.put index (thread.unwind text machine.session))
          | none =>
            some (machine.put index
              ({ thread with frames := rest }.deliver
                (.number ((replies.map Reply.count).foldl (· + ·) 0)) machine.session))

def advance? (machine : Machine) : Option Machine :=
  ((List.range machine.threads.length).findSome? machine.step?).map fun machine =>
    { machine with session := machine.session.work }

def run : Nat → Machine → Machine
  | 0, machine => machine
  | fuel + 1, machine =>
    match machine.advance? with
    | none => machine
    | some machine => machine.run fuel

end Machine

namespace Session

/-- Carries out a command to its end: its reply, what handlers left in the log meanwhile, and the
session afterwards. -/
def perform (session : Session) (command : Command) : Reply × List Entry × Session :=
  let machine := ({ session := { session with log := [] }, threads := [{}] } : Machine)
  let started := machine.start 0 {} command
  let ended := { started with session := started.session.work }.run
    (session.weight + command.weight)
  (((ended.threads[0]?).bind Thread.result).getD .stuck, ended.session.log, ended.session)

def performAll (session : Session) : List Command → List (Reply × List Entry)
  | [] => []
  | command :: rest =>
    let (reply, log, session) := session.perform command
    (reply, log) :: session.performAll rest

end Session

end AsyncFiles.Script
