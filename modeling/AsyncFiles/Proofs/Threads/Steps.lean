import AsyncFiles.Proofs.Threads.Actions
import AsyncFiles.Proofs.Threads.Events

/-!
All that an event can do to a thread. Frames that neither run nor serve come and go at the top; a
run takes a handler or returns; a served handler ends; a panic takes frames away.
-/
namespace AsyncFiles.Script

open Access Error Host

namespace Frame

def isPlain : Frame → Bool
  | .serving _ | .driving _ _ _ => false
  | .body _ _ | .waiting _ _ _ | .exchanging _ _ _ | .gathering _ => true

/-- Frames as calls put them on a stack. A run has served no handler yet. -/
def isCall : Frame → Bool
  | .serving _ => false
  | .driving _ _ count => count = 0
  | .body _ _ | .waiting _ _ _ | .exchanging _ _ _ | .gathering _ => true

end Frame

namespace Thread

@[simp] theorem deliver_system (thread : Thread) (reply : Reply) (session : Session) :
    (thread.deliver reply session).1.system = session.system := by
  rw [deliver]
  split <;> rfl

@[simp] theorem deliver_frames (thread : Thread) (reply : Reply) (session : Session) :
    (thread.deliver reply session).2.frames = thread.frames := by
  rw [deliver]
  split <;> rfl

@[simp] theorem deliver_running (thread : Thread) (reply : Reply) (session : Session) :
    (thread.deliver reply session).2.running = thread.running := by
  rw [deliver]
  split <;> rfl

end Thread

inductive Progress (session : Session) (thread : Thread) :
    Session → Thread → List Happening → Prop
  /-- At most one frame leaves the top, and calls come. -/
  | plain {later : Session} {next : Thread} {left calls rest : List Frame}
      {arrivals : List (Arrival Handler)} (before : thread.frames = left ++ rest)
      (few : left.length ≤ 1) (leaving : ∀ frame ∈ left, frame.isPlain)
      (after : next.frames = calls ++ rest) (begun : ∀ frame ∈ calls, frame.isCall)
      (running : next.running = thread.running)
      (grown : session.system.Grown arrivals later.system) :
      Progress session thread later next (arrivals.map .queued)
  | takes {later : Session} {next : Thread} {context : ContextId} {drive : Drive} {count : Nat}
      {rest : List Frame} {invocation : Invocation Handler} {left : Context (Invocation Handler)}
      (before : thread.frames = .driving context drive count :: rest)
      (first : drive.isSingle = true → count = 0)
      (turn : ((session.system.context? context).getD {}).turn = .take invocation left)
      (after : next.frames = .body invocation.handler.name invocation.handler.body ::
        .serving context :: thread.frames)
      (running : next.running = context :: thread.running)
      (system : later.system = session.system.updateContext context fun _ => left) :
      Progress session thread later next [.taken context invocation]
  | returns {later : Session} {next : Thread} {context : ContextId} {drive : Drive} {count : Nat}
      {rest : List Frame} (before : thread.frames = .driving context drive count :: rest)
      (why : drive.isSingle = true ∧ 0 < count ∨
        ((session.system.context? context).getD {}).turn = .leave ∨
        ((session.system.context? context).getD {}).turn = .wait ∧ drive.waits = false)
      (gives : (later, next) =
        ({ thread with frames := rest } : Thread).deliver (.number count) session) :
      Progress session thread later next [.returned context count]
  | serves {later : Session} {next : Thread} {context : ContextId} {rest : List Frame}
      (before : thread.frames = .serving context :: rest)
      (after : next.frames = Thread.countServed rest)
      (running : next.running = thread.running.tail)
      (system : later.system = session.system.workFinished context) :
      Progress session thread later next []
  | unwinds {middle later : Session} {next : Thread} (kept : Nat) (keeps : session.Keeps middle)
      (after : next.frames = thread.frames.drop (thread.frames.length - kept))
      (running : next.running =
        thread.running.drop ((thread.gone kept).countP Thread.isServing))
      (system : later.system = ((thread.gone kept).foldl Thread.finishFrame middle).system) :
      Progress session thread later next ((thread.gone kept).map .unwound)

theorem Progress.of_gives {session later : Session} {thread next : Thread} {reply : Reply}
    (gives : (later, next) = thread.deliver reply session) :
    next.frames = thread.frames ∧ next.running = thread.running ∧
      later.system = session.system := by
  have session' := congrArg Prod.fst gives
  have next' := congrArg Prod.snd gives
  simp only at session' next'
  subst session' next'
  exact ⟨thread.deliver_frames reply session, thread.deliver_running reply session,
    thread.deliver_system reply session⟩

/-- `thread` is `origin` once the body on top has begun its next command. -/
inductive Thread.Begins (origin thread : Thread) : Prop
  | asked (running : thread.running = origin.running) (before : origin.frames = [])
      (after : thread.frames = [])
  | body {name : Name} {command : Command} {commands : List Command} {rest : List Frame}
      (running : thread.running = origin.running)
      (before : origin.frames = .body name (command :: commands) :: rest)
      (after : thread.frames = .body name commands :: rest)

namespace Thread

variable {origin thread : Thread} {session : Session}

theorem Begins.running (begins : origin.Begins thread) : thread.running = origin.running := by
  cases begins <;> assumption

theorem Begins.calls (begins : origin.Begins thread) {later : Session} {next : Thread}
    {calls : List Frame} {arrivals : List (Arrival Handler)}
    (after : next.frames = calls ++ thread.frames) (begun : ∀ frame ∈ calls, frame.isCall)
    (running : next.running = thread.running)
    (grown : session.system.Grown arrivals later.system) :
    Progress session origin later next (arrivals.map .queued) := by
  have same := running.trans begins.running
  cases begins with
  | asked _ none empty =>
    have before : origin.frames = [] ++ [] := none
    rw [empty] at after
    exact .plain before (by simp) (by simp) after begun same grown
  | @body name command commands rest _ found advanced =>
    have before : origin.frames = [.body name (command :: commands)] ++ rest := found
    have above : next.frames = (calls ++ [.body name commands]) ++ rest := by
      rw [after, advanced, List.append_assoc, List.singleton_append]
    refine .plain before (by simp) (by simp [Frame.isPlain]) above ?_ same grown
    intro frame member
    rcases List.mem_append.mp member with called | body
    · exact begun frame called
    · cases List.mem_singleton.mp body
      rfl

theorem gone_zero (thread : Thread) : thread.gone 0 = thread.frames := by
  simp [gone]

theorem progress_unwindTo (thread : Thread) {middle : Session} (keeps : session.Keeps middle)
    (kept : Nat) (text : String) :
    Progress session thread (thread.unwindTo kept text middle).1
      (thread.unwindTo kept text middle).2 ((thread.gone kept).map .unwound) :=
  .unwinds kept keeps rfl rfl rfl

theorem progress_unwind (thread : Thread) {middle : Session} (keeps : session.Keeps middle)
    (text : String) :
    Progress session thread (thread.unwind text middle).1 (thread.unwind text middle).2
      (thread.frames.map .unwound) := by
  rw [unwind_eq, ← gone_zero]
  exact thread.progress_unwindTo keeps 0 text

theorem Begins.unwind_eq (begins : origin.Begins thread) (text : String) (session : Session) :
    thread.unwind text session = origin.unwind text session := by
  cases begins with
  | asked running before after => simp [unwind, running, before, after]
  | body running before after => simp [unwind, running, before, after, finishFrame, isServing]

end Thread

namespace Session

theorem grown_deliver {session middle : Session} {arrivals : List (Arrival Handler)}
    (grown : session.system.Grown arrivals middle.system) (thread : Thread) (reply : Reply) :
    session.system.Grown arrivals (thread.deliver reply middle).1.system := by
  rwa [thread.deliver_system]

theorem grown_submitted (session : Session) (thread : Thread) (target : Target)
    (request : Request) (buffers : List Bytes) (gate : Option Name) (name : Name)
    (body : List Command) :
    session.system.Grown (session.arrivals thread (.submit target request buffers gate name body))
      (session.submit target request buffers { name, body, gate }).system := by
  rw [arrivals, submit]
  cases session.target? target with
  | none => exact (Keeps.refl session).grown
  | some found => exact session.system.grown_submit found.1 found.2 request buffers _

theorem grown_postHandlers (session : Session) (context : ContextId)
    (posts : List (Name × List Command)) :
    session.system.Grown
      (posts.flatMap fun post =>
        session.system.postArrivals context { handler := { name := post.1, body := post.2 } })
      (posts.foldl (fun session post =>
        session.postHandler context { name := post.1, body := post.2 }) session).system := by
  induction posts generalizing session with
  | nil => exact (Keeps.refl session).grown
  | cons post rest ih =>
    have first := session.system.grown_post context
      { handler := { name := post.1, body := post.2 } }
    have more := ih (session.postHandler context { name := post.1, body := post.2 })
    simp only [postHandler, changeSystem, System.post, System.postArrivals_updateContext]
      at first more
    exact first.trans more

theorem grown_remoteRun (session : Session) (context : ContextId)
    (posts : List (Name × List Command)) :
    session.system.Grown
      (posts.flatMap fun post =>
        session.system.postArrivals context { handler := { name := post.1, body := post.2 } })
      ((posts.foldl (fun session post =>
          session.postHandler context { name := post.1, body := post.2 })
        (session.changeSystem fun system => system.workStarted context)).changeSystem
          fun system => system.workFinished context).system := by
  have started := (session.keeps_workStarted context).grown
  have posted := grown_postHandlers
    (session.changeSystem fun system => system.workStarted context) context posts
  simp only [changeSystem, System.workStarted, System.postArrivals_updateContext] at started posted
  have grown := (started.trans posted).trans (keeps_workFinished _ context).grown
  rwa [List.nil_append, List.append_nil] at grown

end Session

section

variable {origin thread : Thread} {session : Session}

theorem Thread.Begins.delivers (begins : origin.Begins thread) {middle : Session}
    {arrivals : List (Arrival Handler)}
    (grown : session.system.Grown arrivals middle.system) (reply : Reply) :
    Progress session origin (thread.deliver reply middle).1 (thread.deliver reply middle).2
      (arrivals.map .queued) := by
  have after : (thread.deliver reply middle).2.frames = [] ++ thread.frames := by simp
  exact begins.calls after (by simp) (by simp) (Session.grown_deliver grown thread reply)

theorem Thread.Begins.pushes (begins : origin.Begins thread) {middle : Session}
    {arrivals : List (Arrival Handler)} {frame : Frame} (call : frame.isCall)
    (grown : session.system.Grown arrivals middle.system) :
    Progress session origin middle (thread.push frame) (arrivals.map .queued) := by
  have after : (thread.push frame).frames = [frame] ++ thread.frames := rfl
  exact begins.calls after (by simpa using call) rfl grown

theorem Session.keeps_retain (session : Session) (inUse : Option ServiceId) :
    session.Keeps (session.retain inUse) := by
  cases inUse with
  | none => exact .refl session
  | some service => exact (System.calm_retain session.system service).sameQueues

theorem Thread.Begins.act (begins : origin.Begins thread) (action : Action) :
    Progress session origin (thread.start (.act action) session).1
      (thread.start (.act action) session).2 (session.happenings origin (.act action)) := by
  obtain none | ⟨exchange, found⟩ := Option.eq_none_or_eq_some (session.exchange? action)
  · have kept := (session.keeps_retain (session.inUse? action)).trans
      (Session.keeps_act (session.retain (session.inUse? action)) origin.running action)
    cases result : (session.retain (session.inUse? action)).act origin.running action with
    | mk reply later =>
      rw [result] at kept
      simp only [Thread.start, Session.happenings, Session.arrivals, Session.panics, none,
        begins.running, result]
      cases reply with
      | panicked text =>
        dsimp only
        rw [begins.unwind_eq]
        exact origin.progress_unwind kept text
      | _ => exact begins.pushes rfl kept.grown
  · simp only [Thread.start, Session.happenings, Session.arrivals, Session.panics, found]
    exact begins.pushes rfl (Session.Keeps.refl session).grown

theorem progress_start (begins : origin.Begins thread) {command : Command}
    (alone : ∀ context threads, command ≠ .runThreads context threads) :
    Progress session origin (thread.start command session).1 (thread.start command session).2
      (session.happenings origin command) := by
  have same := (Session.Keeps.refl session).grown
  cases command with
  | act action => exact begins.act action
  | runThreads context threads => exact absurd rfl (alone context threads)
  | panic text =>
    rw [Thread.start, begins.unwind_eq]
    exact origin.progress_unwind (.refl session) text
  | post context name body =>
    simp only [Thread.start, Session.happenings, Session.arrivals, Session.panics, if_false,
      List.append_nil, Bool.false_eq_true]
    cases session.contexts.get? context with
    | none => exact begins.delivers same .nothing
    | some context => exact begins.delivers (session.system.grown_post context _) .nothing
  | dispatch context name body =>
    simp only [Thread.start, Session.happenings, Session.arrivals, Session.panics, if_false,
      List.append_nil, Bool.false_eq_true, begins.running]
    cases session.contexts.get? context with
    | none => exact begins.delivers same .nothing
    | some context =>
      dsimp only
      split
      next => exact begins.pushes rfl same
      next => exact begins.delivers (session.system.grown_post context _) .nothing
  | submit target request buffers gate name body =>
    simp only [Thread.start, Session.happenings, Session.panics, if_false, List.append_nil,
      Bool.false_eq_true]
    have submitted := session.grown_submitted origin target request buffers gate name body
    cases gate with
    | none => exact begins.delivers submitted .nothing
    | some gate => exact begins.pushes rfl submitted
  | drive context drive =>
    simp only [Thread.start, Session.happenings, Session.arrivals, Session.panics, if_false,
      List.append_nil, Bool.false_eq_true]
    cases session.contexts.get? context with
    | none => exact begins.delivers same .nothing
    | some context => exact begins.pushes rfl same
  | remoteRun context posts =>
    simp only [Thread.start, Session.happenings, Session.arrivals, Session.panics, if_false,
      List.append_nil, Bool.false_eq_true]
    cases session.contexts.get? context with
    | none => exact begins.delivers same .nothing
    | some context => exact begins.pushes rfl (session.grown_remoteRun context posts)

end

def Thread.Runs (thread : Thread) : Prop :=
  ∃ context, thread = { frames := [.driving context .run 0] }

/-- What becomes of a machine when one of its threads moves. Threads that run a context may come. -/
inductive Moved (machine : Machine) (index : Nat) (thread : Thread) (later : Machine)
    (happenings : List Happening) : Prop
  | moves {next : Thread} {started : List Thread}
      (progress : Progress machine.session thread later.session next happenings)
      (threads : later.threads = machine.threads.set index next ++ started)
      (runs : ∀ other ∈ started, other.Runs)

/-- What an event makes of a machine: a thread moves, or a new one comes and moves at once, or only
a worker does something. -/
inductive Reaction (machine : Machine) : Machine → List Happening → Prop
  | moved {later : Machine} {index : Nat} {thread : Thread} {happenings : List Happening}
      (found : machine.threads[index]? = some thread)
      (moved : Moved machine index thread later happenings) : Reaction machine later happenings
  | came {later : Machine} {next : Thread} {started : List Thread}
      {happenings : List Happening}
      (progress : Progress machine.session {} later.session next happenings)
      (threads : later.threads = machine.threads ++ next :: started)
      (runs : ∀ other ∈ started, other.Runs) : Reaction machine later happenings
  | worked {later : Machine} {arrivals : List (Arrival Handler)}
      (grown : machine.session.system.Grown arrivals later.session.system)
      (threads : later.threads = machine.threads) :
      Reaction machine later (arrivals.map .queued)

namespace Machine

variable {machine : Machine} {index : Nat} {thread origin : Thread}

theorem moved_put {next : Session × Thread} {happenings : List Happening}
    (progress : Progress machine.session thread next.1 next.2 happenings) :
    Moved machine index thread (machine.put index next) happenings :=
  .moves progress (List.append_nil _).symm (by simp)

theorem moved_start (begins : origin.Begins thread) (command : Command) :
    Moved machine index origin (machine.start index thread command)
      (machine.session.happenings origin command) := by
  have same := (Session.Keeps.refl machine.session).grown
  cases command with
  | runThreads context count =>
    simp only [start]
    cases machine.session.contexts.get? context with
    | none => exact moved_put (begins.delivers same .nothing)
    | some context =>
      refine .moves (begins.pushes rfl same) rfl ?_
      intro other member
      exact ⟨context, (List.mem_replicate.mp member).2⟩
  | _ => exact moved_put (progress_start begins (by simp))

theorem progress_top {session later : Session} {next : Thread} {frame : Frame}
    {rest calls : List Frame} (before : thread.frames = frame :: rest) (plain : frame.isPlain)
    (after : next.frames = calls ++ rest) (begun : ∀ call ∈ calls, call.isCall)
    (running : next.running = thread.running) (keeps : session.Keeps later) :
    Progress session thread later next [] := by
  have found : thread.frames = [frame] ++ rest := before
  have nothing : ([] : List Happening) = ([] : List (Arrival Handler)).map .queued := rfl
  rw [nothing]
  exact .plain found (by simp) (by simpa using plain) after begun running keeps.grown

theorem progress_leaves {session later : Session} {frame : Frame} {rest : List Frame}
    (before : thread.frames = frame :: rest) (plain : frame.isPlain)
    (keeps : session.Keeps later) (reply : Reply) :
    Progress session thread (({ thread with frames := rest } : Thread).deliver reply later).1
      (({ thread with frames := rest } : Thread).deliver reply later).2 [] := by
  have after : (({ thread with frames := rest } : Thread).deliver reply later).2.frames =
      [] ++ rest := by simp
  refine progress_top before plain after (by simp) (by simp) ?_
  rw [Session.Keeps, Thread.deliver_system]
  exact keeps

theorem keeps_exchangeStep {session later : Session} {handle : FileHandle} {exchange : Exchange}
    {stalled : Option Stalled} {attempt : Attempt}
    (stepped : session.exchangeStep? handle exchange stalled = some (attempt, later)) :
    session.Keeps later := by
  cases stalled with
  | none =>
    cases stepped
    exact .refl session
  | some call =>
    obtain ⟨_, _, same⟩ := Option.map_eq_some_iff.mp stepped
    cases same
    exact .refl session

theorem moved_driving {later : Machine} {context : ContextId} {drive : Drive} {count : Nat}
    {rest : List Frame} (found : machine.threads[index]? = some thread)
    (before : thread.frames = .driving context drive count :: rest)
    (stepped : machine.step? index = some later) :
    Moved machine index thread later (machine.stepHappenings thread) := by
  have returns (why : drive.isSingle = true ∧ 0 < count ∨
        ((machine.session.system.context? context).getD {}).turn = .leave ∨
        ((machine.session.system.context? context).getD {}).turn = .wait ∧ drive.waits = false) :
      Moved machine index thread
        (machine.put index
          (({ thread with frames := rest } : Thread).deliver (.number count) machine.session))
        [.returned context count] :=
    moved_put (.returns before why rfl)
  simp only [step?, found] at stepped
  split at stepped
  next => cases stepped
  next =>
    simp only [before] at stepped
    simp only [stepHappenings, before]
    split at stepped
    next single =>
      cases stepped
      rw [if_pos single]
      simp only [Bool.and_eq_true, decide_eq_true_eq] at single
      exact returns (.inl single)
    next more =>
      rw [if_neg more]
      have first : drive.isSingle = true → count = 0 := by
        intro single
        simpa [single] using more
      cases turn : ((machine.session.system.context? context).getD {}).turn with
      | take invocation left =>
        simp only [turn, Option.some.injEq] at stepped
        subst stepped
        exact moved_put (.takes before first turn (by simp [Thread.call, Thread.push])
          (by simp [Thread.call, Thread.push]) rfl)
      | leave =>
        simp only [turn, Option.some.injEq] at stepped
        subst stepped
        exact returns (.inr (.inl turn))
      | wait =>
        simp only [turn] at stepped
        split at stepped
        next => cases stepped
        next leaves =>
          cases stepped
          exact returns (.inr (.inr ⟨turn, Bool.eq_false_iff.mpr leaves⟩))

theorem moved_body {later : Machine} {name : Name} {commands : List Command} {rest : List Frame}
    (found : machine.threads[index]? = some thread)
    (before : thread.frames = .body name commands :: rest)
    (stepped : machine.step? index = some later) :
    Moved machine index thread later (machine.stepHappenings thread) := by
  have same := Session.Keeps.refl machine.session
  simp only [step?, found] at stepped
  split at stepped
  next => cases stepped
  next =>
    cases commands with
    | nil =>
      simp only [before] at stepped
      simp only [stepHappenings, before]
      split at stepped
      next context below =>
        cases stepped
        have after : ({ thread with frames := .serving context :: below } : Thread).frames =
            [] ++ .serving context :: below := rfl
        exact moved_put (progress_top before rfl after (by simp) rfl same)
      next =>
        cases stepped
        exact moved_put (progress_leaves before rfl same .nothing)
    | cons command commands =>
      simp only [before, Option.some.injEq] at stepped
      simp only [stepHappenings, before]
      subst stepped
      have begins : thread.Begins { thread with frames := .body name commands :: rest } :=
        .body rfl before rfl
      exact moved_start begins command

theorem moved_serving {later : Machine} {context : ContextId} {rest : List Frame}
    (found : machine.threads[index]? = some thread)
    (before : thread.frames = .serving context :: rest)
    (stepped : machine.step? index = some later) :
    Moved machine index thread later (machine.stepHappenings thread) := by
  simp only [step?, found] at stepped
  split at stepped
  next => cases stepped
  next =>
    simp only [before, Option.some.injEq] at stepped
    simp only [stepHappenings, before]
    subst stepped
    exact moved_put (.serves before rfl rfl rfl)

theorem moved_waiting {later : Machine} {wait : Wait} {reply : Reply}
    {inUse : Option ServiceId} {rest : List Frame}
    (found : machine.threads[index]? = some thread)
    (before : thread.frames = .waiting wait reply inUse :: rest)
    (stepped : machine.step? index = some later) :
    Moved machine index thread later (machine.stepHappenings thread) := by
  simp only [step?, found] at stepped
  split at stepped
  next => cases stepped
  next =>
    simp only [before] at stepped
    simp only [stepHappenings, before]
    split at stepped
    next =>
      cases inUse with
      | none =>
        cases stepped
        exact moved_put (progress_leaves before rfl (.refl machine.session) reply)
      | some service =>
        have dropped := (System.calm_dropReference machine.session.system service).sameQueues
        cases stepped
        exact moved_put (progress_top before rfl List.singleton_append.symm
          (by simp [Frame.isCall]) rfl dropped)
    next => cases stepped

theorem moved_exchanging {later : Machine} {handle : FileHandle} {exchange : Exchange}
    {stalled : Option Stalled} {rest : List Frame}
    (found : machine.threads[index]? = some thread)
    (before : thread.frames = .exchanging handle exchange stalled :: rest)
    (stepped : machine.step? index = some later) :
    Moved machine index thread later (machine.stepHappenings thread) := by
  simp only [step?, found] at stepped
  split at stepped
  next => cases stepped
  next =>
    simp only [before] at stepped
    simp only [stepHappenings, before]
    split at stepped
    next => cases stepped
    next call session attempted =>
      cases stepped
      exact moved_put (progress_top before rfl List.singleton_append.symm
        (by simp [Frame.isCall]) rfl (keeps_exchangeStep attempted))
    next result buffers session attempted =>
      have keeps := keeps_exchangeStep attempted
      split at stepped
      next reply _ =>
        cases stepped
        exact moved_put (progress_leaves before rfl keeps reply)
      next exchange _ =>
        cases stepped
        exact moved_put (progress_top before rfl List.singleton_append.symm
          (by simp [Frame.isCall]) rfl keeps)

theorem moved_gathering {later : Machine} {others : List Nat} {rest : List Frame}
    (found : machine.threads[index]? = some thread)
    (before : thread.frames = .gathering others :: rest)
    (stepped : machine.step? index = some later) :
    Moved machine index thread later (machine.stepHappenings thread) := by
  simp only [step?, found] at stepped
  split at stepped
  next => cases stepped
  next =>
    simp only [before] at stepped
    simp only [stepHappenings, before]
    cases gathered : others.mapM fun other => (machine.threads[other]?).bind Thread.result with
    | none => simp [gathered] at stepped
    | some replies =>
      simp only [gathered] at stepped
      dsimp only
      cases panicked : replies.findSome? Reply.panic? with
      | some text =>
        simp only [panicked, Option.some.injEq] at stepped
        subst stepped
        rw [← before]
        exact moved_put (thread.progress_unwind (.refl machine.session) text)
      | none =>
        simp only [panicked, Option.some.injEq] at stepped
        subst stepped
        exact moved_put (progress_leaves before rfl (.refl machine.session) _)

theorem moved_step {later : Machine} (found : machine.threads[index]? = some thread)
    (stepped : machine.step? index = some later) :
    Moved machine index thread later (machine.stepHappenings thread) := by
  cases before : thread.frames with
  | nil => simp [step?, found, before] at stepped
  | cons frame rest =>
    cases frame with
    | body name commands => exact moved_body found before stepped
    | serving context => exact moved_serving found before stepped
    | driving context drive count => exact moved_driving found before stepped
    | waiting wait reply inUse => exact moved_waiting found before stepped
    | exchanging handle exchange stalled => exact moved_exchanging found before stepped
    | gathering others => exact moved_gathering found before stepped

theorem reaction_nothing (machine : Machine) : Reaction machine machine [] :=
  .worked (Session.Keeps.refl machine.session).grown rfl

theorem progress_choose (thread : Thread) (session : Session) (commands : List Command) :
    Progress session thread session (thread.choose commands) [] := by
  have same := Session.Keeps.refl session
  rw [Thread.choose]
  split
  next name earlier rest before =>
    exact progress_top before rfl List.singleton_append.symm (by simp [Frame.isCall]) rfl same
  next =>
    have before : thread.frames = [] ++ thread.frames := rfl
    exact .plain before (by simp) (by simp) before (by simp) rfl same.grown

theorem reaction (machine : Machine) (event : Event) :
    Reaction machine (machine.react event) (machine.happenings event) := by
  have same := (Session.Keeps.refl machine.session).grown
  cases event with
  | spawn name commands =>
    have before : ({} : Thread).frames = [] ++ [] := rfl
    have progress : Progress machine.session {} machine.session
        { frames := [.body name commands] } (([] : List (Arrival Handler)).map .queued) :=
      .plain before (by simp) (by simp) (List.append_nil _).symm (by simp [Frame.isCall]) rfl same
    exact .came progress rfl (by simp)
  | ask command =>
    have begins : ({} : Thread).Begins {} := .asked rfl rfl rfl
    have moved : Moved { machine with threads := machine.threads ++ [({} : Thread)] }
        machine.threads.length {} (machine.react (.ask command))
        (machine.session.happenings {} command) := moved_start begins command
    cases moved with
    | moves progress threads runs =>
      refine .came progress (threads.trans ?_) runs
      rw [List.set_append_right _ _ (Nat.le_refl _), Nat.sub_self, List.set_cons_zero,
        List.append_assoc]
      rfl
  | choose index commands =>
    simp only [react, happenings]
    cases found : machine.threads[index]? with
    | none => exact machine.reaction_nothing
    | some thread => exact .moved found (moved_put (progress_choose thread _ commands))
  | step index =>
    simp only [react, happenings]
    cases stepped : machine.step? index with
    | none =>
      cases machine.threads[index]? <;> exact machine.reaction_nothing
    | some later =>
      cases found : machine.threads[index]? with
      | none => simp [step?, found] at stepped
      | some thread => exact .moved found (moved_step found stepped)
  | work service worker =>
    simp only [react, happenings]
    cases stepped : machine.session.system.workerStep? machine.session.isHeld service worker with
    | none => exact machine.reaction_nothing
    | some system => exact .worked (System.grown_workerStep stepped) rfl
  | panic index text kept =>
    simp only [react, happenings]
    cases found : machine.threads[index]? with
    | none => exact machine.reaction_nothing
    | some thread =>
      dsimp only
      split
      next => exact machine.reaction_nothing
      next =>
        exact .moved found (moved_put (thread.progress_unwindTo (.refl machine.session) kept text))

theorem step_body {name : Name} {command : Command} {commands : List Command} {rest : List Frame}
    (found : machine.threads[index]? = some thread) (active : thread.result = none)
    (before : thread.frames = .body name (command :: commands) :: rest) :
    machine.step? index = some (machine.start index
      { thread with frames := .body name commands :: rest } command) := by
  simp [step?, found, active, before]

end Machine

end AsyncFiles.Script
