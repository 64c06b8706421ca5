import AsyncFiles.Proofs.Forests.Alone
import AsyncFiles.Proofs.Forests.Growth

namespace AsyncFiles.Script

open Error Host

mutual

/-- What a command leaves in the log, the handler that it dispatches before its own answer. -/
def Command.trace : Command → Name → List Entry
  | .post _ _ _, handler => [.answered handler .nothing]
  | .dispatch _ name body, handler =>
    .called name none :: (traces body name ++ [.answered handler .nothing])
  | _, _ => []

def traces : List Command → Name → List Entry
  | [], _ => []
  | command :: rest, handler => command.trace handler ++ traces rest handler

end

mutual

/-- The steps that a body takes while it is on the stack. -/
def Command.steps : Command → Nat
  | .post _ _ _ => 1
  | .dispatch _ _ body => 1 + stepsOf body + 1
  | _ => 0

def stepsOf : List Command → Nat
  | [] => 0
  | command :: rest => command.steps + stepsOf rest

end

/-- A context with handlers at the end of its queue. -/
def sown (found : Context (Invocation Handler)) (handlers : List Handler) :
    Context (Invocation Handler) :=
  { found with
    queue := found.queue ++ handlers.map fun handler => { handler }
    outstanding := found.outstanding + handlers.length }

variable {session : Session} {context : ContextId} {found : Context (Invocation Handler)}
  {log : List Entry} {commands rest body : List Command} {name child handler : Name}
  {frames : List Frame} {running : List ContextId}

theorem step_post (own : session.contexts.get? name = some context) :
    ((session.having context found log).alone
      ⟨.body handler (.post name child body :: rest) :: frames, running, none⟩).step? 0 =
      some ((session.having context (found.post { handler := { name := child, body } })
        (log ++ [.answered handler .nothing])).alone
          ⟨.body handler rest :: frames, running, none⟩) := by
  have named : (session.having context found log).contexts.get? name = some context := own
  simp [Machine.step?, Session.alone, Machine.start, Machine.put, Thread.start, named,
    Session.having_post, Thread.deliver, Session.having_note]

theorem step_dispatch (own : session.contexts.get? name = some context)
    (inside : context ∈ running) :
    ((session.having context found log).alone
      ⟨.body handler (.dispatch name child body :: rest) :: frames, running, none⟩).step? 0 =
      some ((session.having context found (log ++ [.called child none])).alone
        ⟨.body child body :: .body handler rest :: frames, running, none⟩) := by
  have named : (session.having context found log).contexts.get? name = some context := own
  simp [Machine.step?, Session.alone, Machine.start, Machine.put, Thread.start, named, inside,
    Thread.call, Thread.push, Session.having_note]

theorem step_back :
    ((session.having context found log).alone
      ⟨.body child [] :: .body handler rest :: frames, running, none⟩).step? 0 =
      some ((session.having context found (log ++ [.answered handler .nothing])).alone
        ⟨.body handler rest :: frames, running, none⟩) := by
  simp [Machine.step?, Session.alone, Machine.put, Thread.deliver, Session.having_note]

theorem sown_nil (found : Context (Invocation Handler)) : sown found [] = found := by
  simp [sown]

theorem sown_sown (first second : List Handler) :
    sown (sown found first) second = sown found (first ++ second) := by
  simp [sown, Nat.add_assoc]

/-- A body runs to its end. What it posts, and what the handlers that it dispatches post, stands at
the end of the queue then, in the order of the posts. -/
theorem runs_body (rests : session.Rests) (inside : context ∈ running)
    (plants : Plants session.contexts context commands) :
    ((session.having context found log).alone
      ⟨.body handler commands :: frames, running, none⟩).RunsTo (stepsOf commands)
      ((session.having context (sown found (seeds commands)) (log ++ traces commands handler)).alone
        ⟨.body handler [] :: frames, running, none⟩) := by
  induction plants generalizing found log handler frames with
  | nothing =>
    simp only [seeds, traces, sown_nil, List.append_nil]
    exact .refl _
  | post own _ _ _ onwards =>
    simp only [stepsOf, Command.steps, seeds, Command.seeds, traces, Command.trace]
    rw [← sown_sown, ← List.append_assoc]
    exact (rests.runs_step (step_post own)).trans onwards
  | @dispatch name child body rest own _ _ called onwards =>
    -- The body of the dispatched handler runs to its end before the rest of this one.
    have logged : log ++ traces (.dispatch name child body :: rest) handler =
        log ++ [.called child none] ++ traces body child ++ [.answered handler .nothing] ++
          traces rest handler := by simp [traces, Command.trace]
    simp only [stepsOf, Command.steps, seeds, Command.seeds]
    rw [logged, ← sown_sown]
    exact (((rests.runs_step (step_dispatch own inside)).trans called).trans
      (rests.runs_step step_back)).trans onwards

/-- What serving a handler of the queue leaves in the log. -/
def chronicle (invocation : Invocation Handler) : List Entry :=
  .called invocation.handler.name invocation.completion ::
    traces invocation.handler.body invocation.handler.name

/-- A bound on the steps that a handler of the queue takes, with all that come of it. -/
def bound (invocation : Invocation Handler) : Nat := 5 + weights invocation.handler.body

theorem steps_le_weights (plants : Plants session.contexts context commands) :
    stepsOf commands + ((seeds commands).map fun handler => 5 + weights handler.body).sum ≤
      weights commands := by
  induction plants with
  | nothing => simp [stepsOf, seeds]
  | post _ _ _ _ onwards =>
    simp only [stepsOf, Command.steps, seeds, Command.seeds, weights, Command.weight,
      List.map_append, List.sum_append, List.map_cons, List.map_nil, List.sum_cons, List.sum_nil]
    omega
  | dispatch _ _ _ called onwards =>
    simp only [stepsOf, Command.steps, seeds, Command.seeds, weights, Command.weight,
      List.map_append, List.sum_append]
    omega

theorem brood_le_bound {invocation : Invocation Handler}
    (plants : Plants session.contexts context invocation.handler.body) :
    1 + stepsOf invocation.handler.body + 1 + 1 + ((brood invocation).map bound).sum ≤
      bound invocation := by
  have few := steps_le_weights plants
  have same : ((brood invocation).map bound).sum =
      ((seeds invocation.handler.body).map fun handler => 5 + weights handler.body).sum := by
    rw [brood, List.map_map]
    rfl
  rw [same, bound]
  omega

def Session.looking (session : Session) (context : ContextId) (drive : Drive)
    (found : Context (Invocation Handler)) (log : List Entry) (count : Nat) : Machine :=
  (session.having context found log).alone ⟨[.driving context drive count], [], none⟩

section

variable {invocation : Invocation Handler} {left : List (Invocation Handler)} {drive : Drive}
  {count : Nat}

theorem step_served :
    ((session.having context found log).alone
      ⟨.body handler [] :: .serving context :: frames, running, none⟩).step? 0 =
      some ((session.having context found log).alone
        ⟨.serving context :: frames, running, none⟩) := by
  simp [Machine.step?, Session.alone, Machine.put]

theorem step_count :
    ((session.having context found log).alone
      ⟨[.serving context, .driving context drive count], [context], none⟩).step? 0 =
      some (session.looking context drive found.workFinished log (count + 1)) := by
  simp [Machine.step?, Session.alone, Session.looking, Machine.put, Thread.countServed,
    Session.having_workFinished]

variable (rests : session.Rests)
  (present : ∃ before, session.system.context? context = some before)
  (runs : found.stopped = false) (many : drive.isSingle = false)

include present runs many

theorem step_take (queued : found.queue = invocation :: left) :
    (session.looking context drive found log count).step? 0 =
      some ((session.having context { found with queue := left }
        (log ++ [.called invocation.handler.name invocation.completion])).alone
          ⟨[.body invocation.handler.name invocation.handler.body, .serving context,
            .driving context drive count], [context], none⟩) := by
  obtain ⟨before, there⟩ := present
  have turn : found.turn = .take invocation { found with queue := left } := by
    simp [Context.turn, runs, queued]
  have standing : (session.having context found log).system.context? context = some found :=
    Session.context_having there
  simp [Machine.step?, Session.alone, Session.looking, Machine.put, many, standing, turn,
    Session.having_change, Thread.call, Thread.push, Session.having_note]

include rests

/-- A handler of the queue is served. What is outstanding beside the queue stays outstanding. -/
theorem runs_serve (log : List Entry) (count : Nat) (queued : found.queue = invocation :: left)
    (plants : Plants session.contexts context invocation.handler.body) :
    ∃ outstanding,
      outstanding - (left ++ brood invocation).length = found.outstanding - found.queue.length ∧
      (session.looking context drive found log count).RunsTo
        (1 + stepsOf invocation.handler.body + 1 + 1)
        (session.looking context drive
          { found with queue := left ++ brood invocation, outstanding }
          (log ++ chronicle invocation) (count + 1)) := by
  have logged : log ++ chronicle invocation =
      log ++ [.called invocation.handler.name invocation.completion] ++
        traces invocation.handler.body invocation.handler.name := by simp [chronicle]
  have finished : { found with
        queue := left ++ brood invocation
        outstanding := found.outstanding + (brood invocation).length - 1 } =
      (sown { found with queue := left } (seeds invocation.handler.body)).workFinished := by
    simp [sown, brood, Context.workFinished]
  refine ⟨found.outstanding + (brood invocation).length - 1, ?_, ?_⟩
  · simp only [queued, List.length_append, List.length_cons]
    omega
  · have inside : context ∈ [context] := List.mem_singleton_self context
    rw [logged, finished]
    exact (((rests.runs_step (step_take present runs many queued)).trans
      (runs_body rests inside plants)).trans (rests.runs_step step_served)).trans
        (rests.runs_step step_count)

/-- What stands in front in the queue is served; what it posts comes after all else. -/
theorem runs_level (log : List Entry) (count : Nat) {level behind : List (Invocation Handler)}
    (queued : found.queue = level ++ behind)
    (plants : ∀ invocation ∈ level, Plants session.contexts context invocation.handler.body) :
    ∃ outstanding steps,
      outstanding - (behind ++ level.flatMap brood).length =
        found.outstanding - found.queue.length ∧
      steps + ((level.flatMap brood).map bound).sum ≤ (level.map bound).sum ∧
      (session.looking context drive found log count).RunsTo steps
        (session.looking context drive
          { found with queue := behind ++ level.flatMap brood, outstanding }
          (log ++ level.flatMap chronicle) (count + level.length)) := by
  induction level generalizing found log count behind with
  | nil =>
    obtain rfl : found.queue = behind := queued
    refine ⟨found.outstanding, 0, by simp, by simp, ?_⟩
    simp only [List.flatMap_nil, List.append_nil, List.length_nil, Nat.add_zero]
    exact .refl _
  | cons first level ih =>
    have own := plants first List.mem_cons_self
    have others (invocation : Invocation Handler) (listed : invocation ∈ level) :=
      plants invocation (List.mem_cons_of_mem first listed)
    obtain ⟨between, kept, serves⟩ := runs_serve rests present runs many log count queued own
    let next : Context (Invocation Handler) :=
      { found with queue := level ++ behind ++ brood first, outstanding := between }
    -- What the first handler posted comes to stand behind what stood behind the level.
    have regrouped : next.queue = level ++ (behind ++ brood first) := List.append_assoc ..
    have lively : next.stopped = false := runs
    obtain ⟨outstanding, steps, spared, few, onwards⟩ :=
      ih lively (log ++ chronicle first) (count + 1) regrouped others
    refine ⟨outstanding, 1 + stepsOf first.handler.body + 1 + 1 + steps, ?_, ?_, ?_⟩
    · rw [List.flatMap_cons, ← List.append_assoc, spared, ← kept]
      rfl
    · have spent := brood_le_bound own
      simp only [List.flatMap_cons, List.map_append, List.sum_append, List.map_cons,
        List.sum_cons]
      omega
    · have counted : count + (first :: level).length = count + 1 + level.length := by
        rw [List.length_cons]
        omega
      simp only [List.flatMap_cons, ← List.append_assoc, counted]
      exact serves.trans onwards

end

theorem runs_generations {drive : Drive} {depth : Nat} {queue : List (Invocation Handler)}
    (plants : ∀ invocation ∈ queue, Plants session.contexts context invocation.handler.body)
    (rests : session.Rests) (present : ∃ before, session.system.context? context = some before)
    (runs : found.stopped = false) (many : drive.isSingle = false) (queued : found.queue = queue)
    (log : List Entry) (count : Nat) (last : generation depth queue = []) :
    ∃ steps, steps ≤ (queue.map bound).sum ∧
      (session.looking context drive found log count).RunsTo steps
        (session.looking context drive
          { found with queue := [], outstanding := found.outstanding - found.queue.length }
          (log ++ (generations depth queue).flatMap chronicle)
          (count + (generations depth queue).length)) := by
  induction depth generalizing found queue log count with
  | zero =>
    obtain rfl : queue = [] := last
    have same : { found with
        queue := [], outstanding := found.outstanding - found.queue.length } = found := by
      cases found
      cases queued
      rfl
    refine ⟨0, Nat.le_refl 0, ?_⟩
    simp only [same, generations, List.range_zero, List.flatMap_nil, List.append_nil,
      List.length_nil, Nat.add_zero]
    exact .refl _
  | succ depth ih =>
    have whole : found.queue = queue ++ [] := by rw [queued, List.append_nil]
    obtain ⟨outstanding, few, spared, bounded, serves⟩ :=
      runs_level rests present runs many log count whole plants
    have lively : ({ found with queue := [] ++ queue.flatMap brood, outstanding } :
      Context (Invocation Handler)).stopped = false := runs
    obtain ⟨more, enough, onwards⟩ := ih (plants_brood plants) lively rfl
      (log ++ queue.flatMap chronicle) (count + queue.length) last
    refine ⟨few + more, by omega, ?_⟩
    rw [generations_succ, List.flatMap_append, List.length_append, ← List.append_assoc,
      ← Nat.add_assoc, ← spared]
    exact serves.trans onwards

theorem bound_le_weight (present : session.system.context? context = some found) :
    (found.queue.map bound).sum ≤ session.weight := by
  have lighter (queue : List (Invocation Handler)) :
      (queue.map bound).sum ≤ (queue.map fun invocation => invocation.handler.weight).sum := by
    induction queue with
    | nil => exact Nat.le_refl 0
    | cons first queue ih =>
      simp only [List.map_cons, List.sum_cons, bound, Handler.weight] at ih ⊢
      omega
  obtain ⟨front, back, all⟩ := List.append_of_mem (List.mem_of_getElem? present)
  have own := lighter found.queue
  simp only [Session.weight, ← List.sum_eq_foldl, all, List.flatMap_append, List.flatMap_cons,
    List.map_append, List.sum_append]
  omega

section

variable {drive : Drive} {count : Nat}
  (present : ∃ before, session.system.context? context = some before)
  (runs : found.stopped = false) (many : drive.isSingle = false) (empty : found.queue = [])

include present runs many empty

theorem step_return (ends : found.outstanding = 0 ∨ drive.waits = false) :
    (session.looking context drive found log count).step? 0 =
      some ((session.having context found log).alone ⟨[], [], some (.number count)⟩) := by
  obtain ⟨before, there⟩ := present
  have standing : (session.having context found log).system.context? context = some found :=
    Session.context_having there
  by_cases idle : found.outstanding = 0
  · have turn : found.turn = .leave := by simp [Context.turn, runs, empty, idle]
    simp [Machine.step?, Session.alone, Session.looking, many, standing, turn, Machine.put,
      Thread.deliver]
  · have turn : found.turn = .wait := by simp [Context.turn, runs, empty, idle]
    simp [Machine.step?, Session.alone, Session.looking, many, standing, turn, Machine.put,
      Thread.deliver, ends.resolve_left idle]

theorem step_wait (busy : found.outstanding ≠ 0) (waits : drive.waits = true) :
    (session.looking context drive found log count).step? 0 = none := by
  obtain ⟨before, there⟩ := present
  have standing : (session.having context found log).system.context? context = some found :=
    Session.context_having there
  have turn : found.turn = .wait := by simp [Context.turn, runs, empty, busy]
  simp [Machine.step?, Session.alone, Session.looking, many, standing, turn, waits]

end

theorem perform_drive {drive : Drive} (named : session.contexts.get? name = some context)
    (present : session.system.context? context = some found) (rests : session.Rests) :
    session.perform (.drive name drive) =
      let ended := (session.looking context drive found [] 0).run (session.weight + 8)
      (((ended.threads[0]?).bind Thread.result).getD .stuck, ended.session.log, ended.session) := by
  have cleared : ({ session with log := [] } : Session).contexts.get? name = some context := named
  have there : ({ session with log := [] } : Session).system.context? context = some found :=
    present
  have same : session.having context found [] = { session with log := [] } :=
    Session.having_self there
  have idle : ({ session with log := [] } : Session).work = { session with log := [] } := by
    rw [← same]
    exact Session.work_of_rests (Session.rests_having rests)
  simp only [Session.perform, Machine.start, Thread.start, cleared, Thread.push, Machine.put,
    List.set_cons_zero, idle, Session.looking, same, Session.alone, Command.weight]

section

variable (named : session.contexts.get? name = some context)
  (present : session.system.context? context = some found) (runs : found.stopped = false)
  (rests : session.Rests)
  (plants : ∀ invocation ∈ found.queue,
    Plants session.contexts context invocation.handler.body)

include named present runs rests plants

theorem perform_forest {drive : Drive} (many : drive.isSingle = false) {depth : Nat}
    (last : generation depth found.queue = []) :
    let log := (generations depth found.queue).flatMap chronicle
    session.perform (.drive name drive) =
      (if found.outstanding ≤ found.queue.length ∨ drive.waits = false then
          .number (generations depth found.queue).length
        else .stuck,
        log, session.having context
          { found with queue := [], outstanding := found.outstanding - found.queue.length }
          log) := by
  intro log
  have there : ∃ before, session.system.context? context = some before := ⟨found, present⟩
  obtain ⟨steps, few, serves⟩ := runs_generations plants rests there runs many rfl [] 0 last
  have light := bound_le_weight present
  rw [List.nil_append, Nat.zero_add] at serves
  let done : Context (Invocation Handler) :=
    { found with queue := [], outstanding := found.outstanding - found.queue.length }
  have lively : done.stopped = false := runs
  rw [perform_drive named present rests]
  by_cases ends : found.outstanding ≤ found.queue.length ∨ drive.waits = false
  · have idle : done.outstanding = 0 ∨ drive.waits = false :=
      ends.imp_left Nat.sub_eq_zero_of_le
    have returned := serves.trans (rests.runs_step (step_return there lively many rfl idle))
    rw [returned.run_eq (Session.halted_alone rfl) (by omega), if_pos ends]
    rfl
  · obtain ⟨more, waits⟩ := not_or.mp ends
    have busy : done.outstanding ≠ 0 := Nat.sub_ne_zero_of_lt (Nat.not_le.mp more)
    have patient : drive.waits = true := by simpa using waits
    rw [serves.run_eq (Session.halted_alone (step_wait there lively many rfl busy patient))
      (by omega), if_neg ends]
    rfl

end

/-- Forests are served breadth first. Polling a context whose queue holds a forest returns how many
handlers went through the queue: those that stood in it and those that were put into it, one
generation after the other, while handlers that were dispatched ran on the spot. The queue is empty
then, and as many handlers as stood in it are not outstanding any more. Running the context does the
same, and returns if nothing else is outstanding. -/
theorem forest_served (named : session.contexts.get? name = some context)
    (present : session.system.context? context = some found) (runs : found.stopped = false)
    (rests : session.Rests)
    (plants : ∀ invocation ∈ found.queue,
      Plants session.contexts context invocation.handler.body) :
    (∃ depth, generation depth found.queue = []) ∧
    ∀ depth, generation depth found.queue = [] →
      let count := (generations depth found.queue).length
      let log := (generations depth found.queue).flatMap chronicle
      let later := session.having context
        { found with queue := [], outstanding := found.outstanding - found.queue.length } log
      count = (found.queue.map grain).sum ∧
      session.perform (.drive name .poll) = (.number count, log, later) ∧
      session.perform (.drive name .run) =
        (if found.outstanding ≤ found.queue.length then .number count else .stuck, log, later) := by
  refine ⟨dies_out plants, fun depth last => ⟨length_generations plants last, ?_, ?_⟩⟩
  · rw [perform_forest named present runs rests plants rfl last, if_pos (.inr rfl)]
  · rw [perform_forest named present runs rests plants rfl last]
    simp [Drive.waits]

/-- Two handlers stand in a queue, and something else is outstanding. The first posts a leaf and
dispatches a branch, which posts a bud. -/
def orchard : Session where
  system :=
    { host := .fresh default
      contexts :=
        [{ queue :=
            [{ handler :=
                { name := "root"
                  body := [.post "c" "leaf" [], .dispatch "c" "branch" [.post "c" "bud" []]] } },
              { handler := { name := "second", body := [] } }]
           outstanding := 3 }] }
  contexts := ⟨[("c", 0)]⟩

/-- Polling calls the branch on the spot and the bud last; running waits for something else. -/
theorem served_orchard :
    ∃ log later, orchard.perform (.drive "c" .poll) = (.number 4, log, later) ∧
      log =
        [.called "root" none, .answered "root" .nothing, .called "branch" none,
          .answered "branch" .nothing, .answered "root" .nothing, .called "second" none,
          .called "leaf" none, .called "bud" none] ∧
      later.system.contexts = [{ queue := [], outstanding := 1 }] ∧
      (orchard.perform (.drive "c" .run)).1 = .stuck := by
  have named : orchard.contexts.get? "c" = some 0 := rfl
  have rests : orchard.Rests := rfl
  have present : orchard.system.context? 0 = some _ := rfl
  obtain ⟨-, serves⟩ := forest_served named present rfl rests (by
    intro invocation listed
    rcases List.mem_cons.mp listed with rfl | later
    · exact .post rfl .nothing (.dispatch rfl (.post rfl .nothing .nothing) .nothing)
    · obtain rfl := List.mem_singleton.mp later
      exact .nothing)
  obtain ⟨-, polls, runs⟩ := serves 2 rfl
  exact ⟨_, _, polls, rfl, rfl, congrArg Prod.fst runs⟩

end AsyncFiles.Script
