import AsyncFiles.Proofs.Work.Kept

namespace AsyncFiles.Ledger

open Error Host

variable {ledger later : Ledger} {context : ContextId}

theorem count_eraseIdx_of_ne {α : Type} [BEq α] [LawfulBEq α] {list : List α} {index : Nat}
    {value : α} (other : list[index]? ≠ some value) :
    (list.eraseIdx index).count value = list.count value := by
  induction list generalizing index with
  | nil => rfl
  | cons head rest ih =>
    cases index with
    | zero => simp_all
    | succ index => simp_all [List.count_cons]

namespace Kept

variable {program : Program}

theorem of_alike (kept : ledger.Kept) (desks : program.system.desks = ledger.program.system.desks)
    (invoked : program.invoked = ledger.program.invoked)
    (wider : ledger.program.system.contexts.length ≤ program.system.contexts.length)
    (alike : ∀ context,
      (program.system.view context).outstanding =
          (ledger.program.system.view context).outstanding ∧
        (program.system.view context).queue = (ledger.program.system.view context).queue) :
    { ledger with program }.Kept := by
  have tasks : program.system.tasks = ledger.program.system.tasks :=
    congrArg (List.flatMap Desk.tasks) desks
  refine ⟨kept.counted.of_same (fun context => ?_) fun context => ?_, kept.located.of_same rfl
    (congrArg (List.map Desk.context) desks) wider ?_ (fun context => (alike context).2)
    invoked fun _ member => member⟩
  · exact ⟨(alike context).1, congrArg List.length (alike context).2⟩
  · simp only [due, active, operationGuards, system, System.guards, tasks]
  · simp [system, System.operations, tasks]

theorem of_still (kept : ledger.Kept) (still : ledger.program.Still program) :
    { ledger with program }.Kept := by
  have views := System.view_congr still.calm.contexts
  exact kept.of_alike still.calm.desks still.invoked (Nat.le_of_eq (by rw [still.calm.contexts]))
    fun context => by rw [views]; exact ⟨rfl, rfl⟩

theorem create (kept : ledger.Kept) :
    { ledger with program := ledger.program.onContext .create }.Kept := by
  refine kept.of_alike rfl rfl (by simp [Program.onContext, System.newContext]) fun context => ?_
  rw [show (ledger.program.onContext .create).system.view context = _ from
    System.view_newContext _ context]
  exact ⟨rfl, rfl⟩

theorem flag (kept : ledger.Kept) (context : ContextId)
    {change : Context (Invocation Ticket) → Context (Invocation Ticket)}
    (same : ∀ found, (change found).outstanding = found.outstanding ∧
      (change found).queue = found.queue) :
    { ledger with program := { ledger.program with
      system := ledger.program.system.updateContext context change } }.Kept := by
  refine kept.of_alike rfl rfl (by simp [System.updateContext]) fun other => ?_
  simp only [System.view_updateContext]
  split
  · exact same _
  · exact ⟨rfl, rfl⟩

theorem post (kept : ledger.Kept) (context : ContextId) :
    { ledger with program := ledger.program.onContext (.post context) }.Kept := by
  by_cases bound : context < ledger.program.system.contexts.length
  · refine ⟨kept.counted.posted bound rfl fun _ => rfl, ?_⟩
    refine kept.located.posted rfl rfl bound rfl (fun _ own => by cases own)
      (fun _ member => member) rfl rfl (fun number before after found present => ?_)
      fun number before after found present answered => .inl ?_
    all_goals
      rw [show ledger.errands[number]? = some after from present, Option.some.injEq] at found
      subst found
    · rfl
    · exact answered
  · have same : ledger.program.onContext (.post context) = ledger.program := by
      have none : ledger.program.system.post context { handler := none } =
          ledger.program.system := by
        simp only [System.post, System.updateContext]
        rw [List.modify_eq_self (Nat.le_of_not_lt bound)]
      simp only [Program.onContext, none]
    rw [same]
    exact kept

theorem start (kept : ledger.Kept) {context : ContextId} {config : PoolConfig}
    (bound : context < ledger.program.system.contexts.length) :
    { ledger with program := ledger.program.onService (.start context config) }.Kept := by
  simp only [Program.onService]
  split
  next system started =>
    obtain ⟨pool, begun, rfl⟩ := System.started_service started
    have tasks := System.tasks_start ledger.program.system context config begun
    have homes := System.homes_start ledger.program.system context config pool
    refine ⟨kept.counted.of_same (fun _ => ⟨rfl, rfl⟩) fun other => ?_, kept.located.of_step rfl
      (fun service home found => ?_) (fun home member => ?_) (fun operation member => .inl ?_)
      kept.located.queued kept.located.called kept.located.ran
      (fun number before after found present _ => ?_)
      fun number before after found present answered => ?_⟩
    · simp only [due, active, operationGuards, Ledger.system, System.guards, tasks]
    · exact homes ▸ List.getElem?_append_left (List.getElem?_eq_some_iff.mp found).1 ▸ found
    · rcases List.mem_append.mp (homes ▸ member) with before | new
      · exact kept.located.existing home before
      · exact List.mem_singleton.mp new ▸ bound
    · simpa [Ledger.system, System.operations, tasks] using member
    · rw [show ledger.errands[number]? = some after from present, Option.some.injEq] at found
      simp only [found, places, Ledger.system, System.operations, tasks]
      rfl
    · have before := kept.located.apart number after present answered
      simpa [Ledger.system, System.operations, tasks] using before
  next => exact kept

theorem labored (kept : ledger.Kept) {system : System Ticket}
    (labored : ledger.system.Labored system) (homes : system.homes = ledger.system.homes) :
    (ledger.withSystem system).Kept := by
  cases labored with
  | passes operations guards contexts =>
    have views := System.view_congr contexts
    refine ⟨kept.counted.of_same (fun context => ?_) fun context => ?_, kept.located.of_same rfl
      homes (Nat.le_of_eq (congrArg List.length contexts).symm) operations
      (fun context => congrArg Context.queue (views context)) rfl fun _ member => member⟩
    · exact ⟨congrArg Context.outstanding (views context),
        congrArg (fun found => found.queue.length) (views context)⟩
    · simp only [due, active, operationGuards, withSystem, Ledger.system, guards.count_eq]
  | answers operation completion operations guards contexts =>
    have own : operation ∈ ledger.system.operations := operations.mem_iff.mp List.mem_cons_self
    obtain ⟨errand, known, same⟩ := kept.located.issued operation own
    subst same
    have bound := kept.located.bound_of_errand known
    refine ⟨kept.counted.posted bound contexts fun context => ?_, kept.located.posted rfl homes
      bound contexts (kept.located.routed_of_errand known) (fun other member => ?_) rfl rfl
      (fun number before after found present => ?_)
      fun number before after found present answered => .inl ?_⟩
    · simp only [due, active, operationGuards, withSystem, Ledger.system, guards.count_eq]
    · exact operations.mem_iff.mp (List.mem_cons_of_mem _ member)
    · have fewer := operations.countP_eq fun operation => operation.handler = some number
      rw [show ledger.errands[number]? = some after from present, Option.some.injEq] at found
      rw [List.countP_cons] at fewer
      simp only [found, withSystem, Ledger.system, decide_eq_true_eq] at fewer ⊢
      omega
    · rw [show ledger.errands[number]? = some after from present, Option.some.injEq] at found
      exact found ▸ answered
  | settles context operations guards contexts =>
    refine ⟨kept.counted.finished contexts fun other => ?_, kept.located.of_same rfl
      homes ?_ operations (fun other => ?_) rfl fun _ member => member⟩
    · have fewer := guards.count_eq other
      rw [List.count_cons] at fewer
      simp only [due, active, operationGuards, withSystem, Ledger.system, beq_iff_eq] at fewer ⊢
      omega
    · rw [show (ledger.withSystem system).system.contexts = _ from contexts]
      exact Nat.le_of_eq (System.length_updateContext ..).symm
    · rw [System.view_congr (show (ledger.withSystem system).system.contexts = _ from contexts)]
      exact System.queue_view_updateContext _ _ _ fun _ => rfl

theorem work (kept : ledger.Kept) (service : ServiceId) (worker : Nat) :
    { ledger with program := ledger.program.perform (.work service worker) }.Kept := by
  simp only [Program.perform]
  split
  next system stepped =>
    obtain ⟨labored, homes⟩ := System.labored_of_step stepped
    exact kept.labored labored homes
  next => exact kept

theorem perform (kept : ledger.Kept) {act : AsyncFiles.Act} (uncounted : act.uncounted = true)
    (allowed : ledger.program.allows act = true) :
    { ledger with program := ledger.program.perform act }.Kept := by
  by_cases aside : act.aside = true
  · exact kept.of_still (ledger.program.still_perform aside)
  · match act, aside with
    | .context .create, _ => exact kept.create
    | .context (.post context), _ => exact kept.post context
    | .context (.stop context), _ => exact kept.flag context fun _ => ⟨rfl, rfl⟩
    | .context (.restart context), _ => exact kept.flag context fun _ => ⟨rfl, rfl⟩
    | .service (.start context config), _ =>
      exact kept.start (by simpa [Program.allows] using allowed)
    | .work service worker, _ => exact kept.work service worker

theorem take (kept : ledger.Kept) {invocation : Invocation Ticket}
    {rest : Context (Invocation Ticket)}
    (taken : (ledger.system.view context).turn = .take invocation rest)
    (system : later.system = ledger.system.updateContext context fun _ => rest)
    (invoked : later.program.invoked = ledger.program.invoked ++ [(context, invocation)])
    (running : later.running = ledger.running ++ [(context, invocation.handler)])
    (errands : later.errands = ledger.errands) (explicit : later.explicit = ledger.explicit)
    (guards : later.guards = ledger.guards) : later.Kept := by
  have queued := Context.queue_of_take taken
  have bound : context < ledger.system.contexts.length := by
    refine bound_of_positive ?_
    rw [kept.counted context, queued, List.length_cons]
    omega
  have routed := kept.located.queued context invocation (by rw [queued]; exact List.mem_cons_self)
  have views (other : ContextId) : (ledger.system.view other).queue =
      (if context = other then [invocation] else []) ++ (later.system.view other).queue := by
    rw [system, System.view_updateContext]
    by_cases same : context = other
    · subst same
      simp [bound, queued]
    · simp [same]
  have tasks : later.system.tasks = ledger.system.tasks := by rw [system]; rfl
  have homes : later.system.homes = ledger.system.homes := by rw [system]; rfl
  have more (other : ContextId) :
      later.due other = ledger.due other + if context = other then 1 else 0 := by
    simp only [due, active, operationGuards, System.guards, tasks, running, errands, explicit,
      guards, List.countP_append, List.countP_singleton, decide_eq_true_eq]
    omega
  refine ⟨kept.counted.of_change bound (congrArg System.contexts system)
    (fun other foreign => by simp [more, foreign]) ?_, kept.located.of_step
    (by rw [SameErrands, errands]) (fun _ _ found => homes ▸ found) (fun home member => ?_)
    (fun operation member => .inl ?_)
    (fun other queued member => kept.located.queued other queued ?_) (fun entry member => ?_)
    (fun entry member => ?_) (fun number before after found present _ => ?_)
    fun number before after found present answered => ?_⟩
  · have count := kept.counted context
    rw [queued, List.length_cons] at count
    rw [Context.outstanding_of_take taken, count, more, if_pos rfl]
    omega
  · rw [system, System.length_updateContext]
    exact kept.located.existing home (homes ▸ member)
  · simpa [System.operations, tasks] using member
  · rw [views]
    exact List.mem_append_right _ member
  · rcases List.mem_append.mp (invoked ▸ member) with earlier | last
    · exact kept.located.called entry earlier
    · exact List.mem_singleton.mp last ▸ routed
  · rcases List.mem_append.mp (running ▸ member) with earlier | last
    · exact kept.located.ran entry earlier
    · exact List.mem_singleton.mp last ▸ routed
  · rw [errands, found, Option.some.injEq] at present
    subst present
    have moved : ((ledger.system.view before.operation.context).queue.countP fun invocation =>
          invocation.handler = some number) =
        (if invocation.handler = some number then 1 else 0) +
          (later.system.view before.operation.context).queue.countP fun invocation =>
            invocation.handler = some number := by
      rw [views, List.countP_append, routed.countP found]
    simp only [places, moved, invoked, System.operations, tasks, List.countP_append,
      List.countP_singleton, decide_eq_true_eq]
    omega
  · rw [errands] at present
    simpa [System.operations, tasks] using kept.located.apart number after present answered

theorem serve (kept : ledger.Kept) (context : ContextId) : (ledger.serve context).Kept := by
  simp only [Ledger.serve]
  split
  next invocation rest taken =>
    have served : ledger.program.onContext (.serve context) = { ledger.program with
        system := ledger.program.system.updateContext context fun _ => rest
        serving := context :: ledger.program.serving
        invoked := ledger.program.invoked ++ [(context, invocation)] } := by
      simp only [Program.onContext]
      rw [show ((ledger.program.system.context? context).getD {}).turn = _ from taken]
    rw [served]
    exact kept.take taken rfl rfl rfl rfl rfl rfl
  next => exact kept
  next => exact kept

theorem finish (kept : ledger.Kept) (context : ContextId) (handler : Ticket) :
    (ledger.finish context handler).Kept := by
  simp only [Ledger.finish]
  split
  next running =>
    have member : (context, handler) ∈ ledger.running := by simpa using running
    refine ⟨kept.counted.finished rfl fun other => ?_, kept.located.of_count Context.workFinished
      (fun _ => rfl) rfl rfl rfl fun _ => List.mem_of_mem_erase⟩
    have fewer := (List.perm_cons_erase member).countP_eq fun entry => entry.1 = other
    rw [List.countP_cons] at fewer
    simp only [decide_eq_true_eq] at fewer
    change (ledger.running.erase _).countP _ + _ + _ + ledger.operationGuards other + _ = _
    simp only [due, active]
    omega
  next => exact kept

theorem startWork (kept : ledger.Kept) (context : ContextId) :
    (ledger.step (.startWork context)).Kept := by
  simp only [step]
  split
  next bound =>
    refine ⟨kept.counted.started (of_decide_eq_true bound) rfl fun other => ?_,
      kept.located.of_count Context.workStarted (fun _ => rfl) rfl rfl rfl fun _ member => member⟩
    change _ + (context :: ledger.explicit).count other + _ + ledger.operationGuards other = _
    rw [List.count_cons]
    simp only [due, active, beq_iff_eq]
    omega
  next => exact kept

theorem finishWork (kept : ledger.Kept) (context : ContextId) :
    (ledger.step (.finishWork context)).Kept := by
  simp only [step]
  split
  next started =>
    have member : context ∈ ledger.explicit := by simpa using started
    refine ⟨kept.counted.finished rfl fun other => ?_,
      kept.located.of_count Context.workFinished (fun _ => rfl) rfl rfl rfl fun _ member => member⟩
    have fewer := (List.perm_cons_erase member).count_eq other
    rw [List.count_cons] at fewer
    simp only [beq_iff_eq] at fewer
    change _ + (ledger.explicit.erase context).count other + _ + ledger.operationGuards other + _ =
      _
    simp only [due, active]
    omega
  next => exact kept

theorem takeGuard (kept : ledger.Kept) (context : ContextId) :
    (ledger.step (.takeGuard context)).Kept := by
  simp only [step]
  split
  next bound =>
    refine ⟨kept.counted.started (of_decide_eq_true bound) rfl fun other => ?_,
      kept.located.of_count Context.workStarted (fun _ => rfl) rfl rfl rfl fun _ member => member⟩
    change ledger.active other + ledger.explicit.count other +
      (ledger.guards ++ [some context]).count (some other) + ledger.operationGuards other = _
    rw [List.count_append, List.count_singleton]
    simp only [due, beq_iff_eq, Option.some.injEq]
    omega
  next => exact kept

theorem resetGuard (kept : ledger.Kept) (guard : Nat) : (ledger.resetGuard guard).Kept := by
  simp only [Ledger.resetGuard]
  split
  next context present =>
    refine ⟨kept.counted.finished rfl fun other => ?_,
      kept.located.of_count Context.workFinished (fun _ => rfl) rfl rfl rfl fun _ member => member⟩
    have fewer := countP_set_balance (p := fun entry => entry == some other) present none
    change ledger.active other + ledger.explicit.count other +
      (ledger.guards.set guard none).count (some other) + ledger.operationGuards other + _ = _
    simp only [due, List.count]
    rw [show (none == some other) = false from rfl] at fewer
    by_cases same : context = other
    · subst same
      simp only [beq_self_eq_true, Bool.toNat_true, Bool.toNat_false, if_true] at fewer ⊢
      omega
    · rw [show (some context == some other) = false by simpa using same] at fewer
      simp only [same, Bool.toNat_false, if_false] at fewer ⊢
      omega
  next => exact kept

theorem dropGuard (kept : ledger.Kept) (guard : Nat) :
    (ledger.step (.dropGuard guard)).Kept := by
  have reset := kept.resetGuard guard
  have empty : ∀ context, (ledger.resetGuard guard).guards[guard]? ≠ some (some context) := by
    intro context
    simp only [Ledger.resetGuard]
    split
    next other present => simp [(List.getElem?_eq_some_iff.mp present).1]
    next missing => exact missing context
  refine ⟨reset.counted.of_same (fun _ => ⟨rfl, rfl⟩) fun context => ?_, reset.located.of_same rfl
    rfl (Nat.le_refl _) (.refl _) (fun _ => rfl) rfl fun _ member => member⟩
  change (ledger.resetGuard guard).active context +
    (ledger.resetGuard guard).explicit.count context +
      ((ledger.resetGuard guard).guards.eraseIdx guard).count (some context) +
      (ledger.resetGuard guard).operationGuards context = _
  rw [count_eraseIdx_of_ne (empty context)]
  rfl

end Kept

end AsyncFiles.Ledger
