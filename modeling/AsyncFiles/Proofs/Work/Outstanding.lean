import AsyncFiles.Proofs.Work.Submitting

namespace AsyncFiles.Ledger

open Error Host

variable {ledger later : Ledger} {context : ContextId} {number receiver : Nat} {errand : Errand}

/-- How many guards stand for an operation whose handler is still to be queued. -/
def guardsOf (ledger : Ledger) (number : Nat) (errand : Errand) : Nat :=
  errand.leg.guards.toNat +
    ledger.system.operations.countP fun operation => operation.handler = some number

def queuedTimes (ledger : Ledger) (number : Nat) (errand : Errand) : Nat :=
  (ledger.system.view errand.operation.context).queue.countP fun invocation =>
    invocation.handler = some number

def calledTimes (ledger : Ledger) (number : Nat) : Nat :=
  ledger.program.invoked.countP fun entry => entry.2.handler = some number

/-- The handler of an operation was called, once, and has come to its end. -/
def Over (ledger : Ledger) (number : Nat) : Prop :=
  ledger.calledTimes number = 1 ∧ ∀ context, (context, some number) ∉ ledger.running

def Releases (ledger later : Ledger) : Prop :=
  ∀ context, later.operationGuards context < ledger.operationGuards context →
    ∀ other, (later.system.view other).queue = (ledger.system.view other).queue

namespace Releases

theorem of_guards
    (guards : ∀ context, ledger.operationGuards context ≤ later.operationGuards context) :
    ledger.Releases later :=
  fun context fewer => absurd fewer (Nat.not_lt_of_le (guards context))

theorem of_tasks (tasks : later.system.tasks = ledger.system.tasks)
    (errands : later.errands = ledger.errands) : ledger.Releases later :=
  of_guards fun context => by
    simp only [operationGuards, System.guards, tasks, errands, Nat.le_refl]

theorem of_desks {program : Program} (desks : program.system.desks = ledger.program.system.desks) :
    ledger.Releases { ledger with program } :=
  of_tasks (congrArg (List.flatMap Desk.tasks) desks) rfl

theorem labored {system : System Ticket} (labored : ledger.system.Labored system) :
    ledger.Releases (ledger.withSystem system) := by
  have same (guards : system.guards.Perm ledger.system.guards) :
      ledger.Releases (ledger.withSystem system) :=
    of_guards fun context => Nat.le_of_eq
      (congrArg (· + _) (guards.count_eq context).symm)
  cases labored with
  | passes _ guards _ => exact same guards
  | answers _ _ _ guards _ => exact same guards
  | settles context _ _ contexts =>
    intro _ _ other
    rw [System.view_congr (show (ledger.withSystem system).system.contexts = _ from contexts)]
    exact System.queue_view_updateContext _ _ _ fun _ => rfl

theorem perform {act : AsyncFiles.Act} (uncounted : act.uncounted = true) :
    ledger.Releases { ledger with program := ledger.program.perform act } := by
  by_cases aside : act.aside = true
  · exact of_desks (ledger.program.still_perform aside).calm.desks
  · match act, aside with
    | .context .create, _ => exact of_desks rfl
    | .context (.post context), _ => exact of_desks rfl
    | .context (.stop context), _ => exact of_desks rfl
    | .context (.restart context), _ => exact of_desks rfl
    | .service (.start context config), _ =>
      simp only [Program.perform, Program.onService]
      split
      next system started =>
        obtain ⟨pool, begun, rfl⟩ := System.started_service started
        exact of_tasks (System.tasks_start ledger.program.system context config begun) rfl
      next => exact of_desks rfl
    | .work service worker, _ =>
      simp only [Program.perform]
      split
      next system stepped => exact labored (System.labored_of_step stepped).1
      next => exact of_desks rfl

theorem of_leg {system : System Ticket} {leg : Leg}
    (found : ledger.errands[number]? = some errand)
    (tasks : system.guards = ledger.system.guards)
    (holds : errand.leg.guards = true → leg.guards = true) :
    ledger.Releases (ledger.put number errand (system, leg)) := by
  refine of_guards fun context => ?_
  have moved := operationGuards_advance system found leg context
  have grown : errand.leg.guards.toNat ≤ leg.guards.toNat := by
    cases held : errand.leg.guards with
    | false => exact Nat.zero_le _
    | true => exact Nat.le_of_eq (congrArg Bool.toNat (holds held).symm)
  rw [tasks] at moved
  split at moved <;> omega

theorem accepted {system : System Ticket} (found : ledger.errands[number]? = some errand)
    (guards : system.guards.Perm (errand.operation.context :: ledger.system.guards)) (leg : Leg) :
    ledger.Releases (ledger.put number errand (system, leg)) := by
  refine of_guards fun context => ?_
  have moved := operationGuards_advance system found leg context
  have more := guards.count_eq context
  have held := Bool.toNat_le errand.leg.guards
  simp only [List.count_cons, beq_iff_eq] at more
  rw [more] at moved
  split at moved <;> omega

theorem advance (number receiver : Nat) : ledger.Releases (ledger.advance number receiver) := by
  simp only [Ledger.advance]
  cases found : ledger.errands[number]? with
  | none => exact of_desks rfl
  | some errand =>
    simp only [Errand.next]
    cases leg : errand.leg with
    | captured => exact of_leg found rfl (by simp [leg, Leg.guards])
    | answered rest =>
      intro _ _ other
      exact System.queue_view_updateContext _ _ _ fun _ => rfl
    | underway stage =>
      cases drops : stage.drop? with
      | some rest =>
        simp only [drops]
        exact of_leg found rfl fun _ => rfl
      | none =>
        cases present : ledger.system.service? errand.service with
        | none =>
          simp only [drops]
          exact of_leg found rfl (by rw [leg]; exact id)
        | some service =>
          simp only [drops]
          rcases Submission.next_cases service.pool (.issued errand.operation) receiver stage with
            ⟨rfl, later, sent, accepts⟩ | ⟨queue, workers, still⟩
          · simp only [accepts]
            exact accepted found (System.trades_sent present sent).guards _
          · obtain ⟨succeeds, gone⟩ := Submission.next_undecided drops still
            refine of_leg found ?_ ?_
            · rw [System.guards, System.tasks, System.desks_updatePool present queue workers]
              rfl
            · simp only [leg, Leg.guards, succeeds, gone]
              exact id

theorem step (ledger : Ledger) (act : Act) : ledger.Releases (ledger.step act) := by
  cases act with
  | program act =>
    simp only [Ledger.step]
    split
    next possible =>
      rw [Bool.and_eq_true] at possible
      exact perform possible.1
    next => exact of_desks rfl
  | serve context =>
    simp only [Ledger.step, Ledger.serve]
    split
    next invocation rest taken =>
      refine of_tasks ?_ rfl
      simp only [Ledger.system, Program.onContext]
      split <;> rfl
    next => exact of_desks rfl
    next => exact of_desks rfl
  | advance number receiver => exact advance number receiver
  | resetGuard guard | dropGuard guard =>
    simp only [Ledger.step, Ledger.resetGuard]
    split <;> exact of_tasks rfl rfl
  | capture service imp request buffers =>
    simp only [Ledger.step, Ledger.capture]
    split
    · split
      · exact of_desks rfl
      · refine of_guards fun context => ?_
        simp [operationGuards, Ledger.system]
    · exact of_desks rfl
  | _ =>
    simp only [Ledger.step, Ledger.finish]
    split <;> exact of_tasks rfl rfl

end Releases

structure Faithful (ledger : Ledger) : Prop where
  /-- The count is what is queued, what runs, what was started explicitly and the guards. -/
  outstanding : ∀ context, (ledger.system.view context).outstanding =
    (ledger.system.view context).queue.length + ledger.active context +
      ledger.explicit.count context + ledger.guards.count (some context) +
        ledger.operationGuards context
  /-- Until its handler is queued, an operation has one guard. -/
  guarded : ∀ (number : Nat) (errand : Errand), ledger.errands[number]? = some errand →
    errand.leg.initiated = true → ledger.queuedTimes number errand = 0 →
      ledger.calledTimes number = 0 →
        ledger.guardsOf number errand = 1 ∧ 0 < ledger.operationGuards errand.operation.context
  releases : ∀ act, ledger.Releases (ledger.step act)
  /-- Until its handler has come to its end, an operation keeps the count above zero. -/
  positive : ∀ (number : Nat) (errand : Errand), ledger.errands[number]? = some errand →
    errand.leg.initiated = true → ¬ ledger.Over number →
      0 < (ledger.system.view errand.operation.context).outstanding
  /-- Who finds a context out of work that is not stopped finds all of its operations over. -/
  leaves : ∀ context, (ledger.system.view context).stopped = false →
    (ledger.system.view context).turn = .leave →
      ∀ (number : Nat) (errand : Errand), ledger.errands[number]? = some errand →
        errand.leg.initiated = true → ledger.system.homes[errand.service]? = some context →
          ledger.Over number

namespace Kept

theorem guards_of_operations (kept : ledger.Kept) (found : ledger.errands[number]? = some errand)
    (task : 0 < ledger.system.operations.countP fun operation => operation.handler = some number) :
    0 < ledger.system.guards.count errand.operation.context := by
  obtain ⟨operation, member, own⟩ := List.countP_pos_iff.mp task
  obtain ⟨other, known, same⟩ := kept.located.issued operation member
  obtain ⟨home, present, context⟩ :=
    kept.located.routed_of_errand known number (same ▸ of_decide_eq_true own)
  rw [found, Option.some.injEq] at present
  obtain ⟨task, held, bears⟩ := List.mem_filterMap.mp member
  refine List.count_pos_iff.mpr (List.mem_filterMap.mpr ⟨task, held, ?_⟩)
  rw [Task.guard_of_operation bears, present, context, same]

theorem guarded (kept : ledger.Kept) (found : ledger.errands[number]? = some errand)
    (initiated : errand.leg.initiated = true) (queued : ledger.queuedTimes number errand = 0)
    (called : ledger.calledTimes number = 0) :
    ledger.guardsOf number errand = 1 ∧ 0 < ledger.operationGuards errand.operation.context := by
  have once : errand.leg.keeps.toNat +
      (ledger.system.operations.countP fun operation => operation.handler = some number) +
        ledger.queuedTimes number errand + ledger.calledTimes number = 1 :=
    kept.located.once number errand found
  have guards : ledger.guardsOf number errand = 1 := by
    cases leg : errand.leg with
    | captured => rw [leg] at initiated; cases initiated
    | underway stage =>
      rw [leg, queued, called] at once
      rw [guardsOf, leg]
      exact once
    | answered rest =>
      -- Its handler was queued when it was answered.
      have apart := kept.located.apart number errand found (by rw [leg]; rfl)
      rw [leg, apart, queued, called] at once
      cases once
  refine ⟨guards, ?_⟩
  by_cases task : 0 < ledger.system.operations.countP fun operation =>
      operation.handler = some number
  · exact Nat.add_pos_left (kept.guards_of_operations found task) _
  · have holds : errand.leg.guards = true := by
      cases held : errand.leg.guards with
      | true => rfl
      | false => simp only [guardsOf, held, Bool.toNat_false] at guards; omega
    refine Nat.add_pos_right _ (List.countP_pos_iff.mpr ⟨errand, List.mem_of_getElem? found, ?_⟩)
    simp [holds]

theorem positive (kept : ledger.Kept) (found : ledger.errands[number]? = some errand)
    (initiated : errand.leg.initiated = true) (unfinished : ¬ ledger.Over number) :
    0 < (ledger.system.view errand.operation.context).outstanding := by
  rw [kept.counted]
  by_cases running : ∃ context, (context, some number) ∈ ledger.running
  · obtain ⟨context, runs⟩ := running
    obtain ⟨home, present, same⟩ := kept.located.ran _ runs number rfl
    rw [found, Option.some.injEq] at present
    have active : 0 < ledger.active errand.operation.context :=
      List.countP_pos_iff.mpr ⟨_, runs, by simp [present, same]⟩
    simp only [due]
    omega
  · have once : _ + _ + ledger.queuedTimes number errand + ledger.calledTimes number = 1 :=
      kept.located.once number errand found
    have called : ledger.calledTimes number = 0 := by
      by_contra some
      exact unfinished ⟨by omega, fun context runs => running ⟨context, runs⟩⟩
    by_cases queued : ledger.queuedTimes number errand = 0
    · have guard := (kept.guarded found initiated queued called).2
      simp only [due]
      omega
    · exact Nat.add_pos_left
        (Nat.lt_of_lt_of_le (Nat.pos_of_ne_zero queued) List.countP_le_length) _

theorem leaves (kept : ledger.Kept) (runs : (ledger.system.view context).stopped = false)
    (leaves : (ledger.system.view context).turn = .leave)
    (found : ledger.errands[number]? = some errand) (initiated : errand.leg.initiated = true)
    (home : ledger.system.homes[errand.service]? = some context) : ledger.Over number := by
  have own := kept.located.housed errand (List.mem_of_getElem? found)
  rw [home, Option.some.injEq] at own
  by_contra unfinished
  have positive := kept.positive found initiated unfinished
  rw [← own, Context.outstanding_of_leave leaves runs] at positive
  exact Nat.lt_irrefl 0 positive

end Kept

/-- In every state that a program with all of its threads can reach, the count of outstanding work
is exactly the work there is: every operation is counted from before the pool gets its task until
its handler has come to its end, and a context runs out of work only when all operations of its
services are over. -/
theorem work_accounted (host : Host) (acts : List Act) :
    ((Ledger.fresh host).run acts).Faithful := by
  have kept := (Kept.fresh host).run acts
  refine ⟨fun context => ?_, fun _ _ => kept.guarded, fun act => .step _ act,
    fun _ _ => kept.positive, fun _ runs leaves _ _ => kept.leaves runs leaves⟩
  rw [kept.counted]
  simp only [due]
  omega

end AsyncFiles.Ledger
