import AsyncFiles.Proofs.Work.Accounting

namespace AsyncFiles.Ledger

open Error Host

variable {ledger : Ledger} {context : ContextId} {number receiver : Nat} {errand : Errand}

theorem getElem?_concat_cases {α : Type} {list : List α} {last entry : α} {index : Nat}
    (found : (list ++ [last])[index]? = some entry) :
    list[index]? = some entry ∨ index = list.length ∧ entry = last := by
  rcases Nat.lt_trichotomy index list.length with earlier | rfl | later
  · rw [List.getElem?_append_left earlier] at found
    exact .inl found
  · exact .inr ⟨rfl, by simpa using found.symm⟩
  · rw [List.getElem?_eq_none (by simp; omega)] at found
    cases found

theorem operationGuards_advance (system : System Ticket)
    (found : ledger.errands[number]? = some errand) (leg : Leg) (other : ContextId) :
    (ledger.put number errand (system, leg)).operationGuards other +
      (if errand.operation.context = other then errand.leg.guards.toNat else 0) +
        ledger.system.guards.count other =
    ledger.operationGuards other +
      (if errand.operation.context = other then leg.guards.toNat else 0) +
        system.guards.count other := by
  have moved := countP_set_balance (p := fun errand : Errand =>
    errand.leg.guards && errand.operation.context = other) found { errand with leg }
  change system.guards.count other +
    (ledger.errands.set number { errand with leg }).countP _ + _ + _ = _
  by_cases own : errand.operation.context = other
  all_goals
    simp only [own, decide_true, decide_false, Bool.and_true, Bool.and_false, Bool.toNat_false,
      if_true, if_false] at moved ⊢
    simp only [operationGuards]
    omega

theorem due_advance (system : System Ticket) (found : ledger.errands[number]? = some errand)
    (leg : Leg) (other : ContextId) :
    due (ledger.put number errand (system, leg)) other +
      (if errand.operation.context = other then errand.leg.guards.toNat else 0) +
        ledger.system.guards.count other =
    ledger.due other + (if errand.operation.context = other then leg.guards.toNat else 0) +
      system.guards.count other := by
  have guards := operationGuards_advance system found leg other
  change ledger.active other + ledger.explicit.count other + ledger.guards.count (some other) +
    (ledger.put number errand (system, leg)).operationGuards other + _ + _ = _
  simp only [due]
  omega

theorem same_errands (found : ledger.errands[number]? = some errand) (system : System Ticket)
    (leg : Leg) : ledger.SameErrands (ledger.put number errand (system, leg)) := by
  simp only [SameErrands, put, List.map_set]
  exact set_same (by rw [List.getElem?_map, found, Option.map_some])

theorem keeps_advance {leg : Leg} {other : Nat} {before after : Errand}
    (found : ledger.errands[number]? = some errand) (known : ledger.errands[other]? = some before)
    (present : (ledger.errands.set number { errand with leg })[other]? = some after) :
    after.leg.keeps.toNat + (if number = other then errand.leg.keeps.toNat else 0) =
      before.leg.keeps.toNat + if number = other then leg.keeps.toNat else 0 := by
  have bound := (List.getElem?_eq_some_iff.mp found).1
  by_cases same : number = other
  · subst same
    rw [found, Option.some.injEq] at known
    rw [List.getElem?_set_self bound, Option.some.injEq] at present
    simp only [← present, known, if_true]
    omega
  · rw [List.getElem?_set_ne same, known, Option.some.injEq] at present
    simp [same, present]

theorem answered_advance {leg : Leg} (moving : leg.isAnswered = false)
    (other : Nat) (before after : Errand) (known : ledger.errands[other]? = some before)
    (present : (ledger.errands.set number { errand with leg })[other]? = some after)
    (answered : after.leg.isAnswered = true) : before.leg.isAnswered = true := by
  rw [List.getElem?_set] at present
  split at present
  · split at present
    · rw [Option.some.injEq] at present
      subst present
      rw [moving] at answered
      cases answered
    · cases present
  · rw [known, Option.some.injEq] at present
    exact present ▸ answered

namespace Kept

theorem of_leg (kept : ledger.Kept) (found : ledger.errands[number]? = some errand) (leg : Leg)
    (change : Context (Invocation Ticket) → Context (Invocation Ticket))
    (queue : ∀ found, (change found).queue = found.queue)
    (keeps : leg.keeps = errand.leg.keeps) (moving : leg.isAnswered = false) :
    (ledger.put number errand
      (ledger.system.updateContext errand.operation.context change, leg)).Located := by
  refine kept.located.of_legs (same_errands found _ _) rfl
      (Nat.le_of_eq (System.length_updateContext ..).symm) (fun _ => .inl)
      (fun other => System.queue_view_updateContext _ _ _ queue) rfl (fun _ => id)
      (fun other before after known present => ?_) (answered_advance moving)
  have same := keeps_advance found known present
  rw [keeps, Nat.add_right_cancel_iff] at same
  rw [same]
  rfl

theorem captured (kept : ledger.Kept) (found : ledger.errands[number]? = some errand)
    (leg : errand.leg = .captured) :
    (ledger.put number errand
      (ledger.system.workStarted errand.operation.context, .underway .begun)).Kept := by
  have bound := kept.located.bound_of_errand (List.mem_of_getElem? found)
  refine ⟨kept.counted.started bound rfl fun other => ?_,
    kept.of_leg found _ Context.workStarted (fun _ => rfl) (by rw [leg]; rfl) rfl⟩
  have due := due_advance (ledger.system.workStarted errand.operation.context) found
    (.underway .begun) other
  rw [leg, show Leg.captured.guards.toNat = 0 from rfl, ite_self, Nat.add_zero] at due
  exact Nat.add_right_cancel due

theorem answered (kept : ledger.Kept) (found : ledger.errands[number]? = some errand)
    {rest : { rest : Submission // rest.drops = true }} (leg : errand.leg = .answered rest) :
    (ledger.put number errand
      (ledger.system.workFinished errand.operation.context, .underway rest.val)).Kept := by
  have gone : (Leg.underway rest.val).guards = false ∧ (Leg.underway rest.val).keeps = false := by
    simp [Leg.guards, Leg.keeps, rest.property]
  refine ⟨kept.counted.finished rfl fun other => ?_,
    kept.of_leg found _ Context.workFinished (fun _ => rfl) (by rw [leg]; exact gone.2) rfl⟩
  have due := due_advance (ledger.system.workFinished errand.operation.context) found
    (.underway rest.val) other
  rw [leg, gone.1] at due
  exact (Nat.add_right_cancel due).trans (by simp)

theorem dropped (kept : ledger.Kept) (found : ledger.errands[number]? = some errand)
    {stage : Submission} (leg : errand.leg = .underway stage)
    {rest : { rest : Submission // rest.drops = true }} (drops : stage.drop? = some rest) :
    (ledger.put number errand
      (ledger.system.deliver errand.operation (.error .aborted) errand.operation.buffers,
        .answered rest)).Kept := by
  have member := List.mem_of_getElem? found
  have bound := kept.located.bound_of_errand member
  have held : errand.leg.guards = true ∧ errand.leg.keeps = true := by
    rw [leg]
    cases stage with
    | discounted | turnedAway => exact ⟨rfl, rfl⟩
    | _ => cases drops
  refine ⟨kept.counted.posted bound rfl fun other => ?_, kept.located.posted
    (same_errands found _ _) rfl bound rfl (kept.located.routed_of_errand member) (fun _ => id) rfl
    rfl (fun other before after known present => ?_)
    fun other before after known present answered => ?_⟩
  · have due := due_advance
      (ledger.system.deliver errand.operation (.error .aborted) errand.operation.buffers) found
      (.answered rest) other
    rw [held.1] at due
    exact Nat.add_right_cancel (Nat.add_right_cancel due)
  · have moved := keeps_advance found known present
    have numbered := kept.located.numbered number errand found
    rw [held.2] at moved
    change _ + ledger.system.operations.countP _ + _ = _
    simp only [numbered, Option.some.injEq, Leg.keeps, Bool.toNat_true, Bool.toNat_false,
      ite_self] at moved ⊢
    omega
  · rw [show (ledger.put number errand _).errands[other]? = _ from List.getElem?_set] at present
    split at present
    next same => exact .inr (same ▸ kept.located.numbered number errand found)
    next =>
      rw [known, Option.some.injEq] at present
      exact .inl (present ▸ answered)

theorem undecided (kept : ledger.Kept) (found : ledger.errands[number]? = some errand)
    {system : System Ticket} (calm : ledger.system.Calm system) (leg : Leg)
    (keeps : leg.keeps = errand.leg.keeps) (guards : leg.guards = errand.leg.guards)
    (moving : leg.isAnswered = false) :
    (ledger.put number errand (system, leg)).Kept := by
  have tasks : system.tasks = ledger.system.tasks := congrArg (List.flatMap Desk.tasks) calm.desks
  have operations : system.operations = ledger.system.operations := by
    rw [System.operations, System.operations, tasks]
  have views := System.view_congr calm.contexts
  refine ⟨kept.counted.of_same (fun context => ?_) fun other => ?_, kept.located.of_legs
    (same_errands found _ _) (congrArg (List.map Desk.context) calm.desks)
    (Nat.le_of_eq (congrArg List.length calm.contexts).symm)
    (fun operation member => .inl (operations ▸ member))
    (fun context => congrArg Context.queue (views context)) rfl (fun _ => id)
    (fun other before after known present => ?_) (answered_advance moving)⟩
  · exact ⟨congrArg Context.outstanding (views context),
      congrArg (fun found => found.queue.length) (views context)⟩
  · have due := due_advance system found leg other
    have same : system.guards = ledger.system.guards := by
      rw [System.guards, System.guards, tasks]
    rw [guards, same] at due
    exact Nat.add_right_cancel (Nat.add_right_cancel due)
  · have moved := keeps_advance found known present
    rw [keeps] at moved
    change _ + system.operations.countP _ = _
    rw [operations, Nat.add_right_cancel moved]

theorem accepted (kept : ledger.Kept) (found : ledger.errands[number]? = some errand)
    (leg : errand.leg = .underway .counted) {system : System Ticket}
    (trades : ledger.system.Trades system [] [.issued errand.operation])
    (contexts : system.contexts = ledger.system.contexts) :
    (ledger.put number errand (system, .underway .accepted)).Kept := by
  have operations : system.operations.Perm (errand.operation :: ledger.system.operations) :=
    trades.operations
  have guards : system.guards.Perm (errand.operation.context :: ledger.system.guards) :=
    trades.guards
  have views := System.view_congr contexts
  refine ⟨kept.counted.of_same (fun context => ?_) fun other => ?_, kept.located.of_legs
    (same_errands found _ _) trades.homes (Nat.le_of_eq (congrArg List.length contexts).symm)
    (fun operation member => ?_) (fun context => congrArg Context.queue (views context)) rfl
    (fun _ => id) (fun other before after known present => ?_) (answered_advance rfl)⟩
  · exact ⟨congrArg Context.outstanding (views context),
      congrArg (fun found => found.queue.length) (views context)⟩
  · have due := due_advance system found (.underway .accepted) other
    have more := guards.count_eq other
    rw [List.count_cons] at more
    rw [leg, show (Leg.underway .counted).guards.toNat = 1 from rfl,
      show (Leg.underway .accepted).guards.toNat = 0 from rfl, ite_self] at due
    simp only [beq_iff_eq] at more
    omega
  · rcases List.mem_cons.mp (operations.mem_iff.mp member) with same | before
    · exact .inr ⟨errand, List.mem_of_getElem? found, same.symm⟩
    · exact .inl before
  · have moved := keeps_advance found known present
    have more := operations.countP_eq fun operation => operation.handler = some other
    rw [List.countP_cons] at more
    rw [leg, show (Leg.underway .counted).keeps.toNat = 1 from rfl,
      show (Leg.underway .accepted).keeps.toNat = 0 from rfl, ite_self] at moved
    change _ + system.operations.countP _ = _
    simp only [kept.located.numbered number errand found, Option.some.injEq, decide_eq_true_eq]
      at more
    omega

theorem advance (kept : ledger.Kept) (number receiver : Nat) :
    (ledger.advance number receiver).Kept := by
  simp only [Ledger.advance]
  cases found : ledger.errands[number]? with
  | none => exact kept
  | some errand =>
    simp only [Errand.next]
    cases leg : errand.leg with
    | captured => exact kept.captured found leg
    | answered rest => exact kept.answered found leg
    | underway stage =>
      cases drops : stage.drop? with
      | some rest =>
        simp only [drops]
        exact kept.dropped found leg drops
      | none =>
        cases present : ledger.system.service? errand.service with
        | none =>
          simp only [drops]
          exact kept.undecided found (.refl _) _ (by rw [leg]) (by rw [leg]) rfl
        | some service =>
          simp only [drops]
          rcases Submission.next_cases service.pool (.issued errand.operation) receiver stage with
            ⟨rfl, later, sent, accepts⟩ | ⟨queue, workers, still⟩
          · simp only [accepts]
            exact kept.accepted found leg (System.trades_sent present sent) rfl
          · obtain ⟨succeeds, gone⟩ := Submission.next_undecided drops still
            have places := System.desks_updatePool present queue workers
            refine kept.undecided found ⟨places, rfl⟩ _ ?_ ?_ rfl
            all_goals simp only [leg, Leg.keeps, Leg.guards, succeeds, gone]

theorem places_unused (kept : ledger.Kept) (errand : Errand) :
    ledger.places ledger.errands.length errand = errand.leg.keeps.toNat := by
  have none : ledger.errands[ledger.errands.length]? = none := List.getElem?_eq_none (Nat.le_refl _)
  have foreign {context : ContextId} {handler : Ticket} (routed : ledger.Routed context handler) :
      handler ≠ some ledger.errands.length := by
    intro own
    obtain ⟨other, found, _⟩ := routed _ own
    rw [none] at found
    cases found
  have operations : (ledger.system.operations.countP fun operation =>
      operation.handler = some ledger.errands.length) = 0 := by
    refine List.countP_eq_zero.mpr fun operation member own => ?_
    obtain ⟨other, known, same⟩ := kept.located.issued operation member
    subst same
    exact foreign (kept.located.routed_of_errand known) (of_decide_eq_true own)
  have queue : ((ledger.system.view errand.operation.context).queue.countP fun invocation =>
      invocation.handler = some ledger.errands.length) = 0 :=
    List.countP_eq_zero.mpr fun invocation member own =>
      foreign (kept.located.queued _ invocation member) (of_decide_eq_true own)
  have called : (ledger.program.invoked.countP fun entry =>
      entry.2.handler = some ledger.errands.length) = 0 :=
    List.countP_eq_zero.mpr fun entry member own =>
      foreign (kept.located.called entry member) (of_decide_eq_true own)
  simp only [places, operations, queue, called, Nat.add_zero]

theorem capture (kept : ledger.Kept) (service : ServiceId) (imp : Implementation)
    (request : Request) (buffers : List Bytes) :
    (ledger.capture service imp request buffers).Kept := by
  simp only [Ledger.capture]
  split
  next => exact kept
  next found present =>
    have home : ledger.system.homes[service]? = some found.context := by
      rw [System.homes, List.getElem?_map, System.desk_of_service present]
      rfl
    have routed {context : ContextId} {handler : Ticket} {errand : Errand}
        (routed : ledger.Routed context handler) :
        Routed { ledger with errands := ledger.errands ++ [errand] } context handler := by
      intro number own
      obtain ⟨before, known, same⟩ := routed number own
      exact ⟨before, by
        rw [List.getElem?_append_left (List.getElem?_eq_some_iff.mp known).1, known], same⟩
    refine ⟨kept.counted.of_same (fun _ => ⟨rfl, rfl⟩) fun other => ?_, ?_⟩
    · simp only [due, active, operationGuards, List.countP_append, List.countP_singleton,
        Leg.guards, Bool.false_and, Bool.false_eq_true, if_false, Nat.add_zero]
      rfl
    · constructor
      · intro number errand located
        rcases getElem?_concat_cases located with before | ⟨rfl, rfl⟩
        · exact kept.located.numbered number errand before
        · rfl
      · intro errand member
        rcases List.mem_append.mp member with before | new
        · exact kept.located.housed errand before
        · rw [List.mem_singleton.mp new]
          exact home
      · exact kept.located.existing
      · intro operation member
        obtain ⟨errand, known, same⟩ := kept.located.issued operation member
        exact ⟨errand, List.mem_append_left _ known, same⟩
      · exact fun context invocation member =>
          routed (kept.located.queued context invocation member)
      · exact fun entry member => routed (kept.located.called entry member)
      · exact fun entry member => routed (kept.located.ran entry member)
      · intro number errand located
        rcases getElem?_concat_cases located with before | ⟨rfl, rfl⟩
        · exact kept.located.once number errand before
        · exact kept.places_unused _
      · intro number errand located answered
        rcases getElem?_concat_cases located with before | ⟨rfl, rfl⟩
        · exact kept.located.apart number errand before answered
        · cases answered

theorem step (kept : ledger.Kept) (act : Act) : (ledger.step act).Kept := by
  cases act with
  | program act =>
    simp only [Ledger.step]
    split
    next possible =>
      rw [Bool.and_eq_true] at possible
      exact kept.perform possible.1 possible.2
    next => exact kept
  | serve context => exact kept.serve context
  | finish context handler => exact kept.finish context handler
  | startWork context => exact kept.startWork context
  | finishWork context => exact kept.finishWork context
  | takeGuard context => exact kept.takeGuard context
  | resetGuard guard => exact kept.resetGuard guard
  | dropGuard guard => exact kept.dropGuard guard
  | capture service imp request buffers =>
    simp only [Ledger.step]
    split
    next => exact kept.capture service imp request buffers
    next => exact kept
  | advance number receiver => exact kept.advance number receiver

theorem fresh (host : Host) : (Ledger.fresh host).Kept where
  counted context := by
    simp [Ledger.fresh, Program.fresh, Ledger.system, System.view, System.context?, due, active,
      operationGuards, System.guards, System.tasks, System.desks]
  located := by
    constructor <;> simp [Ledger.fresh, Program.fresh, Ledger.system, System.view, System.context?,
      System.homes, System.operations, System.tasks, System.desks]

theorem run (kept : ledger.Kept) (acts : List Act) : (ledger.run acts).Kept := by
  induction acts generalizing ledger with
  | nil => exact kept
  | cons act rest ih => exact ih (kept.step act)

end Kept

end AsyncFiles.Ledger
