import AsyncFiles.Proofs.Work.Ledger

namespace AsyncFiles.Ledger

open Error Host

variable {ledger later : Ledger} {context : ContextId}

/-- What is counted for a context, apart from the handlers in its queue. -/
def due (ledger : Ledger) (context : ContextId) : Nat :=
  ledger.active context + ledger.explicit.count context + ledger.guards.count (some context) +
    ledger.operationGuards context

/-- The count of every context is what is queued there and what is due. -/
def Counted (ledger : Ledger) : Prop := ∀ context,
  (ledger.system.view context).outstanding =
    (ledger.system.view context).queue.length + ledger.due context

/-- A handler of a context belongs to an operation of the context, or to none. -/
def Routed (ledger : Ledger) (context : ContextId) (handler : Ticket) : Prop :=
  ∀ number, handler = some number →
    ∃ errand, ledger.errands[number]? = some errand ∧ errand.operation.context = context

structure Located (ledger : Ledger) : Prop where
  numbered : ∀ (number : Nat) (errand : Errand), ledger.errands[number]? = some errand →
    errand.operation.handler = some number
  housed : ∀ errand ∈ ledger.errands,
    ledger.system.homes[errand.service]? = some errand.operation.context
  existing : ∀ home ∈ ledger.system.homes, home < ledger.system.contexts.length
  issued : ∀ operation ∈ ledger.system.operations,
    ∃ errand ∈ ledger.errands, errand.operation = operation
  queued : ∀ context, ∀ invocation ∈ (ledger.system.view context).queue,
    ledger.Routed context invocation.handler
  called : ∀ entry ∈ ledger.program.invoked, ledger.Routed entry.1 entry.2.handler
  ran : ∀ entry ∈ ledger.running, ledger.Routed entry.1 entry.2
  once : ∀ (number : Nat) (errand : Errand), ledger.errands[number]? = some errand →
    ledger.places number errand = 1
  /-- What the submission has answered itself is with no task. -/
  apart : ∀ (number : Nat) (errand : Errand), ledger.errands[number]? = some errand →
    errand.leg.isAnswered = true → (ledger.system.operations.countP fun operation =>
      operation.handler = some number) = 0

theorem bound_of_positive {system : System Ticket}
    (positive : 0 < (system.view context).outstanding) : context < system.contexts.length := by
  by_contra missing
  have none : system.view context = {} := by
    simp [System.view, System.context?, List.getElem?_eq_none (Nat.le_of_not_lt missing)]
  simp [none] at positive

namespace Counted

theorem bound (counted : ledger.Counted) (context : ContextId) (due : 0 < ledger.due context) :
    context < ledger.system.contexts.length :=
  bound_of_positive (by rw [counted context]; omega)

theorem of_same (counted : ledger.Counted)
    (same : ∀ context,
      (later.system.view context).outstanding = (ledger.system.view context).outstanding ∧
        (later.system.view context).queue.length = (ledger.system.view context).queue.length)
    (due : ∀ context, later.due context = ledger.due context) : later.Counted := by
  intro context
  rw [(same context).1, (same context).2, due]
  exact counted context

theorem of_change (counted : ledger.Counted)
    {change : Context (Invocation Ticket) → Context (Invocation Ticket)}
    (bound : context < ledger.system.contexts.length)
    (contexts : later.system.contexts = (ledger.system.updateContext context change).contexts)
    (others : ∀ other, context ≠ other → later.due other = ledger.due other)
    (own : (change (ledger.system.view context)).outstanding =
      (change (ledger.system.view context)).queue.length + later.due context) : later.Counted := by
  intro other
  rw [System.view_congr contexts, System.view_updateContext]
  by_cases same : context = other
  · subst same
    simp only [bound, and_self, if_true]
    exact own
  · simp only [same, false_and, if_false]
    rw [others other same]
    exact counted other

theorem started (counted : ledger.Counted) (bound : context < ledger.system.contexts.length)
    (contexts : later.system.contexts = (ledger.system.workStarted context).contexts)
    (due : ∀ other, later.due other = ledger.due other + if context = other then 1 else 0) :
    later.Counted := by
  refine counted.of_change bound contexts (fun other foreign => by simp [due, foreign]) ?_
  simp only [Context.workStarted, due, if_true, counted context]
  omega

theorem finished (counted : ledger.Counted)
    (contexts : later.system.contexts = (ledger.system.workFinished context).contexts)
    (due : ∀ other, later.due other + (if context = other then 1 else 0) = ledger.due other) :
    later.Counted := by
  have own := due context
  simp only [if_true] at own
  refine counted.of_change (counted.bound context (by omega)) contexts
    (fun other foreign => by simpa [foreign] using due other) ?_
  simp only [Context.workFinished, counted context]
  omega

theorem posted (counted : ledger.Counted) (bound : context < ledger.system.contexts.length)
    {invocation : Invocation Ticket}
    (contexts : later.system.contexts = (ledger.system.post context invocation).contexts)
    (due : ∀ other, later.due other = ledger.due other) : later.Counted := by
  refine counted.of_change bound contexts (fun other _ => due other) ?_
  simp only [Context.outstanding_post, Context.queue_post, List.length_append,
    List.length_singleton, due, counted context]
  omega

end Counted

def SameErrands (ledger later : Ledger) : Prop :=
  later.errands.map (fun errand => (errand.service, errand.operation)) =
    ledger.errands.map fun errand => (errand.service, errand.operation)

namespace SameErrands

theorem find {number : Nat} {errand : Errand} (same : ledger.SameErrands later)
    (found : later.errands[number]? = some errand) :
    ∃ before, ledger.errands[number]? = some before ∧ before.service = errand.service ∧
      before.operation = errand.operation := by
  have entries := congrArg (fun list : List (ServiceId × Operation Ticket) => list[number]?) same
  simp only [List.getElem?_map, found, Option.map_some] at entries
  obtain ⟨before, present, pair⟩ := Option.map_eq_some_iff.mp entries.symm
  simp only [Prod.mk.injEq] at pair
  exact ⟨before, present, pair⟩

theorem symm (same : ledger.SameErrands later) : later.SameErrands ledger := Eq.symm same

theorem routed (same : ledger.SameErrands later) {handler : Ticket}
    (routed : ledger.Routed context handler) : later.Routed context handler := by
  intro number own
  obtain ⟨errand, found, home⟩ := routed number own
  obtain ⟨after, present, _, operation⟩ := same.symm.find found
  exact ⟨after, present, operation ▸ home⟩

end SameErrands

theorem Leg.keeps_of_answered {leg : Leg} (answered : leg.isAnswered = true) :
    leg.keeps = false := by
  cases leg with
  | answered rest => rfl
  | captured | underway => cases answered

theorem Routed.countP {invocation : Invocation Ticket}
    (routed : ledger.Routed context invocation.handler) {number : Nat} {errand : Errand}
    (found : ledger.errands[number]? = some errand) :
    ((if context = errand.operation.context then [invocation] else []).countP fun invocation =>
      invocation.handler = some number) = if invocation.handler = some number then 1 else 0 := by
  by_cases own : invocation.handler = some number
  · obtain ⟨other, known, home⟩ := routed number own
    rw [found, Option.some.injEq] at known
    simp [known, home, own]
  · split <;> simp [own]

namespace Located

theorem of_step (located : ledger.Located) (errands : ledger.SameErrands later)
    (homes : ∀ (service : ServiceId) (home : ContextId),
      ledger.system.homes[service]? = some home → later.system.homes[service]? = some home)
    (existing : ∀ home ∈ later.system.homes, home < later.system.contexts.length)
    (issued : ∀ operation ∈ later.system.operations, operation ∈ ledger.system.operations ∨
      ∃ errand ∈ ledger.errands, errand.operation = operation)
    (queued : ∀ context, ∀ invocation ∈ (later.system.view context).queue,
      ledger.Routed context invocation.handler)
    (called : ∀ entry ∈ later.program.invoked, ledger.Routed entry.1 entry.2.handler)
    (ran : ∀ entry ∈ later.running, ledger.Routed entry.1 entry.2)
    (places : ∀ number before after, ledger.errands[number]? = some before →
      later.errands[number]? = some after → before.operation = after.operation →
        later.places number after = ledger.places number before)
    (apart : ∀ (number : Nat) (before after : Errand), ledger.errands[number]? = some before →
      later.errands[number]? = some after → after.leg.isAnswered = true →
        (later.system.operations.countP fun operation => operation.handler = some number) = 0) :
    later.Located where
  numbered number errand found := by
    obtain ⟨before, present, _, operation⟩ := errands.find found
    rw [← operation]
    exact located.numbered number before present
  housed errand member := by
    obtain ⟨number, found⟩ := List.mem_iff_getElem?.mp member
    obtain ⟨before, present, service, operation⟩ := errands.find found
    rw [← service, ← operation]
    exact homes _ _ (located.housed before (List.mem_of_getElem? present))
  existing := existing
  issued operation member := by
    have before : ∃ errand ∈ ledger.errands, errand.operation = operation :=
      (issued operation member).elim (located.issued operation) id
    obtain ⟨errand, known, own⟩ := before
    obtain ⟨number, found⟩ := List.mem_iff_getElem?.mp known
    obtain ⟨after, present, _, same⟩ := errands.symm.find found
    exact ⟨after, List.mem_of_getElem? present, same.trans own⟩
  queued context invocation member := errands.routed (queued context invocation member)
  called entry member := errands.routed (called entry member)
  ran entry member := errands.routed (ran entry member)
  once number errand found := by
    obtain ⟨before, present, _, operation⟩ := errands.find found
    rw [places number before errand present found operation]
    exact located.once number before present
  apart number errand found answered := by
    obtain ⟨before, present, _, _⟩ := errands.find found
    exact apart number before errand present found answered

theorem routed_of_errand (located : ledger.Located) {errand : Errand}
    (member : errand ∈ ledger.errands) :
    ledger.Routed errand.operation.context errand.operation.handler := by
  intro number own
  obtain ⟨index, found⟩ := List.mem_iff_getElem?.mp member
  have numbered := located.numbered index errand found
  rw [own, Option.some.injEq] at numbered
  exact ⟨errand, numbered ▸ found, rfl⟩

theorem bound_of_errand (located : ledger.Located) {errand : Errand}
    (member : errand ∈ ledger.errands) :
    errand.operation.context < ledger.system.contexts.length :=
  located.existing _ (List.mem_of_getElem? (located.housed errand member))

theorem of_legs (located : ledger.Located) (errands : ledger.SameErrands later)
    (homes : later.system.homes = ledger.system.homes)
    (wider : ledger.system.contexts.length ≤ later.system.contexts.length)
    (issued : ∀ operation ∈ later.system.operations, operation ∈ ledger.system.operations ∨
      ∃ errand ∈ ledger.errands, errand.operation = operation)
    (queues : ∀ context,
      (later.system.view context).queue = (ledger.system.view context).queue)
    (invoked : later.program.invoked = ledger.program.invoked)
    (ran : ∀ entry ∈ later.running, entry ∈ ledger.running)
    (moved : ∀ number before after, ledger.errands[number]? = some before →
      later.errands[number]? = some after →
        after.leg.keeps.toNat + later.system.operations.countP (fun operation =>
          operation.handler = some number) =
        before.leg.keeps.toNat + ledger.system.operations.countP fun operation =>
          operation.handler = some number)
    (answers : ∀ (number : Nat) (before after : Errand), ledger.errands[number]? = some before →
      later.errands[number]? = some after → after.leg.isAnswered = true →
        before.leg.isAnswered = true) : later.Located := by
  refine located.of_step errands (fun _ _ found => homes ▸ found) (fun home member => ?_) issued
    (fun context => ?_) (invoked ▸ located.called)
    (fun entry member => located.ran entry (ran entry member))
    (fun number before after found present same => ?_)
    fun number before after found present answered => ?_
  · exact Nat.lt_of_lt_of_le (located.existing home (homes ▸ member)) wider
  · rw [queues]
    exact located.queued context
  · simp only [places, queues, invoked, same, moved number before after found present]
  · have earlier := answers number before after found present answered
    have balance := moved number before after found present
    rw [Leg.keeps_of_answered answered, Leg.keeps_of_answered earlier,
      located.apart number before found earlier] at balance
    exact Nat.eq_zero_of_add_eq_zero_left balance

theorem of_same (located : ledger.Located) (errands : later.errands = ledger.errands)
    (homes : later.system.homes = ledger.system.homes)
    (wider : ledger.system.contexts.length ≤ later.system.contexts.length)
    (operations : later.system.operations.Perm ledger.system.operations)
    (queues : ∀ context,
      (later.system.view context).queue = (ledger.system.view context).queue)
    (invoked : later.program.invoked = ledger.program.invoked)
    (ran : ∀ entry ∈ later.running, entry ∈ ledger.running) : later.Located := by
  refine located.of_legs (by rw [SameErrands, errands]) homes wider
    (fun _ member => .inl (operations.mem_iff.mp member)) queues invoked ran
    (fun number before after found present => ?_) fun number before after found present => ?_
  all_goals rw [errands, found, Option.some.injEq] at present
  · rw [present, operations.countP_eq]
  · exact fun answered => present ▸ answered

theorem of_count (located : ledger.Located)
    (change : Context (Invocation Ticket) → Context (Invocation Ticket))
    (queue : ∀ found, (change found).queue = found.queue)
    (system : later.system = ledger.system.updateContext context change)
    (errands : later.errands = ledger.errands)
    (invoked : later.program.invoked = ledger.program.invoked)
    (ran : ∀ entry ∈ later.running, entry ∈ ledger.running) : later.Located := by
  refine located.of_same errands (by rw [system]; rfl) ?_ (by rw [system]; exact .refl _)
    (fun other => ?_) invoked ran
  · exact Nat.le_of_eq (by rw [system, System.length_updateContext])
  · rw [system, System.queue_view_updateContext _ _ _ queue]

theorem posted (located : ledger.Located) (errands : ledger.SameErrands later)
    (homes : later.system.homes = ledger.system.homes)
    (bound : context < ledger.system.contexts.length) {invocation : Invocation Ticket}
    (contexts : later.system.contexts = (ledger.system.post context invocation).contexts)
    (routed : ledger.Routed context invocation.handler)
    (issued : ∀ operation ∈ later.system.operations, operation ∈ ledger.system.operations)
    (invoked : later.program.invoked = ledger.program.invoked)
    (running : later.running = ledger.running)
    (moved : ∀ number before after, ledger.errands[number]? = some before →
      later.errands[number]? = some after →
        after.leg.keeps.toNat + later.system.operations.countP (fun operation =>
            operation.handler = some number) +
          (if invocation.handler = some number then 1 else 0) =
        before.leg.keeps.toNat + ledger.system.operations.countP fun operation =>
          operation.handler = some number)
    (answers : ∀ (number : Nat) (before after : Errand), ledger.errands[number]? = some before →
      later.errands[number]? = some after → after.leg.isAnswered = true →
        before.leg.isAnswered = true ∨ invocation.handler = some number) : later.Located := by
  have views (other : ContextId) : (later.system.view other).queue =
      (ledger.system.view other).queue ++ if context = other then [invocation] else [] := by
    rw [System.view_congr contexts, System.post, System.view_updateContext]
    by_cases same : context = other
    · subst same
      simp [bound]
    · simp [same]
  refine located.of_step errands (fun _ _ found => homes ▸ found) (fun home member => ?_)
    (fun operation member => .inl (issued operation member))
    (fun other queued member => ?_) (invoked ▸ located.called) (running ▸ located.ran)
    (fun number before after found present same => ?_)
    fun number before after found present answered => ?_
  · have wide : later.system.contexts.length = ledger.system.contexts.length := by
      simp [contexts, System.post, System.updateContext]
    rw [wide]
    exact located.existing home (homes ▸ member)
  · rw [views, List.mem_append] at member
    rcases member with earlier | last
    · exact located.queued other queued earlier
    · split at last
      next own =>
        rw [List.mem_singleton.mp last, ← own]
        exact routed
      next => cases last
  · have balance := moved number before after found present
    have queue : (later.system.view after.operation.context).queue.countP (fun invocation =>
          invocation.handler = some number) =
        (ledger.system.view before.operation.context).queue.countP (fun invocation =>
          invocation.handler = some number) +
            if invocation.handler = some number then 1 else 0 := by
      rw [views, List.countP_append, ← same, routed.countP found]
    simp only [places, queue, invoked]
    omega
  · have balance := moved number before after found present
    have once := located.once number before found
    rw [Leg.keeps_of_answered answered] at balance
    rcases answers number before after found present answered with earlier | own
    · rw [Leg.keeps_of_answered earlier, located.apart number before found earlier] at balance
      omega
    · simp only [own, if_true, places] at balance once
      omega

end Located

structure Kept (ledger : Ledger) : Prop where
  counted : ledger.Counted
  located : ledger.Located

end AsyncFiles.Ledger
