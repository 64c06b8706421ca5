import AsyncFiles.Proofs.Descriptors.Held
import AsyncFiles.Proofs.Moving.Order

namespace AsyncFiles.Moving

open Access Error Host

def Shared.begin (program : Program) (service : ServiceId) : Shared Ticket :=
  { system := program.system, service, idle := program.all }

namespace Shared

variable {Handler : Type} {shared : Shared Handler} {state : StateId} {raw : Int}

/-- The shutdown takes its snapshot while a move carries the state. -/
def CarriedPast (shared : Shared Handler) (events : List Event) (state : StateId) : Prop :=
  ∃ early late, events = early ++ .proceed :: late ∧ (shared.run early).stage = .marked ∧
    state ∈ (shared.run early).carried

/-- Another move goes into the implementation that stands on the state, and closes it. -/
def MovedInto (shared : Shared Handler) (events : List Event) (state : StateId) : Prop :=
  ∃ early target source late, events = early ++ .advance (.closing target source) :: late ∧
    .closing target source ∈ (shared.run early).moves ∧ target.state = state

def intoStep (shared : Shared Handler) : Event → List StateId
  | .advance (.closing target source) =>
    if .closing target source ∈ shared.moves then [target.state] else []
  | _ => []

def pending (shared : Shared Handler) : List StateId :=
  match shared.stage with
  | .closing rest => rest
  | _ => []

def Taken (shared : Shared Handler) : Prop :=
  match shared.stage with
  | .closing _ | .finished => True
  | _ => False

theorem movedInto_cons {event : Event} {rest : List Event} :
    shared.MovedInto (event :: rest) state ↔
      state ∈ shared.intoStep event ∨ (shared.step event).MovedInto rest state := by
  constructor
  · rintro ⟨early, target, source, late, same, underWay, rfl⟩
    cases early with
    | nil =>
      cases same
      left
      simp only [intoStep, run_nil] at underWay ⊢
      rw [if_pos underWay]
      exact List.mem_singleton_self _
    | cons first early =>
      cases same
      exact .inr ⟨early, target, source, late, rfl, underWay, rfl⟩
  · rintro (first | ⟨early, target, source, late, rfl, underWay, same⟩)
    · cases event with
      | advance progress =>
        cases progress with
        | closing target source =>
          simp only [intoStep] at first
          split at first
          next underWay =>
            exact ⟨[], target, source, rest, rfl, underWay, (List.mem_singleton.mp first).symm⟩
          next => cases first
        | _ => cases first
      | _ => cases first
    · exact ⟨event :: early, target, source, late, rfl, underWay, same⟩

theorem not_movedInto_nil : ¬ shared.MovedInto [] state := by
  rintro ⟨early, target, source, late, same, _⟩
  simp at same

theorem handle_closeState (system : System Handler) (closed state : StateId) :
    ((system.closeState closed).2.state state).handle = .closed ↔
      (system.state state).handle = .closed ∨ state = closed := by
  have handle := system.handle_releaseState closed state
  change ((system.closeState closed).2.state state).handle = _ at handle
  rw [handle]
  by_cases same : closed = state
  · simp [same]
  · simp [same, Ne.symm same]

theorem handle_move {event : Event} (moves : event ≠ .proceed) :
    ((shared.step event).system.state state).handle = .closed ↔
      (shared.system.state state).handle = .closed ∨ state ∈ shared.intoStep event := by
  cases event with
  | moveConstruct source | moveAssign target source =>
    simp only [step, intoStep]
    split <;> simp
  | advance progress =>
    by_cases underWay : progress ∈ shared.moves
    · rw [step_advance underWay]
      cases progress with
      | closing target source =>
        simp only [intoStep, if_pos underWay, List.mem_singleton]
        exact handle_closeState shared.system target.state state
      | leaving target source =>
        have states := shared.system.states_detach shared.service source
        have same : (shared.advance (.leaving target source)).system.state state =
            shared.system.state state := by
          calc
            _ = shared.system.addState.2.state state := by
              simp only [advance, System.state, states]
            _ = shared.system.state state := shared.system.state_addState state
        simp [same, intoStep]
      | arriving target source moved =>
        cases target with
        | none =>
          have states := System.states_register shared.system shared.service moved
          simp [advance, System.state, states, intoStep]
        | some target => simp [advance, intoStep, System.state, System.updateRegistry,
            System.updateService]
    · rw [show shared.step (.advance progress) = shared from if_neg underWay]
      cases progress <;> simp [intoStep, underWay]
  | proceed => contradiction

theorem stage_move {event : Event} (moves : event ≠ .proceed) :
    (shared.step event).stage = shared.stage := by
  cases event with
  | moveConstruct source | moveAssign target source =>
    simp only [step]
    split <;> rfl
  | advance progress =>
    simp only [step]
    split
    next =>
      cases progress with
      | arriving target source moved => cases target <;> rfl
      | _ => rfl
    next => rfl
  | proceed => contradiction

theorem taken_step (taken : shared.Taken) (event : Event) : (shared.step event).Taken := by
  by_cases moves : event = .proceed
  · subst moves
    cases stage : shared.stage with
    | closing rest => cases rest <;> simp [step, proceed, stage, Taken]
    | finished => simp [step, proceed, stage, Taken]
    | _ => simp [Taken, stage] at taken
  · rwa [Taken, stage_move moves]

theorem not_marked_run (taken : shared.Taken) (events : List Event) :
    (shared.run events).stage ≠ .marked := by
  induction events generalizing shared with
  | nil =>
    intro marked
    have stage : shared.stage = .marked := marked
    simp [Taken, stage] at taken
  | cons event rest ih => exact ih (taken_step taken event)

theorem handle_step (taken : shared.Taken) (event : Event) :
    (((shared.step event).system.state state).handle = .closed ∨
        state ∈ (shared.step event).pending) ↔
      ((shared.system.state state).handle = .closed ∨ state ∈ shared.pending) ∨
        state ∈ shared.intoStep event := by
  by_cases moves : event = .proceed
  · subst moves
    cases stage : shared.stage with
    | closing rest =>
      cases rest with
      | nil => simp [step, proceed, stage, pending, intoStep, System.state, System.updatePool,
          System.updateService]
      | cons first rest =>
        have closed := handle_closeState shared.system first state
        simp only [step, proceed, stage, pending, intoStep, closed, List.mem_cons,
          List.not_mem_nil, or_false, or_assoc]
    | finished => simp [step, proceed, stage, intoStep]
    | _ => simp [Taken, stage] at taken
  · rw [handle_move moves, pending, stage_move moves, ← pending, or_right_comm]

theorem closed_run_taken (taken : shared.Taken) {events : List Event}
    (finished : (shared.run events).stage = .finished) :
    ((shared.run events).system.state state).handle = .closed ↔
      ((shared.system.state state).handle = .closed ∨ state ∈ shared.pending) ∨
        shared.MovedInto events state := by
  induction events generalizing shared with
  | nil => simp [show shared.stage = .finished from finished, pending, not_movedInto_nil]
  | cons event rest ih =>
    rw [run_cons] at finished ⊢
    rw [ih (taken_step taken event) finished, handle_step taken, movedInto_cons, or_assoc]

theorem carriedPast_proceed (marked : shared.stage = .marked) {rest : List Event} :
    shared.CarriedPast (.proceed :: rest) state ↔ state ∈ shared.carried := by
  constructor
  · rintro ⟨early, late, same, still, carried⟩
    cases early with
    | nil => exact carried
    | cons first early =>
      cases same
      have taken : (shared.step .proceed).Taken := by simp [step, proceed, marked, Taken]
      exact absurd still (not_marked_run taken early)
  · intro carried
    exact ⟨[], rest, rfl, marked, carried⟩

theorem carriedPast_move {event : Event} (moves : event ≠ .proceed) {rest : List Event} :
    shared.CarriedPast (event :: rest) state ↔ (shared.step event).CarriedPast rest state := by
  constructor
  · rintro ⟨early, late, same, still, carried⟩
    cases early with
    | nil =>
      cases same
      contradiction
    | cons first early =>
      cases same
      exact ⟨early, late, rfl, still, carried⟩
  · rintro ⟨early, late, rfl, still, carried⟩
    exact ⟨event :: early, late, rfl, still, carried⟩

theorem Consistent.closed_run (consistent : shared.Consistent)
    (closed : (shared.system.state state).handle = .closed) (events : List Event) :
    ((shared.run events).system.state state).handle = .closed := by
  induction events generalizing shared with
  | nil => exact closed
  | cons event rest ih =>
    refine ih (consistent.step event) ?_
    rcases (consistent.shifts event).handle state with same | gone
    · exact same.trans closed
    · exact gone

/-- What the snapshot does not have is carried. -/
theorem closed_run_marked (consistent : shared.Consistent) (located : shared.Located state)
    (held : (shared.system.state state).handle ≠ .closed) (marked : shared.stage = .marked)
    {events : List Event} (finished : (shared.run events).stage = .finished) :
    ((shared.run events).system.state state).handle = .closed ↔
      ¬ shared.CarriedPast events state ∨ shared.MovedInto events state := by
  induction events generalizing shared with
  | nil =>
    rw [run_nil, marked] at finished
    cases finished
  | cons event rest ih =>
    rw [run_cons] at finished ⊢
    by_cases moves : event = .proceed
    · subst moves
      have taken : (shared.step .proceed).Taken := by simp [step, proceed, marked, Taken]
      have snapshot : (shared.step .proceed).pending =
          shared.system.registered shared.service := by simp [step, proceed, marked, pending]
      have same : (shared.step .proceed).system = shared.system := by
        simp [step, proceed, marked]
      rw [closed_run_taken taken finished, snapshot, same,
        consistent.mem_registered_iff located held, carriedPast_proceed marked, movedInto_cons]
      simp [held, intoStep]
    · rw [carriedPast_move moves, movedInto_cons]
      have closed : ((shared.step event).system.state state).handle = .closed ↔ _ :=
        handle_move moves
      by_cases now : state ∈ shared.intoStep event
      · have gone := (consistent.step event).closed_run (closed.mpr (.inr now)) rest
        simp [gone, now]
      · rw [or_iff_left now] at closed
        have still := mt closed.mp held
        have ahead := ih (consistent.step event)
          ((consistent.shifts event).located (shared.service_step event) located) still
          ((stage_move moves).trans marked) finished
        rw [ahead]
        simp [now]

/-- A descriptor is open as long as the state that held it holds it. -/
def Settled (shared : Shared Handler) (state : StateId) (raw : Int) : Prop :=
  ((shared.system.state state).handle = ⟨raw⟩ ∧ shared.system.host.opened raw = true) ∨
    ((shared.system.state state).handle = .closed ∧ shared.system.host.opened raw = false)

theorem Consistent.settled_step (consistent : shared.Consistent) (number : raw ≠ -1)
    (settled : shared.Settled state raw) (event : Event) :
    (shared.step event).Settled state raw := by
  rcases (consistent.shifts event).closes_or_same with ⟨closed, system⟩ | ⟨host, same⟩
  · have opened : (shared.step event).system.host.opened raw = (shared.system.host.opened raw &&
        !decide (raw = (shared.system.state closed).handle.raw)) := by
      rw [system]
      exact (shared.system.host.shuts_close (shared.system.state closed).handle).opened raw
    have handle := shared.system.handle_releaseState closed state
    change ((shared.system.closeState closed).2.state state).handle = _ at handle
    rw [← system] at handle
    rcases settled with ⟨held, there⟩ | ⟨gone, shut⟩
    · by_cases mine : closed = state
      · subst mine
        rw [if_pos rfl] at handle
        exact .inr ⟨handle, by simp [opened, held]⟩
      · rw [if_neg mine] at handle
        have other : raw ≠ (shared.system.state closed).handle.raw := by
          intro same
          have also : (shared.system.state closed).handle = ⟨raw⟩ := by rw [same]
          exact mine (consistent.laid.backed.unique number also held)
        exact .inl ⟨handle.trans held, by simp [opened, there, other]⟩
    · refine .inr ⟨?_, by simp [opened, shut]⟩
      rw [handle, gone, ite_self]
  · rw [Settled, host, same]
    exact settled

theorem Consistent.settled_run (consistent : shared.Consistent) (number : raw ≠ -1)
    (settled : shared.Settled state raw) (events : List Event) :
    (shared.run events).Settled state raw := by
  induction events generalizing shared with
  | nil => exact settled
  | cons event rest ih =>
    exact ih (consistent.step event) (consistent.settled_step number settled event)

end Shared

theorem consistent_begin {program : Program} {service : ServiceId} (conserved : program.Conserved)
    (known : service < program.system.services.length) :
    (Shared.begin program service).Consistent where
  laid :=
    { books := conserved.books
      backed := conserved.sound.backed
      apart := conserved.books.nodup
      bound := by simp [Shared.begin, Shared.carried] }
  known := known
  own := by simp [Shared.begin]
  emptied := by simp [Shared.begin]

/-- A shutdown of a service that overlaps with moves; some of them may have begun before it. -/
structure Overlap where
  host : Host
  acts : List Act
  service : ServiceId
  before : List Event
  after : List Event

namespace Overlap

def called (overlap : Overlap) : Shared Ticket :=
  (Shared.begin ((Program.fresh overlap.host).run overlap.acts) overlap.service).run overlap.before

def marked (overlap : Overlap) : Shared Ticket := overlap.called.step .proceed

def returned (overlap : Overlap) : Shared Ticket := overlap.marked.run overlap.after

theorem service_called (overlap : Overlap) : overlap.called.service = overlap.service :=
  Shared.service_run _ overlap.before

theorem known_of_registered (overlap : Overlap) {state : StateId}
    (registered : state ∈ overlap.called.system.registered overlap.service) :
    overlap.service <
      ((Program.fresh overlap.host).run overlap.acts).system.services.length := by
  have same := Shared.length_services_run
    (Shared.begin ((Program.fresh overlap.host).run overlap.acts) overlap.service) overlap.before
  by_contra beyond
  have absent : overlap.called.system.service? overlap.service = none :=
    List.getElem?_eq_none (Nat.le_trans (Nat.le_of_eq same) (Nat.le_of_not_lt beyond))
  simp [System.registered, absent] at registered

/-- Whatever moves within the service a first shutdown overlaps with, when all calls have returned a
descriptor that was held by a registered state when the shutdown was called is still open if and
only if a move carried the state past the snapshot and no other move went into it. -/
theorem open_iff_carried (overlap : Overlap) {state : StateId}
    (disciplined : (Program.fresh overlap.host).Disciplined overlap.acts)
    (ahead : overlap.called.stage = .ahead)
    (first : overlap.called.system.isShutDown overlap.service = false)
    (registered : state ∈ overlap.called.system.registered overlap.service)
    (held : (overlap.called.system.state state).handle.isOpen = true)
    (rest : overlap.returned.AtRest) :
    overlap.returned.system.host.opened (overlap.called.system.state state).handle.raw = true ↔
      overlap.marked.CarriedPast overlap.after state ∧
        ¬ overlap.marked.MovedInto overlap.after state := by
  let raw := (overlap.called.system.state state).handle.raw
  have number : raw ≠ -1 := by simpa [FileHandle.isOpen, raw] using held
  have conserved : ((Program.fresh overlap.host).run overlap.acts).Conserved :=
    (Program.conserved_fresh overlap.host).run disciplined
  have consistent : overlap.called.Consistent :=
    (consistent_begin conserved (overlap.known_of_registered registered)).run overlap.before
  have located : overlap.called.Located state := by
    obtain ⟨imp, member, home, same⟩ := consistent.laid.books.mem_registered.mp registered
    exact .inl ⟨imp, member, home.trans overlap.service_called.symm, same⟩
  have marked : overlap.marked = { overlap.called with
      system := overlap.called.system.markShutDown overlap.called.service
      stage := .marked } := by
    simp only [Overlap.marked, Shared.step, Shared.proceed, ahead, overlap.service_called, first,
      Bool.false_eq_true, if_false]
  have shown : (overlap.marked.system.state state).handle ≠ .closed := by
    rw [marked]
    intro closed
    exact number (congrArg FileHandle.raw closed)
  -- The descriptor is open as long as the state holds it, and closed when it holds it no more.
  have settled : overlap.returned.Settled state raw := by
    have begun : overlap.called.Settled state raw :=
      .inl ⟨rfl, consistent.laid.backed.opened_of_handle state held⟩
    exact (consistent.step .proceed).settled_run number
      (consistent.settled_step number begun .proceed) overlap.after
  have closed : (overlap.returned.system.state state).handle = .closed ↔
      ¬ overlap.marked.CarriedPast overlap.after state ∨
        overlap.marked.MovedInto overlap.after state :=
    Shared.closed_run_marked (consistent.step .proceed)
      ((consistent.shifts .proceed).located (overlap.called.service_step .proceed) located) shown
      (congrArg Shared.stage marked) rest.2
  have opened : overlap.returned.system.host.opened raw = true ↔
      ¬ (overlap.returned.system.state state).handle = .closed := by
    rcases settled with ⟨holds, there⟩ | ⟨gone, shut⟩
    · refine iff_of_true there fun gone => number ?_
      exact congrArg FileHandle.raw (holds.symm.trans gone)
    · exact iff_of_false (by simp [shut]) (not_not.mpr gone)
  rw [opened, closed, not_or, not_not]

end Overlap

/-- A file on standard input, which a move is about to take over when its service is shut down. -/
def overlapping (after : List Event) : Overlap where
  host := .fresh default
  acts :=
    [.context .create, .service (.start 0 {})] ++
      [.implementation (.construct 0),
        .implementation (.call 0 ⟨⟨1, 1⟩, 0, 0⟩ (.assign ⟨0⟩))]
  service := 0
  before := [.moveConstruct ⟨⟨1, 1⟩, 0, 0⟩]
  after

/-- The snapshot is taken when the file has left its slot. -/
def snapshotInBetween : List Event :=
  [.advance (.leaving none ⟨⟨1, 1⟩, 0, 0⟩), .proceed,
    .advance (.arriving none ⟨⟨1, 1⟩, 0, 1⟩ 0), .proceed, .proceed]

def snapshotBefore : List Event :=
  [.proceed, .advance (.leaving none ⟨⟨1, 1⟩, 0, 0⟩),
    .advance (.arriving none ⟨⟨1, 1⟩, 0, 1⟩ 0), .proceed, .proceed]

theorem called_overlapping (after : List Event) :
    (overlapping after).called =
      (Shared.begin ((served (.fresh default)).run [.implementation (.construct 0),
        .implementation (.call 0 ⟨⟨1, 1⟩, 0, 0⟩ (.assign ⟨0⟩))]) 0).run
        [.moveConstruct ⟨⟨1, 1⟩, 0, 0⟩] := by
  rw [← run_served, ← Program.run_append]
  rfl

/-- The shutdown is over, and the file is registered and open. -/
theorem open_snapshotInBetween :
    0 ∈ (overlapping snapshotInBetween).called.system.registered 0 ∧
      ((overlapping snapshotInBetween).called.system.state 0).handle = ⟨0⟩ ∧
      (overlapping snapshotInBetween).returned.AtRest ∧
      (overlapping snapshotInBetween).returned.system.isShutDown 0 = true ∧
      0 ∈ (overlapping snapshotInBetween).returned.system.registered 0 ∧
      (overlapping snapshotInBetween).returned.system.host.opened 0 = true := by
  simp only [Overlap.returned, Overlap.marked, called_overlapping]
  exact ⟨by decide, rfl, ⟨rfl, rfl⟩, rfl, by decide, rfl⟩

theorem closed_snapshotBefore :
    (Program.fresh (overlapping snapshotBefore).host).Disciplined
        (overlapping snapshotBefore).acts ∧
      (overlapping snapshotBefore).returned.AtRest ∧
      (overlapping snapshotBefore).returned.system.host.opened 0 = false := by
  have disciplined : (Program.fresh (overlapping snapshotBefore).host).Disciplined
      (overlapping snapshotBefore).acts := by
    simp only [overlapping]
    rw [Program.disciplined_append, run_served]
    refine ⟨⟨fun _ => trivial, fun _ => trivial, trivial⟩, ?_⟩
    exact ⟨fun _ => trivial, fun _ => ⟨rfl, .inr (by decide)⟩, trivial⟩
  have rest : (overlapping snapshotBefore).returned.AtRest := by
    simp only [Overlap.returned, Overlap.marked, called_overlapping]
    exact ⟨rfl, rfl⟩
  refine ⟨disciplined, rest, ?_⟩
  have registered : (0 : StateId) ∈ (overlapping snapshotBefore).called.system.registered
      (overlapping snapshotBefore).service := by
    rw [called_overlapping]
    decide
  have missed := (overlapping snapshotBefore).open_iff_carried disciplined
    (by rw [called_overlapping]; rfl) (by rw [called_overlapping]; rfl) registered
    (by rw [called_overlapping]; rfl) rest
  have uncarried : ¬ (overlapping snapshotBefore).marked.CarriedPast snapshotBefore 0 := by
    rw [snapshotBefore, Shared.carriedPast_proceed]
    all_goals simp only [Overlap.marked, called_overlapping]
    · decide
    · rfl
  have holds : ((overlapping snapshotBefore).called.system.state 0).handle = ⟨0⟩ := by
    rw [called_overlapping]
    rfl
  rw [holds] at missed
  rw [← Bool.not_eq_true, missed]
  exact fun both => uncarried both.1

end AsyncFiles.Moving
