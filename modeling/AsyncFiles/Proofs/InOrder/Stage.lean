import AsyncFiles.Proofs.InOrder.Log

namespace AsyncFiles

open Error Host

inductive Hand
  | free
  /-- It has looked at the token. -/
  | admitted (operation : Operation Ticket)
  /-- Its transfer waits at a pipe. -/
  | stalled (operation : Operation Ticket) (call : Stalled)
  | delivered (context : ContextId)
  | settled

namespace Hand

def tasks : Hand → List (Task Ticket)
  | .free => []
  | .admitted operation => [.admitted operation]
  | .stalled operation call => [.stalled operation call]
  | .delivered context => [.delivered context]
  | .settled => [.settled]

def operations : Hand → List (Operation Ticket)
  | .admitted operation | .stalled operation _ => [operation]
  | .free | .delivered _ | .settled => []

theorem begun_of_none {hand : Hand} (none : hand.operations = []) :
    begun hand.tasks = fun host => host := by
  cases hand with
  | free | delivered | settled => rfl
  | admitted | stalled => cases none

end Hand

namespace System

variable {system : System Ticket}

/-- The file of an operation has still the handle that the operation captured. -/
def Intact (system : System Ticket) (operation : Operation Ticket) : Prop :=
  (system.state operation.state).handle = operation.handle

def Ended (system : System Ticket) (operation : Operation Ticket) : Prop :=
  (system.state operation.state).handle = .closed ∧
    (system.state operation.state).source.destroyed = true

theorem Ended.cancelled {operation : Operation Ticket} (ended : system.Ended operation) :
    system.isCancelled operation = true := by
  simp [isCancelled, Cancellation.Token.isCancelled, ended.2]

theorem state_close (system : System Ticket) (imp : Implementation) (id : StateId) :
    (system.close imp).2.state id = system.state id ∨
      id = imp.state ∧ ((system.close imp).2.state id).handle = .closed ∧
        ((system.close imp).2.state id).source.destroyed = true := by
  by_cases bound : imp.state < system.states.length
  · have closed := system.state_updateState (fun _ => (system.state imp.state).release.2) bound id
    split at closed
    next same =>
      have released : (system.close imp).2.state id = (system.state imp.state).release.2 := closed
      rw [released]
      exact .inr ⟨same.symm, rfl, rfl⟩
    next => exact .inl closed
  · left
    change ((system.states.modify imp.state _)[id]?).getD {} = _
    rw [List.modify_eq_self (Nat.le_of_not_lt bound)]
    rfl

theorem handle_close (system : System Ticket) (imp : Implementation) :
    ((system.close imp).2.state imp.state).handle = .closed := by
  change (((system.states.modify imp.state _)[imp.state]?).getD {}).handle = _
  rw [List.getElem?_modify]
  cases system.states[imp.state]? <;> simp

theorem host_close (system : System Ticket) (imp : Implementation) :
    (system.close imp).2.host = ((system.handleOf imp).close system.host).2 := rfl

theorem state_cancel (system : System Ticket) (imp : Implementation) (id : StateId) :
    (system.cancel imp).2.state id = system.state id ∨
      (system.state id).handle.isOpen = true ∧
        ((system.cancel imp).2.state id).handle = (system.state id).handle := by
  simp only [cancel]
  split
  next opened =>
    by_cases bound : imp.state < system.states.length
    · have cancelled := system.state_updateState FileState.cancel bound id
      split at cancelled
      next same =>
        exact .inr ⟨same ▸ opened, by rw [cancelled]; rfl⟩
      next => exact .inl cancelled
    · left
      simp only [state, updateState]
      rw [List.modify_eq_self (Nat.le_of_not_lt bound)]
  next => exact .inl rfl

theorem handle_cancel (system : System Ticket) (imp : Implementation) (id : StateId) :
    ((system.cancel imp).2.state id).handle = (system.state id).handle := by
  rcases system.state_cancel imp id with same | ⟨_, same⟩
  · rw [same]
  · exact same

theorem services_cancel (system : System Ticket) (imp : Implementation) :
    (system.cancel imp).2.services = system.services := by
  simp only [cancel]
  split <;> rfl

theorem host_cancel (system : System Ticket) (imp : Implementation) :
    (system.cancel imp).2.host = system.host := by
  simp only [cancel]
  split <;> rfl

end System

namespace Host

variable {host : Host}

theorem descriptor_close (host : Host) (raw other : Int) :
    (host.close raw).2.descriptor? other =
      if other = raw then none else host.descriptor? other := by
  have noted (other : Int) : (host.note (.close raw)).descriptor? other = host.descriptor? other :=
    rfl
  simp only [close, noted]
  cases found : host.descriptor? raw with
  | none =>
    simp only [noted]
    split
    next same => rw [same, found]
    next => rfl
  | some index =>
    have natural : ¬ raw < 0 := by
      intro negative
      simp [descriptor?, negative] at found
    have freed (later : Host) (descriptors : later.descriptors =
        host.descriptors.set raw.toNat none) :
        later.descriptor? other = if other = raw then none else host.descriptor? other := by
      simp only [descriptor?, descriptors]
      by_cases negative : other < 0
      · simp [negative]
      · by_cases same : other = raw
        · subst same
          by_cases bound : other.toNat < host.descriptors.length <;> simp [natural, bound]
        · have apart : raw.toNat ≠ other.toNat := by omega
          simp [negative, same, List.getElem?_set_ne apart]
    dsimp only
    split
    next => exact freed _ rfl
    next => exact freed _ rfl

end Host

namespace FileHandle

theorem eq_closed {handle : FileHandle} (closed : ¬ handle.isOpen = true) : handle = .closed := by
  obtain ⟨raw⟩ := handle
  simpa [isOpen, FileHandle.closed] using closed

theorem alike_close (handle : FileHandle) (host : Host) : host.Alike (handle.close host).2 := by
  simp only [close]
  split
  · simp only [lifted, Host.close]
    split
    · exact ⟨rfl, rfl, rfl, rfl⟩
    · split <;> exact ⟨rfl, rfl, rfl, rfl⟩
  · exact .refl host

theorem sameEnds_close {handle : FileHandle} {host : Host} (plain : host.Plain handle.raw) :
    host.SameEnds (handle.close host).2 := by
  simp only [close]
  split
  · exact Host.sameEnds_close plain
  · exact .refl host

theorem descriptor_close (handle : FileHandle) (host : Host) (raw : Int) :
    (handle.close host).2.descriptor? raw =
      if raw = handle.raw then none else host.descriptor? raw := by
  simp only [close]
  split
  next => exact host.descriptor_close handle.raw raw
  next closed =>
    split
    next same => rw [same, eq_closed closed]; rfl
    next => rfl

end FileHandle

namespace Program

/-- The service still runs, every file has the handle that it had, if it was not closed, and the
same ends of pipes are open. -/
structure Setting (first now : Program) (service : ServiceId) (context : ContextId) : Prop where
  single : now.system.Single service context
  bound : context < now.system.contexts.length
  handles : ∀ id, (now.system.state id).handle = (first.system.state id).handle ∨
    (now.system.state id).handle = .closed
  descriptors : ∀ id, (now.system.state id).handle.isOpen = true →
    now.system.host.descriptor? (now.system.state id).handle.raw =
      first.system.host.descriptor? (now.system.state id).handle.raw
  ends : first.system.host.SameEnds now.system.host

/-- Where the operations are that are not over. One that waits is spared or its token is dead; one
whose token the worker has looked at is spared or was cut off. A transfer that waits at a pipe waits
for ever. -/
structure Lined (first now : Program) (service : ServiceId) (context : ContextId) (acts : List Act)
    (hand : Hand) (waiting : List (Operation Ticket)) : Prop where
  line : now.system.line service = hand.tasks ++ waiting.map Task.issued
  captured : ∀ operation ∈ hand.operations ++ waiting, operation.context = context ∧
    (operation.handle = (first.system.state operation.state).handle ∨ operation.handle = .closed)
  waits : ∀ operation ∈ waiting, now.system.Intact operation ∨ now.system.Ended operation
  admitted : ∀ operation, hand = .admitted operation → now.system.Intact operation ∨
    CutOff first service acts operation ∧
      now.system.host.descriptor? operation.handle.raw = none
  stuck : ∀ operation call, hand = .stalled operation call →
    now.system.host.resume? call = none

/-- The log is in the order of issue, and handlers are called in its order. -/
structure Recorded (first now : Program) (context : ContextId) (log : List Entry)
    (left : List (Operation Ticket)) : Prop where
  issued : now.initiated.map Initiation.operation =
    first.initiated.map Initiation.operation ++ log.map Entry.operation ++ left
  called : ∃ called : List (Invocation Ticket),
    now.invoked = first.invoked ++ called.map (context, ·) ∧
      called ++ (now.system.view context).queue = log.map Entry.invocation

structure Replayed (first : Program) (service : ServiceId) (acts : List Act) (hand : Hand)
    (host : Host) (log : List Entry) : Prop where
  performed :
    let direct := performAll first.system.host ((performances log).map Entry.operation)
    direct.1 = (performances log).map Entry.completion ∧ (begun hand.tasks direct.2).Alike host
  aborted : ∀ entry ∈ log, entry.fate = .aborted ↔ entry.completion.result = .error .aborted
  untouched : ∀ entry ∈ log, entry.fate = .aborted →
    entry.completion.buffers = entry.operation.buffers
  cutOff : ∀ entry ∈ log, entry.fate = .cutOff →
    entry.completion = { result := .error (.ofErrno .badDescriptor)
                         buffers := entry.operation.buffers } ∧
      CutOff first service acts entry.operation

variable {first now later : Program} {service : ServiceId} {context : ContextId} {acts : List Act}
  {log : List Entry} {hand : Hand} {waiting left : List (Operation Ticket)}

namespace Setting

theorem of_same (setting : first.Setting now service context)
    (single : later.system.Single service context)
    (bound : now.system.contexts.length ≤ later.system.contexts.length)
    (states : later.system.states = now.system.states)
    (descriptors : later.system.host.descriptors = now.system.host.descriptors)
    (ends : now.system.host.SameEnds later.system.host) :
    first.Setting later service context := by
  have same (id : StateId) : later.system.state id = now.system.state id := by
    simp only [System.state, states]
  refine ⟨single, Nat.lt_of_lt_of_le setting.bound bound, fun id => ?_, fun id opened => ?_,
    setting.ends.trans ends⟩
  · rw [same]
    exact setting.handles id
  · rw [same] at opened ⊢
    rw [← setting.descriptors id opened]
    simp only [descriptor?, descriptors]

theorem cancel (setting : first.Setting now service context) (imp : Implementation) :
    first.Setting { now with system := (now.system.cancel imp).2 } service context := by
  refine ⟨setting.single.of_services (now.system.services_cancel imp), ?_, fun id => ?_,
    fun id opened => ?_, ?_⟩
  · exact (System.calm_cancel now.system imp).contexts ▸ setting.bound
  · rw [System.handle_cancel]
    exact setting.handles id
  · rw [System.handle_cancel] at opened ⊢
    rw [System.host_cancel]
    exact setting.descriptors id opened
  · rw [System.host_cancel]
    exact setting.ends

theorem plain (setting : first.Setting now service context) {imp : Implementation}
    (plain : first.system.host.Plain (first.system.handleOf imp).raw) :
    now.system.host.Plain (now.system.handleOf imp).raw := by
  by_cases opened : (now.system.handleOf imp).isOpen = true
  · have own : now.system.handleOf imp = first.system.handleOf imp := by
      rcases setting.handles imp.state with same | closed
      · exact same
      · rw [System.handleOf, closed] at opened
        cases opened
    rw [← own] at plain
    exact plain.of_sameEnds setting.ends (setting.descriptors imp.state opened)
  · rw [FileHandle.eq_closed opened]
    exact plain_of_none rfl

theorem apart (setting : first.Setting now service context)
    (waiting : first.Waiting service context)
    {id other : StateId} (opened : (now.system.state id).handle.isOpen = true)
    (raw : (now.system.state id).handle.raw = (now.system.state other).handle.raw) :
    id = other := by
  have handle : (now.system.state id).handle = (now.system.state other).handle :=
    congrArg FileHandle.mk raw
  have own (index : StateId) (opened : (now.system.state index).handle.isOpen = true) :
      (now.system.state index).handle = (first.system.state index).handle := by
    rcases setting.handles index with same | closed
    · exact same
    · rw [closed] at opened
      cases opened
  have first := own id opened
  have second := own other (handle ▸ opened)
  exact waiting.apart id other (first ▸ opened) (first.symm.trans (handle.trans second))

theorem close (setting : first.Setting now service context)
    (waiting : first.Waiting service context) (imp : Implementation)
    (ends : now.system.host.SameEnds (now.system.close imp).2.host) :
    first.Setting { now with system := (now.system.close imp).2 } service context := by
  refine ⟨setting.single.of_services rfl, setting.bound, fun id => ?_, fun id opened => ?_,
    setting.ends.trans ends⟩
  · rcases now.system.state_close imp id with same | ⟨_, closed, _⟩
    · rw [same]
      exact setting.handles id
    · exact .inr closed
  · rcases now.system.state_close imp id with same | ⟨_, closed, _⟩
    · rw [same] at opened ⊢
      rw [System.host_close, FileHandle.descriptor_close, if_neg ?_]
      · exact setting.descriptors id opened
      · intro raw
        have own := setting.apart waiting opened raw
        subst own
        rw [← same, System.handle_close] at opened
        cases opened
    · rw [closed] at opened
      cases opened

end Setting

namespace Lined

section

variable {operation : Operation Ticket} {rest : List (Task Ticket)}

theorem next (lined : first.Lined now service context acts hand waiting)
    (next : now.system.line service = .issued operation :: rest) :
    hand = .free ∧ ∃ others, waiting = operation :: others ∧ rest = others.map Task.issued := by
  rw [lined.line] at next
  cases hand with
  | free =>
    cases waiting with
    | nil => cases next
    | cons other others =>
      cases next
      exact ⟨rfl, others, rfl, rfl⟩
  | admitted | stalled | delivered | settled => cases next

theorem inHand (lined : first.Lined now service context acts hand waiting)
    (next : now.system.line service = .admitted operation :: rest) :
    hand = .admitted operation ∧ rest = waiting.map Task.issued := by
  rw [lined.line] at next
  cases hand with
  | free => cases waiting <;> cases next
  | admitted other =>
    cases next
    exact ⟨rfl, rfl⟩
  | stalled | delivered | settled => cases next

theorem stuckInHand (lined : first.Lined now service context acts hand waiting) {call : Stalled}
    (next : now.system.line service = .stalled operation call :: rest) :
    now.system.host.resume? call = none := by
  refine lined.stuck operation call ?_
  rw [lined.line] at next
  cases hand with
  | free => cases waiting <;> cases next
  | stalled other same =>
    cases next
    rfl
  | admitted | delivered | settled => cases next

theorem past (lined : first.Lined now service context acts hand waiting) {task : Task Ticket}
    (next : now.system.line service = task :: rest) (none : task.operation? = none) :
    hand.operations = [] ∧ rest = waiting.map Task.issued := by
  rw [lined.line] at next
  cases hand with
  | free =>
    cases waiting <;> cases next
    cases none
  | admitted | stalled =>
    cases next
    cases none
  | delivered | settled =>
    cases next
    exact ⟨rfl, rfl⟩

end

theorem of_same (lined : first.Lined now service context acts hand waiting) (act : Act)
    {ahead : Hand} {others : List (Operation Ticket)}
    (line : later.system.line service = ahead.tasks ++ others.map Task.issued)
    (captured : ∀ operation ∈ ahead.operations ++ others, operation ∈ hand.operations ++ waiting)
    (waits : ∀ operation ∈ others, operation ∈ waiting)
    (admitted : ∀ operation, ahead = .admitted operation → now.system.Intact operation ∨
      hand = .admitted operation)
    (stuck : ∀ operation call, ahead = .stalled operation call →
      later.system.host.resume? call = none)
    (states : later.system.states = now.system.states)
    (descriptors : later.system.host.descriptors = now.system.host.descriptors) :
    first.Lined later service context (acts ++ [act]) ahead others := by
  have same (id : StateId) : later.system.state id = now.system.state id := by
    simp only [System.state, states]
  refine ⟨line, fun operation member => lined.captured operation (captured operation member),
    fun operation member => ?_, fun operation own => ?_, stuck⟩
  · simp only [System.Intact, System.Ended, same]
    exact lined.waits operation (waits operation member)
  · have before : now.system.Intact operation ∨ CutOff first service acts operation ∧
        now.system.host.descriptor? operation.handle.raw = none :=
      (admitted operation own).elim .inl (lined.admitted operation)
    simp only [System.Intact, same, descriptor?, descriptors]
    exact before.imp_right fun cut => ⟨cut.1.append act, cut.2⟩

theorem of_still (lined : first.Lined now service context acts hand waiting) (act : Act)
    (line : later.system.line service = now.system.line service)
    (states : later.system.states = now.system.states)
    (host : later.system.host = now.system.host) :
    first.Lined later service context (acts ++ [act]) hand waiting :=
  lined.of_same act (line.trans lined.line) (fun _ => id) (fun _ => id) (fun _ => .inr)
    (host ▸ lined.stuck) states (congrArg Host.descriptors host)

theorem submit (lined : first.Lined now service context acts hand waiting)
    (setting : first.Setting now service context) (act : Act) {operation : Operation Ticket}
    (line : later.system.line service = now.system.line service ++ [.issued operation])
    (home : operation.context = context)
    (intact : now.system.Intact operation)
    (states : later.system.states = now.system.states)
    (host : later.system.host = now.system.host) :
    first.Lined later service context (acts ++ [act]) hand (waiting ++ [operation]) := by
  have same (id : StateId) : later.system.state id = now.system.state id := by
    simp only [System.state, states]
  refine ⟨?_, fun other member => ?_, fun other member => ?_, fun other own => ?_,
    host ▸ lined.stuck⟩
  · rw [line, lined.line, List.map_append, List.append_assoc]
    rfl
  · rw [← List.append_assoc] at member
    rcases List.mem_append.mp member with before | new
    · exact lined.captured other before
    · rw [List.mem_singleton.mp new]
      refine ⟨home, ?_⟩
      rw [← show (now.system.state operation.state).handle = operation.handle from intact]
      exact setting.handles operation.state
  · simp only [System.Intact, System.Ended, same]
    rcases List.mem_append.mp member with before | new
    · exact lined.waits other before
    · exact .inl (List.mem_singleton.mp new ▸ intact)
  · simp only [System.Intact, same, host]
    exact (lined.admitted other own).imp_right fun cut => ⟨cut.1.append act, cut.2⟩

theorem cancel (lined : first.Lined now service context acts hand waiting) (imp : Implementation)
    (act : Act) : first.Lined { now with system := (now.system.cancel imp).2 } service context
      (acts ++ [act]) hand waiting := by
  have handles (id : StateId) : ((now.system.cancel imp).2.state id).handle =
      (now.system.state id).handle := now.system.handle_cancel imp id
  refine ⟨?_, lined.captured, fun operation member => ?_, fun operation own => ?_,
    now.system.host_cancel imp ▸ lined.stuck⟩
  · exact (System.line_congr (now.system.services_cancel imp) service).trans lined.line
  · rcases lined.waits operation member with intact | ended
    · exact .inl ((handles operation.state).trans intact)
    · refine .inr ⟨(handles operation.state).trans ended.1, ?_⟩
      rcases now.system.state_cancel imp operation.state with same | ⟨opened, _⟩
      · rw [same]
        exact ended.2
      · -- There is nothing to cancel on a file that is closed.
        rw [ended.1] at opened
        cases opened
  · rw [System.host_cancel]
    exact (lined.admitted operation own).imp (handles operation.state).trans
      fun cut => ⟨cut.1.append act, cut.2⟩

/-- A close ends what waits. What the worker has admitted it cuts off. -/
theorem close (lined : first.Lined now service context acts hand waiting)
    (ran : first.run acts = now) {imp : Implementation}
    (allowed : now.allows (.implementation (.call service imp .close)) = true)
    (ends : now.system.host.SameEnds (now.system.close imp).2.host) :
    first.Lined { now with system := (now.system.close imp).2 } service context
      (acts ++ [.implementation (.call service imp .close)]) hand waiting := by
  refine ⟨(System.line_congr rfl service).trans lined.line, lined.captured,
    fun operation member => ?_, fun operation admitted => ?_, fun operation call stalled =>
      (FileHandle.alike_close _ _).stuck ends (lined.stuck operation call stalled)⟩
  · rcases now.system.state_close imp operation.state with same | ⟨_, closed⟩
    · simp only [System.Intact, System.Ended, same]
      exact lined.waits operation member
    · exact .inr closed
  · rcases lined.admitted operation admitted with intact | ⟨cut, shut⟩
    · rcases now.system.state_close imp operation.state with same | ⟨own, closed, _⟩
      · exact .inl ((congrArg FileState.handle same).trans intact)
      · by_cases opened : operation.handle.isOpen = true
        · have captured : now.system.handleOf imp = operation.handle := by
            rw [System.handleOf, ← own]
            exact intact
          have first : (now.system.line service).head? = some (.admitted operation) := by
            rw [lined.line, admitted]
            rfl
          refine .inr ⟨⟨acts, imp, [], rfl, ?_⟩, ?_⟩
          · rw [ran]
            exact ⟨allowed, own.symm, captured, first⟩
          · rw [System.host_close, FileHandle.descriptor_close, captured, if_pos rfl]
        · exact .inl (closed.trans (FileHandle.eq_closed opened).symm)
    · refine .inr ⟨cut.append _, ?_⟩
      rw [System.host_close, FileHandle.descriptor_close, shut, ite_self]

end Lined

end Program

end AsyncFiles
