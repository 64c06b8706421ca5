import AsyncFiles.Proofs.InOrder.Direct

namespace AsyncFiles

open Error Host

namespace Program

/-- Every operation that is over was aborted, or is as if it had been performed synchronously. -/
def Synchronous (first : Program) (service : ServiceId) (context : ContextId) (acts : List Act) :
    Prop :=
  ∃ log, first.Logged service context acts log ∧ ∀ entry ∈ log, entry.fate ≠ .cutOff

/-- Handlers are called in the order of issue. The operations that were performed are as if they had
been performed synchronously in that order, the aborted ones did nothing, and an operation that was
cut off lost its descriptor between its worker's look at the token and the transfer. -/
theorem performed_in_order {first : Program} {service : ServiceId} {context : ContextId}
    (ready : first.Waiting service context) (acts : List Act)
    (pipelined : ∀ act ∈ acts, act.Pipelined first service context) :
    (∃ log, first.Logged service context acts log) ∧
      ((∀ operation, ¬ first.CutOff service acts operation) →
        first.Synchronous service context acts) := by
  obtain ⟨log, hand, waiting, stage⟩ := Stage.run ready acts pipelined
  refine ⟨⟨log, stage.logged⟩, fun spared => ⟨log, stage.logged, fun entry member cut => ?_⟩⟩
  exact spared entry.operation (stage.logged.cutOff entry member cut).2

end Program

/-- A host on which a further descriptor, 3, stands for a file. -/
def oneFile (data : Bytes) : Host :=
  let host := Host.fresh default
  { host with
    inodes := host.inodes ++
      [{ node := .regular (Content.empty.write 0 data), perms := .ofWord 0x1a4
         accessed := host.present, modified := host.present }]
    openFiles := host.openFiles ++ [{ inode := 7, readable := true, writable := true }]
    descriptors := host.descriptors ++ [some 3] }

def onlyFile : Implementation := ⟨⟨1, 1⟩, 0, 0⟩

/-- A service whose only file holds that descriptor. -/
def serving (data : Bytes) : Program :=
  (served (oneFile data)).run [.implementation (.construct 0),
    .implementation (.call 0 onlyFile (.assign ⟨3⟩))]

theorem state_serving (data : Bytes) (id : StateId) :
    (serving data).system.state id = if id = 0 then { handle := ⟨3⟩ } else {} := by
  have states : (serving data).system.states = [{ handle := ⟨3⟩ }] := rfl
  rw [System.state, states]
  cases id <;> rfl

theorem waiting_serving (data : Bytes) : (serving data).Waiting 0 0 where
  single := ⟨_, rfl, rfl, ⟨⟨.idle, rfl, rfl⟩, rfl, rfl, rfl⟩, Nat.zero_lt_one⟩
  bound := Nat.zero_lt_one
  idle := rfl
  unqueued := rfl
  apart state other opened same := by
    have held (id : StateId) (opened : ((serving data).system.state id).handle.isOpen = true) :
        id = 0 := by
      by_contra none
      rw [state_serving, if_neg none] at opened
      cases opened
    rw [held state opened, held other (same ▸ opened)]

theorem plain_serving (data : Bytes) :
    (serving data).system.host.Plain ((serving data).system.handleOf onlyFile).raw := by
  intro index file inode found
  obtain ⟨descriptor, opened, present⟩ := resolve_ok found
  cases show some 3 = some index from descriptor
  cases show some (_ : OpenFile) = some file from opened
  cases show some (_ : Inode) = some inode from present
  rfl

/-- A read is cancelled after its worker has looked at the token, a second one before. -/
def cancelledInBetween : List Act :=
  let read : Act :=
    .implementation (.call 0 onlyFile (.submit { direction := .read } [[0xee]]))
  [read, read, .work 0 0, .work 0 0, .implementation (.call 0 onlyFile .cancel), .work 0 0,
    .work 0 0, .work 0 0, .work 0 0, .work 0 0, .context (.serve 0), .context (.serve 0)]

theorem synchronous_cancelledInBetween :
    (serving [0x64, 0x61, 0x74, 0x61]).Waiting 0 0 ∧
      (∀ act ∈ cancelledInBetween, act.Pipelined (serving [0x64, 0x61, 0x74, 0x61]) 0 0) ∧
        (serving [0x64, 0x61, 0x74, 0x61]).Synchronous 0 0 cancelledInBetween := by
  have pipelined : ∀ act ∈ cancelledInBetween,
      act.Pipelined (serving [0x64, 0x61, 0x74, 0x61]) 0 0 := by
    simp only [cancelledInBetween, List.forall_mem_cons]
    exact ⟨.submit .., .submit .., .work, .work, .cancel _, .work, .work, .work, .work, .work,
      .serve, .serve, fun _ none => by cases none⟩
  refine ⟨waiting_serving _, pipelined,
    (Program.performed_in_order (waiting_serving _) _ pipelined).2 fun operation cut => ?_⟩
  obtain ⟨before, imp, after, acts, _⟩ := cut
  have close : Act.implementation (.call 0 imp .close) ∈ cancelledInBetween := by simp [acts]
  simp [cancelledInBetween] at close

/-- A read is issued, and its file is closed after the worker has looked at the token. -/
def closedInBetween : List Act :=
  [.implementation (.call 0 onlyFile (.submit { direction := .read } [[0xee]])), .work 0 0,
    .work 0 0, .implementation (.call 0 onlyFile .close), .work 0 0, .context (.serve 0)]

/-- The read reports that its descriptor is not open. Performed synchronously it would have read a
byte, and it was not aborted. -/
theorem not_synchronous_closedInBetween :
    (serving [0x64, 0x61, 0x74, 0x61]).Waiting 0 0 ∧
      (∀ act ∈ closedInBetween, act.Pipelined (serving [0x64, 0x61, 0x74, 0x61]) 0 0) ∧
        ¬ (serving [0x64, 0x61, 0x74, 0x61]).Synchronous 0 0 closedInBetween := by
  refine ⟨waiting_serving _, ?_, ?_⟩
  · simp only [closedInBetween, List.forall_mem_cons]
    exact ⟨.submit .., .work, .work, .close _ (plain_serving _), .work, .serve,
      fun _ none => by cases none⟩
  rintro ⟨log, logged, uncut⟩
  let read : Operation Ticket :=
    { context := 0, state := 0, token := ⟨{}⟩, handle := ⟨3⟩, request := { direction := .read }
      buffers := [[0xee]], handler := some 0 }
  let missed : Completion := { result := .error (.ofErrno .badDescriptor), buffers := [[0xee]] }
  have issued : [read] = [] ++ log.map Entry.operation ++ [] := logged.issued
  obtain ⟨called, invoked, order⟩ := logged.called
  have invoked : [((0 : ContextId), ({ handler := some 0, completion := some missed } :
    Invocation Ticket))] = [] ++ called.map ((0 : ContextId), ·) := invoked
  have order : called ++ [] = log.map Entry.invocation := order
  obtain ⟨entry, rfl⟩ : ∃ entry, log = [entry] := by
    have length := congrArg List.length issued
    exact List.length_eq_one_iff.mp (by simpa using length.symm)
  have operation : entry.operation = read := by simpa using issued.symm
  have completion : entry.completion = missed := by
    have once : called = [entry.invocation] := by simpa using order
    rw [once] at invoked
    simpa [Entry.invocation] using (congrArg (List.map fun call => call.2.completion) invoked).symm
  cases fate : entry.fate with
  | cutOff => exact uncut entry (by simp) fate
  | aborted =>
    have aborted := (logged.aborted entry (by simp)).mp fate
    rw [completion] at aborted
    exact absurd (Except.error.inj aborted) (by decide)
  | performed =>
    have performed := logged.performed.1
    simp only [performances, List.filter_cons, fate, decide_true, if_true, List.filter_nil,
      List.map_cons, List.map_nil, operation, completion] at performed
    have moved : [({ result := .ok 1, buffers := [[0x64]] } : Completion)] = [missed] := performed
    simp [missed] at moved

end AsyncFiles
