import AsyncFiles.Proofs.Bounded
import AsyncFiles.Proofs.Outcome.Bearers

namespace AsyncFiles

open Access Error Host

namespace System

variable {Handler : Type} {system : System Handler} {state own : StateId}

theorem state_updateState_other (apart : state ≠ own) (change : FileState → FileState) :
    (system.updateState own change).state state = system.state state := by
  simp [System.state, updateState, Ne.symm apart]

theorem state_adopt_other {later : System Handler} {handle : FileHandle} (apart : state ≠ own)
    (taken : system.adopt? own handle = some later) : later.state state = system.state state := by
  obtain ⟨adopted, _, rfl⟩ := Option.map_eq_some_iff.mp taken
  exact state_updateState_other apart _

variable {imp : Implementation} (apart : state ≠ imp.state)
include apart

theorem state_openFile_other (path : Path) (args : OpenArgs) :
    (system.openFile imp path args).2.state state = system.state state := by
  simp only [openFile, openDuring, onHost]
  split
  next => rfl
  next =>
    cases FileHandle.openPath path args system.host with
    | mk result host =>
      cases result with
      | error error => rfl
      | ok handle =>
        simp only [adoptOpened, id_eq]
        split
        next later taken => exact (state_adopt_other apart taken :)
        next => rfl

theorem state_assign_other (handle : FileHandle) :
    (system.assign imp handle).2.state state = system.state state := by
  simp only [assign]
  split
  next taken => exact state_adopt_other apart taken
  next => rfl

theorem state_cancel_other : (system.cancel imp).2.state state = system.state state := by
  simp only [cancel]
  split
  next => exact state_updateState_other apart _
  next => rfl

theorem state_destroy_other (service : ServiceId) :
    (system.destroy service imp).state state = system.state state := by
  have unlisted := (system.closeState imp.state).2.states_unlist service imp
  calc
    _ = (system.closeState imp.state).2.state state := by
      rw [System.state, System.state, ← unlisted]
      rfl
    _ = system.state state := state_updateState_other apart _

end System

namespace Program

variable {program : Program} {own : StateId} {act : Act}

/-- What is done to the bearers of a state and concerns no other one: their calls and their end. A
file object does not take its service with it as long as there is another one. -/
def Concerns (program : Program) (own : StateId) : Act → Prop
  | .implementation (.call _ imp _) | .implementation (.destroy _ imp) => imp.state = own
  | .file (.drop file) =>
    file.implementation.state = own ∧
      ∃ other ∈ program.files.erase file, other.service = file.service
  | _ => False

theorem state_onCall_other {imp : Implementation} {state : StateId} (apart : state ≠ imp.state)
    (service : ServiceId) (call : ImplementationCall) :
    (program.onCall service imp call).system.state state = program.system.state state := by
  cases call with
  | openPath path args => exact System.state_openFile_other apart path args
  | assign handle =>
    have same := program.system.state_assign_other apart handle
    simp only [onCall]
    split
    all_goals
      next assigned =>
        rw [assigned] at same
        exact same
  | close => exact System.state_updateState_other apart _
  | release =>
    have same : (program.system.release imp).2.state state = program.system.state state :=
      System.state_updateState_other apart _
    simp only [onCall, keep]
    split <;> exact same
  | cancel => exact System.state_cancel_other apart
  | ask question => rfl
  | submit request buffers =>
    simp only [onCall, submit]
    split
    next => rfl
    next => rw [System.state, System.states_submit, ← System.state]

theorem Bounded.state_other (bounded : program.Bounded) (allowed : program.allows act = true)
    (concerns : program.Concerns own act) {state : StateId} (apart : state ≠ own) :
    (program.perform act).system.state state = program.system.state state := by
  cases act with
  | implementation act =>
    cases act with
    | call service imp call =>
      obtain rfl : imp.state = own := concerns
      exact state_onCall_other apart service call
    | destroy service imp =>
      obtain rfl : imp.state = own := concerns
      exact System.state_destroy_other apart service
    | _ => cases concerns
  | file act =>
    cases act with
    | drop file =>
      obtain ⟨rfl, other, otherMember, same⟩ := concerns
      simp only [allows, List.contains_iff_mem] at allowed
      have held : 1 < (program.system.destroy file.service file.implementation).references
          file.service := by
        rw [System.references_destroy]
        exact bounded.used_twice allowed otherMember same
      change (file.drop program.system).state state = _
      rw [File.drop, System.dropReference_of_held held]
      exact System.state_destroy_other apart file.service
    | _ => cases concerns
  | _ => cases concerns

def Founded (program : Program) : Prop :=
  ∀ start ∈ program.initiated, start.operation.state < program.system.states.length

theorem mem_initiated_submit {service : ServiceId} {imp : Implementation} {request : Request}
    {buffers : List Bytes} {start : Initiation}
    (member : start ∈ (program.submit service imp request buffers).initiated) :
    start ∈ program.initiated ∨ start.operation.state = imp.state := by
  simp only [submit] at member
  split at member
  next => exact .inl member
  next =>
    refine (List.mem_append.mp member).imp_right fun new => ?_
    rw [List.mem_singleton.mp new]
    rfl

theorem Founded.perform (founded : program.Founded) (grounded : program.Grounded)
    (allowed : program.allows act = true) : (program.perform act).Founded := by
  intro start member
  refine Nat.lt_of_lt_of_le ?_ (turns_perform allowed 0).grown
  by_cases quiet : ∀ service imp request buffers,
      act ≠ .implementation (.call service imp (.submit request buffers))
  · rw [program.initiated_of_quiet quiet] at member
    exact founded start member
  · simp only [not_forall, not_not] at quiet
    obtain ⟨service, imp, request, buffers, rfl⟩ := quiet
    simp only [allows, Bool.and_eq_true, List.contains_iff_mem] at allowed
    rcases mem_initiated_submit member with before | through
    · exact founded start before
    · rw [through]
      exact grounded imp allowed.2

theorem founded_run (host : Host) (acts : List Act) : ((fresh host).run acts).Founded := by
  have kept (program : Program) (act : Act) (both : program.Founded ∧ program.Grounded)
      (allowed : program.allows act = true) :
      (program.perform act).Founded ∧ (program.perform act).Grounded :=
    ⟨both.1.perform both.2 allowed, both.2.perform allowed⟩
  have first : (fresh host).Founded ∧ (fresh host).Grounded :=
    ⟨by simp [Founded, fresh], Grounded.run host []⟩
  exact (run_keeps kept first acts).1

end Program

end AsyncFiles
