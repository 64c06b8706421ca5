import AsyncFiles.Proofs.Completion.Waiting
import AsyncFiles.Proofs.Outcome.Unaborted
import AsyncFiles.Proofs.Overlap.TakenOut
import AsyncFiles.Proofs.States

namespace AsyncFiles

open Cancellation Error

namespace FileState

/-- An open handle comes with a live source. -/
def Alive (state : FileState) : Prop :=
  state.handle.isOpen = true → state.source.destroyed = false

theorem alive_revive (state : FileState) : state.revive.Alive :=
  fun _ => state.source.destroyed_reset

theorem alive_cancel (state : FileState) : state.cancel.Alive := fun _ => rfl

theorem alive_takeHandle (state : FileState) : state.takeHandle.2.Alive := by
  intro stays
  cases stays

theorem lasting_alive : FileState.Lasting Alive where
  fresh _ := rfl
  adopt state handle next _ adopted := by
    obtain ⟨middle, _, rfl⟩ := Option.map_eq_some_iff.mp adopted
    exact alive_revive middle
  release state _ := alive_takeHandle state.endSource
  cancel state _ _ := alive_cancel state

end FileState

namespace Overlap

namespace Progress

def acts : Progress → Bool
  | .leaving | .entering | .cancelling => true
  | _ => false

/-- Whether the call has returned. That of a submission has when its operation is queued. -/
def hasReturned : Progress → Bool
  | .queued _ _ | .admitted _ | .finished => true
  | _ => false

theorem acts_of_hasReturned {progress : Progress} (returned : progress.hasReturned = true) :
    progress.acts = false := by
  cases progress with
  | leaving | entering | cancelling => cases returned
  | _ => rfl

theorem next_of_not_acts {progress : Progress} (rests : progress.acts = false)
    (state : FileState) :
    (progress.next state).1 = state ∧ (progress.next state).2.acts = false := by
  cases progress with
  | leaving | entering | cancelling => cases rests
  | queued token handle =>
    refine ⟨rfl, ?_⟩
    simp only [next]
    split <;> rfl
  | _ => exact ⟨rfl, rfl⟩

end Progress

def Move.ends : Move → Bool
  | .leave | .cancel => true
  | _ => false

namespace Shared

variable {shared : Shared} {state : FileState} {call : Nat}

/-- An open handle with a destroyed source is the work of a call that is half way. -/
def Explained (shared : Shared) : Prop :=
  shared.state.handle.isOpen = true → shared.state.source.destroyed = true →
    Progress.entering ∈ shared.calls ∨ Progress.leaving ∈ shared.calls

theorem explained_of_alive (alive : shared.state.Alive) : shared.Explained := by
  intro present destroyed
  rw [alive present] at destroyed
  cases destroyed

theorem explained_begin (explained : shared.Explained) (progress : Progress) :
    (shared.begin shared.state progress).Explained := fun present destroyed =>
  (explained present destroyed).imp (List.mem_append_left _) (List.mem_append_left _)

theorem explained_advance (explained : shared.Explained) (call : Nat) :
    (shared.advance call).Explained := by
  cases found : shared.calls[call]? with
  | none => simpa [advance, found] using explained
  | some progress =>
    rw [advance_eq found]
    cases progress with
    | leaving => exact explained_of_alive (FileState.alive_takeHandle shared.state)
    | entering => exact explained_of_alive (FileState.alive_revive shared.state)
    | cancelling => exact explained_of_alive (FileState.alive_cancel shared.state)
    | _ =>
      exact fun present destroyed => (explained present destroyed).imp
        (fun member => mem_set_of_mem member found (by simp) _)
        (fun member => mem_set_of_mem member found (by simp) _)

theorem explained_step (explained : shared.Explained) (move : Move) :
    (shared.step move).Explained := by
  cases move with
  | leave => exact fun _ _ => .inr (List.mem_append_right _ List.mem_cons_self)
  | enter handle =>
    simp only [step]
    split
    next => exact fun _ _ => .inl (List.mem_append_right _ List.mem_cons_self)
    next => exact explained_begin explained _
  | cancel | submit => exact explained_begin explained _
  | advance call => exact explained_advance explained call

theorem explained_run (explained : shared.Explained) (moves : List Move) :
    (shared.run moves).Explained := by
  induction moves generalizing shared with
  | nil => exact explained
  | cons move rest ih => exact ih (explained_step explained move)

def AllReturned (shared : Shared) : Prop :=
  ∀ progress ∈ shared.calls, progress.hasReturned = true

theorem alive_of_allReturned (explained : shared.Explained) (returned : shared.AllReturned) :
    shared.state.Alive := by
  intro present
  by_contra destroyed
  rcases explained present (by simpa using destroyed) with entering | leaving
  · exact absurd (returned _ entering) (by decide)
  · exact absurd (returned _ leaving) (by decide)

/-- The state is as it was, and no call will change it. The handle that a call has captured is the
one that is held. -/
structure Rests (shared : Shared) (state : FileState) (call : Nat) : Prop where
  same : shared.state = state
  rest : ∀ progress ∈ shared.calls, progress.acts = false
  bound : call < shared.calls.length
  held : ∀ progress handle, shared.calls[call]? = some progress →
    progress.handle? = some handle → handle = state.handle

theorem Rests.step (rests : shared.Rests state call) (present : state.handle.isOpen = true)
    {move : Move} (spares : move.ends = false) : (shared.step move).Rests state call := by
  have later : (shared.step move).state = state ∧
      ∀ progress ∈ (shared.step move).calls, progress.acts = false := by
    obtain ⟨rfl, rest, _, _⟩ := rests
    have began (progress : Progress) (idle : progress.acts = false) :
        ∀ other ∈ (shared.begin shared.state progress).calls, other.acts = false := by
      intro other member
      rcases List.mem_append.mp member with before | new
      · exact rest other before
      · exact List.mem_singleton.mp new ▸ idle
    cases move with
    | leave | cancel => cases spares
    | enter handle =>
      have refused : shared.step (.enter handle) = shared.begin shared.state .finished := by
        simp [Shared.step, FileState.install?, present]
      rw [refused]
      exact ⟨rfl, began .finished rfl⟩
    | submit => exact ⟨rfl, began _ rfl⟩
    | advance acting =>
      cases found : shared.calls[acting]? with
      | none =>
        have none : shared.step (.advance acting) = shared := by simp [Shared.step, advance, found]
        rw [none]
        exact ⟨rfl, rest⟩
      | some progress =>
        rw [Shared.step, advance_eq found]
        have idle := progress.next_of_not_acts (rest _ (List.mem_of_getElem? found)) shared.state
        refine ⟨idle.1, fun other member => ?_⟩
        rcases List.mem_or_eq_of_mem_set member with before | same
        · exact rest other before
        · exact same ▸ idle.2
  refine ⟨later.1, later.2, Nat.lt_of_lt_of_le rests.bound (shared.length_step move), ?_⟩
  intro progress handle found captured
  rcases call_step rests.bound found with before | ⟨earlier, before, rfl⟩
  · exact rests.held progress handle before captured
  · rcases Progress.handle_next captured with now | already
    · rw [now, rests.same]
    · exact rests.held earlier handle before already

theorem Rests.run (rests : shared.Rests state call) (present : state.handle.isOpen = true)
    {moves : List Move} (spares : ∀ move ∈ moves, move.ends = false) :
    (shared.run moves).Rests state call := by
  induction moves generalizing shared with
  | nil => exact rests
  | cons move rest ih =>
    have first := rests.step present (spares move List.mem_cons_self)
    exact ih first fun other member => spares other (List.mem_cons_of_mem _ member)

theorem rests_submit (returned : shared.AllReturned) :
    (shared.step .submit).Rests shared.state shared.calls.length where
  same := rfl
  rest progress member := by
    rcases List.mem_append.mp member with before | new
    · exact Progress.acts_of_hasReturned (returned progress before)
    · exact List.mem_singleton.mp new ▸ rfl
  bound := by simp [step, begin]
  held progress handle found captured := by
    have first : progress = .stamped shared.state.source.token := by
      simpa [step, begin] using found.symm
    subst first
    cases captured

/-- An operation that is issued when all calls have returned is let pass with the handle that is
held, as long as no call begins that ends operations. -/
theorem passes_of_allReturned (returned : shared.AllReturned) (alive : shared.state.Alive)
    (present : shared.state.handle.isOpen = true) {after : List Move}
    (spares : ∀ move ∈ after, move.ends = false) {token : Token} {handle : FileHandle}
    (queued : ((shared.step .submit).run after).calls[shared.calls.length]? =
      some (.queued token handle)) :
    handle = shared.state.handle ∧
      ((shared.step .submit).run after).Passes shared.calls.length handle := by
  have rests := (rests_submit returned).run present spares
  refine ⟨rests.held _ handle queued rfl, token, queued, ?_⟩
  have issued : token = shared.state.source.token :=
    (bears_run shared.bears_submit after).same _ _ queued rfl
  rw [issued, rests.same]
  exact (Token.isCancelled_eq_false_iff _ _).mpr ⟨rfl, alive present⟩

end Shared

/-- While an open file has its source destroyed, an opening or an assignment stands between its two
steps, or a close or a release. Once all calls have returned an open file has a live source, and an
operation on it is let pass with the handle that is held, as long as no call begins that ends
operations. So in every run an operation that is issued on an open file, and that the pool takes, is
not answered as aborted at any time, and makes its transfer when its turn comes, unless an act has
ended it: a close, a release or the end of the implementation that held its state, a cancellation, a
move into it, or the first shutdown or the last reference of the service that has it listed. -/
theorem alive_once_returned :
    (∀ moves, let shared := Shared.run {} moves
      shared.state.handle.isOpen = true → shared.state.source.destroyed = true →
        Progress.entering ∈ shared.calls ∨ Progress.leaving ∈ shared.calls) ∧
    (∀ moves, let shared := Shared.run {} moves
      shared.AllReturned → shared.state.handle.isOpen = true →
        shared.state.source.destroyed = false ∧
        ∀ after : List Move, (∀ move ∈ after, move.ends = false) → ∀ token handle,
          let later := (shared.step .submit).run after
          later.calls[shared.calls.length]? = some (.queued token handle) →
            handle = shared.state.handle ∧ later.Passes shared.calls.length handle) ∧
    (∀ course : Course, course.atIssue.allows course.issuing = true →
      (course.atIssue.system.handleOf course.imp).isOpen = true → course.Accepted →
      ¬ course.issued.EndsIn course.imp.state course.after →
        (course.atIssue.system.state course.imp.state).source.destroyed = false ∧
        ¬ course.atStart.ToldAborted course.atIssue.initiated.length ∧
        ∀ home worker operation,
          course.atStart.system.heldTask? home worker = some (.issued operation) →
          operation.handler = some course.atIssue.initiated.length →
            operation.handle = course.atIssue.system.handleOf course.imp ∧
              course.atStart.Transfers home worker operation) := by
  have explained (moves : List Move) : (Shared.run {} moves).Explained :=
    Shared.explained_run (Shared.explained_of_alive FileState.lasting_alive.fresh) moves
  refine ⟨explained, fun moves returned present => ?_,
    fun course allowed present accepted spared => ?_⟩
  · have alive := Shared.alive_of_allReturned (explained moves) returned
    exact ⟨alive present, fun after spares token handle queued =>
      Shared.passes_of_allReturned returned alive present spares queued⟩
  · have live : (course.atIssue.system.state course.imp.state).source.destroyed = false :=
      Program.each_run FileState.lasting_alive course.host course.before course.imp.state present
    refine ⟨live, Course.not_told_of_spared allowed live accepted spared,
      fun home worker operation held own => ⟨?_, ?_⟩⟩
    · obtain ⟨_, context, rfl⟩ := Course.operation_eq allowed held own
      rfl
    · exact Program.start_of_live held (Course.live_of_spared allowed live spared held own)

def reassigned : List Move := [.leave, .advance 0, .enter ⟨5⟩]

def takenRead : Course := { cancelledRead with after := [.work 0 0] }

theorem atIssue_takenRead : takenRead.atIssue = (served (.fresh default)).run
    [.implementation (.construct 0), .implementation (.call 0 ⟨⟨1, 1⟩, 0, 0⟩ (.assign ⟨0⟩))] :=
  atIssue_cancelledRead

theorem passes_reassigned :
    (Progress.entering ∈ (Shared.run {} reassigned).calls ∨
      Progress.leaving ∈ (Shared.run {} reassigned).calls) ∧
    ((Shared.run {} (reassigned ++ [.advance 1, .submit, .advance 2, .advance 2])).Passes 2 ⟨5⟩) ∧
    ¬ takenRead.atStart.ToldAborted takenRead.atIssue.initiated.length ∧
    takenRead.atStart.Transfers 0 0
      (takenRead.atIssue.operation 0 takenRead.imp { direction := .read } [[0]]) := by
  have halfway := alive_once_returned.1 reassigned (by decide) (by decide)
  have returned : (Shared.run {} (reassigned ++ [.advance 1])).AllReturned := by
    simp only [Shared.AllReturned]
    decide
  have alive := alive_once_returned.2.1 (reassigned ++ [.advance 1]) returned (by decide)
  have passes := (alive.2 [.advance 2, .advance 2] (by decide) ⟨⟨2, false⟩⟩ ⟨5⟩ (by decide)).2
  have allowed : takenRead.atIssue.allows takenRead.issuing = true := by
    rw [atIssue_takenRead]
    rfl
  have present : (takenRead.atIssue.system.handleOf takenRead.imp).isOpen = true := by
    rw [atIssue_takenRead]
    rfl
  have accepted : takenRead.Accepted := by
    simp only [Course.Accepted]
    rw [atIssue_takenRead]
    exact ⟨_, _, rfl, rfl⟩
  have spared : ¬ takenRead.issued.EndsIn takenRead.imp.state takenRead.after := by
    intro ends
    rcases Program.endsIn_cons.mp ends with here | ⟨before, act, after, same, _⟩
    · simp [Program.ended, Program.endedBy] at here
    · simp at same
  have held : takenRead.atStart.system.heldTask? 0 0 = some (.issued
      (takenRead.atIssue.operation 0 takenRead.imp { direction := .read } [[0]])) := by
    simp only [Course.atStart, Course.issued]
    rw [atIssue_takenRead]
    rfl
  have spares := alive_once_returned.2.2 takenRead allowed present accepted spared
  exact ⟨halfway, passes, spares.2.1, (spares.2.2 0 0 _ held rfl).2⟩

theorem start_ofCapacityOne {Task : Type} :
    (Pool.start { queueCapacity := some 1 } : Except StartError (Pool Task)) =
      .ok (Pool.fresh (some 1) 1) := by
  simp [Pool.start, PoolConfig.misuse?, PoolConfig.refusal?, PoolConfig.capacityLimit,
    PoolConfig.roomLimit, PoolConfig.guardSize, PoolConfig.stackLimit, PoolConfig.workerLimit]

/-- A service whose queue has room for one operation. A read of its file waits there, and another is
issued. -/
def crowded : Course where
  host := .fresh default
  before :=
    [.context .create, .service (.start 0 { queueCapacity := some 1 }),
      .implementation (.construct 0), .implementation (.call 0 ⟨⟨1, 1⟩, 0, 0⟩ (.assign ⟨0⟩)),
      .implementation (.call 0 ⟨⟨1, 1⟩, 0, 0⟩ (.submit { direction := .read } [[0]]))]
  service := 0
  imp := ⟨⟨1, 1⟩, 0, 0⟩
  request := { direction := .read }
  buffers := [[0]]

theorem atIssue_crowded : crowded.atIssue = Program.run
    { Program.fresh (.fresh default) with
      system :=
        { host := .fresh default, contexts := [{}]
          services :=
            [{ context := 0, config := { queueCapacity := some 1 }, pool := .fresh (some 1) 1 }] } }
    (crowded.before.drop 2) := by
  have started :
      System.startService
        { host := .fresh default, contexts := [({} : Context (Invocation Ticket))] } 0
        { queueCapacity := some 1 } = .ok (0,
          { host := .fresh default, contexts := [{}]
            services :=
              [{ context := 0, config := { queueCapacity := some 1 }
                 pool := .fresh (some 1) 1 }] }) := by
    simp [System.startService, start_ofCapacityOne, Except.map]
  simp only [Course.atIssue, crowded, Program.run_cons, List.drop_succ_cons, List.drop_zero]
  congr 3
  simp [Program.step, Program.allows, Program.perform, Program.onContext, Program.onService,
    Program.fresh, System.newContext, started]

/-- The pool turns the read away although its file is open and its source live, and nothing ends
it: it is answered as aborted. -/
theorem aborted_crowded :
    crowded.atIssue.allows crowded.issuing = true ∧
      crowded.atIssue.system.state crowded.imp.state = ⟨⟨0⟩, {}⟩ ∧
      ¬ crowded.issued.EndsIn crowded.imp.state crowded.after ∧
      crowded.atStart.ToldAborted crowded.atIssue.initiated.length := by
  refine ⟨?_, ?_, ?_, ?_⟩
  · rw [atIssue_crowded]
    rfl
  · rw [atIssue_crowded]
    rfl
  · rintro ⟨before, act, after, same, _⟩
    simp [crowded] at same
  · simp only [Course.atStart, Course.issued]
    rw [atIssue_crowded]
    exact .inl ⟨_, List.mem_cons_self, _, List.mem_cons_self, rfl, _, rfl⟩

end Overlap

end AsyncFiles
