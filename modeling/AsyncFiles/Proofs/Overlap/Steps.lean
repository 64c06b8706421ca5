import AsyncFiles.Proofs.Cancellation.Generations
import AsyncFiles.Service.Basic

/-!
Calls that overlap on one implementation. A close or a release destroys the source and then takes
the handle out; an opening or an assignment puts its handle in and then revives the source; a
cancellation looks for an open handle and then ends the tokens; a submission takes its token, then
the handle, and then queues the operation, until a worker looks at the token. Any number of calls
may stand between two of their steps.
-/
namespace AsyncFiles.Overlap

open Cancellation

inductive Progress
  /-- A close or a release has destroyed the source and not yet taken the handle out. -/
  | leaving
  /-- An opening or an assignment has put its handle in and not yet revived the source. -/
  | entering
  /-- A cancellation has found an open handle. -/
  | cancelling
  | stamped (token : Token)
  | captured (token : Token) (handle : FileHandle)
  | queued (token : Token) (handle : FileHandle)
  /-- An operation whose token was live; its system call is still to come. -/
  | admitted (handle : FileHandle)
  | finished
  deriving DecidableEq

/-- The next step of a call: what it makes of the state, and how far it has come then. -/
def Progress.next (state : FileState) : Progress → FileState × Progress
  | .leaving => (state.takeHandle.2, .finished)
  | .entering => (state.revive, .finished)
  | .cancelling => (state.cancel, .finished)
  | .stamped token => (state, .captured token state.handle)
  | .captured token handle => (state, .queued token handle)
  | .queued token handle =>
    (state, if token.isCancelled state.source then .finished else .admitted handle)
  | .admitted _ | .finished => (state, .finished)

/-- One state with all calls on it, in the order in which they began. -/
structure Shared where
  state : FileState := {}
  calls : List Progress := []
  deriving DecidableEq

inductive Move
  | leave
  | enter (handle : FileHandle)
  | cancel
  | submit
  | advance (call : Nat)

namespace Shared

def begin (shared : Shared) (state : FileState) (progress : Progress) : Shared :=
  ⟨state, shared.calls ++ [progress]⟩

def advance (shared : Shared) (call : Nat) : Shared :=
  match shared.calls[call]? with
  | none => shared
  | some progress =>
    ⟨(progress.next shared.state).1, shared.calls.set call (progress.next shared.state).2⟩

def step (shared : Shared) : Move → Shared
  | .leave => shared.begin shared.state.endSource .leaving
  | .enter handle =>
    match shared.state.install? handle with
    | some state => shared.begin state .entering
    | none => shared.begin shared.state .finished
  | .cancel =>
    shared.begin shared.state (if shared.state.handle.isOpen then .cancelling else .finished)
  | .submit => shared.begin shared.state (.stamped shared.state.source.token)
  | .advance call => shared.advance call

def run (shared : Shared) (moves : List Move) : Shared := moves.foldl step shared

def change (shared : Shared) (move : Move) : Nat :=
  if (shared.step move).state.source = shared.state.source then 0 else 1

def changes (shared : Shared) : List Move → Nat
  | [] => 0
  | move :: rest => shared.change move + (shared.step move).changes rest

/-- The worker that has taken the operation of this call finds its token live. -/
def Passes (shared : Shared) (call : Nat) (handle : FileHandle) : Prop :=
  ∃ token, shared.calls[call]? = some (.queued token handle) ∧
    token.isCancelled shared.state.source = false

@[simp] theorem run_nil (shared : Shared) : shared.run [] = shared := rfl

@[simp] theorem run_cons (shared : Shared) (move : Move) (rest : List Move) :
    shared.run (move :: rest) = (shared.step move).run rest := rfl

theorem changes_cons (shared : Shared) (move : Move) (rest : List Move) :
    shared.changes (move :: rest) = shared.change move + (shared.step move).changes rest := rfl

theorem source_of_change_zero {shared : Shared} {move : Move} (none : shared.change move = 0) :
    (shared.step move).state.source = shared.state.source := by
  simp only [change] at none
  split at none
  · assumption
  · contradiction

theorem advance_eq {shared : Shared} {call : Nat} {progress : Progress}
    (found : shared.calls[call]? = some progress) :
    shared.advance call =
      ⟨(progress.next shared.state).1,
        shared.calls.set call (progress.next shared.state).2⟩ := by
  simp [advance, found]

theorem step_source (shared : Shared) (move : Move) :
    (shared.step move).state.source = shared.state.source ∨
      shared.state.source.Later 1 (shared.step move).state.source := by
  cases move with
  | leave => exact .inr (Source.later_destroy _)
  | enter handle =>
    left
    by_cases present : shared.state.handle.isOpen = true <;>
      simp [step, FileState.install?, present, begin]
  | cancel => exact .inl rfl
  | submit => exact .inl rfl
  | advance call =>
    cases found : shared.calls[call]? with
    | none => simp [step, advance, found]
    | some progress =>
      rw [step, advance_eq found]
      cases progress with
      | entering =>
        by_cases ended : shared.state.source.destroyed = true
        · exact .inr (Source.later_reset ended)
        · exact .inl (Source.reset_of_live (by simpa using ended))
      | cancelling => exact .inr (Source.later_cancel _)
      | _ => exact .inl rfl

theorem step_later (shared : Shared) (move : Move) :
    shared.state.source.Later (shared.change move) (shared.step move).state.source := by
  simp only [change]
  split
  next same =>
    rw [same]
    exact Source.later_refl _
  next different => exact (shared.step_source move).resolve_left different

theorem run_later (shared : Shared) (moves : List Move) :
    shared.state.source.Later (shared.changes moves) (shared.run moves).state.source := by
  induction moves generalizing shared with
  | nil => exact Source.later_refl _
  | cons move rest ih => exact (shared.step_later move).trans (ih (shared.step move))

end Shared

end AsyncFiles.Overlap
