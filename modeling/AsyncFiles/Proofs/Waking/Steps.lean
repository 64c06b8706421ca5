import AsyncFiles.Context
import AsyncFiles.Proofs.Pool.Balance

/-!
Calls on one context that overlap, from any threads and also from within handlers. A call that runs
one handler looks for it under the lock, and where it finds nothing but has to stay it parks as it
gives the lock back. A handler is posted first and then one parked call is woken; all of them are
woken once a count of work has come down to zero, and once the context has been stopped. Any number
of calls may stand between two of these steps.
-/
namespace AsyncFiles.Waking

variable {Handler : Type}

inductive Stage (Handler : Type)
  /-- It runs one handler and has yet to take the lock. -/
  | looking
  | parked
  /-- It was woken and has yet to take the lock again. -/
  | woken
  /-- The handler it has taken runs; that ends like any other work. -/
  | running (handler : Handler)
  /-- It has posted a handler and has yet to wake a parked call. -/
  | rousingOne
  /-- It has seen the last work end, or has stopped the context, and has yet to wake all. -/
  | rousingAll
  | finished
  deriving DecidableEq

namespace Stage

def isParked : Stage Handler → Bool
  | .parked => true
  | _ => false

def rousesAll : Stage Handler → Bool
  | .rousingAll => true
  | _ => false

/-- A wake-up for one handler that is on its way: it is not sent yet, or was sent to a call that has
not looked yet. -/
def stirs : Stage Handler → Bool
  | .rousingOne | .woken => true
  | _ => false

def wake : Stage Handler → Stage Handler
  | .parked => .woken
  | stage => stage

/-- What is still to be done after work was finished: those who wait for it are told if it was the
last. -/
def afterWork (context : Context Handler) : Stage Handler :=
  if context.outstanding = 0 then .rousingAll else .finished

/-- The next step of a call: what it makes of the context, and how far it has come then. -/
def next (context : Context Handler) : Stage Handler → Context Handler × Stage Handler
  | .looking | .woken =>
    match context.turn with
    | .take handler rest => (rest, .running handler)
    | .wait => (context, .parked)
    | .leave => (context, .finished)
  | .running _ => (context.workFinished, afterWork context.workFinished)
  | .rousingOne | .rousingAll | .finished => (context, .finished)
  | .parked => (context, .parked)

end Stage

def wakeOne (chosen : Nat) (calls : List (Stage Handler)) : List (Stage Handler) :=
  match calls[chosen]? with
  | some .parked => calls.set chosen .woken
  | _ =>
    match calls.findIdx? Stage.isParked with
    | some first => calls.set first .woken
    | none => calls

/-- The calls after one that has come so far has sent what it still had to send. -/
def Stage.rouse (chosen : Nat) (calls : List (Stage Handler)) : Stage Handler → List (Stage Handler)
  | .rousingOne => wakeOne chosen calls
  | .rousingAll => calls.map Stage.wake
  | _ => calls

def parked (calls : List (Stage Handler)) : Nat := calls.countP Stage.isParked

def rousers (calls : List (Stage Handler)) : Nat := calls.countP Stage.rousesAll

def stirring (calls : List (Stage Handler)) : Nat := calls.countP Stage.stirs

/-- A context with all calls on it, in the order in which they began. -/
structure Shared (Handler : Type) where
  context : Context Handler := {}
  calls : List (Stage Handler) := []

inductive Move (Handler : Type)
  | runOne
  /-- The call that runs a handler only if there is one ready. -/
  | pollOne
  | post (handler : Handler)
  | startWork
  | finishWork
  | stop
  | restart
  | advance (call chosen : Nat)

namespace Shared

def begin (shared : Shared Handler) (context : Context Handler) (stage : Stage Handler) :
    Shared Handler :=
  ⟨context, shared.calls ++ [stage]⟩

def advance (shared : Shared Handler) (call chosen : Nat) : Shared Handler :=
  match shared.calls[call]? with
  | none => shared
  | some stage =>
    ⟨(stage.next shared.context).1,
      stage.rouse chosen (shared.calls.set call (stage.next shared.context).2)⟩

def step (shared : Shared Handler) : Move Handler → Shared Handler
  | .runOne => shared.begin shared.context .looking
  | .pollOne =>
    match shared.context.turn with
    | .take handler rest => shared.begin rest (.running handler)
    | .wait | .leave => shared.begin shared.context .finished
  | .post handler => shared.begin (shared.context.post handler) .rousingOne
  | .startWork => shared.begin shared.context.workStarted .finished
  | .finishWork =>
    shared.begin shared.context.workFinished (.afterWork shared.context.workFinished)
  | .stop => shared.begin shared.context.stop .rousingAll
  | .restart => shared.begin shared.context.restart .finished
  | .advance call chosen => shared.advance call chosen

def run (shared : Shared Handler) (moves : List (Move Handler)) : Shared Handler :=
  moves.foldl step shared

/-- All notifications are sent, and every call that was woken has taken the lock again. -/
def Quiet (shared : Shared Handler) : Prop :=
  .rousingOne ∉ shared.calls ∧ .rousingAll ∉ shared.calls ∧ .woken ∉ shared.calls

instance [DecidableEq Handler] (shared : Shared Handler) : Decidable shared.Quiet :=
  inferInstanceAs (Decidable (_ ∧ _ ∧ _))

@[simp] theorem run_nil (shared : Shared Handler) : shared.run [] = shared := rfl

@[simp] theorem run_cons (shared : Shared Handler) (move : Move Handler)
    (rest : List (Move Handler)) : shared.run (move :: rest) = (shared.step move).run rest := rfl

theorem advance_eq {shared : Shared Handler} {call : Nat} {stage : Stage Handler} (chosen : Nat)
    (found : shared.calls[call]? = some stage) :
    shared.advance call chosen =
      ⟨(stage.next shared.context).1,
        stage.rouse chosen (shared.calls.set call (stage.next shared.context).2)⟩ := by
  simp [advance, found]

end Shared

end AsyncFiles.Waking
