/-!
Execution contexts: a queue of handlers with a count of the work that is still outstanding. Every
queued handler counts as work until it has run. A stopped context gives out no handlers.
-/
namespace AsyncFiles

structure Context (Handler : Type) where
  queue : List Handler := []
  outstanding : Nat := 0
  stopped : Bool := false

/-- What a thread that runs a context finds: a handler, with the context left after it, nothing for
now, or nothing to stay for. -/
inductive Turn (Handler : Type)
  | take (handler : Handler) (rest : Context Handler)
  | wait
  | leave

namespace Context

variable {Handler : Type}

def post (context : Context Handler) (handler : Handler) : Context Handler :=
  { context with queue := context.queue ++ [handler], outstanding := context.outstanding + 1 }

def workStarted (context : Context Handler) : Context Handler :=
  { context with outstanding := context.outstanding + 1 }

/-- Finishing work that was never started has no effect. -/
def workFinished (context : Context Handler) : Context Handler :=
  { context with outstanding := context.outstanding - 1 }

def stop (context : Context Handler) : Context Handler := { context with stopped := true }

def restart (context : Context Handler) : Context Handler := { context with stopped := false }

/-- Looks for a handler once. A handler that is taken stays outstanding until it has run. -/
def turn (context : Context Handler) : Turn Handler :=
  if context.stopped then .leave
  else match context.queue with
    | handler :: rest => .take handler { context with queue := rest }
    | [] => if context.outstanding = 0 then .leave else .wait

@[simp] theorem queue_post (context : Context Handler) (handler : Handler) :
    (context.post handler).queue = context.queue ++ [handler] := rfl

@[simp] theorem outstanding_post (context : Context Handler) (handler : Handler) :
    (context.post handler).outstanding = context.outstanding + 1 := rfl

theorem queue_of_take {context rest : Context Handler} {handler : Handler}
    (taken : context.turn = .take handler rest) : context.queue = handler :: rest.queue := by
  unfold turn at taken
  split at taken
  · cases taken
  · split at taken
    · next queued =>
      cases taken
      exact queued
    · split at taken <;> cases taken

theorem outstanding_of_take {context rest : Context Handler} {handler : Handler}
    (taken : context.turn = .take handler rest) : rest.outstanding = context.outstanding := by
  unfold turn at taken
  split at taken
  · cases taken
  · split at taken
    · cases taken
      rfl
    · split at taken <;> cases taken

theorem outstanding_of_leave {context : Context Handler} (leaves : context.turn = .leave)
    (runs : context.stopped = false) : context.outstanding = 0 := by
  simp only [turn, runs, Bool.false_eq_true, if_false] at leaves
  split at leaves
  · cases leaves
  · split at leaves
    · assumption
    · cases leaves

end Context

end AsyncFiles
