import AsyncFiles.Proofs.Bystanders.Entries
import AsyncFiles.Proofs.Descriptors.Unwinding

/-!
A shutdown that overlaps with moves within its service. A shutdown marks the service, takes a
snapshot of the registry, closes the states in it one by one and closes the pool; a move closes what
it moves into, puts a fresh state into the slot of the source, and then stores the state that it
carries in the slot of the target or in a new one. Each of these is one step, and any steps of other
calls may stand between two of them.
-/
namespace AsyncFiles.Moving

open Access Error Host

/-- How far a move has come. One into a new implementation has no target. -/
inductive Progress
  | closing (target source : Implementation)
  | leaving (target : Option Implementation) (source : Implementation)
  /-- The source has a fresh state, and the one it had is in no slot. -/
  | arriving (target : Option Implementation) (source : Implementation) (moved : StateId)
  deriving DecidableEq

inductive Stage
  | ahead
  | marked
  | closing (rest : List StateId)
  | finished

/-- A service with the moves under way, and the implementations of all services that no move has in
hand. -/
structure Shared (Handler : Type) where
  system : System Handler
  service : ServiceId
  idle : List Implementation
  moves : List Progress := []
  stage : Stage := .ahead

inductive Event
  | moveConstruct (source : Implementation)
  | moveAssign (target source : Implementation)
  | advance (progress : Progress)
  /-- The shutdown makes its next step. -/
  | proceed

namespace Progress

def inHand : Progress → List Implementation
  | .closing target source => [target, source]
  | .leaving target source | .arriving target source _ => source :: target.toList

/-- What is under way from one slot to another. -/
def carried : Progress → List StateId
  | .arriving _ _ moved => [moved]
  | _ => []

end Progress

namespace Shared

variable {Handler : Type}

def advance (shared : Shared Handler) (progress : Progress) : Shared Handler :=
  let others := shared.moves.erase progress
  match progress with
  | .closing target source =>
    { shared with
      system := (shared.system.closeState target.state).2
      moves := .leaving (some target) source :: others }
  | .leaving target source =>
    let (moved, rest, system) := shared.system.detach shared.service source
    { shared with system, moves := .arriving target rest moved :: others }
  | .arriving none source moved =>
    let (key, system) := shared.system.register shared.service moved
    { shared with
      system
      idle := { key, owner := shared.service, state := moved } :: source :: shared.idle
      moves := others }
  | .arriving (some target) source moved =>
    { shared with
      system := shared.system.updateRegistry shared.service fun registry =>
        registry.replace target.key moved
      idle := { target with state := moved } :: source :: shared.idle
      moves := others }

/-- A shutdown that finds the service marked returns at once. -/
def proceed (shared : Shared Handler) : Shared Handler :=
  match shared.stage with
  | .ahead =>
    if shared.system.isShutDown shared.service then { shared with stage := .finished }
    else { shared with system := shared.system.markShutDown shared.service, stage := .marked }
  | .marked => { shared with stage := .closing (shared.system.registered shared.service) }
  | .closing (state :: rest) =>
    { shared with system := (shared.system.closeState state).2, stage := .closing rest }
  | .closing [] =>
    { shared with system := shared.system.updatePool shared.service Pool.close, stage := .finished }
  | .finished => shared

/-- Moves take implementations of the service that no other move has in hand. -/
def step (shared : Shared Handler) : Event → Shared Handler
  | .moveConstruct source =>
    if source ∈ shared.idle ∧ source.owner = shared.service then
      { shared with
        idle := shared.idle.erase source
        moves := .leaving none source :: shared.moves }
    else shared
  | .moveAssign target source =>
    if target ∈ shared.idle ∧ source ∈ shared.idle.erase target ∧
        target.owner = shared.service ∧ source.owner = shared.service then
      { shared with
        idle := (shared.idle.erase target).erase source
        moves := .closing target source :: shared.moves }
    else shared
  | .advance progress => if progress ∈ shared.moves then shared.advance progress else shared
  | .proceed => shared.proceed

def run (shared : Shared Handler) (events : List Event) : Shared Handler := events.foldl step shared

def AtRest (shared : Shared Handler) : Prop := shared.moves = [] ∧ shared.stage = .finished

def carried (shared : Shared Handler) : List StateId := shared.moves.flatMap Progress.carried

/-- The implementations that were not destroyed, in hand or not. -/
def listed (shared : Shared Handler) : List Implementation :=
  shared.moves.flatMap Progress.inHand ++ shared.idle

@[simp] theorem run_nil (shared : Shared Handler) : shared.run [] = shared := rfl

@[simp] theorem run_cons (shared : Shared Handler) (event : Event) (rest : List Event) :
    shared.run (event :: rest) = (shared.step event).run rest := rfl

section

variable {shared : Shared Handler}

theorem step_advance {progress : Progress} (underWay : progress ∈ shared.moves) :
    shared.step (.advance progress) = shared.advance progress :=
  if_pos underWay

/-- Without anything in between, the steps of a move into a new implementation are that move. -/
theorem run_moveConstruct {source : Implementation} (there : source ∈ shared.idle)
    (own : source.owner = shared.service) :
    shared.run [.moveConstruct source, .advance (.leaving none source),
        .advance (.arriving none (shared.system.detach shared.service source).2.1
          (shared.system.detach shared.service source).1)] =
      { shared with
        system := (shared.system.moveConstruct shared.service shared.service source).2.2
        idle :=
          (shared.system.moveConstruct shared.service shared.service source).1 ::
            (shared.system.moveConstruct shared.service shared.service source).2.1 ::
            shared.idle.erase source } := by
  have begun : shared.step (.moveConstruct source) =
      { shared with
        idle := shared.idle.erase source
        moves := .leaving none source :: shared.moves } := if_pos ⟨there, own⟩
  rw [run_cons, begun, run_cons, step_advance List.mem_cons_self]
  simp only [advance, List.erase_cons_head]
  rw [run_cons, run_nil, step_advance List.mem_cons_self]
  simp only [advance, List.erase_cons_head]
  rfl

theorem run_moveAssign {target source : Implementation} (there : target ∈ shared.idle)
    (also : source ∈ shared.idle.erase target) (own : target.owner = shared.service)
    (owns : source.owner = shared.service) :
    shared.run [.moveAssign target source, .advance (.closing target source),
        .advance (.leaving (some target) source),
        .advance (.arriving (some target)
          ((shared.system.closeState target.state).2.detach shared.service source).2.1
          ((shared.system.closeState target.state).2.detach shared.service source).1)] =
      { shared with
        system :=
          (shared.system.moveAssign shared.service target shared.service source).2.2
        idle :=
          (shared.system.moveAssign shared.service target shared.service source).1 ::
            (shared.system.moveAssign shared.service target shared.service source).2.1 ::
            (shared.idle.erase target).erase source } := by
  have begun : shared.step (.moveAssign target source) =
      { shared with
        idle := (shared.idle.erase target).erase source
        moves := .closing target source :: shared.moves } := if_pos ⟨there, also, own, owns⟩
  rw [run_cons, begun, run_cons, step_advance List.mem_cons_self]
  simp only [advance, List.erase_cons_head]
  rw [run_cons, step_advance List.mem_cons_self]
  simp only [advance, List.erase_cons_head]
  rw [run_cons, run_nil, step_advance List.mem_cons_self]
  simp only [advance, List.erase_cons_head, System.moveAssign, if_true]

theorem run_closing (rest : List StateId) (shared : Shared Handler) :
    ({ shared with stage := .closing rest } : Shared Handler).run
        (List.replicate (rest.length + 1) .proceed) =
      { shared with
        system := (shared.system.closeStates rest).updatePool shared.service Pool.close
        stage := .finished } := by
  induction rest generalizing shared with
  | nil => rfl
  | cons state rest ih => exact ih { shared with system := (shared.system.closeState state).2 }

theorem run_shutdown (ahead : shared.stage = .ahead)
    (up : shared.system.isShutDown shared.service = false) :
    shared.run (List.replicate ((shared.system.registered shared.service).length + 3) .proceed) =
      { shared with
        system := shared.system.shutdown shared.service
        stage := .finished } := by
  let marked := shared.system.markShutDown shared.service
  have first : shared.step .proceed = { shared with system := marked, stage := .marked } := by
    simp only [step, proceed, ahead, up, Bool.false_eq_true, if_false]
    rfl
  have second : ({ shared with system := marked, stage := .marked } : Shared Handler).step
      .proceed = { shared with
        system := marked
        stage := .closing (shared.system.registered shared.service) } := by
    rw [← System.registered_markShutDown]
    rfl
  rw [List.replicate_succ, List.replicate_succ, run_cons, run_cons, first, second]
  rw [run_closing _ { shared with system := marked }]
  simp only [System.shutdown, up, Bool.false_eq_true, if_false, System.closeAll]
  rw [System.registered_markShutDown]

end

end Shared

end AsyncFiles.Moving
