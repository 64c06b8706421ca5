import AsyncFiles.File
import Mathlib.Tactic.Common

namespace AsyncFiles

open Access Error Host

theorem map_modify_of_same {α β : Type} {view : α → β} {change : α → α}
    (same : ∀ value, view (change value) = view value) (list : List α) (index : Nat) :
    (list.modify index change).map view = list.map view := by
  apply List.ext_getElem?
  intro position
  simp only [List.getElem?_map, List.getElem?_modify]
  cases list[position]? with
  | none => rfl
  | some value => by_cases here : index = position <;> simp [here, same]

structure Desk (Handler : Type) where
  context : ContextId
  queue : List (Task Handler)
  workers : List (Worker (Task Handler))

def Service.desk {Handler : Type} (service : Service Handler) : Desk Handler :=
  { context := service.context, queue := service.pool.queue, workers := service.pool.workers }

namespace System

variable {Handler : Type}

def desks (system : System Handler) : List (Desk Handler) := system.services.map Service.desk

def queues (system : System Handler) : List (List (Invocation Handler)) :=
  system.contexts.map Context.queue

structure Quiet (system later : System Handler) : Prop where
  desks : later.desks = system.desks
  queues : later.queues = system.queues

theorem quiet_updateContext (system : System Handler) (context : ContextId)
    {change : Context (Invocation Handler) → Context (Invocation Handler)}
    (same : ∀ found, (change found).queue = found.queue) :
    system.Quiet (system.updateContext context change) :=
  ⟨rfl, map_modify_of_same same _ _⟩

theorem quiet_workStarted (system : System Handler) (context : ContextId) :
    system.Quiet (system.workStarted context) :=
  system.quiet_updateContext context fun _ => rfl

theorem quiet_workFinished (system : System Handler) (context : ContextId) :
    system.Quiet (system.workFinished context) :=
  system.quiet_updateContext context fun _ => rfl

structure Calm (system later : System Handler) : Prop where
  desks : later.desks = system.desks
  contexts : later.contexts = system.contexts

theorem Calm.quiet {system later : System Handler} (calm : system.Calm later) :
    system.Quiet later :=
  ⟨calm.desks, congrArg (List.map Context.queue) calm.contexts⟩

theorem Calm.refl (system : System Handler) : system.Calm system := ⟨rfl, rfl⟩

theorem Calm.trans {system middle later : System Handler} (first : system.Calm middle)
    (second : middle.Calm later) : system.Calm later :=
  ⟨second.desks.trans first.desks, second.contexts.trans first.contexts⟩

theorem calm_host (system : System Handler) (host : Host) : system.Calm { system with host } :=
  ⟨rfl, rfl⟩

theorem calm_updateState (system : System Handler) (state : StateId)
    (change : FileState → FileState) : system.Calm (system.updateState state change) :=
  ⟨rfl, rfl⟩

theorem calm_addState (system : System Handler) : system.Calm system.addState.2 := ⟨rfl, rfl⟩

theorem calm_updateService (system : System Handler) (service : ServiceId)
    {change : Service Handler → Service Handler}
    (same : ∀ found, (change found).desk = found.desk) :
    system.Calm (system.updateService service change) :=
  ⟨map_modify_of_same same _ _, rfl⟩

theorem calm_updateRegistry (system : System Handler) (service : ServiceId)
    (change : Registry StateId → Registry StateId) :
    system.Calm (system.updateRegistry service change) :=
  system.calm_updateService service fun _ => rfl

theorem calm_register (system : System Handler) (service : ServiceId) (state : StateId) :
    system.Calm (system.register service state).2 := by
  simp only [register]
  split
  next => exact .refl _
  next found _ =>
    exact system.calm_updateRegistry service fun _ => (found.registry.insert state).2

theorem calm_closeState (system : System Handler) (state : StateId) :
    system.Calm (system.closeState state).2 := ⟨rfl, rfl⟩

theorem calm_adopt {system later : System Handler} {state : StateId} {handle : FileHandle}
    (adopted : system.adopt? state handle = some later) : system.Calm later := by
  obtain ⟨_, _, rfl⟩ := Option.map_eq_some_iff.mp adopted
  exact system.calm_updateState state _

theorem calm_assign (system : System Handler) (imp : Implementation) (handle : FileHandle) :
    system.Calm (system.assign imp handle).2 := by
  simp only [assign]
  split
  next _ adopted => exact calm_adopt adopted
  next => exact .refl _

theorem calm_adoptOpened (system : System Handler) (imp : Implementation) (path : Path)
    (handle : FileHandle) : system.Calm (system.adoptOpened imp path handle).2 := by
  simp only [adoptOpened]
  split
  next _ adopted => exact calm_adopt adopted
  next => exact ⟨rfl, rfl⟩

theorem calm_openDuring (system : System Handler) {meanwhile : System Handler → System Handler}
    (calm : ∀ given : System Handler, given.Calm (meanwhile given)) (imp : Implementation)
    (path : Path) (args : OpenArgs) :
    system.Calm (system.openDuring meanwhile imp path args).2 := by
  simp only [openDuring, onHost]
  split
  next => exact .refl _
  next =>
    cases FileHandle.openPath path args system.host with
    | mk result host =>
      cases result with
      | error error => exact system.calm_host host
      | ok handle =>
        exact ((system.calm_host host).trans (calm _)).trans (calm_adoptOpened _ imp path handle)

theorem calm_openFile (system : System Handler) (imp : Implementation) (path : Path)
    (args : OpenArgs) : system.Calm (system.openFile imp path args).2 :=
  system.calm_openDuring Calm.refl imp path args

theorem calm_cancel (system : System Handler) (imp : Implementation) :
    system.Calm (system.cancel imp).2 := by
  simp only [cancel]
  split
  next => exact system.calm_updateState _ _
  next => exact .refl _

theorem calm_construct (system : System Handler) (service : ServiceId) :
    system.Calm (system.construct service).2 :=
  system.calm_addState.trans (calm_register _ service _)

theorem calm_detach (system : System Handler) (service : ServiceId) (imp : Implementation) :
    system.Calm (system.detach service imp).2.2 := by
  simp only [detach]
  split
  next => exact system.calm_addState.trans (calm_updateRegistry _ service _)
  next => exact system.calm_addState

theorem calm_moveConstruct (system : System Handler) (service otherService : ServiceId)
    (other : Implementation) :
    system.Calm (system.moveConstruct service otherService other).2.2 :=
  (system.calm_detach otherService other).trans (calm_register _ service _)

theorem calm_removeOwned (system : System Handler) (service : ServiceId) (imp : Implementation) :
    system.Calm (if imp.owner = service then
      system.updateRegistry service fun registry => registry.remove imp.key else system) := by
  split
  next => exact system.calm_updateRegistry service _
  next => exact .refl _

theorem calm_moveAssign (system : System Handler) (service : ServiceId) (imp : Implementation)
    (otherService : ServiceId) (other : Implementation) :
    system.Calm (system.moveAssign service imp otherService other).2.2 := by
  have begun : system.Calm ((system.closeState imp.state).2.detach otherService other).2.2 :=
    (system.calm_closeState imp.state).trans (calm_detach _ otherService other)
  simp only [moveAssign]
  split
  next =>
    apply begun.trans
    dsimp only
    exact calm_updateRegistry _ service _
  next =>
    exact (begun.trans (calm_removeOwned _ service imp)).trans
      (calm_register _ otherService _)

theorem calm_destroy (system : System Handler) (service : ServiceId) (imp : Implementation) :
    system.Calm (system.destroy service imp) :=
  (system.calm_closeState imp.state).trans (calm_removeOwned _ service imp)

theorem calm_closeStates (system : System Handler) (states : List StateId) :
    system.Calm (system.closeStates states) := by
  induction states generalizing system with
  | nil => exact .refl _
  | cons state rest ih => exact (system.calm_closeState state).trans (ih _)

theorem calm_shutdown (system : System Handler) (service : ServiceId) :
    system.Calm (system.shutdown service) := by
  simp only [shutdown]
  split
  next => exact .refl _
  next =>
    have marked : system.Calm (system.markShutDown service) :=
      system.calm_updateService service fun _ => rfl
    have closed := marked.trans
      (calm_closeStates _ ((system.markShutDown service).registered service))
    exact closed.trans (calm_updateService _ service fun _ => rfl)

theorem calm_retain (system : System Handler) (service : ServiceId) :
    system.Calm (system.retain service) :=
  system.calm_updateService service fun _ => rfl

theorem calm_dropReference (system : System Handler) (service : ServiceId) :
    system.Calm (system.dropReference service) := by
  have dropped : system.Calm (system.updateService service fun found =>
      { found with references := found.references - 1 }) :=
    system.calm_updateService service fun _ => rfl
  simp only [dropReference]
  split
  next => exact dropped
  next =>
    split
    next => exact dropped
    next =>
      split
      next => exact dropped.trans (calm_closeStates _ _)
      next => exact dropped.trans (calm_shutdown _ service)

end System

namespace File

variable {Handler : Type}

theorem calm_new (service : ServiceId) (system : System Handler) :
    system.Calm (File.new service system).2 :=
  (system.calm_construct service).trans (System.calm_retain _ service)

theorem calm_drop (file : File) (system : System Handler) : system.Calm (file.drop system) :=
  (system.calm_destroy file.service file.implementation).trans
    (System.calm_dropReference _ file.service)

theorem calm_openNew (service : ServiceId) (path : Path) (args : OpenArgs)
    (system : System Handler) : system.Calm (File.openNew service path args system).2 := by
  have opened : system.Calm ((File.new service system).2.openFile
      (File.new service system).1.implementation path args).2 :=
    (calm_new service system).trans (System.calm_openFile _ _ path args)
  simp only [openNew]
  split
  next later same =>
    rw [same] at opened
    exact opened
  next error later same =>
    rw [same] at opened
    exact opened.trans (calm_drop _ later)

theorem calm_take (file : File) (system : System Handler) :
    system.Calm (file.take system).2.2 :=
  (system.calm_moveConstruct file.service file.service file.implementation).trans
    (System.calm_retain _ file.service)

theorem calm_moveFrom (file other : File) (system : System Handler) :
    system.Calm (file.moveFrom other system).2.2 := by
  have moved := system.calm_moveAssign file.service file.implementation other.service
    other.implementation
  simp only [moveFrom]
  split
  next => exact moved
  next =>
    exact (moved.trans (System.calm_retain _ other.service)).trans
      (System.calm_dropReference _ file.service)

end File

end AsyncFiles
