import AsyncFiles.Proofs.Cancellation.Generations
import AsyncFiles.Proofs.Program

namespace AsyncFiles

open Access Cancellation Error Host

namespace System

variable {Handler : Type}

/-- The states that a shutdown ends: those in the registry, the first time. -/
def endedByShutdown (system : System Handler) (service : ServiceId) : List StateId :=
  if system.isShutDown service then [] else system.registered service

/-- The states that end when a reference is dropped: those in the registry, with the last one. -/
def endedByDrop (system : System Handler) (service : ServiceId) : List StateId :=
  if system.references service ≤ 1 then system.registered service else []

/-- A state's source was destroyed so many times, and nothing else became of it. -/
structure Destroyed (system later : System Handler) (state : StateId) (times : Nat) : Prop where
  grown : system.states.length ≤ later.states.length
  source : state < system.states.length →
    (later.state state).source = Source.destroy^[times] (system.state state).source

section

variable {system middle later : System Handler} {state : StateId}

theorem Destroyed.trans {first second : Nat} (before : system.Destroyed middle state first)
    (after : middle.Destroyed later state second) :
    system.Destroyed later state (first + second) where
  grown := Nat.le_trans before.grown after.grown
  source bound := by
    rw [after.source (Nat.lt_of_lt_of_le bound before.grown), before.source bound,
      Nat.add_comm first second, Function.iterate_add_apply]

theorem destroyed_of_states (same : later.states = system.states) (state : StateId) :
    system.Destroyed later state 0 :=
  ⟨by simp [same], fun _ => by simp [System.state, same]⟩

theorem destroyed_host (system : System Handler) (host : Host) (state : StateId) :
    system.Destroyed { system with host } state 0 :=
  ⟨Nat.le_refl _, fun _ => rfl⟩

theorem Destroyed.of_states {times : Nat} (before : system.Destroyed middle state times)
    (same : later.states = middle.states) : system.Destroyed later state times :=
  before.trans (destroyed_of_states same state)

theorem state_addState (system : System Handler) (state : StateId) :
    system.addState.2.state state = system.state state := by
  simp only [System.state, addState, List.getElem?_append]
  split
  next => rfl
  next beyond =>
    rw [List.getElem?_eq_none (Nat.le_of_not_lt beyond)]
    cases found : [({} : FileState)][state - system.states.length]? with
    | none => rfl
    | some fresh => exact List.mem_singleton.mp (List.mem_of_getElem? found)

theorem destroyed_addState (system : System Handler) (state : StateId) :
    system.Destroyed system.addState.2 state 0 where
  grown := by simp [addState]
  source _ := by
    rw [state_addState]
    rfl

theorem state_updateState (system : System Handler) {changed : StateId}
    (change : FileState → FileState) (bound : changed < system.states.length) (state : StateId) :
    (system.updateState changed change).state state =
      if changed = state then change (system.state state) else system.state state := by
  simp only [System.state, updateState, List.getElem?_modify]
  by_cases same : changed = state
  · subst same
    simp [List.getElem?_eq_getElem bound]
  · cases system.states[state]? <;> simp [same]

theorem destroyed_updateState (system : System Handler) {changed : StateId}
    {change : FileState → FileState} (times : Nat)
    (ended : (change (system.state changed)).source =
      Source.destroy^[times] (system.state changed).source) (state : StateId) :
    system.Destroyed (system.updateState changed change) state
      (if changed = state then times else 0) where
  grown := by simp [updateState]
  source bound := by
    by_cases same : changed = state
    · subst same
      rw [state_updateState system change bound, if_pos rfl, if_pos rfl, ended]
    · simp [System.state, updateState, same]

theorem destroyed_releaseState (system : System Handler) (released state : StateId) :
    system.Destroyed (system.releaseState released).2 state ([released].count state) := by
  rw [List.count_singleton]
  simp only [beq_iff_eq]
  exact system.destroyed_updateState 1 rfl state

theorem destroyed_closeState (system : System Handler) (closed state : StateId) :
    system.Destroyed (system.closeState closed).2 state ([closed].count state) :=
  ⟨(system.destroyed_releaseState closed state).grown,
    (system.destroyed_releaseState closed state).source⟩

theorem destroyed_closeStates (system : System Handler) (states : List StateId)
    (state : StateId) :
    system.Destroyed (system.closeStates states) state (states.count state) := by
  induction states generalizing system with
  | nil => exact destroyed_of_states rfl state
  | cons first rest ih =>
    rw [← List.singleton_append, List.count_append]
    exact (system.destroyed_closeState first state).trans (ih (system.closeState first).2)

theorem states_register (system : System Handler) (service : ServiceId) (state : StateId) :
    (system.register service state).2.states = system.states := by
  simp only [register]
  split <;> rfl

/-- Takes an implementation out of the registry of a service if that owns it. -/
def unlist (system : System Handler) (service : ServiceId) (imp : Implementation) :
    System Handler :=
  if imp.owner = service then
    system.updateRegistry service fun registry => registry.remove imp.key
  else system

theorem states_unlist (system : System Handler) (service : ServiceId) (imp : Implementation) :
    (system.unlist service imp).states = system.states := by
  simp only [unlist]
  split <;> rfl

theorem states_detach (system : System Handler) (service : ServiceId) (imp : Implementation) :
    (system.detach service imp).2.2.states = system.addState.2.states := by
  simp only [detach]
  split <;> rfl

theorem destroyed_construct (system : System Handler) (service : ServiceId) (state : StateId) :
    system.Destroyed (system.construct service).2 state 0 :=
  (system.destroyed_addState state).of_states (states_register _ service _)

theorem destroyed_detach (system : System Handler) (service : ServiceId) (imp : Implementation)
    (state : StateId) : system.Destroyed (system.detach service imp).2.2 state 0 :=
  (system.destroyed_addState state).of_states (system.states_detach service imp)

theorem destroyed_moveConstruct (system : System Handler) (service otherService : ServiceId)
    (other : Implementation) (state : StateId) :
    system.Destroyed (system.moveConstruct service otherService other).2.2 state 0 :=
  (system.destroyed_detach otherService other state).of_states (states_register _ service _)

theorem destroyed_moveAssign (system : System Handler) (service : ServiceId)
    (imp : Implementation) (otherService : ServiceId) (other : Implementation) (state : StateId) :
    system.Destroyed (system.moveAssign service imp otherService other).2.2 state
      ([imp.state].count state) := by
  have begun : system.Destroyed ((system.closeState imp.state).2.detach otherService other).2.2
      state ([imp.state].count state) :=
    (system.destroyed_closeState imp.state state).trans
      (destroyed_detach _ otherService other state)
  apply begun.of_states
  simp only [moveAssign]
  split
  next => rfl
  next => exact (states_register _ otherService _).trans (states_unlist _ service imp)

theorem destroyed_destroy (system : System Handler) (service : ServiceId) (imp : Implementation)
    (state : StateId) :
    system.Destroyed (system.destroy service imp) state ([imp.state].count state) :=
  (system.destroyed_closeState imp.state state).of_states (states_unlist _ service imp)

theorem destroyed_closeAll (system : System Handler) (service : ServiceId) (state : StateId) :
    system.Destroyed (system.closeAll service) state ((system.registered service).count state) :=
  system.destroyed_closeStates (system.registered service) state

theorem view_updateService {View : Type} {view : Service Handler → View}
    (system : System Handler) (service : ServiceId) (change : Service Handler → Service Handler)
    (same : ∀ found, view (change found) = view found) (other : ServiceId) :
    ((system.updateService service change).service? other).map view =
      (system.service? other).map view := by
  simp only [service?, updateService, List.getElem?_modify]
  cases system.services[other]? with
  | none => rfl
  | some found => by_cases here : service = other <;> simp [here, same]

theorem registered_updateService (system : System Handler) (service : ServiceId)
    (change : Service Handler → Service Handler)
    (same : ∀ found, (change found).registry = found.registry) (other : ServiceId) :
    (system.updateService service change).registered other = system.registered other := by
  simp only [registered]
  rw [system.view_updateService service change fun found => by rw [same]]

theorem references_updateService (system : System Handler) (service : ServiceId)
    (change : Service Handler → Service Handler)
    (same : ∀ found, (change found).references = found.references) (other : ServiceId) :
    (system.updateService service change).references other = system.references other := by
  simp only [references]
  rw [system.view_updateService service change same]

theorem references_register (system : System Handler) (service : ServiceId) (state : StateId)
    (other : ServiceId) :
    (system.register service state).2.references other = system.references other := by
  simp only [register]
  split
  next => rfl
  next => exact system.references_updateService service _ (by intro found; rfl) other

theorem references_retain (system : System Handler) {service : ServiceId}
    (held : 0 < system.references service) (other : ServiceId) :
    (system.retain service).references other =
      system.references other + (if service = other then 1 else 0) := by
  by_cases same : service = other
  · subst same
    simp only [references] at held ⊢
    cases present : system.service? service with
    | none => simp [present] at held
    | some found =>
      have there : system.services[service]? = some found := present
      simp [retain, updateService, service?, there]
  · simp [references, retain, service?, updateService, same]

theorem references_unlist (system : System Handler) (service : ServiceId) (imp : Implementation)
    (other : ServiceId) :
    (system.unlist service imp).references other = system.references other := by
  simp only [unlist]
  split
  next => exact references_updateService _ service _ (by intro found; rfl) other
  next => rfl

theorem references_destroy (system : System Handler) (service : ServiceId) (imp : Implementation)
    (other : ServiceId) :
    (system.destroy service imp).references other = system.references other :=
  (system.closeState imp.state).2.references_unlist service imp other

theorem registered_markShutDown (system : System Handler) (service : ServiceId) :
    (system.markShutDown service).registered service = system.registered service :=
  system.registered_updateService service _ (by intro found; rfl) service

theorem destroyed_shutdown (system : System Handler) (service : ServiceId) (state : StateId) :
    system.Destroyed (system.shutdown service) state
      ((system.endedByShutdown service).count state) := by
  simp only [shutdown, endedByShutdown]
  split
  next => exact destroyed_of_states rfl state
  next =>
    have closed := (system.markShutDown service).destroyed_closeAll service state
    rw [registered_markShutDown] at closed
    exact ⟨closed.grown, closed.source⟩

def giveUp (system : System Handler) (service : ServiceId) : System Handler :=
  system.updateService service fun found => { found with references := found.references - 1 }

theorem service_giveUp (system : System Handler) (service : ServiceId) :
    (system.giveUp service).service? service = (system.service? service).map fun found =>
      { found with references := found.references - 1 } := by
  simp [giveUp, service?, updateService]

theorem registered_giveUp (system : System Handler) (service : ServiceId) :
    (system.giveUp service).registered service = system.registered service :=
  system.registered_updateService service _ (by intro found; rfl) service

theorem isShutDown_giveUp (system : System Handler) (service : ServiceId) :
    (system.giveUp service).isShutDown service = system.isShutDown service := by
  simp only [isShutDown, service_giveUp, Option.map_map]
  rfl

/-- What dropping a reference comes to: nothing more, or, with the last one, a shutdown, or the end
of what was opened after the shutdown. -/
inductive Dropped (system : System Handler) (service : ServiceId) (later : System Handler) : Prop
  | unknown (absent : system.service? service = none) (same : later = system.giveUp service)
  | referenced (left : 1 < system.references service) (same : later = system.giveUp service)
  | closed (last : system.references service ≤ 1) (down : system.isShutDown service = true)
    (same : later = (system.giveUp service).closeAll service)
  | shutDown (last : system.references service ≤ 1) (on : system.isShutDown service = false)
    (same : later = (system.giveUp service).shutdown service)

theorem dropped_dropReference (system : System Handler) (service : ServiceId) :
    system.Dropped service (system.dropReference service) := by
  simp only [System.dropReference]
  rw [show (system.updateService service fun found =>
    { found with references := found.references - 1 }) = system.giveUp service from rfl,
    service_giveUp]
  cases present : system.service? service with
  | none => exact .unknown present rfl
  | some found =>
    have references : system.references service = found.references := by
      simp [System.references, present]
    have down : system.isShutDown service = found.shutDown := by simp [isShutDown, present]
    simp only [Option.map_some]
    split
    next left => exact .referenced (by omega) rfl
    next none =>
      split
      next shut => exact .closed (by omega) (down.trans shut) rfl
      next on => exact .shutDown (by omega) (down.trans (by simpa using on)) rfl

theorem dropReference_of_held {system : System Handler} {service : ServiceId}
    (held : 1 < system.references service) :
    system.dropReference service = system.giveUp service := by
  cases system.dropped_dropReference service with
  | unknown absent same => exact same
  | referenced left same => exact same
  | closed last down same => omega
  | shutDown last on same => omega

theorem destroyed_dropReference (system : System Handler) (service : ServiceId)
    (state : StateId) :
    system.Destroyed (system.dropReference service) state
      ((system.endedByDrop service).count state) := by
  have same : (system.giveUp service).states = system.states := rfl
  have gaveUp := destroyed_of_states same state
  simp only [endedByDrop]
  cases system.dropped_dropReference service with
  | unknown absent same =>
    have empty : system.registered service = [] := by simp [registered, absent]
    rw [same, empty, ite_self]
    exact gaveUp
  | referenced left same =>
    rw [same, if_neg (by omega)]
    exact gaveUp
  | closed last down same =>
    have closed := gaveUp.trans (destroyed_closeAll (system.giveUp service) service state)
    rw [registered_giveUp, Nat.zero_add] at closed
    rwa [same, if_pos last]
  | shutDown last on same =>
    have closed := gaveUp.trans (destroyed_shutdown (system.giveUp service) service state)
    rw [endedByShutdown, isShutDown_giveUp, on, registered_giveUp, Nat.zero_add] at closed
    rw [same, if_pos last]
    exact closed

end

/-- What a call makes of a source: it destroys it so many times, or it cancels or revives it once.
-/
inductive Turn (source : Source) (times : Nat) : Source → Prop
  | ended : Turn source times (Source.destroy^[times] source)
  | cancelled (once : times = 1) : Turn source times source.cancel
  | revived (never : times = 0) : Turn source times source.reset

structure Turns (system later : System Handler) (state : StateId) (times : Nat) : Prop where
  grown : system.states.length ≤ later.states.length
  source : state < system.states.length →
    Turn (system.state state).source times (later.state state).source

section

variable {system middle later : System Handler} {state : StateId} {times : Nat}

theorem Destroyed.turns (destroyed : system.Destroyed later state times) :
    system.Turns later state times :=
  ⟨destroyed.grown, fun bound => destroyed.source bound ▸ .ended⟩

theorem Destroyed.then_turns (first : system.Destroyed middle state 0)
    (second : middle.Turns later state times) : system.Turns later state times where
  grown := Nat.le_trans first.grown second.grown
  source bound := by
    have same := first.source bound
    rw [Function.iterate_zero, id_eq] at same
    rw [← same]
    exact second.source (Nat.lt_of_lt_of_le bound first.grown)

theorem Turns.then_destroyed (first : system.Turns middle state times)
    (second : middle.Destroyed later state 0) : system.Turns later state times where
  grown := Nat.le_trans first.grown second.grown
  source bound := by
    have same := second.source (Nat.lt_of_lt_of_le bound first.grown)
    rw [Function.iterate_zero, id_eq] at same
    rw [same]
    exact first.source bound

theorem turns_adopt {adopted : StateId} {handle : FileHandle}
    (taken : system.adopt? adopted handle = some later) (state : StateId) :
    system.Turns later state 0 := by
  obtain ⟨next, changed, rfl⟩ := Option.map_eq_some_iff.mp taken
  obtain ⟨installed, put, rfl⟩ := Option.map_eq_some_iff.mp changed
  have source : installed.source = (system.state adopted).source := by
    simp only [FileState.install?] at put
    split at put
    next => cases put
    next =>
      cases put
      rfl
  refine ⟨by simp [updateState], fun bound => ?_⟩
  by_cases same : adopted = state
  · subst same
    rw [state_updateState system _ bound, if_pos rfl, FileState.revive, source]
    exact .revived rfl
  · have still : ((system.updateState adopted fun _ => installed.revive).state state) =
        system.state state := by
      simp [System.state, updateState, same]
    rw [still]
    exact .ended

theorem turns_assign (system : System Handler) (imp : Implementation) (handle : FileHandle)
    (state : StateId) : system.Turns (system.assign imp handle).2 state 0 := by
  simp only [assign]
  split
  next taken => exact turns_adopt taken state
  next => exact (destroyed_of_states rfl state).turns

theorem turns_openFile (system : System Handler) (imp : Implementation) (path : Path)
    (args : OpenArgs) (state : StateId) :
    system.Turns (system.openFile imp path args).2 state 0 := by
  simp only [openFile, openDuring, onHost]
  split
  next => exact (destroyed_of_states rfl state).turns
  next =>
    cases FileHandle.openPath path args system.host with
    | mk result host =>
      cases result with
      | error error => exact (system.destroyed_host host state).turns
      | ok handle =>
        apply (system.destroyed_host host state).then_turns
        simp only [adoptOpened, id_eq]
        split
        next taken => exact turns_adopt taken state
        next => exact (destroyed_host _ _ state).turns

theorem services_openFile (system : System Handler) (imp : Implementation) (path : Path)
    (args : OpenArgs) : (system.openFile imp path args).2.services = system.services := by
  simp only [openFile, openDuring, onHost]
  split
  next => rfl
  next =>
    cases FileHandle.openPath path args system.host with
    | mk result host =>
      cases result with
      | error error => rfl
      | ok handle =>
        simp only [adoptOpened, id_eq]
        split
        next taken =>
          obtain ⟨next, changed, rfl⟩ := Option.map_eq_some_iff.mp taken
          rfl
        next => rfl

theorem turns_cancel (system : System Handler) (imp : Implementation) (state : StateId) :
    system.Turns (system.cancel imp).2 state
      ((if (system.handleOf imp).isOpen then [imp.state] else []).count state) := by
  simp only [cancel]
  split
  next =>
    refine ⟨by simp [updateState], fun bound => ?_⟩
    by_cases same : imp.state = state
    · rw [same, state_updateState system _ bound, if_pos rfl]
      exact .cancelled (by simp)
    · have still : ((system.updateState imp.state FileState.cancel).state state) =
          system.state state := by
        simp [System.state, updateState, same]
      rw [still]
      simp only [List.count_singleton, beq_iff_eq, same, if_false]
      exact .ended
  next => exact (destroyed_of_states rfl state).turns

end

end System

namespace File

variable {Handler : Type}

def endedByMove (file other : File) (system : System Handler) : List StateId :=
  if file.service = other.service then []
  else
    ((system.moveAssign file.service file.implementation other.service
      other.implementation).2.2.retain other.service).endedByDrop file.service

def endedByDrop (file : File) (system : System Handler) : List StateId :=
  (system.destroy file.service file.implementation).endedByDrop file.service

theorem destroyed_new (service : ServiceId) (system : System Handler) (state : StateId) :
    system.Destroyed (File.new service system).2 state 0 :=
  (system.destroyed_construct service state).of_states rfl

theorem destroyed_drop (file : File) (system : System Handler) (state : StateId) :
    system.Destroyed (file.drop system) state
      ((file.implementation.state :: file.endedByDrop system).count state) := by
  rw [← List.singleton_append, List.count_append]
  exact (system.destroyed_destroy file.service file.implementation state).trans
    (System.destroyed_dropReference _ file.service state)

theorem endedByDrop_of_held {system : System Handler} {file : File}
    (held : 1 < system.references file.service) : file.endedByDrop system = [] := by
  simp only [endedByDrop, System.endedByDrop]
  rw [System.references_destroy, if_neg (by omega)]

theorem references_new {service : ServiceId} {system : System Handler}
    (held : 0 < system.references service) (other : ServiceId) :
    (File.new service system).2.references other =
      system.references other + (if service = other then 1 else 0) := by
  have same (found : ServiceId) :
      (system.construct service).2.references found = system.references found :=
    System.references_register system.addState.2 service system.states.length found
  calc
    (File.new service system).2.references other =
        (system.construct service).2.references other + (if service = other then 1 else 0) :=
      System.references_retain _ ((same service).symm ▸ held) other
    _ = system.references other + (if service = other then 1 else 0) := by rw [same]

theorem openNew_cases (service : ServiceId) (path : Path) (args : OpenArgs)
    (system : System Handler) :
    (∃ later,
      (File.new service system).2.openFile (File.new service system).1.implementation path args =
        (.ok (), later) ∧
      File.openNew service path args system = (.ok (File.new service system).1, later)) ∨
    ∃ error later,
      (File.new service system).2.openFile (File.new service system).1.implementation path args =
        (.error error, later) ∧
      File.openNew service path args system =
        (.error error, (File.new service system).1.drop later) := by
  simp only [openNew]
  cases (File.new service system).2.openFile (File.new service system).1.implementation path
    args with
  | mk result later =>
    cases result with
    | ok done => exact .inl ⟨later, rfl, rfl⟩
    | error error => exact .inr ⟨error, later, rfl, rfl⟩

theorem turns_openNew (service : ServiceId) (path : Path) (args : OpenArgs)
    {system : System Handler} (held : 0 < system.references service) (state : StateId) :
    system.Turns (File.openNew service path args system).2 state 0 := by
  have opened := (destroyed_new service system state).then_turns
    (System.turns_openFile (File.new service system).2 (File.new service system).1.implementation
      path args state)
  have services := System.services_openFile (File.new service system).2
    (File.new service system).1.implementation path args
  rcases openNew_cases service path args system with ⟨later, same, new⟩ | ⟨error, later, same, new⟩
  · rw [new]
    rw [same] at opened
    exact opened
  · rw [new]
    rw [same] at opened services
    dsimp only at services
    have referenced : 1 < later.references service := by
      have counted := references_new held service
      rw [if_pos rfl] at counted
      simp only [System.references, System.service?, services] at counted held ⊢
      omega
    have dropped := (File.new service system).1.destroyed_drop later state
    rw [endedByDrop_of_held referenced] at dropped
    refine ⟨Nat.le_trans opened.grown dropped.grown, fun bound => ?_⟩
    have other : [(File.new service system).1.implementation.state].count state = 0 :=
      List.count_eq_zero.mpr fun member => by
        have fresh : state = system.states.length := List.mem_singleton.mp member
        exact absurd bound (Nat.not_lt_of_le (Nat.le_of_eq fresh.symm))
    rw [other] at dropped
    exact (opened.then_destroyed dropped).source bound

theorem destroyed_take (file : File) (system : System Handler) (state : StateId) :
    system.Destroyed (file.take system).2.2 state 0 :=
  (system.destroyed_moveConstruct file.service file.service file.implementation state).of_states rfl

theorem destroyed_moveFrom (file other : File) (system : System Handler) (state : StateId) :
    system.Destroyed (file.moveFrom other system).2.2 state
      ((file.implementation.state :: file.endedByMove other system).count state) := by
  have moved := system.destroyed_moveAssign file.service file.implementation other.service
    other.implementation state
  rw [← List.singleton_append, List.count_append]
  simp only [moveFrom, endedByMove]
  split
  next => exact moved
  next =>
    have dropped := System.destroyed_dropReference ((system.moveAssign file.service
      file.implementation other.service other.implementation).2.2.retain other.service)
      file.service state
    exact moved.trans ⟨dropped.grown, dropped.source⟩

end File

namespace System

variable {Handler : Type}

theorem states_follow (system : System Handler) (service : ServiceId) (worker : Nat)
    (operation : Operation Handler) (attempt : Attempt) :
    (system.follow service worker operation attempt).states = system.states := by
  cases attempt <;> rfl

theorem states_workerStep {system later : System Handler} {paused : Operation Handler → Bool}
    {service : ServiceId} {worker : Nat}
    (stepped : system.workerStep? paused service worker = some later) :
    later.states = system.states := by
  simp only [workerStep?] at stepped
  split at stepped
  next => cases stepped
  next found present =>
    split at stepped
    next operation _ =>
      cases stepped
      simp only [checkToken]
      split <;> rfl
    next operation _ =>
      split at stepped
      next => cases stepped
      next =>
        cases stepped
        exact states_follow _ service worker operation _
    next operation call _ =>
      obtain ⟨⟨attempt, host⟩, _, rfl⟩ := Option.map_eq_some_iff.mp stepped
      exact states_follow _ service worker operation attempt
    next =>
      cases stepped
      rfl
    next =>
      cases stepped
      rfl
    next =>
      split at stepped
      next =>
        cases stepped
        rfl
      next =>
        obtain ⟨pool, _, rfl⟩ := Option.map_eq_some_iff.mp stepped
        rfl

theorem states_submit (system : System Handler) (service : ServiceId) (imp : Implementation)
    (request : Request) (buffers : List Bytes) (handler : Handler) :
    (system.submit service imp request buffers handler).states = system.states := by
  simp only [submit]
  split
  next => rfl
  next => split <;> rfl

end System

end AsyncFiles
