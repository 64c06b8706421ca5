import AsyncFiles.Proofs.Descriptors.Table
import AsyncFiles.Proofs.Endings
import AsyncFiles.Proofs.Outcome.Bearers

/-!
What becomes of the handles in states. Moves, endings and the calls of workers take no handle in: a
handle stays in its state, or its descriptor is closed by one call and the state holds nothing. An
opening or an assignment puts one handle into one state.
-/
namespace AsyncFiles

open Access Error Host

namespace System

variable {Handler : Type} {system middle later : System Handler} {state : StateId}

def holding (system : System Handler) (raw : Int) : Nat :=
  system.states.countP fun state => state.handle.raw = raw

/-- Each handle in a state has an open descriptor of its own. -/
def Backed (system : System Handler) : Prop :=
  ∀ raw, raw ≠ -1 → system.holding raw ≤ (system.host.opened raw).toNat

/-- What becomes of a system when the given states come to their end and no handle is taken in. -/
structure Unwinds (system later : System Handler) (ended : List StateId) : Prop where
  grown : system.states.length ≤ later.states.length
  holding : ∀ raw, raw ≠ -1 → later.holding raw + (system.host.opened raw).toNat =
    system.holding raw + (later.host.opened raw).toNat
  narrows : ∀ raw, later.host.opened raw = true → system.host.opened raw = true
  handle : ∀ state, (later.state state).handle = (system.state state).handle ∨
    (later.state state).handle = .closed
  closed : ∀ state ∈ ended, (later.state state).handle = .closed
  sheds : ∃ closed, system.host.Sheds later.host closed ∧
    ∀ raw ∈ closed, ∃ state ∈ ended, (system.state state).handle = ⟨raw⟩

theorem Backed.unwinds {ended : List StateId} (backed : system.Backed)
    (unwinds : system.Unwinds later ended) : later.Backed := by
  intro raw number
  have before := backed raw number
  have balance := unwinds.holding raw number
  omega

theorem Unwinds.trans {first second : List StateId} (before : system.Unwinds middle first)
    (after : middle.Unwinds later second) : system.Unwinds later (first ++ second) where
  grown := Nat.le_trans before.grown after.grown
  holding raw number := by
    have early := before.holding raw number
    have late := after.holding raw number
    omega
  narrows raw there := before.narrows raw (after.narrows raw there)
  handle state := by
    rcases after.handle state with same | closed
    · rw [same]
      exact before.handle state
    · exact .inr closed
  closed state member := by
    rcases List.mem_append.mp member with early | late
    · rcases after.handle state with same | closed
      · exact same.trans (before.closed state early)
      · exact closed
    · exact after.closed state late
  sheds := by
    obtain ⟨early, shedEarly, owned⟩ := before.sheds
    obtain ⟨late, shedLate, owned_late⟩ := after.sheds
    refine ⟨late ++ early, shedEarly.trans shedLate before.narrows after.narrows, ?_⟩
    intro raw member
    rcases List.mem_append.mp member with last | first
    · obtain ⟨state, ended, held⟩ := owned_late raw last
      refine ⟨state, List.mem_append_right _ ended, ?_⟩
      rcases before.handle state with same | closed
      · exact same.symm.trans held
      · have natural := natural_of_opened ((shedLate.mem raw).mp last).1
        have none : raw = -1 := congrArg FileHandle.raw (held.symm.trans closed)
        omega
    · obtain ⟨state, ended, held⟩ := owned raw first
      exact ⟨state, List.mem_append_left _ ended, held⟩

theorem unwinds_of_states (same : later.states = system.states)
    (unmoved : system.host.Unmoved later.host) : system.Unwinds later [] where
  grown := Nat.le_of_eq (congrArg List.length same.symm)
  holding raw _ := by rw [unmoved.opened raw, System.holding, same, System.holding]
  narrows raw there := (unmoved.opened raw).symm.trans there
  handle state := .inl (by rw [System.state, same, System.state])
  closed := by simp
  sheds := ⟨[], unmoved.sheds, by simp⟩

theorem Unwinds.of_same {ended : List StateId} (before : system.Unwinds middle ended)
    (states : later.states = middle.states) (host : later.host = middle.host) :
    system.Unwinds later ended := by
  have after := before.trans (unwinds_of_states states (host ▸ .refl middle.host))
  rwa [List.append_nil] at after

theorem unwinds_addState (system : System Handler) : system.Unwinds system.addState.2 [] where
  grown := by simp [addState]
  holding raw number := by
    have closed : ¬ (FileHandle.closed.raw = raw) := Ne.symm number
    simp [System.holding, addState, closed]
  narrows raw there := there
  handle state := .inl (by rw [state_addState])
  closed := by simp
  sheds := ⟨[], (Unmoved.refl system.host).sheds, by simp⟩

theorem holding_updateState (system : System Handler) {changed : StateId}
    (change : FileState → FileState) (bound : changed < system.states.length) (raw : Int) :
    (system.updateState changed change).holding raw +
        (if (system.state changed).handle.raw = raw then 1 else 0) =
      system.holding raw +
        (if (change (system.state changed)).handle.raw = raw then 1 else 0) := by
  have present := List.getElem?_eq_getElem bound
  have counted : system.states[changed].handle.raw = raw → 0 < system.holding raw := by
    intro held
    exact List.countP_pos_iff.mpr ⟨_, List.getElem_mem bound, by simpa using held⟩
  simp only [holding, updateState, System.state, present, Option.getD_some,
    List.modify_eq_set] at counted ⊢
  rw [List.countP_set bound]
  by_cases held : system.states[changed].handle.raw = raw
  · have positive := counted held
    simp only [held, decide_true, if_true, decide_eq_true_eq]
    omega
  · simp [held]

theorem handle_releaseState (system : System Handler) (released state : StateId) :
    ((system.releaseState released).2.state state).handle =
      if released = state then .closed else (system.state state).handle := by
  by_cases bound : released < system.states.length
  · have changed := state_updateState system
      (fun _ => ((system.state released).release).2) bound state
    rw [releaseState, changed]
    split <;> rfl
  · have same : (system.releaseState released).2.states = system.states := by
      simp only [releaseState, updateState]
      exact List.modify_eq_self (Nat.le_of_not_lt bound)
    rw [System.state, same]
    split
    next here => simp [← here, List.getElem?_eq_none (Nat.le_of_not_lt bound)]
    next => rfl

theorem holding_releaseState (system : System Handler) (released : StateId) {raw : Int}
    (number : raw ≠ -1) :
    (system.releaseState released).2.holding raw +
      (if (system.releaseState released).1.raw = raw then 1 else 0) = system.holding raw := by
  have closed : ¬ (FileHandle.closed.raw = raw) := Ne.symm number
  by_cases bound : released < system.states.length
  · have counted := holding_updateState system
      (fun _ => ((system.state released).release).2) bound raw
    rw [show ((system.state released).release).2.handle = FileHandle.closed from rfl,
      if_neg closed] at counted
    exact counted
  · have same : (system.releaseState released).2.states = system.states := by
      simp only [releaseState, updateState]
      exact List.modify_eq_self (Nat.le_of_not_lt bound)
    have none : (system.releaseState released).1 = .closed := by
      simp [releaseState, System.state, List.getElem?_eq_none (Nat.le_of_not_lt bound),
        FileState.release, FileState.takeHandle, FileState.endSource]
    rw [holding, same, none, if_neg closed]
    rfl

theorem Backed.opened_of_handle (backed : system.Backed) (state : StateId)
    (held : (system.state state).handle.isOpen = true) :
    system.host.opened (system.state state).handle.raw = true := by
  have number : (system.state state).handle.raw ≠ -1 := by simpa [FileHandle.isOpen] using held
  have counted := system.holding_releaseState state number
  have bounded := backed _ number
  rw [show (system.releaseState state).1 = (system.state state).handle from rfl, if_pos rfl]
    at counted
  cases there : system.host.opened (system.state state).handle.raw with
  | true => rfl
  | false =>
    rw [there, Bool.toNat_false] at bounded
    omega

theorem Backed.unique (backed : system.Backed) {first second : StateId} {raw : Int}
    (number : raw ≠ -1) (held : (system.state first).handle = ⟨raw⟩)
    (also : (system.state second).handle = ⟨raw⟩) : first = second := by
  by_contra apart
  have counted := system.holding_releaseState first number
  have single := backed raw number
  rw [show (system.releaseState first).1 = (system.state first).handle from rfl, held,
    if_pos rfl] at counted
  have still := system.handle_releaseState first second
  rw [if_neg apart, also] at still
  have more := (system.releaseState first).2.holding_releaseState second number
  rw [show ((system.releaseState first).2.releaseState second).1 =
    ((system.releaseState first).2.state second).handle from rfl, still, if_pos rfl] at more
  have one : (system.host.opened raw).toNat ≤ 1 := Bool.toNat_le _
  omega

theorem unwinds_closeState (backed : system.Backed) (closed : StateId) :
    system.Unwinds (system.closeState closed).2 [closed] := by
  have shuts := system.host.shuts_close (system.state closed).handle
  have handles := system.handle_releaseState closed
  constructor
  · exact Nat.le_of_eq (length_closeState system closed).symm
  · intro raw number
    have counted := system.holding_releaseState closed number
    have freed := shuts.count (backed.opened_of_handle closed) number
    change (system.releaseState closed).2.holding raw + _ =
      _ + (((system.state closed).handle.close system.host).2.opened raw).toNat
    rw [show (system.releaseState closed).1 = (system.state closed).handle from rfl] at counted
    omega
  · intro raw there
    have opened := shuts.opened raw
    rw [show (system.closeState closed).2.host = ((system.state closed).handle.close system.host).2
      from rfl, opened, Bool.and_eq_true] at there
    exact there.1
  · intro state
    have handle := handles state
    change ((system.closeState closed).2.state state).handle = _ at handle
    rw [handle]
    split
    next => exact .inr rfl
    next => exact .inl rfl
  · intro state member
    have handle := handles state
    rw [List.mem_singleton.mp member, if_pos rfl] at handle
    rw [List.mem_singleton.mp member]
    exact handle
  · exact ⟨_, shuts.sheds (backed.opened_of_handle closed), fun raw member =>
      ⟨closed, List.mem_singleton_self _, mem_shut member⟩⟩

theorem unwinds_closeStates (backed : system.Backed) (states : List StateId) :
    system.Unwinds (system.closeStates states) states := by
  induction states generalizing system with
  | nil => exact unwinds_of_states rfl (.refl _)
  | cons first rest ih =>
    have once := unwinds_closeState backed first
    exact once.trans (ih (backed.unwinds once))

theorem handle_closeStates (system : System Handler) (states : List StateId) (state : StateId) :
    ((system.closeStates states).state state).handle =
      if state ∈ states then .closed else (system.state state).handle := by
  induction states generalizing system with
  | nil => rfl
  | cons first rest ih =>
    have once := system.handle_releaseState first state
    change ((system.closeState first).2.state state).handle = _ at once
    change (((system.closeState first).2.closeStates rest).state state).handle = _
    rw [ih, once]
    by_cases here : first = state
    · simp [here]
    · simp [here, Ne.symm here]

theorem handle_shutdown (system : System Handler) (service : ServiceId) (state : StateId) :
    ((system.shutdown service).state state).handle =
      if state ∈ system.endedByShutdown service then .closed else (system.state state).handle := by
  simp only [shutdown, endedByShutdown]
  split
  next => rfl
  next =>
    have closed := handle_closeStates (system.markShutDown service)
      ((system.markShutDown service).registered service) state
    rw [← registered_markShutDown]
    exact closed

theorem host_register (system : System Handler) (service : ServiceId) (state : StateId) :
    (system.register service state).2.host = system.host := by
  simp only [register]
  split <;> rfl

theorem host_unlist (system : System Handler) (service : ServiceId) (imp : Implementation) :
    (system.unlist service imp).host = system.host := by
  simp only [unlist]
  split <;> rfl

theorem unwinds_construct (system : System Handler) (service : ServiceId) :
    system.Unwinds (system.construct service).2 [] :=
  system.unwinds_addState.of_same (states_register _ service _) (host_register _ service _)

theorem host_detach (system : System Handler) (service : ServiceId) (imp : Implementation) :
    (system.detach service imp).2.2.host = system.host := by
  simp only [detach]
  split <;> rfl

theorem unwinds_detach (system : System Handler) (service : ServiceId) (imp : Implementation) :
    system.Unwinds (system.detach service imp).2.2 [] :=
  system.unwinds_addState.of_same (system.states_detach service imp)
    (system.host_detach service imp)

theorem unwinds_moveConstruct (system : System Handler) (service otherService : ServiceId)
    (other : Implementation) :
    system.Unwinds (system.moveConstruct service otherService other).2.2 [] :=
  (system.unwinds_detach otherService other).of_same (states_register _ service _)
    (host_register _ service _)

theorem unwinds_moveAssign (backed : system.Backed) (service : ServiceId) (imp : Implementation)
    (otherService : ServiceId) (other : Implementation) :
    system.Unwinds (system.moveAssign service imp otherService other).2.2 [imp.state] := by
  have begun := (unwinds_closeState backed imp.state).trans
    ((system.closeState imp.state).2.unwinds_detach otherService other)
  rw [List.append_nil] at begun
  apply begun.of_same
  all_goals
    simp only [moveAssign]
    split
  · rfl
  · exact (states_register _ otherService _).trans (states_unlist _ service imp)
  · rfl
  · exact (host_register _ otherService _).trans (host_unlist _ service imp)

theorem unwinds_destroy (backed : system.Backed) (service : ServiceId) (imp : Implementation) :
    system.Unwinds (system.destroy service imp) [imp.state] :=
  (unwinds_closeState backed imp.state).of_same (states_unlist _ service imp)
    (host_unlist _ service imp)

theorem unwinds_closeAll (backed : system.Backed) (service : ServiceId) :
    system.Unwinds (system.closeAll service) (system.registered service) :=
  unwinds_closeStates backed (system.registered service)

theorem unwinds_shutdown (backed : system.Backed) (service : ServiceId) :
    system.Unwinds (system.shutdown service) (system.endedByShutdown service) := by
  simp only [shutdown, endedByShutdown]
  split
  next => exact unwinds_of_states rfl (.refl _)
  next =>
    have marked : system.Unwinds (system.markShutDown service) [] := unwinds_of_states rfl (.refl _)
    have closed := unwinds_closeAll (backed.unwinds marked) service
    rw [registered_markShutDown] at closed
    exact (marked.trans closed).of_same rfl rfl

theorem unwinds_dropReference (backed : system.Backed) (service : ServiceId) :
    system.Unwinds (system.dropReference service) (system.endedByDrop service) := by
  have gaveUp : system.Unwinds (system.giveUp service) [] := unwinds_of_states rfl (.refl _)
  simp only [endedByDrop]
  cases system.dropped_dropReference service with
  | unknown absent same =>
    have empty : system.registered service = [] := by simp [registered, absent]
    rw [same, empty, ite_self]
    exact gaveUp
  | referenced left same =>
    rw [same, if_neg (by omega)]
    exact gaveUp
  | closed last down same =>
    have closed := unwinds_closeAll (backed.unwinds gaveUp) service
    rw [registered_giveUp] at closed
    rw [same, if_pos last]
    exact gaveUp.trans closed
  | shutDown last on same =>
    have closed := unwinds_shutdown (backed.unwinds gaveUp) service
    rw [endedByShutdown, isShutDown_giveUp, on, registered_giveUp] at closed
    rw [same, if_pos last]
    exact gaveUp.trans closed

theorem unwinds_workerStep {paused : Operation Handler → Bool} {service : ServiceId} {worker : Nat}
    (stepped : system.workerStep? paused service worker = some later) :
    system.Unwinds later [] := by
  apply unwinds_of_states (states_workerStep stepped)
  simp only [workerStep?] at stepped
  split at stepped
  next => cases stepped
  next found present =>
    split at stepped
    next operation _ =>
      cases stepped
      simp only [checkToken]
      split <;> exact .refl _
    next operation _ =>
      split at stepped
      next => cases stepped
      next =>
        cases stepped
        have unmoved :=
          operation.request.unmoved_attempt operation.handle operation.buffers system.host
        simp only [transfer]
        generalize (operation.request.attempt operation.handle operation.buffers system.host).1 =
          attempt
        cases attempt <;> exact unmoved
    next operation call _ =>
      obtain ⟨⟨attempt, host⟩, resumed, rfl⟩ := Option.map_eq_some_iff.mp stepped
      have unmoved := Attempt.unmoved_resume resumed
      cases attempt <;> exact unmoved
    next =>
      cases stepped
      exact .refl _
    next =>
      cases stepped
      exact .refl _
    next =>
      split at stepped
      next =>
        cases stepped
        exact .refl _
      next =>
        obtain ⟨pool, _, rfl⟩ := Option.map_eq_some_iff.mp stepped
        exact .refl _

theorem unwinds_submit (system : System Handler) (service : ServiceId) (imp : Implementation)
    (request : Request) (buffers : List Bytes) (handler : Handler) :
    system.Unwinds (system.submit service imp request buffers handler) [] := by
  apply unwinds_of_states (system.states_submit service imp request buffers handler)
  simp only [submit]
  split
  next => exact .refl _
  next => split <;> exact .refl _

theorem unwinds_cancel (system : System Handler) (imp : Implementation) :
    system.Unwinds (system.cancel imp).2 [] := by
  simp only [cancel]
  split
  next =>
    by_cases bound : imp.state < system.states.length
    · refine ⟨by simp [updateState], fun raw _ => ?_, fun raw there => there, fun state => ?_,
        by simp, [], (Unmoved.refl system.host).sheds, by simp⟩
      · have counted := system.holding_updateState FileState.cancel bound raw
        rw [show (system.state imp.state).cancel.handle = (system.state imp.state).handle from rfl]
          at counted
        rw [Nat.add_right_cancel counted]
        rfl
      · rw [state_updateState system _ bound]
        split <;> exact .inl rfl
    · refine unwinds_of_states ?_ (.refl _)
      exact List.modify_eq_self (Nat.le_of_not_lt bound)
  next => exact unwinds_of_states rfl (.refl _)

end System

namespace File

variable {Handler : Type} {system : System Handler}

theorem unwinds_new (service : ServiceId) (system : System Handler) :
    system.Unwinds (File.new service system).2 [] :=
  (system.unwinds_construct service).of_same rfl rfl

theorem unwinds_take (file : File) (system : System Handler) :
    system.Unwinds (file.take system).2.2 [] :=
  (system.unwinds_moveConstruct file.service file.service file.implementation).of_same rfl rfl

theorem unwinds_drop (backed : system.Backed) (file : File) :
    system.Unwinds (file.drop system) (file.implementation.state :: file.endedByDrop system) := by
  have destroyed := System.unwinds_destroy backed file.service file.implementation
  exact destroyed.trans (System.unwinds_dropReference (backed.unwinds destroyed) file.service)

theorem unwinds_moveFrom (backed : system.Backed) (file other : File) :
    system.Unwinds (file.moveFrom other system).2.2
      (file.implementation.state :: file.endedByMove other system) := by
  have moved := System.unwinds_moveAssign backed file.service file.implementation other.service
    other.implementation
  simp only [moveFrom, endedByMove]
  split
  next => exact moved
  next =>
    let retained := (system.moveAssign file.service file.implementation other.service
      other.implementation).2.2.retain other.service
    have kept : system.Unwinds retained [file.implementation.state] := moved.of_same rfl rfl
    exact kept.trans (System.unwinds_dropReference (backed.unwinds kept) file.service)

end File

end AsyncFiles
