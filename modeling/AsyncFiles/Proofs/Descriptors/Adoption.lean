import AsyncFiles.Proofs.Descriptors.Unwinding

namespace AsyncFiles.System

open Access Error Host

variable {Handler : Type} {system later : System Handler} {state : StateId} {handle : FileHandle}

structure Adopts (system later : System Handler) (state : StateId) (handle : FileHandle) :
    Prop where
  length : later.states.length = system.states.length
  handles : ∀ other, (later.state other).handle =
    if state = other then handle else (system.state other).handle
  holding : ∀ raw, raw ≠ -1 →
    later.holding raw = system.holding raw + (if handle.raw = raw then 1 else 0)
  services : later.services = system.services

theorem adopts_adopt (bound : state < system.states.length)
    (taken : system.adopt? state handle = some later) :
    system.Adopts later state handle ∧ later.host = system.host := by
  obtain ⟨next, changed, rfl⟩ := Option.map_eq_some_iff.mp taken
  obtain ⟨installed, put, rfl⟩ := Option.map_eq_some_iff.mp changed
  simp only [FileState.install?] at put
  split at put
  next => cases put
  next shut =>
    cases put
    have none : (system.state state).handle.raw = -1 := by simpa [FileHandle.isOpen] using shut
    refine ⟨⟨by simp [updateState], fun other => ?_, fun raw number => ?_, rfl⟩, rfl⟩
    · rw [state_updateState system _ bound]
      split <;> rfl
    · have counted := system.holding_updateState
        (fun _ => ({ system.state state with handle } : FileState).revive) bound raw
      rw [none, if_neg (Ne.symm number)] at counted
      exact counted

inductive Assigned (system : System Handler) (state : StateId) (handle : FileHandle) :
    Except FileError Unit × System Handler → Prop
  | adopted {later : System Handler} (adopts : system.Adopts later state handle)
    (host : later.host = system.host) : Assigned system state handle (.ok (), later)
  | refused (error : FileError) : Assigned system state handle (.error error, system)

theorem assigned_assign (imp : Implementation) (handle : FileHandle)
    (bound : imp.state < system.states.length) :
    system.Assigned imp.state handle (system.assign imp handle) := by
  simp only [assign]
  split
  next later taken =>
    have adopted := adopts_adopt bound taken
    exact .adopted adopted.1 adopted.2
  next => exact .refused _

inductive Filled (system : System Handler) (state : StateId) :
    Except FileError Unit × System Handler → Prop
  | opened {later : System Handler} {handle : FileHandle}
    (adopts : system.Adopts later state handle)
    (opens : system.host.Opens later.host handle.raw) : Filled system state (.ok (), later)
  | failed {later : System Handler} (error : FileError) (states : later.states = system.states)
    (services : later.services = system.services) (unmoved : system.host.Unmoved later.host) :
    Filled system state (.error error, later)

theorem filled_openFile (imp : Implementation) (path : Path) (args : OpenArgs)
    (bound : imp.state < system.states.length) :
    system.Filled imp.state (system.openFile imp path args) := by
  simp only [openFile, openDuring, onHost]
  split
  next => exact .failed _ rfl rfl (.refl _)
  next shut =>
    have yields := system.host.yields_openPath path args
    generalize FileHandle.openPath path args system.host = outcome at yields
    cases yields with
    | failed unmoved => exact .failed _ rfl rfl unmoved
    | @opened handle host opens =>
      -- Nobody else was faster: nothing is open in the state, as before the host was asked.
      have taken : ∃ later, System.adopt? { system with host } imp.state handle = some later := by
        simp only [Bool.not_eq_true] at shut
        have closed : ((System.state { system with host } imp.state).handle).isOpen = false := shut
        simp [adopt?, FileState.adopt?, FileState.install?, closed]
      obtain ⟨later, taken⟩ := taken
      have adopted :
          System.Adopts { system with host } later imp.state handle ∧ later.host = host :=
        adopts_adopt bound taken
      simp only [adoptOpened, id_eq, taken]
      exact .opened ⟨adopted.1.length, adopted.1.handles, adopted.1.holding, adopted.1.services⟩
        (adopted.2 ▸ opens)

end AsyncFiles.System
