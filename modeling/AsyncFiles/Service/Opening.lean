import AsyncFiles.Service.Basic

/-!
Opening, closing and cancelling. A handle is put into a state and then its source is revived; on the
way out the source is destroyed first and then the handle taken, so that no operation starts on a
handle that is gone.
-/
namespace AsyncFiles.System

open Access Error Host

variable {Handler : Type}

def adopt? (system : System Handler) (state : StateId) (handle : FileHandle) :
    Option (System Handler) :=
  ((system.state state).adopt? handle).map fun adopted =>
    system.updateState state fun _ => adopted

def releaseState (system : System Handler) (state : StateId) : FileHandle × System Handler :=
  let (handle, released) := (system.state state).release
  (handle, system.updateState state fun _ => released)

def closeState (system : System Handler) (state : StateId) :
    Except FileError Unit × System Handler :=
  let (handle, system) := system.releaseState state
  system.onHost handle.close

/-- Takes over a file just opened. If someone else was faster the new file is closed again. -/
def adoptOpened (system : System Handler) (imp : Implementation) (path : Path)
    (handle : FileHandle) : Except FileError Unit × System Handler :=
  match system.adopt? imp.state handle with
  | some system => (.ok (), system)
  | none => (.error (FileError.alreadyOpen.withPath path), (system.onHost handle.close).2)

/-- Opens a file while something else may happen between the host's answer and its adoption. -/
def openDuring (system : System Handler) (meanwhile : System Handler → System Handler)
    (imp : Implementation) (path : Path) (args : OpenArgs) :
    Except FileError Unit × System Handler :=
  if (system.handleOf imp).isOpen then (.error (FileError.alreadyOpen.withPath path), system)
  else match system.onHost (FileHandle.openPath path args) with
    | (.error error, system) => (.error error, system)
    | (.ok handle, system) => (meanwhile system).adoptOpened imp path handle

def openFile (system : System Handler) (imp : Implementation) (path : Path) (args : OpenArgs) :
    Except FileError Unit × System Handler := system.openDuring id imp path args

/-- A handle that is refused stays with the caller. -/
def assign (system : System Handler) (imp : Implementation) (handle : FileHandle) :
    Except FileError Unit × System Handler :=
  match system.adopt? imp.state handle with
  | some system => (.ok (), system)
  | none => (.error .alreadyOpen, system)

def close (system : System Handler) (imp : Implementation) :
    Except FileError Unit × System Handler := system.closeState imp.state

def release (system : System Handler) (imp : Implementation) : FileHandle × System Handler :=
  system.releaseState imp.state

/-- Ends every operation that has not started, without closing the file. -/
def cancel (system : System Handler) (imp : Implementation) :
    Except FileError Unit × System Handler :=
  if (system.handleOf imp).isOpen then
    (.ok (), system.updateState imp.state FileState.cancel)
  else (.error .badDescriptor, system)

end AsyncFiles.System
