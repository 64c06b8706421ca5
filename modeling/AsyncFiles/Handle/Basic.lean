import AsyncFiles.Error.FileError
import AsyncFiles.Host.Metadata
import AsyncFiles.Host.Opening
import AsyncFiles.Numbering

/-!
File handles: plain copies of a descriptor number, with -1 for no file. An operation on a handle
that is not open fails before the host is called.
-/
namespace AsyncFiles

open Access Error Time

structure FileHandle where
  raw : Int
  deriving DecidableEq

namespace FileHandle

def closed : FileHandle := ⟨-1⟩

instance : Inhabited FileHandle := ⟨closed⟩

def standardInput : FileHandle := ⟨0⟩

def standardOutput : FileHandle := ⟨1⟩

def standardError : FileHandle := ⟨2⟩

def isOpen (handle : FileHandle) : Bool := handle.raw ≠ -1

def describe (handle : FileHandle) (numbering : Numbering) : String :=
  if handle.isOpen then "FileHandle(" ++ numbering.descriptor handle.raw ++ ")"
  else "FileHandle(closed)"

def lift {α : Type} (result : Except Errno α) : Except FileError α :=
  result.mapError .ofErrno

def lifted {α : Type} (outcome : Except Errno α × Host) : Except FileError α × Host :=
  (lift outcome.1, outcome.2)

/-- Closes the descriptor. The handle is closed afterwards whatever the host reports. -/
def close (handle : FileHandle) (host : Host) : Except FileError Unit × Host :=
  if handle.isOpen then lifted (host.close handle.raw) else (.ok (), host)

def unsupportedArgs : FileError := .invalidArgument "unsupported open arguments"

def tooFar : FileError := .invalidArgument "offset out of range"

/-- Opens a path. Invalid arguments and paths with a NUL never reach the host, and
every error carries the path. -/
def openPath (path : Path) (args : OpenArgs) (host : Host) : Except FileError FileHandle × Host :=
  match args with
  | .invalid => (.error (unsupportedArgs.withPath path), host)
  | .valid request =>
    if path.hasNul then
      (.error ((FileError.invalidArgument "path contains a NUL byte").withPath path), host)
    else
      match host.openPath path request with
      | (.ok raw, host) => (.ok ⟨raw⟩, host)
      | (.error errno, host) => (.error ((FileError.ofErrno errno).withPath path), host)

/-- A second descriptor for the same open file; both share its position. -/
def duplicate (handle : FileHandle) (host : Host) : Except FileError FileHandle × Host :=
  if handle.isOpen then
    match host.duplicate handle.raw with
    | (.ok raw, host) => (.ok ⟨raw⟩, host)
    | (.error errno, host) => (.error (.ofErrno errno), host)
  else (.error .badDescriptor, host)

end FileHandle

end AsyncFiles
