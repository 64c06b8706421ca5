import AsyncFiles.Handle.Basic

namespace AsyncFiles

open Access Error

structure Owner where
  handle : FileHandle := .closed
  deriving DecidableEq, Inhabited

namespace Owner

def openPath (path : Path) (args : OpenArgs) (host : Host) : Except FileError Owner × Host :=
  match FileHandle.openPath path args host with
  | (.ok handle, host) => (.ok ⟨handle⟩, host)
  | (.error error, host) => (.error error, host)

def duplicate (handle : FileHandle) (host : Host) : Except FileError Owner × Host :=
  match handle.duplicate host with
  | (.ok copy, host) => (.ok ⟨copy⟩, host)
  | (.error error, host) => (.error error, host)

def release (owner : Owner) : FileHandle × Owner := (owner.handle, {})

def close (owner : Owner) (host : Host) : Except FileError Unit × Owner × Host :=
  let (result, host) := owner.handle.close host
  (result, {}, host)

def reset (owner : Owner) (handle : FileHandle) (host : Host) :
    Except FileError Unit × Owner × Host :=
  match owner.close host with
  | (.ok (), _, host) => (.ok (), ⟨handle⟩, host)
  | (.error error, owner, host) => (.error error, owner, host)

/-- The end of an owner: what it holds is closed and an error of that is lost. -/
def drop (owner : Owner) (host : Host) : Host := (owner.close host).2.2

def describe (owner : Owner) (numbering : Numbering) : String :=
  "UniqueFileHandle(" ++ owner.handle.describe numbering ++ ")"

end Owner

end AsyncFiles
