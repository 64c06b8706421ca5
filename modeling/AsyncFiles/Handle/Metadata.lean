import AsyncFiles.Handle.Basic
import AsyncFiles.Time.FileTimes

namespace AsyncFiles.FileHandle

open Access Error Time Host

def stat (handle : FileHandle) (host : Host) : Except FileError Inode × Host :=
  if handle.isOpen then lifted (host.stat handle.raw) else (.error .badDescriptor, host)

def statWith {α : Type} (handle : FileHandle) (view : Inode → α) (host : Host) :
    Except FileError α × Host :=
  let (result, host) := handle.stat host
  (result.map view, host)

def size (handle : FileHandle) (host : Host) : Except FileError Nat × Host :=
  handle.statWith (fun inode => inode.node.size) host

def setSize (handle : FileHandle) (size : Nat) (host : Host) : Except FileError Unit × Host :=
  if !handle.isOpen then (.error .badDescriptor, host)
  else if maxOffset < size then (.error tooFar, host)
  else lifted (host.changeSize handle.raw size)

def seek (handle : FileHandle) (origin : Origin) (offset : Int) (host : Host) :
    Except FileError Nat × Host :=
  if !handle.isOpen then (.error .badDescriptor, host)
  else lifted (host.seek handle.raw origin offset)

def position (handle : FileHandle) (host : Host) : Except FileError Nat × Host :=
  handle.seek .current 0 host

def permissions (handle : FileHandle) (host : Host) : Except FileError FilePerms × Host :=
  handle.statWith Inode.perms host

/-- Adding and removing first ask for the present permissions; replacing does not. -/
def setPermissions (handle : FileHandle) (perms : FilePerms) (change : Change) (host : Host) :
    Except FileError Unit × Host :=
  if !handle.isOpen then (.error .badDescriptor, host)
  else if change = .replace then lifted (host.changeMode handle.raw perms)
  else match handle.permissions host with
    | (.error error, host) => (.error error, host)
    | (.ok current, host) => lifted (host.changeMode handle.raw (change.apply current perms))

def attributes (handle : FileHandle) (host : Host) : Except FileError FileAttrs × Host :=
  handle.statWith (fun _ => FileAttrs.none) host

/-- Attributes that the host refuses are an error; the others are dropped. -/
def setAttributes (handle : FileHandle) (attrs : FileAttrs) (_ : Change) (host : Host) :
    Except FileError Unit × Host :=
  if !handle.isOpen then (.error .badDescriptor, host)
  else if attrs.intersects FileAttrs.hostRejected then
    (.error (.invalidArgument "attributes not supported on this platform"), host)
  else handle.statWith (fun _ => ()) host

def times (handle : FileHandle) (host : Host) : Except FileError FileTimes × Host :=
  handle.statWith
    (fun inode =>
      { lastAccess := FileTime.ofStamp? inode.accessed
        lastWrite := FileTime.ofStamp? inode.modified })
    host

def stampFor (time : Option FileTime) : Stamp := (time.map FileTime.toStamp).getD .leave

/-- Sets the access and write times that are given. With neither there is nothing to ask the host
for; the creation time is never set. -/
def setTimes (handle : FileHandle) (times : FileTimes) (host : Host) :
    Except FileError Unit × Host :=
  if !handle.isOpen then (.error .badDescriptor, host)
  else if times.lastAccess.isNone && times.lastWrite.isNone then (.ok (), host)
  else lifted (host.changeTimes handle.raw (stampFor times.lastAccess) (stampFor times.lastWrite))

end AsyncFiles.FileHandle
