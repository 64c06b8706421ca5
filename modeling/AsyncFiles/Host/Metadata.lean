import AsyncFiles.Host.Transfer

namespace AsyncFiles.Host

open Access Error Time

def stat (host : Host) (raw : Int) : Except Errno Inode × Host :=
  ((host.resolve raw).map fun found => found.2.2, host.note (.stat raw))

def changeMode (host : Host) (raw : Int) (perms : FilePerms) : Except Errno Unit × Host :=
  let host := host.note (.changeMode raw perms)
  match host.resolve raw with
  | .error errno => (.error errno, host)
  | .ok (_, file, inode) => (.ok (), host.setInode file.inode { inode with perms })

/-- Stores the stamps that are given; one that is refused leaves both fields as they are. -/
def changeTimes (host : Host) (raw : Int) (accessed modified : Stamp) : Except Errno Unit × Host :=
  let host := host.note (.changeTimes raw accessed modified)
  match host.resolve raw with
  | .error errno => (.error errno, host)
  | .ok (_, file, inode) =>
    match accessed.applied? host.present inode.accessed,
        modified.applied? host.present inode.modified with
    | some accessed, some modified =>
      (.ok (), host.setInode file.inode { inode with accessed, modified })
    | _, _ => (.error .invalid, host)

/-- Cuts a regular file or fills it up with zeros; the descriptor has to be writable. -/
def changeSize (host : Host) (raw : Int) (size : Nat) : Except Errno Unit × Host :=
  let host := host.note (.changeSize raw size)
  match host.resolve raw with
  | .error errno => (.error errno, host)
  | .ok (_, file, inode) =>
    match inode.node with
    | .regular content =>
      if file.writable then
        (.ok (), host.setInode file.inode
          { inode with node := .regular (content.resize size), modified := host.present })
      else (.error .invalid, host)
    | _ => (.error .invalid, host)

end AsyncFiles.Host
