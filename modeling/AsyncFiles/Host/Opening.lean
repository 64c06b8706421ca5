import AsyncFiles.Host.Lookup

namespace AsyncFiles.Host

open Access Error Time

def truncate (host : Host) (inode : Nat) : Host :=
  match host.inode? inode with
  | some found =>
    match found.node with
    | .regular _ =>
      host.setInode inode { found with node := .regular .empty, modified := host.present }
    | _ => host
  | none => host

def admits (host : Host) (request : OpenRequest) (inode : Nat) : Except Errno Unit :=
  if request.create && request.exclusive then .error .alreadyExists
  else if host.isDirectory inode && (request.create || request.access.canWrite || request.truncate)
    then .error .isDirectory
  else .ok ()

def openInode (host : Host) (request : OpenRequest) (inode : Nat) : Nat × Host :=
  let host := if request.truncate then host.truncate inode else host
  host.addOpenFile
    { inode, readable := request.access.canRead, writable := request.access.canWrite }

def openExisting (host : Host) (request : OpenRequest) (inode : Nat) : Except Errno Nat × Host :=
  match host.admits request inode with
  | .error errno => (.error errno, host)
  | .ok () =>
    let (raw, host) := host.openInode request inode
    (.ok raw, host)

def openPath (host : Host) (path : Path) (request : OpenRequest) : Except Errno Nat × Host :=
  let host := host.note (.openPath path request)
  match host.place path with
  | .error errno => (.error errno, host)
  | .ok (.known inode) => host.openExisting request inode
  | .ok (.named directory entries parent name) =>
    if request.create && path.endsInSlash then (.error .isDirectory, host)
    else match findEntry entries name with
      | .error errno => (.error errno, host)
      | .ok (some inode) =>
        if path.endsInSlash && !host.isDirectory inode then (.error .notDirectory, host)
        else host.openExisting request inode
      | .ok none =>
        if request.create then
          let (inode, host) :=
            host.link directory parent entries name (.regular .empty) request.mode
          let (raw, host) := host.openInode { request with truncate := false } inode
          (.ok raw, host)
        else (.error .noEntry, host)

end AsyncFiles.Host
