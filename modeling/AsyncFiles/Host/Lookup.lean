import AsyncFiles.Host.Basic

/-!
Finding files by path, and making and removing names. Every component but the last has to be a
directory; a name of more than 255 bytes or a path of more than 4095 is too long.
-/
namespace AsyncFiles.Host

open Access Error Time

def dot : FileName := [0x2e]

def dotDot : FileName := [0x2e, 0x2e]

/-- A path whose parent was found: it ends in a directory that is known already (`.`, `..` or the
root), or in a name within a directory. -/
inductive Place
  | known (inode : Nat)
  | named (directory : Nat) (entries : List (FileName × Nat)) (parent : Nat) (name : FileName)

def findEntry (entries : List (FileName × Nat)) (name : FileName) : Except Errno (Option Nat) :=
  if 255 < name.length then .error .nameTooLong
  else .ok ((entries.find? fun entry => entry.1 = name).map Prod.snd)

def enter (host : Host) (inode : Nat) (name : FileName) : Except Errno Nat :=
  match host.node? inode with
  | some (.directory parent entries) =>
    if name = dot then .ok inode
    else if name = dotDot then .ok parent
    else do
      match ← findEntry entries name with
      | some found => .ok found
      | none => .error .noEntry
  | _ => .error .notDirectory

def walk (host : Host) (start : Nat) (names : List FileName) : Except Errno Nat :=
  names.foldlM host.enter start

def place (host : Host) (path : Path) : Except Errno Place :=
  if path.bytes.isEmpty then .error .noEntry
  else if 4095 < path.bytes.length then .error .nameTooLong
  else
    let start := if path.isAbsolute then 0 else host.workingDirectory
    match path.components.getLast? with
    | none => .ok (.known start)
    | some name => do
      let directory ← host.walk start path.components.dropLast
      match host.node? directory with
      | some (.directory parent entries) =>
        if name = dot then .ok (.known directory)
        else if name = dotDot then .ok (.known parent)
        else .ok (.named directory entries parent name)
      | _ => .error .notDirectory

def isDirectory (host : Host) (inode : Nat) : Bool :=
  match host.node? inode with
  | some (.directory _ _) => true
  | _ => false

/-- The inode a path names. A slash at the end asks for a directory. -/
def lookup (host : Host) (path : Path) : Except Errno Nat := do
  match ← host.place path with
  | .known inode => .ok inode
  | .named _ entries _ name =>
    match ← findEntry entries name with
    | none => .error .noEntry
    | some inode =>
      if path.endsInSlash && !host.isDirectory inode then .error .notDirectory else .ok inode

def setEntries (host : Host) (directory parent : Nat) (entries : List (FileName × Nat)) : Host :=
  match host.inode? directory with
  | none => host
  | some inode => host.setInode directory { inode with node := .directory parent entries }

def link (host : Host) (directory parent : Nat) (entries : List (FileName × Nat))
    (name : FileName) (node : Node) (mode : FilePerms) : Nat × Host :=
  let (inode, host) := host.addInode
    { node, perms := mode.diff host.umask, accessed := host.present, modified := host.present }
  (inode, host.setEntries directory parent (entries ++ [(name, inode)]))

/-- The permissions asked for a new directory. It belongs to the group that its parent passes on,
and passes it on in turn. -/
def directoryMode (host : Host) (parent : Nat) : FilePerms :=
  match host.inode? parent with
  | none => FilePerms.all
  | some inode => FilePerms.all.union (inode.perms.inter FilePerms.setGid)

def pathExists (host : Host) (path : Path) : Bool :=
  !path.hasNul && (host.lookup path).toBool

def makeDirectory (host : Host) (path : Path) : Bool × Host :=
  if path.hasNul then (false, host)
  else match host.place path with
    | .ok (.named directory entries parent name) =>
      match findEntry entries name with
      | .error _ | .ok (some _) => (false, host)
      | .ok none =>
        (true, (host.link directory parent entries name (.directory directory [])
          (host.directoryMode directory)).2)
    | _ => (false, host)

/-- Takes a name away. The file stays as long as a descriptor stands for it. -/
def remove (host : Host) (path : Path) : Bool × Host :=
  if path.hasNul || path.endsInSlash then (false, host)
  else match host.place path with
    | .ok (.named directory entries parent name) =>
      match findEntry entries name with
      | .error _ | .ok none => (false, host)
      | .ok (some inode) =>
        if host.isDirectory inode then (false, host)
        else (true, host.setEntries directory parent (entries.filter fun entry => entry.1 ≠ name))
    | _ => (false, host)

end AsyncFiles.Host
