import AsyncFiles.Access.OpenArgs
import AsyncFiles.Error.Errno
import AsyncFiles.Host.Content
import AsyncFiles.Host.Pipe
import AsyncFiles.Path
import AsyncFiles.Time.Stamp

/-!
The host as a value: its files, the open files with their positions, and the table of descriptors.
Descriptors that were duplicated share one open file. `grants` lists what happens at the next
transfers; when it is empty every transfer moves all it can. `reports` lists what the next closings
report, which free their descriptors all the same. `calls` lists what the host was asked for, the
latest in front; `engaged` the open files of calls that have not ended.
-/
namespace AsyncFiles.Host

open Access Error Time

inductive Device
  | null
  | zero
  | full
  deriving DecidableEq

inductive Node
  | regular (content : Content)
  | directory (parent : Nat) (entries : List (FileName × Nat))
  | pipe (pipe : Pipe)
  | device (device : Device)

structure Inode where
  node : Node
  perms : FilePerms
  accessed : Stamp
  modified : Stamp

structure OpenFile where
  inode : Nat
  readable : Bool
  writable : Bool
  position : Nat := 0
  deriving DecidableEq

inductive Origin
  | begin
  | current
  | finish
  deriving DecidableEq

inductive Call
  | openPath (path : Path) (request : OpenRequest)
  | close (raw : Int)
  | duplicate (raw : Int)
  | stat (raw : Int)
  | changeSize (raw : Int) (size : Nat)
  | seek (raw : Int) (origin : Origin) (offset : Int)
  | changeMode (raw : Int) (perms : FilePerms)
  | changeTimes (raw : Int) (accessed modified : Stamp)
  | read (raw : Int) (count : Nat) (offset : Option Nat)
  | write (raw : Int) (data : Bytes) (offset : Option Nat)
  deriving DecidableEq

/-- What one transfer meets: someone else may resize the file first, the host may refuse, and it
may move no more than `limit` bytes. -/
structure Grant where
  resized : Option Nat := none
  refusal : Option Errno := none
  limit : Option Nat := none

end Host

open Access Error Time Host

structure Host where
  inodes : List Inode
  openFiles : List OpenFile
  descriptors : List (Option Nat)
  workingDirectory : Nat
  umask : FilePerms
  now : FileTime
  grants : List Grant := []
  reports : List (Option Errno) := []
  calls : List Call := []
  engaged : List Nat := []

namespace Host

def note (host : Host) (call : Call) : Host := { host with calls := call :: host.calls }

def present (host : Host) : Stamp := host.now.toStamp

def maxOffset : Nat := 1 <<< 63 - 1

def inode? (host : Host) (inode : Nat) : Option Inode := host.inodes[inode]?

def node? (host : Host) (inode : Nat) : Option Node := (host.inode? inode).map Inode.node

def setInode (host : Host) (inode : Nat) (value : Inode) : Host :=
  { host with inodes := host.inodes.set inode value }

def addInode (host : Host) (value : Inode) : Nat × Host :=
  (host.inodes.length, { host with inodes := host.inodes ++ [value] })

def descriptor? (host : Host) (raw : Int) : Option Nat :=
  if raw < 0 then none else (host.descriptors[raw.toNat]?).join

def resolve (host : Host) (raw : Int) : Except Errno (Nat × OpenFile × Inode) :=
  match host.descriptor? raw with
  | none => .error .badDescriptor
  | some index =>
    match host.openFiles[index]? with
    | none => .error .badDescriptor
    | some file =>
      match host.inode? file.inode with
      | none => .error .badDescriptor
      | some inode => .ok (index, file, inode)

def setPosition (host : Host) (index position : Nat) : Host :=
  { host with openFiles := host.openFiles.modify index fun file => { file with position } }

def lowestFree (descriptors : List (Option Nat)) : Nat :=
  descriptors.findIdx Option.isNone

def addDescriptor (host : Host) (index : Nat) : Nat × Host :=
  let raw := lowestFree host.descriptors
  let descriptors :=
    if raw < host.descriptors.length then host.descriptors.set raw (some index)
    else host.descriptors ++ [some index]
  (raw, { host with descriptors })

def addOpenFile (host : Host) (file : OpenFile) : Nat × Host :=
  { host with openFiles := host.openFiles ++ [file] }.addDescriptor host.openFiles.length

/-- The open files that some descriptor stands for or some call still uses. -/
def liveOpenFiles (host : Host) : List OpenFile :=
  (host.descriptors.filterMap id ++ host.engaged).filterMap fun index => host.openFiles[index]?

def hasReader (host : Host) (inode : Nat) : Bool :=
  host.liveOpenFiles.any fun file => file.inode = inode && file.readable

def hasWriter (host : Host) (inode : Nat) : Bool :=
  host.liveOpenFiles.any fun file => file.inode = inode && file.writable

/-- Frees a descriptor, also where the host then reports that something went wrong. -/
def close (host : Host) (raw : Int) : Except Errno Unit × Host :=
  let host := host.note (.close raw)
  match host.descriptor? raw with
  | none => (.error .badDescriptor, host)
  | some _ =>
    let freed := { host with
      descriptors := host.descriptors.set raw.toNat none
      reports := host.reports.tail }
    match host.reports.head?.join with
    | none => (.ok (), freed)
    | some errno => (.error errno, freed)

def duplicate (host : Host) (raw : Int) : Except Errno Nat × Host :=
  let host := host.note (.duplicate raw)
  match host.descriptor? raw with
  | none => (.error .badDescriptor, host)
  | some index =>
    let (copy, host) := host.addDescriptor index
    (.ok copy, host)

def pipe (host : Host) : (Nat × Nat) × Host :=
  let (inode, host) := host.addInode
    { node := .pipe {}, perms := .ofWord 0x180, accessed := host.present, modified := host.present }
  let (reader, host) := host.addOpenFile { inode, readable := true, writable := false }
  let (writer, host) := host.addOpenFile { inode, readable := false, writable := true }
  ((reader, writer), host)

def fresh (now : FileTime) : Host :=
  let inode (node : Node) (mode : UInt32) : Inode :=
    { node, perms := .ofWord mode, accessed := now.toStamp, modified := now.toStamp }
  let directory (parent : Nat) (entries : List (FileName × Nat)) : Inode :=
    inode (.directory parent entries) 0x1ed
  let device (device : Device) : Inode := inode (.device device) 0x1b6
  let name (text : String) : FileName := text.toUTF8.toList
  let stream (readable : Bool) : OpenFile := { inode := 2, readable, writable := !readable }
  { inodes :=
      [directory 0 [(name "dev", 1), (name "tmp", 5)],
        directory 0 [(name "null", 2), (name "zero", 3), (name "full", 4)],
        device .null, device .zero, device .full,
        directory 0 [(name "work", 6)], directory 5 []]
    openFiles := [stream true, stream false, stream false]
    descriptors := [some 0, some 1, some 2]
    workingDirectory := 6
    umask := .ofWord 0x12
    now }

end Host

end AsyncFiles
