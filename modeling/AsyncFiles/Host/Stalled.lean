import AsyncFiles.Host.Transfer

/-!
Calls that wait for the other end of a pipe: a read as long as the pipe is empty and can still be
written, a write until all its bytes have gone in. Such a call keeps its open file until it ends,
whatever becomes of the descriptor.
-/
namespace AsyncFiles.Host

open Error

inductive Stalled
  | reading (file count : Nat)
  /-- A write with the bytes that are left and the count of those that have gone in. -/
  | writing (file : Nat) (rest : Bytes) (sent : Nat)

inductive Progress
  | stalled (call : Stalled)
  | received (data : Bytes)
  | sent (result : Except Errno Nat)

def Stalled.file : Stalled → Nat
  | .reading file _ | .writing file _ _ => file

def engage (host : Host) (file : Nat) : Host := { host with engaged := file :: host.engaged }

def disengage (host : Host) (file : Nat) : Host :=
  { host with engaged := host.engaged.erase file }

def pipeBehind? (host : Host) (file : Nat) : Option (Nat × Pipe) :=
  match host.openFiles[file]? with
  | none => none
  | some found =>
    match host.node? found.inode with
    | some (.pipe pipe) => some (found.inode, pipe)
    | _ => none

def isPipe (host : Host) (raw : Int) : Bool :=
  ((host.descriptor? raw).bind host.pipeBehind?).isSome

def setPipe (host : Host) (inode : Nat) (pipe : Pipe) : Host :=
  { host with inodes := host.inodes.modify inode fun found => { found with node := .pipe pipe } }

def stallReading? (host : Host) (raw : Int) (count : Nat) : Option (Stalled × Host) :=
  match host.resolve raw with
  | .error _ => none
  | .ok (index, file, inode) =>
    match inode.node with
    | .pipe pipe =>
      if file.readable && 0 < count && pipe.isEmpty && host.hasWriter file.inode then
        some (.reading index count, (host.note (.read raw count none)).engage index)
      else none
    | _ => none

/-- Begins a write that has to wait, with what goes in at once. -/
def stallWriting? (host : Host) (raw : Int) (data : Bytes) : Option (Stalled × Host) :=
  match host.resolve raw with
  | .error _ => none
  | .ok (index, file, inode) =>
    match inode.node with
    | .pipe pipe =>
      if file.writable && host.hasReader file.inode then
        let (rest, left) := pipe.put data
        if rest.isEmpty then none
        else
          let host := (host.note (.write raw data none)).setPipe file.inode left
          some (.writing index rest (data.length - rest.length), host.engage index)
      else none
    | _ => none

/-- Goes on with a stalled call, if it can. A write that loses its last reader ends with what has
gone in. -/
def resume? (host : Host) (call : Stalled) : Option (Progress × Host) :=
  match host.pipeBehind? call.file with
  | none => none
  | some (inode, pipe) =>
    match call with
    | .reading file count =>
      if pipe.isEmpty && host.hasWriter inode then none
      else
        let (data, left) := pipe.take count
        some (.received data, (host.setPipe inode left).disengage file)
    | .writing file rest sent =>
      if !host.hasReader inode then
        some (.sent (if sent = 0 then .error .brokenPipe else .ok sent), host.disengage file)
      else if pipe.isFull then none
      else
        let (later, left) := pipe.extend rest
        let sent := sent + (rest.length - later.length)
        let host := host.setPipe inode left
        if later.isEmpty then some (.sent (.ok sent), host.disengage file)
        else some (.stalled (.writing file later sent), host)

end AsyncFiles.Host
