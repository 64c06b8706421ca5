import AsyncFiles.Host.Basic

namespace AsyncFiles.Host

open Access Error Time

/-- The next transfer's grant, which is used up. A transfer that was merely interrupted is made
again. -/
def takeGrant (host : Host) : Grant × Host :=
  match host.grants.dropWhile fun grant => grant.refusal = some .interrupted with
  | [] => ({}, host)
  | grant :: rest => (grant, { host with grants := rest })

def resizedBy (host : Host) (grant : Grant) (inode : Nat) : Host :=
  match grant.resized, host.inode? inode with
  | some size, some found =>
    match found.node with
    | .regular content => host.setInode inode { found with node := .regular (content.resize size) }
    | _ => host
  | _, _ => host

/-- At most `count` bytes and at most the limit, but never none where some are to be had. -/
def Grant.shorten (grant : Grant) (count : Nat) : Nat :=
  match grant.limit with
  | none => count
  | some limit => min count (max limit 1)

/-- The bytes a node gives at a position, and what is left of it. An empty pipe that is still fed
has nothing to give yet. -/
def Node.take (node : Node) (position count : Nat) (fed : Bool) : Except Errno (Bytes × Node) :=
  match node with
  | .regular content => .ok (content.read position count, node)
  | .directory _ _ => .error .isDirectory
  | .pipe held =>
    if held.isEmpty && fed then .error .tryAgain
    else
      let (data, left) := held.take count
      .ok (data, .pipe left)
  | .device .null => .ok ([], node)
  | .device _ => .ok (List.replicate count 0, node)

def Node.isStream : Node → Bool
  | .pipe _ => true
  | _ => false

def Node.keepsPosition : Node → Bool
  | .regular _ | .directory _ _ => true
  | _ => false

def read (host : Host) (raw : Int) (count : Nat) (offset : Option Nat) :
    Except Errno Bytes × Host :=
  let host := host.note (.read raw count offset)
  match host.resolve raw with
  | .error errno => (.error errno, host)
  | .ok (index, file, inode) =>
    if inode.node.isStream && offset.isSome then (.error .noSeek, host)
    else if !file.readable then (.error .badDescriptor, host)
    else if count = 0 then (.ok [], host)
    else
      let position := offset.getD file.position
      if !inode.node.isStream && maxOffset < position + count then (.error .invalid, host)
      else
        let (grant, host) := host.takeGrant
        let host := host.resizedBy grant file.inode
        match grant.refusal, host.inode? file.inode with
        | some errno, _ => (.error errno, host)
        | none, none => (.error .badDescriptor, host)
        | none, some inode =>
          match inode.node.take position (grant.shorten count) (host.hasWriter file.inode) with
          | .error errno => (.error errno, host)
          | .ok (data, node) =>
            let host := host.setInode file.inode { inode with node }
            let host :=
              if offset.isNone && node.keepsPosition then
                host.setPosition index (position + data.length)
              else host
            (.ok data, host)

/-- How many of the bytes a node takes at a position, and the node with them. A pipe takes what it
has room for. -/
def Node.put (node : Node) (position : Nat) (data : Bytes) (heard : Bool) :
    Except Errno (Nat × Node) :=
  match node with
  | .regular content => .ok (data.length, .regular (content.write position data))
  | .directory _ _ => .error .badDescriptor
  | .pipe held =>
    if !heard then .error .brokenPipe
    else
      let (rest, left) := held.put data
      let count := data.length - rest.length
      if count = 0 && !rest.isEmpty then .error .tryAgain else .ok (count, .pipe left)
  | .device .full => .error .noSpace
  | .device _ => .ok (data.length, node)

def write (host : Host) (raw : Int) (data : Bytes) (offset : Option Nat) :
    Except Errno Nat × Host :=
  let host := host.note (.write raw data offset)
  match host.resolve raw with
  | .error errno => (.error errno, host)
  | .ok (index, file, inode) =>
    if inode.node.isStream && offset.isSome then (.error .noSeek, host)
    else if !file.writable then (.error .badDescriptor, host)
    else if data.isEmpty then (.ok 0, host)
    else
      let position := offset.getD file.position
      if !inode.node.isStream && maxOffset < position + data.length then (.error .invalid, host)
      else
        let (grant, host) := host.takeGrant
        let host := host.resizedBy grant file.inode
        let moved := match grant.limit with
          | none => data
          | some limit => data.take limit
        match grant.refusal, host.inode? file.inode with
        | some errno, _ => (.error errno, host)
        | none, none => (.error .badDescriptor, host)
        | none, some inode =>
          match inode.node.put position moved (host.hasReader file.inode) with
          | .error errno => (.error errno, host)
          | .ok (count, node) =>
            let host := host.setInode file.inode { inode with node, modified := host.present }
            let host :=
              if offset.isNone && node.keepsPosition then
                host.setPosition index (position + count)
              else host
            (.ok count, host)

def Node.size : Node → Nat
  | .regular content => content.size
  | .directory _ _ => 4096
  | .pipe _ | .device _ => 0

/-- Moves the position; one before the start or past the largest offset is refused. -/
def seek (host : Host) (raw : Int) (origin : Origin) (offset : Int) : Except Errno Nat × Host :=
  let host := host.note (.seek raw origin offset)
  match host.resolve raw with
  | .error errno => (.error errno, host)
  | .ok (index, file, inode) =>
    match inode.node with
    | .pipe _ => (.error .noSeek, host)
    | .device _ => (.ok 0, host)
    | node =>
      let base : Int := match origin with
        | .begin => 0
        | .current => file.position
        | .finish => node.size
      let target := base + offset
      if target < 0 ∨ (maxOffset : Int) < target then (.error .invalid, host)
      else (.ok target.toNat, host.setPosition index target.toNat)

end AsyncFiles.Host
