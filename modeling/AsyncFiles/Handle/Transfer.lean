import AsyncFiles.Handle.Basic
import AsyncFiles.Host.Stalled

/-!
Reading into and writing from lists of buffers. One transfer uses the first 64 buffers; reading
scatters bytes over them in order, writing takes them one after the other. A read that finds nothing
although there is room has met the end of the file.
-/
namespace AsyncFiles

open Access Error Host

namespace Buffers

def maxBuffers : Nat := 64

def gather (buffers : List Bytes) : Bytes := (buffers.take maxBuffers).flatten

def capacity (buffers : List Bytes) : Nat := (gather buffers).length

/-- The data laid over the buffers from the first byte on; bytes past the data stay. -/
def scatter : List Bytes → Bytes → List Bytes
  | [], _ => []
  | buffer :: rest, data =>
    (data.take buffer.length ++ buffer.drop data.length) :: scatter rest (data.drop buffer.length)

end Buffers

namespace FileHandle

def checkOffset (offset : Option Nat) : Except FileError Unit :=
  if maxOffset < offset.getD 0 then .error tooFar else .ok ()

def received (buffers : List Bytes) (data : Bytes) : Except FileError Nat × List Bytes :=
  if data.isEmpty && 0 < Buffers.capacity buffers then (.error .endOfFile, buffers)
  else (.ok data.length, Buffers.scatter buffers data)

def readSome (handle : FileHandle) (buffers : List Bytes) (offset : Option Nat) (host : Host) :
    Except FileError Nat × List Bytes × Host :=
  if !handle.isOpen then (.error .badDescriptor, buffers, host)
  else match checkOffset offset with
    | .error error => (.error error, buffers, host)
    | .ok () =>
      match host.read handle.raw (Buffers.capacity buffers) offset with
      | (.error errno, host) => (.error (.ofErrno errno), buffers, host)
      | (.ok data, host) =>
        let (result, buffers) := received buffers data
        (result, buffers, host)

def writeSome (handle : FileHandle) (buffers : List Bytes) (offset : Option Nat) (host : Host) :
    Except FileError Nat × Host :=
  if !handle.isOpen then (.error .badDescriptor, host)
  else match checkOffset offset with
    | .error error => (.error error, host)
    | .ok () => lifted (host.write handle.raw (Buffers.gather buffers) offset)

/-- Fills a buffer by repeated reads. Every read that succeeds moves at least one byte, so `fuel`
reads are enough for as many bytes. -/
def fill (handle : FileHandle) : Nat → Bytes → Host → Except FileError Unit × Bytes × Host
  | 0, buffer, host => (.ok (), buffer, host)
  | fuel + 1, buffer, host =>
    if buffer.isEmpty then (.ok (), buffer, host)
    else match handle.readSome [buffer] none host with
      | (.error error, buffers, host) => (.error error, buffers.flatten, host)
      | (.ok count, buffers, host) =>
        let (result, rest, host) := handle.fill fuel (buffers.flatten.drop count) host
        (result, buffers.flatten.take count ++ rest, host)

def readExact (handle : FileHandle) (buffer : Bytes) (host : Host) :
    Except FileError Unit × Bytes × Host :=
  handle.fill buffer.length buffer host

/-- Writes data by repeated writes; one that moves nothing means that there is no space. -/
def drain (handle : FileHandle) : Nat → Bytes → Host → Except FileError Unit × Host
  | 0, _, host => (.ok (), host)
  | fuel + 1, data, host =>
    if data.isEmpty then (.ok (), host)
    else match handle.writeSome [data] none host with
      | (.error error, host) => (.error error, host)
      | (.ok 0, host) => (.error (.ofKind .noSpace), host)
      | (.ok count, host) => handle.drain fuel (data.drop count) host

def writeAll (handle : FileHandle) (data : Bytes) (host : Host) : Except FileError Unit × Host :=
  handle.drain data.length data host

/-- Reads up to `size` bytes, fewer only where the file ends. -/
def collect (handle : FileHandle) : Nat → Nat → Host → Except FileError Bytes × Host
  | 0, _, host => (.ok [], host)
  | fuel + 1, size, host =>
    if size = 0 then (.ok [], host)
    else match handle.readSome [List.replicate size 0] none host with
      | (.error error, _, host) =>
        if error.isEndOfFile then (.ok [], host) else (.error error, host)
      | (.ok count, buffers, host) =>
        match handle.collect fuel (size - count) host with
        | (.error error, host) => (.error error, host)
        | (.ok rest, host) => (.ok (buffers.flatten.take count ++ rest), host)

end FileHandle

end AsyncFiles
