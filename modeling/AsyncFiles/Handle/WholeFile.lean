import AsyncFiles.Handle.Metadata
import AsyncFiles.Handle.Owner
import AsyncFiles.Handle.Transfer

namespace AsyncFiles

open Access Error

namespace FileHandle

/-- The rest of a file from its position. The size is asked for once; a file that ends earlier
gives fewer bytes, and one that grows no more. -/
def readAll (handle : FileHandle) (host : Host) : Except FileError Host.Bytes × Host :=
  match handle.size host with
  | (.error error, host) => (.error error, host)
  | (.ok size, host) => handle.collect size size host

end FileHandle

namespace WholeFile

def attachPath {α : Type} (path : Path) (result : Except FileError α) : Except FileError α :=
  result.mapError fun error => error.withPath path

def readArgs : OpenArgs :=
  .new (OpenFlags.accessRead.union OpenFlags.openExisting) FilePerms.createDefault FileAttrs.none

def writeArgs : OpenArgs :=
  .new (OpenFlags.accessWrite.union OpenFlags.createAlways) FilePerms.createDefault FileAttrs.none

def readFile (path : Path) (host : Host) : Except FileError Host.Bytes × Host :=
  match Owner.openPath path readArgs host with
  | (.error error, host) => (.error error, host)
  | (.ok owner, host) =>
    let (result, host) := owner.handle.readAll host
    (attachPath path result, owner.drop host)

/-- The contents as text; bytes that are not UTF-8 are an error. -/
def readText (path : Path) (host : Host) : Except FileError String × Host :=
  match readFile path host with
  | (.error error, host) => (.error error, host)
  | (.ok data, host) =>
    match String.fromUTF8? ⟨data.toArray⟩ with
    | some text => (.ok text, host)
    | none =>
      (.error ((FileError.ofFault (.reason .invalidData "invalid utf-8 sequence")).withPath path),
        host)

def writeFile (path : Path) (data : Host.Bytes) (host : Host) : Except FileError Unit × Host :=
  match Owner.openPath path writeArgs host with
  | (.error error, host) => (.error error, host)
  | (.ok owner, host) =>
    let (result, host) := owner.handle.writeAll data host
    (attachPath path result, owner.drop host)

end WholeFile

end AsyncFiles
