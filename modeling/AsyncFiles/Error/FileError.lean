import AsyncFiles.Error.PoolError
import AsyncFiles.Path

namespace AsyncFiles.Error

inductive ErrorKind
  | notFound
  | permissionDenied
  | alreadyExists
  | invalidArgument
  | alreadyOpen
  | badDescriptor
  | endOfFile
  | operationAborted
  | messageSize
  | unsupported
  | isDirectory
  | noSpace
  | readOnly
  | interrupted
  | other
  deriving DecidableEq

namespace ErrorKind

def text : ErrorKind → String
  | .notFound => "file not found"
  | .permissionDenied => "permission denied"
  | .alreadyExists => "file already exists"
  | .invalidArgument => "invalid argument"
  | .alreadyOpen => "already open"
  | .badDescriptor => "bad file descriptor"
  | .endOfFile => "end of file"
  | .operationAborted => "operation aborted"
  | .messageSize => "message too long"
  | .unsupported => "operation not supported"
  | .isDirectory => "is a directory"
  | .noSpace => "no space left on device"
  | .readOnly => "read-only filesystem"
  | .interrupted => "operation interrupted"
  | .other => "file error"

def ofCategory : Category → ErrorKind
  | .notFound => .notFound
  | .permissionDenied => .permissionDenied
  | .alreadyExists => .alreadyExists
  | .invalidInput => .invalidArgument
  | .unexpectedEnd => .endOfFile
  | .unsupported => .unsupported
  | .isDirectory => .isDirectory
  | .storageFull => .noSpace
  | .readOnlyFilesystem => .readOnly
  | .interrupted => .interrupted
  | .fileTooLarge => .messageSize
  | .wouldBlock | .invalidData | .other => .other

/-- Error numbers whose meaning for files is sharper than their category. -/
def ofErrno? (errno : Errno) : Option ErrorKind :=
  if errno = .badDescriptor then some .badDescriptor
  else if errno = .invalid then some .invalidArgument
  else if errno = .canceled then some .operationAborted
  else if errno = .messageSize ∨ errno = .tooLarge then some .messageSize
  else if errno = .isDirectory then some .isDirectory
  else none

def ofFault (fault : Fault) : ErrorKind :=
  (fault.errno?.bind ofErrno?).getD (ofCategory fault.category)

end ErrorKind

structure FileError where
  kind : ErrorKind
  path : Option Path := none
  fault : Option Fault := none
  deriving DecidableEq

namespace FileError

def ofKind (kind : ErrorKind) : FileError := { kind }

def ofFault (fault : Fault) : FileError := { kind := .ofFault fault, fault := some fault }

def ofErrno (errno : Errno) : FileError := ofFault (.os errno)

def withPath (error : FileError) (path : Path) : FileError :=
  match error.path with
  | none => { error with path := some path }
  | some _ => error

def invalidArgument (reason : String) : FileError :=
  { kind := .invalidArgument, fault := some (.reason .invalidInput reason) }

def aborted : FileError := ofKind .operationAborted

def endOfFile : FileError := ofKind .endOfFile

def badDescriptor : FileError := ofKind .badDescriptor

def alreadyOpen : FileError := ofKind .alreadyOpen

def ofPool : PoolError → FileError
  | .spawn fault => ofFault fault
  | .noThreads => invalidArgument "the file service needs at least one worker thread"
  | .shutDown => aborted
  | .queueFull => { kind := .other, fault := some (.reason .wouldBlock "worker queue is full") }

def errno? (error : FileError) : Option Errno := error.fault.bind Fault.errno?

def isNotFound (error : FileError) : Bool := error.kind = .notFound

def isEndOfFile (error : FileError) : Bool := error.kind = .endOfFile

def isAborted (error : FileError) : Bool := error.kind = .operationAborted

def message (error : FileError) : String :=
  error.kind.text ++
    match error.path with
    | none => ""
    | some path => ": " ++ path.display

end FileError

end AsyncFiles.Error
