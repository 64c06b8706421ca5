import AsyncFiles.Error.Errno

namespace AsyncFiles.Error

inductive Category
  | notFound
  | permissionDenied
  | alreadyExists
  | wouldBlock
  | invalidInput
  | invalidData
  | unexpectedEnd
  | unsupported
  | isDirectory
  | storageFull
  | readOnlyFilesystem
  | interrupted
  | fileTooLarge
  | other
  deriving DecidableEq

inductive Fault
  | os (errno : Errno)
  | reason (category : Category) (text : String)
  deriving DecidableEq

namespace Category

def ofErrno (errno : Errno) : Category :=
  if errno = .noEntry then .notFound
  else if errno = .notPermitted ∨ errno = .accessDenied then .permissionDenied
  else if errno = .alreadyExists then .alreadyExists
  else if errno = .tryAgain then .wouldBlock
  else if errno = .invalid then .invalidInput
  else if errno = .notImplemented ∨ errno = .notSupported then .unsupported
  else if errno = .isDirectory then .isDirectory
  else if errno = .noSpace then .storageFull
  else if errno = .readOnly then .readOnlyFilesystem
  else if errno = .interrupted then .interrupted
  else if errno = .tooLarge then .fileTooLarge
  else .other

end Category

namespace Fault

def category : Fault → Category
  | .os errno => .ofErrno errno
  | .reason category _ => category

def errno? : Fault → Option Errno
  | .os errno => some errno
  | .reason _ _ => none

def text : Fault → String
  | .os errno => errno.text ++ " (os error " ++ toString errno.code ++ ")"
  | .reason _ text => text

end Fault

end AsyncFiles.Error
