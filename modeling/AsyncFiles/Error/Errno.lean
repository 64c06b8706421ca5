namespace AsyncFiles.Error

structure Errno where
  code : Int
  deriving DecidableEq, Inhabited

namespace Errno

def notPermitted : Errno := ⟨1⟩
def noEntry : Errno := ⟨2⟩
def interrupted : Errno := ⟨4⟩
def badDescriptor : Errno := ⟨9⟩
def tryAgain : Errno := ⟨11⟩
def accessDenied : Errno := ⟨13⟩
def alreadyExists : Errno := ⟨17⟩
def notDirectory : Errno := ⟨20⟩
def isDirectory : Errno := ⟨21⟩
def invalid : Errno := ⟨22⟩
def tooLarge : Errno := ⟨27⟩
def noSpace : Errno := ⟨28⟩
def noSeek : Errno := ⟨29⟩
def readOnly : Errno := ⟨30⟩
def brokenPipe : Errno := ⟨32⟩
def nameTooLong : Errno := ⟨36⟩
def notImplemented : Errno := ⟨38⟩
def messageSize : Errno := ⟨90⟩
def notSupported : Errno := ⟨95⟩
def canceled : Errno := ⟨125⟩

def texts : List (Errno × String) :=
  [(notPermitted, "Operation not permitted"), (noEntry, "No such file or directory"),
    (interrupted, "Interrupted system call"), (badDescriptor, "Bad file descriptor"),
    (tryAgain, "Resource temporarily unavailable"), (accessDenied, "Permission denied"),
    (alreadyExists, "File exists"), (notDirectory, "Not a directory"),
    (isDirectory, "Is a directory"), (invalid, "Invalid argument"), (tooLarge, "File too large"),
    (noSpace, "No space left on device"), (noSeek, "Illegal seek"),
    (readOnly, "Read-only file system"), (brokenPipe, "Broken pipe"),
    (nameTooLong, "File name too long"), (notImplemented, "Function not implemented"),
    (messageSize, "Message too long"), (notSupported, "Operation not supported"),
    (canceled, "Operation canceled")]

def text (errno : Errno) : String :=
  match texts.find? fun entry => entry.1 == errno with
  | some entry => entry.2
  | none => "Unknown error " ++ toString errno.code

end Errno

end AsyncFiles.Error
