import AsyncFiles.Time.FileTime

namespace AsyncFiles.Time

structure FileTimes where
  creation : Option FileTime := none
  lastAccess : Option FileTime := none
  lastWrite : Option FileTime := none
  deriving DecidableEq, Inhabited

namespace FileTimes

def withCreation (times : FileTimes) (time : FileTime) : FileTimes :=
  { times with creation := some time }

def withLastAccess (times : FileTimes) (time : FileTime) : FileTimes :=
  { times with lastAccess := some time }

def withLastWrite (times : FileTimes) (time : FileTime) : FileTimes :=
  { times with lastWrite := some time }

def isEmpty (times : FileTimes) : Bool :=
  times.creation.isNone && times.lastAccess.isNone && times.lastWrite.isNone

def describeField : Option FileTime → String
  | none => "None"
  | some time => "Some(" ++ time.describe ++ ")"

def describe (times : FileTimes) : String :=
  "FileTimes \x7b creation: " ++ describeField times.creation ++ ", last_access: " ++
    describeField times.lastAccess ++ ", last_write: " ++ describeField times.lastWrite ++ " \x7d"

end FileTimes

end AsyncFiles.Time
