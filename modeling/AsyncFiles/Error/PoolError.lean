import AsyncFiles.Error.Fault

namespace AsyncFiles.Error

inductive PoolError
  | shutDown
  | queueFull
  | spawn (fault : Fault)
  | noThreads
  deriving DecidableEq

namespace PoolError

def message : PoolError → String
  | .shutDown => "Thread pool has been shut down"
  | .queueFull => "Thread pool task queue is full"
  | .spawn fault => "Failed to spawn worker thread: " ++ fault.text
  | .noThreads => "Thread pool requires at least one worker thread"

def fault? : PoolError → Option Fault
  | .spawn fault => some fault
  | _ => none

end PoolError

end AsyncFiles.Error
