import AsyncFiles.Error.StartError
import AsyncFiles.Text.Quoted

namespace AsyncFiles

open Error

structure PoolConfig where
  threads : Nat := 1
  name : String := "filament-io"
  stackSize : Option Nat := none
  queueCapacity : Option Nat := none
  deriving DecidableEq, Inhabited

namespace PoolConfig

def withThreads (threads : Nat) : PoolConfig := { threads }

def describeOption : Option Nat → String
  | none => "None"
  | some value => "Some(" ++ toString value ++ ")"

def describe (config : PoolConfig) : String :=
  "ThreadPoolConfig \x7b num_threads: " ++ toString config.threads ++ ", thread_name: " ++
    Text.Quoted.quote config.name ++ ", stack_size: " ++ describeOption config.stackSize ++
    ", queue_capacity: " ++ describeOption config.queueCapacity ++ " \x7d"

def describeForService (config : PoolConfig) : String :=
  "FileServiceConfig \x7b pool: " ++ config.describe ++ " \x7d"

def describePoolBuilder (config : PoolConfig) : String :=
  "ThreadPoolBuilder \x7b config: " ++ config.describe ++ " \x7d"

def describeServiceBuilder (config : PoolConfig) : String :=
  "FileServiceBuilder \x7b config: " ++ config.describeForService ++ " \x7d"

def workerName (config : PoolConfig) (worker : Nat) : String :=
  config.name ++ "-" ++ toString worker

/-- Positions in a queue are told apart by a power of two above its capacity, twice over. -/
def capacityLimit : Nat := 1 <<< 62

/-- A place in a queue or in the list of workers takes 24 bytes; more of them have no size. -/
def roomLimit : Nat := (1 <<< 63 - 1) / 24

def misuse? (config : PoolConfig) : Option Misuse :=
  let capacity := config.queueCapacity.getD 0
  if capacityLimit ≤ capacity then some .queueTooLarge
  else if roomLimit < capacity || roomLimit < config.threads then some .outOfRoom
  else if config.name.contains '\x00' then some (.nulInName (config.workerName 0))
  else none

/-- A stack comes with a guard page, and both together have a length in 64 bits. -/
def guardSize : Nat := 4096

def stackLimit : Nat := 1 <<< 36

def workerLimit : Nat := 1 <<< 15

def refusal? (config : PoolConfig) : Option Errno :=
  let stackSize := config.stackSize.getD 0
  if 1 <<< 64 - guardSize ≤ stackSize then some .invalid
  else if stackLimit ≤ stackSize || workerLimit ≤ config.threads then some .tryAgain
  else none

end PoolConfig

end AsyncFiles
