import AsyncFiles.Script.Command

namespace AsyncFiles.Script

open Access Error Host Time

inductive Value
  | nothing
  | number (value : Nat)
  | bytes (data : Bytes)
  | text (text : String)
  | times (times : FileTimes)
  | config (config : PoolConfig)

structure RegistrySummary where
  size : Nat
  isEmpty : Bool
  openCount : Nat
  table : String
  tableAgain : String
  compact : String

inductive Reply
  | nothing
  | flag (value : Bool)
  | flags (first second : Bool)
  | number (value : Nat)
  | text (text : String)
  | texts (first second : String)
  | result (result : Except FileError Value)
  | transferred (result : Except FileError Nat) (buffers : List Bytes)
  | filled (result : Except FileError Unit) (buffer : Bytes)
  | contextState (outstanding : Nat) (stopped inside : Bool) (text : String)
  | guardReset (before after : Bool) (text : String)
  | copyClosed (result : Except FileError Unit) (copyOpen ownerOpen : Bool)
  | registry (summary : RegistrySummary)
  | closing (shutDown : Bool) (openCount : Nat)
  | panicked (text : String)
  | stuck

inductive Entry
  | called (handler : Name) (completion : Option Completion)
  | answered (handler : Name) (reply : Reply)

namespace Reply

def ofUnit (result : Except FileError Unit) : Reply := .result (result.map fun _ => .nothing)

def ofNumber (result : Except FileError Nat) : Reply := .result (result.map .number)

end Reply

end AsyncFiles.Script
