import AsyncFiles.Error.PoolError

/-!
Why a worker pool is not started. Either the host or the pool refuses, which the caller can handle,
or the settings are such that no pool can have them, which ends whatever the caller was doing.
-/
namespace AsyncFiles.Error

inductive Misuse
  /-- No number of positions is left to tell a full queue from an empty one. -/
  | queueTooLarge
  /-- The queue or the list of workers does not fit into memory of any size. -/
  | outOfRoom
  | nulInName (name : String)
  deriving DecidableEq

namespace Misuse

def listOctets (octets : List UInt8) : String :=
  "[" ++ ", ".intercalate (octets.map fun octet => toString octet.toNat) ++ "]"

def message : Misuse → String
  | .queueTooLarge => "bounded channel capacity is too large"
  | .outOfRoom => "capacity overflow"
  | .nulInName name =>
    let octets := name.toUTF8.toList
    "thread name may not contain interior null bytes: NulError(" ++ toString (octets.idxOf 0) ++
      ", " ++ listOctets octets ++ ")"

end Misuse

inductive StartError
  | refused (error : PoolError)
  | misused (misuse : Misuse)
  deriving DecidableEq

end AsyncFiles.Error
