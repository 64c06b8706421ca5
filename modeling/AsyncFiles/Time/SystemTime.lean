import AsyncFiles.Time.FileTime

/-!
The host's clock time: whole seconds from 1970 in 64 bits and the nanoseconds above them. A span is
added or taken away only when the result still fits.
-/
namespace AsyncFiles.Time

structure SystemTime where
  seconds : Int64
  nanos : Nat
  nanos_lt : nanos < 1000000000
  deriving DecidableEq

namespace SystemTime

def unixEpoch : SystemTime := ⟨0, 0, by decide⟩

def toUnixNanos (time : SystemTime) : Int := time.seconds.toInt * 1000000000 + time.nanos

def ofUnixNanos? (nanos : Int) : Option SystemTime :=
  if Int64.minValue.toInt ≤ nanos / 1000000000 ∧ nanos / 1000000000 ≤ Int64.maxValue.toInt then
    some ⟨Int64.ofInt (nanos / 1000000000), (nanos % 1000000000).toNat, by omega⟩
  else none

def plus? (time : SystemTime) (seconds nanos : Nat) : Option SystemTime :=
  ofUnixNanos? (time.toUnixNanos + (seconds * 1000000000 + nanos))

def minus? (time : SystemTime) (seconds nanos : Nat) : Option SystemTime :=
  ofUnixNanos? (time.toUnixNanos - (seconds * 1000000000 + nanos))

def beforeEpoch (time : SystemTime) : Bool := time.toUnixNanos < 0

def distance (time : SystemTime) : Nat := time.toUnixNanos.natAbs

end SystemTime

namespace FileTime

def ofSystemTime? (time : SystemTime) : Option FileTime :=
  ofUnixNanos? (if time.beforeEpoch then -(time.distance : Int) else time.distance)

def toSystemTime? (time : FileTime) : Option SystemTime :=
  let (seconds, nanos) := time.toUnixTimestamp
  if 0 ≤ seconds then SystemTime.unixEpoch.plus? seconds.toNat nanos
  else (SystemTime.unixEpoch.minus? seconds.natAbs 0).bind fun whole => whole.plus? 0 nanos

end FileTime

end AsyncFiles.Time
