import AsyncFiles.Time.FileTime

/-!
Moments as a host takes and stores them: seconds from 1970, rounded down, and nanoseconds. In a
request two values of the nanoseconds are markers: leave the field, or set it to the present.
-/
namespace AsyncFiles.Time

structure Stamp where
  seconds : Int64
  nanos : Int
  deriving DecidableEq, Inhabited

namespace Stamp

def leaveNanos : Int := 1073741822

def presentNanos : Int := 1073741823

def leave : Stamp := ⟨0, leaveNanos⟩

/-- What a field holds after a request; nanoseconds outside a second are refused. -/
def applied? (requested present previous : Stamp) : Option Stamp :=
  if requested.nanos = leaveNanos then some previous
  else if requested.nanos = presentNanos then some present
  else if 0 ≤ requested.nanos ∧ requested.nanos < 1000000000 then some requested
  else none

end Stamp

namespace FileTime

def toStamp (time : FileTime) : Stamp :=
  ⟨Int64.ofInt time.toUnixTimestamp.1, time.toUnixTimestamp.2⟩

def ofStamp? (stamp : Stamp) : Option FileTime :=
  ofUnixTimestamp? stamp.seconds.toInt (max 0 (min stamp.nanos 999999999)).toNat

end FileTime

end AsyncFiles.Time
