/-!
Moments as a file records them: nanoseconds from 1970-01-01 00:00 UTC in 64 bits. Conversions are
exact and refuse what does not fit; seconds are rounded down, so the rest is never negative.
-/
namespace AsyncFiles.Time

structure FileTime where
  ticks : Int64
  deriving DecidableEq, Inhabited

namespace FileTime

def ticksPerSecond : Int := 1000000000

/-- Seconds between the epoch of files and 1970. -/
def unixEpochOffset : Int := 0

def epoch : FileTime := ⟨0⟩

def ofUnixNanos? (nanos : Int) : Option FileTime :=
  if Int64.minValue.toInt ≤ nanos ∧ nanos ≤ Int64.maxValue.toInt then some ⟨Int64.ofInt nanos⟩
  else none

def toUnixNanos (time : FileTime) : Int := time.ticks.toInt

def ofUnixTimestamp? (seconds : Int) (nanos : Nat) : Option FileTime :=
  if ticksPerSecond ≤ nanos then none else ofUnixNanos? (seconds * ticksPerSecond + nanos)

/-- Whole seconds, rounded down, and the nanoseconds above them. -/
def toUnixTimestamp (time : FileTime) : Int × Nat :=
  (time.toUnixNanos / ticksPerSecond, (time.toUnixNanos % ticksPerSecond).toNat)

instance : LT FileTime := ⟨fun left right => left.ticks < right.ticks⟩

instance (left right : FileTime) : Decidable (left < right) :=
  inferInstanceAs (Decidable (left.ticks < right.ticks))

def compare (left right : FileTime) : Ordering :=
  if left < right then .lt else if right < left then .gt else .eq

def describe (time : FileTime) : String :=
  "FileTime \x7b ticks: " ++ toString time.ticks.toInt ++ " \x7d"

end FileTime

end AsyncFiles.Time
