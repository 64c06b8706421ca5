import AsyncFiles.Proofs.Time.Instants
import Mathlib.Algebra.Group.Nat.Defs

/-!
The conversions of file times, with every value between their first and their last step in a word of
the machine. No step leaves its word, so the results are those of unbounded numbers; and these are
exact in both directions.
-/
namespace AsyncFiles.Time

def signed? (bits : Nat) (value : Int) : Option Int :=
  if -2 ^ (bits - 1) ≤ value ∧ value < 2 ^ (bits - 1) then some value else none

def unsigned? (bits : Nat) (value : Int) : Option Int :=
  if 0 ≤ value ∧ value < 2 ^ bits then some value else none

theorem signed?_of_within {bits : Nat} {value : Int}
    (within : -2 ^ (bits - 1) ≤ value ∧ value < 2 ^ (bits - 1)) :
    signed? bits value = some value :=
  if_pos within

theorem unsigned?_of_within {bits : Nat} {value : Int} (within : 0 ≤ value ∧ value < 2 ^ bits) :
    unsigned? bits value = some value :=
  if_pos within

namespace Words

def nanosPerSecond : Int := 1000000000

def nanosPerTick : Int := nanosPerSecond / FileTime.ticksPerSecond

/-- The nanoseconds from 1970 to the epoch of files. -/
def epochNanos? : Option Int := signed? 128 (FileTime.unixEpochOffset * nanosPerSecond)

/-- The file time of a count of nanoseconds, if its ticks fit; nothing at all where a step does not
fit its word. So in all conversions below. -/
def ofUnixNanos? (nanos : Int) : Option (Option FileTime) := do
  let offset ← epochNanos?
  let since ← signed? 128 (nanos + offset)
  let ticks ← signed? 128 (since / nanosPerTick)
  return (signed? 64 ticks).map fun ticks => ⟨Int64.ofInt ticks⟩

def toUnixNanos? (time : FileTime) : Option Int := do
  let ticks ← signed? 128 (time.ticks.toInt * nanosPerTick)
  let offset ← epochNanos?
  signed? 128 (ticks - offset)

def ofUnixTimestamp? (seconds : Int64) (nanos : UInt32) : Option (Option FileTime) :=
  if nanosPerSecond ≤ nanos.toNat then some none
  else do
    let whole ← signed? 128 (seconds.toInt * nanosPerSecond)
    let sum ← signed? 128 (whole + nanos.toNat)
    ofUnixNanos? sum

def toUnixTimestamp? (time : FileTime) : Option (Int × Nat) := do
  let nanos ← toUnixNanos? time
  let seconds ← signed? 64 (nanos / nanosPerSecond)
  let rest ← unsigned? 32 (nanos % nanosPerSecond)
  return (seconds, rest.toNat)

/-- The nanoseconds of a span, counted without a sign from its seconds and what is left of it. -/
def spanNanos? (span : Nat) : Option Int := do
  let seconds ← unsigned? 64 (span / nanosPerSecond)
  let whole ← unsigned? 128 (seconds * nanosPerSecond)
  let nanos ← unsigned? 128 (whole + span % nanosPerSecond)
  signed? 128 nanos

def ofSystemTime? (time : SystemTime) : Option (Option FileTime) := do
  let distance ← spanNanos? time.distance
  let nanos ← if time.beforeEpoch then signed? 128 (-distance) else some distance
  ofUnixNanos? nanos

def toSystemTime? (time : FileTime) : Option (Option SystemTime) := do
  let (seconds, nanos) ← toUnixTimestamp? time
  if 0 ≤ seconds then
    let seconds ← unsigned? 64 seconds
    return SystemTime.unixEpoch.plus? seconds.toNat nanos
  else
    let seconds ← unsigned? 64 (-seconds)
    return (SystemTime.unixEpoch.minus? seconds.toNat 0).bind fun whole => whole.plus? 0 nanos

theorem nanosPerTick_eq : nanosPerTick = 1 := by decide

theorem epochNanos?_eq : epochNanos? = some 0 := by decide

theorem ofUnixNanos?_eq {nanos : Int} (within : -2 ^ 127 ≤ nanos ∧ nanos < 2 ^ 127) :
    ofUnixNanos? nanos = some (FileTime.ofUnixNanos? nanos) := by
  have ticks : (signed? 64 nanos).map (fun ticks => (⟨Int64.ofInt ticks⟩ : FileTime)) =
      FileTime.ofUnixNanos? nanos := by
    rw [FileTime.ofUnixNanos?_eq, signed?, apply_ite (Option.map _)]
    rfl
  simp only [ofUnixNanos?, epochNanos?_eq, nanosPerTick_eq, Int.add_zero, Int.ediv_one,
    @signed?_of_within 128 _ within, Option.bind_eq_bind, Option.bind_some, ticks]
  rfl

theorem toUnixNanos?_eq (time : FileTime) : toUnixNanos? time = some time.toUnixNanos := by
  have within := time.fits
  have fits : signed? 128 time.ticks.toInt = some time.ticks.toInt :=
    signed?_of_within (by simp only [Fits, FileTime.toUnixNanos] at within; omega)
  simp only [toUnixNanos?, nanosPerTick_eq, epochNanos?_eq, Int.mul_one, Int.sub_zero, fits,
    Option.bind_eq_bind, Option.bind_some]
  rfl

theorem toUnixTimestamp?_eq (time : FileTime) :
    toUnixTimestamp? time = some time.toUnixTimestamp := by
  obtain ⟨lowest, highest⟩ := time.fits
  have seconds : signed? 64 (time.toUnixNanos / nanosPerSecond) =
      some (time.toUnixNanos / nanosPerSecond) :=
    signed?_of_within (by simp only [nanosPerSecond]; omega)
  have rest : unsigned? 32 (time.toUnixNanos % nanosPerSecond) =
      some (time.toUnixNanos % nanosPerSecond) :=
    unsigned?_of_within (by simp only [nanosPerSecond]; omega)
  simp only [toUnixTimestamp?, toUnixNanos?_eq, seconds, rest, Option.bind_eq_bind,
    Option.bind_some]
  rfl

theorem ofUnixTimestamp?_eq (seconds : Int64) (nanos : UInt32) :
    ofUnixTimestamp? seconds nanos =
      some (FileTime.ofUnixTimestamp? seconds.toInt nanos.toNat) := by
  have lowest := seconds.le_toInt
  have highest := seconds.toInt_lt
  have few := nanos.toNat_lt
  have whole : signed? 128 (seconds.toInt * 1000000000) = some (seconds.toInt * 1000000000) :=
    signed?_of_within (by omega)
  have sum : signed? 128 (seconds.toInt * 1000000000 + nanos.toNat) =
      some (seconds.toInt * 1000000000 + nanos.toNat) :=
    signed?_of_within (by omega)
  rcases Nat.lt_or_ge nanos.toNat 1000000000 with within | beyond
  · have kept : ¬ (1000000000 : Int) ≤ nanos.toNat := by omega
    simp only [ofUnixTimestamp?, nanosPerSecond, kept, if_false, whole, sum, Option.bind_eq_bind,
      Option.bind_some]
    rw [ofUnixNanos?_eq (by omega), FileTime.ofUnixTimestamp?_of_lt within]
  · have refused : (1000000000 : Int) ≤ nanos.toNat := by omega
    rw [ofUnixTimestamp?, nanosPerSecond, if_pos refused,
      FileTime.ofUnixTimestamp?_of_le beyond]

theorem spanNanos?_eq {span : Nat} (short : span ≤ 2 ^ 63 * 1000000000) :
    spanNanos? span = some (span : Int) := by
  have seconds : unsigned? 64 (span / nanosPerSecond) = some (span / nanosPerSecond) :=
    unsigned?_of_within (by simp only [nanosPerSecond]; omega)
  have whole : unsigned? 128 (span / nanosPerSecond * nanosPerSecond) =
      some (span / nanosPerSecond * nanosPerSecond) :=
    unsigned?_of_within (by simp only [nanosPerSecond]; omega)
  have nanos : unsigned? 128 (span : Int) = some (span : Int) := unsigned?_of_within (by omega)
  -- Step by step: compared as a whole, the steps would be computed with a number that is not known.
  simp only [spanNanos?, Option.bind_eq_bind]
  rw [seconds, Option.bind_some, whole, Option.bind_some, Int.ediv_mul_add_emod, nanos,
    Option.bind_some]
  exact signed?_of_within (by omega)

theorem ofSystemTime?_eq (time : SystemTime) :
    ofSystemTime? time = some (FileTime.ofSystemTime? time) := by
  have lowest := time.seconds.le_toInt
  have highest := time.seconds.toInt_lt
  have few := time.nanos_lt
  have short : time.distance ≤ 2 ^ 63 * 1000000000 := by
    simp only [SystemTime.distance, SystemTime.toUnixNanos]
    omega
  have negated : signed? 128 (-time.distance) = some (-time.distance : Int) :=
    signed?_of_within (by omega)
  simp only [ofSystemTime?, spanNanos?_eq short, negated, FileTime.ofSystemTime?,
    Option.bind_eq_bind, Option.bind_some]
  split
  next before => exact ofUnixNanos?_eq (by omega)
  next after => exact ofUnixNanos?_eq (by omega)

theorem toSystemTime?_eq (time : FileTime) :
    toSystemTime? time = some time.toSystemTime? := by
  have sum := time.toUnixTimestamp_sum
  have few := time.toUnixTimestamp_lt
  obtain ⟨lowest, highest⟩ := time.fits
  simp only [toSystemTime?, toUnixTimestamp?_eq, FileTime.toSystemTime?, Option.bind_eq_bind,
    Option.bind_some]
  split
  next after =>
    have seconds : unsigned? 64 time.toUnixTimestamp.1 = some time.toUnixTimestamp.1 :=
      unsigned?_of_within (by omega)
    rw [seconds]
    rfl
  next before =>
    have seconds : unsigned? 64 (-time.toUnixTimestamp.1) = some (-time.toUnixTimestamp.1) :=
      unsigned?_of_within (by omega)
    have laid : (-time.toUnixTimestamp.1).toNat = time.toUnixTimestamp.1.natAbs := by omega
    rw [seconds, Option.bind_some, laid]
    rfl

end Words

open FileTime in
/-- Every file time has exactly one timestamp, is a clock time and a date-time, and comes back from
each of them. A timestamp, a count of nanoseconds, a clock time or a date-time is a file time if and
only if less than a second stands beside its seconds and its nanoseconds fit 64 bits; it then comes
back as it was. No step of a conversion leaves its word. Times are ordered as instants. -/
theorem conversions_exact :
    (∀ time : FileTime,
      (∀ seconds nanos, time.toUnixTimestamp = (seconds, nanos) ↔
        nanos < 1000000000 ∧ seconds * 1000000000 + nanos = time.ticks.toInt) ∧
      ofUnixTimestamp? time.toUnixTimestamp.1 time.toUnixTimestamp.2 = some time ∧
      ofUnixNanos? time.toUnixNanos = some time ∧
      (∃ system, time.toSystemTime? = some system ∧ ofSystemTime? system = some time) ∧
      ∃ date, time.toDateTime? = some date ∧ ofDateTime? date = some time) ∧
    (∀ seconds nanos, (ofUnixTimestamp? seconds nanos).map toUnixTimestamp =
      if nanos < 1000000000 ∧ Fits (seconds * 1000000000 + nanos) then some (seconds, nanos)
      else none) ∧
    (∀ nanos, (ofUnixNanos? nanos).map toUnixNanos = if Fits nanos then some nanos else none) ∧
    (∀ system, (ofSystemTime? system).map toSystemTime? =
      if Fits system.toUnixNanos then some (some system) else none) ∧
    (∀ date, (ofDateTime? date).map toDateTime? =
      if date.nanos < 1000000000 ∧ Fits (date.seconds * 1000000000 + date.nanos) then
        some (some date)
      else none) ∧
    (∀ time,
      Words.toUnixNanos? time = some time.toUnixNanos ∧
      Words.toUnixTimestamp? time = some time.toUnixTimestamp ∧
      Words.toSystemTime? time = some time.toSystemTime?) ∧
    (∀ seconds nanos,
      Words.ofUnixTimestamp? seconds nanos =
        some (ofUnixTimestamp? seconds.toInt nanos.toNat)) ∧
    (∀ nanos : BitVec 128, Words.ofUnixNanos? nanos.toInt = some (ofUnixNanos? nanos.toInt)) ∧
    (∀ system, Words.ofSystemTime? system = some (ofSystemTime? system)) ∧
    ∀ left right : FileTime,
      left < right ↔ Prod.Lex (· < ·) (· < ·) left.toUnixTimestamp right.toUnixTimestamp := by
  refine ⟨fun time => ⟨fun seconds nanos => toUnixTimestamp_eq_iff,
      time.ofUnixTimestamp?_toUnixTimestamp, time.ofUnixNanos?_toUnixNanos,
      time.exists_toSystemTime?, _, time.toDateTime?_eq, time.ofUnixTimestamp?_toUnixTimestamp⟩,
    fun seconds nanos => map_ofUnixTimestamp? fun _ same => same,
    fun nanos => map_ofUnixNanos? fun _ same => same,
    fun system => ?_,
    fun date => map_ofUnixTimestamp? fun _ same => toDateTime?_of_timestamp same,
    fun time =>
      ⟨Words.toUnixNanos?_eq time, Words.toUnixTimestamp?_eq time, Words.toSystemTime?_eq time⟩,
    Words.ofUnixTimestamp?_eq,
    fun nanos => Words.ofUnixNanos?_eq ⟨nanos.le_toInt, nanos.toInt_lt⟩,
    Words.ofSystemTime?_eq,
    fun left right => lt_iff_lex⟩
  rw [ofSystemTime?_eq]
  exact map_ofUnixNanos? fun time same => toSystemTime?_of_instant same

end AsyncFiles.Time
