import AsyncFiles.Time.DateTime
import AsyncFiles.Time.SystemTime
import Mathlib.Algebra.Group.Int.Defs

namespace AsyncFiles.Time

def Fits (nanos : Int) : Prop := -2 ^ 63 ≤ nanos ∧ nanos < 2 ^ 63

instance (nanos : Int) : Decidable (Fits nanos) := inferInstanceAs (Decidable (_ ∧ _))

namespace FileTime

variable {time : FileTime} {nanos : Int}

theorem fits (time : FileTime) : Fits time.toUnixNanos :=
  ⟨time.ticks.le_toInt, time.ticks.toInt_lt⟩

theorem toUnixNanos_inj {left right : FileTime} :
    left.toUnixNanos = right.toUnixNanos ↔ left = right := by
  cases left
  cases right
  simp only [toUnixNanos, Int64.toInt_inj, mk.injEq]

theorem ofUnixNanos?_eq (nanos : Int) :
    ofUnixNanos? nanos = if Fits nanos then some ⟨Int64.ofInt nanos⟩ else none := by
  have bounds : Int64.minValue.toInt ≤ nanos ∧ nanos ≤ Int64.maxValue.toInt ↔ Fits nanos := by
    rw [Int64.toInt_minValue, Int64.toInt_maxValue, Fits]
    omega
  simp only [ofUnixNanos?, bounds]

theorem ofUnixNanos?_eq_some_iff : ofUnixNanos? nanos = some time ↔ time.toUnixNanos = nanos := by
  rw [ofUnixNanos?_eq]
  split
  next within =>
    have counted : (⟨Int64.ofInt nanos⟩ : FileTime).toUnixNanos = nanos :=
      Int64.toInt_ofInt_of_le within.1 within.2
    rw [Option.some_inj, ← toUnixNanos_inj, counted, eq_comm]
  next beyond =>
    refine iff_of_false nofun fun same => beyond ?_
    rw [← same]
    exact time.fits

theorem ofUnixNanos?_toUnixNanos (time : FileTime) : ofUnixNanos? time.toUnixNanos = some time :=
  ofUnixNanos?_eq_some_iff.mpr rfl

theorem map_ofUnixNanos? {α : Type} {back : FileTime → α} {value : α}
    (returns : ∀ time : FileTime, time.toUnixNanos = nanos → back time = value) :
    (ofUnixNanos? nanos).map back = if Fits nanos then some value else none := by
  cases taken : ofUnixNanos? nanos with
  | none =>
    have beyond : ¬ Fits nanos := by
      intro within
      simp [ofUnixNanos?_eq, within] at taken
    rw [if_neg beyond, Option.map_none]
  | some time =>
    have counted := ofUnixNanos?_eq_some_iff.mp taken
    rw [if_pos (counted ▸ time.fits), Option.map_some, returns time counted]

theorem toUnixTimestamp_eq_iff {seconds : Int} {rest : Nat} :
    time.toUnixTimestamp = (seconds, rest) ↔
      rest < 1000000000 ∧ seconds * 1000000000 + rest = time.toUnixNanos := by
  simp only [toUnixTimestamp, ticksPerSecond, Prod.mk.injEq]
  omega

theorem toUnixTimestamp_lt (time : FileTime) : time.toUnixTimestamp.2 < 1000000000 :=
  (toUnixTimestamp_eq_iff.mp rfl).1

theorem toUnixTimestamp_sum (time : FileTime) :
    time.toUnixTimestamp.1 * 1000000000 + time.toUnixTimestamp.2 = time.toUnixNanos :=
  (toUnixTimestamp_eq_iff.mp rfl).2

theorem ofUnixTimestamp?_of_lt {rest : Nat} (within : rest < 1000000000) (seconds : Int) :
    ofUnixTimestamp? seconds rest = ofUnixNanos? (seconds * 1000000000 + rest) := by
  have kept : ¬ ticksPerSecond ≤ rest := by
    simp only [ticksPerSecond]
    omega
  rw [ofUnixTimestamp?, if_neg kept, ticksPerSecond]

theorem ofUnixTimestamp?_of_le {rest : Nat} (beyond : 1000000000 ≤ rest) (seconds : Int) :
    ofUnixTimestamp? seconds rest = none := by
  have refused : ticksPerSecond ≤ rest := by
    simp only [ticksPerSecond]
    omega
  rw [ofUnixTimestamp?, if_pos refused]

theorem ofUnixTimestamp?_toUnixTimestamp (time : FileTime) :
    ofUnixTimestamp? time.toUnixTimestamp.1 time.toUnixTimestamp.2 = some time := by
  rw [ofUnixTimestamp?_of_lt time.toUnixTimestamp_lt, time.toUnixTimestamp_sum]
  exact time.ofUnixNanos?_toUnixNanos

theorem map_ofUnixTimestamp? {α : Type} {back : FileTime → α} {value : α} {seconds : Int}
    {rest : Nat} (returns : ∀ time : FileTime, time.toUnixTimestamp = (seconds, rest) →
      back time = value) :
    (ofUnixTimestamp? seconds rest).map back =
      if rest < 1000000000 ∧ Fits (seconds * 1000000000 + rest) then some value else none := by
  rcases Nat.lt_or_ge rest 1000000000 with within | beyond
  · rw [ofUnixTimestamp?_of_lt within, map_ofUnixNanos? fun time counted =>
      returns time (toUnixTimestamp_eq_iff.mpr ⟨within, counted.symm⟩)]
    simp only [within, true_and]
  · rw [ofUnixTimestamp?_of_le beyond, if_neg (by omega), Option.map_none]

end FileTime

namespace SystemTime

variable {time : SystemTime} {nanos : Int}

theorem toUnixNanos_inj {left right : SystemTime} :
    left.toUnixNanos = right.toUnixNanos ↔ left = right := by
  refine ⟨fun same => ?_, congrArg toUnixNanos⟩
  obtain ⟨seconds, rest, within⟩ := left
  obtain ⟨others, more, also⟩ := right
  simp only [toUnixNanos] at same
  simp only [mk.injEq, ← Int64.toInt_inj]
  omega

theorem ofUnixNanos?_eq_some_iff : ofUnixNanos? nanos = some time ↔ time.toUnixNanos = nanos := by
  have lowest := time.seconds.le_toInt
  have highest := time.seconds.toInt_lt
  have rest := time.nanos_lt
  simp only [ofUnixNanos?, Int64.toInt_minValue, Int64.toInt_maxValue]
  split
  next within =>
    have seconds : (Int64.ofInt (nanos / 1000000000)).toInt = nanos / 1000000000 :=
      Int64.toInt_ofInt_of_le within.1 (by omega)
    rw [Option.some_inj, ← toUnixNanos_inj]
    simp only [toUnixNanos, seconds]
    omega
  next beyond =>
    refine iff_of_false nofun fun same => beyond ?_
    simp only [toUnixNanos] at same
    omega

/-- The host's clock reaches much further than the times of files: its seconds alone have 64
bits. -/
theorem exists_ofUnixNanos? (lowest : -2 ^ 63 ≤ nanos / 1000000000)
    (highest : nanos / 1000000000 < 2 ^ 63) : ∃ time, ofUnixNanos? nanos = some time := by
  have bounds : Int64.minValue.toInt ≤ nanos / 1000000000 ∧
      nanos / 1000000000 ≤ Int64.maxValue.toInt := by
    rw [Int64.toInt_minValue, Int64.toInt_maxValue]
    omega
  exact ⟨_, if_pos bounds⟩

theorem toUnixNanos_unixEpoch : unixEpoch.toUnixNanos = 0 := by decide

end SystemTime

namespace FileTime

theorem ofSystemTime?_eq (time : SystemTime) :
    ofSystemTime? time = ofUnixNanos? time.toUnixNanos := by
  have distance : (if time.beforeEpoch then -(time.distance : Int) else time.distance) =
      time.toUnixNanos := by
    simp only [SystemTime.beforeEpoch, SystemTime.distance, decide_eq_true_eq]
    omega
  rw [ofSystemTime?, distance]

/-- The seconds are laid off from 1970 first, and the rest is added to them: before 1970 too the
result is the instant itself. -/
theorem toSystemTime?_eq (time : FileTime) :
    time.toSystemTime? = SystemTime.ofUnixNanos? time.toUnixNanos := by
  have sum := time.toUnixTimestamp_sum
  have rest := time.toUnixTimestamp_lt
  obtain ⟨lowest, highest⟩ := time.fits
  simp only [toSystemTime?, SystemTime.plus?, SystemTime.minus?, SystemTime.toUnixNanos_unixEpoch]
  split
  next after =>
    have laid : (time.toUnixTimestamp.1.toNat : Int) = time.toUnixTimestamp.1 :=
      Int.toNat_of_nonneg after
    rw [laid, sum, Int.zero_add]
  next before =>
    have laid : (0 : Int) - ((time.toUnixTimestamp.1.natAbs : Int) * 1000000000 + (0 : Nat)) =
        time.toUnixTimestamp.1 * 1000000000 := by omega
    -- The whole seconds may lie before every file time, but never before the clock.
    obtain ⟨whole, taken⟩ :=
      @SystemTime.exists_ofUnixNanos? (time.toUnixTimestamp.1 * 1000000000) (by omega) (by omega)
    rw [laid, taken, Option.bind_some, SystemTime.ofUnixNanos?_eq_some_iff.mp taken, ← sum]
    simp

theorem exists_toSystemTime? (time : FileTime) :
    ∃ system, time.toSystemTime? = some system ∧ ofSystemTime? system = some time := by
  obtain ⟨lowest, highest⟩ := time.fits
  obtain ⟨system, taken⟩ :=
    @SystemTime.exists_ofUnixNanos? time.toUnixNanos (by omega) (by omega)
  refine ⟨system, time.toSystemTime?_eq.trans taken, ?_⟩
  rw [ofSystemTime?_eq, SystemTime.ofUnixNanos?_eq_some_iff.mp taken]
  exact time.ofUnixNanos?_toUnixNanos

theorem toSystemTime?_of_instant {time : FileTime} {system : SystemTime}
    (same : time.toUnixNanos = system.toUnixNanos) : time.toSystemTime? = some system := by
  rw [toSystemTime?_eq, same]
  exact SystemTime.ofUnixNanos?_eq_some_iff.mpr rfl

theorem toDateTime?_eq (time : FileTime) :
    time.toDateTime? = some ⟨time.toUnixTimestamp.1, time.toUnixTimestamp.2⟩ := by
  have sum := time.toUnixTimestamp_sum
  have rest := time.toUnixTimestamp_lt
  obtain ⟨lowest, highest⟩ := time.fits
  have dated : DateTime.firstSecond ≤ time.toUnixTimestamp.1 ∧
      time.toUnixTimestamp.1 ≤ DateTime.lastSecond := by
    simp only [DateTime.firstSecond, DateTime.lastSecond]
    omega
  rw [toDateTime?, DateTime.ofTimestamp?, if_pos ⟨dated.1, dated.2, .inl rest⟩]

theorem toDateTime?_of_timestamp {time : FileTime} {date : DateTime}
    (same : time.toUnixTimestamp = (date.seconds, date.nanos)) :
    time.toDateTime? = some date := by
  rw [toDateTime?_eq, same]

theorem lt_iff {left right : FileTime} : left < right ↔ left.toUnixNanos < right.toUnixNanos :=
  Int64.lt_iff_toInt_lt

theorem lt_iff_lex {left right : FileTime} :
    left < right ↔ Prod.Lex (· < ·) (· < ·) left.toUnixTimestamp right.toUnixTimestamp := by
  have first := left.toUnixTimestamp_sum
  have second := right.toUnixTimestamp_sum
  have within := left.toUnixTimestamp_lt
  have also := right.toUnixTimestamp_lt
  rw [lt_iff, Prod.lex_def]
  omega

end FileTime

end AsyncFiles.Time
