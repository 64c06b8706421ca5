import AsyncFiles.Time.FileTime

/-!
Date-times of the proleptic Gregorian calendar in UTC. Dates run from the first day of the year
-262143 to the last of 262142. A leap second is a 59th second with a thousand million nanoseconds
or more.
-/
namespace AsyncFiles.Time

structure CivilDate where
  year : Int
  month : Nat
  day : Nat
  deriving DecidableEq

namespace CivilDate

/-- The date so many days after 1970-01-01. Years begin in March here, so a leap day ends its
year. -/
def ofDays (days : Int) : CivilDate :=
  let shifted := days + 719468
  let era := shifted / 146097
  let dayOfEra := (shifted % 146097).toNat
  let yearOfEra := (dayOfEra - dayOfEra / 1460 + dayOfEra / 36524 - dayOfEra / 146096) / 365
  let dayOfYear := dayOfEra - (365 * yearOfEra + yearOfEra / 4 - yearOfEra / 100)
  let monthFromMarch := (5 * dayOfYear + 2) / 153
  let month := if monthFromMarch < 10 then monthFromMarch + 3 else monthFromMarch - 9
  let year := yearOfEra + era * 400
  { year := if month ≤ 2 then year + 1 else year
    month := month
    day := dayOfYear - (153 * monthFromMarch + 2) / 5 + 1 }

end CivilDate

structure DateTime where
  seconds : Int
  nanos : Nat
  deriving DecidableEq

namespace DateTime

def firstSecond : Int := -8334601228800

def lastSecond : Int := 8210266876799

def ofTimestamp? (seconds : Int) (nanos : Nat) : Option DateTime :=
  if firstSecond ≤ seconds ∧ seconds ≤ lastSecond ∧
      (nanos < 1000000000 ∨ nanos < 2000000000 ∧ seconds % 60 = 59) then some ⟨seconds, nanos⟩
  else none

def padded (width value : Nat) : String :=
  let digits := Nat.toDigits 10 value
  String.ofList (List.replicate (width - digits.length) '0' ++ digits)

/-- The written form of a date-time within the years 0 to 9999 and outside leap seconds. -/
def render (time : DateTime) : String :=
  let date := CivilDate.ofDays (time.seconds / 86400)
  let second := (time.seconds % 86400).toNat
  padded 4 date.year.toNat ++ "-" ++ padded 2 date.month ++ "-" ++ padded 2 date.day ++ "T" ++
    padded 2 (second / 3600) ++ ":" ++ padded 2 (second / 60 % 60) ++ ":" ++
    padded 2 (second % 60) ++ "." ++ padded 9 time.nanos ++ "Z"

end DateTime

namespace FileTime

def ofDateTime? (time : DateTime) : Option FileTime := ofUnixTimestamp? time.seconds time.nanos

def toDateTime? (time : FileTime) : Option DateTime :=
  DateTime.ofTimestamp? time.toUnixTimestamp.1 time.toUnixTimestamp.2

end FileTime

end AsyncFiles.Time
